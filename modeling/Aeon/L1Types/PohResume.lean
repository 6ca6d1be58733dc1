import Aeon.L1Types.PohRun

/-!
# Resuming a chain from a state that was sent

`PohChainInstallerImpl::install` (`crates/aeon-engine/src/partition_install.rs`): `verify_state`
compares the leaf count with the sequence and does not look at the node list.

* `resumes_iff`: the chain can go on for `n` entries iff the list has the nodes of the forest and no
  counter runs over;
* `unsound_accepted`: accepted states on which `root` and `append` panic.
-/
namespace Aeon.Crypto.PohResume

open List Option Aeon.Core Aeon.Types Aeon.Crypto.PohRun

structure WireState extends PohChainState where
  sequence_lt : sequence < 2 ^ 64
  leafCount_lt : mmr.leafCount < 2 ^ 64

structure Sound (H : Bytes → Hash512) (partition : PartitionId) (c : PohChain) : Prop where
  peaks : c.mmr.checkedPeaks.isSome
  root : (c.mmr.root H).isSome
  accepted : verifyState H c.exportState partition = .ok ()

def Resumes (H : Bytes → Hash512) (partition : PartitionId) (s : PohChainState) (maxRecent : Nat)
    (ls : List Lbl) :
    Prop :=
  ∀ ls', ls' <+: ls → ∃ c, LTS.exec (step H) (.fromState H s maxRecent) ls' = some c ∧ Sound H partition c

lemma verifyState_eq_ok_iff {partition : PartitionId} (hf : s.mmr.leafCount < 2 ^ 64) :
    verifyState H s partition = .ok () ↔ s.partition = partition ∧
      (s.sequence = 0 ↔ s.currentHash = computeGenesis H partition) ∧ s.mmr.leafCount ≤ s.sequence := by
  have hp := MerkleMountainRange.length_peaks hf; rw [verifyState]; grind

section Counters

variable {H : Bytes → Hash512} {c c' : PohChain} {l : Lbl} {ls : List Lbl}

lemma counters_of_step (h : step H c l = some c') (hs : c.sequence < 2 ^ 64) :
    c'.sequence = c.sequence + [l].countP Lbl.appends ∧
      c'.mmr.leafCount = c.mmr.leafCount + [l].countP Lbl.appends ∧ c'.sequence < 2 ^ 64 := by
  cases hl : l.isTransfer with
  | true =>
    cases l with
    | transfer => cases h; exact ⟨rfl, rfl, hs⟩
    | _ => cases hl
  | false =>
    have hap := isSome_added (H := H) l
    cases ha : l.added H with
    | none => simp_all [step_of_added_eq_none ha hl, fits_eq_some_iff, ← hap]
    | some =>
      rw [step_of_added ha] at h; obtain ⟨mmr, hm, h⟩ := bind_eq_some_iff.mp h
      obtain ⟨hf, rfl⟩ := fits_eq_some_iff.mp h; rw [ha] at hap
      have hle := MerkleMountainRange.leafCount_append hm
      simp only [countP_singleton, ← hap]; exact ⟨rfl, hle, hf.1⟩

lemma countP_appends_cons (l : Lbl) (ls : List Lbl) :
    (l :: ls).countP Lbl.appends = [l].countP Lbl.appends + ls.countP Lbl.appends := by grind

lemma counters_of_exec (h : LTS.exec (step H) c ls = some c') (hs : c.sequence < 2 ^ 64) :
    c'.sequence = c.sequence + ls.countP Lbl.appends ∧
      c'.mmr.leafCount = c.mmr.leafCount + ls.countP Lbl.appends ∧ c'.sequence < 2 ^ 64 := by
  induction ls generalizing c with
  | nil => cases h; exact ⟨rfl, rfl, hs⟩
  | cons =>
    obtain ⟨t, ht, hr⟩ := bind_eq_some_iff.mp h
    obtain ⟨hs₁, hl₁, hlt⟩ := counters_of_step ht hs; grind

end Counters

structure Ready (H : Bytes → Hash512) (partition : PartitionId) (c : PohChain) : Prop where
  samePartition : c.partition = partition
  leaves : c.mmr.leafCount ≤ c.sequence
  nodes : forestSize c.mmr.leafCount ≤ c.mmr.nodes.length
  genesis : c.sequence = 0 ↔ c.currentHash = computeGenesis H partition

section Ready

variable {H : Bytes → Hash512} {partition : PartitionId} {c : PohChain} {l : Lbl} {ls : List Lbl}

lemma Ready.sound (h : Ready H partition c) (hl : c.mmr.leafCount < 2 ^ 63) : Sound H partition c where
  peaks := by rw [MerkleMountainRange.checkedPeaks_eq hl]; rfl
  root := MerkleMountainRange.isSome_root_iff.mpr ⟨hl, h.nodes⟩
  accepted := (verifyState_eq_ok_iff (show c.exportState.mmr.leafCount < 2 ^ 64 from by
    simp only [PohChain.exportState]; omega)).mpr ⟨h.samePartition, h.genesis, h.leaves⟩

lemma Ready.step (h : Ready H partition c)
    (hf : added H [l] ≠ [] → chainHash H c.currentHash (added H [l]) ≠ computeGenesis H partition)
    (hr : c.sequence + [l].countP Lbl.appends < 2 ^ 64) :
    ∃ c', PohRun.step H c l = some c' ∧ Ready H partition c' ∧
      c'.currentHash = chainHash H c.currentHash (added H [l]) := by
  have hla := h.leaves
  cases hl : l.isTransfer with
  | true =>
    cases l with
    | transfer => exact ⟨_, rfl, ⟨h.samePartition, h.leaves, h.nodes, h.genesis⟩, rfl⟩
    | _ => cases hl
  | false =>
    have hap := isSome_added (H := H) l
    cases ha : l.added H with
    | none =>
      refine ⟨c, ?_, h, by simp [added, ha, chainHash]⟩
      simp [step_of_added_eq_none ha hl, fits_eq_some_iff]; omega
    | some a =>
      rw [ha, isSome_some] at hap
      simp only [countP_singleton, ← hap, if_true] at hr
      have had : added H [l] = [a] := by simp [added, ha]
      obtain ⟨mmr, hm, hle, hn⟩ := MerkleMountainRange.append_spec (H := H) a.root
        ((le_forestSize _).trans h.nodes) (by omega)
      refine ⟨grown H c a mmr, ?_, ⟨h.samePartition, ?_, ?_, ?_⟩, by rw [had]; rfl⟩
      · simp [step_of_added ha, hm, bind_some, fits_eq_some_iff, grown, hle]; omega
      · simp only [grown, hle]; omega
      · have := h.nodes; simp only [grown, hle]; omega
      · -- after an entry the sequence is not 0, and the head not the genesis hash
        rw [had] at hf
        exact ⟨fun h0 => absurd h0 (Nat.succ_ne_zero _), fun heq => absurd heq (hf (cons_ne_nil _ _))⟩

def FreshHeads (H : Bytes → Hash512) (partition : PartitionId) (head : Hash512) (ls : List Lbl) : Prop :=
  ∀ ls', ls' <+: ls → added H ls' ≠ [] → chainHash H head (added H ls') ≠ computeGenesis H partition

lemma FreshHeads.tail {h₀ : Hash512} (h : FreshHeads H partition h₀ (l :: ls)) :
    FreshHeads H partition (chainHash H h₀ (added H [l])) ls := by
  intro ls' hp hn
  have ha : added H (l :: ls') = added H [l] ++ added H ls' := by
    rw [← singleton_append, added, filterMap_append]; rfl
  have := h (l :: ls') (cons_prefix_cons.mpr ⟨rfl, hp⟩) (by rw [ha]; exact append_ne_nil_of_right_ne_nil _ hn)
  rwa [ha, chainHash, foldl_append] at this

lemma Ready.exec (ls : List Lbl) (h : Ready H partition c) (hf : FreshHeads H partition c.currentHash ls)
    (hro : c.sequence + ls.countP Lbl.appends < 2 ^ 64) :
    ∃ c', LTS.exec (PohRun.step H) c ls = some c' ∧ Ready H partition c' := by
  induction ls generalizing c with
  | nil => exact ⟨c, rfl, h⟩
  | cons l ls ih =>
    have hc := countP_appends_cons l ls
    obtain ⟨t, ht, hr, hh⟩ := h.step (l := l) (hf [l] (prefix_append [l] ls)) (by omega)
    obtain ⟨hs, -, -⟩ := counters_of_step ht (by omega)
    obtain ⟨c', hc', hfi⟩ := ih hr (hh ▸ hf.tail) (by omega)
    exact ⟨c', bind_eq_some_iff.mpr ⟨t, ht, hc'⟩, hfi⟩

end Ready

theorem resumes_iff (H : Bytes → Hash512) (partition : PartitionId) (s : WireState)
    (ha : verifyState H s.toPohChainState partition = .ok ()) (maxRecent : Nat) (ls : List Lbl)
    (hf : FreshHeads H partition s.currentHash ls) :
    Resumes H partition s.toPohChainState maxRecent ls ↔
      2 * s.mmr.leafCount ≤ s.mmr.nodes.length + countOnes s.mmr.leafCount ∧
      s.mmr.leafCount + ls.countP Lbl.appends < 2 ^ 63 ∧ s.sequence + ls.countP Lbl.appends < 2 ^ 64 := by
  have ho : forestSize s.mmr.leafCount + countOnes s.mmr.leafCount = 2 * s.mmr.leafCount :=
    forestSize_add_onesBelow s.leafCount_lt
  obtain ⟨hp, hg, hl⟩ := (verifyState_eq_ok_iff s.leafCount_lt).mp ha; constructor
  · intro h; obtain ⟨c, hc, hs⟩ := h [] nil_prefix; cases hc
    have hn := (MerkleMountainRange.isSome_root_iff.mp hs.root).2
    obtain ⟨c, hc, hs⟩ := h ls (prefix_refl ls)
    have hla := (MerkleMountainRange.isSome_root_iff.mp hs.root).1
    obtain ⟨hs', hl', hlt⟩ := counters_of_exec hc s.sequence_lt
    simp only [PohChain.fromState] at hn hs' hl'; omega
  · rintro ⟨hn, hla, hse⟩ ls' hls'
    have hle : ls'.countP Lbl.appends ≤ ls.countP Lbl.appends := hls'.sublist.countP_le
    have hr : Ready H partition (.fromState H s.toPohChainState maxRecent) :=
      ⟨hp, hl, show forestSize s.mmr.leafCount ≤ s.mmr.nodes.length by omega, hg⟩
    obtain ⟨c, hc, hfi⟩ := hr.exec ls' (fun l h => hf l (h.trans hls')) (show s.sequence + _ < _ by omega)
    obtain ⟨-, hco, -⟩ := counters_of_exec hc s.sequence_lt
    exact ⟨c, hc, hfi.sound (by rw [hco]; show s.mmr.leafCount + _ < _; omega)⟩

def noNodes : PohChainState := ⟨0, List.replicate 64 9, 1, ⟨[], 1⟩⟩

def lastSequence : PohChainState := ⟨0, List.replicate 64 9, 2 ^ 64 - 1, {}⟩

theorem unsound_accepted : (verifyState toyHash noNodes 0 = .ok () ∧
      (PohChain.fromState toyHash noNodes 1024).mmr.root toyHash = none ∧
      step toyHash (.fromState toyHash noNodes 1024) (.appendBatch [[1]] 0 none) = none) ∧
    (verifyState toyHash lastSequence 0 = .ok () ∧
      step toyHash (.fromState toyHash lastSequence 1024) (.appendBatch [[1]] 0 none) = none) := by
  decide +kernel

def honest : WireState where
  partition := 0
  currentHash := List.replicate 64 136
  sequence := 2
  mmr := ⟨[List.replicate 64 1, List.replicate 64 2, List.replicate 64 1], 2⟩
  sequence_lt := by decide
  leafCount_lt := by decide

def twoMore : List Lbl := [.appendBatch [[3]] 5 none, .appendBatch [[4]] 6 none]

lemma freshHeads_twoMore : FreshHeads toyHash 0 honest.currentHash twoMore := by
  have hd : ∀ n < 3, chainHash toyHash honest.currentHash
    (added toyHash (twoMore.take n)) ≠ computeGenesis toyHash 0 := by
    decide +kernel
  intro ls' hp _
  rw [prefix_iff_eq_take.mp hp]; exact hd _ (Nat.lt_succ_of_le hp.length_le)

theorem resumes_honest : verifyState toyHash honest.toPohChainState 0 = .ok () ∧
      Resumes toyHash 0 honest.toPohChainState 1024 twoMore := by
  have ha : verifyState toyHash honest.toPohChainState 0 = .ok () := by decide +kernel
  exact ⟨ha, (resumes_iff toyHash 0 honest ha 1024 _ freshHeads_twoMore).mpr (by decide +kernel)⟩

end Aeon.Crypto.PohResume
