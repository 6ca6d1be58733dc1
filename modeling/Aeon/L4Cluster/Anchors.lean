import Mathlib.Order.Bounds.Basic
import Mathlib.Data.Int.Order.Basic
import Aeon.L4Cluster.StateMachine

/-!
# Checkpoint anchors

`SubmitCheckpoint` of `crates/aeon-cluster/src/store.rs`. Offsets are `i64`, anchors `u64`, compared
as `i64`. `Raised m X m'`: `m'` is `m` joined with the offsets `X`.

* `anchors_join`: each anchor is the maximum of 0 and all offsets submitted, whatever their order.
-/
namespace Aeon.L4.Anchors

open Aeon.Core Aeon.L4.Cluster

def anchor (m : HashMap PartitionId UInt64) (p : PartitionId) : Int := ((m.lookup p).getD 0).toNat

def Signed (m : HashMap PartitionId UInt64) : Prop := ∀ p, anchor m p < 2 ^ 63

structure Raised (m : HashMap PartitionId UInt64) (X : PartitionId → Set Int)
    (m' : HashMap PartitionId UInt64) : Prop where
  signed : Signed m'
  greatest : ∀ p, IsGreatest (insert (anchor m p) (X p)) (anchor m' p)
  mem : ∀ p, p ∈ m' ↔ p ∈ m ∨ (X p).Nonempty

variable {m m₁ m₂ : HashMap PartitionId UInt64} {X Y : PartitionId → Set Int}

lemma Raised.refl (h : Signed m) : Raised m (fun _ => ∅) m := by
  refine ⟨h, fun p => ?_, fun p => ?_⟩
  · simp
  · simp

section

variable (h : Raised m X m₁)
include h

lemma Raised.trans (h' : Raised m₁ Y m₂) : Raised m (fun p => X p ∪ Y p) m₂ := by
  refine ⟨h'.signed, fun p => ⟨?_, ?_⟩, fun p => ?_⟩
  · rcases (h'.greatest p).1 with heq | hy
    · rw [heq]; rcases (h.greatest p).1 with heq' | hx
      · exact .inl heq'
      · exact .inr (.inl hx)
    · exact .inr (.inr hy)
  · have hle : anchor m₁ p ≤ anchor m₂ p := (h'.greatest p).2 (Set.mem_insert _ _)
    rintro x (rfl | hx | hy)
    · exact le_trans ((h.greatest p).2 (Set.mem_insert _ _)) hle
    · exact le_trans ((h.greatest p).2 (.inr hx)) hle
    · exact (h'.greatest p).2 (.inr hy)
  · rw [h'.mem, h.mem, Set.union_nonempty, or_assoc]

lemma Raised.congr (heq : ∀ p, X p = Y p) : Raised m Y m₁ := by
  obtain rfl : X = Y := funext heq; exact h

lemma Raised.le (p : PartitionId) : anchor m p ≤ anchor m₁ p :=
  (h.greatest p).2 (Set.mem_insert _ _)

lemma Raised.unique (h' : Raised m X m') : m₁ = m' := by
  refine Finmap.ext_lookup fun p => ?_
  have hva : anchor m₁ p = anchor m' p := (h.greatest p).unique (h'.greatest p)
  have hm : p ∈ m₁ ↔ p ∈ m' := by rw [h.mem, h'.mem]
  rw [Finmap.mem_iff, Finmap.mem_iff] at hm
  cases h₁ : m₁.lookup p with
  | none =>
    cases h₂ : m'.lookup p with
    | none => rfl
    | some => grind
  | some u =>
    obtain ⟨v, hv⟩ := hm.mp ⟨u, h₁⟩
    rw [anchor, anchor, h₁, hv, Option.getD_some, Option.getD_some] at hva
    rw [hv, UInt64.toNat_inj.mp (Int.ofNat_inj.mp hva)]

end

lemma toInt_toInt64 {u : UInt64} (h : u.toNat < 2 ^ 63) : u.toInt64.toInt = u.toNat :=
  BitVec.toInt_eq_toNat_of_lt (by simpa using (by omega : 2 * u.toNat < 2 ^ 64))

lemma toNat_toUInt64 {i : Int64} (h : 0 ≤ i.toInt) : (i.toUInt64.toNat : Int) = i.toInt := by
  have hlt : 2 * i.toBitVec.toNat < 2 ^ 64 := by
    by_contra hge; have hn : i.toBitVec.toInt < 0 := BitVec.toInt_neg_iff.mpr (by omega)
    exact absurd h (not_le.mpr hn)
  exact (BitVec.toInt_eq_toNat_of_lt hlt).symm

lemma raised_mergeOffset (h : Signed m) (e : Σ _ : PartitionId, Int64) :
    Raised m (fun p => {x | p = e.1 ∧ x = e.2.toInt}) (mergeOffset m e) := by
  obtain ⟨q, off⟩ := e; have hq := h q; simp only [anchor] at hq
  have hv : anchor (mergeOffset m ⟨q, off⟩) q = max (anchor m q) off.toInt := by
    simp only [anchor, mergeOffset, Finmap.lookup_insert, Option.getD_some]
    have hc := toInt_toInt64 (u := (m.lookup q).getD 0) (by exact_mod_cast hq)
    split_ifs with hgt
    · rw [gt_iff_lt, Int64.lt_iff_toInt_lt, hc] at hgt; grind [toNat_toUInt64]
    · rw [gt_iff_lt, Int64.lt_iff_toInt_lt, hc, not_lt] at hgt; rw [max_eq_left hgt]
  have ho : ∀ p, p ≠ q → anchor (mergeOffset m ⟨q, off⟩) p = anchor m p := by
    intro p hp; simp only [anchor, mergeOffset, Finmap.lookup_insert_of_ne m hp]
  refine ⟨fun p => ?_, fun p => ?_, fun p => ?_⟩
  · by_cases hp : p = q
    · subst hp; have := Int64.toInt_lt off; rw [hv]
      exact max_lt (h p) (by simpa using this)
    · rw [ho p hp]; exact h p
  · by_cases hp : p = q
    · subst hp; rw [hv]
      have hs : {x | p = p ∧ x = off.toInt} = {off.toInt} := by ext x; simp
      rw [hs]; exact isGreatest_pair
    simp_all
  · rw [mergeOffset, Finmap.mem_insert]
    have hne : {x | p = q ∧ x = off.toInt}.Nonempty ↔ p = q :=
      ⟨fun hx => hx.some_mem.1, fun hp => ⟨_, hp, rfl⟩⟩
    rw [hne, or_comm]

lemma raised_foldl (h : Signed m) (l : Listing PartitionId Int64) :
    Raised m (fun p => {x | ∃ off, ⟨p, off⟩ ∈ l ∧ x = off.toInt}) (l.foldl mergeOffset m) := by
  induction l generalizing m with
  | nil => exact (Raised.refl h).congr fun p => by simp
  | cons e l ih =>
    have hf := raised_mergeOffset h e; refine (hf.trans (ih hf.signed)).congr fun p => ?_
    ext x; simp only [Set.mem_union, Set.mem_ofPred_eq, List.mem_cons]; grind

def submitted (log : List ClusterRequest) (p : PartitionId) : Set Int :=
  {x | ∃ offsets off, ClusterRequest.submitCheckpoint offsets ∈ log ∧ offsets.lookup p = some off ∧
    x = off.toInt}

lemma submitted_cons (r : ClusterRequest) (log : List ClusterRequest) (p : PartitionId) :
    submitted (r :: log) p = submitted [r] p ∪ submitted log p := by
  ext x
  simp only [submitted, Set.mem_union, Set.mem_ofPred_eq, List.mem_cons, List.not_mem_nil, or_false]
  grind

lemma raised_applyRequest {resp : ClusterResponse} (hv : o.Valid s r)
    (ha : applyRequest o s r = some (s', resp)) (h : Signed s.sourceAnchorOffsets) :
    Raised s.sourceAnchorOffsets (submitted [r]) s'.sourceAnchorOffsets := by
  have hq : (∀ offsets, r ≠ .submitCheckpoint offsets) → s'.sourceAnchorOffsets = s.sourceAnchorOffsets →
      Raised s.sourceAnchorOffsets (submitted [r]) s'.sourceAnchorOffsets := by
    intro hr heq; rw [heq]; refine (Raised.refl h).congr fun p => ?_
    ext x
    simp only [submitted, Set.mem_empty_iff_false, Set.mem_ofPred_eq, List.mem_singleton, false_iff]
    rintro ⟨offsets, off, heq, -⟩; exact hr offsets heq.symm
  cases r with
  | submitCheckpoint offsets =>
    cases ha; refine (raised_foldl h o.offsets).congr fun p => ?_; ext x
    have hm : ∀ off, (⟨p, off⟩ : Σ _ : PartitionId, Int64) ∈ o.offsets ↔ offsets.lookup p = some off :=
      fun off => hv.2.mem_iff
    simp [submitted, hm]
  | assignPartition | abortTransfer | updateConfig | rebalancePartitions | registry =>
    exact hq (by simp) (by cases ha; rfl)
  | beginTransfer | completeTransfer => grind [applyRequest]
  | initialAssignment =>
    refine hq (by simp) ?_; simp only [applyRequest] at ha; split_ifs at ha
    · cases ha; rfl
    · obtain ⟨assignments, -, hs⟩ := Option.map_eq_some_iff.mp ha; cases hs; rfl

lemma raised_replay {log : List ClusterRequest} {resps : List ClusterResponse}
    (hr : Replay s log (some (s', resps))) (h : Signed s.sourceAnchorOffsets) :
    Raised s.sourceAnchorOffsets (submitted log) s'.sourceAnchorOffsets := by
  generalize ho : some (s', resps) = out at hr
  induction hr generalizing resps with
  | nil => cases ho; exact (Raised.refl h).congr fun p => by simp [submitted]
  | panic => cases ho
  | step hv ha _ ih =>
    rename_i r _ log out _
    cases out with
    | none => cases ho
    | some =>
      simp only [Option.map_some, Option.some.injEq, Prod.mk.injEq] at ho
      obtain ⟨rfl, -⟩ := ho; have hf := raised_applyRequest hv ha h
      exact (hf.trans (ih hf.signed rfl)).congr fun p => (submitted_cons r log p).symm

lemma signed_empty : Signed ∅ := by intro p; simp [anchor]

theorem anchors_join {s₀ s : ClusterSnapshot} {log : List ClusterRequest} {resps : List ClusterResponse}
    (he : s₀.sourceAnchorOffsets = ∅) (hr : Replay s₀ log (some (s, resps))) :
    (∀ p, IsGreatest (insert 0 (submitted log p)) (anchor s.sourceAnchorOffsets p) ∧
      (p ∈ s.sourceAnchorOffsets ↔ (submitted log p).Nonempty)) ∧
    (∀ s₀' s' log' resps', s₀'.sourceAnchorOffsets = ∅ → Replay s₀' log' (some (s', resps')) →
      (∀ offsets, .submitCheckpoint offsets ∈ log ↔ .submitCheckpoint offsets ∈ log') →
      s.sourceAnchorOffsets = s'.sourceAnchorOffsets) ∧
    ∀ o r s' resp, Orders.Valid o s r → applyRequest o s r = some (s', resp) →
      ∀ p, anchor s.sourceAnchorOffsets p ≤ anchor s'.sourceAnchorOffsets p := by
  have hj := raised_replay hr (by rw [he]; exact signed_empty); rw [he] at hj
  refine ⟨fun p => ⟨hj.greatest p, ?_⟩, ?_, ?_⟩
  · rw [hj.mem, or_iff_right (Finmap.notMem_empty)]
  · intro s₀' s' log' resps' he' hr' hs
    have hj' := raised_replay hr' (by rw [he']; exact signed_empty); rw [he'] at hj'
    refine hj.unique (hj'.congr fun p => ?_); simp only [submitted, hs]
  · intro o r s' resp hv ha p; exact (raised_applyRequest hv ha hj.signed).le p

def lateCheckpoint : ClusterRequest := .submitCheckpoint (insertAll ∅ [(3, 7)])

def earlyCheckpoint : ClusterRequest := .submitCheckpoint (insertAll ∅ [(3, -5), (4, -1)])

theorem anchors_join_negative :
    ∃ s resps, Replay {} [lateCheckpoint, earlyCheckpoint, lateCheckpoint] (some (s, resps)) ∧
      s.sourceAnchorOffsets = insertAll ∅ [(3, 7), (4, 0)] ∧
      ∀ s' resps', Replay {} [earlyCheckpoint, lateCheckpoint] (some (s', resps')) →
        s.sourceAnchorOffsets = s'.sourceAnchorOffsets := by
  have hr : ∃ out, Replay {} [lateCheckpoint, earlyCheckpoint, lateCheckpoint] (some out) ∧
      out.1.sourceAnchorOffsets = insertAll ∅ [(3, 7), (4, 0)] :=
    ⟨_, .step (o := ⟨[], [⟨3, 7⟩]⟩) (by decide) rfl (.step (o := ⟨[], [⟨3, -5⟩, ⟨4, -1⟩]⟩) (by decide) rfl
        (.step (o := ⟨[], [⟨3, 7⟩]⟩) (by decide) rfl (.nil _))), by decide⟩
  obtain ⟨⟨s, resps⟩, hr, hs⟩ := hr; refine ⟨s, resps, hr, hs, fun s' resps' hr' => ?_⟩
  refine (anchors_join rfl hr).2.1 _ _ _ _ rfl hr' fun offsets => ?_
  simp only [List.mem_cons, List.not_mem_nil, or_false]
  tauto

end Aeon.L4.Anchors
