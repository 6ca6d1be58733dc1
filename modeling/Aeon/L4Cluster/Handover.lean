import Aeon.Core.LTS
import Aeon.L1Types.Poh
import Aeon.L2Store.CrashRecovery
import Aeon.L2Store.Transfer
import Aeon.L3Pipeline.WriteGate

/-!
# Handing a partition over

`drive_one` (`crates/aeon-cluster/src/partition_driver.rs`) copies segments, then the PoH state,
then asks the source to freeze. The source appends and sweeps between any two steps. A chunk is read
and written in one step.

* `handover_complete`: a committed drive that was not disturbed has handed over every record and the
  chain's head;
* `handover_loses_tail`: otherwise the tail is left behind.
-/
namespace Aeon.L4.Handover

open List Option Aeon.Core Aeon.Types Aeon.Crypto Aeon.L2.Body Aeon.L2.Transfer Aeon.L3.Gate

variable {Event : Type}

/-- mirrors partition_driver.rs:264-426 -/
inductive Phase
  | idle
  | bulk (it : ChunkIter)
  | cutover
  | pohInstalled
  | draining
  | frozen
  | complete
  deriving DecidableEq

structure Config where
  partition : PartitionId
  verifyMode : PohVerifyMode
  maxRecent : Nat := 1024

structure St where
  phase : Phase := .idle
  store : Store
  chain : Option PohChain
  gate : Option WriteGate
  managed : Bool
  installer : L2SegmentInstaller
  installed : Option PohChain := none
  frozenAt : Option (Dir × Option PohChain) := none

inductive Lbl (Event : Type)
  | enter
  | leave
  | append (e : Event)
  | gc (minAckSeq : Nat) (elapsed : Nat → Bool)
  | pohAppend (payloads : List Bytes) (timestampNanos : Int) (key : Option SigningKey)
  | begin
  | chunk
  | readError
  | poh
  | cutoverRequest
  | drained
  | commit
  | fail

/-- mirrors crates/aeon-engine/src/pipeline.rs:799-818 and 2385-2477 -/
def St.mayAppend (s : St) : Bool := s.managed || match s.gate with
    | none => true
    | some g => 0 < g.inFlight

/-- mirrors partition_transfer.rs:133-143 -/
def St.endBulk (s : St) (success : Bool) : St :=
  match s.installer.finish success with
  | (.ok (), installer) => { s with installer := installer, phase := .cutover }
  | (.error _, installer) => { s with installer := installer, phase := .idle }

/-- mirrors partition_install.rs:262-300 -/
def installPoh (H : Bytes → Hash512) (cfg : Config) (state : PohChainState) :
    Except PohVerifyError PohChain :=
  if cfg.verifyMode = .trustExtend then .ok (PohChain.fromState H state cfg.maxRecent)
  else
    match verifyState H state cfg.partition with
    | .error e => .error e
    | .ok () => .ok (PohChain.fromState H state cfg.maxRecent)

def St.freeze (s : St) (gate : Option WriteGate) : St :=
  { s with gate := gate, phase := .frozen, frozenAt := some (s.store.dir, s.chain) }

section Machine

variable (C : Codec Event) (H : Bytes → Hash512) (cfg : Config)

def step (s : St) : Lbl Event → Option St
  | .enter =>
    match s.gate with
    | none => none
    | some g => g.tryEnter.map fun g => { s with gate := some g }
  | .leave => some { s with gate := s.gate.map WriteGate.dropGuard }
  | .append e => if s.mayAppend then some { s with store := (s.store.append C e).1 } else none
  | .gc minAckSeq elapsed => some { s with store := s.store.gcUpTo minAckSeq elapsed }
  | .pohAppend payloads timestampNanos key =>
    match s.chain with
    | none => none
    | some c => (c.appendBatch H payloads timestampNanos key).map fun (c, _) =>
        { s with chain := some c }
  | .begin =>
    if s.phase = .idle then
      match s.installer.begin (readManifest C.crc32 s.store.dir) with
      | .ok installer =>
        some { s with installer := installer, phase := .bulk ⟨readManifest C.crc32 s.store.dir, none⟩ }
      | .error _ => some s
    else none
  | .chunk =>
    match s.phase with
    | .bulk it =>
      match it.next s.store.dir with
      | .ok (some (c, it)) =>
        match s.installer.applyChunk C.crc32 c with
        | (.ok (), installer) => some { s with installer := installer, phase := .bulk it }
        | (.error _, installer) => some { s with installer := installer, phase := .idle }
      | .ok none => some (s.endBulk true)
      | .error _ => some (s.endBulk false)
    | _ => none
  | .readError =>
    match s.phase with
    | .bulk _ => some (s.endBulk false)
    | _ => none
  | .poh =>
    if s.phase = .cutover then
      match s.chain with
      | none => some { s with phase := .pohInstalled }
      | some c =>
        match installPoh H cfg c.exportState with
        | .ok c => some { s with installed := some c, phase := .pohInstalled }
        | .error _ => some { s with phase := .idle }
    else none
  | .cutoverRequest =>
    if s.phase = .pohInstalled then
      match s.gate with
      | none => some (s.freeze none)
      | some g => some { s with gate := some g.requestFreeze, phase := .draining }
    else none
  | .drained =>
    match s.phase, s.gate with
    | .draining, some g => g.commitFreeze.map fun g => s.freeze (some g)
    | _, _ => none
  | .commit => if s.phase = .frozen then some { s with phase := .complete } else none
  | .fail =>
    if s.phase = .idle ∨ s.phase = .complete then none else some { s with phase := .idle }

def machine : LTS St (Lbl Event) := .ofFn (fun s => s.phase = .idle ∧ s.store.dir.Distinct) (step C H cfg)

def records (d : Dir) : List (Nat × Event) := d.flatMap fun f =>
    match iterRecords C f.2 with
    | .ok rs => rs.filterMap Except.toOption
    | .error _ => []

def HandedOver (s : St) : Prop := s.phase = .complete → ∃ d chain, s.frozenAt = some (d, chain) ∧
    (∀ r ∈ records C d, r ∈ records C s.installer.dir) ∧
    ∀ c, chain = some c → ∃ c', s.installed = some c' ∧ c'.sequence = c.sequence ∧
    c'.currentHash = c.currentHash

end Machine

def Phase.todo : Phase → List SegmentEntry
  | .bulk it => it.segs
  | _ => []

def Undisturbed (s : St) : Lbl Event → Prop
  | .append _ => s.phase = .idle ∨ s.phase = .frozen ∨ s.phase = .complete
  | .pohAppend _ _ _ => s.phase ≠ .pohInstalled ∧ s.phase ≠ .draining
  | .chunk => ∀ e ∈ s.phase.todo, e.startSeq ∈ s.store.dir.map Prod.fst
  | .readError => False
  | _ => True

instance (s : St) (l : Lbl Event) : Decidable (Undisturbed s l) := by
  cases l <;> dsimp only [Undisturbed] <;> infer_instance

def QuietDrives (C : Codec Event) (H : Bytes → Hash512) (cfg : Config) : Bool → St → List (Lbl Event) → Prop
  | quiet, s, [] => s.phase = .complete → quiet
  | quiet, s, l :: ls => ∀ s' ∈ step C H cfg s l,
      QuietDrives C H cfg (s'.phase = .idle ∨ quiet ∧ Undisturbed s l) s' ls

instance QuietDrives.decide (C : Codec Event) (H : Bytes → Hash512) (cfg : Config) :
    ∀ quiet s ls, Decidable (QuietDrives C H cfg quiet s ls)
  | quiet, s, [] => inferInstanceAs (Decidable (s.phase = .complete → quiet))
  | quiet, s, l :: ls =>
    have (s' : St) := QuietDrives.decide C H cfg (s'.phase = .idle ∨ quiet ∧ Undisturbed s l) s' ls
    inferInstanceAs (Decidable (∀ s' ∈ step C H cfg s l, _))

section Invariant

variable {C : Codec Event} {H : Bytes → Hash512} {cfg : Config} {s s' : St}

def Installed (d t : Dir) : Prop := ∀ f ∈ d, fileAt t f.1 = some f.2

def SameHead (chain installed : Option PohChain) : Prop := ∀ c, chain = some c →
    ∃ c', installed = some c' ∧ c'.sequence = c.sequence ∧ c'.currentHash = c.currentHash

def PhaseInv (s : St) : Prop :=
  match s.phase with
  | .idle => True
  | .bulk it => ∃ w, s.installer.writer = some w ∧ Copying s.store.dir s.installer.dir w it
  | .cutover => Installed s.store.dir s.installer.dir
  | .pohInstalled | .draining =>
    Installed s.store.dir s.installer.dir ∧ SameHead s.chain s.installed
  | .frozen | .complete => ∃ d chain, s.frozenAt = some (d, chain) ∧
    Installed d s.installer.dir ∧ SameHead chain s.installed

structure Inv (s : St) : Prop where
  distinct : s.store.dir.Distinct
  phase : PhaseInv s

lemma records_subset_of_installed (h : Installed d t) : ∀ r ∈ records C d, r ∈ records C t := by
  intro r hr; obtain ⟨f, hf, hrf⟩ := mem_flatMap.mp hr
  exact mem_flatMap.mpr ⟨f, mem_of_fileAt (h f hf), hrf⟩

lemma handedOver_of_inv (h : Inv s) : HandedOver C s := by
  intro hp; have hi := h.phase; rw [PhaseInv, hp] at hi
  obtain ⟨d, chain, hf, hfi, hh⟩ := hi
  exact ⟨d, chain, hf, records_subset_of_installed hfi, hh⟩

lemma Inv.of_idle (hd : s.store.dir.Distinct) (hp : s.phase = .idle) : Inv s :=
  ⟨hd, by rw [PhaseInv, hp]; trivial⟩

lemma Inv.gc (h : Inv s) (minAckSeq : Nat) (elapsed : Nat → Bool) :
    Inv { s with store := s.store.gcUpTo minAckSeq elapsed } := by
  have hs : ∀ f ∈ (s.store.gcUpTo minAckSeq elapsed).dir, f ∈ s.store.dir :=
    fun f hf => Store.mem_of_mem_gcUpTo hf
  refine ⟨Store.gcUpTo_distinct h.distinct _ _, ?_⟩; have hi := h.phase
  unfold PhaseInv at hi ⊢
  cases hp : s.phase with
  | idle => trivial
  | bulk => simp only [hp] at hi ⊢; obtain ⟨w, hw, hc⟩ := hi; exact ⟨w, hw, hc.mono hs⟩
  | cutover => simp only [hp] at hi ⊢; exact fun f hf => hi f (hs f hf)
  | pohInstalled | draining => simp only [hp] at hi ⊢; exact ⟨fun f hf => hi.1 f (hs f hf), hi.2⟩
  | frozen | complete => simpa only [hp] using hi

lemma Inv.chain (h : Inv s) (c : Option PohChain) (hp : s.phase ≠ .pohInstalled ∧ s.phase ≠ .draining) :
    Inv { s with chain := c } := by
  refine ⟨h.distinct, ?_⟩; have hi := h.phase; unfold PhaseInv at hi ⊢
  grind

lemma Inv.append (h : Inv s) (e : Event) (hp : s.phase = .idle ∨ s.phase = .frozen ∨ s.phase = .complete) :
    Inv { s with store := (s.store.append C e).1 } := by
  refine ⟨Store.append_distinct h.distinct e, ?_⟩; have hi := h.phase
  unfold PhaseInv at hi ⊢; grind

lemma Inv.gate (h : Inv s) (g : Option WriteGate) : Inv { s with gate := g } := ⟨h.distinct, h.phase⟩

variable {installer : L2SegmentInstaller}

lemma Inv.begin (h : Inv s) (hb : s.installer.begin (readManifest C.crc32 s.store.dir) = .ok installer) :
    Inv { s with
      installer := installer
      phase := .bulk ⟨readManifest C.crc32 s.store.dir, none⟩ } := by
  unfold L2SegmentInstaller.begin at hb; split at hb
  · cases hb
  · cases hb; exact ⟨h.distinct, _, rfl, Copying.begin h.distinct⟩

lemma Inv.chunk (h : Inv s) (hp : s.phase = .bulk it) (hn : it.next s.store.dir = .ok (some (c, it')))
    (ha : s.installer.applyChunk C.crc32 c = (.ok (), installer)) :
    Inv { s with installer := installer, phase := .bulk it' } := by
  have hi := h.phase; rw [PhaseInv, hp] at hi; obtain ⟨w, hw, hc⟩ := hi
  obtain ⟨r, r', hr, hcu, hc'⟩ := hc.next h.distinct hn
  simp only [L2SegmentInstaller.applyChunk, hw] at ha
  generalize hwc : w.applyChunk C.crc32 s.installer.dir c = res at ha
  obtain ⟨res, w', t'⟩ := res; cases ha; obtain ⟨segs, cur⟩ := it'
  cases hcu; exact ⟨h.distinct, w', rfl, hc'.applyChunk hr hwc⟩

lemma Inv.endBulk (h : Inv s) (hp : s.phase = .bulk it) : Inv (s.endBulk true) := by
  have hi := h.phase; rw [PhaseInv, hp] at hi; obtain ⟨w, hw, hc⟩ := hi
  simp only [St.endBulk, L2SegmentInstaller.finish, hw, if_true]
  cases hf : w.finish with
  | error => exact .of_idle h.distinct rfl
  | ok => exact ⟨h.distinct, hc.installed hf⟩

lemma installPoh_head {state : PohChainState} (h : installPoh H cfg state = .ok c) :
    c.sequence = state.sequence ∧ c.currentHash = state.currentHash := by
  unfold installPoh at h; split_ifs at h
  · cases h; exact ⟨rfl, rfl⟩
  · split at h
    · cases h
    · cases h; exact ⟨rfl, rfl⟩

lemma Inv.freeze (h : Inv s) (hp : s.phase = .pohInstalled ∨ s.phase = .draining) (g : Option WriteGate) :
    Inv (s.freeze g) := by
  have hi := h.phase
  have hb : Installed s.store.dir s.installer.dir ∧ SameHead s.chain s.installed := by
    rcases hp with hp | hp <;> simpa only [PhaseInv, hp] using hi
  exact ⟨h.distinct, s.store.dir, s.chain, rfl, hb⟩

lemma inv_step (h : Inv s) (ha : Undisturbed s l) (hs : step C H cfg s l = some s') : Inv s' := by
  have hi := h.phase
  cases l with simp only [step] at hs
  | enter =>
    split at hs
    · cases hs
    · obtain ⟨g, -, rfl⟩ := map_eq_some_iff.mp hs; exact h.gate _
  | leave => cases hs; exact h.gate _
  | append e => split_ifs at hs; cases hs; exact h.append e ha
  | gc minAckSeq elapsed => cases hs; exact h.gc _ _
  | pohAppend payloads timestampNanos key =>
    split at hs
    · cases hs
    · obtain ⟨c, -, rfl⟩ := map_eq_some_iff.mp hs; exact h.chain _ ha
  | begin =>
    split_ifs at hs; split at hs <;> cases hs
    · exact h.begin ‹_›
    · exact h
  | chunk =>
    split at hs
    · rename_i it hp
      split at hs
      · rename_i hn
        split at hs <;> cases hs
        · exact h.chunk hp hn ‹_›
        · exact .of_idle h.distinct rfl
      · cases hs; exact h.endBulk hp
      · -- the listed files are still there
        simp only [Undisturbed, hp, Phase.todo] at ha; exact absurd ‹_› (next_ne_error ha _)
    · cases hs
  | readError => exact ha.elim
  | poh =>
    split_ifs at hs with hp; rw [PhaseInv, hp] at hi; split at hs
    · rename_i hch
      cases hs; exact ⟨h.distinct, hi, fun c hc => by rw [hch] at hc; cases hc⟩
    · rename_i c hch
      split at hs <;> cases hs
      · rename_i c' hc'
        refine ⟨h.distinct, hi, fun c₀ hc₀ => ⟨c', rfl, ?_⟩⟩; cases hch.symm.trans hc₀
        exact installPoh_head hc'
      · exact .of_idle h.distinct rfl
  | cutoverRequest =>
    split_ifs at hs with hp; split at hs <;> cases hs
    · exact h.freeze (.inl hp) _
    · rw [PhaseInv, hp] at hi; exact ⟨h.distinct, hi⟩
  | drained =>
    split at hs
    · rename_i hp _
      obtain ⟨g, -, rfl⟩ := map_eq_some_iff.mp hs; exact h.freeze (.inr hp) _
    · cases hs
  | commit =>
    split_ifs at hs with hp; cases hs; rw [PhaseInv, hp] at hi
    exact ⟨h.distinct, hi⟩
  | fail => split_ifs at hs; cases hs; exact .of_idle h.distinct rfl

lemma distinct_step (h : s.store.dir.Distinct) (hs : step C H cfg s l = some s') : s'.store.dir.Distinct := by
  have hb (ok) : (s.endBulk ok).store = s.store := by unfold St.endBulk; split <;> rfl
  cases l with
  | append => grind [step, Store.append_distinct]
  | gc => cases hs; exact Store.gcUpTo_distinct h _ _
  | drained =>
    simp only [step] at hs; split at hs
    · obtain ⟨g, -, rfl⟩ := map_eq_some_iff.mp hs; exact h
    · cases hs
  | _ =>
    cases hg : s.gate <;> cases hc : s.chain <;> simp only [step, hg, hc,
      map_eq_some_iff] at hs <;> grind [St.freeze]

lemma handedOver_of_quiet {quiet : Bool} (hr : (machine C H cfg).Run s ls s') (hd : s.store.dir.Distinct)
    (hi : quiet → PhaseInv s) (hq : QuietDrives C H cfg quiet s ls) : HandedOver C s' := by
  induction hr generalizing quiet with
  | nil => intro hc; exact handedOver_of_inv ⟨hd, hi (hq hc)⟩ hc
  | @cons s t _ l _ hst _ ih =>
    refine ih (distinct_step hd hst) (fun h => ?_) (hq t hst)
    rcases of_decide_eq_true h with ht | ⟨h, hu⟩
    · rw [PhaseInv, ht]; trivial
    · exact (inv_step ⟨hd, hi h⟩ hu hst).phase

end Invariant

theorem handover_complete (C : Codec Event) (H : Bytes → Hash512) (cfg : Config) {s₀ s : St}
    {ls : List (Lbl Event)} (hi : (machine C H cfg).init s₀) (hr : (machine C H cfg).Run s₀ ls s)
    (hq : QuietDrives C H cfg true s₀ ls) :
    HandedOver C s := by
  exact handedOver_of_quiet hr hi.2 (fun _ => by rw [PhaseInv, hi.1]; trivial) hq

def shortHash (b : Bytes) : Hash512 := leBytes 4 (crc32 b).toNat

def config : Config := ⟨0, .verify, 1024⟩

def plain (segmentBytes : Nat) : St where
  store := { segmentBytes := segmentBytes }
  chain := some (PohChain.new shortHash 0 1024)
  gate := some {}
  managed := false
  installer := { pipeline := "orders", partition := 0 }

def tail : List (Lbl Bytes) :=
  [.begin, .enter, .append [1], .leave, .chunk, .poh, .pohAppend [[1]] 5 none, .cutoverRequest, .drained,
    .commit]

def swept : List (Lbl Bytes) := [.enter, .append [1], .append [2], .leave, .begin, .gc 1 fun _ => true,
    .chunk, .poh,
    .cutoverRequest, .drained, .commit]

structure Outcome where
  phase : Phase
  records : List (Nat × Bytes)
  sequence : Option Nat
  files : Dir
  installed : Option Nat
  deriving DecidableEq

def outcome (s : St) : Option Outcome :=
  s.frozenAt.map fun (d, chain) => ⟨s.phase, records binCodec d, chain.map PohChain.sequence,
    s.installer.dir, s.installed.map PohChain.sequence⟩

lemma outcome_eq (h : outcome s = some o) :
    ∃ d chain, s.frozenAt = some (d, chain) ∧ s.phase = o.phase ∧ records binCodec d = o.records ∧
      s.installer.dir = o.files := by
  obtain ⟨⟨d, chain⟩, hf, rfl⟩ := map_eq_some_iff.mp h; grind

lemma not_handedOver (h : outcome s = some o) (hp : o.phase = .complete)
    (hr : ∃ r ∈ o.records, r ∉ records binCodec o.files) : ¬ HandedOver binCodec s := by
  intro ho; obtain ⟨d, chain, hf, hph, hre, hfi⟩ := outcome_eq h
  obtain ⟨d', chain', hf', ha, -⟩ := ho (hph.trans hp); grind

def tailOutcome : Outcome := ⟨.complete, [(0, [1])], some 1, [], some 0⟩

def sweptOutcome : Outcome := ⟨.complete, [(1, [2])], some 0, [], some 0⟩

lemma tail_outcome :
    (LTS.exec (step binCodec shortHash config) (plain 0) tail).bind outcome = some tailOutcome := by
      decide +kernel

lemma swept_outcome :
    (LTS.exec (step binCodec shortHash config) (plain 1) swept).bind outcome = some sweptOutcome := by
      decide +kernel

theorem handover_loses_tail : (∃ s, (machine binCodec shortHash config).Reachable s ∧
    outcome s = some tailOutcome ∧
      ¬ HandedOver binCodec s) ∧
    ∃ s, (machine binCodec shortHash config).Reachable s ∧ outcome s = some sweptOutcome ∧
      ¬ HandedOver binCodec s := by
  obtain ⟨s₁, hs₁, ho₁⟩ := bind_eq_some_iff.mp tail_outcome
  obtain ⟨s₂, hs₂, ho₂⟩ := bind_eq_some_iff.mp swept_outcome
  exact ⟨⟨s₁, ⟨plain 0, tail, ⟨rfl, nodup_nil⟩, LTS.run_of_exec hs₁⟩, ho₁,
    not_handedOver ho₁ rfl (by decide)⟩,
    s₂, ⟨plain 1, swept, ⟨rfl, nodup_nil⟩, LTS.run_of_exec hs₂⟩, ho₂, not_handedOver ho₂ rfl (by decide)⟩

def quiet : List (Lbl Bytes) :=
  [.enter, .append [1], .begin, .chunk, .chunk, .append [2], .leave, .pohAppend [[1], [2]] 5 none, .fail,
    .begin, .chunk, .chunk, .chunk, .poh, .cutoverRequest, .drained, .commit]

theorem handover_complete_quiet : ∃ s o, (machine binCodec shortHash config).Run (plain 1) quiet s ∧
      outcome s = some o ∧ o.phase = .complete ∧ o.records = [(0, [1]), (1, [2])] ∧
      o.installed = some 1 ∧ HandedOver binCodec s := by
  have h : ((LTS.exec (step binCodec shortHash config) (plain 1) quiet).bind outcome).map
      (fun o => (o.phase, o.records, o.installed)) = some (.complete, [(0, [1]), (1, [2])], some 1) := by
    decide +kernel
  obtain ⟨o, hb, hv⟩ := map_eq_some_iff.mp h
  obtain ⟨s, hs, ho⟩ := bind_eq_some_iff.mp hb
  obtain ⟨hp, hre, hi⟩ : _ ∧ _ ∧ _ := by simpa only [Prod.mk.injEq] using hv
  have hr : (machine binCodec shortHash config).Run (plain 1) quiet s := LTS.run_of_exec hs
  have hq : QuietDrives binCodec shortHash config true (plain 1) quiet := by decide +kernel
  have h₀ : (machine binCodec shortHash config).init (plain 1) := ⟨rfl, nodup_nil⟩
  exact ⟨s, o, hr, ho, hp, hre, hi, handover_complete binCodec shortHash config h₀ hr hq⟩

end Aeon.L4.Handover
