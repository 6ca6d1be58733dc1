import Mathlib.Data.Prod.Lex
import Mathlib.Order.WithBot
import Aeon.L4Cluster.Snapshot

/-!
# The stored snapshot of a node

`StateMachineStore` with a `snapshot_store` (`crates/aeon-cluster/src/store.rs`); builders run
beside applies and installations. `after` is a ghost: the state behind each log id. A write to L3 is
one batch.

* `snapshot_never_goes_back`: when the stored snapshot never goes back;
* `builder_overwrites_newer`: a builder taken earlier finishes later.
-/
namespace Aeon.L4.SnapshotStore

open Option Function Aeon.Core Aeon.L4.Cluster Aeon.L4.Snapshot
open Aeon.L4.RaftLog (LogId Entry)

variable {M B : Type}

def rank : Option LogId → WithBot (ℕ ×ₗ ℕ ×ₗ ℕ)
  | none => ⊥
  | some id => ↑(toLex (id.leaderId.term.toNat, toLex (id.leaderId.nodeId.toNat, id.index.toNat)))

abbrev StoredSnapshot (M B : Type) := SnapshotMeta M × B

structure Node (M B : Type) where
  sm : StateMachineStore M
  snapshotStore : Option (Option (StoredSnapshot M B))
  builders : List (StateMachineStore M)
  stopped : Bool
  after : Option LogId → Option ClusterSnapshot

/-- mirrors store.rs:307-372 -/
def newPersistent (fmt : Format B) (m₀ : M) : Option (StoredSnapshot M B) → Option (StateMachineStore M)
  | none => some (.new m₀)
  | some (info, data) => (fmt.fromBytes data).map fun state =>
    { StateMachineStore.new m₀ with
      state
      lastAppliedLog := info.lastLogId
      lastMembership := info.lastMembership }

/-- mirrors store.rs:762-806 -/
def getCurrentSnapshot (fmt : Format B) (n : StateMachineStore M) : Option (StoredSnapshot M B) :=
  n.lastAppliedLog.map fun id =>
    ({ lastLogId := some id
       lastMembership := n.lastMembership
       snapshotId := "snap-" ++ toString id.index.toNat ++ "-current" },
      fmt.toBytes n.state)

structure Opened (fmt : Format B) (s : Node M B) : Prop where
  sm : ∃ m₀, newPersistent fmt m₀ (s.snapshotStore.getD none) = some s.sm
  builders : s.builders = []
  stopped : s.stopped = false
  after : s.after = update (fun _ => none) s.sm.lastAppliedLog (some s.sm.state)

/-- mirrors store.rs:587-610 -/
def Node.persist (s : Node M B) (snapshot : StoredSnapshot M B) : Node M B :=
  { s with snapshotStore := s.snapshotStore.map fun _ => some snapshot }

def Node.moved (s : Node M B) (sm : StateMachineStore M) : Node M B :=
  { s with sm, after := update s.after sm.lastAppliedLog (some sm.state) }

/-- mirrors store.rs:625-668 -/
def Node.applyAll (js : Json) (s : Node M B) : List (Env × Entry (EntryPayload M)) → Option (Node M B)
  | [] => some s
  | (env, e) :: ws =>
    (applyEntry js env s.sm e).bind fun out => (s.moved out.1).applyAll js ws

inductive Lbl (M B : Type)
  | apply (entries : List (Env × Entry (EntryPayload M)))
  | getSnapshotBuilder
  | buildSnapshot (builder : Nat) (written : Bool)
  | installSnapshot (info : SnapshotMeta M) (data : B) (written : Bool)

/-- mirrors store.rs:709-760 -/
def Node.installSnapshot (fmt : Format B) (s : Node M B) (info : SnapshotMeta M) (data : B) : Node M B :=
  let s := s.persist (info, data)
  match s.sm.installSnapshot fmt (info, data) with
  | some sm => s.moved sm
  | none => { s with stopped := true }

def step (js : Json) (fmt : Format B) (s : Node M B) (l : Lbl M B) : Option (Node M B) :=
  if s.stopped then none
  else match l with
    | .apply entries => s.applyAll js entries
    | .getSnapshotBuilder =>
      let sm := s.sm.getSnapshotBuilder
      some { s with sm, builders := s.builders ++ [sm] }
    | .buildSnapshot builder written =>
      (s.builders[builder]?).map fun b =>
        if written then s.persist (b.buildSnapshot fmt) else { s with stopped := true }
    | .installSnapshot info data written =>
      some (if written then s.installSnapshot fmt info data else { s with stopped := true })

def machine (js : Json) (fmt : Format B) : LTS (Node M B) (Lbl M B) := .ofFn (Opened fmt) (step js fmt)

def Node.stored (s : Node M B) : Option (StoredSnapshot M B) := s.snapshotStore.getD none

structure NotBack (s s' : Node M B) : Prop where
  memory : rank s.sm.lastAppliedLog ≤ rank s'.sm.lastAppliedLog
  stored : ∀ snapshot ∈ s.stored, ∃ snapshot' ∈ s'.stored,
    rank snapshot.1.lastLogId ≤ rank snapshot'.1.lastLogId

structure Exact (fmt : Format B) (s : Node M B) : Prop where
  memory : ∀ snapshot ∈ getCurrentSnapshot fmt s.sm,
    ∃ state, fmt.fromBytes snapshot.2 = some state ∧ s.after snapshot.1.lastLogId = some state
  stored : ∀ snapshot ∈ s.stored,
    ∃ state, fmt.fromBytes snapshot.2 = some state ∧ s.after snapshot.1.lastLogId = some state

def Ascending : Option LogId → List (Env × Entry (EntryPayload M)) → Prop
  | _, [] => True
  | last, w :: ws => rank last < rank (some w.2.logId) ∧ Ascending (some w.2.logId) ws

def Allowed (fmt : Format B) (s : Node M B) : Lbl M B → Prop
  | .apply entries => Ascending s.sm.lastAppliedLog entries
  | .installSnapshot info data _ =>
    rank s.sm.lastAppliedLog < rank info.lastLogId ∧ (fmt.fromBytes data).isSome
  | .buildSnapshot builder _ => ∀ b ∈ s.builders[builder]?, ∀ snapshot ∈ s.stored,
    rank snapshot.1.lastLogId ≤ rank b.lastAppliedLog
  | .getSnapshotBuilder => True

instance decidableAscending :
    (last : Option LogId) → (ws : List (Env × Entry (EntryPayload M))) → Decidable (Ascending last ws)
  | _, [] => .isTrue trivial
  | last, w :: ws =>
    have := decidableAscending (some w.2.logId) ws
    inferInstanceAs (Decidable (rank last < rank (some w.2.logId) ∧ _))

instance decidableAllowed (fmt : Format B) (s : Node M B) (l : Lbl M B) : Decidable (Allowed fmt s l) := by
  cases l <;> dsimp only [Allowed] <;> infer_instance

structure Inv (fmt : Format B) (s : Node M B) : Prop where
  here : s.after s.sm.lastAppliedLog = some s.sm.state
  bound : ∀ id state, s.after id = some state → rank id ≤ rank s.sm.lastAppliedLog
  builders : ∀ b ∈ s.builders, s.after b.lastAppliedLog = some b.state
  stored : ∀ snapshot ∈ s.stored,
    ∃ state, fmt.fromBytes snapshot.2 = some state ∧ s.after snapshot.1.lastLogId = some state

variable {js : Json} {fmt : Format B} {s s' : Node M B}

lemma NotBack.refl (s : Node M B) : NotBack s s := ⟨le_rfl, fun snapshot h => ⟨snapshot, h, le_rfl⟩⟩

lemma NotBack.trans (h : NotBack s t) (h' : NotBack t s') : NotBack s s' := by
  refine ⟨h.memory.trans h'.memory, fun snapshot hs => ?_⟩
  obtain ⟨snapshot₁, h₁, hl₁⟩ := h.stored snapshot hs
  obtain ⟨snapshot₂, h₂, hl₂⟩ := h'.stored snapshot₁ h₁; grind

lemma Inv.exact (h : Inv fmt s) : Exact fmt s := by
  refine ⟨fun snapshot hs => ?_, h.stored⟩
  obtain ⟨id, hid, rfl⟩ := map_eq_some_iff.mp hs
  refine ⟨s.sm.state, fmt.roundTrip _, ?_⟩; rw [← hid]; exact h.here

lemma Opened.inv (h : Opened fmt s) : Inv fmt s := by
  have ha : ∀ id, s.after id = if id = s.sm.lastAppliedLog then some s.sm.state else none := by
    intro id; rw [h.after, update_apply]
  refine ⟨by rw [ha, if_pos rfl], fun id state hid => ?_, ?_, fun snapshot hs => ?_⟩
  · grind
  · rw [h.builders]; simp
  · -- what the node was hydrated from
    obtain ⟨m₀, hsm⟩ := h.sm; have hst : s.snapshotStore.getD none = some snapshot := hs
    rw [hst] at hsm; obtain ⟨state, hd, hsm⟩ := map_eq_some_iff.mp hsm; grind

lemma Inv.advance (h : Inv fmt s) (sm : StateMachineStore M)
    (hlt : rank s.sm.lastAppliedLog < rank sm.lastAppliedLog) :
    Inv fmt (s.moved sm) ∧ NotBack s (s.moved sm) := by
  have hold : ∀ id state, s.after id = some state →
      update s.after sm.lastAppliedLog (some sm.state) id = some state := by
    intro id state hid; rw [update_of_ne, hid]; rintro rfl
    exact absurd (h.bound _ _ hid) (not_le.mpr hlt)
  refine ⟨⟨update_self .., fun id state hid => ?_, fun b hb => hold _ _ (h.builders b hb),
    fun snapshot hs => ?_⟩, hlt.le, (NotBack.refl s).stored⟩
  · by_cases hi : id = sm.lastAppliedLog
    · rw [hi]; exact le_rfl
    · have hid' : s.after id = some state := (update_of_ne hi ..).symm.trans hid
      exact (h.bound id state hid').trans hlt.le
  · obtain ⟨state, hd, ha⟩ := h.stored snapshot hs; exact ⟨state, hd, hold _ _ ha⟩

lemma applyEntry_lastAppliedLog {env : Env} {resp : ClusterResponse}
    (h : applyEntry js env n e = some (n', resp)) :
    n'.lastAppliedLog = some e.logId := by
  cases he : e.payload with
  | blank | membership => simp only [applyEntry, he, Option.some.injEq, Prod.mk.injEq] at h; rw [← h.1]; rfl
  | normal req =>
    by_cases hr : ∃ payload, req = .registry payload
    · obtain ⟨payload, rfl⟩ := hr; simp only [applyEntry, he, Option.some.injEq] at h
      have hc := applyRegistry_core js env.clock ((env.before n).mark e.logId) payload; rw [h] at hc
      exact hc.lastAppliedLog
    · have hr' : ∀ payload, req ≠ .registry payload := fun payload hp => hr ⟨payload, hp⟩
      rw [applyEntry_normal he hr'] at h; obtain ⟨out, -, ho⟩ := map_eq_some_iff.mp h
      obtain ⟨rfl, -⟩ := Prod.mk.inj ho; rfl

lemma Inv.applyAll (h : Inv fmt s) (ha : Ascending s.sm.lastAppliedLog ws) (hs : s.applyAll js ws = some s') :
    Inv fmt s' ∧ NotBack s s' := by
  induction ws generalizing s with
  | nil => cases hs; exact ⟨h, .refl _⟩
  | cons w ws ih =>
    obtain ⟨env, e⟩ := w; obtain ⟨⟨sm, resp⟩, he, hr⟩ := bind_eq_some_iff.mp hs
    have hl := applyEntry_lastAppliedLog he
    have hlt : rank s.sm.lastAppliedLog < rank sm.lastAppliedLog := by rw [hl]; exact ha.1
    have ha' : Ascending sm.lastAppliedLog ws := by rw [hl]; exact ha.2
    obtain ⟨hm, hah⟩ := h.advance sm hlt; obtain ⟨hi, hb⟩ := ih hm ha' hr
    exact ⟨hi, hah.trans hb⟩

lemma stored_persist (s : Node M B) (snapshot : StoredSnapshot M B) :
    (s.persist snapshot).stored = if s.snapshotStore.isSome then some snapshot else none := by
  unfold Node.stored Node.persist; cases s.snapshotStore <;> rfl

lemma Inv.persist (h : Inv fmt s) (snapshot : StoredSnapshot M B) {state : ClusterSnapshot}
    (hd : fmt.fromBytes snapshot.2 = some state) (ha : s.after snapshot.1.lastLogId = some state)
    (hle : ∀ old ∈ s.stored, rank old.1.lastLogId ≤ rank snapshot.1.lastLogId) :
    Inv fmt (s.persist snapshot) ∧ NotBack s (s.persist snapshot) := by
  refine ⟨⟨h.here, h.bound, h.builders, fun new hn => ?_⟩, le_rfl, fun old hold => ?_⟩
  · rw [stored_persist, mem_def, ite_none_right_eq_some, Option.some.injEq] at hn
    rw [← hn.2]; exact ⟨state, hd, ha⟩
  · refine ⟨snapshot, ?_, hle old hold⟩
    have hso : s.snapshotStore.isSome := by
      cases hs : s.snapshotStore with
      | none => simp [Node.stored, hs] at hold
      | some => rfl
    rw [stored_persist, if_pos hso]; rfl

lemma Inv.stop (h : Inv fmt s) : Inv fmt { s with stopped := true } ∧ NotBack s { s with stopped := true } :=
  ⟨⟨h.here, h.bound, h.builders, h.stored⟩, (NotBack.refl s).memory, (NotBack.refl s).stored⟩

lemma installSnapshot_eq {info : SnapshotMeta M} {data : B}
    (hsm : s.sm.installSnapshot fmt (info, data) = some sm) :
    s.installSnapshot fmt info data = (s.moved sm).persist (info, data) := by
  have hp : (s.persist (info, data)).sm = s.sm := rfl
  simp only [Node.installSnapshot, hp, hsm]; rfl

lemma Inv.installSnapshot (h : Inv fmt s) {info : SnapshotMeta M} {data : B}
    (hlt : rank s.sm.lastAppliedLog < rank info.lastLogId) (hd : (fmt.fromBytes data).isSome) :
    Inv fmt (s.installSnapshot fmt info data) ∧ NotBack s (s.installSnapshot fmt info data) := by
  obtain ⟨state, hs⟩ := isSome_iff_exists.mp hd
  obtain ⟨sm, hsm, hl, rfl⟩ : ∃ sm, s.sm.installSnapshot fmt (info, data) = some sm ∧
      sm.lastAppliedLog = info.lastLogId ∧ sm.state = state := by
    rw [StateMachineStore.installSnapshot, hs]; exact ⟨_, rfl, rfl, rfl⟩
  rw [← hl] at hlt; rw [installSnapshot_eq hsm]; obtain ⟨hm, ha⟩ := h.advance sm hlt
  have haf : (s.moved sm).after info.lastLogId = some sm.state := by rw [← hl]; exact hm.here
  have hle : ∀ old ∈ (s.moved sm).stored, rank old.1.lastLogId ≤ rank info.lastLogId := by
    intro old hold; obtain ⟨st, -, hold'⟩ := hm.stored old hold; rw [← hl]
    exact hm.bound _ _ hold'
  obtain ⟨hi, hb⟩ := hm.persist (info, data) hs haf hle; exact ⟨hi, ha.trans hb⟩

lemma Inv.step (h : Inv fmt s) (hl : Allowed fmt s l) (hs : step js fmt s l = some s') :
    Inv fmt s' ∧ NotBack s s' := by
  unfold SnapshotStore.step at hs; rw [ite_none_left_eq_some] at hs
  obtain ⟨-, hs⟩ := hs
  cases l with
  | apply => exact h.applyAll hl hs
  | getSnapshotBuilder =>
    cases hs
    refine ⟨⟨h.here, h.bound, fun b hb => ?_, h.stored⟩, (NotBack.refl s).memory, (NotBack.refl s).stored⟩
    rcases List.mem_append.mp hb with hb | hb
    · exact h.builders b hb
    · rw [List.mem_singleton.mp hb]; exact h.here
  | buildSnapshot builder written =>
    obtain ⟨b, hb, rfl⟩ := map_eq_some_iff.mp hs
    cases written with
    | false => exact h.stop
    | true =>
      exact h.persist (b.buildSnapshot fmt) (fmt.roundTrip _) (h.builders b (List.mem_of_getElem? hb))
        (hl b hb)
  | installSnapshot info data written =>
    cases hs
    cases written with
    | false => exact h.stop
    | true => exact h.installSnapshot hl.1 hl.2

theorem snapshot_never_goes_back {s₀ t : Node M B} {ls ls' : List (Lbl M B)} (ho : Opened fmt s₀)
    (hr : ((machine js fmt).restrict (Allowed fmt)).Run s₀ ls t)
    (hr' : ((machine js fmt).restrict (Allowed fmt)).Run t ls' s) :
    Exact fmt s ∧ NotBack t s := by
  have ht : Inv fmt t := by refine hr.induct (fun u l v hu hl => ?_) ho.inv; exact (hu.step hl.1 hl.2).1
  have hb : Inv fmt s ∧ NotBack t s := by
    refine hr'.induct (I := fun u => Inv fmt u ∧ NotBack t u) (fun u l v hu hl => ?_) ⟨ht, .refl t⟩
    obtain ⟨hi, hba⟩ := hu.1.step hl.1 hl.2; exact ⟨hi, hu.2.trans hba⟩
  exact ⟨hb.1.exact, hb.2⟩

section Demo

def partialFormat : Format (Option ClusterSnapshot) := ⟨some, id, fun _ => rfl⟩

def fresh : Node Unit B where
  sm := .new ()
  snapshotStore := some none
  builders := []
  stopped := false
  after := update (fun _ => none) none (some {})

lemma opened_fresh (fmt : Format B) : Opened fmt fresh := ⟨⟨(), rfl⟩, rfl, rfl, rfl⟩

def received (i : UInt64) : Lbl Unit ClusterSnapshot :=
  .installSnapshot ⟨some ⟨⟨1, 1⟩, i⟩, ⟨none, ()⟩, "snap"⟩
    { lastAppliedLogIndex := i, lastAppliedLogTerm := 1 } true

def overtaken : List (Lbl Unit ClusterSnapshot) :=
  [.apply [entryAt 7 1 .blank], .getSnapshotBuilder, received 5]

def storedId (s : Node Unit ClusterSnapshot) : Option (Option LogId) := s.stored.map (·.1.lastLogId)

lemma not_notBack {s t : Node M B} {id id' : Option LogId} (hs : s.stored.map (·.1.lastLogId) = some id)
    (ht : t.stored.map (·.1.lastLogId) = some id') (hlt : rank id' < rank id) : ¬ NotBack s t := by
  intro h; obtain ⟨snapshot, hsn, rfl⟩ := map_eq_some_iff.mp hs
  obtain ⟨snapshot', hs', rfl⟩ := map_eq_some_iff.mp ht
  obtain ⟨new, hn, hle⟩ := h.stored snapshot hsn; grind

lemma not_exact_corrupt (info : SnapshotMeta Unit) :
    ¬ Exact partialFormat (fresh.installSnapshot partialFormat info none) := by
  intro h; obtain ⟨state, hd, -⟩ := h.stored (info, none) rfl; cases hd

theorem builder_overwrites_newer : (∃ s t : Node Unit ClusterSnapshot,
      ((machine ordersJson plainFormat).restrict (Allowed plainFormat)).Run fresh overtaken s ∧
        step ordersJson plainFormat s (.buildSnapshot 0 true) = some t ∧
        storedId s = some (some ⟨⟨1, 1⟩, 5⟩) ∧ storedId t = some (some ⟨⟨1, 1⟩, 1⟩) ∧ ¬ NotBack s t) ∧
      ∃ (info : SnapshotMeta Unit) (s : Node Unit (Option ClusterSnapshot)),
        (machine ordersJson partialFormat).Run fresh [.installSnapshot info none true] s ∧
          ¬ Exact partialFormat s := by
  have h : (LTS.exec (fun s l => if Allowed plainFormat s l then step ordersJson plainFormat s l else none)
      fresh overtaken).map (fun s => (storedId s,
        (step ordersJson plainFormat s (.buildSnapshot 0 true)).map storedId)) =
        some (some (some ⟨⟨1, 1⟩, 5⟩), some (some (some ⟨⟨1, 1⟩, 1⟩))) := by decide +kernel
  obtain ⟨s, hs, hv⟩ := map_eq_some_iff.mp h; obtain ⟨hid, hn⟩ := Prod.mk.inj hv
  obtain ⟨t, ht, hid'⟩ := map_eq_some_iff.mp hn
  exact ⟨⟨s, t, LTS.run_restrict_of_exec hs, ht, hid, hid', not_notBack hid hid' (by decide +kernel)⟩,
    ⟨some ⟨⟨1, 1⟩, 5⟩, ⟨none, ()⟩, "snap"⟩, _, .cons rfl (.nil _), not_exact_corrupt _⟩

def inTurn : List (Lbl Unit ClusterSnapshot) :=
  [.apply [entryAt 7 3 .blank], .getSnapshotBuilder, .apply [entryAt 8 4 (.normal (.assignPartition 0 1))],
    .buildSnapshot 0 true, .getSnapshotBuilder, .buildSnapshot 1 true]

theorem snapshot_never_goes_back_in_turn : ∃ t s : Node Unit ClusterSnapshot,
      ((machine ordersJson plainFormat).restrict (Allowed plainFormat)).Run fresh [received 2] t ∧
        ((machine ordersJson plainFormat).restrict (Allowed plainFormat)).Run t inTurn s ∧
        storedId t = some (some ⟨⟨1, 1⟩, 2⟩) ∧ storedId s = some (some ⟨⟨1, 1⟩, 4⟩) ∧
        Exact plainFormat s ∧ NotBack t s := by
  have h : (LTS.exec (fun s l => if Allowed plainFormat s l then step ordersJson plainFormat s l else none)
      fresh [received 2]).map (fun t => (storedId t, (LTS.exec (fun s l => if Allowed plainFormat s l then
        step ordersJson plainFormat s l else none) t inTurn).map storedId)) =
      some (some (some ⟨⟨1, 1⟩, 2⟩), some (some (some ⟨⟨1, 1⟩, 4⟩))) := by decide +kernel
  obtain ⟨t, ht, hv⟩ := map_eq_some_iff.mp h; obtain ⟨hid, hn⟩ := Prod.mk.inj hv
  obtain ⟨s, hs, hid'⟩ := map_eq_some_iff.mp hn
  have hr : ((machine ordersJson plainFormat).restrict (Allowed plainFormat)).Run fresh [received 2] t :=
    LTS.run_restrict_of_exec ht
  have hr' : ((machine ordersJson plainFormat).restrict (Allowed plainFormat)).Run t inTurn s :=
    LTS.run_restrict_of_exec hs
  exact ⟨t, s, hr, hr', hid, hid', snapshot_never_goes_back (opened_fresh plainFormat) hr hr'⟩

end Demo

end Aeon.L4.SnapshotStore
