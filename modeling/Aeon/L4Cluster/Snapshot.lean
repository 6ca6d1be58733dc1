import Aeon.L4Cluster.StateMachine
import Aeon.L4Cluster.RaftLog
import Aeon.L4Cluster.Registry

/-!
# Snapshots of the cluster state machine

`StateMachineStore` (`crates/aeon-cluster/src/store.rs`): `apply`, `build_snapshot`,
`install_snapshot`. `Registry` entries go to an applier whose catalogs are not in the snapshot;
`Env` is what a node's own maps and clock add.

* `snapshot_equivalent`: when a node that installs a snapshot ends where one that applied the log
  ends;
* `snapshot_loses_pipeline`: a pipeline created before the snapshot.
-/
namespace Aeon.L4.Snapshot

open List Aeon.Core Aeon.L4.Cluster Aeon.L4.Registry
open Aeon.L4.RaftLog (LogId Entry)

variable {M B : Type}

structure StoredMembership (M : Type) where
  logId : Option LogId
  membership : M

inductive EntryPayload (M : Type)
  | blank
  | normal (req : ClusterRequest)
  | membership (m : M)

/-- mirrors store.rs:226-268 -/
structure StateMachineStore (M : Type) where
  state : ClusterSnapshot := {}
  lastAppliedLog : Option LogId := none
  lastMembership : StoredMembership M
  snapshotIdx : UInt64 := 0
  registryApplier : Bool := false
  registries : Registries := {}

def StateMachineStore.new (m : M) : StateMachineStore M := { lastMembership := ⟨none, m⟩ }

/-- mirrors node.rs:1451-1457 and crates/aeon-cli/src/main.rs:1046-1058 -/
def StateMachineStore.installRegistryApplier (n : StateMachineStore M) : StateMachineStore M :=
  { n with registryApplier := true }

structure Json where
  fromSlice : List UInt8 → Except String RegistryCommand
  toVec : RegistryResponse → Except String (List UInt8)

structure Env where
  orders : Orders
  clock : Clock
  installs : Bool := false

variable (env : Env)

def Env.before (n : StateMachineStore M) : StateMachineStore M :=
  if env.installs then n.installRegistryApplier else n

/-- mirrors types.rs:155-161 -/
def registryResponse (js : Json) (resp : RegistryResponse) : ClusterResponse :=
  match js.toVec resp with
  | .ok bytes => .registry bytes
  | .error e => .error ("cluster error: RegistryResponse serialize failed: " ++ e)

def StateMachineStore.mark (n : StateMachineStore M) (id : LogId) : StateMachineStore M := { n with
    lastAppliedLog := some id
    state := { n.state with
      lastAppliedLogIndex := id.index
      lastAppliedLogTerm := id.leaderId.term } }

/-- mirrors store.rs:634-656 -/
def applyRegistry (js : Json) (clock : Clock) (n : StateMachineStore M) (payload : List UInt8) :
    StateMachineStore M × ClusterResponse :=
  match js.fromSlice payload with
  | .ok cmd =>
    if n.registryApplier then
      let out := n.registries.apply clock cmd
      ({ n with registries := out.1 }, registryResponse js out.2)
    else (n, .ok)
  | .error e => (n, .error ("malformed Registry payload: " ++ e))

/-- mirrors store.rs:625-668 -/
def applyEntry (js : Json) (env : Env) (n : StateMachineStore M) (e : Entry (EntryPayload M)) :
    Option (StateMachineStore M × ClusterResponse) :=
  let n := (env.before n).mark e.logId
  match e.payload with
  | .blank => some (n, .ok)
  | .normal (.registry payload) => some (applyRegistry js env.clock n payload)
  | .normal req => (applyRequest env.orders n.state req).map fun out =>
      ({ n with state := out.1 }, out.2)
  | .membership m => some ({ n with lastMembership := ⟨some e.logId, m⟩ }, .ok)

structure SnapshotMeta (M : Type) where
  lastLogId : Option LogId
  lastMembership : StoredMembership M
  snapshotId : String

structure Format (B : Type) where
  toBytes : ClusterSnapshot → B
  fromBytes : B → Option ClusterSnapshot
  roundTrip : ∀ s, fromBytes (toBytes s) = some s

/-- mirrors store.rs:682-700 -/
def StateMachineStore.getSnapshotBuilder (n : StateMachineStore M) : StateMachineStore M :=
  { n with snapshotIdx := n.snapshotIdx + 1 }

variable (fmt : Format B)

/-- mirrors store.rs:525-580 -/
def StateMachineStore.buildSnapshot (n : StateMachineStore M) : SnapshotMeta M × B :=
  ({ lastLogId := n.lastAppliedLog
     lastMembership := n.lastMembership
     snapshotId := "snap-" ++ toString ((n.lastAppliedLog.map LogId.index).getD 0).toNat ++ "-" ++
      toString n.snapshotIdx.toNat },
    fmt.toBytes n.state)

/-- mirrors store.rs:709-760 -/
def StateMachineStore.installSnapshot (n : StateMachineStore M) (snapshot : SnapshotMeta M × B) :
    Option (StateMachineStore M) :=
  (fmt.fromBytes snapshot.2).map fun state =>
    { n with
      state
      lastAppliedLog := snapshot.1.lastLogId
      lastMembership := snapshot.1.lastMembership }

def Env.Valid (n : StateMachineStore M) (e : Entry (EntryPayload M)) : Prop :=
  ∀ req, e.payload = .normal req → env.orders.Valid n.state req

inductive Applies (js : Json) : StateMachineStore M → List (Env × Entry (EntryPayload M)) →
    Option (StateMachineStore M) → Prop
  | nil (n : StateMachineStore M) : Applies js n [] (some n)
  | panic {n : StateMachineStore M} {env : Env} {e : Entry (EntryPayload M)}
      {ws : List (Env × Entry (EntryPayload M))} :
      env.Valid n e → applyEntry js env n e = none → Applies js n ((env, e) :: ws) none
  | step {n n₁ : StateMachineStore M} {env : Env} {e : Entry (EntryPayload M)}
      {resp : ClusterResponse} {ws : List (Env × Entry (EntryPayload M))}
      {out : Option (StateMachineStore M)} :
      env.Valid n e → applyEntry js env n e = some (n₁, resp) → Applies js n₁ ws out →
        Applies js n ((env, e) :: ws) out

def Insensitive (n : StateMachineStore M) (e : Entry (EntryPayload M)) : Prop :=
  ∀ nodes, e.payload = .normal (.rebalancePartitions nodes) →
    nodes.Nodup ∧ MovesWhole n.state.partitionTable nodes

def Steady (js : Json) : StateMachineStore M → List (Env × Entry (EntryPayload M)) → Prop
  | _, [] => True
  | n, (env, e) :: ws =>
    Insensitive n e ∧ ∀ n₁ resp, applyEntry js env n e = some (n₁, resp) → Steady js n₁ ws

def command (js : Json) (e : Entry (EntryPayload M)) : Option RegistryCommand :=
  match e.payload with
  | .normal (.registry payload) => (js.fromSlice payload).toOption
  | _ => none

def Wired (js : Json) : Bool → List (Env × Entry (EntryPayload M)) → Prop
  | _, [] => True
  | applier, (env, e) :: ws =>
    ((command js e).isSome → applier || env.installs) ∧ Wired js (applier || env.installs) ws

structure SameCore (n n' : StateMachineStore M) : Prop where
  state : n.state = n'.state
  lastAppliedLog : n.lastAppliedLog = n'.lastAppliedLog
  lastMembership : n.lastMembership = n'.lastMembership

lemma before_core (n : StateMachineStore M) : SameCore (env.before n) n := by
  unfold Env.before; split <;> exact ⟨rfl, rfl, rfl⟩

lemma SameCore.mark (h : SameCore n n') (env env' : Env) (id : LogId) :
    SameCore ((env.before n).mark id) ((env'.before n').mark id) := by
  refine ⟨?_, rfl, ?_⟩
  · simp only [StateMachineStore.mark, (before_core _ _).state, h.state]
  · exact (before_core _ _).lastMembership.trans
      (h.lastMembership.trans (before_core _ _).lastMembership.symm)

lemma applyRegistry_core (js : Json) (clock : Clock) (n : StateMachineStore M) (payload : List UInt8) :
    SameCore (applyRegistry js clock n payload).1 n := by
  unfold applyRegistry; split
  · split_ifs <;> exact ⟨rfl, rfl, rfl⟩
  · exact ⟨rfl, rfl, rfl⟩

lemma applyEntry_normal {js : Json} {env : Env} {n : StateMachineStore M} {e : Entry (EntryPayload M)}
    {req : ClusterRequest} (he : e.payload = .normal req) (hr : ∀ payload, req ≠ .registry payload) :
    applyEntry js env n e = (applyRequest env.orders ((env.before n).mark e.logId).state req).map fun out =>
      ({ (env.before n).mark e.logId with state := out.1 }, out.2) := by simp [applyEntry, he]

lemma applyEntry_core (js : Json) {env env' : Env} {n n' : StateMachineStore M} {e : Entry (EntryPayload M)}
    (h : SameCore n n') (hv : env.Valid n e) (hv' : env'.Valid n' e) (hi : Insensitive n e) :
    Option.Rel (fun out out' => SameCore out.1 out'.1) (applyEntry js env n e) (applyEntry js env' n' e) := by
  cases he : e.payload with
  | blank => simp only [applyEntry, he]; exact .some (h.mark ..)
  | membership => simp only [applyEntry, he]; exact .some ⟨(h.mark env env' e.logId).state, rfl, rfl⟩
  | normal req =>
    by_cases hr : ∃ payload, req = .registry payload
    · obtain ⟨payload, rfl⟩ := hr; simp only [applyEntry, he]
      have hl := applyRegistry_core js env.clock ((env.before n).mark e.logId) payload
      have hr := applyRegistry_core js env'.clock ((env'.before n').mark e.logId) payload
      have hm := h.mark env env' e.logId
      exact .some ⟨hl.state.trans (hm.state.trans hr.state.symm),
        hl.lastAppliedLog.trans (hm.lastAppliedLog.trans hr.lastAppliedLog.symm),
        hl.lastMembership.trans (hm.lastMembership.trans hr.lastMembership.symm)⟩
    · have hr' : ∀ payload, req ≠ .registry payload := fun payload hp => hr ⟨payload, hp⟩
      have hm := h.mark env env' e.logId
      rw [applyEntry_normal he hr', applyEntry_normal he hr', ← hm.state]
      have ht : ((env.before n).mark e.logId).state.partitionTable = n.state.partitionTable := by
        simp only [StateMachineStore.mark, (before_core env n).state]
      have hd : applyRequest env.orders ((env.before n).mark e.logId).state req =
          applyRequest env'.orders ((env.before n).mark e.logId).state req := by
        refine applyRequest_det ?_ ?_ ?_ ?_
        · have := hv req he; rwa [Orders.Valid, ← ht] at this
        · have := hv' req he; rwa [Orders.Valid, ← h.state, ← ht] at this
        · intro nodes hn; exact (hi nodes (by rw [he, hn])).1
        · cases req with
          | rebalancePartitions nodes => rw [ht]; exact (hi nodes he).2
          | _ => exact trivial
      rw [hd]
      cases applyRequest env'.orders ((env.before n).mark e.logId).state req with
      | none => exact .none
      | some => exact .some ⟨rfl, rfl, hm.lastMembership⟩

lemma Applies.core {js : Json} {n n' : StateMachineStore M} {ws ws' : List (Env × Entry (EntryPayload M))}
    {out out' : Option (StateMachineStore M)} (h : SameCore n n') (hl : ws'.map Prod.snd = ws.map Prod.snd)
    (hs : Steady js n ws) (hr : Applies js n ws out) (hr' : Applies js n' ws' out') :
    Option.Rel SameCore out out' := by
  induction hr generalizing n' ws' with
  | nil => obtain rfl := map_eq_nil_iff.mp hl; cases hr'; exact .some h
  | panic hv =>
    obtain ⟨⟨env', e'⟩, ws', rfl, rfl, _⟩ := map_eq_cons_iff.mp hl
    cases hr' with
    | panic => exact .none
    | step hv' => have := applyEntry_core js h hv hv' hs.1; simp_all
  | step hv ha _ ih =>
    obtain ⟨⟨env', e'⟩, ws', rfl, rfl, ht⟩ := map_eq_cons_iff.mp hl
    cases hr' with
    | panic hv' => have := applyEntry_core js h hv hv' hs.1; simp_all
    | step hv' ha' hre' =>
      have hst := applyEntry_core js h hv hv' hs.1; rw [ha, ha'] at hst
      cases hst with
      | some hc => exact ih hc ht (hs.2 _ _ ha) hre'

lemma Applies.of_append (h : Applies js n (ws ++ ws') (some n₂)) :
    ∃ n₁, Applies js n ws (some n₁) ∧ Applies js n₁ ws' (some n₂) := by
  induction ws generalizing n with
  | nil => exact ⟨n, .nil n, h⟩
  | cons w ws ih =>
    cases h with
    | step hv ha hr => obtain ⟨n₁, h₁, h₂⟩ := ih hr; exact ⟨n₁, .step hv ha h₁, h₂⟩

lemma Steady.of_append (hs : Steady js n (ws ++ ws')) (h : Applies js n ws (some n₁)) :
    Steady js n ws ∧ Steady js n₁ ws' := by
  induction ws generalizing n with
  | nil => cases h; exact ⟨trivial, hs⟩
  | cons w ws ih =>
    cases h with
    | step hv ha hr =>
      refine ⟨⟨hs.1, fun m resp hm => ?_⟩, (ih (hs.2 _ _ ha) hr).2⟩; rw [ha] at hm; cases hm
      exact (ih (hs.2 _ _ ha) hr).1

def advance (js : Json) (r : Registries) (w : Env × Entry (EntryPayload M)) : Registries :=
  ((command js w.2).map fun cmd => (r.apply w.1.clock cmd).1).getD r

lemma before_registries (n : StateMachineStore M) : (env.before n).registries = n.registries ∧
    (env.before n).registryApplier = (n.registryApplier || env.installs) := by
  unfold Env.before; split <;> simp_all [StateMachineStore.installRegistryApplier]

lemma applyEntry_registries {js : Json} {env : Env} {n n₁ : StateMachineStore M} {e : Entry (EntryPayload M)}
    {resp : ClusterResponse} (hw : (command js e).isSome → n.registryApplier || env.installs)
    (h : applyEntry js env n e = some (n₁, resp)) :
    n₁.registries = advance js n.registries (env, e) ∧
    n₁.registryApplier = (n.registryApplier || env.installs) := by
  obtain ⟨hb, hi⟩ := before_registries env n
  cases he : e.payload with
  | blank | membership =>
    simp only [applyEntry, he, Option.some.injEq, Prod.mk.injEq] at h; obtain ⟨rfl, -⟩ := h
    simp [advance, command, he, StateMachineStore.mark, hb, hi]
  | normal req =>
    by_cases hr : ∃ payload, req = .registry payload
    · obtain ⟨payload, rfl⟩ := hr; simp only [applyEntry, he, Option.some.injEq] at h
      obtain rfl := (Prod.ext_iff.mp h).1
      cases hc : js.fromSlice payload with
      | error =>
        simp [applyRegistry, hc, advance, command, he, Except.toOption, StateMachineStore.mark, hb, hi]
      | ok =>
        have ha : (n.registryApplier || env.installs) = true :=
          hw (by simp [command, he, hc, Except.toOption])
        simp [applyRegistry, hc, ha, advance, command, he, Except.toOption, StateMachineStore.mark, hb, hi]
    · have hr' : ∀ payload, req ≠ .registry payload := fun payload hp => hr ⟨payload, hp⟩
      rw [applyEntry_normal he hr'] at h; obtain ⟨out, -, ho⟩ := Option.map_eq_some_iff.mp h
      obtain rfl := (Prod.ext_iff.mp ho).1
      have hcm : command js e = none := by simp_all [command]
      simp [advance, hcm, StateMachineStore.mark, hb, hi]

lemma Applies.registries (hw : Wired js n.registryApplier (ws ++ ws')) (h : Applies js n ws (some n₁)) :
    n₁.registries = ws.foldl (advance js) n.registries ∧ Wired js n₁.registryApplier ws' := by
  induction ws generalizing n with
  | nil => cases h; exact ⟨rfl, hw⟩
  | cons w ws ih =>
    cases h with
    | step hv ha hre =>
      obtain ⟨hr, hap⟩ := applyEntry_registries hw.1 ha
      rw [foldl_cons, ← hr]; exact ih (hap ▸ hw.2) hre

lemma advance_alike (h : r.Alike r') (he : w'.2 = w.2) : (advance js r w).Alike (advance js r' w') := by
  unfold advance; rw [he]
  cases command js w.2 with
  | none => exact h
  | some cmd => exact (h.apply cmd w.1.clock w'.1.clock).1

lemma foldl_advance_alike {js : Json} {r r' : Registries} (h : r.Alike r')
    {ws ws' : List (Env × Entry (EntryPayload M))} (hl : ws'.map Prod.snd = ws.map Prod.snd) :
    (ws.foldl (advance js) r).Alike (ws'.foldl (advance js) r') := by
  induction ws generalizing r r' ws' with
  | nil => simp_all
  | cons w ws ih =>
    obtain ⟨w', ws', rfl, he, ht⟩ := map_eq_cons_iff.mp hl
    exact ih (advance_alike h he) ht

lemma foldl_advance_congr {js : Json} {r : Registries} {ws ws' : List (Env × Entry (EntryPayload M))}
    (hl : ws'.map Prod.snd = ws.map Prod.snd) (hc : ws'.map (·.1.clock) = ws.map (·.1.clock)) :
    ws'.foldl (advance js) r = ws.foldl (advance js) r := by
  induction ws generalizing r ws' with
  | nil => simp_all
  | cons w =>
    obtain ⟨w', ws', rfl, he, ht⟩ := map_eq_cons_iff.mp hl
    simp only [map_cons, List.cons.injEq] at hc
    have hw : advance js r w' = advance js r w := by unfold advance; rw [he, hc.1]
    grind

lemma foldl_advance_free {js : Json} {r : Registries} {ws : List (Env × Entry (EntryPayload M))}
    (hf : ∀ w ∈ ws, command js w.2 = none) : ws.foldl (advance js) r = r := by
  induction ws with
  | nil => rfl
  | cons w =>
    have hw : advance js r w = r := by simp [advance, hf w mem_cons_self]
    grind

lemma installSnapshot_buildSnapshot (n b : StateMachineStore M) :
    ∃ n', n.installSnapshot fmt (b.buildSnapshot fmt) = some n' ∧ SameCore b n' ∧
      n'.registries = n.registries ∧ n'.registryApplier = n.registryApplier := by
  refine ⟨{ n with
    state := b.state
    lastAppliedLog := b.lastAppliedLog
    lastMembership := b.lastMembership }, ?_, ⟨rfl, rfl, rfl⟩, rfl, rfl⟩
  simp [StateMachineStore.installSnapshot, StateMachineStore.buildSnapshot, fmt.roundTrip]

theorem snapshot_equivalent (js : Json) (fmt : Format B) (m₀ : M)
    (pre mid suf build join rest : List (Env × Entry (EntryPayload M)))
    (hbu : build.map Prod.snd = (pre ++ mid).map Prod.snd) (hjo : join.map Prod.snd = pre.map Prod.snd)
    (hr : rest.map Prod.snd = suf.map Prod.snd) (hfr : ∀ w ∈ mid, command js w.2 = none)
    (hwa : Wired js false (pre ++ mid ++ suf)) (hwj : Wired js false (join ++ rest))
    (hs : Steady js (.new m₀) (pre ++ mid ++ suf)) {a b j : StateMachineStore M}
    (ha : Applies js (.new m₀) (pre ++ mid ++ suf) (some a)) (hb : Applies js (.new m₀) build (some b))
    (hj : Applies js (.new m₀) join (some j)) :
    ∃ j₁, j.installSnapshot fmt (b.getSnapshotBuilder.buildSnapshot fmt) = some j₁ ∧
      ∀ out, Applies js j₁ rest out → ∃ j₂, out = some j₂ ∧ SameCore a j₂ ∧ a.registries.Alike j₂.registries ∧
        (join.map (·.1.clock) = pre.map (·.1.clock) → rest.map (·.1.clock) = suf.map (·.1.clock) →
          j₂.registries = a.registries) := by
  obtain ⟨j₁, hi, hco, hre, hap⟩ := installSnapshot_buildSnapshot fmt j b.getSnapshotBuilder
  refine ⟨j₁, hi, fun out ho => ?_⟩; obtain ⟨aₖ, haₖ, hau⟩ := ha.of_append
  obtain ⟨hsₖ, hss⟩ := hs.of_append haₖ
  have hbk : SameCore aₖ b := by
    have hrl := Applies.core ⟨rfl, rfl, rfl⟩ hbu hsₖ haₖ hb
    cases hrl with
    | some h => exact h
  have hst : SameCore aₖ j₁ := ⟨hbk.state.trans hco.state,
    hbk.lastAppliedLog.trans hco.lastAppliedLog, hbk.lastMembership.trans hco.lastMembership⟩
  have he := Applies.core hst hr hss hau ho
  cases out with
  | none => cases he
  | some j₂ =>
    cases he with
    | some hsa =>
      obtain ⟨hjr, hjw⟩ := hj.registries hwj
      have hj₂ : j₂.registries = rest.foldl (advance js) (join.foldl (advance js) {}) := by
        rw [← hap, ← append_nil rest] at hjw
        rw [(ho.registries hjw).1, hre, hjr]; rfl
      have har : a.registries = suf.foldl (advance js) (pre.foldl (advance js) {}) := by
        rw [← append_nil (pre ++ mid ++ suf)] at hwa
        rw [(ha.registries hwa).1, foldl_append, foldl_append, foldl_advance_free hfr]; rfl
      refine ⟨j₂, rfl, hsa, ?_, fun hc hc' => ?_⟩
      · rw [har, hj₂]; exact foldl_advance_alike (foldl_advance_alike (.refl _) hjo) hr
      grind [foldl_advance_congr]

section Demo

def orders : PipelineDefinition :=
  { name := "orders"
    sources := [{ sourceType := "kafka" }]
    processor := ⟨"enrich", "1.0.0"⟩
    sinks := [{ sinkType := "kafka" }]
    createdAt := 1000
    updatedAt := 1000 }

def ordersJson : Json where
  fromSlice _ := .ok (.createPipeline orders)
  toVec _ := .ok []

def plainFormat : Format ClusterSnapshot := ⟨id, some, fun _ => rfl⟩

def entryAt (t : Int64) (i : UInt64) (payload : EntryPayload Unit) : Env × Entry (EntryPayload Unit) :=
  (⟨⟨[], []⟩, fun _ => t, i = 1⟩, ⟨⟨⟨1, 1⟩, i⟩, payload⟩)

lemma entryAt_valid {payload : EntryPayload Unit} (ht : n.state.partitionTable = ∅)
    (hp : ∀ req, payload = .normal req → req.sourceOffsets = ∅) :
    (entryAt t i payload).1.Valid n (entryAt t i payload).2 := by
  intro req hr; rw [Orders.Valid, ht, hp req hr]; exact ⟨rfl, rfl⟩

theorem snapshot_equivalent_lagging : ∃ a b j j₁ j₂ : StateMachineStore Unit,
    Applies ordersJson (.new ()) [entryAt 7 1 (.normal (.registry [])), entryAt 8 2 .blank,
      entryAt 9 3 (.normal (.assignPartition 0 1))] (some a) ∧
    Applies ordersJson (.new ()) [entryAt 5 1 (.normal (.registry [])), entryAt 5 2 .blank] (some b) ∧
    Applies ordersJson (.new ()) [entryAt 6 1 (.normal (.registry []))] (some j) ∧
    j.installSnapshot plainFormat (b.getSnapshotBuilder.buildSnapshot plainFormat) = some j₁ ∧
    Applies ordersJson j₁ [entryAt 9 3 (.normal (.assignPartition 0 1))] (some j₂) ∧
    SameCore a j₂ ∧ a.registries.Alike j₂.registries := by
  have ha : ∃ a, Applies ordersJson (.new ()) [entryAt 7 1 (.normal (.registry [])), entryAt 8 2 .blank,
      entryAt 9 3 (.normal (.assignPartition 0 1))] (some a) :=
    ⟨_, .step (entryAt_valid rfl (by simp [ClusterRequest.sourceOffsets])) rfl
      (.step (entryAt_valid rfl (by simp)) rfl
        (.step (entryAt_valid rfl (by simp [ClusterRequest.sourceOffsets])) rfl (.nil _)))⟩
  have hb : ∃ b, Applies ordersJson (.new ()) [entryAt 5 1 (.normal (.registry [])), entryAt 5 2 .blank]
      (some b) ∧ b.state.partitionTable = ∅ :=
    ⟨_, .step (entryAt_valid rfl (by simp [ClusterRequest.sourceOffsets])) rfl
      (.step (entryAt_valid rfl (by simp)) rfl (.nil _)), rfl⟩
  have hj : ∃ j, Applies ordersJson (.new ()) [entryAt 6 1 (.normal (.registry []))] (some j) :=
    ⟨_, .step (entryAt_valid rfl (by simp [ClusterRequest.sourceOffsets])) rfl (.nil _)⟩
  obtain ⟨a, ha⟩ := ha; obtain ⟨b, hb, ht⟩ := hb; obtain ⟨j, hj⟩ := hj
  obtain ⟨j₁, hi, hA⟩ := snapshot_equivalent ordersJson plainFormat ()
    [entryAt 7 1 (.normal (.registry []))] [entryAt 8 2 .blank]
    [entryAt 9 3 (.normal (.assignPartition 0 1))]
    [entryAt 5 1 (.normal (.registry [])), entryAt 5 2 .blank] [entryAt 6 1 (.normal (.registry []))]
    [entryAt 9 3 (.normal (.assignPartition 0 1))]
    rfl rfl rfl (by simp [entryAt, command]) (by simp [Wired, entryAt]) (by simp [Wired, entryAt])
      (by simp [Steady, Insensitive, entryAt]) ha hb hj
  have hj₁ : j₁.state.partitionTable = ∅ := by
    simp only [StateMachineStore.installSnapshot, plainFormat, Option.map_some, Option.some.injEq] at hi
    rw [← hi]; exact ht
  obtain ⟨j₂, hr⟩ : ∃ j₂, Applies ordersJson j₁ [entryAt 9 3 (.normal (.assignPartition 0 1))] (some j₂) :=
    ⟨_, .step (entryAt_valid hj₁ (by simp [ClusterRequest.sourceOffsets])) rfl (.nil _)⟩
  obtain ⟨j₃, hj₂, hc, hal, -⟩ := hA _ hr; cases hj₂
  exact ⟨a, b, j, j₁, j₂, ha, hb, hj, hi, hr, hc, hal⟩

theorem snapshot_loses_pipeline : ∃ a j : StateMachineStore Unit,
    Applies ordersJson (.new ()) [entryAt 7 1 (.normal (.registry []))] (some a) ∧
    (StateMachineStore.new ()).installRegistryApplier.installSnapshot plainFormat
      (a.getSnapshotBuilder.buildSnapshot plainFormat) = some j ∧
    SameCore a j ∧ a.registries.pipelines.pipelines.lookup "orders" = some orders ∧
    j.registries.pipelines.pipelines.lookup "orders" = none := by
  refine ⟨_, _, .step (entryAt_valid rfl (by simp [ClusterRequest.sourceOffsets])) rfl (.nil _), rfl,
    ⟨rfl, rfl, rfl⟩, ?_, ?_⟩
  · exact Finmap.lookup_insert _
  · exact Finmap.lookup_empty _

end Demo

end Aeon.L4.Snapshot
