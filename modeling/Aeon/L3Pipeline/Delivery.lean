import Aeon.Core.HashMap
import Aeon.L1Types.Event

/-!
# Delivery ledger and acknowledged sequences

`crates/aeon-engine/src/delivery_ledger.rs` and the `AckSeqTracker` of `eo2.rs`. Both are keyed
without the output: by its event, and by the sink. The ledger's `Instant`s are left out. A ledger's
*positions* are what its entries say about the source.
-/
namespace Aeon.L3.Delivery

open List Aeon.Core Aeon.Types

/-- mirrors delivery_ledger.rs:13-25 -/
inductive DeliveryState
  | pending
  | failed (reason : String) (attempts : Nat)
  deriving DecidableEq

/-- mirrors delivery_ledger.rs:126-129 -/
def DeliveryState.attempted : DeliveryState → Nat
  | .pending => 1
  | .failed _ attempts => attempts + 1

/-- mirrors delivery_ledger.rs:27-38 -/
structure LedgerEntry where
  eventId : Uuid
  partition : PartitionId
  sourceOffset : Int
  state : DeliveryState

/-- mirrors delivery_ledger.rs:55-65 -/
structure DeliveryLedger where
  entries : List LedgerEntry := []
  totalTracked : Nat := 0
  totalAcked : Nat := 0
  totalFailed : Nat := 0

namespace DeliveryLedger

/-- mirrors delivery_ledger.rs:81-95 -/
def track (l : DeliveryLedger) (eventId : Uuid) (partition : PartitionId) (sourceOffset : Int) :
    DeliveryLedger :=
  { l with
    entries := l.entries.filter (·.eventId ≠ eventId) ++ [⟨eventId, partition, sourceOffset, .pending⟩]
    totalTracked := l.totalTracked + 1 }

/-- mirrors delivery_ledger.rs:97-107 -/
def markAcked (l : DeliveryLedger) (eventId : Uuid) : DeliveryLedger × Bool :=
  if eventId ∈ l.entries.map LedgerEntry.eventId then
    ({ l with entries := l.entries.filter (·.eventId ≠ eventId), totalAcked := l.totalAcked + 1 }, true)
  else (l, false)

/-- mirrors delivery_ledger.rs:109-118 -/
def markBatchAcked (l : DeliveryLedger) : List Uuid → DeliveryLedger × Nat
  | [] => (l, 0)
  | id :: ids =>
    let (l, acked) := l.markAcked id
    let (l, count) := l.markBatchAcked ids
    (l, if acked then count + 1 else count)

/-- mirrors delivery_ledger.rs:120-143 -/
def markFailed (l : DeliveryLedger) (eventId : Uuid) (reason : String) : DeliveryLedger × Bool :=
  if eventId ∈ l.entries.map LedgerEntry.eventId then
    ({ l with
      entries := l.entries.map fun e =>
        if e.eventId = eventId then { e with state := .failed reason e.state.attempted }
        else e
      totalFailed := l.totalFailed + 1 }, true)
  else (l, false)

/-- mirrors delivery_ledger.rs:171-178 -/
def pendingIds (l : DeliveryLedger) : List Uuid :=
  (l.entries.filter (·.state = .pending)).map LedgerEntry.eventId

def lowerOffset (offsets : HashMap PartitionId Int) (e : LedgerEntry) : HashMap PartitionId Int :=
  offsets.insert e.partition (match offsets.lookup e.partition with
    | some o => min o e.sourceOffset
    | none => e.sourceOffset)

/-- mirrors delivery_ledger.rs:224-234 -/
def checkpointOffsets (l : DeliveryLedger) : HashMap PartitionId Int := l.entries.foldl lowerOffset ∅

/-! ### Positions -/

def positions (l : DeliveryLedger) : List (Uuid × PartitionId × Int) :=
  l.entries.map fun e => (e.eventId, e.partition, e.sourceOffset)

variable {l : DeliveryLedger} {x : Uuid × PartitionId × Int}

lemma positions_filter (id : Uuid) :
    (l.entries.filter (·.eventId ≠ id)).map (fun e => (e.eventId, e.partition, e.sourceOffset)) =
      l.positions.filter (·.1 ≠ id) := by
  rw [positions, List.filter_map]; rfl

variable {id : Uuid}

lemma mem_positions_track {p : PartitionId} {o : Int} :
    x ∈ (l.track id p o).positions ↔ (x ∈ l.positions ∧ x.1 ≠ id) ∨ x = (id, p, o) := by
  rw [positions, track, map_append, positions_filter]; simp

lemma mem_positions_markAcked : x ∈ (l.markAcked id).1.positions ↔ x ∈ l.positions ∧ x.1 ≠ id := by
  unfold markAcked; split_ifs with hm
  · rw [positions, positions_filter]; simp
  · refine ⟨fun hx => ⟨hx, fun heq => hm ?_⟩, fun hx => hx.1⟩
    obtain ⟨e, he, rfl⟩ := List.mem_map.mp hx; grind

lemma mem_positions_markBatchAcked {ids : List Uuid} :
    x ∈ (l.markBatchAcked ids).1.positions ↔ x ∈ l.positions ∧ x.1 ∉ ids := by
  induction ids generalizing l with
  | nil => simp [markBatchAcked]
  | cons id ids ih => simp only [markBatchAcked, ih, mem_positions_markAcked, mem_cons, not_or, and_assoc]

lemma positions_markFailed {reason : String} : (l.markFailed id reason).1.positions = l.positions := by
  unfold markFailed; split_ifs
  · rw [positions, positions, List.map_map]; refine map_congr_left fun e _ => ?_; grind
  · rfl

lemma lookup_lowerOffset {offsets : HashMap PartitionId Int}
    (h : offsets.lookup p = some o) (e : LedgerEntry) :
    ∃ o', (lowerOffset offsets e).lookup p = some o' ∧ o' ≤ o := by
  unfold lowerOffset; by_cases hp : p = e.partition
  · subst hp; simp_all
  simp_all

lemma lookup_lowerOffset_self (offsets : HashMap PartitionId Int) (e : LedgerEntry) :
    ∃ o, (lowerOffset offsets e).lookup e.partition = some o ∧ o ≤ e.sourceOffset := by
  refine ⟨_, Finmap.lookup_insert _, ?_⟩; grind

lemma checkpointOffsets_le (hx : x ∈ l.positions) :
    ∃ o, l.checkpointOffsets.lookup x.2.1 = some o ∧ o ≤ x.2.2 := by
  obtain ⟨e, he, rfl⟩ := List.mem_map.mp hx
  have hf : ∀ (es : List LedgerEntry) (offsets : HashMap PartitionId Int),
      (e ∈ es ∨ ∃ o, offsets.lookup e.partition = some o ∧ o ≤ e.sourceOffset) →
      ∃ o, (es.foldl lowerOffset offsets).lookup e.partition = some o ∧ o ≤ e.sourceOffset := by
    intro es
    induction es with
    | nil => exact fun offsets h => h.resolve_left not_mem_nil
    | cons e' es ih =>
      intro offsets h; refine ih _ ?_; rcases h with h | ⟨o, ho, hle⟩
      · rcases mem_cons.mp h with rfl | h
        · exact .inr (lookup_lowerOffset_self offsets e)
        · exact .inl h
      · obtain ⟨o', ho', hle'⟩ := lookup_lowerOffset ho e'; grind
  exact hf l.entries ∅ (.inl he)

/-! ### States -/

def stateOf (l : DeliveryLedger) (id : Uuid) : Option DeliveryState :=
  (l.entries.find? (·.eventId = id)).map LedgerEntry.state

variable {id id' : Uuid}

lemma find?_filter_ne {entries : List LedgerEntry} (h : id' ≠ id) :
    (entries.filter (·.eventId ≠ id)).find? (·.eventId = id') = entries.find? (·.eventId = id') := by grind

lemma find?_filter_self (entries : List LedgerEntry) (id : Uuid) :
    (entries.filter (·.eventId ≠ id)).find? (·.eventId = id) = none := by simp [find?_eq_none]

lemma stateOf_track {p : PartitionId} {o : Int} :
    (l.track id p o).stateOf id' = if id' = id then some .pending else l.stateOf id' := by
  unfold stateOf track; split_ifs with h
  · subst h; rw [find?_append, find?_filter_self]; simp
  · rw [find?_append, find?_filter_ne h]; simp [Ne.symm h]

lemma stateOf_eq_none : l.stateOf id = none ↔ id ∉ l.entries.map LedgerEntry.eventId := by
  simp [stateOf, find?_eq_none]

lemma stateOf_markAcked :
    (l.markAcked id).1.stateOf id' = if id' = id then none else l.stateOf id' := by grind [stateOf, markAcked]

lemma stateOf_markBatchAcked {ids : List Uuid} :
    (l.markBatchAcked ids).1.stateOf id = if id ∈ ids then none else l.stateOf id := by
  induction ids generalizing l with
  | nil => simp [markBatchAcked]
  | cons id' ids ih => simp only [markBatchAcked, ih, stateOf_markAcked, mem_cons]; split_ifs <;> tauto

lemma find?_map_of_keeps {g : LedgerEntry → LedgerEntry} (hg : ∀ e, (g e).eventId = e.eventId)
    (entries : List LedgerEntry) (id : Uuid) :
    (entries.map g).find? (·.eventId = id) = (entries.find? (·.eventId = id)).map g := by
  rw [find?_map]; simp only [Function.comp_def, hg]

lemma stateOf_markFailed {reason : String} : (l.markFailed id reason).1.stateOf id' =
      if id' = id then (l.stateOf id').map fun state =>
        .failed reason state.attempted else l.stateOf id' := by
  unfold markFailed; split_ifs with hm h h
  · rw [stateOf, find?_map_of_keeps (fun e => by split_ifs <;> rfl), stateOf, Option.map_map, Option.map_map]
    refine Option.map_congr fun e he => ?_; grind
  · rw [stateOf, find?_map_of_keeps (fun e => by split_ifs <;> rfl), stateOf, Option.map_map]
    refine Option.map_congr fun e he => ?_; grind
  · rw [stateOf_eq_none.mpr (h ▸ hm)]; rfl
  · rfl

end DeliveryLedger

/-- mirrors eo2.rs:407-412 -/
structure AckSeqTracker where
  inner : List (String × Nat) := []

namespace AckSeqTracker

variable (t : AckSeqTracker)

/-- mirrors eo2.rs:433-438 -/
def registerSink (sink : String) : AckSeqTracker :=
  if sink ∈ t.inner.map Prod.fst then t else ⟨t.inner ++ [(sink, 0)]⟩

/-- mirrors eo2.rs:419-428 -/
def recordAck (sink : String) (seq : Nat) : AckSeqTracker :=
  ⟨(t.registerSink sink).inner.map fun (k, v) => (k, if k = sink then max v seq else v)⟩

/-- mirrors eo2.rs:440-443 -/
def snapshot : HashMap String Nat :=
  (t.inner.map fun (k, v) => (⟨k, v⟩ : Σ _ : String, Nat)).toFinmap

/-- mirrors eo2.rs:445-452 -/
def minAcrossSinks : Option Nat := (t.inner.map Prod.snd).min?

variable {t : AckSeqTracker} {sink : String} {seq v : Nat}

lemma minAcrossSinks_le (h : (sink, v) ∈ t.inner) (hw : t.minAcrossSinks = some w) : w ≤ v :=
  (min?_eq_some_iff.mp hw).2 v (List.mem_map.mpr ⟨_, h, rfl⟩)

lemma mem_registerSink_of_mem (h : x ∈ t.inner) : x ∈ (t.registerSink sink).inner := by grind [registerSink]

lemma mem_registerSink (h : x ∈ (t.registerSink sink).inner) : x ∈ t.inner ∨ x.1 = sink := by
  grind [registerSink]

lemma registerSink_new (h : sink ∉ t.inner.map Prod.fst) : (sink, 0) ∈ (t.registerSink sink).inner := by
  simp [registerSink, if_neg h]

lemma mem_recordAck_self (h : (sink, v) ∈ t.inner) : (sink, max v seq) ∈ (t.recordAck sink seq).inner :=
  List.mem_map.mpr ⟨(sink, v), mem_registerSink_of_mem h, by simp⟩

lemma mem_recordAck_of_ne (h : x ∈ t.inner) (hne : x.1 ≠ sink) : x ∈ (t.recordAck sink seq).inner :=
  List.mem_map.mpr ⟨x, mem_registerSink_of_mem h, by simp [hne]⟩

lemma mem_recordAck (h : x ∈ (t.recordAck sink seq).inner) : x ∈ t.inner ∨ x.1 = sink := by
  obtain ⟨y, hy, rfl⟩ := List.mem_map.mp h; by_cases hk : y.1 = sink
  · exact .inr hk
  · rcases mem_registerSink hy with hy | hy
    · grind
    · exact .inr hy

end AckSeqTracker

end Aeon.L3.Delivery
