import Aeon.Core.LTS
import Aeon.L1Types.Event

/-!
# The Redis Streams source

`crates/aeon-connectors/src/redis_streams/source.rs`, against a server whose calls may fail behind
their effect. The process may crash between calls. `owed`: delivered, not acknowledged and not held.

* `acked_asked`: only entries of earlier batches are acknowledged;
* `at_least_once`: when nothing is owed at a drained stream;
* `entries_lost`: a lost reply, a lost acknowledgement, a crash.
-/
namespace Aeon.L3.Redis

open List Aeon.Core Aeon.Types

structure Entry where
  id : Option (BitVec 64 × BitVec 64)
  fields : List (String × Bytes)

structure Server where
  entries : List Entry := []
  served : Nat := 0
  pel : List Nat := []
  acked : List Nat := []

namespace Server

variable (b : Server)

def next (count : Nat) : List Nat :=
  let available := b.entries.length - b.served
  List.range' b.served (if count = 0 then available else min count available)

def xreadgroup (count : Nat) : Server :=
  { b with served := b.served + (b.next count).length, pel := b.pel ++ b.next count }

def xack (ids : List Nat) : Server :=
  { b with pel := b.pel.filter (· ∉ ids), acked := b.acked ++ ids.filter (· ∈ b.pel) }

end Server

structure Utf8 where
  valid : Bytes → Bool
  lossy : Bytes → Bytes

variable (U : Utf8)

/-- mirrors source.rs:315-329 -/
def payload (e : Entry) : Bytes :=
  let allFields := (e.fields.map fun f => f.1.toUTF8.toList ++ 61 :: U.lossy f.2).intersperse [44] |>.flatten
  match e.fields.lookup "data" with
  | some data => if U.valid data then data else allFields
  | none => allFields

/-- mirrors source.rs:374-381 -/
def parseStreamIdToI64 (id : Option (BitVec 64 × BitVec 64)) : Option Int := id.map fun (ms, seq) =>
    let packed := (ms <<< 16) ||| (if seq < 0xFFFF then seq else 0xFFFF)
    ((packed &&& 0x7FFFFFFFFFFFFFFF).toNat : Int)

/-- mirrors source.rs:331-353 -/
def toEvent (sourceName : String) (id : Uuid) (e : Entry) : Event where
  id := id
  timestamp := 0
  source := sourceName
  partition := 0
  metadata := []
  payload := payload U e
  sourceOffset := parseStreamIdToI64 e.id
  l2Seq := none

/-- mirrors source.rs:133-142 -/
structure RedisSource where
  batchSize : Nat
  sourceName : String
  conn : Bool := true
  pendingAckIds : List Nat := []

inductive Call
  | ok
  | failed (executed : Bool)
  deriving DecidableEq

structure State where
  server : Server := {}
  source : RedisSource
  returned : List Nat := []
  asked : List Nat := []
  reports : List (List Nat) := []

namespace State

variable (s : State)

def owed : List Nat := s.server.pel.filter (· ∉ s.source.pendingAckIds)

/-- mirrors source.rs:217-235 -/
def ackPending (ack : Call) : State × Bool :=
  if s.source.pendingAckIds = [] then (s, true)
  else
    match ack with
    | .ok =>
      ({ s with
          server := s.server.xack s.source.pendingAckIds
          source := { s.source with pendingAckIds := [] } }, true)
    | .failed executed =>
      (if executed then { s with server := s.server.xack s.source.pendingAckIds } else s, false)

def disconnect : State := { s with source := { s.source with conn := false } }

/-- mirrors source.rs:280-358 -/
def read (U : Utf8) (call : Call) (uuid : Nat → Uuid) : State × List Event :=
  match call with
  | .failed executed =>
    ((if executed then { s with server := s.server.xreadgroup s.source.batchSize } else s).disconnect, [])
  | .ok =>
    let ids := s.server.next s.source.batchSize
    let s' := { s with
        server := s.server.xreadgroup s.source.batchSize
        source := { s.source with pendingAckIds := s.source.pendingAckIds ++ ids }
        returned := s.returned ++ ids }
    ({ s' with reports := if ids = [] then s.reports ++ [s'.owed] else s.reports },
      ids.filterMap fun id => (s.server.entries[id]?).map (toEvent U s.source.sourceName (uuid id)))

/-- mirrors source.rs:242-252 -/
def reconnect : State :=
  if s.source.conn then s else { s with source := { s.source with conn := true, pendingAckIds := [] } }

/-- mirrors source.rs:266-358 -/
def ackAndRead (U : Utf8) (ack call : Call) (uuid : Nat → Uuid) : State × List Event :=
  if (s.ackPending ack).2 then (s.ackPending ack).1.read U call uuid
  else ((s.ackPending ack).1.disconnect, [])

/-- mirrors source.rs:238-359 -/
def nextBatch (U : Utf8) (establish : Bool) (ack call : Call) (uuid : Nat → Uuid) : State × List Event :=
  let s := { s with asked := s.returned }
  if s.source.conn || establish then s.reconnect.ackAndRead U ack call uuid
  else (s, [])

/-- mirrors source.rs:146-170 -/
def restart : State := { s with source := { s.source with conn := true, pendingAckIds := [] } }

end State

inductive Label
  | add (e : Entry)
  | other (n : Nat)
  | nextBatch (establish : Bool) (ack call : Call) (uuid : Nat → Uuid)
  | restart

def step (s : State) : Label → Option State
  | .add e => some { s with server := { s.server with entries := s.server.entries ++ [e] } }
  | .other n =>
    let taken := min n (s.server.entries.length - s.server.served)
    some { s with server := { s.server with served := s.server.served + taken } }
  | .nextBatch establish ack call uuid => some (s.nextBatch U establish ack call uuid).1
  | .restart => some s.restart

def start (batchSize : Nat) (sourceName : String) : State := { source := { batchSize, sourceName } }

def system : LTS State Label := LTS.ofFn (fun s => ∃ batchSize name, s = start batchSize name) (step U)

def Allowed (s : State) : Label → Prop
  | .nextBatch _ ack call _ =>
    (ack = .failed false → s.server.pel = []) ∧ (call = .failed true → s.server.next s.source.batchSize = [])
  | .restart => s.server.pel = []
  | _ => True

variable {U : Utf8} {s s' : State}

@[simp] lemma reconnect_server : s.reconnect.server = s.server := by unfold State.reconnect; split_ifs <;> rfl

@[simp] lemma reconnect_conn : s.reconnect.source.conn = true := by grind [State.reconnect]

@[simp] lemma reconnect_batchSize : s.reconnect.source.batchSize = s.source.batchSize := by
  unfold State.reconnect; split_ifs <;> rfl

lemma ackPending_frame (s : State) (ack : Call) : ∃ pel acked held, (s.ackPending ack).1 =
      { s with server := { s.server with pel, acked }, source := { s.source with pendingAckIds := held }
        } := by
  unfold State.ackPending; split_ifs
  · exact ⟨_, _, _, rfl⟩
  · cases ack with
    | ok => exact ⟨_, _, _, rfl⟩
    | failed executed => cases executed <;> exact ⟨_, _, _, rfl⟩

structure Inv (s : State) : Prop where
  held : ∀ id ∈ s.source.pendingAckIds, id ∈ s.returned
  asked : ∀ id ∈ s.asked, id ∈ s.returned
  acked : ∀ id ∈ s.server.acked, id ∈ s.asked

structure Asked (s : State) : Prop extends Inv s where
  all : s.asked = s.returned

lemma mem_acked_xack {b : Server} {ids : List Nat} {id : Nat} (h : id ∈ (b.xack ids).acked) :
    id ∈ b.acked ∨ id ∈ ids := by
  rcases mem_append.mp h with h | h
  · exact .inl h
  grind

lemma Inv.ask (h : Inv s) : Asked { s with asked := s.returned } :=
  ⟨⟨h.held, fun _ hid => hid, fun id hid => h.asked id (h.acked id hid)⟩, rfl⟩

lemma Asked.reconnect (h : Asked s) : Asked s.reconnect := by
  unfold State.reconnect; split_ifs
  · exact h
  · exact ⟨⟨fun _ hid => absurd hid not_mem_nil, h.asked, h.acked⟩, h.all⟩

lemma Asked.ackPending (h : Asked s) (ack : Call) : Asked (s.ackPending ack).1 := by
  have hx : ∀ id ∈ (s.server.xack s.source.pendingAckIds).acked, id ∈ s.asked := by
    intro id hid; rcases mem_acked_xack hid with hid | hid
    · exact h.acked id hid
    · rw [h.all]; exact h.held id hid
  unfold State.ackPending; split_ifs
  · exact h
  · cases ack with
    | ok => exact ⟨⟨fun _ hid => absurd hid not_mem_nil, h.asked, hx⟩, h.all⟩
    | failed executed =>
      cases executed with
      | false => exact h
      | true => exact ⟨⟨h.held, h.asked, hx⟩, h.all⟩

lemma Asked.read (h : Asked s) (call : Call) (uuid : Nat → Uuid) : Inv (s.read U call uuid).1 := by
  cases call with
  | failed executed => cases executed <;> exact ⟨h.held, h.asked, h.acked⟩
  | ok =>
    refine ⟨fun id hid => ?_, fun id hid => mem_append_left _ (h.asked id hid), h.acked⟩
    rcases mem_append.mp hid with hid | hid
    · exact mem_append_left _ (h.held id hid)
    · exact mem_append_right _ hid

lemma Inv.nextBatch (h : Inv s) (establish : Bool) (ack call : Call) (uuid : Nat → Uuid) :
    Inv (s.nextBatch U establish ack call uuid).1 := by
  unfold State.nextBatch; simp only; split_ifs
  · have ha := h.ask.reconnect.ackPending ack; unfold State.ackAndRead; split_ifs
    · exact ha.read call uuid
    · exact ⟨ha.held, ha.toInv.asked, ha.acked⟩
  · exact h.ask.toInv

lemma Inv.step (h : Inv s) (hs : step U s l = some s') : Inv s' := by
  cases l with
  | add | other => cases hs; exact ⟨h.held, h.asked, h.acked⟩
  | nextBatch establish ack call uuid => cases hs; exact h.nextBatch establish ack call uuid
  | restart => cases hs; exact ⟨fun _ hid => absurd hid not_mem_nil, h.asked, h.acked⟩

lemma inv_start (batchSize : Nat) (name : String) : Inv (start batchSize name) := by
  constructor <;> exact fun _ hid => absurd hid not_mem_nil

lemma acked_asked {labels : List Label} (hi : (system U).init s₀) (hr : (system U).Run s₀ labels s) :
    ∀ id ∈ s.server.acked, id ∈ s.asked ∧ id ∈ s.returned := by
  obtain ⟨batchSize, name, rfl⟩ := hi
  have h : Inv s := by refine hr.induct (fun t l u ht hl => ?_) (inv_start batchSize name); exact ht.step hl
  intro id hid; exact ⟨h.acked id hid, h.asked id (h.acked id hid)⟩

structure Kept (s : State) : Prop where
  held : ∀ id ∈ s.server.pel, id ∈ s.source.pendingAckIds
  cut : s.source.conn = false → s.server.pel = []
  reports : ∀ owed ∈ s.reports, owed = []

lemma Kept.of_pel_nil (hp : s.server.pel = []) (hr : ∀ owed ∈ s.reports, owed = []) : Kept s :=
  ⟨fun id hid => absurd hid (by rw [hp]; exact not_mem_nil), fun _ => hp, hr⟩

lemma owed_eq_nil (h : ∀ id ∈ s.server.pel, id ∈ s.source.pendingAckIds) : s.owed = [] := by
  refine filter_eq_nil_iff.mpr fun id hid => ?_; simpa using h id hid

lemma xack_pel {b : Server} {ids : List Nat} (h : ∀ id ∈ b.pel, id ∈ ids) : (b.xack ids).pel = [] := by
  refine filter_eq_nil_iff.mpr fun id hid => ?_; simpa using h id hid

lemma Kept.reconnect (h : Kept s) : Kept s.reconnect := by
  unfold State.reconnect; split_ifs with hc
  · exact h
  · exact .of_pel_nil (h.cut (Bool.eq_false_iff.mpr hc)) h.reports

lemma Kept.ackPending (h : Kept s) {ack : Call} (ha : ack = .failed false → s.server.pel = []) :
    (s.ackPending ack).1.server.pel = [] ∧ (s.ackPending ack).1.reports = s.reports := by
  unfold State.ackPending; split_ifs with hn
  · refine ⟨eq_nil_iff_forall_not_mem.mpr fun id hid => ?_, rfl⟩; have := h.held id hid
    grind
  · cases ack with
    | ok => exact ⟨xack_pel h.held, rfl⟩
    | failed executed =>
      cases executed with
      | false => exact ⟨ha rfl, rfl⟩
      | true => exact ⟨xack_pel h.held, rfl⟩

variable {uuid : Nat → Uuid}

lemma Kept.read {call : Call} (hc : s.source.conn = true) (hp : s.server.pel = [])
    (hr : ∀ owed ∈ s.reports, owed = []) (hca : call = .failed true → s.server.next s.source.batchSize = []) :
    Kept (s.read U call uuid).1 := by
  cases call with
  | failed executed =>
    cases executed with
    | false => exact .of_pel_nil hp hr
    | true =>
      refine .of_pel_nil (s := (s.read U (.failed true) uuid).1) ?_ hr
      show s.server.pel ++ s.server.next s.source.batchSize = []
      grind
  | ok =>
    have hh : ∀ id ∈ s.server.pel ++ s.server.next s.source.batchSize,
        id ∈ s.source.pendingAckIds ++ s.server.next s.source.batchSize := by
      intro id hid; rw [hp, nil_append] at hid; exact mem_append_right _ hid
    refine ⟨hh, fun hcu => ?_, fun owed ho => ?_⟩
    · exact absurd (hcu.symm.trans hc) Bool.false_ne_true
    · simp only [State.read] at ho; split_ifs at ho with hi
      · rcases mem_append.mp ho with ho | ho
        · exact hr owed ho
        · rw [mem_singleton.mp ho]; exact owed_eq_nil hh
      · exact hr owed ho

lemma Kept.ackAndRead (h : Kept s) {ack call : Call} (hc : s.source.conn = true)
    (ha : ack = .failed false → s.server.pel = [])
    (hca : call = .failed true → s.server.next s.source.batchSize = []) :
    Kept (s.ackAndRead U ack call uuid).1 := by
  obtain ⟨hp, hr⟩ := h.ackPending ha
  have hd : ∀ owed ∈ (s.ackPending ack).1.reports, owed = [] := by rw [hr]; exact h.reports
  obtain ⟨pel, acked, held, hf⟩ := ackPending_frame s ack; unfold State.ackAndRead
  split_ifs
  · refine Kept.read ?_ hp hd fun hl => ?_
    · rw [hf]; exact hc
    · rw [hf]; exact hca hl
  · exact .of_pel_nil hp hd

lemma Kept.nextBatch (h : Kept s) {establish : Bool} {ack call : Call}
    (hac : ack = .failed false → s.server.pel = [])
    (hc : call = .failed true → s.server.next s.source.batchSize = []) :
    Kept (s.nextBatch U establish ack call uuid).1 := by
  have ha : Kept { s with asked := s.returned } := ⟨h.held, h.cut, h.reports⟩
  unfold State.nextBatch; simp only; split_ifs
  · refine ha.reconnect.ackAndRead reconnect_conn ?_ ?_
    · rwa [reconnect_server]
    simp_all
  · exact ha

lemma Kept.step (h : Kept s) (ha : Allowed s l) (hs : step U s l = some s') : Kept s' := by
  cases l with
  | add | other => cases hs; exact ⟨h.held, h.cut, h.reports⟩
  | nextBatch => cases hs; exact h.nextBatch ha.1 ha.2
  | restart => cases hs; exact .of_pel_nil ha h.reports

lemma kept_start (batchSize : Nat) (name : String) : Kept (start batchSize name) :=
  .of_pel_nil rfl fun _ ho => absurd ho not_mem_nil

theorem at_least_once {s₀ : State} {labels : List Label} (hi : (system U).init s₀)
    (hr : ((system U).restrict Allowed).Run s₀ labels s) :
    (∀ id ∈ s.server.acked, id ∈ s.asked ∧ id ∈ s.returned) ∧ ∀ owed ∈ s.reports, owed = [] := by
  refine ⟨acked_asked hi hr.of_restrict, ?_⟩; obtain ⟨batchSize, name, rfl⟩ := hi
  have h : Kept s := by
    refine hr.induct (fun t l u ht hl => ?_) (kept_start batchSize name)
    exact ht.step hl.1 hl.2
  exact h.reports

instance decidableAllowed (s : State) (l : Label) : Decidable (Allowed s l) := by
  cases l <;> dsimp only [Allowed] <;> infer_instance

def ascii : Utf8 := ⟨fun _ => true, fun b => b⟩

def poll (ack call : Call) : Label := .nextBatch true ack call fun id => BitVec.ofNat 128 id

def entry (ms : BitVec 64) : Entry := ⟨some (ms, 0), [("data", [1])]⟩

theorem at_least_once_two_entries : ∃ s : State, s.server.acked = [0, 1] ∧ s.reports = [[], []] ∧
      (∀ id ∈ s.server.acked, id ∈ s.asked ∧ id ∈ s.returned) ∧ ∀ owed ∈ s.reports, owed = [] := by
  have h : (LTS.exec (fun s l => if Allowed s l then step ascii s l else none) (start 1 "redis")
      [.add (entry 5), poll .ok .ok, .add (entry 6), poll (.failed true) .ok, poll .ok (.failed false),
        poll .ok .ok, poll .ok .ok, .restart, poll .ok .ok]).map (fun s => (s.server.acked, s.reports)) =
      some ([0, 1], [[], []]) := by decide +kernel
  obtain ⟨s, hs, hv⟩ := Option.map_eq_some_iff.mp h; obtain ⟨ha, hr⟩ := Prod.mk.inj hv
  exact ⟨s, ha, hr, at_least_once ⟨1, "redis", rfl⟩ (LTS.run_restrict_of_exec hs)⟩

theorem entries_lost : (∃ s, (system ascii).Run (start 1 "redis")
        [.add (entry 5), poll .ok (.failed true), poll .ok .ok] s ∧
      s.returned = [] ∧ s.reports = [[0]]) ∧
    (∃ s, (system ascii).Run (start 1 "redis")
        [.add (entry 5), poll .ok .ok, poll (.failed false) .ok, poll .ok .ok] s ∧
      s.returned = [0] ∧ s.reports = [[0]]) ∧
    ∃ s, (system ascii).Run (start 1 "redis") [.add (entry 5), poll .ok .ok, .restart, poll .ok .ok] s ∧
      s.returned = [0] ∧ s.reports = [[0]] := by
  refine ⟨LTS.exists_run ?_, LTS.exists_run ?_, LTS.exists_run ?_⟩
  · decide +kernel
  · decide +kernel
  · decide +kernel

end Aeon.L3.Redis
