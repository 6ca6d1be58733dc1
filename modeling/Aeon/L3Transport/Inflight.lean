import Aeon.Core.LTS
import Aeon.L3Transport.Session
import Mathlib.Data.List.Perm.Basic

/-!
# The batches in flight on a session

`BatchInflight` of `crates/aeon-engine/src/transport/session.rs` under everything that calls it.
Draining takes the batches out one by one.

* `Books.step`: permits, pending and held batches make up the capacity;
* `inflight_accounted`: when a returned call has left no pending entry;
* `call_leaves_entry`: a request that cannot be sent.
-/
namespace Aeon.L3.Inflight

open List Option Aeon.Core Aeon.Types Aeon.L3.BatchWire Aeon.L3.Session

/-- mirrors websocket_host.rs:286-370 -/
inductive Phase
  | starting
  | registered (id : Nat)
  | encoded (id : Nat)
  | sent (id : Nat)
  | returned (id : Option Nat)
  | dropped
  deriving DecidableEq

def Phase.id? : Phase → Option Nat
  | .starting => none
  | .registered id => some id
  | .encoded id => some id
  | .sent id => some id
  | .returned id => id
  | .dropped => none

def Phase.awaits : Phase → Bool
  | .starting | .encoded _ | .sent _ => true
  | .registered _ | .returned _ | .dropped => false

structure Call where
  events : List Event
  phase : Phase

structure St where
  inflight : BatchInflight
  held : List InflightBatch := []
  calls : List Call := []
  issued : List Nat := []
  resolved : List Nat := []

inductive Lbl
  | register (slot : PendingSlot)
  | call (events : List Event) (routed : Bool)
  | start (c : Nat)
  | encode (c : Nat)
  | send (c : Nat) (ok : Bool)
  | receive (c : Nat)
  | timeout (c : Nat)
  | dropCall (c : Nat)
  | complete (id : Nat)
  | drain (id : Nat)
  | release (k : Nat)

/-- mirrors session.rs:226-235 -/
def drainOne (b : BatchInflight) (id : Nat) : BatchInflight × Option InflightBatch :=
  match b.pending.get? id with
  | some slot => ({ b with pending := b.pending.erase id }, some ⟨id, slot.events, slot.responder⟩)
  | none => (b, none)

namespace St

def complete (s : St) (id : Nat) : St := { s with
    inflight := (s.inflight.completeBatch id).1
    resolved := s.resolved ++ ((s.inflight.completeBatch id).2.map fun _ => id).toList }

def drain (s : St) (id : Nat) : St := { s with
    inflight := (drainOne s.inflight id).1
    held := s.held ++ (drainOne s.inflight id).2.toList }

def setCall (s : St) (c : Nat) (call : Call) : St := { s with calls := s.calls.set c call }

end St

section Machine

variable (S : Serde) (codec : TransportCodec)

def step (s : St) : Lbl → Option St
  | .register slot => (s.inflight.startBatch slot).map fun r =>
      { s with inflight := r.1, issued := s.issued ++ [r.2] }
  | .call events routed => some { s with
      calls := s.calls ++ [⟨events, if events = [] ∨ routed = false then .returned none else .starting⟩] }
  | .start c =>
    match s.calls[c]? with
    | some ⟨events, .starting⟩ => (s.inflight.startBatch ⟨c, events⟩).map fun r =>
        { s with
          inflight := r.1
          issued := s.issued ++ [r.2]
          calls := s.calls.set c ⟨events, .registered r.2⟩ }
    | _ => none
  | .encode c =>
    match s.calls[c]? with
    | some ⟨events, .registered id⟩ =>
      match encodeBatchRequest S codec id events with
      | .ok _ => some (s.setCall c ⟨events, .encoded id⟩)
      | .error _ => some (s.setCall c ⟨events, .returned id⟩)
    | _ => none
  | .send c ok =>
    match s.calls[c]? with
    | some ⟨events, .encoded id⟩ => some (s.setCall c ⟨events, if ok then .sent id else .returned id⟩)
    | _ => none
  | .receive c =>
    match s.calls[c]? with
    | some ⟨events, .sent id⟩ =>
      if id ∈ s.resolved then some (s.setCall c ⟨events, .returned id⟩) else none
    | _ => none
  | .timeout c =>
    match s.calls[c]? with
    | some ⟨events, .sent id⟩ => some ((s.complete id).setCall c ⟨events, .returned id⟩)
    | _ => none
  | .dropCall c =>
    match s.calls[c]? with
    | some ⟨events, phase⟩ => if phase.awaits then some (s.setCall c ⟨events, .dropped⟩) else none
    | none => none
  | .complete id => some (s.complete id)
  | .drain id => some (s.drain id)
  | .release k => s.held[k]?.map fun b =>
      { s with
        inflight := { s.inflight with permits := s.inflight.permits + 1 }
        held := s.held.eraseIdx k
        resolved := s.resolved ++ [b.batchId] }

def Initial (maxInflight : Nat) (s : St) : Prop := s = { inflight := .withCapacity maxInflight }

def machine (maxInflight : Nat) : LTS St Lbl := .ofFn (Initial maxInflight) (step S codec)

def Allowed (s : St) : Lbl → Prop
  | .encode c => ∀ call ∈ s.calls[c]?, ∀ id ∈ call.phase.id?,
      (encodeBatchRequest S codec id call.events).isOk = true ∨ s.inflight.pending.get? id = none
  | .send c ok => ok = true ∨
      ∀ call ∈ s.calls[c]?, ∀ id ∈ call.phase.id?, s.inflight.pending.get? id = none
  | _ => True

instance decidableAllowed (s : St) : ∀ l, Decidable (Allowed S codec s l)
  | .encode c => inferInstanceAs (Decidable (∀ call ∈ s.calls[c]?, ∀ id ∈ call.phase.id?,
      (encodeBatchRequest S codec id call.events).isOk = true ∨ s.inflight.pending.get? id = none))
  | .send c ok => inferInstanceAs (Decidable (ok = true ∨
      ∀ call ∈ s.calls[c]?, ∀ id ∈ call.phase.id?, s.inflight.pending.get? id = none))
  | .register _ | .call _ _ | .start _ | .receive _ | .timeout _ | .dropCall _ | .complete _ | .drain _
  | .release _ => inferInstanceAs (Decidable True)

end Machine

structure Accounted (capacity : Nat) (s : St) : Prop where
  permits : s.inflight.permits + s.inflight.pending.toList.length + s.held.length = capacity
  ids : s.issued.Nodup
  once : s.resolved.Nodup
  returned : ∀ call ∈ s.calls, ∀ id, call.phase = .returned (some id) → s.inflight.pending.get? id = none

def keys (b : BatchInflight) : List Nat := b.pending.toList.map Prod.fst

structure Books (capacity : Nat) (s : St) : Prop where
  permits : s.inflight.permits + s.inflight.pending.toList.length + s.held.length = capacity
  places : (keys s.inflight ++ (s.held.map (·.batchId) ++ s.resolved)).Perm s.issued
  bound : ∀ id ∈ s.issued, id < s.inflight.nextId
  nodup : s.issued.Nodup

section Steps

variable {capacity : Nat} {s : St} {id : Nat}

lemma Books.initial {maxInflight : Nat} (h : Initial maxInflight s) : Books (max maxInflight 1) s := by
  subst h; exact ⟨rfl, .nil, fun id hid => absurd hid not_mem_nil, .nil⟩

lemma Books.calls (h : Books capacity s) (calls : List Call) : Books capacity { s with calls := calls } :=
  ⟨h.permits, h.places, h.bound, h.nodup⟩

lemma Books.nodup_places (h : Books capacity s) :
    (keys s.inflight ++ (s.held.map (·.batchId) ++ s.resolved)).Nodup := h.places.nodup_iff.mpr h.nodup

lemma Books.keys_lt (h : Books capacity s) (hid : id ∈ keys s.inflight) : id < s.inflight.nextId :=
  h.bound id (h.places.mem_iff.mp (mem_append_left _ hid))

variable {slot : PendingSlot}

lemma Books.startBatch (h : Books capacity s) (hs : s.inflight.startBatch slot = some r) (calls : List Call) :
    Books capacity { s with inflight := r.1, issued := s.issued ++ [r.2], calls := calls } := by
  unfold BatchInflight.startBatch at hs; split_ifs at hs with hp
  obtain rfl := Option.some.inj hs
  have hl : (s.inflight.pending.insert s.inflight.nextId slot).toList =
      s.inflight.pending.toList ++ [(s.inflight.nextId, slot)] :=
    SortedMap.toList_insert_of_lt fun e he => h.keys_lt (List.mem_map_of_mem he)
  refine ⟨?_, ?_, ?_, ?_⟩
  · have hc := h.permits; grind
  · simp only [keys, hl, map_append, map_cons, map_nil, append_assoc]
    exact ((perm_append_comm.append_left _).trans (.of_eq (append_assoc ..).symm)).trans
      (h.places.append_right _)
  · intro id hid; rcases mem_append.mp hid with hid | hid
    · exact Nat.lt_succ_of_lt (h.bound id hid)
    grind
  · refine nodup_append.mpr ⟨h.nodup, by simp, ?_⟩; rintro id hid _ hn rfl
    exact absurd (h.bound id hid) (by rw [mem_singleton.mp hn]; exact Nat.lt_irrefl _)

lemma perm_moved (h : l.Perm (id :: l')) (a b : List Nat) : (l' ++ (a ++ id :: b)).Perm (l ++ (a ++ b)) := by
  grind

lemma perm_keys_erase (h : b.pending.get? id = some slot) :
    (keys b).Perm (id :: (b.pending.erase id).toList.map Prod.fst) :=
  (SortedMap.perm_erase h).map Prod.fst

lemma length_erase {b : BatchInflight} (h : b.pending.get? id = some slot) :
    b.pending.toList.length = (b.pending.erase id).toList.length + 1 :=
  (SortedMap.perm_erase h).length_eq

lemma completeBatch_cases (b : BatchInflight) (id : Nat) : (∃ slot, b.pending.get? id = some slot ∧
      b.completeBatch id = ({ b with pending := b.pending.erase id, permits := b.permits + 1 }, some slot)) ∨
    (b.pending.get? id = none ∧ b.completeBatch id = (b, none)) := by grind [BatchInflight.completeBatch]

lemma drainOne_cases (b : BatchInflight) (id : Nat) : (∃ slot, b.pending.get? id = some slot ∧
      drainOne b id = ({ b with pending := b.pending.erase id }, some ⟨id, slot.events, slot.responder⟩)) ∨
    (b.pending.get? id = none ∧ drainOne b id = (b, none)) := by grind [drainOne]

lemma Books.complete (h : Books capacity s) (id : Nat) : Books capacity (s.complete id) := by
  obtain ⟨slot, hg, hc⟩ | ⟨-, hc⟩ := completeBatch_cases s.inflight id
  · have hl := length_erase hg; have hca := h.permits
    have hm := perm_moved (perm_keys_erase hg) (s.held.map (·.batchId) ++ s.resolved) []
    simp only [append_assoc, append_nil] at hm; rw [St.complete, hc]
    refine ⟨?_, hm.trans h.places, h.bound, h.nodup⟩; grind
  simp_all [St.complete]

lemma Books.drain (h : Books capacity s) (id : Nat) : Books capacity (s.drain id) := by
  obtain ⟨slot, hg, hc⟩ | ⟨-, hc⟩ := drainOne_cases s.inflight id
  · have hl := length_erase hg; have hca := h.permits
    have hm := perm_moved (perm_keys_erase hg) (s.held.map (·.batchId)) s.resolved
    rw [St.drain, hc]; refine ⟨?_, ?_, h.bound, h.nodup⟩
    · grind
    · simp only [toList_some, map_append, map_cons, map_nil, append_assoc, singleton_append]
      exact hm.trans h.places
  simp_all [St.drain]

lemma Books.release (h : Books capacity s) (hb : s.held[k]? = some b) : Books capacity { s with
      inflight := { s.inflight with permits := s.inflight.permits + 1 }
      held := s.held.eraseIdx k
      resolved := s.resolved ++ [b.batchId] } := by
  obtain ⟨hk, rfl⟩ := List.getElem?_eq_some_iff.mp hb
  have hh : (s.held.map (·.batchId)).Perm (s.held[k].batchId :: (s.held.eraseIdx k).map (·.batchId)) :=
    ((getElem_cons_eraseIdx_perm hk).symm.map _)
  have hm := (perm_moved hh s.resolved []).append_left (keys s.inflight)
  rw [append_nil] at hm; refine ⟨?_, hm.trans h.places, h.bound, h.nodup⟩
  have hl := length_eraseIdx_of_lt hk; have hc := h.permits; simp only [hl]
  omega

structure Clean (s : St) : Prop where
  issued : ∀ call ∈ s.calls, ∀ id ∈ call.phase.id?, id < s.inflight.nextId
  returned : ∀ call ∈ s.calls, ∀ id, call.phase = .returned (some id) → s.inflight.pending.get? id = none

def Shrinks (b b' : BatchInflight) : Prop :=
  b.nextId ≤ b'.nextId ∧ ∀ id < b.nextId, b.pending.get? id = none → b'.pending.get? id = none

lemma Shrinks.refl (b : BatchInflight) : Shrinks b b := ⟨Nat.le_refl _, fun _ _ h => h⟩

lemma get?_erase_none {m : SortedMap Nat PendingSlot} (k : Nat) (h : m.get? id = none) :
    (m.erase k).get? id = none := by
  by_cases hk : id = k
  · rw [hk, SortedMap.get?_erase_self]
  · rw [SortedMap.get?_erase_of_ne hk, h]

lemma shrinks_startBatch (h : b.startBatch slot = some r) : Shrinks b r.1 ∧ r.2 < r.1.nextId := by
  unfold BatchInflight.startBatch at h; split_ifs at h; obtain rfl := Option.some.inj h
  refine ⟨⟨Nat.le_succ _, fun id hid hn => ?_⟩, Nat.lt_succ_self _⟩
  rw [SortedMap.get?_insert_of_ne hid.ne, hn]

lemma shrinks_complete (b : BatchInflight) (id : Nat) : Shrinks b (b.completeBatch id).1 := by
  obtain ⟨slot, -, hc⟩ | ⟨-, hc⟩ := completeBatch_cases b id
  · rw [hc]; exact ⟨Nat.le_refl _, fun _ _ hn => get?_erase_none id hn⟩
  · rw [hc]; exact .refl b

lemma shrinks_drainOne (b : BatchInflight) (id : Nat) : Shrinks b (drainOne b id).1 := by
  obtain ⟨slot, -, hc⟩ | ⟨-, hc⟩ := drainOne_cases b id
  · rw [hc]; exact ⟨Nat.le_refl _, fun _ _ hn => get?_erase_none id hn⟩
  · rw [hc]; exact .refl b

lemma get?_completeBatch (b : BatchInflight) (id : Nat) : (b.completeBatch id).1.pending.get? id = none := by
  obtain ⟨slot, -, hc⟩ | ⟨hn, hc⟩ := completeBatch_cases b id
  · rw [hc]; exact SortedMap.get?_erase_self
  · rw [hc]; exact hn

lemma Clean.shrink (h : Clean s) (hb : Shrinks s.inflight b) {held : List InflightBatch}
    {issued resolved : List Nat} : Clean ⟨b, held, s.calls, issued, resolved⟩ where
  issued call hc id hid := Nat.lt_of_lt_of_le (h.issued call hc id hid) hb.1
  returned call hc id hr := hb.2 id (h.issued call hc id (by rw [hr]; rfl)) (h.returned call hc id hr)

lemma Clean.setCall (h : Clean s) {call : Call} (hid : ∀ id ∈ call.phase.id?, id < s.inflight.nextId)
    (hr : ∀ id, call.phase = .returned (some id) → s.inflight.pending.get? id = none) :
    Clean (s.setCall c call) where
  issued call' hc := by
    rcases mem_or_eq_of_mem_set hc with hc | rfl
    · exact h.issued call' hc
    · exact hid
  returned call' hc := by
    rcases mem_or_eq_of_mem_set hc with hc | rfl
    · exact h.returned call' hc
    · exact hr

end Steps

section Runs

variable {S : Serde} {codec : TransportCodec} {capacity : Nat} {s s' : St} {l : Lbl}

inductive Stepped (S : Serde) (codec : TransportCodec) (s : St) : Lbl → St → Prop
  | register (slot : PendingSlot) {r : BatchInflight × Nat} (hr : s.inflight.startBatch slot = some r) :
      Stepped S codec s (.register slot) { s with inflight := r.1, issued := s.issued ++ [r.2] }
  | call (events : List Event) (routed : Bool) (phase : Phase) (hphase : phase.id? = none) :
      Stepped S codec s (.call events routed) { s with calls := s.calls ++ [⟨events, phase⟩] }
  | start (c : Nat) (events : List Event) {r : BatchInflight × Nat}
      (hr : s.inflight.startBatch ⟨c, events⟩ = some r) :
      Stepped S codec s (.start c)
        { s with inflight := r.1, issued := s.issued ++ [r.2], calls := s.calls.set c ⟨events, .registered
          r.2⟩ }
  | advance (l : Lbl) {c : Nat} {call : Call} {phase : Phase} (hcall : s.calls[c]? = some call)
      (hid : ∀ id ∈ phase.id?, id ∈ call.phase.id?)
      (hret : Allowed S codec s l → ∀ id, phase = .returned (some id) →
        s.inflight.pending.get? id = none ∨ id ∈ s.resolved) :
      Stepped S codec s l (s.setCall c ⟨call.events, phase⟩)
  | timeout (c : Nat) {events : List Event} {id : Nat} (hcall : s.calls[c]? = some ⟨events, .sent id⟩) :
      Stepped S codec s (.timeout c) ((s.complete id).setCall c ⟨events, .returned id⟩)
  | complete (id : Nat) : Stepped S codec s (.complete id) (s.complete id)
  | drain (id : Nat) : Stepped S codec s (.drain id) (s.drain id)
  | release (k : Nat) {b : InflightBatch} (hb : s.held[k]? = some b) :
      Stepped S codec s (.release k) { s with
        inflight := { s.inflight with permits := s.inflight.permits + 1 }
        held := s.held.eraseIdx k
        resolved := s.resolved ++ [b.batchId] }

lemma step_cases (hs : step S codec s l = some s') : Stepped S codec s l s' := by
  cases l with simp only [step] at hs
  | register slot => obtain ⟨r, hr, rfl⟩ := map_eq_some_iff.mp hs; exact .register slot hr
  | call events routed => cases hs; exact .call events routed _ (by split_ifs <;> rfl)
  | start c =>
    split at hs
    · obtain ⟨r, hr, rfl⟩ := map_eq_some_iff.mp hs; exact .start c _ hr
    · cases hs
  | encode c =>
    split at hs
    · rename_i events id hc
      split at hs <;> cases hs
      · exact .advance _ hc (fun _ hid => hid) fun _ _ hre => by cases hre
      · rename_i e he
        refine .advance _ hc (fun _ hid => hid) fun ha id' hre => .inl ?_
        obtain rfl : id = id' := by simpa using hre
        exact (ha _ hc id rfl).resolve_left (by rw [he]; nofun)
    · cases hs
  | send c ok =>
    split at hs
    · rename_i events id hc
      cases hs
      refine .advance _ hc (fun id' hid => by split_ifs at hid <;> exact hid) fun ha id' hre => .inl ?_
      split_ifs at hre with hok; obtain rfl : id = id' := by simpa using hre
      exact ha.resolve_left hok _ hc id rfl
    · cases hs
  | receive c =>
    split at hs
    · rename_i hc
      obtain ⟨hrs, hs⟩ := ite_none_right_eq_some.mp hs; cases hs
      exact .advance _ hc (fun _ hid => hid) fun _ id' hre => .inr (by grind)
    · cases hs
  | timeout c => split at hs <;> cases hs; exact .timeout c ‹_›
  | dropCall c =>
    split at hs
    · rename_i hc
      obtain ⟨-, hs⟩ := ite_none_right_eq_some.mp hs; cases hs
      exact .advance _ hc (fun _ hid => by cases hid) fun _ _ hre => by cases hre
    · cases hs
  | complete id => cases hs; exact .complete id
  | drain id => cases hs; exact .drain id
  | release k => obtain ⟨b, hb, rfl⟩ := map_eq_some_iff.mp hs; exact .release k hb

lemma Books.step (h : Books capacity s) (hs : step S codec s l = some s') : Books capacity s' := by
  cases step_cases hs with
  | register _ hr => exact h.startBatch hr s.calls
  | call _ _ _ _ => exact h.calls _
  | start _ _ hr => exact h.startBatch hr _
  | advance _ _ _ _ => exact h.calls _
  | timeout _ _ => exact (h.complete _).calls _
  | complete id => exact h.complete id
  | drain id => exact h.drain id
  | release _ hb => exact h.release hb

lemma Books.not_pending (h : Books capacity s) {id : Nat} (hid : id ∈ s.resolved) :
    s.inflight.pending.get? id = none := by
  refine SortedMap.get?_eq_none.mpr fun hk => ?_
  exact (nodup_append.mp h.nodup_places).2.2 id hk id (mem_append_right _ hid) rfl

lemma Clean.step (h : Clean s) (hb : Books capacity s) (ha : Allowed S codec s l)
    (hs : step S codec s l = some s') : Clean s' := by
  cases step_cases hs with
  | register _ hr => exact h.shrink (shrinks_startBatch hr).1
  | call events _ phase =>
    have hn : ∀ call ∈ s.calls ++ [⟨events, phase⟩], ∀ id ∈ call.phase.id?, call ∈ s.calls := by grind
    refine ⟨fun call hc id hid => h.issued call (hn call hc id hid) id hid, fun call hc id hr => ?_⟩
    exact h.returned call (hn call hc id (by rw [hr]; rfl)) id hr
  | start _ _ hr =>
    obtain ⟨hsh, hlt⟩ := shrinks_startBatch hr
    refine (h.shrink hsh).setCall (fun id hid => ?_) (fun id hre => ?_)
    · obtain rfl := Option.some.inj hid; exact hlt
    · cases hre
  | advance _ hca hid hre =>
    have hi := h.issued _ (mem_of_getElem? hca)
    refine h.setCall (fun id hid' => hi id (hid id hid')) fun id hr' => ?_
    exact (hre ha id hr').elim (fun hg => hg) hb.not_pending
  | timeout _ hca =>
    rename_i id
    have hlt : ∀ id' ∈ some id, id' < s.inflight.nextId := h.issued _ (mem_of_getElem? hca)
    have hsh := shrinks_complete s.inflight id
    refine Clean.setCall (h.shrink hsh) (fun id' hid => ?_) fun id' hre => ?_
    · exact Nat.lt_of_lt_of_le (hlt id' hid) hsh.1
    · obtain rfl : id = id' := by simpa using hre
      exact get?_completeBatch s.inflight id
  | complete id => exact h.shrink (shrinks_complete s.inflight id)
  | drain id => exact h.shrink (shrinks_drainOne s.inflight id)
  | release => exact ⟨h.issued, h.returned⟩

end Runs

theorem inflight_accounted (S : Serde) (codec : TransportCodec) (maxInflight : Nat) {s : St}
    (h : ((machine S codec maxInflight).restrict (Allowed S codec)).Reachable s) :
    Accounted (max maxInflight 1) s := by
  obtain ⟨s₀, ls, hin, hr⟩ := h
  have hi : Books (max maxInflight 1) s ∧ Clean s := by
    refine hr.induct (I := fun t => Books (max maxInflight 1) t ∧ Clean t) (fun t l u ht hl => ?_)
      ⟨Books.initial hin, ?_⟩
    · exact ⟨ht.1.step hl.2, ht.2.step ht.1 hl.1 hl.2⟩
    · have hc : s₀.calls = [] := by rw [show s₀ = _ from hin]
      constructor
      · grind
      grind
  have hp := hi.1.nodup_places; refine ⟨hi.1.permits, hi.1.nodup, ?_, hi.2.returned⟩; grind

def serde : Serde :=
  ⟨fun _ e => if e.payload.length = 1 then .error "unencodable" else .ok e.payload, fun _ _ =>
    .error "output"⟩

structure Outstanding where
  phases : List Phase
  permits : Nat
  pending : List Nat
  held : List Nat
  deriving DecidableEq

def outstanding (s : St) : Outstanding where
  phases := s.calls.map (·.phase)
  permits := s.inflight.permits
  pending := keys s.inflight
  held := s.held.map (·.batchId)

def threeCalls : List Lbl := [.call [.plain 1 []] true, .call [.plain 1 []] true, .call [.plain 1 []] true,
    .start 0, .encode 0, .send 0 true, .start 1, .encode 1, .complete 1, .receive 0, .start 2, .encode 2,
    .send 2 true, .drain 2, .send 1 false, .timeout 2, .release 0]

theorem inflight_accounted_three_calls : ∃ s,
    ((machine serde .json 2).restrict (Allowed serde .json)).Reachable s ∧
      outstanding s = ⟨[.returned (some 1), .returned (some 2), .returned (some 3)], 2, [], []⟩ ∧
      Accounted 2 s := by
  exact LTS.exists_restrict rfl threeCalls (by decide +kernel) fun _ => inflight_accounted serde .json 2

def unsendable : List Lbl := [.call [.plain 1 []] true, .start 0, .encode 0, .send 0 false]

def unencodable : List Lbl := [.call [.plain 1 [7]] true, .start 0, .encode 0]

theorem call_leaves_entry :
    (∃ s t, (machine serde .json 1).Reachable s ∧ outstanding s = ⟨[.returned (some 1)], 0, [1], []⟩ ∧
      step serde .json s (.drain 1) = some t ∧ outstanding t = ⟨[.returned (some 1)], 0, [], [1]⟩) ∧
    (∃ s, (machine serde .json 1).Reachable s ∧ outstanding s = ⟨[.returned (some 1)], 0, [1], []⟩) := by
  constructor
  · have h : (LTS.exec (step serde .json) ⟨.withCapacity 1, [], [], [], []⟩ unsendable).map
        (fun s => (outstanding s, (step serde .json s (.drain 1)).map outstanding)) =
          some (⟨[.returned (some 1)], 0, [1], []⟩, some ⟨[.returned (some 1)], 0, [], [1]⟩) := by
            decide +kernel
    obtain ⟨s, hs, hv⟩ := map_eq_some_iff.mp h; obtain ⟨hv, ht⟩ := Prod.mk.inj hv
    obtain ⟨t, ht, hvt⟩ := map_eq_some_iff.mp ht
    exact ⟨s, t, ⟨_, _, rfl, LTS.run_of_exec hs⟩, hv, ht, hvt⟩
  · exact LTS.exists_reachable rfl unencodable (by decide +kernel)

end Aeon.L3.Inflight
