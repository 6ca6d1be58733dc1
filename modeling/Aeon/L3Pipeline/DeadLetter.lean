import Aeon.Core.LTS
import Aeon.Core.SortedMap
import Aeon.L3Pipeline.SinkTask

/-!
# Dead-letter queue

`crates/aeon-engine/src/dlq.rs`. A flush empties the buffer before it writes and reads nothing of
the sink's `BatchResult`.

* `letters_conserved`: nothing is lost and the counter is exact iff the sink took every record and
  every flush returned `Ok`;
* `records_lost`: three ways to lose one.
-/
namespace Aeon.L3.DeadLetter

open List Aeon.Core Aeon.Types

/-- mirrors dlq.rs:17-26 -/
structure DlqRecord where
  event : Event
  reason : String
  failedAt : Int
  attempts : Nat

structure Letter extends Output where
  destination : String
  key : Bytes
  headers : List (String × String)

/-- mirrors dlq.rs:30-61 -/
def DlqRecord.toOutput (r : DlqRecord) (destination : String) : Letter where
  toOutput := Output.withEventIdentity { payload := r.event.payload } r.event
  destination := destination
  key := beBytes 16 r.event.id.toNat
  headers := [("dlq.reason", r.reason), ("dlq.source", r.event.source),
    ("dlq.failed_at", toString r.failedAt),
    ("dlq.attempts", toString r.attempts), ("dlq.event_id", SinkTask.uuidText r.event.id),
    ("dlq.event_timestamp", toString r.event.timestamp)]

/-- mirrors dlq.rs:66-80 -/
structure DlqConfig where
  destination : String := "aeon-dlq"
  batchSize : Nat := 64

inductive Answer
  | writeError (e : String)
  | written (result : BatchResult) (flushed : Except String Unit)

structure State where
  buffer : List Letter := []
  recordsSent : Nat := 0
  recorded : List Letter := []
  writes : List (List Letter × Answer) := []

/-- mirrors dlq.rs:115-126 -/
def flush (s : State) (a : Answer) : State × Except String Unit :=
  if s.buffer = [] then (s, .ok ())
  else
    let t := { s with buffer := [], writes := s.writes ++ [(s.buffer, a)] }
    match a with
    | .writeError e => (t, .error e)
    | .written _ (.error e) => (t, .error e)
    | .written _ (.ok ()) => ({ t with recordsSent := (s.recordsSent + s.buffer.length) % 2 ^ 64 }, .ok ())

/-- mirrors dlq.rs:103-112 -/
def record (config : DlqConfig) (s : State) (r : DlqRecord) (a : Answer) : State × Except String Unit :=
  let output := r.toOutput config.destination
  let s := { s with buffer := s.buffer ++ [output], recorded := s.recorded ++ [output] }
  if config.batchSize ≤ s.buffer.length then flush s a else (s, .ok ())

inductive Label
  | record (r : DlqRecord) (a : Answer)
  | flush (a : Answer)

def step (config : DlqConfig) (s : State) : Label → Option State
  | .record r a => some (record config s r a).1
  | .flush a => some (flush s a).1

def machine (config : DlqConfig) : LTS State Label := .ofFn (· = {}) (step config)

def accepted : List Letter × Answer → List Letter
  | (_, .writeError _) => []
  | (batch, .written r _) => batch.filter fun l => l.sourceEventId.any (· ∈ r.delivered ++ r.pending)

def counted : List Letter × Answer → List Letter
  | (batch, .written _ (.ok ())) => batch
  | _ => []

def taken : List Letter × Answer → Bool
  | (batch, .written r (.ok ())) => batch.all fun l => l.sourceEventId.any (· ∈ r.delivered ++ r.pending)
  | _ => false

def State.accepted (s : State) : List Letter := s.writes.flatMap DeadLetter.accepted

def Conserved (s : State) : Prop := s.recorded = s.accepted ++ s.buffer ∧ s.recordsSent = s.accepted.length

lemma accepted_sublist (w : List Letter × Answer) : accepted w <+ w.1 := by
  obtain ⟨batch, _ | ⟨r, f⟩⟩ := w
  · exact nil_sublist _
  · exact filter_sublist

lemma counted_sublist (w : List Letter × Answer) : counted w <+ w.1 := by
  obtain ⟨batch, _ | ⟨r, _ | _⟩⟩ := w
  · exact nil_sublist _
  · exact nil_sublist _
  · exact Sublist.refl _

lemma taken_iff (hw : w.1 ≠ []) : taken w ↔ accepted w = w.1 ∧ counted w = w.1 := by
  obtain ⟨batch, e | ⟨r, e | u⟩⟩ := w
  · exact ⟨fun h => (by cases h), fun h => absurd h.2.symm hw⟩
  · exact ⟨fun h => (by cases h), fun h => absurd h.2.symm hw⟩
  · exact ⟨fun h => ⟨filter_eq_self.mpr (all_eq_true.mp h), rfl⟩, fun h => all_eq_true.mpr
      (filter_eq_self.mp h.1)⟩

lemma flatMap_length_eq_iff {f : α → List β} {g : α → List β} (hs : ∀ x, f x <+ g x) (xs : List α) :
    (xs.flatMap f).length = (xs.flatMap g).length ↔ ∀ x ∈ xs, f x = g x := by
  induction xs with
  | nil => simp
  | cons x xs ih =>
    have hx := (hs x).length_le
    have hxs : (xs.flatMap f).length ≤ (xs.flatMap g).length :=
      (Sublist.flatMap_right xs fun y _ => hs y).length_le
    rw [forall_mem_cons, ← ih, flatMap_cons, flatMap_cons, length_append, length_append]
    constructor
    · intro h; exact ⟨(hs x).eq_of_length (by omega), by omega⟩
    · rintro ⟨h, h'⟩; rw [h, h']

structure Inv (s : State) : Prop where
  recorded : s.recorded = s.writes.flatMap (·.1) ++ s.buffer
  nonempty : ∀ w ∈ s.writes, w.1 ≠ []
  sent : s.recordsSent = (s.writes.flatMap counted).length % 2 ^ 64

lemma Inv.flush (h : Inv s) (a : Answer) : Inv (flush s a).1 := by
  rw [DeadLetter.flush]
  split_ifs with hb
  · exact h
  · have hr : s.recorded = (s.writes ++ [(s.buffer, a)]).flatMap (·.1) ++ [] := by simp [h.recorded]
    have hw : ∀ w ∈ s.writes ++ [(s.buffer, a)], w.1 ≠ [] :=
      forall_mem_append.mpr ⟨h.nonempty, forall_mem_singleton.mpr hb⟩
    obtain e | ⟨r, e | u⟩ := a
    · exact ⟨hr, hw, by simp [h.sent, counted]⟩
    · exact ⟨hr, hw, by simp [h.sent, counted]⟩
    · exact ⟨hr, hw, by simp [h.sent, counted]⟩

lemma Inv.step (h : Inv s) (hs : step config s l = some s') : Inv s' := by
  cases l with
  | flush a => cases hs; exact h.flush a
  | record r a =>
    cases hs
    have hp : Inv { s with
        buffer := s.buffer ++ [r.toOutput config.destination]
        recorded := s.recorded ++ [r.toOutput config.destination] } := ⟨by simp [h.recorded], h.nonempty,
        h.sent⟩
    rw [record]
    dsimp only
    split_ifs
    · exact hp.flush a
    · exact hp

lemma inv_reachable (h : (machine config).Reachable s) : Inv s := by
  refine LTS.Inductive.reachable ⟨?_, fun s l s' => Inv.step⟩ h
  rintro s rfl
  exact ⟨rfl, fun _ h => absurd h not_mem_nil, rfl⟩

/-- **Conservation.** -/
theorem letters_conserved (h : (machine config).Reachable s) (hn : s.recorded.length < 2 ^ 64) :
    Conserved s ↔ ∀ w ∈ s.writes, taken w := by
  have hi := inv_reachable h
  have hc : (s.writes.flatMap counted).length < 2 ^ 64 := by
    have hl : (s.writes.flatMap counted).length ≤ (s.writes.flatMap (·.1)).length :=
      (Sublist.flatMap_right s.writes fun w _ => counted_sublist w).length_le
    rw [hi.recorded, length_append] at hn; omega
  have hsent := hi.sent
  rw [Nat.mod_eq_of_lt hc] at hsent
  constructor
  · rintro ⟨hr, hl⟩ w hw
    have ha : s.accepted = s.writes.flatMap (·.1) := append_cancel_right (hr.symm.trans hi.recorded)
    rw [hsent, ha] at hl
    exact (taken_iff (hi.nonempty w hw)).mpr
      ⟨(flatMap_length_eq_iff accepted_sublist _).mp (congrArg length ha) w hw,
      (flatMap_length_eq_iff counted_sublist _).mp hl w hw⟩
  · intro hw
    replace hw w h := (taken_iff (hi.nonempty w h)).mp (hw w h)
    have ha : s.accepted = s.writes.flatMap (·.1) := flatMap_congr fun w h => (hw w h).1
    have hk : s.writes.flatMap counted = s.writes.flatMap (·.1) := flatMap_congr fun w h => (hw w h).2
    exact ⟨by rw [ha]; exact hi.recorded, by rw [hsent, ha, hk]⟩

def letter (id : Uuid) : DlqRecord := ⟨⟨id, 0, "source", 0, [], [], none, none⟩, "boom", 0, 1⟩

theorem letters_conserved_batch : ∃ s, (machine { batchSize := 2 }).Reachable s ∧
    (s.recorded.length = 3 ∧ s.buffer.length = 1 ∧ s.recordsSent = 2) ∧ Conserved s := by
  obtain ⟨s, hr, hl, hw⟩ : ∃ s, (machine { batchSize := 2 }).Reachable s ∧
      (s.recorded.length = 3 ∧ s.buffer.length = 1 ∧ s.recordsSent = 2) ∧ ∀ w ∈ s.writes, taken w :=
    LTS.exists_reachable rfl [.record (letter 1) (.writeError "closed"),
      .record (letter 2) (.written ⟨[1], [2], []⟩ (.ok ())), .record (letter 3) (.writeError "closed")]
        (by decide +kernel)
  exact ⟨s, hr, hl, (letters_conserved hr (by rw [hl.1]; decide)).mpr hw⟩

theorem records_lost :
    (∃ s, (machine {}).Reachable s ∧ s.recorded.length = 1 ∧ s.buffer.length = 0 ∧ s.accepted.length = 0 ∧
      s.recordsSent = 0) ∧
    (∃ s, (machine {}).Reachable s ∧ s.recorded.length = 1 ∧ s.buffer.length = 0 ∧ s.accepted.length = 0 ∧
      s.recordsSent = 1) ∧
    ∃ s, (machine {}).Reachable s ∧ s.recorded.length = 1 ∧ s.buffer.length = 0 ∧ s.accepted.length = 1 ∧
      s.recordsSent = 0 :=
  ⟨LTS.exists_reachable rfl [.record (letter 1) (.writeError ""), .flush (.writeError "closed")]
    (by decide +kernel),
    LTS.exists_reachable rfl [.record (letter 1) (.writeError ""),
      .flush (.written ⟨[], [], [(1, "full")]⟩ (.ok ()))]
      (by decide +kernel),
    LTS.exists_reachable rfl [.record (letter 1) (.writeError ""),
      .flush (.written ⟨[1], [], []⟩ (.error "closed"))]
      (by decide +kernel)⟩

end Aeon.L3.DeadLetter
