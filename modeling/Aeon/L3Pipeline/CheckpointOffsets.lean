import Aeon.Core.LTS
import Aeon.L3Pipeline.SinkTask

/-!
# Offsets of the checkpoints

The offsets of a checkpoint are the smallest ones in the delivery ledger, which has one entry for an
event, whatever the number of its outputs.

* `checkpoint_offsets_safe`: when no undelivered output is below a checkpoint's offset;
* `checkpoint_skips_output`: an event with two outputs.
-/
namespace Aeon.L3.CheckpointOffsets

open List Option Aeon.Core Aeon.Types Aeon.L2.Checkpoint Aeon.L3.Delivery Aeon.L3.SinkTask

structure St where
  task : Task
  tracker : Option AckSeqTracker
  written : List (CheckpointRecord × List Tagged) := []

def records : List Effect → List CheckpointRecord
  | [] => []
  | .checkpoint r :: es => r :: records es
  | _ :: es => records es

section Machine

variable (ctx : Ctx)

def step (s : St) (l : Lbl) : Option St :=
  (SinkTask.step ctx s.tracker s.task l).map fun (t, tracker, effects) =>
    ⟨t, tracker, s.written ++ (records effects).map (·, t.undelivered)⟩

def Initial (s : St) : Prop :=
  s.written = [] ∧ ∃ ledger : Bool, s.task = { ledger := if ledger then some {} else none }

def machine : LTS St Lbl := .ofFn Initial (step ctx)

end Machine

def Covers (r : CheckpointRecord) (o : Output) : Prop :=
  ∀ p off, o.sourcePartition = some p → o.sourceOffset = some off → ∃ x, r.sourceOffsets.lookup p = some x ∧
    x ≤ off

def OffsetsSafe (s : St) : Prop := ∀ w ∈ s.written, ∀ o ∈ w.2, Covers w.1 o.out

def position (o : Output) : Option (Uuid × PartitionId × Int) :=
  o.sourceEventId.map (·, o.sourcePartition.getD 0, o.sourceOffset.getD 0)

def Settled (t : Task) (ids : List Uuid) : Prop := ∀ o ∈ t.undelivered, o.out.sourceEventId ∉ ids.map some
  deriving Decidable

def Allowed (s : St) : Lbl → Prop
  | .pop outs => s.task.ledger ≠ none ∧ (∀ o ∈ outs, o.sourceEventId ≠ none) ∧
      ∀ o ∈ s.task.undelivered.map Tagged.out ++ outs, ∀ o' ∈ outs,
        o.sourceEventId = o'.sourceEventId → position o = position o'
  | .answer (.ok f) => Settled (s.task.note s.task.pc.outs f) (batchResult s.task.pc.outs f).delivered
  | .flushed (.ok ()) _ => Settled s.task.creditPendingOnFlush s.task.pendingIds
  | _ => True

instance (s : St) (l : Lbl) : Decidable (Allowed s l) := by
  unfold Allowed; split <;> infer_instance

section Invariant

variable {ctx : Ctx} {s s' : St} {t t' : Task}

def Tracked (t : Task) : Prop :=
  ∀ o ∈ t.undelivered, ∃ l x, t.ledger = some l ∧ position o.out = some x ∧ x ∈ l.positions

structure Inv (s : St) : Prop where
  tracked : Tracked s.task
  safe : OffsetsSafe s

lemma mem_undelivered : o ∈ t.undelivered ↔ o ∈ t.received ∧ o.tag ∉ t.delivered := by simp [Task.undelivered]

lemma undelivered_congr (h : SameOutputs t t') : t'.undelivered = t.undelivered := by
  rw [Task.undelivered, Task.undelivered, h.received, h.delivered]

lemma mem_positions_foldl_track {outs : List Tagged}
    (hs : ∀ o ∈ outs, o.out.sourceEventId = some x.1 → position o.out = some x) :
    ∀ l : DeliveryLedger, (x ∈ l.positions ∨ ∃ o ∈ outs, position o.out = some x) →
      x ∈ (outs.foldl track l).positions := by
  induction outs with
  | nil => simp
  | cons o outs ih =>
    intro l h; refine ih (fun o' ho' => hs o' (mem_cons_of_mem _ ho')) _ ?_
    have hh := hs o mem_cons_self
    cases hid : o.out.sourceEventId with
    | none =>
      have hp : position o.out = none := by rw [position, hid]; rfl
      simp_all [track]
    | some id =>
      have hp : position o.out = some (id, o.out.sourcePartition.getD 0, o.out.sourceOffset.getD 0) := by
        rw [position, hid]; rfl
      rw [track, hid]; by_cases heq : id = x.1
      · -- the entry is written again, with the same position
        have hx := hh (by rw [hid, heq]); rw [hp] at hx
        exact .inl (DeliveryLedger.mem_positions_track.mpr (.inr (Option.some.inj hx).symm))
      · rcases h with h | ⟨o', ho', hx⟩
        · exact .inl (DeliveryLedger.mem_positions_track.mpr (.inl ⟨h, fun he => heq he.symm⟩))
        grind

lemma out_mem_of_mem_number {outs : List Output} (h : o ∈ number n outs) : o.out ∈ outs := by
  induction outs generalizing n with
  | nil => cases h
  | cons =>
    rcases mem_cons.mp h with rfl | h
    · exact mem_cons_self
    grind

lemma fst_of_position (h : position o = some x) : o.sourceEventId = some x.1 := by
  obtain ⟨id, hid, rfl⟩ := map_eq_some_iff.mp h; exact hid

lemma Tracked.pop {outs : List Output} (h : Tracked t) (hl : t.ledger ≠ none)
    (hid : ∀ o ∈ outs, o.sourceEventId ≠ none)
    (hs : ∀ o ∈ t.undelivered.map Tagged.out ++ outs, ∀ o' ∈ outs,
      o.sourceEventId = o'.sourceEventId → position o = position o') : Tracked (t.onPop outs) := by
  obtain ⟨l, hl⟩ := ne_none_iff_exists'.mp hl; intro o ho
  obtain ⟨hr, hd⟩ := mem_undelivered.mp ho
  have hle : (t.onPop outs).ledger = some ((number t.received.length outs).foldl track l) := by
    simp [Task.onPop, hl]
  have hp : ∃ x, position o.out = some x ∧ o.out ∈ t.undelivered.map Tagged.out ++ outs ∧
      (x ∈ l.positions ∨ ∃ o' ∈ number t.received.length outs, position o'.out = some x) := by
    rcases mem_append.mp hr with hold | hn
    · have hu := mem_undelivered.mpr ⟨hold, hd⟩; obtain ⟨l', x, hl', hx, hm⟩ := h o hu
      grind
    · have hou := out_mem_of_mem_number hn
      obtain ⟨id, hid'⟩ := ne_none_iff_exists'.mp (hid _ hou)
      have hx : position o.out = some (id, o.out.sourcePartition.getD 0, o.out.sourceOffset.getD 0) := by
        rw [position, hid']; rfl
      grind
  obtain ⟨x, hx, hm, hc⟩ := hp
  refine ⟨_, x, hle, hx, mem_positions_foldl_track (fun o' ho' hid' => ?_) l hc⟩
  rw [← hs o.out hm o'.out (out_mem_of_mem_number ho') ((fst_of_position hx).trans hid'.symm), hx]

lemma Tracked.acked {ids : List Uuid} {failures : List (Uuid × String)} (h : Tracked t)
    (hle : t'.ledger = t.ledger.map fun l => markAllFailed (l.markBatchAcked ids).1 failures)
    (hs : ∀ o ∈ t'.undelivered, o ∈ t.undelivered) (hse : Settled t' ids) : Tracked t' := by
  intro o ho; obtain ⟨l, x, hl, hx, hm⟩ := h o (hs o ho)
  refine ⟨_, x, by rw [hle, hl]; rfl, hx, ?_⟩
  rw [positions_markAllFailed, DeliveryLedger.mem_positions_markBatchAcked]
  exact ⟨hm, fun hid => hse o ho (fst_of_position hx ▸ List.mem_map_of_mem hid)⟩

lemma undelivered_of_subset (ho : o ∈ t'.undelivered) (hr : t'.received = t.received)
    (hd : ∀ n ∈ t.delivered, n ∈ t'.delivered) : o ∈ t.undelivered := by
  obtain ⟨hre, hde⟩ := mem_undelivered.mp ho
  exact mem_undelivered.mpr ⟨hr ▸ hre, fun hn => hde (hd _ hn)⟩

lemma settled_congr {ids : List Uuid} (h : SameOutputs t t') (hs : Settled t ids) : Settled t' ids := by
  rw [Settled, undelivered_congr h]; exact hs

lemma Tracked.booked (h : Tracked s.task) (ha : Allowed s l) (hb : Booked s.task l t') : Tracked t' := by
  cases hb with
  | same ledger outputs =>
    intro o ho; rw [undelivered_congr outputs] at ho; rw [ledger]
    exact h o ho
  | pop ht => subst ht; exact h.pop ha.1 ha.2.1 ha.2.2
  | failed failures ledger outputs =>
    intro o ho; rw [undelivered_congr outputs] at ho; obtain ⟨l, x, hl, hx, hm⟩ := h o ho
    simp_all [positions_markAllFailed]
  | answered failures ledger outputs =>
    refine h.acked ledger (fun o ho => ?_) (settled_congr outputs ha)
    rw [undelivered_congr outputs] at ho
    exact undelivered_of_subset ho rfl fun n hn => mem_append_left _ hn
  | flushed ledger outputs =>
    have hle : t'.ledger = s.task.ledger.map fun l =>
        markAllFailed (l.markBatchAcked s.task.pendingIds).1 [] := ledger
    refine h.acked hle (fun o ho => ?_) (settled_congr outputs ha)
    rw [undelivered_congr outputs] at ho
    exact undelivered_of_subset ho rfl fun n hn => mem_append_left _ hn

lemma mem_records {effects : List Effect} (h : r ∈ records effects) : .checkpoint r ∈ effects := by
  induction effects with
  | nil => cases h
  | cons e es ih =>
    cases e with
    | checkpoint =>
      rcases mem_cons.mp h with rfl | h
      · exact mem_cons_self
      grind
    | gcSweep | tryRecoverPrimary => exact mem_cons_of_mem _ (ih h)

lemma covers_of_tracked (h : Tracked t)
    (hr : r.sourceOffsets = t.ledger.elim ∅ DeliveryLedger.checkpointOffsets) :
    ∀ o ∈ t.undelivered, Covers r o.out := by
  intro o ho p off hp hof; obtain ⟨l, x, hl, hx, hm⟩ := h o ho
  obtain ⟨id, -, rfl⟩ := map_eq_some_iff.mp hx
  obtain ⟨y, hy, hle⟩ := DeliveryLedger.checkpointOffsets_le hm; grind

lemma inv_step (h : Inv s) (ha : Allowed s l) (hs : step ctx s l = some s') : Inv s' := by
  obtain ⟨⟨t, tracker, effects⟩, ht, rfl⟩ := map_eq_some_iff.mp hs
  have htr : Tracked t := h.tracked.booked ha (step_booked ht); refine ⟨htr, fun w hw => ?_⟩
  rcases mem_append.mp hw with hw | hw
  · exact h.safe w hw
  · obtain ⟨r, hr, rfl⟩ := List.mem_map.mp hw
    exact covers_of_tracked htr (step_record ht (mem_records hr))

end Invariant

theorem checkpoint_offsets_safe (ctx : Ctx) {s : St} (h : ((machine ctx).restrict Allowed).Reachable s) :
    OffsetsSafe s := by
  have hin : ((machine ctx).restrict Allowed).Inductive Inv := by
    refine ⟨fun s hs => ?_, fun s l s' hi hst => inv_step hi hst.1 hst.2⟩
    obtain ⟨hw, ledger, ht⟩ := hs; constructor
    · intro o ho; rw [ht] at ho; cases ho
    · intro w hm; rw [hw] at hm; cases hm
  exact (hin.reachable h).safe

def skipping : Ctx := ⟨.perEvent, .skipToDlq, 3, 50000, "sink", true, false⟩

def nothingWritten : St := ⟨{ ledger := some {} }, none, []⟩

def outputAt (id : Uuid) (offset : Int) (payload : Bytes) : Output where
  payload := payload
  sourceEventId := some id
  sourcePartition := some 0
  sourceOffset := some offset

def fanOut : List Output := [outputAt 1 5 [1], outputAt 1 5 [2], outputAt 2 6 [3]]

def partly (n : Nat) : List Lbl :=
  [.pop fanOut, .answer (.ok fun tag => if tag < n then .delivered else .failed "sink full"), .gc,
    .tick true 0]

def shown (s : St) : List (Option Int × List Tagged) :=
  s.written.map fun w => (w.1.sourceOffsets.lookup 0, w.2)

theorem checkpoint_skips_output : ∃ s, (machine skipping).Reachable s ∧
      shown s = [(some 6, [⟨1, outputAt 1 5 [2]⟩, ⟨2, outputAt 2 6 [3]⟩])] ∧ ¬ OffsetsSafe s := by
  have h : (LTS.exec (step skipping) nothingWritten (partly 1)).map shown =
      some [(some 6, [⟨1, outputAt 1 5 [2]⟩, ⟨2, outputAt 2 6 [3]⟩])] := by decide +kernel
  obtain ⟨s, hs, hsh⟩ := map_eq_some_iff.mp h
  refine ⟨s, ⟨nothingWritten, partly 1, ⟨rfl, true, rfl⟩, LTS.run_of_exec hs⟩, hsh, fun hsa => ?_⟩
  obtain ⟨w, hw, hv⟩ := List.mem_map.mp (hsh ▸ mem_singleton_self _ :
    ((some 6, [⟨1, outputAt 1 5 [2]⟩, ⟨2, outputAt 2 6 [3]⟩]) : Option Int × List Tagged) ∈ shown s)
  obtain ⟨ho, hu⟩ := Prod.mk.inj hv
  obtain ⟨x, hx, hle⟩ := hsa w hw ⟨1, outputAt 1 5 [2]⟩ (by rw [hu]; exact mem_cons_self) 0 5 rfl rfl
  grind

theorem checkpoint_offsets_safe_fan_out : ∃ s, ((machine skipping).restrict Allowed).Reachable s ∧
      shown s = [(some 6, [⟨2, outputAt 2 6 [3]⟩])] ∧ OffsetsSafe s := by
  have hi : (machine skipping).init nothingWritten := ⟨rfl, true, rfl⟩
  exact LTS.exists_restrict hi (partly 2) (by decide +kernel) fun _ => checkpoint_offsets_safe skipping

end Aeon.L3.CheckpointOffsets
