import Aeon.L3Pipeline.CheckpointOffsets

/-!
# Counters of the checkpoints

`write_checkpoint` (`crates/aeon-engine/src/pipeline.rs`) resets the task's counters whether the
store has kept the record or not.

* `counters_conserved`: when persisted counts and counters add up to the totals;
* `counters_lost`: a failed append, and a delivery by a retry.
-/
namespace Aeon.L3.CheckpointCounters

open List Option Aeon.Core Aeon.Types Aeon.L2.Checkpoint Aeon.L3.Delivery Aeon.L3.SinkTask
open Aeon.L3.CheckpointOffsets (records)

structure St where
  task : Task
  tracker : Option AckSeqTracker
  persisted : List CheckpointRecord := []

structure Lbl where
  task : SinkTask.Lbl
  appended : Bool

section Machine

variable (ctx : Ctx)

def step (s : St) (l : Lbl) : Option St :=
  (SinkTask.step ctx s.tracker s.task l.task).map fun (t, tracker, effects) =>
    ⟨t, tracker, s.persisted ++ if l.appended then records effects else []⟩

def Initial (s : St) : Prop := s.persisted = [] ∧ ∃ ledger, s.task = { ledger := ledger }

def machine : LTS St Lbl := .ofFn Initial (step ctx)

end Machine

structure Conserved (s : St) : Prop where
  delivered : (s.persisted.map (·.deliveredCount)).sum + s.task.deliveredSinceCheckpoint =
    s.task.metrics.outputsSent
  failed : (s.persisted.map (·.failedCount)).sum + s.task.failedSinceCheckpoint = s.task.metrics.eventsFailed
  written : s.task.metrics.checkpointsWritten = s.persisted.length

def failures (t : Task) : SinkTask.Lbl → List (Uuid × String)
  | .answer (.ok f) =>
    match t.pc with
    | .writing outs => (batchResult outs f).failed
    | _ => []
  | _ => []

def Allowed (ctx : Ctx) (s : St) (l : Lbl) : Prop :=
  l.appended ∧ (ctx.failurePolicy = .skipToDlq ∨ failures s.task l.task = [])

instance decidableAllowed (ctx : Ctx) (s : St) (l : Lbl) : Decidable (Allowed ctx s l) :=
  inferInstanceAs (Decidable (_ ∧ (_ ∨ _)))

section Step

variable {ctx : Ctx} {tracker tracker' : Option AckSeqTracker} {t t' : Task} {effects : List Effect}

structure Counters where
  delivered : Nat
  failed : Nat
  outputsSent : Nat
  eventsFailed : Nat
  checkpointsWritten : Nat

def counters (t : Task) : Counters :=
  ⟨t.deliveredSinceCheckpoint, t.failedSinceCheckpoint, t.metrics.outputsSent, t.metrics.eventsFailed,
    t.metrics.checkpointsWritten⟩

structure Balanced (c c' : Counters) (rs : List CheckpointRecord) : Prop where
  delivered : (rs.map (·.deliveredCount)).sum + c'.delivered + c.outputsSent = c.delivered + c'.outputsSent
  failed : (rs.map (·.failedCount)).sum + c'.failed + c.eventsFailed = c.failed + c'.eventsFailed
  written : c'.checkpointsWritten = c.checkpointsWritten + rs.length

lemma Balanced.refl (c : Counters) : Balanced c c [] := ⟨by simp, by simp, rfl⟩

lemma Balanced.trans (h : Balanced c c₁ []) (h' : Balanced c₁ c₂ rs) : Balanced c c₂ rs := by
  obtain ⟨hd, hf, hw⟩ := h; obtain ⟨hd', hf', hw'⟩ := h'
  simp only [map_nil, sum_nil, length_nil] at hd hf hw
  exact ⟨by omega, by omega, by omega⟩

lemma writeCheckpoint_balanced (ctx : Ctx) (t : Task) (tracker : Option AckSeqTracker) (now : Int) :
    Balanced (counters t) (counters (t.writeCheckpoint ctx tracker now).1)
      (records (t.writeCheckpoint ctx tracker now).2) := by
  unfold Task.writeCheckpoint; split_ifs
  · refine ⟨?_, ?_, ?_⟩ <;> simp [records, Task.record, counters]
  · exact .refl _

lemma onBlockingTick_balanced (ctx : Ctx) (t : Task) (tracker : Option AckSeqTracker) (elapsed : Bool)
    (now : Int) :
    Balanced (counters t) (counters (t.onBlockingTick ctx tracker elapsed now).1)
      (records (t.onBlockingTick ctx tracker elapsed now).2) := by
  unfold Task.onBlockingTick Task.checkpointIfDue; split_ifs
  · exact writeCheckpoint_balanced ctx t tracker now
  · exact .refl _

lemma records_append (es es' : List Effect) : records (es ++ es') = records es ++ records es' := by
  induction es with
  | nil => rfl
  | cons e es ih => cases e <;> simp [records, ih]

lemma onFlushed_balanced (ctx : Ctx) (t : Task) (tracker : Option AckSeqTracker) (final : Bool) (now : Int) :
    Balanced (counters t) (counters (t.onFlushed ctx tracker final now).1)
      (records (t.onFlushed ctx tracker final now).2) := by
  have hc : Balanced (counters t) (counters t.creditPendingOnFlush) [] := by
    refine ⟨?_, ?_, rfl⟩ <;> simp only [Task.creditPendingOnFlush, counters, map_nil, sum_nil] <;> omega
  have hw := hc.trans (writeCheckpoint_balanced ctx t.creditPendingOnFlush tracker now)
  have ho : ∀ es, records es = [] → records
    ((t.creditPendingOnFlush.writeCheckpoint ctx tracker now).2 ++ es) =
        records (t.creditPendingOnFlush.writeCheckpoint ctx tracker now).2 := fun es hes => by
    rw [records_append, hes, append_nil]
  unfold Task.onFlushed
  cases final with
  | true =>
    simp only [if_true]; split_ifs
    · rw [ho _ rfl]; exact hw
    · exact hc
  | false =>
    simp only [Bool.false_eq_true, if_false]; rw [ho]
    · exact hw
    · split_ifs <;> rfl

lemma onWritten_balanced {outs : List Tagged}
    (hc : ctx.failurePolicy = .skipToDlq ∨ (batchResult outs f).failed = []) :
    Balanced (counters t) (counters (t.onWritten ctx tracker outs f).1) [] ∧
      ∃ n, (t.onWritten ctx tracker outs f).1.pc = .written n := by
  have hb : Balanced (counters t) (counters (t.book outs f (t.ackedSeq tracker outs f))) [] := by
    refine ⟨?_, ?_, rfl⟩ <;>
      simp only [Task.book, Task.note, counters, map_nil, sum_nil] <;> omega
  unfold Task.onWritten Task.handleBatchFailures; simp only; split
  · exact ⟨hb, _, rfl⟩
  · rename_i id err rest hf
    have hs : ctx.failurePolicy = .skipToDlq := hc.resolve_right (by rw [hf]; simp); rw [hs]
    refine ⟨hb.trans ⟨?_, ?_, rfl⟩, _, rfl⟩ <;>
      simp only [Task.settle, Task.addFailed, counters, map_nil, sum_nil] <;> omega

def Calm (t : Task) : Prop := ∀ outs attempt count failed, t.pc ≠ .retrying outs attempt count failed

lemma calm_flushIf (t : Task) (shouldFlush : Bool) : Calm (t.flushIf shouldFlush) := by
  intro _ _ _ _ hpc; unfold Task.flushIf at hpc; split_ifs at hpc

lemma calm_onFlushed (ctx : Ctx) (t : Task) (tracker : Option AckSeqTracker) (final : Bool) (now : Int) :
    Calm (t.onFlushed ctx tracker final now).1 := by
  intro _ _ _ _ hpc; unfold Task.onFlushed at hpc; grind

lemma step_balanced (h : SinkTask.step ctx tracker t l = some (t', tracker', effects)) (hca : Calm t)
    (hc : ctx.failurePolicy = .skipToDlq ∨ failures t l = []) :
    Balanced (counters t) (counters t') (records effects) ∧ Calm t' := by
  cases step_cases h with
  | written outs f hpc =>
    simp only [failures, hpc] at hc; obtain ⟨hb, n, hn⟩ := onWritten_balanced hc
    exact ⟨hb, fun _ _ _ _ hr => by rw [hn] at hr; cases hr⟩
  | retried _ _ _ _ _ hpc | retryError _ _ _ _ _ hpc => exact absurd hpc (hca _ _ _ _)
  | gc count _ => refine ⟨?_, fun _ _ _ _ hpc => by cases hpc⟩; split_ifs <;> exact .refl _
  | tick count elapsed now _ =>
    unfold Task.onTick; split_ifs
    · exact ⟨onBlockingTick_balanced ctx t tracker elapsed now, fun _ _ _ _ hpc => by cases hpc⟩
    · exact ⟨.refl _, calm_flushIf _ _⟩
  | idleTick elapsed now _ =>
    unfold Task.onIdleTick; split_ifs
    · exact ⟨onBlockingTick_balanced ctx t tracker elapsed now, fun _ _ _ _ hpc => by cases hpc⟩
    · exact ⟨.refl _, calm_flushIf _ _⟩
  | flushed final now =>
    exact ⟨onFlushed_balanced ctx t tracker final now, calm_onFlushed ctx t tracker final now⟩
  | pop | writeError | abandoned | flushError => exact ⟨.refl _, fun _ _ _ _ hpc => by cases hpc⟩

end Step

lemma Conserved.step {ctx : Ctx} (h : Conserved s) (hc : Calm s.task) (ha : Allowed ctx s l)
    (hl : step ctx s l = some s') : Conserved s' ∧ Calm s'.task := by
  unfold CheckpointCounters.step at hl
  obtain ⟨⟨t, tracker, effects⟩, ht, rfl⟩ := map_eq_some_iff.mp hl
  obtain ⟨⟨hd, hf, hw⟩, hc'⟩ := step_balanced ht hc ha.2; simp only [counters] at hd hf hw
  obtain ⟨h₁, h₂, h₃⟩ := h; refine ⟨⟨?_, ?_, ?_⟩, hc'⟩
  · simp only [if_pos ha.1, map_append, sum_append]; omega
  · simp only [if_pos ha.1, map_append, sum_append]; omega
  · simp only [if_pos ha.1, length_append]; omega

theorem counters_conserved (ctx : Ctx) {s : St} (h : ((machine ctx).restrict (Allowed ctx)).Reachable s) :
    Conserved s := by
  have hi : ((machine ctx).restrict (Allowed ctx)).Inductive fun s => Conserved s ∧ Calm s.task := by
    refine ⟨?_, fun s l s' hs hl => hs.1.step hs.2 hl.1 hl.2⟩
    rintro ⟨_, tracker, _⟩ ⟨rfl, ledger, rfl⟩
    exact ⟨⟨rfl, rfl, rfl⟩, fun _ _ _ _ hpc => by cases hpc⟩
  exact (hi.reachable h).1

def perEvent (policy : BatchFailurePolicy) : Ctx := ⟨.perEvent, policy, 1, 50000, "sink", true, false⟩

def nothingPersisted : St := ⟨{ ledger := some {} }, none, []⟩

lemma nothingPersisted_initial : Initial nothingPersisted := ⟨rfl, some {}, rfl⟩

def oneDelivery : List Lbl :=
  [⟨.pop [.plain 7], true⟩, ⟨.answer (.ok fun _ => .delivered), true⟩, ⟨.gc, true⟩, ⟨.tick true 0, false⟩]

def oneRetry : List Lbl :=
  [⟨.pop [.plain 7], true⟩, ⟨.answer (.ok fun _ => .failed "busy"), true⟩,
    ⟨.answer (.ok fun _ => .delivered), true⟩]

structure Counts where
  persisted : List (Nat × Nat)
  memory : Nat × Nat
  totals : Nat × Nat
  written : Nat
  deriving DecidableEq

def counts (s : St) : Counts where
  persisted := s.persisted.map fun r => (r.deliveredCount, r.failedCount)
  memory := (s.task.deliveredSinceCheckpoint, s.task.failedSinceCheckpoint)
  totals := (s.task.metrics.outputsSent, s.task.metrics.eventsFailed)
  written := s.task.metrics.checkpointsWritten

theorem counters_lost :
    (∃ s, (machine (perEvent .skipToDlq)).Reachable s ∧ counts s = ⟨[], (0, 0), (1, 0), 1⟩ ∧ ¬ Conserved s) ∧
    ∃ s, (machine (perEvent .retryFailed)).Reachable s ∧ counts s = ⟨[], (0, 1), (1, 0), 0⟩ ∧
    ¬ Conserved s := by
  have h₁ : (LTS.exec (step (perEvent .skipToDlq)) nothingPersisted oneDelivery).map counts =
      some ⟨[], (0, 0), (1, 0), 1⟩ := by decide +kernel
  have h₂ : (LTS.exec (step (perEvent .retryFailed)) nothingPersisted oneRetry).map counts =
      some ⟨[], (0, 1), (1, 0), 0⟩ := by decide +kernel
  obtain ⟨s₁, hs₁, hv₁⟩ := map_eq_some_iff.mp h₁
  obtain ⟨s₂, hs₂, hv₂⟩ := map_eq_some_iff.mp h₂
  refine ⟨⟨s₁, ⟨nothingPersisted, _, nothingPersisted_initial, LTS.run_of_exec hs₁⟩, hv₁, fun hc => ?_⟩,
    s₂, ⟨nothingPersisted, _, nothingPersisted_initial, LTS.run_of_exec hs₂⟩, hv₂, fun hc => ?_⟩
  · have hw := hc.written; simp_all [counts]
  · have hd := hc.delivered; simp_all [counts]

def threeBatches : List Lbl :=
  [⟨.pop [.plain 1, .plain 2, .plain 3], true⟩,
    ⟨.answer (.ok fun n => if n < 2 then .delivered else .failed "full"), true⟩,
    ⟨.gc, true⟩, ⟨.tick true 0, true⟩,
    ⟨.pop [.plain 4, .plain 5], true⟩, ⟨.answer (.ok fun n => if n < 4 then .delivered else .failed "full"),
      true⟩,
    ⟨.gc, true⟩, ⟨.tick true 1, true⟩,
    ⟨.pop [.plain 6, .plain 7], true⟩, ⟨.answer (.ok fun n => if n < 6 then .delivered else .failed "full"),
      true⟩,
    ⟨.gc, true⟩]

theorem counters_conserved_three_batches :
    ∃ s, ((machine (perEvent .skipToDlq)).restrict (Allowed (perEvent .skipToDlq))).Reachable s ∧
      counts s = ⟨[(2, 1), (1, 1)], (1, 1), (4, 3), 2⟩ ∧ Conserved s := by
  exact LTS.exists_restrict nothingPersisted_initial threeBatches (by decide +kernel) fun _ =>
    counters_conserved _

end Aeon.L3.CheckpointCounters
