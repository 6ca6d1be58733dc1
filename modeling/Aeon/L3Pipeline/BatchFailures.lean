import Aeon.Core.LTS
import Aeon.L3Pipeline.SinkTask

/-!
# Failed outputs of a batch

`handle_batch_failures` (`crates/aeon-engine/src/pipeline.rs:571-700`) on one batch, from its first
report to the end of its retries. A report names events, not outputs.

* `handled_run`: a handled batch is a run of the sink task;
* `failures_conserved_iff`: counters, pending ids and ledger agree with the sink iff the batch is
  `Clean`;
* `failures_not_conserved`: four that are not.
-/
namespace Aeon.L3.BatchFailures

open List Option Aeon.Core Aeon.Types Aeon.L3.Delivery Aeon.L3.SinkTask

def isFailed : Outcome → Bool
  | .failed _ => true
  | _ => false

structure Round where
  task : Task
  last : Nat → Outcome
  resent : List Nat

def Round.first (ctx : Ctx) (tracker : Option AckSeqTracker) (t : Task) (outs : List Output)
    (f : Nat → Outcome) : Round where
  task := ((t.onPop outs).onWritten ctx tracker (number t.received.length outs) f).1
  last := f
  resent := []

def heard (outs : List Tagged) (f last : Nat → Outcome) (n : Nat) : Outcome :=
  if n ∈ outs.map Tagged.tag then f n else last n

def Round.retry (ctx : Ctx) (r : Round) (a : Answer) : Round :=
  match r.task.pc with
  | .retrying outs attempt count failed =>
    let resent := r.resent ++ (outs.map Tagged.tag).filter fun n => !isFailed (r.last n)
    match a with
    | .ok f => ⟨r.task.onRetried ctx outs attempt count failed f, heard outs f r.last, resent⟩
    | .error err => ⟨{ r.task.addRetried outs.length with pc := .failed err }, r.last, resent⟩
  | _ => r

def Round.retries (ctx : Ctx) : Nat → (Nat → Answer) → Round → Round
  | 0, _, r => r
  | n + 1, answers, r => Round.retries ctx n (fun k => answers (k + 1)) (r.retry ctx (answers 0))

def handled (ctx : Ctx) (tracker : Option AckSeqTracker) (t : Task) (outs : List Output) (f : Nat → Outcome)
    (answers : Nat → Answer) : Round :=
  (Round.first ctx tracker t outs f).retries ctx ctx.maxRetries answers

def failing (outs : List Tagged) (f : Nat → Outcome) : List Tagged :=
  outs.filter fun o => isFailed (f o.tag) && o.out.sourceEventId.isSome

def Agrees : Outcome → Option DeliveryState → Prop
  | .delivered, none => True
  | .pending, some .pending => True
  | .failed _, some (.failed _ _) => True
  | _, _ => False

def Ledgered (batch : List Tagged) (f : Nat → Outcome) (r : Round) : Prop :=
  ∀ l ∈ r.task.ledger, ∀ o ∈ batch, ∀ id ∈ o.out.sourceEventId, isFailed (f o.tag) →
    Agrees (r.last o.tag) (l.stateOf id)

def Settled (t : Task) : Prop := ∀ outs attempt count failed, t.pc ≠ .retrying outs attempt count failed

def Resends (t : Task) (outs : List Tagged) (f : Nat → Outcome) (attempt : Nat) : Prop := ∃ count failed,
  t.pc = .retrying (withIds outs ((batchResult outs f).failed.map Prod.fst)) attempt count failed

structure Conserved (t : Task) (batch : List Tagged) (f : Nat → Outcome) (r : Round) : Prop where
  settled : Settled r.task
  sent : r.task.metrics.outputsSent = t.metrics.outputsSent + (batchResult batch r.last).delivered.length
  failed : r.task.metrics.eventsFailed = t.metrics.eventsFailed + (batchResult batch r.last).failed.length
  pending : r.task.pendingIds = t.pendingIds ++ (batchResult batch r.last).pending
  ledger : Ledgered batch f r
  resent : r.resent = []

def Unsplit (outs : List Tagged) (f : Nat → Outcome) : Prop :=
  ∀ o ∈ failing outs f, ∀ o' ∈ outs, o'.out.sourceEventId = o.out.sourceEventId → isFailed (f o'.tag)

def NoneDelivered (outs : List Tagged) (f : Nat → Outcome) : Prop :=
  ∀ o ∈ failing outs f, ∀ o' ∈ outs, o'.out.sourceEventId = o.out.sourceEventId → f o'.tag ≠ .delivered

def RetriesClean (ledger : Bool) : Nat → List Tagged → (Nat → Answer) → Prop
  | 0, _, _ => True
  | n + 1, outs, answers =>
    match answers 0 with
    | .error _ => False
    | .ok f => (∀ o ∈ outs, f o.tag ≠ .pending) ∧ (Unsplit outs f ∨ n = 0 ∧ ledger = false) ∧
        (failing outs f = [] ∨ RetriesClean ledger n (failing outs f) fun k => answers (k + 1))

def Clean (ctx : Ctx) (ledger : Bool) (batch : List Tagged) (f : Nat → Outcome) (answers : Nat → Answer) :
    Prop :=
  failing batch f = [] ∨
    match ctx.failurePolicy with
    | .retryFailed => 0 < ctx.maxRetries ∧ Unsplit batch f ∧
        RetriesClean ledger ctx.maxRetries (failing batch f) answers
    | _ => ledger = false ∨ NoneDelivered batch f

section Reports

variable {outs batch : List Tagged} {f last : Nat → Outcome} {id : Uuid}

lemma mem_failing : o ∈ failing outs f ↔ o ∈ outs ∧ isFailed (f o.tag) ∧ o.out.sourceEventId.isSome := by
  simp [failing]

lemma mem_delivered :
    id ∈ (batchResult outs f).delivered ↔ ∃ o ∈ outs, f o.tag = .delivered ∧
    o.out.sourceEventId = some id := by
  simp [batchResult, and_assoc]

lemma delivered_cons (o : Tagged) : (batchResult (o :: outs) f).delivered =
      (if f o.tag = .delivered then o.out.sourceEventId.toList else []) ++
        (batchResult outs f).delivered := by
  by_cases hf : f o.tag = .delivered <;> cases hid : o.out.sourceEventId <;> simp [batchResult, hf, hid]

lemma pending_cons (o : Tagged) : (batchResult (o :: outs) f).pending =
      (if f o.tag = .pending then o.out.sourceEventId.toList else []) ++ (batchResult outs f).pending := by
  by_cases hf : f o.tag = .pending <;> cases hid : o.out.sourceEventId <;> simp [batchResult, hf, hid]

lemma failed_cons (o : Tagged) : (batchResult (o :: outs) f).failed.map Prod.fst =
      (if isFailed (f o.tag) then o.out.sourceEventId.toList else []) ++
        (batchResult outs f).failed.map Prod.fst := by
  cases hf : f o.tag <;> cases hid : o.out.sourceEventId <;> simp [batchResult, hf, hid, isFailed]

lemma failing_cons (o : Tagged) : failing (o :: outs) f =
      (if isFailed (f o.tag) ∧ o.out.sourceEventId.isSome then [o] else []) ++ failing outs f := by
  grind [isFailed, failing]

lemma map_failed : (batchResult outs f).failed.map Prod.fst = (failing outs f).filterMap
    (·.out.sourceEventId) := by
  induction outs with
  | nil => rfl
  | cons o outs ih =>
    rw [failed_cons, ih, failing_cons]
    cases hf : isFailed (f o.tag) <;> cases hid : o.out.sourceEventId <;> simp [hid]

lemma mem_failed_ids :
    id ∈ (batchResult outs f).failed.map Prod.fst ↔ ∃ o ∈ failing outs f, o.out.sourceEventId = some id := by
  rw [map_failed, mem_filterMap]

lemma length_failed : (batchResult outs f).failed.length = (failing outs f).length := by
  rw [← length_map Prod.fst, map_failed]
  exact filterMap_length_eq_length.mpr fun o ho => (mem_failing.mp ho).2.2

lemma failed_eq_nil : (batchResult outs f).failed = [] ↔ failing outs f = [] := by
  rw [← length_eq_zero_iff, length_failed, length_eq_zero_iff]

lemma withIds_failed (h : Unsplit outs f) :
    withIds outs ((batchResult outs f).failed.map Prod.fst) = failing outs f := by
  refine filter_congr fun o ho => ?_
  cases hid : o.out.sourceEventId with
  | none => simp
  | some =>
    rw [Bool.eq_iff_iff]
    simp only [any_some, decide_eq_true_eq, isSome_some, Bool.and_true, mem_failed_ids]
    refine ⟨fun ⟨o', ho', hid'⟩ => h o' ho' o ho (hid.trans hid'.symm), fun hf => ⟨o, ?_, hid⟩⟩
    exact mem_failing.mpr ⟨ho, hf, by rw [hid]; rfl⟩

lemma exists_taken (h : ¬ Unsplit outs f) :
    ∃ o ∈ withIds outs ((batchResult outs f).failed.map Prod.fst), isFailed (f o.tag) = false := by
  simp only [Unsplit, not_forall] at h; obtain ⟨o, ho, o', ho', hid, hf⟩ := h
  refine ⟨o', mem_filter.mpr ⟨ho', ?_⟩, by simpa using hf⟩
  obtain ⟨id, hs⟩ := isSome_iff_exists.mp (mem_failing.mp ho).2.2; rw [hid, hs]
  exact decide_eq_true (mem_failed_ids.mpr ⟨o, ho, hs⟩)

/-! ### A report on what had failed -/

def merged (last f : Nat → Outcome) (n : Nat) : Outcome := if isFailed (last n) then f n else last n

lemma reported_congr (h : ∀ o ∈ outs, o.out.sourceEventId.isSome → f o.tag = g o.tag) :
    (batchResult outs f).delivered = (batchResult outs g).delivered ∧
      (batchResult outs f).pending = (batchResult outs g).pending := by
  induction outs with
  | nil => exact ⟨rfl, rfl⟩
  | cons o outs ih =>
    obtain ⟨hd, hp⟩ := ih fun o' ho' => h o' (mem_cons_of_mem _ ho')
    rw [delivered_cons, delivered_cons, pending_cons, pending_cons, hd, hp]
    cases hid : o.out.sourceEventId with
    | none => simp
    | some => grind

lemma failing_congr (h : ∀ o ∈ outs, o.out.sourceEventId.isSome → f o.tag = g o.tag) :
    failing outs f = failing outs g := by
  refine filter_congr fun o ho => ?_; grind

lemma failing_merged : failing batch (merged last f) = failing (failing batch last) f := by
  rw [failing, failing, failing, List.filter_filter]; refine filter_congr fun o _ => ?_
  unfold merged; grind

lemma delivered_merged : (batchResult batch (merged last f)).delivered.length =
      (batchResult batch last).delivered.length + (batchResult (failing batch last) f).delivered.length := by
  induction batch with
  | nil => rfl
  | cons o batch ih =>
    rw [delivered_cons, delivered_cons, failing_cons, length_append, length_append, ih]
    cases hl : last o.tag with
    | failed =>
      cases hid : o.out.sourceEventId with
      | none => simp
      | some =>
        simp only [merged, hl, isFailed, if_true, isSome_some, and_self, cons_append, nil_append,
          delivered_cons, length_append, hid]
        grind
    | delivered => simp [merged, hl, isFailed]; omega
    | pending => simp [merged, hl, isFailed]

lemma pending_merged (h : ∀ o ∈ failing batch last, f o.tag ≠ .pending) :
    (batchResult batch (merged last f)).pending = (batchResult batch last).pending := by
  induction batch with
  | nil => rfl
  | cons o batch ih =>
    rw [failing_cons] at h
    rw [pending_cons, pending_cons, ih fun o' ho' => h o' (mem_append_right _ ho')]
    cases hl : last o.tag with
    | failed =>
      cases hid : o.out.sourceEventId with
      | none => simp
      | some => simp_all [isFailed, merged]
    | delivered | pending => simp [merged, hl, isFailed]

lemma length_pending_le (h : ∀ o ∈ outs, f o.tag = .pending → g o.tag = .pending) :
    (batchResult outs f).pending.length ≤ (batchResult outs g).pending.length := by
  induction outs with
  | nil => exact Nat.le_refl 0
  | cons => grind [pending_cons, length_append, length_nil]

lemma length_pending_lt (h : ∀ o ∈ outs, f o.tag = .pending → g o.tag = .pending) (ho : o ∈ outs)
    (hid : o.out.sourceEventId.isSome) (hf : f o.tag ≠ .pending) (hg : g o.tag = .pending) :
    (batchResult outs f).pending.length < (batchResult outs g).pending.length := by
  induction outs with
  | nil => cases ho
  | cons o' outs =>
    have hr : ∀ o ∈ outs, f o.tag = .pending → g o.tag = .pending := fun o ho => h o (mem_cons_of_mem _ ho)
    rw [pending_cons, pending_cons, length_append, length_append]
    rcases mem_cons.mp ho with rfl | ho
    · obtain ⟨id, hs⟩ := isSome_iff_exists.mp hid; have hle := length_pending_le hr
      grind
    grind

end Reports

section Retries

variable {ctx : Ctx} {r : Round} {t : Task} {outs : List Tagged} {attempt count failed : Nat}
  {f : Nat → Outcome}

lemma settled_of_written (h : ∃ n, t.pc = .written n) : Settled t := by
  rintro outs attempt count failed hr; obtain ⟨n, hn⟩ := h; rw [hn] at hr; cases hr

lemma retry_of_settled (h : Settled r.task) (a : Answer) : r.retry ctx a = r := by
  unfold Round.retry; split
  · rename_i hpc
    exact absurd hpc (h _ _ _ _)
  · rfl

lemma retries_of_settled (h : Settled r.task) (n : Nat) (answers : Nat → Answer) :
    r.retries ctx n answers = r := by
  induction n generalizing answers with
  | zero => rfl
  | succ n ih => rw [Round.retries, retry_of_settled h, ih]

def taskStep (ctx : Ctx) (s : Task × Option AckSeqTracker) (l : Lbl) : Option (Task × Option AckSeqTracker) :=
  (SinkTask.step ctx s.2 s.1 l).map fun (t, tracker, _) => (t, tracker)

def taskSystem (ctx : Ctx) : LTS (Task × Option AckSeqTracker) Lbl := .ofFn (fun _ => True) (taskStep ctx)

lemma taskStep_retry (hpc : r.task.pc = .retrying outs attempt count failed) (tracker : Option AckSeqTracker)
    (a : Answer) : taskStep ctx (r.task, tracker) (.answer a) = some ((r.retry ctx a).task, tracker) := by
  cases a <;> simp [taskStep, SinkTask.step, Round.retry, hpc]

def Left (ctx : Ctx) (r : Round) (n : Nat) : Prop := ∀ outs attempt count failed,
  r.task.pc = .retrying outs attempt count failed → attempt ≤ ctx.maxRetries ∧
    attempt + n = ctx.maxRetries + 1

lemma Left.retry (h : Left ctx r (n + 1)) (a : Answer) : Left ctx (r.retry ctx a) n := by
  unfold Round.retry; split
  · rename_i hpc
    have hl := h _ _ _ _ hpc; rintro outs' attempt' count' failed' hpc'
    cases a with
    | error => cases hpc'
    | ok =>
      simp only [Task.onRetried] at hpc'; split_ifs at hpc' with h₁ h₂
      · cases hpc'
      · cases hpc'
      · cases hpc'; omega
  · rename_i hno
    rintro outs attempt count failed hpc; exact absurd hpc (hno _ _ _ _)

lemma retries_run (tracker : Option AckSeqTracker) (n : Nat) (answers : Nat → Answer) (r : Round)
    (h : Left ctx r n) :
    ∃ k ≤ n, (taskSystem ctx).Run (r.task, tracker) ((range k).map fun i => .answer (answers i))
        ((r.retries ctx n answers).task, tracker) ∧
      Settled (r.retries ctx n answers).task := by
  induction n generalizing r answers with
  | zero => exact ⟨0, Nat.le_refl _, .nil _, fun _ _ _ _ hpc => by have := h _ _ _ _ hpc; omega⟩
  | succ n ih =>
    by_cases hs : Settled r.task
    · rw [retries_of_settled hs]; exact ⟨0, Nat.zero_le _, .nil _, hs⟩
    · unfold Settled at hs; push Not at hs; obtain ⟨outs, attempt, count, failed, hpc⟩ := hs
      obtain ⟨k, hk, hr, hse⟩ := ih (fun k => answers (k + 1)) _ (h.retry (answers 0))
      refine ⟨k + 1, by omega, ?_, hse⟩; rw [range_succ_eq_map, map_cons, List.map_map]
      exact .cons (taskStep_retry hpc tracker (answers 0)) hr

lemma retry_ok (hpc : r.task.pc = .retrying outs attempt count failed) :
    r.retry ctx (.ok f) = ⟨r.task.onRetried ctx outs attempt count failed f, heard outs f r.last,
      r.resent ++ (outs.map Tagged.tag).filter fun n => !isFailed (r.last n)⟩ := by
  unfold Round.retry; rw [hpc]

lemma retry_error (hpc : r.task.pc = .retrying outs attempt count failed) (err : String) :
    r.retry ctx (.error err) = ⟨{ r.task.addRetried outs.length with pc := .failed err }, r.last,
      r.resent ++ (outs.map Tagged.tag).filter fun n => !isFailed (r.last n)⟩ := by
  unfold Round.retry; rw [hpc]

inductive Retried (ctx : Ctx) (t : Task) (outs : List Tagged) (attempt : Nat) (f : Nat → Outcome)
    (t' : Task) : Prop
  | done (nothing : failing outs f = []) (pc : ∃ n, t'.pc = .written n)
      (failed : t'.metrics.eventsFailed = t.metrics.eventsFailed)
  | exhausted (last : attempt = ctx.maxRetries) (pc : ∃ n, t'.pc = .written n)
      (failed : t'.metrics.eventsFailed = t.metrics.eventsFailed + (failing outs f).length)
  | again (left : failing outs f ≠ []) (more : attempt ≠ ctx.maxRetries)
      (pc : Resends t' outs f (attempt + 1))
      (failed : t'.metrics.eventsFailed = t.metrics.eventsFailed)

lemma onRetried_spec (ctx : Ctx) (t : Task) (outs : List Tagged) (attempt count failed : Nat)
    (f : Nat → Outcome) :
    Retried ctx t outs attempt f (t.onRetried ctx outs attempt count failed f) := by
  unfold Task.onRetried; simp only; split_ifs with hn hl
  · exact .done (failed_eq_nil.mp hn) ⟨_, rfl⟩ rfl
  · refine .exhausted hl ⟨_, rfl⟩ ?_; rw [← length_failed]; rfl
  · exact .again (fun h => hn (failed_eq_nil.mpr h)) hl ⟨_, _, rfl⟩ rfl

structure Credited (t : Task) (outs : List Tagged) (f : Nat → Outcome) (failures : List (Uuid × String))
    (t' : Task) : Prop where
  sent : t'.metrics.outputsSent = t.metrics.outputsSent + (batchResult outs f).delivered.length
  pending : t'.pendingIds = t.pendingIds
  ledger : t'.ledger = t.ledger.map fun l =>
    markAllFailed (l.markBatchAcked (batchResult outs f).delivered).1 failures

lemma onRetried_credited (ctx : Ctx) (t : Task) (outs : List Tagged) (attempt count failed : Nat)
    (f : Nat → Outcome) :
    ∃ failures, Credited t outs f failures (t.onRetried ctx outs attempt count failed f) := by
  unfold Task.onRetried; simp only; split_ifs
  · exact ⟨[], rfl, rfl, rfl⟩
  · exact ⟨_, rfl, rfl, Option.map_map _ _ _⟩
  · exact ⟨[], rfl, rfl, rfl⟩

lemma retry_keeps (ctx : Ctx) (r : Round) (a : Answer) :
    (∃ tags, (r.retry ctx a).resent = r.resent ++ tags) ∧
    (r.retry ctx a).task.pendingIds = r.task.pendingIds ∧
      ((r.retry ctx a).resent = [] → ∀ n, isFailed (r.last n) = false →
        (r.retry ctx a).last n = r.last n) := by
  by_cases hpc : ∃ outs attempt count failed, r.task.pc = .retrying outs attempt count failed
  · obtain ⟨outs, attempt, count, failed, hpc⟩ := hpc
    cases a with
    | error => rw [retry_error hpc]; exact ⟨⟨_, rfl⟩, rfl, fun _ _ _ => rfl⟩
    | ok f =>
      rw [retry_ok hpc]
      obtain ⟨failures, hc⟩ := onRetried_credited ctx r.task outs attempt count failed f
      refine ⟨⟨_, rfl⟩, hc.pending, fun hr n hn => ?_⟩
      have hf := filter_eq_nil_iff.mp (append_eq_nil_iff.mp hr).2
      refine if_neg fun hm => ?_; simpa [hn] using hf n hm
  · rw [retry_of_settled fun outs attempt count failed h => hpc ⟨outs, attempt, count, failed, h⟩]
    simp

lemma retries_keep (ctx : Ctx) (n : Nat) (answers : Nat → Answer) (r : Round) :
    (∃ tags, (r.retries ctx n answers).resent = r.resent ++ tags) ∧
      (r.retries ctx n answers).task.pendingIds = r.task.pendingIds ∧
      ((r.retries ctx n answers).resent = [] →
        ∀ k, isFailed (r.last k) = false → (r.retries ctx n answers).last k = r.last k) := by
  induction n generalizing answers r with
  | zero => exact ⟨⟨[], (append_nil _).symm⟩, rfl, fun _ _ _ => rfl⟩
  | succ n ih =>
    rw [Round.retries]; obtain ⟨⟨tags, ht⟩, hp, hl⟩ := retry_keeps ctx r (answers 0)
    obtain ⟨⟨tags', ht'⟩, hp', hl'⟩ := ih (fun k => answers (k + 1)) (r.retry ctx (answers 0))
    simp_all

end Retries

section Ledger

variable {l : DeliveryLedger} {id : Uuid} {c : Outcome} {failures : List (Uuid × String)}

lemma stateOf_markAllFailed_none (h : l.stateOf id = none) :
    (markAllFailed l failures).stateOf id = none := by
  unfold markAllFailed
  induction failures generalizing l with
  | nil => exact h
  | cons x failures ih => refine ih ?_; simp [DeliveryLedger.stateOf_markFailed, h]

lemma stateOf_markAllFailed_failed (h : ∃ reason attempts, l.stateOf id = some (.failed reason attempts)) :
    ∃ reason attempts, (markAllFailed l failures).stateOf id = some (.failed reason attempts) := by
  unfold markAllFailed
  induction failures generalizing l with
  | nil => exact h
  | cons x failures ih =>
    obtain ⟨reason, attempts, hs⟩ := h; refine ih ?_; rw [DeliveryLedger.stateOf_markFailed]
    grind

lemma stateOf_markAllFailed_mem (h : (l.stateOf id).isSome) (hid : id ∈ failures.map Prod.fst) :
    ∃ reason attempts, (markAllFailed l failures).stateOf id = some (.failed reason attempts) := by
  unfold markAllFailed
  induction failures generalizing l with
  | nil => cases hid
  | cons x failures ih =>
    obtain ⟨state, hs⟩ := isSome_iff_exists.mp h; rw [foldl_cons]
    by_cases hx : id = x.1
    · refine stateOf_markAllFailed_failed ?_
      rw [DeliveryLedger.stateOf_markFailed, if_pos hx, hs]; exact ⟨_, _, rfl⟩
    · refine ih ?_ ((mem_cons.mp hid).resolve_left hx)
      rw [DeliveryLedger.stateOf_markFailed, if_neg hx]; exact h

variable {state : Option DeliveryState}

lemma agrees_delivered : Agrees .delivered state ↔ state = none := by
  cases state <;> simp [Agrees]

lemma agrees_failed (hc : isFailed c) :
    Agrees c state ↔ ∃ reason attempts, state = some (.failed reason attempts) := by
  cases c with
  | failed =>
    cases state with
    | none => simp [Agrees]
    | some state => cases state <;> simp [Agrees]
  | delivered | pending => cases hc

lemma isSome_stateOf_foldl_track {outs : List Tagged} (ho : o ∈ outs) (hid : o.out.sourceEventId = some id) :
    ((outs.foldl track l).stateOf id).isSome := by
  have hk : ∀ (outs : List Tagged) (l : DeliveryLedger), (l.stateOf id).isSome →
      ((outs.foldl track l).stateOf id).isSome := by
    intro outs
    induction outs with
    | nil => exact fun l h => h
    | cons o outs ih =>
      intro l h; refine ih _ ?_; unfold track
      split
      · rw [DeliveryLedger.stateOf_track]; split_ifs
        · rfl
        · exact h
      · exact h
  induction outs generalizing l with
  | nil => cases ho
  | cons o' outs ih =>
    rw [foldl_cons]; rcases mem_cons.mp ho with rfl | ho
    · simp_all [track, DeliveryLedger.stateOf_track]
    · exact ih ho

end Ledger

section Open

variable {ctx : Ctx} {t : Task} {batch outs : List Tagged} {f₀ f : Nat → Outcome} {r : Round} {attempt : Nat}
  {ledger : Bool}

structure Open (t : Task) (batch : List Tagged) (f₀ : Nat → Outcome) (ledger : Bool) (r : Round)
    (outs : List Tagged)
    (attempt : Nat) : Prop where
  pc : ∃ count failed, r.task.pc = .retrying outs attempt count failed
  refused : outs = failing batch r.last
  left : outs ≠ []
  lost : ∀ o ∈ batch, isFailed (r.last o.tag) → isFailed (f₀ o.tag)
  sent : r.task.metrics.outputsSent = t.metrics.outputsSent + (batchResult batch r.last).delivered.length
  failed : r.task.metrics.eventsFailed = t.metrics.eventsFailed
  pending : r.task.pendingIds = t.pendingIds ++ (batchResult batch r.last).pending
  entries : Ledgered batch f₀ r
  answered : ∀ o ∈ batch, o.out.sourceEventId.isSome → isFailed (f₀ o.tag) → r.last o.tag ≠ .pending
  tracked : r.task.ledger.isSome = ledger
  resent : r.resent = []

structure Answered (r : Round) (outs : List Tagged) (f : Nat → Outcome) (r' : Round) : Prop where
  credited : ∃ failures, Credited r.task outs f failures r'.task
  last : r'.last = heard outs f r.last
  resent : r'.resent = []

section

variable (h : Open t batch f₀ ledger r outs attempt)
include h

lemma Open.heard_eq (ho : o ∈ batch) (hid : o.out.sourceEventId.isSome) :
    heard outs f r.last o.tag = merged r.last f o.tag := by
  unfold heard merged; by_cases hf : isFailed (r.last o.tag)
  · rw [if_pos hf, if_pos]
    exact List.mem_map.mpr ⟨o, h.refused ▸ mem_failing.mpr ⟨ho, hf, hid⟩, rfl⟩
  · rw [if_neg hf, if_neg]; intro hm; obtain ⟨o', ho', ht⟩ := List.mem_map.mp hm
    rw [h.refused] at ho'; exact hf (ht ▸ (mem_failing.mp ho').2.1)

lemma Open.failing_heard :
    failing batch (heard outs f r.last) = failing outs f := by
  rw [failing_congr fun o ho hid => h.heard_eq ho hid, failing_merged, ← h.refused]

lemma Open.sent_heard :
    r.task.metrics.outputsSent + (batchResult outs f).delivered.length =
      t.metrics.outputsSent + (batchResult batch (heard outs f r.last)).delivered.length := by
  rw [(reported_congr fun o ho hid => h.heard_eq ho hid).1, delivered_merged, ← h.refused, h.sent]
  omega

lemma Open.pending_heard (hp : ∀ o ∈ outs, f o.tag ≠ .pending) :
    r.task.pendingIds = t.pendingIds ++ (batchResult batch (heard outs f r.last)).pending := by
  rw [(reported_congr fun o ho hid => h.heard_eq ho hid).2, pending_merged fun o ho => hp o (h.refused ▸ ho),
    h.pending]

end

lemma Open.pending_lost (h : Open t batch f₀ ledger r outs attempt) (ho : o ∈ outs) (hf : f o.tag = .pending)
    (hg : ∀ n, isFailed (heard outs f r.last n) = false → g n = heard outs f r.last n) :
    r.task.pendingIds ≠ t.pendingIds ++ (batchResult batch g).pending := by
  rw [h.pending]; intro heq; have hin := mem_failing.mp (h.refused ▸ ho)
  have hgo : g o.tag = .pending := by
    have hh : heard outs f r.last o.tag = .pending := by
      rw [h.heard_eq hin.1 hin.2.2, merged, if_pos hin.2.1, hf]
    rw [hg _ (by rw [hh]; rfl), hh]
  have hk : ∀ o ∈ batch, r.last o.tag = .pending → g o.tag = .pending := by
    intro o' ho' hl
    have hn : o'.tag ∉ outs.map Tagged.tag := by
      intro hm; obtain ⟨o'', ho'', ht⟩ := List.mem_map.mp hm
      have hfa := (mem_failing.mp (h.refused ▸ ho'')).2.1; rw [ht, hl] at hfa; cases hfa
    have hh : heard outs f r.last o'.tag = .pending := (if_neg hn).trans hl
    rw [hg _ (by rw [hh]; rfl), hh]
  have hne : r.last o.tag ≠ .pending := fun hl => by rw [hl] at hin; cases hin.2.1
  have hlt := length_pending_lt hk hin.1 hin.2.2 hne hgo; simp_all

lemma Open.entries_heard (h : Open t batch f₀ ledger r outs attempt) (hp : ∀ o ∈ outs, f o.tag ≠ .pending)
    (hu : ledger = false ∨ Unsplit outs f) (hr' : Answered r outs f r') : Ledgered batch f₀ r' := by
  intro l' hl' o ho id hid hlo; obtain ⟨failures, hc⟩ := hr'.credited; rw [hc.ledger] at hl'
  obtain ⟨l, hl, rfl⟩ := map_eq_some_iff.mp hl'
  have hu : Unsplit outs f := by grind [h.tracked]
  have hs : o.out.sourceEventId.isSome := by rw [hid]; rfl
  have hb := h.entries l hl o ho id hid hlo; rw [hr'.last, h.heard_eq ho hs, merged]
  split_ifs with hf
  · have hin : o ∈ outs := h.refused ▸ mem_failing.mpr ⟨ho, hf, hs⟩
    cases hfo : f o.tag with
    | delivered =>
      refine agrees_delivered.mpr (stateOf_markAllFailed_none ?_)
      rw [DeliveryLedger.stateOf_markBatchAcked, if_pos (mem_delivered.mpr ⟨o, hin, hfo, hid⟩)]
    | pending => exact absurd hfo (hp o hin)
    | failed =>
      refine (agrees_failed rfl).mpr (stateOf_markAllFailed_failed ?_)
      rw [DeliveryLedger.stateOf_markBatchAcked, if_neg]
      · exact (agrees_failed hf).mp hb
      · intro hm; obtain ⟨o', ho', hd, hid'⟩ := mem_delivered.mp hm
        have hfa : o ∈ failing outs f := mem_failing.mpr ⟨hin, by rw [hfo]; rfl, hs⟩
        have hf' := hu o hfa o' ho' (hid'.trans hid.symm); rw [hd] at hf'; cases hf'
  · cases hla : r.last o.tag with
    | delivered => grind [agrees_delivered, stateOf_markAllFailed_none, DeliveryLedger.stateOf_markBatchAcked]
    | pending => exact absurd hla (h.answered o ho hs hlo)
    | failed => rw [hla] at hf; exact absurd rfl hf

lemma unsplit_of_ledgered (h : Open t batch f₀ ledger r outs attempt) (hp : ∀ o ∈ outs, f o.tag ≠ .pending)
    (hr' : Answered r outs f r') (he : Ledgered batch f₀ r') : Unsplit outs f ∨ ledger = false := by
  cases hl : r.task.ledger with
  | none => right; rw [← h.tracked, hl]; rfl
  | some =>
    left; intro o ho o' ho' hid; by_contra hn
    obtain ⟨hin, hfo, hso⟩ := mem_failing.mp ho
    obtain ⟨hb, hfl, -⟩ := mem_failing.mp (h.refused ▸ hin)
    obtain ⟨id, hi₀⟩ := isSome_iff_exists.mp hso
    have hd : f o'.tag = .delivered := by
      cases hf' : f o'.tag with
      | delivered => rfl
      | pending => exact absurd hf' (hp o' ho')
      | failed => rw [hf'] at hn; exact absurd rfl hn
    obtain ⟨failures, hc⟩ := hr'.credited; have hle := hc.ledger; rw [hl] at hle
    have ha := he _ hle o hb id hi₀ (h.lost o hb hfl)
    rw [hr'.last, h.heard_eq hb hso, merged, if_pos hfl, agrees_failed hfo] at ha
    obtain ⟨reason, attempts, hs⟩ := ha; rw [stateOf_markAllFailed_none] at hs
    · cases hs
    · rw [DeliveryLedger.stateOf_markBatchAcked, if_pos (mem_delivered.mpr ⟨o', ho', hd, hid.trans hi₀⟩)]

lemma Open.conserved (h : Open t batch f₀ ledger r outs attempt) (hp : ∀ o ∈ outs, f o.tag ≠ .pending)
    (hu : ledger = false ∨ Unsplit outs f) (hr' : Answered r outs f r') (hpc : ∃ n, r'.task.pc = .written n)
    (hf : r'.task.metrics.eventsFailed = r.task.metrics.eventsFailed + (failing outs f).length) :
    Conserved t batch f₀ r' where
  settled := settled_of_written hpc
  sent := by obtain ⟨failures, hc⟩ := hr'.credited; rw [hc.sent, h.sent_heard, hr'.last]
  failed := by rw [hf, h.failed, hr'.last, length_failed, h.failing_heard]
  pending := by obtain ⟨failures, hc⟩ := hr'.credited; rw [hc.pending, h.pending_heard hp, hr'.last]
  ledger := h.entries_heard hp hu hr'
  resent := hr'.resent

lemma Open.next (h : Open t batch f₀ ledger r outs attempt) (hp : ∀ o ∈ outs, f o.tag ≠ .pending)
    (hu : Unsplit outs f) (hl : failing outs f ≠ []) (hr' : Answered r outs f r')
    (hpc : Resends r'.task outs f (attempt + 1))
    (hfa : r'.task.metrics.eventsFailed = r.task.metrics.eventsFailed) :
    Open t batch f₀ ledger r' (failing outs f) (attempt + 1) where
  pc := withIds_failed hu ▸ hpc
  refused := by rw [hr'.last, h.failing_heard]
  left := hl
  lost o ho hf := by
    rw [hr'.last] at hf; unfold heard at hf; split_ifs at hf with hm
    · obtain ⟨o', ho', ht⟩ := List.mem_map.mp hm
      have hin := mem_failing.mp (h.refused ▸ ho'); exact ht ▸ h.lost o' hin.1 hin.2.1
    · exact h.lost o ho hf
  sent := by obtain ⟨failures, hc⟩ := hr'.credited; rw [hc.sent, h.sent_heard, hr'.last]
  failed := hfa.trans h.failed
  pending := by obtain ⟨failures, hc⟩ := hr'.credited; rw [hc.pending, h.pending_heard hp, hr'.last]
  entries := h.entries_heard hp (.inr hu) hr'
  answered o ho hid hlost := by
    rw [hr'.last, h.heard_eq ho hid, merged]; split_ifs with hf
    · exact hp o (h.refused ▸ mem_failing.mpr ⟨ho, hf, hid⟩)
    · exact h.answered o ho hid hlost
  tracked := by obtain ⟨failures, hc⟩ := hr'.credited; rw [hc.ledger, isSome_map, h.tracked]
  resent := hr'.resent

lemma resent_of_taken {r' : Round} {o : Tagged} {count failed : Nat}
    (hpc : r'.task.pc = .retrying outs attempt count failed) (ho : o ∈ outs)
    (hf : isFailed (r'.last o.tag) = false) (n : Nat) (answers : Nat → Answer) :
    (r'.retries ctx (n + 1) answers).resent ≠ [] := by
  have hfi : (r'.retry ctx (answers 0)).resent ≠ [] := by
    have hm : o.tag ∈ (outs.map Tagged.tag).filter fun n => !isFailed (r'.last n) :=
      mem_filter.mpr ⟨List.mem_map.mpr ⟨o, ho, rfl⟩, by rw [hf]; rfl⟩
    have hne := append_ne_nil_of_right_ne_nil r'.resent (ne_nil_of_mem hm)
    cases answers 0 with
    | ok => rwa [retry_ok hpc]
    | error => rwa [retry_error hpc]
  obtain ⟨⟨tags, ht⟩, -⟩ := retries_keep ctx n (fun k => answers (k + 1)) (r'.retry ctx (answers 0))
  simp_all [Round.retries]

lemma Open.answer (h : Open t batch f₀ ledger r outs attempt) {count failed : Nat}
    (hpc : r.task.pc = .retrying outs attempt count failed) : Answered r outs f (r.retry ctx (.ok f)) := by
  rw [retry_ok hpc]
  refine ⟨onRetried_credited ctx r.task outs attempt count failed f, rfl, ?_⟩
  rw [h.resent, nil_append, filter_eq_nil_iff]; intro tag ht
  obtain ⟨o, ho, rfl⟩ := List.mem_map.mp ht; simp [(mem_failing.mp (h.refused ▸ ho)).2.1]

lemma unsplit_of_nil (h : failing outs f = []) : Unsplit outs f := by intro o ho; rw [h] at ho; cases ho

lemma Open.not_conserved_error (h : Open t batch f₀ ledger r outs attempt) (err : String) (n : Nat)
    (answers : Nat → Answer) : ¬ Conserved t batch f₀ ((r.retry ctx (.error err)).retries ctx n answers) := by
  obtain ⟨count, failed, hpc⟩ := h.pc
  rw [retry_error hpc, retries_of_settled fun _ _ _ _ hr => by cases hr]; intro hc
  have hco : r.task.metrics.eventsFailed = t.metrics.eventsFailed +
    (batchResult batch r.last).failed.length :=
    hc.failed
  rw [length_failed, ← h.refused, h.failed] at hco; grind [h.left]

lemma Open.not_pending (h : Open t batch f₀ ledger r outs attempt) (hr' : Answered r outs f r')
    {answers : Nat → Answer} (hc : Conserved t batch f₀ (r'.retries ctx n answers)) :
    ∀ o ∈ outs, f o.tag ≠ .pending := by
  intro o ho hf; obtain ⟨failures, hcr⟩ := hr'.credited
  obtain ⟨-, hi, hk⟩ := retries_keep ctx n answers r'; rw [hr'.last] at hk
  refine h.pending_lost ho hf (hk hc.resent) ?_; rw [← hcr.pending, ← hc.pending, hi]

lemma Answered.unsplit {r' : Round} (hr' : Answered r outs f r') {n : Nat} {answers : Nat → Answer}
    (hpc : Resends r'.task outs f (attempt + 1)) (hr : (r'.retries ctx (n + 1) answers).resent = []) :
    Unsplit outs f := by
  by_contra hs; obtain ⟨⟨count, failed, hpc⟩, o, ho, hf⟩ := And.intro hpc (exists_taken hs)
  refine resent_of_taken hpc ho ?_ n answers hr
  rw [hr'.last, heard, if_pos (List.mem_map.mpr ⟨o, (mem_filter.mp ho).1, rfl⟩), hf]

lemma conserved_retries_iff (n : Nat) (answers : Nat → Answer) (h : Open t batch f₀ ledger r outs attempt)
    (hn : attempt + n = ctx.maxRetries) :
    Conserved t batch f₀ (r.retries ctx (n + 1) answers) ↔ RetriesClean ledger (n + 1) outs answers := by
  induction n using Nat.strong_induction_on generalizing answers r outs attempt with
  | _ n ih =>
  obtain ⟨count, failed, hpc⟩ := h.pc; rw [Round.retries, RetriesClean]
  cases answers 0 with
  | error err => simp only [iff_false]; exact h.not_conserved_error err n _
  | ok f =>
    have ha : Answered r outs f (r.retry ctx (.ok f)) := h.answer hpc
    have hsp := onRetried_spec ctx r.task outs attempt count failed f
    have ht : (r.retry ctx (.ok f)).task = r.task.onRetried ctx outs attempt count failed f := by
      rw [retry_ok hpc]
    rw [← ht] at hsp; generalize r.retry ctx (.ok f) = r' at ha hsp ⊢

    have hpe : Conserved t batch f₀ (r'.retries ctx n fun k => answers (k + 1)) →
        ∀ o ∈ outs, f o.tag ≠ .pending := fun hc => h.not_pending ha hc
    cases hsp with
    | done nothing pc hf =>
      refine ⟨fun hc => ⟨hpe hc, .inl (unsplit_of_nil nothing), .inl nothing⟩, fun hcl => ?_⟩
      rw [retries_of_settled (settled_of_written pc)]
      refine h.conserved hcl.1 (.inr (unsplit_of_nil nothing)) ha pc ?_
      rw [hf, nothing]; rfl
    | exhausted last pc hf =>
      obtain rfl : n = 0 := by omega
      constructor
      · intro hc; have hp := hpe hc
        obtain hs | hno := unsplit_of_ledgered h hp ha hc.ledger
        · exact ⟨hp, .inl hs, .inr trivial⟩
        · exact ⟨hp, .inr ⟨rfl, hno⟩, .inr trivial⟩
      · rintro ⟨hp, hs, -⟩
        exact h.conserved hp (hs.symm.imp_left (·.2)) ha pc hf
    | again left more pc hf =>
      obtain ⟨m, rfl⟩ : ∃ m, n = m + 1 := ⟨n - 1, by omega⟩; constructor
      · intro hc; have hp := hpe hc; have hu := ha.unsplit pc hc.resent
        have ho := h.next hp hu left ha pc hf
        grind
      · rintro ⟨hp, hs, hr⟩
        have hu : Unsplit outs f := hs.resolve_right fun hz => absurd hz.1 (Nat.succ_ne_zero m)
        have ho := h.next hp hu left ha pc hf
        grind

end Open

section First

inductive Handled (ctx : Ctx) (n : Nat) (batch : List Tagged) (f : Nat → Outcome) (t : Task) : Prop
  | clean (nothing : failing batch f = []) (pc : ∃ k, t.pc = .written k) (failed : t.metrics.eventsFailed = n)
  | counted (left : failing batch f ≠ []) (policy : ctx.failurePolicy ≠ .retryFailed)
      (pc : (∃ k, t.pc = .written k) ∨ ∃ err, t.pc = .failed err)
      (failed : t.metrics.eventsFailed = n + (failing batch f).length)
  | dropped (left : failing batch f ≠ []) (policy : ctx.failurePolicy = .retryFailed)
    (max : ctx.maxRetries = 0)
      (pc : ∃ k, t.pc = .written k) (failed : t.metrics.eventsFailed = n)
  | retried (left : failing batch f ≠ []) (policy : ctx.failurePolicy = .retryFailed)
    (max : 0 < ctx.maxRetries)
      (pc : Resends t batch f 1)
      (failed : t.metrics.eventsFailed = n)

lemma failing_subset_withIds (batch : List Tagged) (f : Nat → Outcome) :
    failing batch f ⊆ withIds batch ((batchResult batch f).failed.map Prod.fst) := by
  intro o ho; obtain ⟨hin, -, hs⟩ := mem_failing.mp ho
  obtain ⟨id, hid⟩ := isSome_iff_exists.mp hs; refine mem_filter.mpr ⟨hin, ?_⟩
  rw [hid]; exact decide_eq_true (mem_failed_ids.mpr ⟨o, ho, hid⟩)

lemma handleBatchFailures_spec (ctx : Ctx) (t : Task) (batch : List Tagged) (f : Nat → Outcome) :
    Handled ctx t.metrics.eventsFailed batch f
      (t.handleBatchFailures ctx batch (batchResult batch f).failed) := by
  have hc : (t.addFailed (batchResult batch f).failed.length).metrics.eventsFailed =
      t.metrics.eventsFailed + (failing batch f).length := by
    rw [← length_failed]; rfl
  unfold Task.handleBatchFailures; split
  · rename_i hn
    exact .clean (failed_eq_nil.mp hn) ⟨_, rfl⟩ rfl
  · rename_i id err rest hco
    have hl : failing batch f ≠ [] := fun hn => by grind [failed_eq_nil]
    split
    · rename_i hp
      exact .counted hl (by rw [hp]; decide) (.inr ⟨_, rfl⟩) hc
    · rename_i hp
      exact .counted hl (by rw [hp]; decide) (.inl ⟨_, rfl⟩) hc
    · rename_i hp
      simp only; split_ifs with hn hz
      · exact absurd (subset_nil.mp (hn ▸ failing_subset_withIds batch f)) hl
      · exact .dropped hl hp hz ⟨_, rfl⟩ rfl
      · exact .retried hl hp (Nat.pos_of_ne_zero hz) ⟨_, _, rfl⟩ rfl

variable {ctx : Ctx} {tracker : Option AckSeqTracker} {t : Task} {outs : List Output} {batch : List Tagged}
  {f : Nat → Outcome}

structure Begun (ctx : Ctx) (t : Task) (batch : List Tagged) (f : Nat → Outcome) (r : Round) : Prop where
  sent : r.task.metrics.outputsSent = t.metrics.outputsSent + (batchResult batch f).delivered.length
  pending : r.task.pendingIds = t.pendingIds ++ (batchResult batch f).pending
  ledger : r.task.ledger = t.ledger.map fun l =>
    markAllFailed ((batch.foldl track l).markBatchAcked (batchResult batch f).delivered).1
      (batchResult batch f).failed
  handled : Handled ctx t.metrics.eventsFailed batch f r.task
  last : r.last = f
  resent : r.resent = []

lemma first_begun (ctx : Ctx) (tracker : Option AckSeqTracker) (t : Task) (outs : List Output)
    (f : Nat → Outcome) :
    Begun ctx t (number t.received.length outs) f (Round.first ctx tracker t outs f) := by
  let batch := number t.received.length outs
  let t₁ := (t.onPop outs).book batch f ((t.onPop outs).ackedSeq tracker batch f)
  have hs : SameBooks t₁ (t₁.handleBatchFailures ctx batch (batchResult batch f).failed) :=
    handleBatchFailures_booked ctx t₁ batch (batchResult batch f).failed
  have hh : Handled ctx t.metrics.eventsFailed batch f
      (t₁.handleBatchFailures ctx batch (batchResult batch f).failed) :=
        handleBatchFailures_spec ctx t₁ batch f
  exact ⟨hs.sent, hs.pendingIds, hs.ledger.trans (Option.map_map _ _ _), hh, rfl, rfl⟩

theorem handled_run (hpc : t.pc = .idle) (answers : Nat → Answer) :
    ∃ tracker' k, k ≤ ctx.maxRetries ∧
      (taskSystem ctx).Run (t, tracker) (.pop outs :: .answer (.ok f) :: (range k).map fun i =>
        .answer (answers i))
        ((handled ctx tracker t outs f answers).task, tracker') ∧
      Settled (handled ctx tracker t outs f answers).task := by
  have hl : Left ctx (Round.first ctx tracker t outs f) ctx.maxRetries := by
    have hh := (first_begun ctx tracker t outs f).handled
    intro outs' attempt count failed hre
    rcases hh with ⟨-, ⟨k, hk⟩⟩ | ⟨-, -, ⟨k, hk⟩ | ⟨err, hk⟩⟩ | ⟨-, -, -, ⟨k, hk⟩⟩ |
      ⟨-, -, hm, ⟨c, m, hk⟩⟩ <;>
      rw [hre] at hk <;> cases hk
    omega
  obtain ⟨k, hk, hr, hs⟩ :=
    retries_run ((t.onPop outs).onWritten ctx tracker (number t.received.length outs) f).2 ctx.maxRetries
      answers _ hl
  have hpo : taskStep ctx (t, tracker) (.pop outs) = some (t.onPop outs, tracker) := by
    simp [taskStep, SinkTask.step, hpc]
  exact ⟨_, k, hk, .cons hpo (.cons rfl hr), hs⟩

lemma agrees_booked {l : DeliveryLedger} {o : Tagged} {id : Uuid} (ho : o ∈ batch)
    (hid : o.out.sourceEventId = some id) (hf : isFailed (f o.tag)) :
    Agrees (f o.tag) ((markAllFailed ((batch.foldl track l).markBatchAcked (batchResult batch f).delivered).1
      (batchResult batch f).failed).stateOf id) ↔ id ∉ (batchResult batch f).delivered := by
  rw [agrees_failed hf]; constructor
  · grind [stateOf_markAllFailed_none, DeliveryLedger.stateOf_markBatchAcked]
  · intro hm
    refine stateOf_markAllFailed_mem ?_ (mem_failed_ids.mpr ⟨o, mem_failing.mpr ⟨ho, hf, by rw [hid]; rfl⟩,
      hid⟩)
    rw [DeliveryLedger.stateOf_markBatchAcked, if_neg hm]
    exact isSome_stateOf_foldl_track ho hid

lemma Begun.ledgered_iff (h : Begun ctx t batch f r) :
    Ledgered batch f r ↔ t.ledger.isSome = false ∨ NoneDelivered batch f := by
  unfold Ledgered; rw [h.ledger, h.last]
  cases t.ledger with
  | none => exact ⟨fun _ => .inl rfl, fun _ _ hl => by cases hl⟩
  | some =>
    constructor
    · intro ha; right; intro o ho o' ho' hid hd
      obtain ⟨hin, hf, hs⟩ := mem_failing.mp ho
      obtain ⟨id, hi₀⟩ := isSome_iff_exists.mp hs
      exact (agrees_booked hin hi₀ hf).mp (ha _ rfl o hin id hi₀ hf)
        (mem_delivered.mpr ⟨o', ho', hd, hid.trans hi₀⟩)
    · rintro (hn | hn) _ hl o ho id hid hf
      · cases hn
      · cases hl; refine (agrees_booked ho hid hf).mpr fun hm => ?_
        obtain ⟨o', ho', hd, hid'⟩ := mem_delivered.mp hm
        exact hn o (mem_failing.mpr ⟨ho, hf, by rw [hid]; rfl⟩) o' ho' (hid'.trans hid.symm) hd

lemma Begun.conserved_iff (h : Begun ctx t batch f r) (hpc : Settled r.task) (n : Nat)
    (answers : Nat → Answer) :
    Conserved t batch f (r.retries ctx n answers) ↔
      r.task.metrics.eventsFailed = t.metrics.eventsFailed + (failing batch f).length ∧
        (t.ledger.isSome = false ∨ NoneDelivered batch f) := by
  rw [retries_of_settled hpc, ← h.ledgered_iff]
  refine ⟨fun hc => ⟨?_, hc.ledger⟩, fun ⟨hf, hl⟩ => ⟨hpc, ?_, ?_, ?_, hl, h.resent⟩⟩
  · rw [← length_failed, hc.failed, h.last]
  · rw [h.last, h.sent]
  · rw [h.last, length_failed, hf]
  · rw [h.last, h.pending]

lemma Begun.start (h : Begun ctx t batch f r) (hu : Unsplit batch f) (hle : failing batch f ≠ [])
    (hpc : Resends r.task batch f 1) (hfa : r.task.metrics.eventsFailed = t.metrics.eventsFailed) :
    Open t batch f t.ledger.isSome r (failing batch f) 1 where
  pc := withIds_failed hu ▸ hpc
  refused := by rw [h.last]
  left := hle
  lost o _ hf := h.last ▸ hf
  sent := by rw [h.last, h.sent]
  failed := hfa
  pending := by rw [h.last, h.pending]
  entries := by
    refine h.ledgered_iff.mpr (.inr fun o ho o' ho' hid hd => ?_)
    have hf := hu o ho o' ho' hid; rw [hd] at hf; cases hf
  answered o _ _ hl hpend := by rw [h.last] at hpend; rw [hpend] at hl; cases hl
  tracked := by rw [h.ledger, isSome_map]
  resent := h.resent

end First

theorem failures_conserved_iff (ctx : Ctx) (tracker : Option AckSeqTracker) (t : Task) (outs : List Output)
    (f : Nat → Outcome) (answers : Nat → Answer) :
    Conserved t (number t.received.length outs) f (handled ctx tracker t outs f answers) ↔
      Clean ctx t.ledger.isSome (number t.received.length outs) f answers := by
  have hb := first_begun ctx tracker t outs f; unfold handled Clean
  generalize Round.first ctx tracker t outs f = r at hb ⊢
  generalize number t.received.length outs = batch at hb ⊢
  cases hb.handled with
  | clean nothing pc failed =>
    rw [hb.conserved_iff (settled_of_written pc)]
    refine iff_of_true ⟨by rw [nothing, failed]; rfl, .inr fun o ho => ?_⟩ (.inl nothing)
    rw [nothing] at ho; cases ho
  | counted left policy pc =>
    rw [hb.conserved_iff]
    · grind
    · rcases pc with pc | ⟨err, he⟩
      · exact settled_of_written pc
      · intro _ _ _ _ hr; rw [he] at hr; cases hr
  | dropped left policy max pc failed =>
    rw [hb.conserved_iff (settled_of_written pc), policy, failed, max]; simp [left]
  | retried left policy max pc failed =>
    rw [policy]; simp only [left, false_or]
    obtain ⟨n, hn⟩ : ∃ n, ctx.maxRetries = n + 1 := ⟨ctx.maxRetries - 1, by omega⟩; rw [hn]
    by_cases hu : Unsplit batch f
    · have hop := hb.start hu left pc failed; grind [conserved_retries_iff]
    · obtain ⟨o, ho, hf⟩ := exists_taken hu; obtain ⟨count, failed', hpc⟩ := pc
      refine iff_of_false (fun hc => ?_) (fun hcl => hu hcl.2.1)
      exact resent_of_taken hpc ho (by rw [hb.last]; exact hf) n answers hc.resent

def retrying (maxRetries : Nat) : Ctx := ⟨.perEvent, .retryFailed, maxRetries, 50000, "sink", true, false⟩

def idleTask : Task := { ledger := some {} }

structure Ended where
  outputsSent : Nat
  eventsFailed : Nat
  pendingIds : List Uuid
  state : Option DeliveryState
  resent : List Nat
  deriving DecidableEq

def ended (r : Round) : Ended where
  outputsSent := r.task.metrics.outputsSent
  eventsFailed := r.task.metrics.eventsFailed
  pendingIds := r.task.pendingIds
  state := r.task.ledger.bind (·.stateOf 7)
  resent := r.resent

def refused (maxRetries : Nat) (answer : Answer) : Round :=
  handled (retrying maxRetries) none idleTask [.plain 7] (fun _ => .failed "busy") fun _ => answer

def halfDelivered : Round :=
  handled (retrying 1) none idleTask [.plain 7, .plain 7]
    (fun n => if n = 0 then .delivered else .failed "busy")
    fun _ => .ok fun _ => .delivered

theorem failures_not_conserved : (ended (refused 0 (.error "")) = ⟨0, 0, [], some (.failed "busy" 1), []⟩ ∧
      ¬ Conserved idleTask [⟨0, .plain 7⟩] (fun _ => .failed "busy") (refused 0 (.error ""))) ∧
    (ended (refused 1 (.error "down")) = ⟨0, 0, [], some (.failed "busy" 1), []⟩ ∧
      ¬ Conserved idleTask [⟨0, .plain 7⟩] (fun _ => .failed "busy") (refused 1 (.error "down"))) ∧
    (ended (refused 1 (.ok fun _ => .pending)) = ⟨0, 0, [], some (.failed "busy" 1), []⟩ ∧
      ¬ Conserved idleTask [⟨0, .plain 7⟩] (fun _ => .failed "busy") (refused 1 (.ok fun _ => .pending))) ∧
    ended halfDelivered = ⟨3, 0, [], none, [0]⟩ ∧
      ¬ Conserved idleTask [⟨0, .plain 7⟩, ⟨1, .plain 7⟩]
        (fun n => if n = 0 then .delivered else .failed "busy")
        halfDelivered := by
  refine ⟨⟨by decide +kernel, fun hc => ?_⟩, ⟨by decide +kernel, fun hc => ?_⟩,
    ⟨by decide +kernel, fun hc => ?_⟩,
    by decide +kernel, fun hc => ?_⟩
  · exact absurd hc.failed (by decide +kernel)
  · exact absurd hc.failed (by decide +kernel)
  · exact absurd hc.pending (by decide +kernel)
  · exact absurd hc.resent (by decide +kernel)

end Aeon.L3.BatchFailures
