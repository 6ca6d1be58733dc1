import Aeon.L2Store.Checkpoint
import Aeon.L3Pipeline.Delivery

/-!
# The sink task

`run_sink_task` (`crates/aeon-engine/src/pipeline.rs`), shared by every buffered runner. A step runs
up to the next call that waits; the sink's answers and the clock are labels. Outputs are numbered as
they arrive, which the task never looks at. Adaptive flushing is left out.
-/
namespace Aeon.L3.SinkTask

open List Aeon.Core Aeon.Types Aeon.L2.Checkpoint Aeon.L3.Delivery

structure Tagged where
  tag : Nat
  out : Output
  deriving DecidableEq

def hex (width n : Nat) : String :=
  let digits := Nat.toDigits 16 n
  String.ofList (List.replicate (width - digits.length) '0' ++ digits)

def uuidText (id : Uuid) : String :=
  let n := id.toNat
  hex 8 (n / 2 ^ 96) ++ "-" ++ hex 4 (n / 2 ^ 80 % 2 ^ 16) ++ "-" ++ hex 4 (n / 2 ^ 64 % 2 ^ 16) ++
    "-" ++ hex 4 (n / 2 ^ 48 % 2 ^ 16) ++ "-" ++ hex 12 (n % 2 ^ 48)

inductive Outcome
  | delivered
  | pending
  | failed (err : String)
  deriving DecidableEq

abbrev Answer := Except String (Nat → Outcome)

/-- mirrors crates/aeon-connectors/src/kafka/sink.rs:417-421 -/
def batchResult (outs : List Tagged) (f : Nat → Outcome) : BatchResult where
  delivered := (outs.filter fun o => f o.tag = .delivered).filterMap (·.out.sourceEventId)
  pending := (outs.filter fun o => f o.tag = .pending).filterMap (·.out.sourceEventId)
  failed := outs.filterMap fun o =>
    match f o.tag, o.out.sourceEventId with
    | .failed err, some id => some (id, err)
    | _, _ => none

def tagsWhere (outs : List Tagged) (f : Nat → Outcome) (o : Outcome) : List Nat :=
  (outs.map Tagged.tag).filter fun n => f n = o

/-- mirrors pipeline.rs:1440-1473 -/
structure Ctx where
  deliveryStrategy : DeliveryStrategy
  failurePolicy : BatchFailurePolicy
  maxRetries : Nat
  maxPending : Nat
  sinkName : String
  checkpointWriter : Bool
  capacity : Bool

inductive Pc
  | idle
  | writing (outs : List Tagged)
  | retrying (outs : List Tagged) (attempt count failed : Nat)
  | written (count : Nat)
  | swept (count : Nat)
  | flushing (final : Bool)
  | finished
  | failed (err : String)
  deriving DecidableEq

structure Metrics where
  outputsSent : Nat := 0
  eventsFailed : Nat := 0
  eventsRetried : Nat := 0
  checkpointsWritten : Nat := 0

/-- mirrors pipeline.rs:1519-1556 -/
structure Task where
  pc : Pc := .idle
  ledger : Option DeliveryLedger
  maxAckedSeq : Nat := 0
  flushesSinceRecoveryAttempt : Nat := 0
  pendingCount : Nat := 0
  pendingIds : List Uuid := []
  deliveredSinceCheckpoint : Nat := 0
  failedSinceCheckpoint : Nat := 0
  metrics : Metrics := {}
  received : List Tagged := []
  delivered : List Nat := []
  unflushed : List Nat := []

inductive Effect
  | checkpoint (r : CheckpointRecord)
  | gcSweep
  | tryRecoverPrimary
  deriving DecidableEq

inductive Lbl
  | pop (outs : List Output)
  | answer (a : Answer)
  | gc
  | tick (elapsed : Bool) (now : Int)
  | abandoned
  | flushed (r : Except String Unit) (now : Int)

/-- mirrors pipeline.rs:1523 -/
def recoveryAttemptEveryNFlushes : Nat := 16

/-- mirrors pipeline.rs:1562-1578 -/
def track (l : DeliveryLedger) (o : Tagged) : DeliveryLedger :=
  match o.out.sourceEventId with
  | some id => l.track id (o.out.sourcePartition.getD 0) (o.out.sourceOffset.getD 0)
  | none => l

/-- mirrors pipeline.rs:1588-1599 -/
def l2SeqById (outs : List Tagged) (id : Uuid) : Option Nat :=
  (outs.filterMap fun o => if o.out.sourceEventId = some id then o.out.l2Seq else none).getLast?

/-- mirrors pipeline.rs:1621-1628 -/
def batchMax (outs : List Tagged) (delivered : List Uuid) : Nat :=
  (delivered.filterMap (l2SeqById outs)).foldl max 0

def markAllFailed (l : DeliveryLedger) (failed : List (Uuid × String)) : DeliveryLedger :=
  failed.foldl (fun l (id, err) => (l.markFailed id err).1) l

def withIds (outs : List Tagged) (ids : List Uuid) : List Tagged :=
  outs.filter fun o => o.out.sourceEventId.any (· ∈ ids)

def Task.note (t : Task) (outs : List Tagged) (f : Nat → Outcome) : Task := { t with
    delivered := t.delivered ++ tagsWhere outs f .delivered
    unflushed := t.unflushed ++ tagsWhere outs f .pending }

/-- mirrors pipeline.rs:2010-2028 -/
def Task.creditPendingOnFlush (t : Task) : Task := { t with
    ledger := t.ledger.map fun l => (l.markBatchAcked t.pendingIds).1
    metrics := { t.metrics with outputsSent := t.metrics.outputsSent + t.pendingIds.length }
    deliveredSinceCheckpoint := t.deliveredSinceCheckpoint + t.pendingIds.length
    pendingIds := []
    delivered := t.delivered ++ t.unflushed
    unflushed := [] }

/-- mirrors pipeline.rs:2039-2057 -/
def Task.record (t : Task) (tracker : Option AckSeqTracker) (now : Int) : CheckpointRecord where
  checkpointId := 0
  timestampNanos := now
  sourceOffsets := t.ledger.elim ∅ DeliveryLedger.checkpointOffsets
  pendingEventIds := t.ledger.elim [] DeliveryLedger.pendingIds
  deliveredCount := t.deliveredSinceCheckpoint
  failedCount := t.failedSinceCheckpoint
  perSinkAckSeq := tracker.elim ∅ AckSeqTracker.snapshot

/-- mirrors pipeline.rs:2031-2065 -/
def Task.writeCheckpoint (ctx : Ctx) (t : Task) (tracker : Option AckSeqTracker) (now : Int) :
    Task × List Effect :=
  if ctx.checkpointWriter then
    ({ t with
      deliveredSinceCheckpoint := 0
      failedSinceCheckpoint := 0
      metrics := { t.metrics with checkpointsWritten := t.metrics.checkpointsWritten + 1 } },
      [.checkpoint (t.record tracker now)])
  else (t, [])

/-- mirrors pipeline.rs:1706-1718 and 1803-1816 -/
def Task.checkpointIfDue (ctx : Ctx) (t : Task) (tracker : Option AckSeqTracker) (elapsed : Bool)
    (now : Int) : Task × List Effect :=
  if 0 < t.deliveredSinceCheckpoint ∧ elapsed then t.writeCheckpoint ctx tracker now else (t, [])

def Task.settle (t : Task) (count failed : Nat) : Task :=
  { t with pc := .written count, failedSinceCheckpoint := t.failedSinceCheckpoint + failed }

def Task.addFailed (t : Task) (n : Nat) : Task :=
  { t with metrics := { t.metrics with eventsFailed := t.metrics.eventsFailed + n } }

/-- mirrors pipeline.rs:571-640 -/
def Task.handleBatchFailures (ctx : Ctx) (t : Task) (outs : List Tagged) (failed : List (Uuid × String)) :
    Task :=
  match failed with
  | [] => { t with pc := .written outs.length }
  | (id, err) :: _ =>
    match ctx.failurePolicy with
    | .failBatch =>
      { t.addFailed failed.length with
        pc := .failed ("FailBatch: " ++ toString failed.length ++ " events failed in batch, first: " ++
          "event " ++ uuidText id ++ ": " ++ err) }
    | .skipToDlq => (t.addFailed failed.length).settle outs.length failed.length
    | .retryFailed =>
      let retry := withIds outs (failed.map Prod.fst)
      if retry = [] then (t.addFailed failed.length).settle outs.length failed.length
      else if ctx.maxRetries = 0 then t.settle outs.length failed.length
      else { t with pc := .retrying retry 1 outs.length failed.length }

/-- mirrors pipeline.rs:1604-1655 -/
def Task.book (t : Task) (outs : List Tagged) (f : Nat → Outcome) (ackedSeq : Option Nat) : Task :=
  let res := batchResult outs f
  { t.note outs f with
    ledger := t.ledger.map fun l => markAllFailed (l.markBatchAcked res.delivered).1 res.failed
    maxAckedSeq := ackedSeq.getD t.maxAckedSeq
    metrics := { t.metrics with outputsSent := t.metrics.outputsSent + res.delivered.length }
    deliveredSinceCheckpoint := t.deliveredSinceCheckpoint + res.delivered.length
    pendingIds := t.pendingIds ++ res.pending }

/-- mirrors pipeline.rs:1618-1635 -/
def Task.ackedSeq (t : Task) (tracker : Option AckSeqTracker) (outs : List Tagged) (f : Nat → Outcome) :
    Option Nat :=
  let max := batchMax outs (batchResult outs f).delivered
  if tracker.isSome ∧ t.maxAckedSeq < max then some max else none

/-- mirrors pipeline.rs:1602-1673 -/
def Task.onWritten (ctx : Ctx) (t : Task) (tracker : Option AckSeqTracker) (outs : List Tagged)
    (f : Nat → Outcome) : Task × Option AckSeqTracker :=
  let acked := t.ackedSeq tracker outs f
  ((t.book outs f acked).handleBatchFailures ctx outs (batchResult outs f).failed,
    acked.elim tracker fun seq => tracker.map (·.recordAck ctx.sinkName seq))

/-- mirrors pipeline.rs:1674-1683 -/
def Task.onWriteError (t : Task) (outs : List Tagged) (err : String) : Task := { t with
    ledger := t.ledger.map fun l =>
      markAllFailed l ((outs.filterMap (·.out.sourceEventId)).map (·, err))
    pc := .failed err }

def Task.addRetried (t : Task) (n : Nat) : Task :=
  { t with metrics := { t.metrics with eventsRetried := t.metrics.eventsRetried + n } }

/-- mirrors pipeline.rs:642-697 -/
def Task.onRetried (ctx : Ctx) (t : Task) (outs : List Tagged) (attempt count failed : Nat)
    (f : Nat → Outcome) : Task :=
  let res := batchResult outs f
  let t : Task := { (t.addRetried outs.length).note outs f with
    ledger := t.ledger.map fun l => (l.markBatchAcked res.delivered).1
    metrics := { (t.addRetried outs.length).metrics with
      outputsSent := t.metrics.outputsSent + res.delivered.length } }
  if res.failed = [] then t.settle count failed
  else if attempt = ctx.maxRetries then
    let t : Task := { t with
      ledger := t.ledger.map fun l =>
        markAllFailed l (res.failed.map fun (id, err) => (id, "retry exhausted: " ++ err)) }
    (t.addFailed res.failed.length).settle count failed
  else { t with pc := .retrying (withIds outs (res.failed.map Prod.fst)) (attempt + 1) count failed }

/-- mirrors pipeline.rs:1735-1776 and 1872-1897 -/
def Task.onFlushed (ctx : Ctx) (t : Task) (tracker : Option AckSeqTracker) (final : Bool) (now : Int) :
    Task × List Effect :=
  let t := t.creditPendingOnFlush
  if final then
    if 0 < t.deliveredSinceCheckpoint ∨ 0 < t.failedSinceCheckpoint then
      let (t, effects) := t.writeCheckpoint ctx tracker now
      ({ t with pc := .finished }, effects ++ [.gcSweep])
    else ({ t with pc := .finished }, [])
  else
    let (t, effects) := t.writeCheckpoint ctx tracker now
    let flushes := t.flushesSinceRecoveryAttempt + 1
    let recover := decide (recoveryAttemptEveryNFlushes ≤ flushes)
    ({ t with
      pc := .idle
      flushesSinceRecoveryAttempt := if recover then 0 else flushes
      pendingCount := 0 },
      effects ++ .gcSweep :: if recover && ctx.checkpointWriter then [.tryRecoverPrimary] else [])

def number (start : Nat) : List Output → List Tagged
  | [] => []
  | o :: os => ⟨start, o⟩ :: number (start + 1) os

/-- mirrors pipeline.rs:1553-1595 -/
def Task.onPop (t : Task) (outs : List Output) : Task :=
  let outs := number t.received.length outs
  { t with
    pc := .writing outs
    ledger := t.ledger.map fun l => outs.foldl track l
    received := t.received ++ outs }

def Task.onBlockingTick (ctx : Ctx) (t : Task) (tracker : Option AckSeqTracker) (elapsed : Bool) (now : Int) :
    Task × List Effect :=
  let (t, effects) := t.checkpointIfDue ctx tracker elapsed now
  ({ t with pc := .idle }, effects)

def Task.flushIf (t : Task) (shouldFlush : Bool) : Task :=
  { t with pc := if shouldFlush then .flushing false else .idle }

/-- mirrors pipeline.rs:1706-1734 -/
def Task.onTick (ctx : Ctx) (t : Task) (tracker : Option AckSeqTracker) (count : Nat) (elapsed : Bool)
    (now : Int) : Task × List Effect :=
  if ctx.deliveryStrategy.isBlocking then t.onBlockingTick ctx tracker elapsed now
  else
    let pendingCount := t.pendingCount + count
    ({ t with pendingCount := pendingCount }.flushIf (elapsed || decide (ctx.maxPending ≤ pendingCount)), [])

/-- mirrors pipeline.rs:1803-1828 -/
def Task.onIdleTick (ctx : Ctx) (t : Task) (tracker : Option AckSeqTracker) (elapsed : Bool) (now : Int) :
    Task × List Effect :=
  if ctx.deliveryStrategy.isBlocking then t.onBlockingTick ctx tracker elapsed now
  else (t.flushIf (decide (0 < t.pendingCount) && elapsed), [])

def step (ctx : Ctx) (tracker : Option AckSeqTracker) (t : Task) :
    Lbl → Option (Task × Option AckSeqTracker × List Effect)
  | .pop outs =>
    match t.pc with
    | .idle => some (t.onPop outs, tracker, [])
    | _ => none
  | .answer a =>
    match t.pc, a with
    | .writing outs, .ok f =>
      let (t, tracker) := t.onWritten ctx tracker outs f
      some (t, tracker, [])
    | .writing outs, .error err => some (t.onWriteError outs err, tracker, [])
    | .retrying outs attempt count failed, .ok f =>
      some (t.onRetried ctx outs attempt count failed f, tracker, [])
    | .retrying outs _ _ _, .error err =>
      some ({ t.addRetried outs.length with pc := .failed err }, tracker, [])
    | _, _ => none
  | .gc =>
    match t.pc with
    | .written count =>
      some ({ t with pc := .swept count }, tracker,
        if ctx.deliveryStrategy.isBlocking && ctx.capacity then [.gcSweep] else [])
    | _ => none
  | .tick elapsed now =>
    match t.pc with
    | .swept count =>
      let (t, effects) := t.onTick ctx tracker count elapsed now
      some (t, tracker, effects)
    | .idle =>
      let (t, effects) := t.onIdleTick ctx tracker elapsed now
      some (t, tracker, effects)
    | _ => none
  | .abandoned =>
    match t.pc with
    | .idle => some ({ t with pc := .flushing true }, tracker, [])
    | _ => none
  | .flushed r now =>
    match t.pc, r with
    | .flushing final, .ok () =>
      let (t, effects) := t.onFlushed ctx tracker final now
      some (t, tracker, effects)
    | .flushing _, .error err => some ({ t with pc := .failed err }, tracker, [])
    | _, _ => none

lemma length_number (start : Nat) (outs : List Output) : (number start outs).length = outs.length := by
  induction outs generalizing start with
  | nil => rfl
  | cons out outs ih => rw [number, length_cons, ih, length_cons]

lemma getElem?_number (start n : Nat) (outs : List Output) :
    (number start outs)[n]? = outs[n]?.map (Tagged.mk (start + n)) := by
  induction outs generalizing start n with
  | nil => rfl
  | cons out outs ih =>
    cases n with
    | zero => rfl
    | succ => rw [number, getElem?_cons_succ, ih, getElem?_cons_succ, Nat.add_right_comm, Nat.add_assoc]

lemma tag_of_number {start n : Nat} {outs : List Output} (h : (number start outs)[n]? = some o) :
    o.tag = start + n := by
  rw [getElem?_number] at h; grind

inductive Stepped (ctx : Ctx) (tracker : Option AckSeqTracker) (t : Task) :
    Lbl → Task → Option AckSeqTracker → List Effect → Prop
  | pop (outs : List Output) (hpc : t.pc = .idle) : Stepped ctx tracker t (.pop outs)
    (t.onPop outs) tracker []
  | written (outs : List Tagged) (f : Nat → Outcome) (hpc : t.pc = .writing outs) :
      Stepped ctx tracker t (.answer (.ok f)) (t.onWritten ctx tracker outs f).1
        (t.onWritten ctx tracker outs f).2 []
  | writeError (outs : List Tagged) (err : String) (hpc : t.pc = .writing outs) :
      Stepped ctx tracker t (.answer (.error err)) (t.onWriteError outs err) tracker []
  | retried (outs : List Tagged) (attempt count failed : Nat) (f : Nat → Outcome)
      (hpc : t.pc = .retrying outs attempt count failed) :
      Stepped ctx tracker t (.answer (.ok f)) (t.onRetried ctx outs attempt count failed f) tracker []
  | retryError (outs : List Tagged) (attempt count failed : Nat) (err : String)
      (hpc : t.pc = .retrying outs attempt count failed) :
      Stepped ctx tracker t (.answer (.error err))
        { t.addRetried outs.length with pc := .failed err } tracker []
  | gc (count : Nat) (hpc : t.pc = .written count) :
      Stepped ctx tracker t .gc { t with pc := .swept count } tracker
        (if ctx.deliveryStrategy.isBlocking && ctx.capacity then [.gcSweep] else [])
  | tick (count : Nat) (elapsed : Bool) (now : Int) (hpc : t.pc = .swept count) :
      Stepped ctx tracker t (.tick elapsed now) (t.onTick ctx tracker count elapsed now).1 tracker
        (t.onTick ctx tracker count elapsed now).2
  | idleTick (elapsed : Bool) (now : Int) (hpc : t.pc = .idle) :
      Stepped ctx tracker t (.tick elapsed now) (t.onIdleTick ctx tracker elapsed now).1 tracker
        (t.onIdleTick ctx tracker elapsed now).2
  | abandoned (hpc : t.pc = .idle) : Stepped ctx tracker t .abandoned
    { t with pc := .flushing true } tracker []
  | flushed (final : Bool) (now : Int) (hpc : t.pc = .flushing final) :
      Stepped ctx tracker t (.flushed (.ok ()) now) (t.onFlushed ctx tracker final now).1 tracker
        (t.onFlushed ctx tracker final now).2
  | flushError (final : Bool) (err : String) (now : Int) (hpc : t.pc = .flushing final) :
      Stepped ctx tracker t (.flushed (.error err) now) { t with pc := .failed err } tracker []

lemma step_cases {ctx : Ctx} {tracker tracker' : Option AckSeqTracker} {effects : List Effect}
    (h : step ctx tracker t l = some (t', tracker', effects)) :
    Stepped ctx tracker t l t' tracker' effects := by
  cases l with
  | pop outs => simp only [step] at h; split at h <;> cases h; exact .pop outs ‹_›
  | answer =>
    simp only [step] at h; split at h <;> cases h
    · exact .written _ _ ‹_›
    · exact .writeError _ _ ‹_›
    · exact .retried _ _ _ _ _ ‹_›
    · exact .retryError _ _ _ _ _ ‹_›
  | gc => simp only [step] at h; split at h <;> cases h; exact .gc _ ‹_›
  | tick elapsed now =>
    simp only [step] at h; split at h <;> cases h
    · exact .tick _ elapsed now ‹_›
    · exact .idleTick elapsed now ‹_›
  | abandoned => simp only [step] at h; split at h <;> cases h; exact .abandoned ‹_›
  | flushed r now =>
    simp only [step] at h; split at h <;> cases h
    · exact .flushed _ now ‹_›
    · exact .flushError _ _ now ‹_›

section Books

variable {ctx : Ctx} {tracker tracker' : Option AckSeqTracker} {t t' : Task} {l : Lbl}
  {effects : List Effect}

def Pc.outs : Pc → List Tagged
  | .writing outs => outs
  | .retrying outs _ _ _ => outs
  | _ => []

def Task.undelivered (t : Task) : List Tagged := t.received.filter (·.tag ∉ t.delivered)

structure SameOutputs (t t' : Task) : Prop where
  received : t'.received = t.received
  delivered : t'.delivered = t.delivered
  unflushed : t'.unflushed = t.unflushed

lemma positions_markAllFailed (l : DeliveryLedger) (failures : List (Uuid × String)) :
    (markAllFailed l failures).positions = l.positions := by
  unfold markAllFailed
  induction failures generalizing l with
  | nil => rfl
  | cons x xs ih => rw [foldl_cons, ih, DeliveryLedger.positions_markFailed]

structure SameBooks (t t' : Task) : Prop where
  ledger : t'.ledger = t.ledger
  outputs : SameOutputs t t'
  maxAckedSeq : t'.maxAckedSeq = t.maxAckedSeq
  sent : t'.metrics.outputsSent = t.metrics.outputsSent
  pendingIds : t'.pendingIds = t.pendingIds

inductive Booked (t : Task) : Lbl → Task → Prop
  | same {l : Lbl} {t' : Task} (ledger : t'.ledger = t.ledger) (outputs : SameOutputs t t') : Booked t l t'
  | pop {outs : List Output} {t' : Task} (h : t' = t.onPop outs) : Booked t (.pop outs) t'
  | failed {l : Lbl} {t' : Task} (failures : List (Uuid × String))
      (ledger : t'.ledger = t.ledger.map (markAllFailed · failures)) (outputs : SameOutputs t t') :
      Booked t l t'
  | answered {f : Nat → Outcome} {t' : Task} (failures : List (Uuid × String))
      (ledger : t'.ledger = t.ledger.map fun l =>
        markAllFailed (l.markBatchAcked (batchResult t.pc.outs f).delivered).1 failures)
      (outputs : SameOutputs (t.note t.pc.outs f) t') : Booked t (.answer (.ok f)) t'
  | flushed {now : Int} {t' : Task} (ledger : t'.ledger = t.creditPendingOnFlush.ledger)
      (outputs : SameOutputs t.creditPendingOnFlush t') : Booked t (.flushed (.ok ()) now) t'

lemma handleBatchFailures_booked (ctx : Ctx) (t : Task) (outs : List Tagged) (failed : List (Uuid × String)) :
    SameBooks t (t.handleBatchFailures ctx outs failed) := by
  unfold Task.handleBatchFailures; split
  · exact ⟨rfl, ⟨rfl, rfl, rfl⟩, rfl, rfl, rfl⟩
  · split
    · exact ⟨rfl, ⟨rfl, rfl, rfl⟩, rfl, rfl, rfl⟩
    · exact ⟨rfl, ⟨rfl, rfl, rfl⟩, rfl, rfl, rfl⟩
    · simp only; split_ifs <;> exact ⟨rfl, ⟨rfl, rfl, rfl⟩, rfl, rfl, rfl⟩

lemma onWritten_booked {outs : List Tagged} (hp : t.pc = .writing outs) (f : Nat → Outcome) :
    Booked t (.answer (.ok f)) (t.onWritten ctx tracker outs f).1 := by
  obtain ⟨hl, ho, _, _, _⟩ := handleBatchFailures_booked ctx (t.book outs f (t.ackedSeq tracker outs f)) outs
    (batchResult outs f).failed
  have hou : t.pc.outs = outs := by rw [hp]; rfl
  refine .answered (batchResult outs f).failed ?_ ?_
  · rw [hou]; exact hl
  · rw [hou]; exact ⟨ho.received, ho.delivered, ho.unflushed⟩

lemma onRetried_booked {outs : List Tagged} {attempt count failed : Nat}
    (hp : t.pc = .retrying outs attempt count failed) (f : Nat → Outcome) :
    Booked t (.answer (.ok f)) (t.onRetried ctx outs attempt count failed f) := by
  have ho : t.pc.outs = outs := by rw [hp]; rfl
  unfold Task.onRetried; simp only; split_ifs
  · exact .answered [] (by rw [ho]; rfl) (by rw [ho]; exact ⟨rfl, rfl, rfl⟩)
  · refine .answered ((batchResult outs f).failed.map fun (id, err) => (id, "retry exhausted: " ++ err))
      ?_ (by rw [ho]; exact ⟨rfl, rfl, rfl⟩)
    rw [ho]; simp only [Task.settle, Task.addFailed, Option.map_map]; rfl
  · exact .answered [] (by rw [ho]; rfl) (by rw [ho]; exact ⟨rfl, rfl, rfl⟩)

lemma writeCheckpoint_booked (ctx : Ctx) (t : Task) (tracker : Option AckSeqTracker) (now : Int) :
    SameBooks t (t.writeCheckpoint ctx tracker now).1 := by
  unfold Task.writeCheckpoint; split_ifs <;> exact ⟨rfl, ⟨rfl, rfl, rfl⟩, rfl, rfl, rfl⟩

lemma onBlockingTick_booked (ctx : Ctx) (t : Task) (tracker : Option AckSeqTracker) (elapsed : Bool)
    (now : Int) :
    SameBooks t (t.onBlockingTick ctx tracker elapsed now).1 := by
  unfold Task.onBlockingTick Task.checkpointIfDue; split_ifs
  · obtain ⟨hl, ho, hm, hs, hp⟩ := writeCheckpoint_booked ctx t tracker now
    exact ⟨hl, ⟨ho.received, ho.delivered, ho.unflushed⟩, hm, hs, hp⟩
  · exact ⟨rfl, ⟨rfl, rfl, rfl⟩, rfl, rfl, rfl⟩

lemma onTick_booked (ctx : Ctx) (t : Task) (tracker : Option AckSeqTracker) (count : Nat) (elapsed : Bool)
    (now : Int) : SameBooks t (t.onTick ctx tracker count elapsed now).1 := by
  unfold Task.onTick; split_ifs
  · exact onBlockingTick_booked ctx t tracker elapsed now
  · exact ⟨rfl, ⟨rfl, rfl, rfl⟩, rfl, rfl, rfl⟩

lemma onIdleTick_booked (ctx : Ctx) (t : Task) (tracker : Option AckSeqTracker) (elapsed : Bool) (now : Int) :
    SameBooks t (t.onIdleTick ctx tracker elapsed now).1 := by
  unfold Task.onIdleTick; split_ifs
  · exact onBlockingTick_booked ctx t tracker elapsed now
  · exact ⟨rfl, ⟨rfl, rfl, rfl⟩, rfl, rfl, rfl⟩

lemma onFlushed_booked (ctx : Ctx) (t : Task) (tracker : Option AckSeqTracker) (final : Bool) (now : Int) :
    SameBooks t.creditPendingOnFlush (t.onFlushed ctx tracker final now).1 := by
  obtain ⟨hl, ho, hm, hs, hp⟩ := writeCheckpoint_booked ctx t.creditPendingOnFlush tracker now
  cases final with
  | false => exact ⟨hl, ⟨ho.received, ho.delivered, ho.unflushed⟩, hm, hs, hp⟩
  | true =>
    unfold Task.onFlushed; simp only [if_true]; split_ifs
    · exact ⟨hl, ⟨ho.received, ho.delivered, ho.unflushed⟩, hm, hs, hp⟩
    · exact ⟨rfl, ⟨rfl, rfl, rfl⟩, rfl, rfl, rfl⟩

lemma step_booked (h : step ctx tracker t l = some (t', tracker', effects)) : Booked t l t' := by
  cases step_cases h with
  | pop => exact .pop rfl
  | written outs f hpc => exact onWritten_booked hpc f
  | writeError _ _ _ => exact .failed _ rfl ⟨rfl, rfl, rfl⟩
  | retried outs attempt count failed f hpc => exact onRetried_booked hpc f
  | retryError | gc => exact .same rfl ⟨rfl, rfl, rfl⟩
  | tick count elapsed now =>
    have hs := onTick_booked ctx t tracker count elapsed now
    exact .same hs.ledger hs.outputs
  | idleTick elapsed now =>
    have hs := onIdleTick_booked ctx t tracker elapsed now; exact .same hs.ledger hs.outputs
  | abandoned => exact .same rfl ⟨rfl, rfl, rfl⟩
  | flushed final now =>
    have hs := onFlushed_booked ctx t tracker final now; exact .flushed hs.ledger hs.outputs
  | flushError => exact .same rfl ⟨rfl, rfl, rfl⟩

lemma batchMax_mem (outs : List Tagged) (delivered : List Uuid) :
    batchMax outs delivered = 0 ∨ batchMax outs delivered ∈ delivered.filterMap (l2SeqById outs) := by
  have hm : ∀ (l : List Nat) (m : Nat), l.foldl max m = m ∨ l.foldl max m ∈ l := by
    intro l
    induction l with
    | nil => exact fun m => .inl rfl
    | cons => grind
  exact hm _ 0

lemma step_acks (h : step ctx tracker t l = some (t', tracker', effects)) :
    (t'.maxAckedSeq = t.maxAckedSeq ∧ tracker' = tracker) ∨
    ∃ outs f, l = .answer (.ok f) ∧ t.pc = .writing outs ∧
      t.maxAckedSeq < t'.maxAckedSeq ∧ t'.maxAckedSeq = batchMax outs (batchResult outs f).delivered ∧
      t'.delivered = (t.note outs f).delivered ∧
      tracker' = tracker.map (·.recordAck ctx.sinkName t'.maxAckedSeq) := by
  cases step_cases h with
  | written outs f hpc =>
    have hs := handleBatchFailures_booked ctx (t.book outs f (t.ackedSeq tracker outs f)) outs
      (batchResult outs f).failed
    have hm : (t.onWritten ctx tracker outs f).1.maxAckedSeq =
        (t.ackedSeq tracker outs f).getD t.maxAckedSeq := hs.maxAckedSeq
    have ht : (t.onWritten ctx tracker outs f).2 = (t.ackedSeq tracker outs f).elim tracker
        fun seq => tracker.map (·.recordAck ctx.sinkName seq) := rfl
    rw [ht, hm]
    by_cases hup : tracker.isSome ∧ t.maxAckedSeq < batchMax outs (batchResult outs f).delivered
    · rw [Task.ackedSeq, if_pos hup]
      exact .inr ⟨outs, f, rfl, hpc, hup.2, rfl, hs.outputs.delivered, rfl⟩
    simp [Task.ackedSeq, if_neg hup]
  | retried outs attempt count failed f _ =>
    refine .inl ⟨?_, rfl⟩; unfold Task.onRetried; simp only
    split_ifs <;> rfl
  | tick count elapsed now => exact .inl ⟨(onTick_booked ctx t tracker count elapsed now).maxAckedSeq, rfl⟩
  | idleTick elapsed now => exact .inl ⟨(onIdleTick_booked ctx t tracker elapsed now).maxAckedSeq, rfl⟩
  | flushed final now => exact .inl ⟨(onFlushed_booked ctx t tracker final now).maxAckedSeq, rfl⟩
  | pop | writeError | retryError | gc | abandoned | flushError => exact .inl ⟨rfl, rfl⟩

def Task.sentIds (t : Task) : Lbl → List Uuid
  | .answer (.ok f) => (batchResult t.pc.outs f).delivered
  | .flushed (.ok ()) _ => t.pendingIds
  | _ => []

def Task.pendingAfter (t : Task) : Lbl → List Uuid
  | .answer (.ok f) =>
    match t.pc with
    | .writing outs => t.pendingIds ++ (batchResult outs f).pending
    | _ => t.pendingIds
  | .flushed (.ok ()) _ => []
  | _ => t.pendingIds

lemma step_sent (h : step ctx tracker t l = some (t', tracker', effects)) :
    t'.metrics.outputsSent = t.metrics.outputsSent + (t.sentIds l).length ∧
    t'.pendingIds = t.pendingAfter l := by
  cases step_cases h with
  | written outs f hpc =>
    have hs := handleBatchFailures_booked ctx (t.book outs f (t.ackedSeq tracker outs f)) outs
      (batchResult outs f).failed
    simp only [Task.sentIds, Task.pendingAfter, hpc, Pc.outs]
    exact ⟨hs.sent, hs.pendingIds⟩
  | retried outs attempt count failed f hpc =>
    simp only [Task.sentIds, Task.pendingAfter, hpc, Pc.outs]; unfold Task.onRetried
    simp only; split_ifs <;> exact ⟨rfl, rfl⟩
  | tick count elapsed now =>
    have hs := onTick_booked ctx t tracker count elapsed now; exact ⟨hs.sent, hs.pendingIds⟩
  | idleTick elapsed now =>
    have hs := onIdleTick_booked ctx t tracker elapsed now; exact ⟨hs.sent, hs.pendingIds⟩
  | flushed final now => have hs := onFlushed_booked ctx t tracker final now; exact ⟨hs.sent, hs.pendingIds⟩
  | pop | writeError | retryError | gc | abandoned | flushError => exact ⟨rfl, rfl⟩

lemma Booked.delivered (h : Booked t l t') {tag : Nat} (ht : tag ∈ t.delivered) : tag ∈ t'.delivered := by
  cases h with
  | same _ outputs => exact outputs.delivered ▸ ht
  | pop h => exact h ▸ ht
  | failed _ _ outputs => exact outputs.delivered ▸ ht
  | answered _ _ outputs => exact outputs.delivered ▸ mem_append_left _ ht
  | flushed _ outputs => exact outputs.delivered ▸ mem_append_left _ ht

lemma Booked.received (h : Booked t l t') (hl : ∀ outs, l ≠ .pop outs) : t'.received = t.received := by
  cases h with
  | same _ outputs => exact outputs.received
  | pop _ => exact absurd rfl (hl _)
  | failed _ _ outputs | answered _ _ outputs => exact outputs.received
  | flushed _ outputs => exact outputs.received

lemma step_outs (h : step ctx tracker t l = some (t', tracker', effects)) :
    (∃ outs, l = .pop outs) ∨ ∀ o ∈ t'.pc.outs, o ∈ t.pc.outs := by
  have hn : ∀ outs : List Tagged, ∀ o ∈ ([] : List Tagged), o ∈ outs := fun _ _ ho => absurd ho not_mem_nil
  have hf : ∀ (t₀ : Task) (b : Bool), ∀ o ∈ (t₀.flushIf b).pc.outs, o ∈ t.pc.outs := by
    intro t₀ b; cases b <;> exact hn _
  cases step_cases h with
  | pop outs => exact .inl ⟨outs, rfl⟩
  | written outs f hpc =>
    rw [hpc]; right; simp only [Task.onWritten]
    unfold Task.handleBatchFailures; split
    · exact hn _
    · split
      · exact hn _
      · exact hn _
      · simp only; split_ifs
        · exact hn _
        · exact hn _
        · exact fun o ho => (mem_filter.mp ho).1
  | retried outs attempt count failed f hpc =>
    rw [hpc]; right; unfold Task.onRetried
    simp only; split_ifs
    · exact hn _
    · exact hn _
    · exact fun o ho => (mem_filter.mp ho).1
  | tick count elapsed now _ =>
    right; unfold Task.onTick; split_ifs
    · exact hn _
    · exact hf _ _
  | idleTick elapsed now _ =>
    right; unfold Task.onIdleTick; split_ifs
    · exact hn _
    · exact hf _ _
  | flushed final now _ =>
    right
    cases final with
    | false => exact hn _
    | true => unfold Task.onFlushed; simp only [if_true]; split_ifs <;> exact hn _
  | writeError | retryError | gc | abandoned | flushError => exact .inr (hn _)

lemma mem_writeCheckpoint {now : Int} (h : .checkpoint r ∈ (t.writeCheckpoint ctx tracker now).2) :
    r = t.record tracker now := by
  grind [Task.writeCheckpoint]

lemma mem_onBlockingTick {elapsed : Bool} {now : Int}
    (h : .checkpoint r ∈ (t.onBlockingTick ctx tracker elapsed now).2) : r = t.record tracker now := by
  unfold Task.onBlockingTick Task.checkpointIfDue at h; split_ifs at h
  · exact mem_writeCheckpoint h
  · cases h

lemma mem_onFlushed {final : Bool} {now : Int} (h : .checkpoint r ∈ (t.onFlushed ctx tracker final now).2) :
    r = t.creditPendingOnFlush.record tracker now := by
  unfold Task.onFlushed at h; simp only at h; split_ifs at h
  all_goals first
    | cases h
    | exact mem_writeCheckpoint (by simpa using h)

lemma step_record (h : step ctx tracker t l = some (t', tracker', effects)) (hr : .checkpoint r ∈ effects) :
    r.sourceOffsets = t'.ledger.elim ∅ DeliveryLedger.checkpointOffsets := by
  cases step_cases h with
  | gc => grind
  | tick count elapsed now =>
    unfold Task.onTick at hr ⊢; split_ifs at hr ⊢
    · rw [mem_onBlockingTick hr, (onBlockingTick_booked ctx t tracker elapsed now).1]; rfl
    · cases hr
  | idleTick elapsed now =>
    unfold Task.onIdleTick at hr ⊢; split_ifs at hr ⊢
    · rw [mem_onBlockingTick hr, (onBlockingTick_booked ctx t tracker elapsed now).1]; rfl
    · cases hr
  | flushed final now => rw [mem_onFlushed hr, (onFlushed_booked ctx t tracker final now).1]; rfl
  | pop | written | writeError | retried | retryError | abandoned | flushError => cases hr

end Books

end Aeon.L3.SinkTask
