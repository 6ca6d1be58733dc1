import Aeon.Core.LTS
import Aeon.L3Pipeline.SinkTask
import Aeon.L3Pipeline.WriteGate

/-!
# The buffered runner

`run_buffered` (`crates/aeon-engine/src/pipeline.rs:710-930`): three tasks joined by two bounded
rings. A step goes from one access to shared state to the next; labels carry what a task is told
from outside. `plain` is its machine; `Pipe` is shared with `Managed`.
-/
namespace Aeon.L3.Runner

open Aeon.Core Aeon.Types Aeon.L2.Checkpoint Aeon.L3.Gate Aeon.L3.Delivery Aeon.L3.SinkTask

inductive SrcPc
  | top
  | throttled
  | check
  | fetching
  | pushing (batch : List Event)
  | finished
  | failed (err : String)
  deriving DecidableEq

def SrcPc.dropped : SrcPc → Bool
  | .finished | .failed _ => true
  | _ => false

def SrcPc.held : SrcPc → List (List Event)
  | .pushing batch => [batch]
  | _ => []

inductive ProcPc
  | top
  | popping
  | processing (batch : List Event)
  | pushing (outs : List Output)
  | empty
  | idle
  | drained
  | waiting
  | taking
  | finished
  | failed (err : String)
  deriving DecidableEq

def ProcPc.dropped : ProcPc → Bool
  | .finished | .failed _ => true
  | _ => false

def ProcPc.input : ProcPc → List (List Event)
  | .processing batch => [batch]
  | _ => []

def ProcPc.output : ProcPc → List (List Output)
  | .pushing outs => [outs]
  | _ => []

inductive SinkPhase
  | loop
  | empty
  | swap
  | tick
  deriving DecidableEq

structure Credit where
  tag : Nat
  sink : Option Nat
  flushed : Bool
  deriving DecidableEq

structure SinkSide where
  phase : SinkPhase := .loop
  inst : Option Nat := none
  task : Task
  tracker : Option AckSeqTracker := none
  checkpoints : List CheckpointRecord := []
  batches : List (List Output) := []
  wroteTo : List (Option Nat) := []
  pendingTags : List Nat := []
  credits : List Credit := []

def checkpointOf : Effect → Option CheckpointRecord
  | .checkpoint r => some r
  | _ => none

def namedTags (outs : List Tagged) (f : Nat → Outcome) (o : Outcome) : List Nat :=
  (outs.filter fun x => f x.tag = o ∧ x.out.sourceEventId.isSome).map Tagged.tag

def SinkSide.note (k : SinkSide) : SinkTask.Lbl → SinkSide
  | .pop outs =>
    { k with
      batches := k.batches ++ [outs]
      wroteTo := k.wroteTo ++ outs.map fun _ => k.inst }
  | .answer (.ok f) =>
    match k.task.pc with
    | .writing outs =>
      { k with
        credits := k.credits ++ (namedTags outs f .delivered).map (⟨·, k.inst, false⟩)
        pendingTags := k.pendingTags ++ namedTags outs f .pending }
    | .retrying outs _ _ _ =>
      { k with credits := k.credits ++ (namedTags outs f .delivered).map (⟨·, k.inst, false⟩) }
    | _ => k
  | .flushed (.ok ()) _ =>
    { k with credits := k.credits ++ k.pendingTags.map (⟨·, k.inst, true⟩), pendingTags := [] }
  | _ => k

def SinkSide.apply (ctx : Ctx) (k : SinkSide) (l : SinkTask.Lbl) : Option SinkSide :=
  (SinkTask.step ctx k.tracker k.task l).map fun (t, tracker, effects) =>
    { k.note l with
      task := t
      tracker := tracker
      checkpoints := k.checkpoints ++ effects.filterMap checkpointOf }

def SinkSide.onTask (ctx : Ctx) (k : SinkSide) (l : SinkTask.Lbl) : Option SinkSide :=
  match l, k.phase with
  | .pop _, _ | .abandoned, _ => none
  | .tick elapsed now, .tick => ({ k with phase := .loop }).apply ctx (.tick elapsed now)
  | l, .loop => if k.task.pc = .idle then none else k.apply ctx l
  | _, _ => none

structure Handled (P : Type) where
  events : List Event
  baseline : List Event
  canary : List Event := []
  current : P
  candidate : Option P := none
  outputs : List Output
  deriving DecidableEq

structure Pipe (P : Type) where
  shutdown : Bool := false
  kind : SourceKind
  gate : Option GateState := none
  engaged : Bool := false
  plan : Option RecoveryPlan := none
  src : SrcPc := .top
  srcRing : List (List Event) := []
  proc : ProcPc := .top
  sinkRing : List (List Output) := []
  sink : SinkSide
  eventsReceived : Nat := 0
  eventsProcessed : Nat := 0
  returned : List (List Event) := []
  handled : List (Handled P) := []
  pulls : List (Bool × Option GateState) := []

structure Cfg where
  srcCap : Nat
  sinkCap : Nat
  ctx : Ctx

def perEventCfg : Cfg := ⟨4, 4, ⟨.perEvent, .retryFailed, 3, 50000, "sink", true, true⟩⟩

def unorderedCfg : Cfg := ⟨4, 4, ⟨.unorderedBatch, .retryFailed, 3, 50000, "sink", false, false⟩⟩

inductive Lbl
  | shutdown
  | gate (g : GateState)
  | pressure (engaged : Bool)
  | src
  | batch (r : Except String (List Event))
  | proc (locked : Bool)
  | processed (baseline canary : Except String (List Output))
  | sink
  | sinkTask (l : SinkTask.Lbl)

namespace Pipe

variable {P : Type} (cfg : Cfg) (s : Pipe P)

def pull : Pipe P := { s with src := .fetching, pulls := s.pulls ++ [(s.engaged, s.gate)] }

/-- mirrors pipeline.rs:811-828 and 2449-2469 -/
def onBatch (paused : Bool) : Except String (List Event) → Pipe P
  | .error e => { s with src := .failed e }
  | .ok [] => { s with src := if paused then .top else if s.kind = .pull then .finished else .top }
  | .ok events =>
    { s with
      src := .pushing events
      eventsReceived := s.eventsReceived + events.length
      returned := s.returned ++ [events] }

/-- mirrors pipeline.rs:830-840 and 2471-2481 -/
def pushSrc (batch : List Event) : Pipe P :=
  if s.srcRing.length < cfg.srcCap then { s with srcRing := s.srcRing ++ [batch], src := .top } else s

def popSrc : Pipe P :=
  match s.srcRing with
  | [] => { s with proc := .empty }
  | batch :: rest => { s with srcRing := rest, proc := .processing batch }

def onProcessed (h : Handled P) : Pipe P := { s with
    proc := .pushing h.outputs
    eventsProcessed := s.eventsProcessed + h.events.length
    handled := s.handled ++ [h] }

def pushSink (outs : List Output) : Pipe P :=
  if s.sinkRing.length < cfg.sinkCap then { s with sinkRing := s.sinkRing ++ [outs], proc := .top } else s

def checkAbandoned : Pipe P := { s with proc := if s.src.dropped then .finished else .idle }

/-- mirrors pipeline.rs:1556-1557 and 1778-1781 -/
def onSink : Option (Pipe P) :=
  match s.sink.phase with
  | .loop =>
    if s.sink.task.pc = .idle then
      match s.sinkRing with
      | [] => some { s with sink := { s.sink with phase := .empty } }
      | outs :: rest => (s.sink.apply cfg.ctx (.pop outs)).map fun k => { s with sink := k, sinkRing := rest }
    else none
  | .empty =>
    if s.proc.dropped then
      (({ s.sink with phase := .loop } : SinkSide).apply cfg.ctx .abandoned).map ({ s with sink := · })
    else some { s with sink := { s.sink with phase := .swap } }
  | _ => none

lemma onSink_eq {s s' : Pipe P} (h : s.onSink cfg = some s') :
    ∃ k ring, s' = { s with sink := k, sinkRing := ring } ∧ (s.sinkRing = [] → ring = []) := by
  unfold onSink at h; split at h
  · split_ifs at h; split at h
    · grind
    · rename_i hr
      obtain ⟨k, -, rfl⟩ := Option.map_eq_some_iff.mp h; grind
  · split_ifs at h
    · obtain ⟨k, -, rfl⟩ := Option.map_eq_some_iff.mp h; exact ⟨k, _, rfl, id⟩
    grind
  · cases h

/-- mirrors pipeline.rs:775-843 -/
def srcStep : Option (Pipe P) :=
  match s.src with
  | .top =>
    some { s with src := if s.shutdown then .finished else if s.engaged then .throttled else .check }
  | .throttled => some (if s.engaged && !s.shutdown then s else { s with src := .check })
  | .check => some (if s.gate.all (· = .opened) then s.pull else { s with src := .finished })
  | .pushing batch => some (s.pushSrc cfg batch)
  | _ => none

/-- mirrors pipeline.rs:863-905 -/
def procStep : Option (Pipe P) :=
  match s.proc with
  | .top => some { s with proc := if s.shutdown then .finished else .popping }
  | .popping => some s.popSrc
  | .pushing outs => some (s.pushSink cfg outs)
  | .empty => some s.checkAbandoned
  | .idle => some { s with proc := .top }
  | _ => none

def onAnswer (p : P) : Except String (List Output) → List Event → Pipe P
  | .error e, _ => { s with proc := .failed e }
  | .ok outs, batch => s.onProcessed { events := batch, baseline := batch, current := p, outputs := outs }

def step (p : P) : Lbl → Option (Pipe P)
  | .shutdown => some { s with shutdown := true }
  | .gate g => s.gate.map fun _ => { s with gate := some g }
  | .pressure b => some { s with engaged := b }
  | .src => s.srcStep cfg
  | .batch r => if s.src = .fetching then some (s.onBatch false r) else none
  | .proc _ => s.procStep cfg
  | .processed baseline _ =>
    match s.proc with
    | .processing batch => some (s.onAnswer p baseline batch)
    | _ => none
  | .sink =>
    match s.sink.phase with
    | .swap => some { s with sink := { s.sink with phase := .tick } }
    | _ => s.onSink cfg
  | .sinkTask l => (s.sink.onTask cfg.ctx l).map ({ s with sink := · })

end Pipe

structure Starts {P : Type} (cfg : Cfg) (plan : Option RecoveryPlan) (s : Pipe P) : Prop where
  tasks : s.src = .top ∧ s.proc = .top ∧ s.srcRing = [] ∧ s.sinkRing = []
  sink : ∃ (ledger : Option DeliveryLedger) (tracker : Option AckSeqTracker), s.sink =
    { task := { ledger := ledger }, tracker := tracker.map (AckSeqTracker.registerSink · cfg.ctx.sinkName) }
  plan : s.plan = plan
  history : s.returned = [] ∧ s.handled = [] ∧ s.pulls = []

def plain {P : Type} (cfg : Cfg) (plan : Option RecoveryPlan) (p : P) : LTS (Pipe P) Lbl :=
  .ofFn (Starts cfg plan) (fun s => s.step cfg p)

end Aeon.L3.Runner
