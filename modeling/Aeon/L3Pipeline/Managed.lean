import Aeon.Core.Mailbox
import Aeon.L3Pipeline.Runner

/-!
# The managed runner

`run_buffered_managed` and `PipelineControl` (`crates/aeon-engine/src/pipeline.rs:2067-2704`): the
tasks of `Runner` under a control block, with any number of calls in flight, numbered.
`MaybeL2Wrapped` leaves `reassign_partitions` at the trait's default, so a change of the watch has
no effect.
-/
namespace Aeon.L3.Managed

open Function Aeon.Core Aeon.Types Aeon.L2.Checkpoint Aeon.L3.SinkTask Aeon.L3.Runner

section Control

variable (P : Type)

/-- mirrors pipeline.rs:2079-2092 -/
inductive UpgradeAction
  | startBlueGreen (green : P)
  | cutoverBlueGreen
  | startCanary (canary : P) (pct : UInt8)
  | setCanaryPct (pct : UInt8)
  | completeCanary
  | rollback
  deriving DecidableEq

inductive Drain
  | processor (p : P)
  | source (kind : SourceKind)
  | sink
  deriving DecidableEq

inductive Op
  | drainAndSwap (d : Drain P)
  | upgrade (a : UpgradeAction P)

inductive DrainPc
  | poll
  | wait
  | place
  | swapPoll
  | swapWait
  | resume
  | returned
  deriving DecidableEq

inductive Call
  | drain (d : Drain P) (pc : DrainPc)
  | upgrade (a : UpgradeAction P) (pc : Mailbox.Pc)
  deriving DecidableEq

/-- mirrors pipeline.rs:2116-2142 -/
structure Control where
  paused : Bool := false
  drainComplete : Notify Nat := {}
  newProcessor : Option P := none
  newSource : Option SourceKind := none
  newSink : Option Nat := none
  swapComplete : Notify Nat := {}
  upgradeAction : Option (Nat × UpgradeAction P) := none
  canaryPct : UInt8 := 0
  upgradeActionComplete : Notify Nat := {}
  calls : Nat → Option (Call P) := fun _ => none
  applied : List (Nat × UpgradeAction P) := []
  replaced : List Nat := []

end Control

variable {P : Type}

def Call.wakeDrain : Call P → Call P
  | .drain d .wait => .drain d .place
  | call => call

def Call.wakeSwap : Call P → Call P
  | .drain d .swapWait => .drain d .resume
  | call => call

def Call.wakeUpgrade : Call P → Call P
  | .upgrade a pc => .upgrade a pc.wake
  | call => call

namespace Control

variable (k : Control P)

def setCall (c : Nat) (call : Call P) : Control P := { k with calls := update k.calls c (some call) }

def wake (f : Call P → Call P) : Option Nat → Control P
  | none => k
  | some c => { k with calls := update k.calls c ((k.calls c).map f) }

def notifyDrain : Control P :=
  let (n, woken) := k.drainComplete.notifyOne
  ({ k with drainComplete := n } : Control P).wake Call.wakeDrain woken

def notifySwap : Control P :=
  let (n, woken) := k.swapComplete.notifyOne
  ({ k with swapComplete := n } : Control P).wake Call.wakeSwap woken

def notifyUpgrade : Control P :=
  let (n, woken) := k.upgradeActionComplete.notifyOne
  ({ k with upgradeActionComplete := n } : Control P).wake Call.wakeUpgrade woken

/-- mirrors pipeline.rs:2164-2302 -/
def begin (c : Nat) (op : Op P) : Option (Control P) :=
  match k.calls c, op with
  | some _, _ => none
  | none, .drainAndSwap d => some { k.setCall c (.drain d .poll) with paused := true }
  | none, .upgrade a =>
    some { k.setCall c (.upgrade a .posted) with
      upgradeAction := some (c, a)
      replaced := k.replaced ++ (k.upgradeAction.map Prod.fst).toList }

def put (c : Nat) : Drain P → Control P
  | .processor p => { k with newProcessor := some p }
  | .source kind => { k with newSource := some kind }
  | .sink => { k with newSink := some c }

/-- mirrors pipeline.rs:2164-2215 -/
def drainStep (c : Nat) (d : Drain P) : DrainPc → Option (Control P)
  | .poll =>
    let (n, now) := k.drainComplete.poll c
    some { k.setCall c (.drain d (if now then .place else .wait)) with drainComplete := n }
  | .place => some ((k.put c d).setCall c (.drain d .swapPoll))
  | .swapPoll =>
    let (n, now) := k.swapComplete.poll c
    some { k.setCall c (.drain d (if now then .resume else .swapWait)) with swapComplete := n }
  | .resume => some { k.setCall c (.drain d .returned) with paused := false }
  | _ => none

def callStep (c : Nat) : Option (Control P) :=
  match k.calls c with
  | some (.drain d pc) => k.drainStep c d pc
  | some (.upgrade a .posted) =>
    let (n, now) := k.upgradeActionComplete.poll c
    some { k.setCall c (.upgrade a (if now then .returned else .waiting)) with upgradeActionComplete := n }
  | _ => none

end Control

structure St (P : Type) where
  pipe : Pipe P
  ctl : Control P := {}
  current : P
  green : Option P := none
  canary : Option P := none

inductive Lbl (P : Type)
  | run (l : Runner.Lbl)
  | call (c : Nat) (op : Op P)
  | callStep (c : Nat)

namespace St

variable (cfg : Cfg) (s : St P)

/-- mirrors pipeline.rs:2385-2484 -/
def srcStep : Option (St P) :=
  match s.pipe.src with
  | .top => some { s with pipe := { s.pipe with src := if s.pipe.shutdown then .finished else .check } }
  | .check =>
    if s.ctl.paused then
      match s.ctl.newSource with
      | some kind =>
        some { s with
          pipe := { s.pipe with src := .top, kind := kind }
          ctl := { s.ctl with newSource := none }.notifySwap }
      | none => some { s with pipe := { s.pipe with src := .top } }
    else some { s with pipe := s.pipe.pull }
  | .pushing batch => some { s with pipe := s.pipe.pushSrc cfg batch }
  | _ => none

/-- mirrors pipeline.rs:2509-2554 -/
def upgrade : UpgradeAction P → St P
  | .startBlueGreen green => { s with green := some green }
  | .cutoverBlueGreen => { s with current := s.green.getD s.current, green := none }
  | .startCanary canary pct => { s with canary := some canary, ctl := { s.ctl with canaryPct := pct } }
  | .setCanaryPct pct => { s with ctl := { s.ctl with canaryPct := pct } }
  | .completeCanary =>
    { s with current := s.canary.getD s.current, canary := none, ctl := { s.ctl with canaryPct := 0 } }
  | .rollback => { s with green := none, canary := none, ctl := { s.ctl with canaryPct := 0 } }

/-- mirrors pipeline.rs:2506-2555 -/
def takeUpgrade : St P :=
  match s.ctl.upgradeAction with
  | none => s
  | some (c, a) =>
    let s := ({ s with
      ctl := { s.ctl with upgradeAction := none, applied := s.ctl.applied ++ [(c, a)] } } : St P).upgrade a
    { s with ctl := s.ctl.notifyUpgrade }

def toCanary (pct : UInt8) (e : Event) : Bool := e.id.toNat % 100 < pct.toNat

def answered (events : List Event) (r : Except String (List Output)) : Except String (List Output) :=
  if events = [] then .ok [] else r

/-- mirrors pipeline.rs:2557-2612 -/
def onProcessed (baseline canary : Except String (List Output)) (batch : List Event) : Pipe P :=
  match (if 0 < s.ctl.canaryPct then s.canary else none) with
  | none => s.pipe.onAnswer s.current baseline batch
  | some candidate =>
    let toBaseline := batch.filter (!toCanary s.ctl.canaryPct ·)
    let toCandidate := batch.filter (toCanary s.ctl.canaryPct ·)
    match answered toBaseline baseline, answered toCandidate canary with
    | .ok outs, .ok outs' =>
      s.pipe.onProcessed ⟨batch, toBaseline, toCandidate, s.current, some candidate, outs ++ outs'⟩
    | .error e, _ => { s.pipe with proc := .failed e }
    | .ok _, .error e => { s.pipe with proc := .failed e }

/-- mirrors pipeline.rs:2504-2680 -/
def procStep (locked : Bool) : Option (St P) :=
  match s.pipe.proc with
  | .top =>
    if s.pipe.shutdown then some { s with pipe := { s.pipe with proc := .finished } }
    else
      let s := if locked then s else s.takeUpgrade
      some { s with pipe := { s.pipe with proc := .popping } }
  | .popping => some { s with pipe := s.pipe.popSrc }
  | .pushing outs => some { s with pipe := s.pipe.pushSink cfg outs }
  | .empty => some { s with pipe := s.pipe.checkAbandoned }
  | .idle => some { s with pipe := { s.pipe with proc := if s.ctl.paused then .drained else .top } }
  | .drained =>
    if s.pipe.sinkRing = [] then
      some { s with pipe := { s.pipe with proc := .waiting }, ctl := s.ctl.notifyDrain }
    else some { s with pipe := { s.pipe with proc := .top } }
  | .waiting => some { s with pipe := { s.pipe with proc := if s.ctl.paused then .taking else .top } }
  | .taking =>
    match s.ctl.newProcessor with
    | none => some { s with pipe := { s.pipe with proc := .waiting } }
    | some p =>
      some { s with
        pipe := { s.pipe with proc := .top }
        ctl := { s.ctl with newProcessor := none }.notifySwap
        current := p }
  | _ => none

/-- mirrors pipeline.rs:1782-1793 -/
def sinkSwap : St P :=
  match s.ctl.newSink with
  | some c =>
    if s.ctl.paused then
      { s with
        pipe := { s.pipe with sink := { s.pipe.sink with phase := .tick, inst := some c } }
        ctl := { s.ctl with newSink := none }.notifySwap }
    else { s with pipe := { s.pipe with sink := { s.pipe.sink with phase := .tick } } }
  | none => { s with pipe := { s.pipe with sink := { s.pipe.sink with phase := .tick } } }

def runStep : Runner.Lbl → Option (St P)
  | .shutdown => some { s with pipe := { s.pipe with shutdown := true } }
  | .gate g => s.pipe.gate.map fun _ => { s with pipe := { s.pipe with gate := some g } }
  | .pressure b => some { s with pipe := { s.pipe with engaged := b } }
  | .src => s.srcStep cfg
  | .batch r => if s.pipe.src = .fetching then some { s with pipe := s.pipe.onBatch s.ctl.paused r } else none
  | .proc locked => s.procStep cfg locked
  | .processed baseline canary =>
    match s.pipe.proc with
    | .processing batch => some { s with pipe := s.onProcessed baseline canary batch }
    | _ => none
  | .sink =>
    match s.pipe.sink.phase with
    | .swap => some s.sinkSwap
    | _ => (s.pipe.onSink cfg).map ({ s with pipe := · })
  | .sinkTask l =>
    (s.pipe.sink.onTask cfg.ctx l).map fun k => { s with pipe := { s.pipe with sink := k } }

def step : Lbl P → Option (St P)
  | .run l => s.runStep cfg l
  | .call c op => (s.ctl.begin c op).map ({ s with ctl := · })
  | .callStep c => (s.ctl.callStep c).map ({ s with ctl := · })

end St

structure Initial (cfg : Cfg) (s : St P) : Prop where
  pipe : Starts cfg none s.pipe
  ctl : s.ctl = {}
  processors : s.green = none ∧ s.canary = none

def machine (cfg : Cfg) : LTS (St P) (Lbl P) := .ofFn (Initial cfg) (fun s => s.step cfg)

def idlePipeline (kind : SourceKind) (ledger : Option Delivery.DeliveryLedger) (engaged : Bool := false)
    (gate : Option Gate.GateState := none) : St Nat where
  pipe := { kind, engaged, gate, sink := { task := { ledger } } }
  current := 0

lemma idlePipeline_initial {cfg : Cfg} : Initial cfg (idlePipeline kind ledger engaged gate) where
  pipe := ⟨⟨rfl, rfl, rfl, rfl⟩, ⟨ledger, none, rfl⟩, rfl, rfl, rfl, rfl⟩
  ctl := rfl
  processors := ⟨rfl, rfl⟩

end Aeon.L3.Managed
