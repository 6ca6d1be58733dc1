import Aeon.Core.HashMap

/-!
# The processor and pipeline registries of a node

`ProcessorRegistry` (`crates/aeon-engine/src/registry.rs`) and `PipelineManager`
(`pipeline_manager.rs`) under the commands of the Raft log. `now i` is the `i`-th reading of a
call's clock.

* `Registries.apply_error`: a refused command changes nothing;
* `Registries.Alike.apply`: nodes answer alike whatever their clocks read.
-/
namespace Aeon.L4.Registry

open List Option Finmap Aeon.Core

abbrev BTreeMap (ν : Type) := HashMap String ν

abbrev Clock := Nat → Int64

/-- mirrors crates/aeon-types/src/error.rs:39-63 -/
inductive AeonError
  | config (message : String)
  | notFound (message : String)

def AeonError.display : AeonError → String
  | config message => "config error: " ++ message
  | notFound message => "not found: " ++ message

inductive ProcessorType
  | wasm
  | nativeSo
  | webTransport
  | webSocket
  deriving DecidableEq

inductive VersionStatus
  | available
  | active
  | archived
  deriving DecidableEq

/-- mirrors registry.rs:112-137 -/
structure ProcessorVersion where
  version : String
  sha512 : String
  sizeBytes : UInt64
  processorType : ProcessorType
  platform : String
  status : VersionStatus
  registeredAt : Int64
  registeredBy : String
  endpoint : Option String := none
  maxBatchSize : Option UInt32 := none
  deriving DecidableEq

/-- mirrors registry.rs:141-152 -/
structure ProcessorRecord where
  name : String
  description : String
  versions : BTreeMap ProcessorVersion
  createdAt : Int64
  updatedAt : Int64
  deriving DecidableEq

/-- mirrors registry.rs:156-164 -/
def ProcessorRecord.new (name description : String) (now : Int64) : ProcessorRecord :=
  { name, description, versions := ∅, createdAt := now, updatedAt := now }

/-- mirrors registry.rs:191-203 -/
inductive PipelineState
  | created
  | running
  | stopped
  | upgrading
  | failed
  deriving DecidableEq

def PipelineState.display : PipelineState → String
  | created => "created"
  | running => "running"
  | stopped => "stopped"
  | upgrading => "upgrading"
  | failed => "failed"

inductive UpgradeStrategy
  | drainSwap
  | blueGreen
  | canary
  deriving DecidableEq

structure SourceConfig where
  sourceType : String
  topic : Option String := none
  partitions : List UInt16 := []
  config : BTreeMap String := ∅
  deriving DecidableEq

structure SinkConfig where
  sinkType : String
  topic : Option String := none
  config : BTreeMap String := ∅
  deriving DecidableEq

structure ProcessorRef where
  name : String
  version : String
  deriving DecidableEq

def ProcessorRef.display (p : ProcessorRef) : String := p.name ++ ":" ++ p.version

inductive BlueGreenActive
  | blue
  | green
  deriving DecidableEq

structure BlueGreenState where
  blueProcessor : ProcessorRef
  greenProcessor : ProcessorRef
  active : BlueGreenActive
  startedAt : Int64
  deriving DecidableEq

structure CanaryThresholds where
  maxErrorRate : UInt64
  maxP99LatencyMs : UInt64
  minThroughputRatio : UInt64
  deriving DecidableEq

structure CanaryState where
  baselineProcessor : ProcessorRef
  canaryProcessor : ProcessorRef
  trafficPct : UInt8
  steps : List UInt8
  currentStep : Nat
  thresholds : CanaryThresholds
  startedAt : Int64
  deriving DecidableEq

/-- mirrors registry.rs:447-452 -/
inductive UpgradeInfo
  | blueGreen (bg : BlueGreenState)
  | canary (cs : CanaryState)
  deriving DecidableEq

def UpgradeInfo.original : UpgradeInfo → ProcessorRef
  | .blueGreen bg => bg.blueProcessor
  | .canary cs => cs.baselineProcessor

/-- mirrors registry.rs:324-386 -/
structure PipelineDefinition where
  name : String
  sources : List SourceConfig
  processor : ProcessorRef
  sinks : List SinkConfig
  upgradeStrategy : UpgradeStrategy := .drainSwap
  state : PipelineState := .created
  createdAt : Int64
  updatedAt : Int64
  assignedNode : Option UInt64 := none
  upgradeState : Option UpgradeInfo := none
  deriving DecidableEq

/-- mirrors registry.rs:420-440 -/
inductive PipelineAction
  | created
  | started
  | stopped
  | upgradeStarted
  | upgradeCompleted
  | upgradeRolledBack
  | failed
  | blueGreenStarted
  | blueGreenCutover
  | canaryStarted
  | canaryPromoted
  | canaryCompleted
  | reconfigured

structure PipelineHistoryEntry where
  timestamp : Int64
  action : PipelineAction
  actor : String
  fromState : PipelineState
  toState : PipelineState
  details : Option String := none

/-- mirrors registry.rs:524-681 -/
inductive RegistryCommand
  | registerProcessor (name description : String) (version : ProcessorVersion)
  | deleteVersion (name version : String)
  | setVersionStatus (name version : String) (status : VersionStatus)
  | createPipeline (definition : PipelineDefinition)
  | setPipelineState (name : String) (state : PipelineState)
  | upgradePipeline (name : String) (newProcessor : ProcessorRef)
  | deletePipeline (name : String)
  | blueGreenStart (name : String) (newProcessor : ProcessorRef) (actor : String)
  | blueGreenCutover (name actor : String)
  | rollbackUpgrade (name actor : String)
  | canaryStart (name : String) (newProcessor : ProcessorRef) (steps : List UInt8)
      (thresholds : CanaryThresholds) (actor : String)
  | canaryPromote (name actor : String)
  | reconfigureSource (name : String) (newSource : SourceConfig) (actor : String)
  | reconfigureSink (name : String) (newSink : SinkConfig) (actor : String)
  | registerIdentity (processorName : String)
  | revokeIdentity (processorName fingerprint : String)

/-- mirrors registry.rs:685-692 -/
inductive RegistryResponse
  | ok
  | processorRegistered (name version : String)
  | pipelineCreated (name : String)
  | error (message : String)
  deriving DecidableEq

namespace ProcessorRegistry

abbrev Catalog := BTreeMap ProcessorRecord

variable (now : Clock) (procs : Catalog)

/-- mirrors registry.rs:209-232 -/
def applyRegister (name description : String) (version : ProcessorVersion) : Catalog × RegistryResponse :=
  let record := (procs.lookup name).getD (.new name description (now 0))
  (procs.insert name { record with
      versions := record.versions.insert version.version version
      updatedAt := now 0 },
    .processorRegistered name version.version)

/-- mirrors registry.rs:234-251 -/
def applyDeleteVersion (name version : String) : Catalog × RegistryResponse :=
  match procs.lookup name with
  | some record =>
    if version ∈ record.versions then
      let versions := record.versions.erase version
      if versions.keys = ∅ then (procs.erase name, .ok)
      else (procs.insert name { record with versions, updatedAt := now 0 }, .ok)
    else (procs, .error ("version " ++ name ++ ":" ++ version ++ " not found"))
  | none => (procs, .error ("version " ++ name ++ ":" ++ version ++ " not found"))

/-- mirrors registry.rs:253-272 -/
def applySetStatus (name version : String) (status : VersionStatus) : Catalog × RegistryResponse :=
  match procs.lookup name with
  | some record =>
    match record.versions.lookup version with
    | some ver =>
      (procs.insert name { record with
          versions := record.versions.insert version { ver with status }
          updatedAt := now 0 }, .ok)
    | none => (procs, .error ("version " ++ name ++ ":" ++ version ++ " not found"))
  | none => (procs, .error ("version " ++ name ++ ":" ++ version ++ " not found"))

/-- mirrors registry.rs:51-71 -/
def apply : RegistryCommand → Catalog × RegistryResponse
  | .registerProcessor name description version =>
    applyRegister now procs name description version
  | .deleteVersion name version => applyDeleteVersion now procs name version
  | .setVersionStatus name version status => applySetStatus now procs name version status
  | _ => (procs, .error "command not handled by ProcessorRegistry")

end ProcessorRegistry

/-- mirrors pipeline_manager.rs:21-26 -/
structure PipelineManager where
  pipelines : BTreeMap PipelineDefinition := ∅
  history : BTreeMap (List PipelineHistoryEntry) := ∅

namespace PipelineManager

/-- mirrors pipeline_manager.rs:845-869 -/
def recordHistory (history : BTreeMap (List PipelineHistoryEntry)) (name : String)
    (entry : PipelineHistoryEntry) : BTreeMap (List PipelineHistoryEntry) :=
  history.insert name ((history.lookup name).getD [] ++ [entry])

abbrev Edit := PipelineDefinition → Except AeonError (PipelineDefinition × PipelineHistoryEntry)

variable (m : PipelineManager)

def edit (name : String) (f : Edit) : Except AeonError PipelineManager :=
  match m.pipelines.lookup name with
  | none => .error (.notFound ("pipeline '" ++ name ++ "'"))
  | some p =>
    match f p with
    | .error e => .error e
    | .ok (p', entry) => .ok
      { pipelines := m.pipelines.insert name p', history := recordHistory m.history name entry }

/-- mirrors pipeline_manager.rs:324-373 -/
def upgradeBlueGreen (name : String) (newProcessor : ProcessorRef) (actor : String) (now : Clock) :
    Edit := fun pipeline =>
  if pipeline.state ≠ .running then
    .error (.config ("can only start blue-green on running pipelines, current state: " ++
      pipeline.state.display))
  else if pipeline.upgradeState.isSome then
    .error (.config ("pipeline '" ++ name ++ "' already has an upgrade in progress"))
  else .ok ({ pipeline with
        state := .upgrading
        upgradeState := some (.blueGreen {
          blueProcessor := pipeline.processor
          greenProcessor := newProcessor
          active := .blue
          startedAt := now 0 })
        updatedAt := now 1 },
      { timestamp := now 2, action := .blueGreenStarted, actor
        fromState := .running, toState := .upgrading
        details := some ("green: " ++ newProcessor.display) })

/-- mirrors pipeline_manager.rs:376-417 -/
def cutover (name actor : String) (now : Clock) : Edit := fun pipeline =>
  match pipeline.upgradeState with
  | some (.blueGreen bg) =>
    if bg.active = .green then .error (.config "already cut over to green")
    else .ok ({ pipeline with
          processor := bg.greenProcessor
          state := .running
          upgradeState := none
          updatedAt := now 0 },
        { timestamp := now 1, action := .blueGreenCutover, actor
          fromState := .upgrading, toState := .running
          details := some bg.greenProcessor.display })
  | some (.canary _) | none =>
    .error (.config ("pipeline '" ++ name ++ "' is not in a blue-green upgrade"))

/-- mirrors pipeline_manager.rs:420-456 -/
def rollbackUpgrade (name actor : String) (now : Clock) : Edit := fun pipeline =>
  match pipeline.upgradeState with
  | none => .error (.config ("pipeline '" ++ name ++ "' has no upgrade in progress"))
  | some info => .ok
    ({ pipeline with
        processor := info.original
        state := .running
        upgradeState := none
        updatedAt := now 0 },
      { timestamp := now 1, action := .upgradeRolledBack, actor
        fromState := .upgrading, toState := .running
        details := some "rolled back to previous processor" })

/-- mirrors pipeline_manager.rs:461-521 -/
def upgradeCanary (name : String) (newProcessor : ProcessorRef) (steps : List UInt8)
    (thresholds : CanaryThresholds) (actor : String) (now : Clock) : Edit := fun pipeline =>
  if pipeline.state ≠ .running then
    .error (.config ("can only start canary on running pipelines, current state: " ++ pipeline.state.display))
  else if pipeline.upgradeState.isSome then
    .error (.config ("pipeline '" ++ name ++ "' already has an upgrade in progress"))
  else
    match steps with
    | [] => .error (.config "canary steps must not be empty")
    | initialPct :: _ => .ok
      ({ pipeline with
          state := .upgrading
          upgradeState := some (.canary {
            baselineProcessor := pipeline.processor
            canaryProcessor := newProcessor
            trafficPct := initialPct
            steps
            currentStep := 0
            thresholds
            startedAt := now 0 })
          updatedAt := now 1 },
        { timestamp := now 2, action := .canaryStarted, actor
          fromState := .running, toState := .upgrading
          details := some (newProcessor.display ++ " at " ++ toString initialPct.toNat ++ "%") })

/-- mirrors pipeline_manager.rs:525-586 -/
def promoteCanary (name actor : String) (now : Clock) : Edit := fun pipeline =>
  match pipeline.upgradeState with
  | some (.canary cs) =>
    match cs.steps[cs.currentStep + 1]? with
    | some pct => .ok
      ({ pipeline with
          upgradeState := some (.canary
            { cs with currentStep := cs.currentStep + 1, trafficPct := pct })
          updatedAt := now 0 },
        { timestamp := now 1, action := .canaryPromoted, actor
          fromState := .upgrading, toState := .upgrading
          details := some (cs.canaryProcessor.display ++ " at " ++ toString pct.toNat ++ "%") })
    | none => .ok
      ({ pipeline with
          processor := cs.canaryProcessor
          state := .running
          upgradeState := none
          updatedAt := now 0 },
        { timestamp := now 1, action := .canaryCompleted, actor
          fromState := .upgrading, toState := .running
          details := some (cs.canaryProcessor.display ++ " at 100%") })
  | some (.blueGreen _) | none =>
    .error (.config ("pipeline '" ++ name ++ "' is not in a canary upgrade"))

def reconfigure (kind : String) (old : PipelineDefinition → String) (new : String)
    (write : PipelineDefinition → PipelineDefinition) (actor : String) (now : Clock) : Edit :=
  fun pipeline =>
    if pipeline.state ≠ .running then
      .error (.config ("cannot reconfigure " ++ kind ++ " — pipeline is '" ++
        pipeline.state.display ++ "', not Running"))
    else if new ≠ old pipeline then
      .error (.config ("cross-type " ++ kind ++ " swap not supported via reconfigure ('" ++
        old pipeline ++ "' → '" ++ new ++ "'). Use blue-green pipeline instead."))
    else .ok ({ write pipeline with updatedAt := now 0 },
        { timestamp := now 1, action := .reconfigured, actor
          fromState := .running, toState := .running
          details := some (kind ++ " reconfigured") })

/-- mirrors pipeline_manager.rs:603-658 -/
def reconfigureSource (newSource : SourceConfig) (actor : String) (now : Clock) : Edit :=
  reconfigure "source" (fun p => (p.sources.head?.map (·.sourceType)).getD "")
    newSource.sourceType (fun p => { p with sources := newSource :: p.sources.tail }) actor now

/-- mirrors pipeline_manager.rs:665-720 -/
def reconfigureSink (newSink : SinkConfig) (actor : String) (now : Clock) : Edit :=
  reconfigure "sink" (fun p => (p.sinks.head?.map (·.sinkType)).getD "")
    newSink.sinkType (fun p => { p with sinks := newSink :: p.sinks.tail }) actor now

variable (now : Clock)

/-- mirrors pipeline_manager.rs:763-785 -/
def applyCreate (m : PipelineManager) (definition : PipelineDefinition) :
    PipelineManager × RegistryResponse :=
  let name := definition.name
  if name ∈ m.pipelines then (m, .error ("pipeline '" ++ name ++ "' already exists"))
  else
    ({ pipelines := m.pipelines.insert name definition
       history := recordHistory m.history name
        { timestamp := now 0, action := .created, actor := "system"
          fromState := .created, toState := .created } },
      .pipelineCreated name)

def stateAction : PipelineState → PipelineAction
  | .running => .started
  | .stopped => .stopped
  | .failed => .failed
  | .upgrading => .upgradeStarted
  | .created => .created

/-- mirrors pipeline_manager.rs:787-818 -/
def applySetState (m : PipelineManager) (name : String) (state : PipelineState) (actor : String) :
    PipelineManager × RegistryResponse :=
  match m.pipelines.lookup name with
  | some pipeline =>
    ({ pipelines := m.pipelines.insert name { pipeline with state, updatedAt := now 0 }
       history := recordHistory m.history name
        { timestamp := now 1, action := stateAction state, actor
          fromState := pipeline.state, toState := state } }, .ok)
  | none => (m, .error ("pipeline '" ++ name ++ "' not found"))

/-- mirrors pipeline_manager.rs:820-831 -/
def applyUpgrade (m : PipelineManager) (name : String) (newProcessor : ProcessorRef) :
    PipelineManager × RegistryResponse :=
  match m.pipelines.lookup name with
  | some pipeline =>
    let pipeline := { pipeline with processor := newProcessor, updatedAt := now 0 }
    ({ m with pipelines := m.pipelines.insert name pipeline }, .ok)
  | none => (m, .error ("pipeline '" ++ name ++ "' not found"))

/-- mirrors pipeline_manager.rs:833-843 -/
def applyDelete (name : String) : PipelineManager × RegistryResponse :=
  if name ∈ m.pipelines then
    ({ pipelines := m.pipelines.erase name, history := m.history.erase name }, .ok)
  else (m, .error ("pipeline '" ++ name ++ "' not found"))

def respond : Except AeonError PipelineManager → PipelineManager × RegistryResponse
  | .ok m' => (m', .ok)
  | .error e => (m, .error e.display)

/-- mirrors pipeline_manager.rs:38-142 -/
def apply (m : PipelineManager) : RegistryCommand → PipelineManager × RegistryResponse
  | .createPipeline definition => applyCreate now m definition
  | .setPipelineState name state => applySetState now m name state "system"
  | .upgradePipeline name newProcessor => applyUpgrade now m name newProcessor
  | .deletePipeline name => applyDelete m name
  | .blueGreenStart name newProcessor actor =>
    respond m (m.edit name (upgradeBlueGreen name newProcessor actor now))
  | .blueGreenCutover name actor => respond m (m.edit name (cutover name actor now))
  | .rollbackUpgrade name actor => respond m (m.edit name (rollbackUpgrade name actor now))
  | .canaryStart name newProcessor steps thresholds actor =>
    respond m (m.edit name (upgradeCanary name newProcessor steps thresholds actor now))
  | .canaryPromote name actor => respond m (m.edit name (promoteCanary name actor now))
  | .reconfigureSource name newSource actor =>
    respond m (m.edit name (reconfigureSource newSource actor now))
  | .reconfigureSink name newSink actor =>
    respond m (m.edit name (reconfigureSink newSink actor now))
  | _ => (m, .error "command not handled by PipelineManager")

end PipelineManager

structure Registries where
  processors : ProcessorRegistry.Catalog := ∅
  pipelines : PipelineManager := {}

namespace Registries

def onProcessors (r : Registries) (now : Clock) (cmd : RegistryCommand) : Registries × RegistryResponse :=
  let out := ProcessorRegistry.apply now r.processors cmd
  ({ r with processors := out.1 }, out.2)

def onPipelines (r : Registries) (now : Clock) (cmd : RegistryCommand) : Registries × RegistryResponse :=
  let out := PipelineManager.apply now r.pipelines cmd
  ({ r with pipelines := out.1 }, out.2)

/-- mirrors cluster_applier.rs:59-383 -/
def apply (now : Clock) (r : Registries) (cmd : RegistryCommand) : Registries × RegistryResponse :=
  match cmd with
  | .registerProcessor .. | .deleteVersion .. | .setVersionStatus .. => r.onProcessors now cmd
  | .createPipeline .. | .upgradePipeline .. | .blueGreenStart .. | .blueGreenCutover ..
  | .rollbackUpgrade .. | .canaryStart .. | .canaryPromote .. | .reconfigureSource ..
  | .reconfigureSink .. | .setPipelineState .. | .deletePipeline .. => r.onPipelines now cmd
  | .registerIdentity .. | .revokeIdentity .. =>
    (r, .error "identity commands not yet Raft-applied")

end Registries

lemma PipelineManager.apply_error {now : Clock} {m : PipelineManager} {cmd : RegistryCommand}
    {message : String} (h : (m.apply now cmd).2 = .error message) : (m.apply now cmd).1 = m := by
  have hr : ∀ out, (respond m out).2 = .error message → (respond m out).1 = m := by
    intro out ho
    cases out with
    | error => rfl
    | ok => simp [respond] at ho
  cases cmd with
  | createPipeline => grind [apply, applyCreate]
  | setPipelineState => simp only [apply, applySetState] at h ⊢; grind
  | upgradePipeline => simp only [apply, applyUpgrade] at h ⊢; grind
  | deletePipeline => grind [apply, applyDelete]
  | blueGreenStart | blueGreenCutover | rollbackUpgrade | canaryStart | canaryPromote
  | reconfigureSource | reconfigureSink => exact hr _ h
  | _ => rfl

lemma ProcessorRegistry.apply_error {now : Clock} {procs : Catalog} {cmd : RegistryCommand} {message : String}
    (h : (apply now procs cmd).2 = .error message) :
    (apply now procs cmd).1 = procs := by
  cases cmd with
  | registerProcessor => simp [apply, applyRegister] at h
  | deleteVersion => simp only [apply, applyDeleteVersion] at h ⊢; grind
  | setVersionStatus => simp only [apply, applySetStatus] at h ⊢; grind
  | _ => rfl

lemma Registries.apply_error {now : Clock} {r : Registries} {cmd : RegistryCommand} {message : String}
    (h : (r.apply now cmd).2 = .error message) : (r.apply now cmd).1 = r := by
  cases cmd with
  | registerProcessor | deleteVersion | setVersionStatus =>
    exact congrArg (fun p => { r with processors := p }) (ProcessorRegistry.apply_error h)
  | registerIdentity | revokeIdentity => rfl
  | _ => exact congrArg (fun m => { r with pipelines := m }) (PipelineManager.apply_error h)

def UpgradeInfo.unstamp : UpgradeInfo → UpgradeInfo
  | .blueGreen bg => .blueGreen { bg with startedAt := 0 }
  | .canary cs => .canary { cs with startedAt := 0 }

lemma UpgradeInfo.unstamp_comp_unstamp :
    UpgradeInfo.unstamp ∘ UpgradeInfo.unstamp = UpgradeInfo.unstamp := by
  funext info; cases info <;> rfl

def PipelineDefinition.unstamp (p : PipelineDefinition) : PipelineDefinition :=
  { p with updatedAt := 0, upgradeState := p.upgradeState.map UpgradeInfo.unstamp }

lemma PipelineDefinition.unstamp_state (p : PipelineDefinition) : p.unstamp.state = p.state := rfl

def PipelineHistoryEntry.unstamp (e : PipelineHistoryEntry) : PipelineHistoryEntry :=
  { e with timestamp := 0 }

def ProcessorRecord.unstamp (r : ProcessorRecord) : ProcessorRecord :=
  { r with createdAt := 0, updatedAt := 0 }

lemma ProcessorRecord.unstamp_versions (r : ProcessorRecord) :
    r.unstamp.versions = r.versions := rfl

section Maps

variable {ν ω : Type} {f : ν → ω} {m m' : BTreeMap ν} {v v' : ν}

def AlikeOn (f : ν → ω) (m m' : BTreeMap ν) : Prop := ∀ k, (m.lookup k).map f = (m'.lookup k).map f

lemma AlikeOn.refl (f : ν → ω) (m : BTreeMap ν) : AlikeOn f m m := fun _ => rfl

section

variable (h : AlikeOn f m m')
include h

lemma AlikeOn.mem_iff (k : String) : k ∈ m ↔ k ∈ m' := by
  have hk := congrArg Option.isSome (h k)
  simp_all [isSome_map, ← lookup_isSome]

lemma AlikeOn.lookup_none (hl : m.lookup k = none) :
    m'.lookup k = none := by simpa [hl] using (h k).symm

lemma AlikeOn.lookup_some (hl : m.lookup k = some v) :
    ∃ v', m'.lookup k = some v' ∧ f v' = f v := by simpa [hl] using (h k).symm

lemma AlikeOn.insert (hv : f v = f v') (k : String) :
    AlikeOn f (m.insert k v) (m'.insert k v') := by
  intro i; by_cases hi : i = k
  · subst hi; simp [hv]
  · rw [lookup_insert_of_ne _ hi, lookup_insert_of_ne _ hi]; exact h i

lemma AlikeOn.erase (k : String) : AlikeOn f (m.erase k) (m'.erase k) := by
  intro i; by_cases hi : i = k
  · subst hi; simp
  · rw [lookup_erase_ne hi, lookup_erase_ne hi]; exact h i

end

end Maps

structure PipelineManager.Alike (m m' : PipelineManager) : Prop where
  pipelines : AlikeOn PipelineDefinition.unstamp m.pipelines m'.pipelines
  history : AlikeOn (List.map PipelineHistoryEntry.unstamp) m.history m'.history

structure Registries.Alike (r r' : Registries) : Prop where
  processors : AlikeOn ProcessorRecord.unstamp r.processors r'.processors
  pipelines : r.pipelines.Alike r'.pipelines

lemma Registries.Alike.refl (r : Registries) : r.Alike r := ⟨.refl _ _, .refl _ _, .refl _ _⟩

namespace PipelineManager

lemma alike_recordHistory (ha : AlikeOn (List.map PipelineHistoryEntry.unstamp) h h') (name : String)
    (he : e.unstamp = e'.unstamp) :
    AlikeOn (List.map PipelineHistoryEntry.unstamp) (recordHistory h name e) (recordHistory h' name e') := by
  refine ha.insert ?_ name; have hn := ha name
  rw [map_append, map_append, map_singleton, map_singleton, he]
  cases hl : h.lookup name <;> cases hl' : h'.lookup name <;> simp_all

def Settled (f : Clock → Edit) : Prop :=
  ∀ now p, (f now p).map (Prod.map PipelineDefinition.unstamp PipelineHistoryEntry.unstamp) =
    (f (fun _ => 0) p.unstamp).map (Prod.map PipelineDefinition.unstamp PipelineHistoryEntry.unstamp)

lemma settled_upgradeBlueGreen (name : String) (newProcessor : ProcessorRef) (actor : String) :
    Settled (upgradeBlueGreen name newProcessor actor) := by
  intro now p; simp only [upgradeBlueGreen, PipelineDefinition.unstamp, isSome_map]
  split_ifs <;> rfl

lemma settled_cutover (name actor : String) : Settled (cutover name actor) := by
  intro now p; rcases hu : p.upgradeState with _ | bg | cs
  · simp only [cutover, PipelineDefinition.unstamp, hu]; rfl
  · simp only [cutover, PipelineDefinition.unstamp, hu, map_some, UpgradeInfo.unstamp]
    split_ifs <;> rfl
  · simp only [cutover, PipelineDefinition.unstamp, hu]; rfl

lemma settled_rollbackUpgrade (name actor : String) : Settled (rollbackUpgrade name actor) := by
  intro now p
  rcases hu : p.upgradeState with _ | bg | cs <;>
    (simp only [rollbackUpgrade, PipelineDefinition.unstamp, hu]; rfl)

lemma settled_upgradeCanary (name : String) (newProcessor : ProcessorRef) (steps : List UInt8)
    (thresholds : CanaryThresholds) (actor : String) :
    Settled (upgradeCanary name newProcessor steps thresholds actor) := by
  intro now p; simp only [upgradeCanary, PipelineDefinition.unstamp, isSome_map]
  split_ifs
  · rfl
  · rfl
  · cases steps <;> rfl

lemma settled_promoteCanary (name actor : String) : Settled (promoteCanary name actor) := by
  intro now p; rcases hu : p.upgradeState with _ | bg | cs
  · simp only [promoteCanary, PipelineDefinition.unstamp, hu]; rfl
  · simp only [promoteCanary, PipelineDefinition.unstamp, hu]; rfl
  · simp only [promoteCanary, PipelineDefinition.unstamp, hu, map_some, UpgradeInfo.unstamp]
    cases cs.steps[cs.currentStep + 1]? <;> rfl

lemma settled_reconfigure {kind new actor : String} {old : PipelineDefinition → String}
    {write : PipelineDefinition → PipelineDefinition} (ho : ∀ p, old p.unstamp = old p)
    (hw : ∀ p, write p.unstamp = (write p).unstamp) :
    Settled (reconfigure kind old new write actor) := by
  intro now p; simp only [reconfigure, ho, hw, p.unstamp_state]; split_ifs
  · rfl
  · rfl
  · simp only [Except.map, Prod.map, PipelineDefinition.unstamp, PipelineHistoryEntry.unstamp,
      Option.map_map, UpgradeInfo.unstamp_comp_unstamp]

lemma settled_reconfigureSource (newSource : SourceConfig) (actor : String) :
    Settled (reconfigureSource newSource actor) :=
  settled_reconfigure (fun _ => rfl) fun _ => rfl

lemma settled_reconfigureSink (newSink : SinkConfig) (actor : String) :
    Settled (reconfigureSink newSink actor) :=
  settled_reconfigure (fun _ => rfl) fun _ => rfl

lemma Alike.edit (h : m.Alike m') (hf : Settled f) (name : String) (now now' : Clock) :
    (respond m (m.edit name (f now))).1.Alike (respond m' (m'.edit name (f now'))).1 ∧
      (respond m (m.edit name (f now))).2 = (respond m' (m'.edit name (f now'))).2 := by
  cases hl : m.pipelines.lookup name with
  | none => simpa [PipelineManager.edit, hl, h.pipelines.lookup_none hl, respond] using h
  | some p =>
    obtain ⟨p', hl', hp⟩ := h.pipelines.lookup_some hl
    have ho := (hf now p).trans ((hf now' p').trans (by rw [hp])).symm
    simp only [PipelineManager.edit, hl, hl']
    rcases hr : f now p with e | ⟨q, entry⟩ <;> rcases hr' : f now' p' with e' | ⟨q', entry'⟩ <;>
      simp only [hr, hr', Except.map, Except.error.injEq, Except.ok.injEq, Prod.map, Prod.mk.injEq,
        reduceCtorEq] at ho
    · subst ho; exact ⟨h, rfl⟩
    · exact ⟨⟨h.pipelines.insert ho.1 name, alike_recordHistory h.history name ho.2⟩, rfl⟩

lemma Alike.apply {m m' : PipelineManager} (h : m.Alike m') (cmd : RegistryCommand) (now now' : Clock) :
    (m.apply now cmd).1.Alike (m'.apply now' cmd).1 ∧ (m.apply now cmd).2 = (m'.apply now' cmd).2 := by
  cases cmd with
  | createPipeline definition =>
    simp only [PipelineManager.apply, applyCreate, h.pipelines.mem_iff definition.name]
    split_ifs
    · exact ⟨h, rfl⟩
    · exact ⟨⟨h.pipelines.insert rfl _, alike_recordHistory h.history _ rfl⟩, rfl⟩
  | setPipelineState name state =>
    simp only [PipelineManager.apply, applySetState]
    cases hl : m.pipelines.lookup name with
    | none => simpa [h.pipelines.lookup_none hl] using h
    | some p =>
      obtain ⟨p', hl', hp⟩ := h.pipelines.lookup_some hl
      have hs : p'.state = p.state := by rw [← p'.unstamp_state, hp, p.unstamp_state]
      simp only [hl']
      exact ⟨⟨h.pipelines.insert (congrArg (fun q => { q with state }) hp.symm) _,
        alike_recordHistory h.history _ (by rw [hs]; rfl)⟩, trivial⟩
  | upgradePipeline name newProcessor =>
    simp only [PipelineManager.apply, applyUpgrade]
    cases hl : m.pipelines.lookup name with
    | none => simpa [h.pipelines.lookup_none hl] using h
    | some =>
      obtain ⟨p', hl', hp⟩ := h.pipelines.lookup_some hl; simp only [hl']
      exact ⟨⟨h.pipelines.insert (congrArg (fun q => { q with processor := newProcessor }) hp.symm) _,
        h.history⟩, trivial⟩
  | deletePipeline name =>
    simp only [PipelineManager.apply, applyDelete, h.pipelines.mem_iff name]; split_ifs
    · exact ⟨⟨h.pipelines.erase name, h.history.erase name⟩, rfl⟩
    · exact ⟨h, rfl⟩
  | blueGreenStart => exact h.edit (settled_upgradeBlueGreen _ _ _) _ now now'
  | blueGreenCutover => exact h.edit (settled_cutover _ _) _ now now'
  | rollbackUpgrade => exact h.edit (settled_rollbackUpgrade _ _) _ now now'
  | canaryStart => exact h.edit (settled_upgradeCanary _ _ _ _ _) _ now now'
  | canaryPromote => exact h.edit (settled_promoteCanary _ _) _ now now'
  | reconfigureSource => exact h.edit (settled_reconfigureSource _ _) _ now now'
  | reconfigureSink => exact h.edit (settled_reconfigureSink _ _) _ now now'
  | _ => exact ⟨h, rfl⟩

end PipelineManager

lemma ProcessorRegistry.alike_apply {procs procs' : Catalog}
    (h : AlikeOn ProcessorRecord.unstamp procs procs') (cmd : RegistryCommand) (now now' : Clock) :
    AlikeOn ProcessorRecord.unstamp (apply now procs cmd).1 (apply now' procs' cmd).1 ∧
      (apply now procs cmd).2 = (apply now' procs' cmd).2 := by
  cases cmd with
  | registerProcessor name description version =>
    refine ⟨h.insert ?_ name, rfl⟩
    cases hl : procs.lookup name with
    | none => rw [h.lookup_none hl]; rfl
    | some =>
      obtain ⟨record', hl', hr⟩ := h.lookup_some hl; rw [hl']
      exact congrArg (fun q : ProcessorRecord => { q with
        versions := q.versions.insert version.version version }) hr.symm
  | deleteVersion name version =>
    simp only [apply, applyDeleteVersion]
    cases hl : procs.lookup name with
    | none => simpa [h.lookup_none hl] using h
    | some record =>
      obtain ⟨record', hl', hr⟩ := h.lookup_some hl
      have hv : record'.versions = record.versions := by
        rw [← record'.unstamp_versions, hr, record.unstamp_versions]
      simp only [hl', hv]; split_ifs
      · exact ⟨h.erase name, rfl⟩
      · refine ⟨h.insert ?_ name, rfl⟩
        exact congrArg (fun q : ProcessorRecord => { q with
          versions := record.versions.erase version }) hr.symm
      · exact ⟨h, rfl⟩
  | setVersionStatus name version status =>
    simp only [apply, applySetStatus]
    cases hl : procs.lookup name with
    | none => simpa [h.lookup_none hl] using h
    | some record =>
      obtain ⟨record', hl', hr⟩ := h.lookup_some hl
      have hv : record'.versions = record.versions := by
        rw [← record'.unstamp_versions, hr, record.unstamp_versions]
      simp only [hl', hv]
      cases hve : record.versions.lookup version with
      | none => exact ⟨h, rfl⟩
      | some ver =>
        refine ⟨h.insert ?_ name, rfl⟩
        exact congrArg (fun q : ProcessorRecord => { q with
          versions := record.versions.insert version { ver with status } }) hr.symm
  | _ => exact ⟨h, rfl⟩

lemma Registries.Alike.apply {r r' : Registries} (h : r.Alike r') (cmd : RegistryCommand) (now now' : Clock) :
    (r.apply now cmd).1.Alike (r'.apply now' cmd).1 ∧ (r.apply now cmd).2 = (r'.apply now' cmd).2 := by
  have hp := ProcessorRegistry.alike_apply h.processors cmd now now'
  have hpi := h.pipelines.apply cmd now now'
  cases cmd with
  | registerProcessor | deleteVersion | setVersionStatus => exact ⟨⟨hp.1, h.pipelines⟩, hp.2⟩
  | registerIdentity | revokeIdentity => exact ⟨h, rfl⟩
  | _ => exact ⟨⟨h.processors, hpi.1⟩, hpi.2⟩

end Aeon.L4.Registry
