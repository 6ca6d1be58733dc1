import Mathlib.Data.List.Infix
import Aeon.L4Cluster.Registry

/-!
# Replicated registries

`ClusterRegistryApplier` (`crates/aeon-engine/src/cluster_applier.rs`). Every node applies the same
commands to its own catalogs and drives its own supervisor, which is left arbitrary.

* `nodes_agree_iff`: catalogs stay equal exactly when the clocks read the same wherever a command
  writes a reading.
-/
namespace Aeon.L4.Applier

open List Aeon.Core
open Aeon.L4.Registry

variable {σ τ : Type}

inductive SupervisorCall
  | start (definition : PipelineDefinition)
  | stop (name : String)
  | upgradeRunning (name : String) (newProcessor : ProcessorRef)
  | clusterBlueGreenStart (name : String) (newProcessor : ProcessorRef)
  | clusterBlueGreenCutover (name : String)
  | clusterRollbackUpgrade (name : String)
  | clusterCanaryStart (name : String) (newProcessor : ProcessorRef) (initialPct : UInt8)
  | clusterPromoteCanary (name : String)
  | clusterReconfigureSource (name : String) (newSource : SourceConfig)
  | clusterReconfigureSink (name : String) (newSink : SinkConfig)

abbrev Supervisor (σ : Type) := σ → SupervisorCall → σ × Except AeonError Unit

/-- mirrors cluster_applier.rs:22-57 -/
structure Node (σ : Type) where
  registries : Registries
  supervisor : Option σ

variable (sup : Supervisor σ)

def Node.call (node : Node σ) (call : SupervisorCall) : Node σ :=
  { node with supervisor := node.supervisor.map fun tasks => (sup tasks call).1 }

def followUp (pipelines : PipelineManager) : RegistryCommand → Option SupervisorCall
  | .upgradePipeline name newProcessor => some (.upgradeRunning name newProcessor)
  | .blueGreenStart name newProcessor _ => some (.clusterBlueGreenStart name newProcessor)
  | .blueGreenCutover name _ => some (.clusterBlueGreenCutover name)
  | .rollbackUpgrade name _ => some (.clusterRollbackUpgrade name)
  | .canaryStart name newProcessor steps _ _ =>
    some (.clusterCanaryStart name newProcessor (steps.head?.getD 10))
  | .canaryPromote name _ => some (.clusterPromoteCanary name)
  | .reconfigureSource name newSource _ => some (.clusterReconfigureSource name newSource)
  | .reconfigureSink name newSink _ => some (.clusterReconfigureSink name newSink)
  | .setPipelineState name .running => (pipelines.pipelines.lookup name).map .start
  | .setPipelineState name .stopped | .setPipelineState name .failed => some (.stop name)
  | _ => none

/-- mirrors cluster_applier.rs:59-383 -/
def Node.apply (now : Clock) (node : Node σ) (cmd : RegistryCommand) :
    Node σ × RegistryResponse :=
  match cmd with
  | .deletePipeline name =>
    let node := node.call sup (.stop name)
    let out := node.registries.apply now cmd
    ({ node with registries := out.1 }, out.2)
  | _ =>
    let out := node.registries.apply now cmd
    let node := { node with registries := out.1 }
    match out.2, followUp out.1.pipelines cmd with
    | .error message, _ => (node, .error message)
    | answer, some call => (node.call sup call, answer)
    | answer, none => (node, answer)

lemma Node.apply_registries (now : Clock) (node : Node σ) (cmd : RegistryCommand) :
    (node.apply sup now cmd).1.registries = (node.registries.apply now cmd).1 ∧
      (node.apply sup now cmd).2 = (node.registries.apply now cmd).2 := by
  unfold Node.apply; split
  · exact ⟨rfl, rfl⟩
  · dsimp only; split
    · rename_i he
      exact ⟨rfl, he.symm⟩
    · exact ⟨rfl, rfl⟩
    · exact ⟨rfl, rfl⟩

def Node.applyAll (sup : Supervisor σ) (node : Node σ) :
    List (Clock × RegistryCommand) → Node σ × List RegistryResponse
  | [] => (node, [])
  | (now, cmd) :: log =>
    let out := node.apply sup now cmd
    let rest := out.1.applyAll sup log
    (rest.1, out.2 :: rest.2)

structure SameCatalogs (r r' : Registries) : Prop where
  processors : r.processors = r'.processors
  pipelines : r.pipelines.pipelines = r'.pipelines.pipelines

lemma SameCatalogs.refl (r : Registries) : SameCatalogs r r := ⟨rfl, rfl⟩

instance decidableSameCatalogs (r r' : Registries) : Decidable (SameCatalogs r r') :=
  decidable_of_iff (r.processors = r'.processors ∧ r.pipelines.pipelines = r'.pipelines.pipelines)
    ⟨fun h => ⟨h.1, h.2⟩, fun h => ⟨h.processors, h.pipelines⟩⟩

structure AlikeCatalogs (r r' : Registries) : Prop where
  processors : AlikeOn ProcessorRecord.unstamp r.processors r'.processors
  pipelines : AlikeOn PipelineDefinition.unstamp r.pipelines.pipelines r'.pipelines.pipelines

lemma SameCatalogs.alike (h : SameCatalogs r r') : AlikeCatalogs r r' :=
  ⟨h.processors ▸ .refl _ _, h.pipelines ▸ .refl _ _⟩

section History

variable {m : PipelineManager} (history : BTreeMap (List PipelineHistoryEntry)) (now : Clock)

lemma edit_withHistory (name : String) (f : PipelineManager.Edit) :
    ((PipelineManager.respond { m with history }
      (({ m with history } : PipelineManager).edit name f)).1.pipelines =
        (PipelineManager.respond m (m.edit name f)).1.pipelines) ∧
      (PipelineManager.respond { m with history } (({ m with history } : PipelineManager).edit name f)).2 =
        (PipelineManager.respond m (m.edit name f)).2 := by
  simp only [PipelineManager.edit]
  cases m.pipelines.lookup name with
  | none => exact ⟨rfl, rfl⟩
  | some p =>
    dsimp only
    cases f p with
    | error | ok => exact ⟨rfl, rfl⟩

lemma apply_withHistory (m : PipelineManager) (cmd : RegistryCommand) :
    (({ m with history } : PipelineManager).apply now cmd).1.pipelines = (m.apply now cmd).1.pipelines ∧
      (({ m with history } : PipelineManager).apply now cmd).2 = (m.apply now cmd).2 := by
  cases cmd with
  | createPipeline => simp only [PipelineManager.apply, PipelineManager.applyCreate]; grind
  | setPipelineState => grind [PipelineManager.apply, PipelineManager.applySetState]
  | upgradePipeline => grind [PipelineManager.apply, PipelineManager.applyUpgrade]
  | deletePipeline => simp only [PipelineManager.apply, PipelineManager.applyDelete]; grind
  | blueGreenStart | blueGreenCutover | rollbackUpgrade | canaryStart | canaryPromote
  | reconfigureSource | reconfigureSink => exact edit_withHistory history _ _
  | _ => exact ⟨rfl, rfl⟩

end History

lemma AlikeCatalogs.apply (h : AlikeCatalogs r r') (cmd : RegistryCommand) (now now' : Clock) :
    AlikeCatalogs (r.apply now cmd).1 (r'.apply now' cmd).1 ∧
    (r.apply now cmd).2 = (r'.apply now' cmd).2 := by
  have hpr := ProcessorRegistry.alike_apply h.processors cmd now now'
  have hal : r.pipelines.Alike { r'.pipelines with history := r.pipelines.history } :=
    ⟨h.pipelines, .refl _ _⟩
  obtain ⟨hpp, han⟩ := hal.apply cmd now now'
  obtain ⟨hp, ha⟩ := apply_withHistory r.pipelines.history now' r'.pipelines cmd
  have hpi := hpp.pipelines; rw [hp] at hpi; rw [ha] at han
  cases cmd with
  | registerProcessor | deleteVersion | setVersionStatus => exact ⟨⟨hpr.1, h.pipelines⟩, hpr.2⟩
  | registerIdentity | revokeIdentity => exact ⟨h, rfl⟩
  | _ => exact ⟨⟨h.processors, hpi⟩, han⟩

def pipelineStamps (p : PipelineDefinition) : RegistryCommand → List Nat
  | .setPipelineState .. | .upgradePipeline .. => [0]
  | .blueGreenStart .. => if p.state = .running ∧ p.upgradeState = none then [0, 1] else []
  | .canaryStart _ _ steps _ _ =>
    if p.state = .running ∧ p.upgradeState = none ∧ steps ≠ [] then [0, 1] else []
  | .blueGreenCutover .. =>
    match p.upgradeState with
    | some (.blueGreen bg) => if bg.active = .blue then [0] else []
    | _ => []
  | .rollbackUpgrade .. => if p.upgradeState.isSome then [0] else []
  | .canaryPromote .. =>
    match p.upgradeState with
    | some (.canary _) => [0]
    | _ => []
  | .reconfigureSource _ newSource _ =>
    if p.state = .running ∧ newSource.sourceType = (p.sources.head?.map (·.sourceType)).getD ""
    then [0] else []
  | .reconfigureSink _ newSink _ =>
    if p.state = .running ∧ newSink.sinkType = (p.sinks.head?.map (·.sinkType)).getD ""
    then [0] else []
  | _ => []

def processorStamps (record : ProcessorRecord) : RegistryCommand → List Nat
  | .deleteVersion _ version =>
    if version ∈ record.versions ∧ (record.versions.erase version).keys ≠ ∅ then [0] else []
  | .setVersionStatus _ version _ => if version ∈ record.versions then [0] else []
  | _ => []

def stamps (r : Registries) (cmd : RegistryCommand) : List Nat :=
  match cmd with
  | .registerProcessor .. => [0]
  | .deleteVersion name _ | .setVersionStatus name _ _ =>
    (r.processors.lookup name).elim [] (processorStamps · cmd)
  | .setPipelineState name _ | .upgradePipeline name _ | .blueGreenStart name _ _
  | .blueGreenCutover name _ | .rollbackUpgrade name _ | .canaryStart name _ _ _ _
  | .canaryPromote name _ | .reconfigureSource name _ _ | .reconfigureSink name _ _ =>
    (r.pipelines.pipelines.lookup name).elim [] (pipelineStamps · cmd)
  | .createPipeline .. | .deletePipeline .. | .registerIdentity .. | .revokeIdentity .. => []

def SameStamps (readings : List Nat) (now now' : Clock) : Prop := ∀ i ∈ readings, now i = now' i
  deriving Decidable

variable {now now' : Clock}

lemma sameStamps_nil : SameStamps [] now now' ↔ True := by simp [SameStamps]

lemma sameStamps_one : SameStamps [0] now now' ↔ now 0 = now' 0 := by simp [SameStamps]

lemma sameStamps_two : SameStamps [0, 1] now now' ↔ now 0 = now' 0 ∧ now 1 = now' 1 := by simp [SameStamps]

lemma insert_inj {ν : Type} {m : BTreeMap ν} {k : String} {v v' : ν} :
    m.insert k v = m.insert k v' ↔ v = v' := by
  constructor
  · intro h; have hk := congrArg (Finmap.lookup k) h; simpa using hk
  · rintro rfl; rfl

section Edits

open PipelineManager (Edit respond Settled)

def Writes (f : Clock → Edit) (written : PipelineDefinition → List Nat) : Prop :=
  ∀ p now now', (f now p).map Prod.fst = (f now' p).map Prod.fst ↔ SameStamps (written p) now now'

lemma writes_upgradeBlueGreen (name : String) (newProcessor : ProcessorRef) (actor : String) :
    Writes (PipelineManager.upgradeBlueGreen name newProcessor actor)
      (pipelineStamps · (.blueGreenStart name newProcessor actor)) := by
  intro p now now'; by_cases hs : p.state = .running
  · by_cases hu : p.upgradeState = none
    · simp [PipelineManager.upgradeBlueGreen, pipelineStamps, hs, hu, Except.map, sameStamps_two, and_comm]
    · simp [PipelineManager.upgradeBlueGreen, pipelineStamps, hs, hu, Except.map, sameStamps_nil,
        Option.isSome_iff_ne_none]
  · simp [PipelineManager.upgradeBlueGreen, pipelineStamps, hs, Except.map, sameStamps_nil]

lemma writes_upgradeCanary (name : String) (newProcessor : ProcessorRef) (steps : List UInt8)
    (thresholds : CanaryThresholds) (actor : String) :
    Writes (PipelineManager.upgradeCanary name newProcessor steps thresholds actor)
      (pipelineStamps · (.canaryStart name newProcessor steps thresholds actor)) := by
  intro p now now'; by_cases hs : p.state = .running
  · by_cases hu : p.upgradeState = none
    · cases steps with
      | nil => simp [PipelineManager.upgradeCanary, pipelineStamps, hs, hu, Except.map, sameStamps_nil]
      | cons =>
        simp [PipelineManager.upgradeCanary, pipelineStamps, hs, hu, Except.map, sameStamps_two,
        and_comm]
    · simp [PipelineManager.upgradeCanary, pipelineStamps, hs, hu, Except.map, sameStamps_nil,
        Option.isSome_iff_ne_none]
  · simp [PipelineManager.upgradeCanary, pipelineStamps, hs, Except.map, sameStamps_nil]

lemma writes_cutover (name actor : String) : Writes (PipelineManager.cutover name actor)
      (pipelineStamps · (.blueGreenCutover name actor)) := by
  intro p now now'; rcases hu : p.upgradeState with _ | bg | cs
  · simp [PipelineManager.cutover, pipelineStamps, hu, Except.map, sameStamps_nil]
  · cases ha : bg.active <;>
      simp [PipelineManager.cutover, pipelineStamps, hu, ha, Except.map, sameStamps_nil, sameStamps_one]
  · simp [PipelineManager.cutover, pipelineStamps, hu, Except.map, sameStamps_nil]

lemma writes_rollbackUpgrade (name actor : String) : Writes (PipelineManager.rollbackUpgrade name actor)
      (pipelineStamps · (.rollbackUpgrade name actor)) := by
  intro p now now'
  cases hu : p.upgradeState with
  | none => simp [PipelineManager.rollbackUpgrade, pipelineStamps, hu, Except.map, sameStamps_nil]
  | some => simp [PipelineManager.rollbackUpgrade, pipelineStamps, hu, Except.map, sameStamps_one]

lemma writes_promoteCanary (name actor : String) : Writes (PipelineManager.promoteCanary name actor)
      (pipelineStamps · (.canaryPromote name actor)) := by
  intro p now now'; rcases hu : p.upgradeState with _ | bg | cs
  · simp [PipelineManager.promoteCanary, pipelineStamps, hu, Except.map, sameStamps_nil]
  · simp [PipelineManager.promoteCanary, pipelineStamps, hu, Except.map, sameStamps_nil]
  · cases hn : cs.steps[cs.currentStep + 1]? <;>
      simp [PipelineManager.promoteCanary, pipelineStamps, hu, hn, Except.map, sameStamps_one]

lemma writes_reconfigure {kind new actor : String} {old : PipelineDefinition → String}
    {write : PipelineDefinition → PipelineDefinition} :
    Writes (PipelineManager.reconfigure kind old new write actor)
      (fun p => if p.state = .running ∧ new = old p then [0] else []) := by
  intro p now now'; by_cases hs : p.state = .running
  · by_cases hn : new = old p
    · simp [PipelineManager.reconfigure, hs, hn, Except.map, sameStamps_one]
    · simp [PipelineManager.reconfigure, hs, hn, Except.map, sameStamps_nil]
  · simp [PipelineManager.reconfigure, hs, Except.map, sameStamps_nil]

lemma Writes.edit {m m' : PipelineManager} (hm : m.pipelines = m'.pipelines) {f : Clock → Edit}
    {written : PipelineDefinition → List Nat} (hw : Writes f written) (hf : Settled f) (name : String)
    (now now' : Clock) :
    (respond m (m.edit name (f now))).1.pipelines = (respond m' (m'.edit name (f now'))).1.pipelines ↔
      SameStamps ((m.pipelines.lookup name).elim [] written) now now' := by
  simp only [PipelineManager.edit, ← hm]
  cases m.pipelines.lookup name with
  | none => simpa [respond, sameStamps_nil] using hm
  | some p =>
    have hs := hw p now now'
    have hb := (hf now p).trans (hf now' p).symm
    rcases hr : f now p with e | ⟨q, entry⟩ <;> rcases hr' : f now' p with e' | ⟨q', entry'⟩ <;>
      simp only [hr, hr', Except.map, Except.error.injEq, Except.ok.injEq, Prod.map, Prod.mk.injEq,
        reduceCtorEq] at hb hs
    · subst hb; simpa [respond, hr, hr', ← hs] using hm
    · simpa [respond, hr, hr', insert_inj] using hs

end Edits

section Processors

variable {procs : ProcessorRegistry.Catalog} {now now' : Clock} {name version : String}

lemma applyRegister_eq_iff {description : String} {ver : ProcessorVersion} :
    (ProcessorRegistry.applyRegister now procs name description ver).1 =
        (ProcessorRegistry.applyRegister now' procs name description ver).1 ↔ now 0 = now' 0 := by
  simp only [ProcessorRegistry.applyRegister, insert_inj]; grind

lemma applyDeleteVersion_eq_iff : (ProcessorRegistry.applyDeleteVersion now procs name version).1 =
        (ProcessorRegistry.applyDeleteVersion now' procs name version).1 ↔
      SameStamps ((procs.lookup name).elim [] (processorStamps · (.deleteVersion name version))) now
        now' := by
  simp only [ProcessorRegistry.applyDeleteVersion]
  cases procs.lookup name with
  | none => simp [sameStamps_nil]
  | some =>
    simp only [Option.elim, processorStamps]
    split_ifs <;> simp_all [sameStamps_nil, sameStamps_one, insert_inj]

lemma applySetStatus_eq_iff {status : VersionStatus} :
    (ProcessorRegistry.applySetStatus now procs name version status).1 =
        (ProcessorRegistry.applySetStatus now' procs name version status).1 ↔
      SameStamps ((procs.lookup name).elim [] (processorStamps · (.setVersionStatus name version status)))
        now now' := by
  simp only [ProcessorRegistry.applySetStatus]
  cases procs.lookup name with
  | none => simp [sameStamps_nil]
  | some record =>
    simp only [Option.elim, processorStamps, ← Finmap.lookup_isSome]
    cases record.versions.lookup version <;> simp [sameStamps_nil, sameStamps_one, insert_inj]

end Processors

lemma SameCatalogs.apply_iff {r r' : Registries} (h : SameCatalogs r r') (cmd : RegistryCommand)
    (now now' : Clock) :
    SameCatalogs (r.apply now cmd).1 (r'.apply now' cmd).1 ↔ SameStamps (stamps r cmd) now now' := by
  have hpr : ∀ {p p' : ProcessorRegistry.Catalog},
      SameCatalogs { r with processors := p } { r' with processors := p' } ↔ p = p' :=
    ⟨fun hs => hs.processors, fun hp => ⟨hp, h.pipelines⟩⟩
  have hpi : ∀ {m m' : PipelineManager}, SameCatalogs { r with pipelines := m } { r' with pipelines := m' } ↔
        m.pipelines = m'.pipelines :=
    ⟨fun hs => hs.pipelines, fun hp => ⟨h.processors, hp⟩⟩
  cases cmd with
  | registerProcessor =>
    refine hpr.trans ?_; rw [← h.processors]
    exact applyRegister_eq_iff.trans sameStamps_one.symm
  | deleteVersion => refine hpr.trans ?_; rw [← h.processors]; exact applyDeleteVersion_eq_iff
  | setVersionStatus => refine hpr.trans ?_; rw [← h.processors]; exact applySetStatus_eq_iff
  | createPipeline | deletePipeline =>
    refine hpi.trans ?_
    simp only [PipelineManager.apply, PipelineManager.applyCreate, PipelineManager.applyDelete, ← h.pipelines,
      stamps]
    split_ifs <;> simp [sameStamps_nil, h.pipelines]
  | setPipelineState | upgradePipeline =>
    refine hpi.trans ?_
    grind [PipelineManager.apply, PipelineManager.applySetState, PipelineManager.applyUpgrade, h.pipelines,
      stamps,
      sameStamps_nil, pipelineStamps, sameStamps_one, insert_inj]
  | blueGreenStart =>
    exact hpi.trans ((writes_upgradeBlueGreen _ _ _).edit h.pipelines
      (PipelineManager.settled_upgradeBlueGreen _ _ _) _ now now')
  | blueGreenCutover =>
    exact hpi.trans ((writes_cutover _ _).edit h.pipelines (PipelineManager.settled_cutover _ _) _ now now')
  | rollbackUpgrade =>
    exact hpi.trans ((writes_rollbackUpgrade _ _).edit h.pipelines
      (PipelineManager.settled_rollbackUpgrade _ _) _ now now')
  | canaryStart =>
    exact hpi.trans ((writes_upgradeCanary _ _ _ _ _).edit h.pipelines
      (PipelineManager.settled_upgradeCanary _ _ _ _ _) _ now now')
  | canaryPromote =>
    exact hpi.trans ((writes_promoteCanary _ _).edit h.pipelines
      (PipelineManager.settled_promoteCanary _ _) _ now now')
  | reconfigureSource =>
    exact hpi.trans (writes_reconfigure.edit h.pipelines
      (PipelineManager.settled_reconfigureSource _ _) _ now now')
  | reconfigureSink =>
    exact hpi.trans (writes_reconfigure.edit h.pipelines
      (PipelineManager.settled_reconfigureSink _ _) _ now now')
  | registerIdentity | revokeIdentity => exact (iff_true_intro h).trans sameStamps_nil.symm

structure Commit where
  cmd : RegistryCommand
  here : Clock
  there : Clock

def onHere (log : List Commit) : List (Clock × RegistryCommand) := log.map fun c => (c.here, c.cmd)

def onThere (log : List Commit) : List (Clock × RegistryCommand) := log.map fun c => (c.there, c.cmd)

def StampsAgree : Registries → List Commit → Prop
  | _, [] => True
  | r, c :: log => SameStamps (stamps r c.cmd) c.here c.there ∧ StampsAgree (r.apply c.here c.cmd).1 log

instance decidableStampsAgree : (r : Registries) → (log : List Commit) → Decidable (StampsAgree r log)
  | _, [] => .isTrue trivial
  | r, c :: log =>
    have := decidableStampsAgree (r.apply c.here c.cmd).1 log
    inferInstanceAs (Decidable (SameStamps (stamps r c.cmd) c.here c.there ∧ _))

section Replicas

variable (supA : Supervisor σ) (supB : Supervisor τ) {a : Node σ} {b : Node τ}

lemma answers_agree (h : AlikeCatalogs a.registries b.registries) (log : List Commit) :
    (a.applyAll supA (onHere log)).2 = (b.applyAll supB (onThere log)).2 := by
  induction log generalizing a b with
  | nil => rfl
  | cons c log ih =>
    obtain ⟨hc, ha⟩ := h.apply c.cmd c.here c.there
    obtain ⟨hra, haa⟩ := a.apply_registries supA c.here c.cmd
    obtain ⟨hrb, hab⟩ := b.apply_registries supB c.there c.cmd; rw [← haa, ← hab] at ha
    rw [← hra, ← hrb] at hc; exact congrArg₂ List.cons ha (ih hc)

def EqualThroughout (a : Node σ) (b : Node τ) (log : List Commit) : Prop :=
  ∀ done, done <+: log → SameCatalogs (a.applyAll supA (onHere done)).1.registries
    (b.applyAll supB (onThere done)).1.registries

lemma equalThroughout_cons_iff (h : SameCatalogs a.registries b.registries) (c : Commit) (log : List Commit) :
    EqualThroughout supA supB a b (c :: log) ↔
      EqualThroughout supA supB (a.apply supA c.here c.cmd).1 (b.apply supB c.there c.cmd).1 log := by
  constructor
  · intro ha done hd; exact ha (c :: done) (cons_prefix_cons.mpr ⟨rfl, hd⟩)
  · intro ha done hd; rcases prefix_cons_iff.mp hd with rfl | ⟨rest, rfl, hr⟩
    · exact h
    · exact ha rest hr

lemma equalThroughout_iff (h : SameCatalogs a.registries b.registries) (log : List Commit) :
    EqualThroughout supA supB a b log ↔ StampsAgree a.registries log := by
  induction log generalizing a b with
  | nil => refine iff_of_true (fun done hd => ?_) trivial; rw [prefix_nil.mp hd]; exact h
  | cons c log ih =>
    have hi := h.apply_iff c.cmd c.here c.there
    rw [← (a.apply_registries supA c.here c.cmd).1, ← (b.apply_registries supB c.there c.cmd).1] at hi
    rw [equalThroughout_cons_iff supA supB h, StampsAgree, ← hi, ← (a.apply_registries supA c.here c.cmd).1]
    constructor
    · intro ha
      have hn : SameCatalogs _ _ := ha [] nil_prefix; exact ⟨hn, (ih hn).mp ha⟩
    grind

end Replicas

theorem nodes_agree_iff (supA : Supervisor σ) (supB : Supervisor τ) (a : Node σ) (b : Node τ)
    (h : SameCatalogs a.registries b.registries) (log : List Commit) :
    (a.applyAll supA (onHere log)).2 = (b.applyAll supB (onThere log)).2 ∧
      (EqualThroughout supA supB a b log ↔ StampsAgree a.registries log) :=
  ⟨answers_agree supA supB h.alike log, equalThroughout_iff supA supB h log⟩

def countingCalls : Supervisor Nat := fun calls _ => (calls + 1, .ok ())

def emptyNode : Node Nat := { registries := {}, supervisor := some 0 }

def exampleVersion : ProcessorVersion :=
  { version := "1.0.0", sha512 := "", sizeBytes := 0, processorType := .wasm, platform := "wasm32"
    status := .available, registeredAt := 0, registeredBy := "ci" }

theorem replicas_differ : ∃ log : List Commit, (emptyNode.applyAll countingCalls (onHere log)).2 =
          (emptyNode.applyAll countingCalls (onThere log)).2 ∧
        ¬ SameCatalogs (emptyNode.applyAll countingCalls (onHere log)).1.registries
          (emptyNode.applyAll countingCalls (onThere log)).1.registries :=
  ⟨[⟨.registerProcessor "enrich" "" exampleVersion, fun _ => 1000, fun _ => 1001⟩], by decide +kernel⟩

def exampleDefinition : PipelineDefinition :=
  { name := "orders", sources := [], processor := ⟨"enrich", "1.0.0"⟩, sinks := []
    createdAt := 0, updatedAt := 0 }

theorem replicas_agree_created :
    let log : List Commit := [⟨.createPipeline exampleDefinition, fun _ => 1000, fun _ => 1001⟩,
        ⟨.blueGreenCutover "orders" "ops", fun _ => 2000, fun _ => 2001⟩,
        ⟨.setPipelineState "orders" .running, fun _ => 3000, fun _ => 3000⟩]
    StampsAgree emptyNode.registries log ∧
      EqualThroughout countingCalls countingCalls emptyNode emptyNode log := by
  have hs : StampsAgree emptyNode.registries [⟨.createPipeline exampleDefinition, fun _ => 1000, fun _ =>
    1001⟩,
        ⟨.blueGreenCutover "orders" "ops", fun _ => 2000, fun _ => 2001⟩,
        ⟨.setPipelineState "orders" .running, fun _ => 3000, fun _ => 3000⟩] := by decide +kernel
  exact ⟨hs, (nodes_agree_iff countingCalls countingCalls emptyNode emptyNode (.refl _) _).2.mpr hs⟩

end Aeon.L4.Applier
