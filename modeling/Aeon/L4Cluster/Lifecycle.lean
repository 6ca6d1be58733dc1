import Aeon.Core.LTS
import Aeon.L4Cluster.Registry

/-!
# The lifecycle of pipelines

The rest of `PipelineManager` (`crates/aeon-engine/src/pipeline_manager.rs`). Every call changes the
catalog under one hold of its lock, so the calls of any tasks are a list. A state and an
`upgrade_state` are two fields.

* `moves_of_call`: everything a call can do;
* `lifecycle_kept`, `lifecycle_broken`: when the lifecycle is kept, and when not.
-/
namespace Aeon.L4.Lifecycle

open Function Option Finmap Aeon.Core Aeon.L4.Registry Aeon.L4.Registry.PipelineManager

abbrev Answer := Except AeonError RegistryResponse

abbrev Change := PipelineDefinition → Except AeonError (PipelineDefinition × List PipelineHistoryEntry)

variable (m : PipelineManager)

def change (name : String) (f : Change) : PipelineManager × Answer :=
  match m.pipelines.lookup name with
  | none => (m, .error (.notFound ("pipeline '" ++ name ++ "'")))
  | some pipeline =>
    match f pipeline with
    | .error e => (m, .error e)
    | .ok (pipeline, entries) =>
      ({ pipelines := m.pipelines.insert name pipeline
         history := entries.foldl (fun history entry => recordHistory history name entry) m.history },
        .ok .ok)

/-- mirrors pipeline_manager.rs:146-164 -/
def create (now : Clock) (m : PipelineManager) (definition : PipelineDefinition) : PipelineManager × Answer :=
  let name := definition.name
  if name ∈ m.pipelines then (m, .error (.config ("pipeline '" ++ name ++ "' already exists")))
  else
    let out := applyCreate now m definition
    (out.1, .ok out.2)

/-- mirrors pipeline_manager.rs:167-195 -/
def start (actor : String) (now : Clock) : Change := fun pipeline =>
  match pipeline.state with
  | .created | .stopped =>
    .ok ({ pipeline with state := .running, updatedAt := now 0 },
      [{ timestamp := now 1, action := .started, actor
         fromState := pipeline.state, toState := .running }])
  | .running => .ok (pipeline, [])
  | other => .error (.config ("cannot start pipeline in state '" ++ other.display ++ "'"))

/-- mirrors pipeline_manager.rs:198-226 -/
def stop (actor : String) (now : Clock) : Change := fun pipeline =>
  match pipeline.state with
  | .running | .upgrading =>
    .ok ({ pipeline with state := .stopped, updatedAt := now 0 },
      [{ timestamp := now 1, action := .stopped, actor
         fromState := pipeline.state, toState := .stopped }])
  | .stopped | .created => .ok (pipeline, [])
  | other => .error (.config ("cannot stop pipeline in state '" ++ other.display ++ "'"))

/-- mirrors pipeline_manager.rs:263-318 -/
def upgrade (newProcessor : ProcessorRef) (actor : String) (now : Clock) : Change := fun pipeline =>
  if pipeline.state ≠ .running then
    .error (.config ("can only upgrade running pipelines, current state: " ++ pipeline.state.display))
  else .ok ({ pipeline with
        processor := newProcessor
        state := .running
        updatedAt := now 2 },
      [{ timestamp := now 1, action := .upgradeStarted, actor
         fromState := .running, toState := .upgrading
         details := some (pipeline.processor.display ++ " → " ++ newProcessor.display) },
       { timestamp := now 3, action := .upgradeCompleted, actor
         fromState := .upgrading, toState := .running
         details := some newProcessor.display }])

/-- mirrors pipeline_manager.rs:723-745 -/
def delete (name : String) : PipelineManager × Answer :=
  match m.pipelines.lookup name with
  | none => (m, .error (.notFound ("pipeline '" ++ name ++ "'")))
  | some pipeline =>
    if pipeline.state = .running ∨ pipeline.state = .upgrading then
      (m, .error (.config ("cannot delete pipeline in state '" ++ pipeline.state.display ++
        "' — stop it first")))
    else ({ pipelines := m.pipelines.erase name, history := m.history.erase name }, .ok .ok)

/-- mirrors pipeline_manager.rs:757-759 -/
def restore (data : BTreeMap PipelineDefinition) : PipelineManager :=
  { m with pipelines := data }

inductive Call
  | create (definition : PipelineDefinition)
  | start (name actor : String)
  | stop (name actor : String)
  | upgrade (name : String) (newProcessor : ProcessorRef) (actor : String)
  | delete (name : String)
  | restore (data : BTreeMap PipelineDefinition)
  | command (cmd : RegistryCommand)

def call (now : Clock) (m : PipelineManager) : Call → PipelineManager × Answer
  | .create definition => create now m definition
  | .start name actor => change m name (start actor now)
  | .stop name actor => change m name (stop actor now)
  | .upgrade name newProcessor actor => change m name (upgrade newProcessor actor now)
  | .delete name => delete m name
  | .restore data => (restore m data, .ok .ok)
  | .command cmd =>
    let out := PipelineManager.apply now m cmd
    (out.1, .ok out.2)

def accepted : Answer → Bool
  | .error _ => false
  | .ok (.error _) => false
  | .ok _ => true

def Call.begins : Call → Option String
  | .command (.blueGreenStart name _ _) => some name
  | .command (.canaryStart name _ _ _ _) => some name
  | _ => none

structure St where
  manager : PipelineManager
  began : String → Option ProcessorRef

def St.new : St := ⟨{}, fun _ => none⟩

variable (s : St)

def St.pipeline (name : String) : Option PipelineDefinition := s.manager.pipelines.lookup name

def next (now : Clock) (c : Call) : St where
  manager := (call now s.manager c).1
  began :=
    match c.begins with
    | some name =>
      if accepted (call now s.manager c).2 then
        update s.began name ((s.pipeline name).map PipelineDefinition.processor)
      else s.began
    | none => s.began

def machine : LTS St (Clock × Call) := LTS.ofFn (fun s => s = .new) fun s l => some (next s l.1 l.2)

def Settled (p : PipelineDefinition) : Prop := p.state ≠ .upgrading ∧ p.upgradeState = none

instance decidableSettled (p : PipelineDefinition) : Decidable (Settled p) :=
  inferInstanceAs (Decidable (p.state ≠ .upgrading ∧ p.upgradeState = none))

def Live (p : PipelineDefinition) : Prop := p.state = .running ∨ p.state = .upgrading
  deriving Decidable

def Permitted : Call → Prop
  | .create definition => definition.name ∉ s.manager.pipelines → Settled definition
  | .command (.createPipeline definition) => definition.name ∉ s.manager.pipelines → Settled definition
  | .stop name _ => ∀ p ∈ s.pipeline name, p.state ≠ .upgrading
  | .command (.setPipelineState name state) =>
    ∀ p ∈ s.pipeline name, (state = .upgrading ↔ p.state = .upgrading)
  | .command (.deletePipeline name) => ∀ p ∈ s.pipeline name, ¬ Live p
  | .restore data => s.manager.pipelines.keys = ∅ ∧ ∀ e ∈ data.entries, Settled e.2
  | _ => True

instance decidablePermitted (s : St) (c : Call) : Decidable (Permitted s c) := by
  unfold Permitted; split <;> infer_instance

def Allowed (l : Clock × Call) : Prop := Permitted s l.2

instance decidableAllowed (s : St) (l : Clock × Call) : Decidable (Allowed s l) := decidablePermitted s l.2

def Call.Starts (c : Call) (name : String) : Prop :=
  (∃ actor, c = .start name actor) ∨ c = .command (.setPipelineState name .running)

structure Kept (s : St) (now : Clock) (c : Call) (s' : St) : Prop where
  upgrading : ∀ name p, s'.pipeline name = some p → (p.state = .upgrading ↔ p.upgradeState.isSome)
  running : ∀ name p p', s.pipeline name = some p → s'.pipeline name = some p' → ¬ Live p →
    p'.state = .running → c.Starts name
  rollback : ∀ name actor, c = .command (.rollbackUpgrade name actor) → accepted (call now s.manager c).2 →
    ∃ p', s'.pipeline name = some p' ∧ s.began name = some p'.processor
  present : ∀ name p, s.pipeline name = some p → Live p → (s'.pipeline name).isSome

inductive Turn (c : Call) (name : String) (p p' : PipelineDefinition) : Prop
  | started : c.Starts name → p.state ≠ .upgrading → p'.state = .running → p'.upgradeState = p.upgradeState →
      Turn c name p p'
  | stopped {actor : String} : c = .stop name actor → p'.state = .stopped → p'.upgradeState = p.upgradeState →
      Turn c name p p'
  | set {state : PipelineState} : c = .command (.setPipelineState name state) → p'.state = state →
      p'.upgradeState = p.upgradeState → Turn c name p p'
  | swapped : p'.state = p.state → p'.upgradeState = p.upgradeState → Turn c name p p'
  | promoted {info info' : UpgradeInfo} : p.upgradeState = some info → p'.upgradeState = some info' →
      info'.original = info.original → p'.state = p.state → Turn c name p p'
  | ended {info : UpgradeInfo} : p.upgradeState = some info → p'.state = .running → p'.upgradeState = none →
      Turn c name p p'

inductive Moves (s : St) (c : Call) (s' : St) : Prop
  | stays : s'.manager.pipelines = s.manager.pipelines → s'.began = s.began → Moves s c s'
  | turned {name : String} {p p' : PipelineDefinition} : s.pipeline name = some p → Turn c name p p' →
      s'.manager.pipelines = s.manager.pipelines.insert name p' → s'.began = s.began → Moves s c s'
  | began {name : String} {p p' : PipelineDefinition} {info : UpgradeInfo} : s.pipeline name = some p →
      p.state = .running → p'.state = .upgrading → p'.upgradeState = some info → info.original = p.processor →
      s'.manager.pipelines = s.manager.pipelines.insert name p' →
      s'.began = update s.began name (some p.processor) → Moves s c s'
  | created {definition : PipelineDefinition} : definition.name ∉ s.manager.pipelines →
      (Permitted s c → Settled definition) →
      s'.manager.pipelines = s.manager.pipelines.insert definition.name definition → s'.began = s.began →
      Moves s c s'
  | removed {name : String} : (Permitted s c → ∀ p ∈ s.pipeline name, ¬ Live p) →
      s'.manager.pipelines = s.manager.pipelines.erase name → s'.began = s.began → Moves s c s'
  | restored {data : BTreeMap PipelineDefinition} : c = .restore data → s'.manager.pipelines = data →
      s'.began = s.began → Moves s c s'

section Moves

variable {s : St} {now : Clock} {name : String} {c : Call}

lemma began_next (hb : c.begins = none) : (next s now c).began = s.began := by simp only [next, hb]

lemma moves_of_change (name : String) (hc : (call now s.manager c).1 = (change s.manager name f).1)
    (hb : c.begins = none) (hf : ∀ p r, f p = .ok r → Turn c name p r.1) : Moves s c (next s now c) := by
  have hm : (next s now c).manager = (change s.manager name f).1 := hc; rw [change] at hm
  cases hp : s.manager.pipelines.lookup name with
  | none => rw [hp] at hm; exact .stays (congrArg PipelineManager.pipelines hm) (began_next hb)
  | some p =>
    simp only [hp] at hm
    cases hfp : f p with
    | error => rw [hfp] at hm; exact .stays (congrArg PipelineManager.pipelines hm) (began_next hb)
    | ok r =>
      rw [hfp] at hm
      exact .turned hp (hf p r hfp) (congrArg PipelineManager.pipelines hm) (began_next hb)

lemma edit_eq_ok {m m' : PipelineManager} {f : Edit} (h : m.edit name f = .ok m') :
    ∃ p r, m.pipelines.lookup name = some p ∧ f p = .ok r ∧ m'.pipelines = m.pipelines.insert name r.1 := by
  rw [PipelineManager.edit] at h; split at h
  · cases h
  · rename_i p hp
    split at h
    · cases h
    · rename_i p' entry hfp
      grind

lemma moves_of_edit {f : Edit} (hc : (call now s.manager c).1 = (respond s.manager (s.manager.edit name f)).1)
    (hb : c.begins = none) (hf : ∀ p r, f p = .ok r → Turn c name p r.1) : Moves s c (next s now c) := by
  have hm : (next s now c).manager = (respond s.manager (s.manager.edit name f)).1 := hc
  cases he : s.manager.edit name f with
  | error => rw [he] at hm; exact .stays (congrArg PipelineManager.pipelines hm) (began_next hb)
  | ok =>
    rw [he] at hm; obtain ⟨p, r, hp, hfp, hpi⟩ := edit_eq_ok he
    exact .turned hp (hf p r hfp) ((congrArg PipelineManager.pipelines hm).trans hpi) (began_next hb)

lemma moves_of_begin {f : Edit} (hc : call now s.manager c = ((respond s.manager (s.manager.edit name f)).1,
      .ok (respond s.manager (s.manager.edit name f)).2)) (hb : c.begins = some name)
    (hf : ∀ p r, f p = .ok r → p.state = .running ∧ r.1.state = .upgrading ∧
      ∃ info, r.1.upgradeState = some info ∧ info.original = p.processor) : Moves s c (next s now c) := by
  have hn : next s now c = ⟨(respond s.manager (s.manager.edit name f)).1,
      if accepted (.ok (respond s.manager (s.manager.edit name f)).2) then
        update s.began name ((s.pipeline name).map PipelineDefinition.processor) else s.began⟩ := by
    simp only [next, hb, hc]
  rw [hn]
  cases he : s.manager.edit name f with
  | error => exact .stays rfl rfl
  | ok =>
    obtain ⟨p, r, hp, hfp, hpp⟩ := edit_eq_ok he
    obtain ⟨hr, hu, info, hi, ho⟩ := hf p r hfp; have hpi : s.pipeline name = some p := hp
    exact .began hpi hr hu hi ho hpp (by rw [hpi]; rfl)

/-! The changes. -/

lemma turn_start {actor : String} (h : start actor now p = .ok r) : Turn (.start name actor) name p r.1 := by
  rw [start] at h; have hst : Call.Starts (.start name actor) name := .inl ⟨actor, rfl⟩
  split at h
  · cases h
    rename_i hs
    exact .started hst (by rw [hs]; decide) rfl rfl
  · cases h
    rename_i hs
    exact .started hst (by rw [hs]; decide) rfl rfl
  · cases h; exact .swapped rfl rfl
  · cases h

lemma turn_stop {actor : String} (h : stop actor now p = .ok r) : Turn (.stop name actor) name p r.1 := by
  rw [stop] at h; split at h
  · cases h; exact .stopped rfl rfl rfl
  · cases h; exact .stopped rfl rfl rfl
  · cases h; exact .swapped rfl rfl
  · cases h; exact .swapped rfl rfl
  · cases h

lemma turn_upgrade {actor : String} {newProcessor : ProcessorRef}
    (h : upgrade newProcessor actor now p = .ok r) :
    Turn c name p r.1 := by
  rw [upgrade] at h; split_ifs at h with hs; cases h
  exact .swapped (not_not.mp hs).symm rfl

lemma turn_cutover {actor : String} (h : cutover name actor now p = .ok r) : Turn c name p r.1 := by
  rw [cutover] at h; split at h
  · rename_i bg hi
    split_ifs at h; cases h; exact .ended hi rfl rfl
  · cases h
  · cases h

lemma turn_rollbackUpgrade {actor : String} (h : rollbackUpgrade name actor now p = .ok r) :
    Turn c name p r.1 := by
  rw [rollbackUpgrade] at h; split at h
  · cases h
  · rename_i info hi
    cases h; exact .ended hi rfl rfl

lemma turn_promoteCanary {actor : String} (h : promoteCanary name actor now p = .ok r) :
    Turn c name p r.1 := by
  rw [promoteCanary] at h; split at h
  · rename_i cs hi
    split at h
    · cases h; exact .promoted hi rfl rfl rfl
    · cases h; exact .ended hi rfl rfl
  · cases h
  · cases h

lemma turn_reconfigure {kind new actor : String} {old : PipelineDefinition → String}
    {write : PipelineDefinition → PipelineDefinition} (hs : (write p).state = p.state)
    (hu : (write p).upgradeState = p.upgradeState) (h : reconfigure kind old new write actor now p = .ok r) :
    Turn c name p r.1 := by
  rw [reconfigure] at h; split_ifs at h; cases h
  exact .swapped hs hu

lemma began_upgradeBlueGreen {newProcessor : ProcessorRef} {actor : String}
    (h : upgradeBlueGreen name newProcessor actor now p = .ok r) :
    p.state = .running ∧ r.1.state = .upgrading ∧
      ∃ info, r.1.upgradeState = some info ∧ info.original = p.processor := by
  rw [upgradeBlueGreen] at h; split_ifs at h with hs; cases h
  exact ⟨not_not.mp hs, rfl, _, rfl, rfl⟩

lemma began_upgradeCanary {newProcessor : ProcessorRef} {steps : List UInt8} {thresholds : CanaryThresholds}
    {actor : String} (h : upgradeCanary name newProcessor steps thresholds actor now p = .ok r) :
    p.state = .running ∧ r.1.state = .upgrading ∧
      ∃ info, r.1.upgradeState = some info ∧ info.original = p.processor := by
  unfold upgradeCanary at h; split_ifs at h with hs; split at h
  · cases h
  · cases h; exact ⟨not_not.mp hs, rfl, _, rfl, rfl⟩

lemma moves_of_applyCreate {definition : PipelineDefinition}
    (hc : (call now s.manager c).1 = (applyCreate now s.manager definition).1) (hb : c.begins = none)
    (hp : Permitted s c → definition.name ∉ s.manager.pipelines → Settled definition) :
    Moves s c (next s now c) := by
  have hm : (next s now c).manager = (applyCreate now s.manager definition).1 := hc
  rw [applyCreate] at hm; by_cases hn : definition.name ∈ s.manager.pipelines
  · simp only [if_pos hn] at hm
    exact .stays (congrArg PipelineManager.pipelines hm) (began_next hb)
  · simp only [if_neg hn] at hm
    exact .created hn (fun h => hp h hn) (congrArg PipelineManager.pipelines hm) (began_next hb)

lemma moves_of_delete : Moves s (.delete name) (next s now (.delete name)) := by
  have hm : (next s now (.delete name)).manager = (delete s.manager name).1 := rfl
  rw [delete] at hm
  cases hp : s.manager.pipelines.lookup name with
  | none => rw [hp] at hm; exact .stays (congrArg PipelineManager.pipelines hm) rfl
  | some p =>
    simp only [hp] at hm; by_cases hl : p.state = .running ∨ p.state = .upgrading
    · rw [if_pos hl] at hm; exact .stays (congrArg PipelineManager.pipelines hm) rfl
    · rw [if_neg hl] at hm
      refine .removed (fun _ q hq => ?_) (congrArg PipelineManager.pipelines hm) rfl
      have hqp : q = p := Option.some.inj (hq.symm.trans hp); exact hqp ▸ hl

lemma moves_of_command (cmd : RegistryCommand) : Moves s (.command cmd) (next s now (.command cmd)) := by
  cases cmd with
  | createPipeline => exact moves_of_applyCreate rfl rfl fun h => h
  | setPipelineState name state =>
    refine moves_of_change name (f := fun p => .ok ({ p with state, updatedAt := now 0 },
      [{ timestamp := now 1, action := stateAction state, actor := "system", fromState := p.state, toState :=
        state }]))
      ?_ rfl fun p r hr => ?_
    · grind [call, apply, applySetState, change]
    · cases hr; exact .set rfl rfl rfl
  | upgradePipeline name newProcessor =>
    refine moves_of_change name (f := fun p => .ok ({ p with processor := newProcessor, updatedAt := now 0 },
      []))
      ?_ rfl fun p r hr => ?_
    · grind [call, apply, applyUpgrade, change]
    · cases hr; exact .swapped rfl rfl
  | deletePipeline name =>
    have hm : (next s now (.command (.deletePipeline name))).manager = (applyDelete s.manager name).1 := rfl
    rw [applyDelete] at hm; split_ifs at hm
    · exact .removed (fun h => h) (congrArg PipelineManager.pipelines hm) rfl
    · exact .stays (congrArg PipelineManager.pipelines hm) rfl
  | blueGreenStart => exact moves_of_begin rfl rfl fun _ _ h => began_upgradeBlueGreen h
  | blueGreenCutover => exact moves_of_edit rfl rfl fun _ _ h => turn_cutover h
  | rollbackUpgrade => exact moves_of_edit rfl rfl fun _ _ h => turn_rollbackUpgrade h
  | canaryStart =>
    exact moves_of_begin rfl rfl fun _ _ h => began_upgradeCanary h
  | canaryPromote => exact moves_of_edit rfl rfl fun _ _ h => turn_promoteCanary h
  | reconfigureSource =>
    exact moves_of_edit rfl rfl fun _ _ h => turn_reconfigure rfl rfl h
  | reconfigureSink => exact moves_of_edit rfl rfl fun _ _ h => turn_reconfigure rfl rfl h
  | _ => exact .stays rfl rfl

lemma moves_of_call (s : St) (now : Clock) (c : Call) : Moves s c (next s now c) := by
  cases c with
  | create =>
    refine moves_of_applyCreate ?_ rfl fun h => h; simp only [call, create, applyCreate]
    split_ifs <;> rfl
  | start name => exact moves_of_change name rfl rfl fun _ _ h => turn_start h
  | stop name => exact moves_of_change name rfl rfl fun _ _ h => turn_stop h
  | upgrade name => exact moves_of_change name rfl rfl fun _ _ h => turn_upgrade h
  | delete => exact moves_of_delete
  | restore => exact .restored rfl rfl rfl
  | command cmd => exact moves_of_command cmd

end Moves

structure Sound (began : Option ProcessorRef) (p : PipelineDefinition) : Prop where
  upgrading : p.state = .upgrading ↔ p.upgradeState.isSome
  original : ∀ info, p.upgradeState = some info → began = some info.original

def Inv : Prop := ∀ name p, s.pipeline name = some p → Sound (s.began name) p

section Step

variable {s s' : St} {now : Clock} {c : Call} {name : String} {p p' : PipelineDefinition}
  {began : Option ProcessorRef}

lemma Settled.sound (h : Settled p) : Sound began p :=
  ⟨by simp [h.1, h.2], fun info hi => by simp [h.2] at hi⟩

lemma Sound.setState (h : Sound began p) (hs : p'.state = .upgrading ↔ p.state = .upgrading)
    (hu : p'.upgradeState = p.upgradeState) : Sound began p' :=
  ⟨by rw [hs, hu, h.upgrading], fun info hi => h.original info (hu ▸ hi)⟩

lemma Sound.turn (h : Sound (s.began name) p) (hp : s.pipeline name = some p) (hc : Permitted s c)
    (ht : Turn c name p p') : Sound (s.began name) p' := by
  cases ht with
  | started _ hs hr hu => exact h.setState (by simp [hr, hs]) hu
  | stopped hso hst hu => subst hso; exact h.setState (by simp [hst, hc p hp]) hu
  | set hse hs hu => subst hse; exact h.setState (by rw [hs]; exact hc p hp) hu
  | swapped hs hu => exact h.setState (by rw [hs]) hu
  | promoted hin hi' ho hs =>
    refine ⟨by rw [hs, h.upgrading, hin, hi', isSome_some, isSome_some], fun info hi => ?_⟩
    rw [hi'] at hi; cases hi; rw [ho]
    exact h.original _ hin
  | ended hin hr hn => exact Settled.sound ⟨by rw [hr]; decide, hn⟩

lemma pipeline_insert (h : s'.manager.pipelines = s.manager.pipelines.insert name p) (k : String) :
    s'.pipeline k = if k = name then some p else s.pipeline k := by
  rw [St.pipeline, h]; split_ifs with hk
  · rw [hk, lookup_insert]
  · exact lookup_insert_of_ne _ hk

lemma pipeline_erase (h : s'.manager.pipelines = s.manager.pipelines.erase name) (k : String) :
    s'.pipeline k = if k = name then none else s.pipeline k := by
  rw [St.pipeline, h]; split_ifs with hk
  · rw [hk, lookup_erase]
  · exact lookup_erase_ne hk

lemma pipeline_of_empty (h : s.manager.pipelines.keys = ∅) (k : String) : s.pipeline k = none := by
  have hk : k ∉ s.manager.pipelines := by simp [← Finmap.mem_keys, h]
  exact lookup_eq_none.mpr hk

lemma Inv.insert (h : Inv s) (hp : s'.manager.pipelines = s.manager.pipelines.insert name p)
    (hb : ∀ k, k ≠ name → s'.began k = s.began k) (hs : Sound (s'.began name) p) : Inv s' := by
  intro k q hq; rw [pipeline_insert hp] at hq; split_ifs at hq with hk
  · cases hq; exact hk ▸ hs
  · rw [hb k hk]; exact h k q hq

lemma Inv.moves (h : Inv s) (hc : Permitted s c) (hm : Moves s c s') : Inv s' := by
  cases hm with
  | stays hp hb => intro k q hq; rw [hb]; exact h k q (by rw [St.pipeline, ← hp]; exact hq)
  | turned hl ht hp hb =>
    refine h.insert hp (fun k _ => by rw [hb]) ?_; rw [hb]; exact (h _ _ hl).turn hl hc ht
  | began hl hru hu hi ho hp hb =>
    refine h.insert hp (fun k hk => by rw [hb, update_of_ne hk]) ⟨by simp [hu, hi], ?_⟩
    simp_all
  | created hn hs hp hb => exact h.insert hp (fun k _ => by rw [hb]) (hs hc).sound
  | removed hli hp hb =>
    intro k q hq; rw [pipeline_erase hp] at hq; split_ifs at hq
    rw [hb]; exact h k q hq
  | restored hr hp =>
    subst hr; intro k q hq
    have he : (⟨k, q⟩ : Σ _ : String, PipelineDefinition) ∈ s'.manager.pipelines.entries :=
      Finmap.lookup_eq_some_iff.mp hq
    exact Settled.sound (hc.2 _ (hp ▸ he))

lemma Sound.not_live_turn (h : Sound began p) (ht : Turn c name p p') (hl : ¬ Live p)
    (hr : p'.state = .running) : c.Starts name := by
  cases ht with
  | started hst => exact hst
  | stopped => grind
  | set hse hs => rw [hr] at hs; exact .inr (hs ▸ hse)
  | swapped hs => exact absurd (.inl (hs ▸ hr)) hl
  | promoted _ _ _ hs => exact absurd (.inl (hs ▸ hr)) hl
  | ended hi => exact absurd (.inr (h.upgrading.mpr (by rw [hi]; rfl))) hl

lemma Inv.starts (h : Inv s) (hc : Permitted s c) (hm : Moves s c s') (hp : s.pipeline name = some p)
    (hp' : s'.pipeline name = some p') (hli : ¬ Live p) (hr : p'.state = .running) : c.Starts name := by
  have hs : s'.pipeline name ≠ s.pipeline name := by
    intro heq; rw [hp', hp] at heq; cases heq
    exact hli (.inl hr)
  cases hm with
  | stays hpi => exact absurd (by rw [St.pipeline, hpi]; rfl) hs
  | turned hl ht hpi =>
    rw [pipeline_insert hpi] at hp' hs; split_ifs at hp' hs with hn
    · cases hp'; subst hn; rw [hp] at hl
      cases hl; exact (h _ _ hp).not_live_turn ht hli hr
    · exact absurd rfl hs
  | began hl _ hu _ _ hpi => rw [pipeline_insert hpi] at hp' hs; grind
  | created hn _ hpi =>
    rw [pipeline_insert hpi] at hs; split_ifs at hs with hk
    · rw [hk, St.pipeline, lookup_eq_none.mpr hn] at hp; cases hp
    · exact absurd rfl hs
  | removed _ hpi => simp_all [pipeline_erase hpi]
  | restored hre => subst hre; rw [pipeline_of_empty hc.1] at hp; cases hp

lemma present_of_moves (hc : Permitted s c) (hm : Moves s c s') (hp : s.pipeline name = some p)
    (hl : Live p) : (s'.pipeline name).isSome := by
  have hi : ∀ {k : String} {q : PipelineDefinition},
      s'.manager.pipelines = s.manager.pipelines.insert k q → (s'.pipeline name).isSome := by
    intro k q hq; rw [pipeline_insert hq, hp]; split_ifs <;> rfl
  cases hm with
  | stays hpi => rw [St.pipeline, hpi]; exact isSome_iff_exists.mpr ⟨p, hp⟩
  | turned _ _ hpi => exact hi hpi
  | began _ _ _ _ _ hpi => exact hi hpi
  | created _ _ hpi => exact hi hpi
  | removed hn hpi => rw [pipeline_erase hpi]; grind
  | restored hr => subst hr; rw [pipeline_of_empty hc.1] at hp; cases hp

lemma Inv.rollback (h : Inv s) {actor : String}
    (ha : accepted (call now s.manager (.command (.rollbackUpgrade name actor))).2) :
    ∃ p', (next s now (.command (.rollbackUpgrade name actor))).pipeline name = some p' ∧
      s.began name = some p'.processor := by
  cases he : s.manager.edit name (rollbackUpgrade name actor now) with
  | error => simp_all [call, apply, respond, accepted]
  | ok =>
    obtain ⟨p, r, hp, hfp, hpi⟩ := edit_eq_ok he
    have hn : (next s now (.command (.rollbackUpgrade name actor))).manager.pipelines =
        s.manager.pipelines.insert name r.1 := by
      simp only [next, call, apply, he, respond]; exact hpi
    refine ⟨r.1, by rw [pipeline_insert hn, if_pos rfl], ?_⟩; rw [rollbackUpgrade] at hfp
    split at hfp
    · cases hfp
    · rename_i info hi
      cases hfp; exact (h name p hp).original info hi

lemma Inv.kept (h : Inv s) (now : Clock) (hc : Permitted s c) : Kept s now c (next s now c) where
  upgrading k q hq := (h.moves hc (moves_of_call s now c) k q hq).upgrading
  running _ _ _ hp hp' hlive hrunning := h.starts hc (moves_of_call s now c) hp hp' hlive hrunning
  rollback := by rintro k actor rfl ha; exact h.rollback ha
  present _ _ hp hlive := present_of_moves hc (moves_of_call s now c) hp hlive

end Step

/-- **Lifecycle.** In every run of permitted calls, each of them keeps the lifecycle. -/
theorem lifecycle_kept {s s' : St} {ls : List (Clock × Call)} {l : Clock × Call}
    (hr : (machine.restrict Allowed).Run .new ls s) (hs : (machine.restrict Allowed).step s l s') :
    Kept s l.1 l.2 s' := by
  have hi : Inv s := by
    refine hr.induct (fun t l u ht hl => ?_) fun name p hp => ?_
    · cases hl.2; exact ht.moves hl.1 (moves_of_call t l.1 l.2)
    · have hn : St.new.pipeline name = none := lookup_empty name; rw [hn] at hp
      cases hp
  cases hs.2; exact hi.kept l.1 hs.1

def noClock : Clock := fun _ => 0

def draft : PipelineDefinition where
  name := "p"
  sources := []
  processor := ⟨"proc", "1"⟩
  sinks := []
  createdAt := 0
  updatedAt := 0

def stoppedInUpgrade : List (Clock × Call) := [(noClock, .create draft), (noClock, .start "p" "api"),
   (noClock, .command (.blueGreenStart "p" ⟨"proc", "2"⟩ "api")), (noClock, .stop "p" "api")]

theorem lifecycle_broken : ∃ s₁ s₂ s₃, machine.Run .new stoppedInUpgrade s₁ ∧
    machine.step s₁ (noClock, .command (.blueGreenCutover "p" "api")) s₂ ∧
    machine.step s₂ (noClock, .command (.deletePipeline "p")) s₃ ∧
    (s₁.pipeline "p").map (fun p => (p.state, p.upgradeState.isSome)) = some (.stopped, true) ∧
    (s₂.pipeline "p").map PipelineDefinition.state = some .running ∧ s₃.pipeline "p" = none := by
  have hvi : (LTS.exec (fun s l => some (next s l.1 l.2)) .new stoppedInUpgrade).map (fun s =>
      ((s.pipeline "p").map (fun p => (p.state, p.upgradeState.isSome)),
        ((next s noClock (.command (.blueGreenCutover "p" "api"))).pipeline "p").map PipelineDefinition.state,
        (next (next s noClock (.command (.blueGreenCutover "p" "api"))) noClock
          (.command (.deletePipeline "p"))).pipeline "p")) =
      some (some (.stopped, true), some .running, none) := by decide +kernel
  obtain ⟨s₁, he, hv⟩ := map_eq_some_iff.mp hvi; simp only [Prod.mk.injEq] at hv
  exact ⟨s₁, _, _, LTS.run_of_exec he, rfl, rfl, hv.1, hv.2.1, hv.2.2⟩

def inUpgrade : List (Clock × Call) := [(noClock, .create draft), (noClock, .start "p" "api"),
   (noClock, .command (.blueGreenStart "p" ⟨"proc", "2"⟩ "api")),
   (noClock, .command (.upgradePipeline "p" ⟨"proc", "3"⟩))]

theorem lifecycle_kept_rollback : ∃ s s', (machine.restrict Allowed).Run .new inUpgrade s ∧
    (machine.restrict Allowed).step s (noClock, .command (.rollbackUpgrade "p" "api")) s' ∧
    (s'.pipeline "p").map PipelineDefinition.processor = some ⟨"proc", "1"⟩ := by
  have hvi : (LTS.exec (fun s l => if Allowed s l then some (next s l.1 l.2) else none) .new inUpgrade).map
      (fun s => (s.began "p", accepted (call noClock s.manager (.command (.rollbackUpgrade "p" "api"))).2)) =
      some (some ⟨"proc", "1"⟩, true) := by decide +kernel
  obtain ⟨s, he, hv⟩ := map_eq_some_iff.mp hvi; simp only [Prod.mk.injEq] at hv
  have hr : (machine.restrict Allowed).Run .new inUpgrade s := LTS.run_restrict_of_exec he
  have hs : (machine.restrict Allowed).step s (noClock, .command (.rollbackUpgrade "p" "api"))
      (next s noClock (.command (.rollbackUpgrade "p" "api"))) := ⟨trivial, rfl⟩
  obtain ⟨p', hp', hb⟩ := (lifecycle_kept hr hs).rollback "p" "api" rfl hv.2
  refine ⟨s, _, hr, hs, ?_⟩; rw [hp', map_some, ← hb, hv.1]

end Aeon.L4.Lifecycle
