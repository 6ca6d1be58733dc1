import Aeon.L3Pipeline.Installed
import Aeon.L4Cluster.Lifecycle

/-!
# Upgrades through the REST API

The upgrade handlers (`crates/aeon-engine/src/rest_api.rs:2072-2488`) move two machines, the
declared `PipelineDefinition` and the running task. Requests come one at a time; a method of
`PipelineControl` is its action (`installed_step`).

* `running_follows_declared`: the installed processors are the declared ones, exactly while the
  requests are of a kind;
* `running_leaves_declared`: four that are not.
-/
namespace Aeon.L4.UpgradeApi

open Option Function Finmap Aeon.Core Aeon.L3.Managed Aeon.L4.Registry

inductive Response
  | success (status method : String)
  | failure (code : Nat) (error : String)

def badRequest (e : AeonError) : Response := .failure 400 e.display

/-- mirrors rest_api.rs:62-100 -/
structure AppState where
  pipelines : PipelineManager
  pipelineControls : String → Option (Installed ProcessorRef)

namespace AppState

def install (s : AppState) (name : String) (t : Installed ProcessorRef) : AppState :=
  { s with pipelineControls := update s.pipelineControls name (some t) }

/-- mirrors rest_api.rs:2072-2138 -/
def upgradePipeline (s : AppState) (now : Clock) (built : Except Response Unit) (name : String)
    (processor : ProcessorRef) : AppState × Response :=
  let declare (s : AppState) := Lifecycle.change s.pipelines name (Lifecycle.upgrade processor "api" now)
  match s.pipelineControls name with
  | some task =>
    match built with
    | .error response => (s, response)
    | .ok () =>
      let s := s.install name (task.swap processor)
      ({ s with pipelines := (declare s).1 }, .success "upgraded" "hot-swap")
  | none =>
    match declare s with
    | (pipelines, .ok _) => ({ s with pipelines }, .success "upgraded" "metadata")
    | (_, .error e) => (s, badRequest e)

def startUpgrade (s : AppState) (built : Except Response Unit) (name status : String)
    (f : PipelineManager.Edit) (action : UpgradeAction ProcessorRef) : AppState × Response :=
  match s.pipelines.edit name f with
  | .error e => (s, badRequest e)
  | .ok pipelines =>
    let s := { s with pipelines }
    match s.pipelineControls name, built with
    | some _, .error response => (s, response)
    | some task, .ok () => (s.install name (task.act action), .success status "managed")
    | none, _ => (s, .success status "metadata")

/-- mirrors rest_api.rs:2142-2228 -/
def upgradeBlueGreen (s : AppState) (now : Clock) (built : Except Response Unit) (name : String)
    (processor : ProcessorRef) : AppState × Response :=
  s.startUpgrade built name "blue-green-started"
    (PipelineManager.upgradeBlueGreen name processor "api" now) (.startBlueGreen processor)

/-- mirrors rest_api.rs:2247-2346 -/
def upgradeCanary (s : AppState) (now : Clock) (built : Except Response Unit) (name : String)
    (processor : ProcessorRef) (steps : List UInt8) (thresholds : CanaryThresholds) :
    AppState × Response :=
  let initialPct := steps.head?.getD 10
  s.startUpgrade built name "canary-started"
    (PipelineManager.upgradeCanary name processor steps thresholds "api" now)
    (.startCanary processor initialPct)

def endUpgrade (s : AppState) (name status : String) (f : PipelineManager.Edit)
    (action : UpgradeAction ProcessorRef) : AppState × Response :=
  match s.pipelines.edit name f with
  | .error e => (s, badRequest e)
  | .ok pipelines =>
    let s := { s with pipelines }
    match s.pipelineControls name with
    | some task => (s.install name (task.act action), .success status "managed")
    | none => (s, .success status "metadata")

/-- mirrors rest_api.rs:2348-2391 -/
def cutoverPipeline (s : AppState) (now : Clock) (name : String) : AppState × Response :=
  s.endUpgrade name "cutover-complete" (PipelineManager.cutover name "api" now) .cutoverBlueGreen

/-- mirrors rest_api.rs:2393-2431 -/
def rollbackPipeline (s : AppState) (now : Clock) (name : String) : AppState × Response :=
  s.endUpgrade name "rolled-back" (PipelineManager.rollbackUpgrade name "api" now) .rollback

/-- mirrors pipeline_manager.rs:589-596 -/
def canaryStatus (p : PipelineDefinition) : Option CanaryState :=
  match p.upgradeState with
  | some (.canary cs) => some cs
  | _ => none

def promoteTask (t : Installed ProcessorRef) : Option CanaryState → Installed ProcessorRef
  | some cs => t.act (if 100 ≤ cs.trafficPct then .completeCanary else .setCanaryPct cs.trafficPct)
  | none => t

/-- mirrors rest_api.rs:2433-2488 -/
def promoteCanary (s : AppState) (now : Clock) (name : String) : AppState × Response :=
  match s.pipelines.edit name (PipelineManager.promoteCanary name "api" now) with
  | .error e => (s, badRequest e)
  | .ok pipelines =>
    let s := { s with pipelines }
    match s.pipelineControls name with
    | some task =>
      (s.install name (promoteTask task ((s.pipelines.pipelines.lookup name).bind canaryStatus)),
        .success "promoted" "managed")
    | none => (s, .success "promoted" "metadata")

end AppState

inductive Call
  | upgrade (processor : ProcessorRef)
  | blueGreen (processor : ProcessorRef)
  | canary (processor : ProcessorRef) (steps : List UInt8) (thresholds : CanaryThresholds)
  | cutover
  | rollback
  | promote

structure Request where
  name : String
  call : Call
  now : Clock := fun _ => 0
  built : Except Response Unit := .ok ()

def handle (s : AppState) (r : Request) : AppState × Response :=
  match r.call with
  | .upgrade processor => s.upgradePipeline r.now r.built r.name processor
  | .blueGreen processor => s.upgradeBlueGreen r.now r.built r.name processor
  | .canary processor steps thresholds => s.upgradeCanary r.now r.built r.name processor steps thresholds
  | .cutover => s.cutoverPipeline r.now r.name
  | .rollback => s.rollbackPipeline r.now r.name
  | .promote => s.promoteCanary r.now r.name

def declared (p : PipelineDefinition) : Installed ProcessorRef :=
  match p.upgradeState with
  | none => { current := p.processor }
  | some (.blueGreen bg) => { current := p.processor, green := some bg.greenProcessor }
  | some (.canary cs) =>
    { current := p.processor, canary := some cs.canaryProcessor, canaryPct := cs.trafficPct }

def AppState.pipeline (s : AppState) (name : String) : Option PipelineDefinition :=
  s.pipelines.pipelines.lookup name

def Follows (s : AppState) : Prop :=
  ∀ name t, s.pipelineControls name = some t → ∃ p, s.pipeline name = some p ∧ t = declared p

def Started (s : AppState) : Prop :=
  ∀ name t, s.pipelineControls name = some t → ∃ p, s.pipeline name = some p ∧ p.state = .running ∧
    p.upgradeState = none ∧ t = { current := p.processor }

def Keeps (r : Request) (p : PipelineDefinition) : Prop :=
  match r.call with
  | .upgrade processor => r.built.isOk → p.state = .running ∨ processor = p.processor
  | .blueGreen _ => p.state = .running → p.upgradeState = none → r.built.isOk
  | .canary _ steps _ => p.state = .running → p.upgradeState = none → steps ≠ [] → r.built.isOk
  | .promote => ∀ cs ∈ AppState.canaryStatus p, (cs.steps[cs.currentStep + 1]?).any (· < 100)
  | .cutover | .rollback => True

def Allowed (s : AppState) (r : Request) : Prop :=
  (s.pipelineControls r.name).isSome → ∀ p ∈ s.pipeline r.name, Keeps r p

instance decidableKeeps : (r : Request) → (p : PipelineDefinition) → Decidable (Keeps r p)
  | ⟨_, .upgrade processor, _, built⟩, p =>
    inferInstanceAs (Decidable (built.isOk → p.state = .running ∨ processor = p.processor))
  | ⟨_, .blueGreen _, _, built⟩, p =>
    inferInstanceAs (Decidable (p.state = .running → p.upgradeState = none → built.isOk))
  | ⟨_, .canary _ steps _, _, built⟩, p =>
    inferInstanceAs (Decidable (p.state = .running → p.upgradeState = none → steps ≠ [] → built.isOk))
  | ⟨_, .promote, _, _⟩, p =>
    inferInstanceAs (Decidable (∀ cs ∈ AppState.canaryStatus p, (cs.steps[cs.currentStep + 1]?).any
      (· < 100)))
  | ⟨_, .cutover, _, _⟩, _ | ⟨_, .rollback, _, _⟩, _ => .isTrue trivial

instance decidableAllowed (s : AppState) (r : Request) : Decidable (Allowed s r) :=
  inferInstanceAs (Decidable ((s.pipelineControls r.name).isSome → ∀ p ∈ s.pipeline r.name, Keeps r p))

def machine : LTS AppState Request := LTS.ofFn Started fun s r => some (handle s r).1

structure InStep (p : PipelineDefinition) (t : Installed ProcessorRef) : Prop where
  installed : t = declared p
  state : p.state = if p.upgradeState.isSome then .upgrading else .running
  original : ∀ info ∈ p.upgradeState, info.original = p.processor

def Inv (s : AppState) : Prop :=
  ∀ name t, s.pipelineControls name = some t → ∃ p, s.pipeline name = some p ∧ InStep p t

lemma Inv.follows (h : Inv s) : Follows s := by
  intro name t ht; obtain ⟨p, hp, hin⟩ := h name t ht; exact ⟨p, hp, hin.installed⟩

lemma Started.inv (h : Started s) : Inv s := by
  intro name t ht; obtain ⟨p, hp, hs, hu, hi⟩ := h name t ht; refine ⟨p, hp, ?_, ?_, ?_⟩
  · rw [hi, declared, hu]
  · rw [hs, hu]; rfl
  grind

def editTurn (built : Except Response Unit) (f : PipelineManager.Edit) (action : UpgradeAction ProcessorRef)
    (p : PipelineDefinition) (t : Installed ProcessorRef) : PipelineDefinition × Installed ProcessorRef :=
  match f p with
  | .error _ => (p, t)
  | .ok (p', _) => (p', if built.isOk then t.act action else t)

def turn (r : Request) (p : PipelineDefinition) (t : Installed ProcessorRef) :
    PipelineDefinition × Installed ProcessorRef :=
  match r.call with
  | .upgrade processor =>
    if r.built.isOk then
      ((match Lifecycle.upgrade processor "api" r.now p with
        | .ok (p', _) => p'
        | .error _ => p), t.swap processor)
    else (p, t)
  | .blueGreen processor =>
    editTurn r.built (PipelineManager.upgradeBlueGreen r.name processor "api" r.now)
      (.startBlueGreen processor) p t
  | .canary processor steps thresholds =>
    editTurn r.built (PipelineManager.upgradeCanary r.name processor steps thresholds "api" r.now)
      (.startCanary processor (steps.head?.getD 10)) p t
  | .cutover => editTurn (.ok ()) (PipelineManager.cutover r.name "api" r.now) .cutoverBlueGreen p t
  | .rollback => editTurn (.ok ()) (PipelineManager.rollbackUpgrade r.name "api" r.now) .rollback p t
  | .promote =>
    match PipelineManager.promoteCanary r.name "api" r.now p with
    | .error _ => (p, t)
    | .ok (p', _) => (p', AppState.promoteTask t (AppState.canaryStatus p'))

section Handle

variable {s : AppState} {r : Request} {p : PipelineDefinition} {t : Installed ProcessorRef}

lemma edit_of_lookup {m : PipelineManager} {name : String} (hp : m.pipelines.lookup name = some p)
    (f : PipelineManager.Edit) :
    m.edit name f = (f p).map fun out =>
      { pipelines := m.pipelines.insert name out.1
        history := PipelineManager.recordHistory m.history name out.2 } := by
  rw [PipelineManager.edit, hp]; dsimp only
  cases f p with
  | error | ok => rfl

lemma startUpgrade_own {name status : String} {built : Except Response Unit} {f : PipelineManager.Edit}
    {action : UpgradeAction ProcessorRef} (hp : s.pipeline name = some p)
    (ht : s.pipelineControls name = some t) :
    (s.startUpgrade built name status f action).1.pipeline name = some (editTurn built f action p t).1 ∧
      (s.startUpgrade built name status f action).1.pipelineControls name =
        some (editTurn built f action p t).2 := by
  rw [AppState.startUpgrade, edit_of_lookup hp, editTurn]; rcases f p with e | ⟨p', entry⟩
  · exact ⟨hp, ht⟩
  · simp only [Except.map, ht]
    cases built with
    | error => exact ⟨lookup_insert _, ht⟩
    | ok => exact ⟨lookup_insert _, update_self ..⟩

lemma endUpgrade_eq {name status : String} {action : UpgradeAction ProcessorRef} :
    s.endUpgrade name status f action = s.startUpgrade (.ok ()) name status f action := by
  grind [AppState.endUpgrade, AppState.startUpgrade]

lemma upgradePipeline_own {name : String} {now : Clock} {built : Except Response Unit}
    {processor : ProcessorRef} (hp : s.pipeline name = some p) (ht : s.pipelineControls name = some t) :
    (s.upgradePipeline now built name processor).1.pipeline name =
        some (turn ⟨name, .upgrade processor, now, built⟩ p t).1 ∧
      (s.upgradePipeline now built name processor).1.pipelineControls name =
        some (turn ⟨name, .upgrade processor, now, built⟩ p t).2 := by
  rw [AppState.upgradePipeline, turn, ht]
  cases built with
  | error => exact ⟨hp, ht⟩
  | ok =>
    have hl : s.pipelines.pipelines.lookup name = some p := hp
    refine ⟨?_, update_self ..⟩
    simp only [AppState.pipeline, AppState.install, Lifecycle.change, hl]
    rcases Lifecycle.upgrade processor "api" now p with e | ⟨p', entries⟩
    · exact hp
    · exact lookup_insert _

lemma promoteCanary_own {name : String} {now : Clock} (hp : s.pipeline name = some p)
    (ht : s.pipelineControls name = some t) :
    (s.promoteCanary now name).1.pipeline name = some (turn ⟨name, .promote, now, .ok ()⟩ p t).1 ∧
      (s.promoteCanary now name).1.pipelineControls name =
        some (turn ⟨name, .promote, now, .ok ()⟩ p t).2 := by
  rw [AppState.promoteCanary, edit_of_lookup hp, turn]; dsimp only
  rcases PipelineManager.promoteCanary name "api" now p with e | ⟨p', entry⟩
  · exact ⟨hp, ht⟩
  · simp only [Except.map, ht, lookup_insert, bind_some]
    exact ⟨lookup_insert _, update_self ..⟩

lemma handle_own (hp : s.pipeline r.name = some p) (ht : s.pipelineControls r.name = some t) :
    (handle s r).1.pipeline r.name = some (turn r p t).1 ∧
      (handle s r).1.pipelineControls r.name = some (turn r p t).2 := by
  obtain ⟨name, call, now, built⟩ := r
  cases call with
  | upgrade => exact upgradePipeline_own hp ht
  | blueGreen | canary => exact startUpgrade_own hp ht
  | cutover => rw [handle, AppState.cutoverPipeline, endUpgrade_eq]; exact startUpgrade_own hp ht
  | rollback => rw [handle, AppState.rollbackPipeline, endUpgrade_eq]; exact startUpgrade_own hp ht
  | promote => exact promoteCanary_own hp ht

structure Only (name : String) (s s' : AppState) : Prop where
  pipeline : ∀ n, n ≠ name → s'.pipeline n = s.pipeline n
  control : ∀ n, n ≠ name → s'.pipelineControls n = s.pipelineControls n
  absent : s.pipelineControls name = none → s'.pipelineControls name = none

lemma Only.rfl {name : String} : Only name s s := ⟨fun _ _ => .refl _, fun _ _ => .refl _, id⟩

lemma Only.of_edit {name : String} {controls}
    (hm : s.pipelines.edit name f = .ok m) (hc : controls = s.pipelineControls ∨
      (∃ t, s.pipelineControls name = some t) ∧ ∃ t, controls = update s.pipelineControls name (some t)) :
    Only name s ⟨m, controls⟩ := by
  obtain ⟨p, out, -, -, hp⟩ := Lifecycle.edit_eq_ok hm
  refine ⟨fun n hn => ?_, fun n hn => ?_, fun hno => ?_⟩
  · simp_all [AppState.pipeline]
  · rcases hc with rfl | ⟨-, t, rfl⟩
    · rfl
    grind
  grind

lemma only_startUpgrade {name status : String} {built : Except Response Unit}
    {action : UpgradeAction ProcessorRef} : Only name s (s.startUpgrade built name status f action).1 := by
  rw [AppState.startUpgrade]
  cases hm : s.pipelines.edit name f with
  | error => exact .rfl
  | ok =>
    dsimp only
    cases ht : s.pipelineControls name with
    | none => exact .of_edit hm (.inl rfl)
    | some t =>
      cases built with
      | error => exact .of_edit hm (.inl rfl)
      | ok => exact .of_edit hm (.inr ⟨⟨t, ht⟩, _, rfl⟩)

lemma only_upgradePipeline {name : String} {now : Clock} {built : Except Response Unit}
    {processor : ProcessorRef} : Only name s (s.upgradePipeline now built name processor).1 := by
  have hc : ∀ (m : PipelineManager) (f : Lifecycle.Change) (n : String), n ≠ name →
      (Lifecycle.change m name f).1.pipelines.lookup n = m.pipelines.lookup n := by
    intro m f n hn; rw [Lifecycle.change]
    cases m.pipelines.lookup name with
    | none => rfl
    | some p =>
      dsimp only
      cases f p with
      | error => rfl
      | ok => exact lookup_insert_of_ne _ hn
  rw [AppState.upgradePipeline]
  cases ht : s.pipelineControls name with
  | some =>
    cases built with
    | error => exact .rfl
    | ok =>
      refine ⟨fun n hn => hc _ _ n hn, fun n hn => update_of_ne hn .., fun hno => ?_⟩
      grind
  | none =>
    dsimp only; have hl := hc s.pipelines (Lifecycle.upgrade processor "api" now)
    rcases ho : Lifecycle.change s.pipelines name (Lifecycle.upgrade processor "api" now) with
      ⟨m, e | answer⟩
    · exact .rfl
    · rw [ho] at hl; exact ⟨hl, fun _ _ => rfl, fun h => h⟩

lemma only_promoteCanary {name : String} {now : Clock} : Only name s (s.promoteCanary now name).1 := by
  rw [AppState.promoteCanary]
  cases hm : s.pipelines.edit name (PipelineManager.promoteCanary name "api" now) with
  | error => exact .rfl
  | ok =>
    dsimp only
    cases ht : s.pipelineControls name with
    | none => exact .of_edit hm (.inl rfl)
    | some t => exact .of_edit hm (.inr ⟨⟨t, ht⟩, _, rfl⟩)

lemma handle_only (s : AppState) (r : Request) : Only r.name s (handle s r).1 := by
  obtain ⟨name, call, now, built⟩ := r
  cases call with
  | upgrade => exact only_upgradePipeline
  | blueGreen | canary => exact only_startUpgrade
  | cutover => rw [handle, AppState.cutoverPipeline, endUpgrade_eq]; exact only_startUpgrade
  | rollback => rw [handle, AppState.rollbackPipeline, endUpgrade_eq]; exact only_startUpgrade
  | promote => exact only_promoteCanary

end Handle

section Turn

variable {r : Request} {p : PipelineDefinition} {t : Installed ProcessorRef} {now : Clock}
  {built : Except Response Unit} {name : String} {processor : ProcessorRef}

lemma InStep.running_iff (h : InStep p t) : p.state = .running ↔ p.upgradeState = none := by simp [h.state]

lemma declared_current (p : PipelineDefinition) : (declared p).current = p.processor := by
  rw [declared]; split <;> rfl

structure Exact (r : Request) (p : PipelineDefinition) (t : Installed ProcessorRef) : Prop where
  keeps : Keeps r p → InStep (turn r p t).1 (turn r p t).2
  only : (turn r p t).2 = declared (turn r p t).1 → Keeps r p

lemma Exact.refused (h : InStep p t) (ht : turn r p t = (p, t)) (hk : Keeps r p) : Exact r p t := by
  refine ⟨fun _ => ?_, fun _ => hk⟩; rw [ht]; exact h

lemma exact_upgrade (h : InStep p t) : Exact ⟨name, .upgrade processor, now, built⟩ p t := by
  cases hb : built.isOk with
  | false => exact .refused h (by simp [turn, hb]) (by simp [Keeps, hb])
  | true =>
    by_cases hs : p.state = .running
    · have hu := h.running_iff.mp hs
      have ht : turn ⟨name, .upgrade processor, now, built⟩ p t =
          ({ p with processor, state := .running, updatedAt := now 2 }, t.swap processor) := by
        simp [turn, hb, hs, Lifecycle.upgrade]
      refine ⟨fun _ => ?_, fun _ _ => .inl hs⟩; rw [ht]; refine ⟨?_, ?_, ?_⟩
      · simp [h.installed, declared, hu, Installed.swap]
      · simp [hu]
      · simp [hu]
    · -- the definition stays, the processor is swapped all the same
      have ht : turn ⟨name, .upgrade processor, now, built⟩ p t = (p, t.swap processor) := by
        simp [turn, hb, hs, Lifecycle.upgrade]
      refine ⟨fun hk => ?_, fun hd => ?_⟩
      · obtain hr | rfl := hk hb
        · exact absurd hr hs
        · rw [ht, ← declared_current p, ← h.installed]; exact h
      · rw [ht] at hd; have hc := congrArg Installed.current hd; rw [declared_current] at hc
        exact fun _ => .inr hc

lemma exact_start {action : UpgradeAction ProcessorRef} {entry : PipelineHistoryEntry}
    (ht : turn r p t = editTurn r.built f action p t) (hf : f p = .ok (p', entry))
    (hk : Keeps r p ↔ r.built.isOk) (ha : t.act action = declared p') (hne : t ≠ declared p')
    (hs : p'.state = .upgrading) (hi : ∃ info, p'.upgradeState = some info ∧ info.original = p'.processor) :
    Exact r p t := by
  rw [editTurn, hf] at ht; obtain ⟨info, hu, ho⟩ := hi; refine ⟨fun hke => ?_, fun hd => ?_⟩
  · rw [ht, if_pos (hk.mp hke)]; refine ⟨ha, ?_, ?_⟩
    · rw [hs, hu]; rfl
    grind
  grind

lemma exact_blueGreen (h : InStep p t) : Exact ⟨name, .blueGreen processor, now, built⟩ p t := by
  by_cases hs : p.state = .running
  · have hu := h.running_iff.mp hs
    refine exact_start rfl (by rw [PipelineManager.upgradeBlueGreen, if_neg (by simp [hs]),
      if_neg (by simp [hu])])
      ?_ ?_ ?_ rfl ⟨_, rfl, rfl⟩
    · simp [Keeps, hs, hu]
    · simp [h.installed, declared, hu, Installed.act]
    · simp [h.installed, declared, hu]
  · refine .refused h ?_ (fun hr => absurd hr hs)
    simp [turn, editTurn, PipelineManager.upgradeBlueGreen, hs]

lemma exact_canary {steps : List UInt8} {thresholds : CanaryThresholds} (h : InStep p t) :
    Exact ⟨name, .canary processor steps thresholds, now, built⟩ p t := by
  by_cases hs : p.state = .running
  · have hu := h.running_iff.mp hs
    cases steps with
    | nil =>
      refine .refused h ?_ (fun _ _ hst => absurd rfl hst)
      simp [turn, editTurn, PipelineManager.upgradeCanary, hs, hu]
    | cons =>
      refine exact_start rfl (by rw [PipelineManager.upgradeCanary, if_neg (by simp [hs]),
        if_neg (by simp [hu])])
        ?_ ?_ ?_ rfl ⟨_, rfl, rfl⟩
      · simp [Keeps, hs, hu]
      · simp [h.installed, declared, hu, Installed.act]
      · simp [h.installed, declared, hu]
  · refine .refused h ?_ (fun hr => absurd hr hs)
    simp [turn, editTurn, PipelineManager.upgradeCanary, hs]

lemma inStep_ended (hs : p'.state = .running) (hu : p'.upgradeState = none)
    (ht : t' = { current := p'.processor }) : InStep p' t' := by
  refine ⟨?_, ?_, ?_⟩
  · rw [ht, declared, hu]
  · rw [hs, hu]; rfl
  grind

lemma exact_cutover (h : InStep p t) : Exact ⟨name, .cutover, now, built⟩ p t := by
  refine ⟨fun _ => ?_, fun _ => trivial⟩; rcases hu : p.upgradeState with _ | bg | cs
  · simpa [turn, editTurn, PipelineManager.cutover, hu] using h
  · have ht := h.installed; rw [declared, hu] at ht
    cases ha : bg.active with
    | green => simpa [turn, editTurn, PipelineManager.cutover, hu, ha] using h
    | blue =>
      simp only [turn, editTurn, PipelineManager.cutover, hu, ha, reduceCtorEq, if_false]
      exact inStep_ended rfl rfl (by rw [ht]; rfl)
  · simpa [turn, editTurn, PipelineManager.cutover, hu] using h

lemma exact_rollback (h : InStep p t) : Exact ⟨name, .rollback, now, built⟩ p t := by
  refine ⟨fun _ => ?_, fun _ => trivial⟩
  cases hu : p.upgradeState with
  | none => simpa [turn, editTurn, PipelineManager.rollbackUpgrade, hu] using h
  | some info =>
    have hc : t.current = info.original := by rw [h.installed, declared_current, h.original info hu]
    simp only [turn, editTurn, PipelineManager.rollbackUpgrade, hu]
    exact inStep_ended rfl rfl (by rw [← hc]; rfl)

lemma exact_promote (h : InStep p t) : Exact ⟨name, .promote, now, built⟩ p t := by
  rcases hu : p.upgradeState with _ | bg | cs
  · exact .refused h (by simp [turn, PipelineManager.promoteCanary, hu])
      (by simp [Keeps, AppState.canaryStatus, hu])
  · exact .refused h (by simp [turn, PipelineManager.promoteCanary, hu])
      (by simp [Keeps, AppState.canaryStatus, hu])
  · have ht := h.installed; rw [declared, hu] at ht
    cases hn : cs.steps[cs.currentStep + 1]? with
    | none =>
      refine ⟨fun hk => ?_, fun hd => ?_⟩
      · simp [Keeps, AppState.canaryStatus, hu, hn] at hk
      · simp [turn, PipelineManager.promoteCanary, hu, hn, AppState.canaryStatus, AppState.promoteTask,
          declared, ht] at hd
    | some pct =>
      by_cases hp : pct < 100
      · refine ⟨fun _ => ?_, fun _ => by simpa [Keeps, AppState.canaryStatus, hu, hn] using hp⟩
        have hle : ¬ (100 : UInt8) ≤ pct := by simpa using hp
        simp only [turn, PipelineManager.promoteCanary, hu, hn, AppState.canaryStatus,
          AppState.promoteTask, hle, if_false]
        refine ⟨by rw [ht]; rfl, ?_, ?_⟩
        · rw [h.state, hu]; rfl
        · intro info hi; rw [mem_some_iff] at hi; rw [← hi]
          exact h.original (.canary cs) hu
      · -- the task completes the canary, and the declared upgrade goes on
        have hle : (100 : UInt8) ≤ pct := by simpa using hp
        refine ⟨fun hk => ?_, fun hd => ?_⟩
        · simp [Keeps, AppState.canaryStatus, hu, hn, hp] at hk
        · simp [turn, PipelineManager.promoteCanary, hu, hn, AppState.canaryStatus, AppState.promoteTask,
            declared, hle, Installed.act] at hd

lemma exact_turn (h : InStep p t) (r : Request) : Exact r p t := by
  obtain ⟨name, call, now, built⟩ := r
  cases call with
  | upgrade => exact exact_upgrade h
  | blueGreen => exact exact_blueGreen h
  | canary => exact exact_canary h
  | cutover => exact exact_cutover h
  | rollback => exact exact_rollback h
  | promote => exact exact_promote h

end Turn

lemma Inv.handle (h : Inv s) (hr : Allowed s r) : Inv (handle s r).1 := by
  have ho := handle_only s r; intro name t' ht'; by_cases hn : name = r.name
  · subst hn
    cases ht : s.pipelineControls r.name with
    | none => rw [ho.absent ht] at ht'; cases ht'
    | some t =>
      obtain ⟨p, hp, hin⟩ := h r.name t ht; obtain ⟨hp', hc'⟩ := handle_own hp ht
      rw [hc', Option.some.injEq] at ht'; subst ht'
      refine ⟨_, hp', (exact_turn hin r).keeps ?_⟩; exact hr (by rw [ht]; rfl) p hp
  · rw [ho.control name hn] at ht'; obtain ⟨p, hp, hin⟩ := h name t' ht'
    exact ⟨p, (ho.pipeline name hn).trans hp, hin⟩

lemma Inv.allowed (h : Inv s) (hf : Follows (UpgradeApi.handle s r).1) :
    Allowed s r := by
  intro hs p hp; obtain ⟨t, ht⟩ := isSome_iff_exists.mp hs
  obtain ⟨q, hq, hin⟩ := h r.name t ht
  obtain rfl : q = p := Option.some.inj (hq.symm.trans hp)
  obtain ⟨hp', hc'⟩ := handle_own hq ht; obtain ⟨q', hq', hd⟩ := hf r.name _ hc'
  obtain rfl : (turn r q t).1 = q' := Option.some.inj (hp'.symm.trans hq')
  exact (exact_turn hin r).only hd

theorem running_follows_declared {s₀ s : AppState} {rs : List Request} (hs : Started s₀)
    (hru : (machine.restrict Allowed).Run s₀ rs s) :
    Follows s ∧ ∀ r, Follows (handle s r).1 ↔ Allowed s r := by
  have hi : Inv s := by
    refine hru.induct (fun t l u ht hst => ?_) hs.inv; obtain ⟨hl, hu⟩ := hst; cases hu
    exact ht.handle hl
  exact ⟨hi.follows, fun r => ⟨hi.allowed, fun hr => (hi.handle hr).follows⟩⟩

def answers (s : AppState) : List Request → List Response
  | [] => []
  | r :: rs => (handle s r).2 :: answers (handle s r).1 rs

def Response.isSuccess : Response → Bool
  | .success .. => true
  | .failure .. => false

lemma not_follows {name : String} (ht : s.pipelineControls name = some t)
    (hp : (s.pipeline name).map declared ≠ some t) : ¬ Follows s := by
  intro h; obtain ⟨p, hl, rfl⟩ := h name t ht; rw [hl] at hp
  exact hp rfl

def v1 : ProcessorRef := ⟨"enrich", "1.0.0"⟩

def v2 : ProcessorRef := ⟨"enrich", "2.0.0"⟩

def orders : PipelineDefinition :=
  { name := "orders", sources := [], processor := v1, sinks := [], state := .running
    createdAt := 0, updatedAt := 0 }

def oneRunning : AppState where
  pipelines := { pipelines := (∅ : BTreeMap PipelineDefinition).insert "orders" orders }
  pipelineControls := update (fun _ => none) "orders" (some { current := v1 })

lemma started_oneRunning : Started oneRunning := by
  intro name t ht; by_cases hn : name = "orders"
  · subst hn; have hc : oneRunning.pipelineControls "orders" = some { current := v1 } := rfl
    rw [hc, Option.some.injEq] at ht
    exact ⟨orders, lookup_insert _, rfl, rfl, ht.symm⟩
  simp_all [oneRunning]

def thresholds : CanaryThresholds := ⟨0, 0, 0⟩

def pastTheLastStep : List Request :=
  [⟨"orders", .canary v2 [10, 50] thresholds, fun _ => 0, .ok ()⟩, ⟨"orders", .promote, fun _ => 0, .ok ()⟩,
    ⟨"orders", .promote, fun _ => 0, .ok ()⟩]

def backFromFull : List Request :=
  [⟨"orders", .canary v2 [10, 50, 100] thresholds, fun _ => 0, .ok ()⟩,
    ⟨"orders", .promote, fun _ => 0, .ok ()⟩,
    ⟨"orders", .promote, fun _ => 0, .ok ()⟩, ⟨"orders", .rollback, fun _ => 0, .ok ()⟩]

def swapInUpgrade : List Request :=
  [⟨"orders", .blueGreen v2, fun _ => 0, .ok ()⟩, ⟨"orders", .upgrade v2, fun _ => 0, .ok ()⟩]

def notBuilt : List Request :=
  [⟨"orders", .canary v2 [10] thresholds, fun _ => 0, .error (.failure 400 "failed to compile Wasm module")⟩,
    ⟨"orders", .promote, fun _ => 0, .ok ()⟩]

def bothOf (s : AppState) : Option (Installed ProcessorRef) × Option (Installed ProcessorRef) :=
  ((s.pipeline "orders").map declared, s.pipelineControls "orders")

lemma parted (h : (LTS.exec (fun s r => some (handle s r).1) oneRunning rs).map bothOf = some (d, some t))
    (hne : d ≠ some t) :
    ∃ s, machine.Run oneRunning rs s ∧ s.pipelineControls "orders" = some t ∧ ¬ Follows s := by
  obtain ⟨s, hs, hb⟩ := map_eq_some_iff.mp h; obtain ⟨hd, ht⟩ := Prod.mk.inj hb
  exact ⟨s, LTS.run_of_exec hs, ht, not_follows ht (hd ▸ hne)⟩

theorem running_leaves_declared : Started oneRunning ∧ (∃ s, machine.Run oneRunning pastTheLastStep s ∧
        s.pipelineControls "orders" = some ⟨v1, none, some v2, 50⟩ ∧ ¬ Follows s) ∧
      (∃ s, machine.Run oneRunning backFromFull s ∧
        s.pipelineControls "orders" = some ⟨v2, none, none, 0⟩ ∧ ¬ Follows s) ∧
      (∃ s, machine.Run oneRunning swapInUpgrade s ∧
        s.pipelineControls "orders" = some ⟨v2, some v2, none, 0⟩ ∧ ¬ Follows s) ∧
      (∃ s, machine.Run oneRunning notBuilt s ∧
        s.pipelineControls "orders" = some ⟨v1, none, none, 0⟩ ∧ ¬ Follows s) ∧
      (answers oneRunning (pastTheLastStep)).all Response.isSuccess ∧
      (answers oneRunning (backFromFull)).all Response.isSuccess ∧
      (answers oneRunning (swapInUpgrade)).all Response.isSuccess ∧
      (answers oneRunning (notBuilt)).map Response.isSuccess = [false, true] := by
  refine ⟨started_oneRunning, ?_, ?_, ?_, ?_, by decide +kernel, by decide +kernel, by decide +kernel,
    by decide +kernel⟩
  · exact parted (by decide +kernel : _ = some (some ⟨v2, none, none, 0⟩, _)) (by decide)
  · exact parted (by decide +kernel : _ = some (some ⟨v1, none, none, 0⟩, _)) (by decide)
  · exact parted (by decide +kernel : _ = some (some ⟨v1, some v2, none, 0⟩, _)) (by decide)
  · exact parted (by decide +kernel : _ = some (some ⟨v2, none, none, 0⟩, _)) (by decide)

def upgradeAndBack : List Request :=
  [⟨"orders", .blueGreen v2, fun _ => 0, .ok ()⟩, ⟨"orders", .cutover, fun _ => 0, .ok ()⟩,
    ⟨"orders", .canary v1 [10, 50, 100] thresholds, fun _ => 0, .ok ()⟩,
    ⟨"orders", .promote, fun _ => 0, .ok ()⟩, ⟨"orders", .rollback, fun _ => 0, .ok ()⟩]

theorem running_follows_declared_rollback :
    ∃ s, (machine.restrict Allowed).Run oneRunning upgradeAndBack s ∧ Follows s ∧
      s.pipelineControls "orders" = some { current := v2 } := by
  have h : (LTS.exec (fun s r => if Allowed s r then some (handle s r).1 else none) oneRunning
      upgradeAndBack).map (fun s => s.pipelineControls "orders") =
        some (some { current := v2 }) := by decide +kernel
  obtain ⟨s, hs, ht⟩ := map_eq_some_iff.mp h
  have hr : (machine.restrict Allowed).Run oneRunning upgradeAndBack s := LTS.run_restrict_of_exec hs
  exact ⟨s, hr, (running_follows_declared started_oneRunning hr).1, ht⟩

end Aeon.L4.UpgradeApi
