import Mathlib.Data.List.Chain
import Aeon.Core.Calls
import Aeon.L4Cluster.Lifecycle

/-!
# The history of a pipeline

`record_history` of `crates/aeon-engine/src/pipeline_manager.rs`; some calls let go of the catalog's
lock before they record.

* `history_faithful`: the entries are a chain that ends in the state while no call changes a
  pipeline that another is still to record;
* `history_out_of_order`: two calls that record in the other order.
-/
namespace Aeon.L4.History

open List Function Finmap Aeon.Core Aeon.L4.Registry Aeon.L4.Registry.PipelineManager Aeon.L4.Lifecycle

inductive Pending where
  | record (name : String) (found : PipelineState) (entries : List PipelineHistoryEntry)
  | forget (name : String)

def Pending.name : Pending → String
  | .record name _ _ | .forget name => name

def once (f : Edit) : Change := fun p => (f p).map fun r => (r.1, [r.2])

/-- mirrors pipeline_manager.rs:793-810 -/
def setState (state : PipelineState) (now : Clock) : Change := fun p =>
  .ok ({ p with state, updatedAt := now 0 },
    [{ timestamp := now 1, action := stateAction state, actor := "system", fromState := p.state, toState :=
      state }])

def changes (now : Clock) : Call → Option (String × Change)
  | .start name actor => some (name, start actor now)
  | .stop name actor => some (name, stop actor now)
  | .upgrade name newProcessor actor => some (name, upgrade newProcessor actor now)
  | .command (.setPipelineState name state) => some (name, setState state now)
  | .command (.upgradePipeline name newProcessor) =>
    some (name, fun p => .ok ({ p with processor := newProcessor, updatedAt := now 0 }, []))
  | .command (.blueGreenStart name newProcessor actor) =>
    some (name, once (upgradeBlueGreen name newProcessor actor now))
  | .command (.blueGreenCutover name actor) => some (name, once (cutover name actor now))
  | .command (.rollbackUpgrade name actor) => some (name, once (rollbackUpgrade name actor now))
  | .command (.canaryStart name newProcessor steps thresholds actor) =>
    some (name, once (upgradeCanary name newProcessor steps thresholds actor now))
  | .command (.canaryPromote name actor) => some (name, once (promoteCanary name actor now))
  | .command (.reconfigureSource name newSource actor) =>
    some (name, once (reconfigureSource newSource actor now))
  | .command (.reconfigureSink name newSink actor) => some (name, once (reconfigureSink newSink actor now))
  | _ => none

def createdEntry (now : Clock) : PipelineHistoryEntry :=
  { timestamp := now 0, action := .created, actor := "system", fromState := .created, toState := .created }

abbrev Locked := BTreeMap PipelineDefinition × Option Pending

def changed (pipelines : BTreeMap PipelineDefinition) (name : String) (f : Change) : Locked :=
  match pipelines.lookup name with
  | none => (pipelines, none)
  | some p =>
    match f p with
    | .error _ => (pipelines, none)
    | .ok (p', entries) => (pipelines.insert name p', some (.record name p.state entries))

def created (now : Clock) (pipelines : BTreeMap PipelineDefinition) (definition : PipelineDefinition) :
    Locked :=
  if definition.name ∈ pipelines then (pipelines, none)
  else (pipelines.insert definition.name definition,
    some (.record definition.name .created [createdEntry now]))

def locked (now : Clock) (pipelines : BTreeMap PipelineDefinition) (c : Call) : Locked :=
  match changes now c with
  | some (name, f) => changed pipelines name f
  | none =>
    match c with
    | .create definition | .command (.createPipeline definition) => created now pipelines definition
    | .delete name =>
      match pipelines.lookup name with
      | none => (pipelines, none)
      | some p =>
        if p.state = .running ∨ p.state = .upgrading then (pipelines, none)
        else (pipelines.erase name, some (.forget name))
    | .command (.deletePipeline name) =>
      if name ∈ pipelines then (pipelines.erase name, some (.forget name)) else (pipelines, none)
    | .restore data => (data, none)
    | _ => (pipelines, none)

def holdsLock : Call → Bool
  | .create _ | .start .. | .stop .. | .upgrade .. | .delete _ | .command (.createPipeline _) => true
  | _ => false

def foundIn : PipelineState → List PipelineHistoryEntry → List PipelineState
  | _, [] => []
  | state, e :: entries => state :: foundIn e.toState entries

structure State where
  manager : PipelineManager := {}
  found : String → List PipelineState := fun _ => []
  pending : Calls Pending := fun _ => none

def State.withPipelines (s : State) (pipelines : BTreeMap PipelineDefinition) : State :=
  { s with manager := { s.manager with pipelines } }

def settle (s : State) : Option Pending → State
  | none => s
  | some (.record name found entries) =>
    { s with
      manager := { s.manager with
        history := entries.foldl (fun history entry => recordHistory history name entry) s.manager.history }
      found := update s.found name (s.found name ++ foundIn found entries) }
  | some (.forget name) =>
    { s with
      manager := { s.manager with history := s.manager.history.erase name }
      found := update s.found name [] }

inductive Label where
  | call (id : Nat) (now : Clock) (c : Call)
  | record (id : Nat)

def step (s : State) : Label → Option State
  | .call id now c =>
    if s.pending id = none then
      let (pipelines, p) := locked now s.manager.pipelines c
      let s := s.withPipelines pipelines
      some (if holdsLock c then settle s p else { s with pending := update s.pending id p })
    else none
  | .record id => (s.pending id).map fun p => { settle s (some p) with pending := update s.pending id none }

def system : LTS State Label := LTS.ofFn (· = {}) step

def State.entries (s : State) (name : String) : List PipelineHistoryEntry :=
  (s.manager.history.lookup name).getD []

structure Faithful (s : State) (name : String) (p : PipelineDefinition) : Prop where
  chain : (s.entries name).IsChain fun a b => a.toState = b.fromState
  last : (s.entries name).getLast?.map (·.toState) = some p.state
  found : (s.entries name).map (·.fromState) = s.found name

def Call.target : Call → Option String
  | .create definition | .command (.createPipeline definition) => some definition.name
  | .start name _ | .stop name _ | .upgrade name _ _ | .delete name => some name
  | .command (.setPipelineState name _) | .command (.upgradePipeline name _) | .command (.deletePipeline name)
  | .command (.blueGreenStart name _ _) | .command (.blueGreenCutover name _) | .command
    (.rollbackUpgrade name _)
  | .command (.canaryStart name _ _ _ _) | .command (.canaryPromote name _) | .command
    (.reconfigureSource name _ _)
  | .command (.reconfigureSink name _ _) => some name
  | _ => none

def Ordered (s : State) : Label → Prop
  | .call _ _ c => (∀ name, Call.target c = some name → s.pending.All fun p => p.name ≠ name) ∧
    match c with
    | .create definition | .command (.createPipeline definition) => definition.state = .created
    | .command (.blueGreenCutover name _) | .command (.rollbackUpgrade name _) | .command
      (.canaryPromote name _) =>
      ∀ p, s.manager.pipelines.lookup name = some p → p.upgradeState.isSome → p.state = .upgrading
    | .restore data =>
      ∀ name, (data.lookup name).map (·.state) = (s.manager.pipelines.lookup name).map (·.state)
    | _ => True
  | .record _ => True

def follow : PipelineState → List PipelineHistoryEntry → Option PipelineState
  | state, [] => some state
  | state, e :: entries => if e.fromState = state then follow e.toState entries else none

lemma follow_append {state : PipelineState} :
    follow state (l ++ l') = (follow state l).bind fun t => follow t l' := by
  induction l generalizing state with
  | nil => rfl
  | cons e l ih => simp only [cons_append, follow]; split_ifs <;> simp [ih]

lemma foundIn_eq {state t : PipelineState} (h : follow state l = some t) :
    l.map (·.fromState) = foundIn state l := by
  induction l generalizing state with
  | nil => rfl
  | cons e l ih => rw [follow] at h; split_ifs at h with he; rw [map_cons, foundIn, ih h, he]

lemma chain_of_follow {state t : PipelineState} (h : follow state l = some t) :
    l.IsChain (fun a b => a.toState = b.fromState) ∧ (l ≠ [] → l.getLast?.map (·.toState) = some t) := by
  induction l generalizing state with
  | nil => simp
  | cons e l ih =>
    rw [follow] at h; split_ifs at h
    cases l with
    | nil => simpa [follow] using h
    | cons =>
      obtain ⟨hc, hl⟩ := ih h; rw [follow] at h; split_ifs at h with he
      exact ⟨.cons_cons he.symm hc, by simpa using hl⟩

def Told (o : Option PipelineState) (entries : List PipelineHistoryEntry) (found : List PipelineState) :
    Prop :=
  entries.map (·.fromState) = found ∧
    match o with
    | some state => entries ≠ [] ∧ follow .created entries = some state
    | none => entries = []

def Untold (o : Option PipelineState) (entries : List PipelineHistoryEntry) (found : List PipelineState) :
    Pending → Prop
  | .record _ state entries' => entries.map (·.fromState) = found ∧ entries ++ entries' ≠ [] ∧
      follow .created entries = some state ∧ ∃ t, o = some t ∧ follow state entries' = some t
  | .forget _ => o = none

def stateOf (pipelines : BTreeMap PipelineDefinition) (name : String) : Option PipelineState :=
  (pipelines.lookup name).map (·.state)

variable {now : Clock} {c : Call} {name : String} {s s' : State} {id : Nat} {p p' : PipelineDefinition}
  {entries : List PipelineHistoryEntry} {found : List PipelineState} {pending : Pending}

lemma once_eq_ok (h : once f p = .ok (p', entries)) : ∃ e, f p = .ok (p', e) ∧ [e] = entries := by
  rw [once] at h
  cases hf : f p with
  | error => simp [hf, Except.map] at h
  | ok r =>
    simp only [hf, Except.map, Except.ok.injEq, Prod.mk.injEq] at h
    exact ⟨r.2, by rw [← h.1], h.2⟩

lemma follow_changes (hc : changes now c = some (name, f)) (ho : Ordered s (.call id now c))
    (hp : s.manager.pipelines.lookup name = some p) (hf : f p = .ok (p', entries)) :
    follow p.state entries = some p'.state := by
  have hup := ho.2
  cases c with
  | create | delete | restore => cases hc
  | start | stop | upgrade =>
    cases hc; simp only [start, stop, upgrade] at hf
    (repeat' split at hf) <;> cases hf <;> simp_all [follow]
  | command cmd =>
    cases cmd <;> cases hc
    · cases hf; simp [follow]
    · cases hf; simp [follow]
    all_goals
      obtain ⟨e, he, rfl⟩ := once_eq_ok hf
      simp only [upgradeBlueGreen, cutover, rollbackUpgrade, upgradeCanary, promoteCanary, reconfigureSource,
        reconfigureSink, reconfigure] at he
      (repeat' split at he) <;> cases he <;> simp_all [follow]

variable {pipelines : BTreeMap PipelineDefinition}

lemma stateOf_insert (name : String) (p : PipelineDefinition) :
    stateOf (pipelines.insert name p) = update (stateOf pipelines) name (some p.state) := by
  funext k; by_cases hk : k = name
  · subst hk; simp [stateOf]
  · simp [stateOf, hk, lookup_insert_of_ne]

lemma stateOf_erase (name : String) :
    stateOf (pipelines.erase name) = update (stateOf pipelines) name none := by
  funext k; by_cases hk : k = name
  · subst hk; simp [stateOf]
  · simp [stateOf, hk, lookup_erase_ne]

def Effect (s : State) (target : Option String) (r : Locked) : Prop :=
  (r.2 = none ∧ stateOf r.1 = stateOf s.manager.pipelines) ∨
  ∃ pending o, r.2 = some pending ∧ target = some pending.name ∧
    stateOf r.1 = update (stateOf s.manager.pipelines) pending.name o ∧
    ∀ entries found, Told (stateOf s.manager.pipelines pending.name) entries found →
    Untold o entries found pending

lemma effect_none (target : Option String) : Effect s target (s.manager.pipelines, none) := .inl ⟨rfl, rfl⟩

lemma effect_forget (name : String) :
    Effect s (some name) (s.manager.pipelines.erase name, some (.forget name)) :=
  .inr ⟨_, none, rfl, rfl, stateOf_erase name, fun _ _ _ => rfl⟩

lemma effect_created {definition : PipelineDefinition} (h : definition.state = .created) :
    Effect s (some definition.name) (created now s.manager.pipelines definition) := by
  rw [created]; split_ifs with hm
  · exact effect_none _
  · refine .inr ⟨_, _, rfl, rfl, stateOf_insert _ _, fun es fs ht => ?_⟩
    have hn : stateOf s.manager.pipelines definition.name = none := by simp [stateOf, lookup_eq_none.mpr hm]
    simp only [Pending.name, hn, Told] at ht
    exact ⟨ht.1, by simp, by rw [ht.2]; rfl, _, rfl, by simp [follow, createdEntry, h]⟩

lemma effect_changed (hc : changes now c = some (name, f)) (ho : Ordered s (.call id now c)) :
    Effect s (some name) (changed s.manager.pipelines name f) := by
  rw [changed]
  cases hp : s.manager.pipelines.lookup name with
  | none => exact effect_none _
  | some p =>
    cases hf : f p with
    | error => simp only [hf]; exact effect_none _
    | ok r =>
      simp only [hf]
      refine .inr ⟨.record name p.state r.2, some r.1.state, rfl, rfl, stateOf_insert _ _, fun es fs h => ?_⟩
      simp only [Pending.name, stateOf, hp, Option.map_some, Told] at h
      exact ⟨h.1, by simp [h.2.1], h.2.2, _, rfl, follow_changes hc ho hp hf⟩

lemma target_of_changes (hc : changes now c = some (name, f)) : Call.target c = some name := by
  cases c with
  | command cmd => cases cmd <;> cases hc <;> rfl
  | _ => cases hc <;> rfl

lemma effect_locked (ho : Ordered s (.call id now c)) :
    Effect s (Call.target c) (locked now s.manager.pipelines c) := by
  have hs := ho.2; unfold locked
  cases hc : changes now c with
  | some => exact target_of_changes hc ▸ effect_changed hc ho
  | none =>
    cases c with
    | create => exact effect_created hs
    | delete name =>
      dsimp only
      (repeat' split) <;> first | exact effect_none _ | exact effect_forget name
    | restore => exact .inl ⟨rfl, funext hs⟩
    | start | stop | upgrade => cases hc
    | command cmd =>
      cases cmd with
      | createPipeline => exact effect_created hs
      | deletePipeline name =>
        dsimp only; split_ifs <;> first | exact effect_none _ | exact effect_forget name
      | _ => exact effect_none _

structure Inv (s : State) : Prop where
  told : ∀ name, s.pending.All (fun p => p.name ≠ name) →
    Told (stateOf s.manager.pipelines name) (s.entries name) (s.found name)
  untold : s.pending.All fun p => Untold (stateOf s.manager.pipelines p.name) (s.entries p.name)
    (s.found p.name) p
  apart : s.pending.Pairwise fun a b => a.name ≠ b.name

lemma Inv.begin (h : Inv s) (hid : s.pending id = none) (hf : s.pending.All fun p => p.name ≠ pending.name)
    (hs : stateOf pipelines = update (stateOf s.manager.pipelines) pending.name o)
    (hu : Untold o (s.entries pending.name) (s.found pending.name) pending) :
    Inv { s.withPipelines pipelines with pending := update s.pending id (some pending) } := by
  refine ⟨fun name ha => ?_, Calls.all_update.mpr ⟨fun i p hi hp => ?_, fun p hp => ?_⟩, ?_⟩
  · obtain ⟨ho, hse⟩ := Calls.all_update.mp ha
    have hne : name ≠ pending.name := (hse pending rfl).symm
    have := h.told name fun i p hp => ho i p (fun hi => by simp_all) hp
    simpa [State.withPipelines, hs, hne, State.entries] using this
  · have := h.untold i p hp
    simpa [State.withPipelines, hs, hf i p hp, State.entries] using this
  · cases hp; simpa [State.withPipelines, hs, State.entries] using hu
  · exact h.apart.update (fun _ _ => Ne.symm) fun p hp i q _ hq => by cases hp; exact (hf i q hq).symm

lemma entries_foldl (history : BTreeMap (List PipelineHistoryEntry)) (name k : String) :
    (((entries.foldl (fun history entry => recordHistory history name entry) history).lookup k).getD []) =
      if k = name then (history.lookup k).getD [] ++ entries else (history.lookup k).getD [] := by
  induction entries generalizing history with
  | nil => simp
  | cons e entries ih =>
    rw [foldl_cons, ih]; by_cases hk : k = name
    · subst hk; simp [recordHistory]
    · simp [hk, recordHistory, lookup_insert_of_ne]

lemma Inv.record (h : Inv s) (hid : s.pending id = some pending) :
    Inv { settle s (some pending) with pending := update s.pending id none } := by
  have hu := h.untold id pending hid; have ho := h.apart.others hid
  have hv : ∀ name ≠ pending.name, (settle s (some pending)).entries name = s.entries name ∧
      (settle s (some pending)).found name = s.found name := by
    intro name hne
    cases pending with
    | record =>
      exact ⟨by rw [settle, State.entries]; exact (entries_foldl _ _ _).trans (if_neg hne),
        update_of_ne hne _ _⟩
    | forget =>
      exact ⟨congrArg (Option.getD · []) (lookup_erase_ne hne), update_of_ne hne _ _⟩
  have hs : (settle s (some pending)).manager.pipelines = s.manager.pipelines := by cases pending <;> rfl
  refine ⟨fun name ha => ?_, Calls.all_update.mpr ⟨fun i p hi hp => ?_, nofun⟩,
    h.apart.update (fun _ _ => Ne.symm) nofun⟩
  · change Told (stateOf (settle s (some pending)).manager.pipelines name)
      ((settle s (some pending)).entries name) _
    rw [hs]; by_cases hn : name = pending.name
    · subst hn
      cases pending with
      | record k state es =>
        obtain ⟨hfu, hne, hfo, t, ht, hes⟩ := hu
        have he : (settle s (some (.record k state es))).entries k = s.entries k ++ es :=
          (entries_foldl _ _ _).trans (if_pos rfl)
        simp only [Pending.name] at hfu hne hfo ht ⊢; refine ⟨?_, ?_⟩
        · rw [he, map_append, hfu, foundIn_eq hes]; simp [settle]
        · rw [he, ht]; exact ⟨hne, by rw [follow_append, hfo]; exact hes⟩
      | forget k =>
        have hu : stateOf s.manager.pipelines k = none := hu
        simp [Told, Pending.name, hu, settle, State.entries]
    · obtain ⟨he, hf⟩ := hv name hn; rw [he]
      refine (congrArg (Told _ _) hf).mpr (h.told name fun i p hp => ?_)
      by_cases hi : i = id
      · obtain rfl : pending = p := by simp_all
        exact Ne.symm hn
      · exact (Calls.all_update.mp ha).1 i p hi hp
  · obtain ⟨he, hf⟩ := hv p.name (ho i p hi hp).symm
    change Untold (stateOf (settle s (some pending)).manager.pipelines p.name)
      ((settle s (some pending)).entries p.name)
      ((settle s (some pending)).found p.name) p
    rw [hs, he, hf]; exact h.untold i p hp

lemma Inv.call (h : Inv s) (hid : s.pending id = none) (ho : Ordered s (.call id now c)) :
    Inv (if holdsLock c then settle (s.withPipelines (locked now s.manager.pipelines c).1)
      (locked now s.manager.pipelines c).2
      else { s.withPipelines (locked now s.manager.pipelines c).1 with
        pending := update s.pending id (locked now s.manager.pipelines c).2 }) := by
  obtain ⟨hn, hs⟩ | ⟨pending, o, hso, ht, hs, hu⟩ := effect_locked ho
  · have hi : Inv (s.withPipelines (locked now s.manager.pipelines c).1) :=
      ⟨fun name ha => by simpa [State.withPipelines, hs, State.entries] using h.told name ha,
        fun i p hp => by simpa [State.withPipelines, hs, State.entries] using h.untold i p hp, h.apart⟩
    rw [hn]; split_ifs
    · exact hi
    · rw [← hid, update_eq_self]; exact hi
  · have hf := ho.1 _ ht; have hb := h.begin hid hf hs (hu _ _ (h.told _ hf)); rw [hso]
    split_ifs
    · -- recorded under the same lock
      have := hb.record (update_self ..)
      rw [update_idem, ← hid, update_eq_self] at this
      cases pending <;> exact this
    · exact hb

lemma Untold.chain (h : Untold (some state) entries found pending) :
    entries.IsChain (fun a b => a.toState = b.fromState) ∧ entries.map (·.fromState) = found := by
  cases pending with
  | record => exact ⟨(chain_of_follow h.2.2.1).1, h.1⟩
  | forget => cases h

theorem history_faithful (labels : List Label) (s : State) (hr : (system.restrict Ordered).Run {} labels s)
    (name : String) (p : PipelineDefinition) (hp : s.manager.pipelines.lookup name = some p) :
    ((s.entries name).IsChain (fun a b => a.toState = b.fromState) ∧
      (s.entries name).map (·.fromState) = s.found name) ∧
    (s.pending.All (fun q => q.name ≠ name) → Faithful s name p) := by
  have hi : Inv s := by
    refine hr.induct ?_ ⟨fun name _ => ?_, by simp [Calls.All], by simp [Calls.Pairwise]⟩
    · rintro t label t' hi ⟨ho, hs⟩
      cases label with
      | call id =>
        obtain ⟨hid, rfl⟩ : t.pending id = none ∧ _ = t' := by simpa [system, LTS.ofFn, step] using hs
        exact hi.call hid ho
      | record => obtain ⟨pending, hpe, rfl⟩ := Option.map_eq_some_iff.mp hs; exact hi.record hpe
    · simp [Told, stateOf, State.entries]
  have hst : stateOf s.manager.pipelines name = some p.state := by simp [stateOf, hp]
  have hd : s.pending.All (fun q => q.name ≠ name) → Faithful s name p := fun hd => by
    have ht := hi.told name hd; rw [hst] at ht; obtain ⟨hfo, hne, hf⟩ := ht
    exact ⟨(chain_of_follow hf).1, (chain_of_follow hf).2 hne, hfo⟩
  refine ⟨?_, hd⟩
  by_cases ha : s.pending.All fun q => q.name ≠ name
  · exact ⟨(hd ha).chain, (hd ha).found⟩
  · simp only [Calls.All, not_forall, not_not] at ha; obtain ⟨id, q, hq, rfl⟩ := ha
    have hu := hi.untold id q hq; simp only [hst] at hu; exact hu.chain

def overlapping : List Label :=
  [.call 0 noClock (.create draft), .call 0 noClock (.create { draft with name := "q" }),
    .call 0 noClock (.command (.setPipelineState "p" .running)),
    .call 1 noClock (.command (.setPipelineState "q" .failed)), .record 1, .record 0,
    .call 0 noClock (.command (.blueGreenStart "p" draft.processor "api")), .record 0,
    .call 1 noClock (.command (.blueGreenCutover "p" "api")), .record 1]

theorem overlapping_history : ∃ s p, (system.restrict Ordered).Run {} overlapping s ∧
    s.manager.pipelines.lookup "p" = some p ∧ p.state = .running ∧ (s.entries "p").length = 4 ∧
    Faithful s "p" p := by
  have hr : (system.restrict Ordered).Run {} overlapping _ :=
    .cons ⟨⟨?_, rfl⟩, rfl⟩ <| .cons ⟨⟨?_, rfl⟩, rfl⟩ <| .cons ⟨⟨?_, trivial⟩, rfl⟩ <|
    .cons ⟨⟨?_, trivial⟩, rfl⟩ <| .cons ⟨trivial, rfl⟩ <| .cons ⟨trivial, rfl⟩ <|
    .cons ⟨⟨?_, trivial⟩, rfl⟩ <| .cons ⟨trivial, rfl⟩ <| .cons ⟨⟨?_, fun p hp _ => ?_⟩, rfl⟩ <|
      .cons ⟨trivial, rfl⟩ <| .nil _
  case refine_7 => cases hp; rfl
  case refine_8 =>
    refine ⟨_, _, hr, rfl, rfl, rfl, (history_faithful _ _ hr "p" _ rfl).2 ?_⟩; rintro (_ | _ | i) q ⟨⟩
  all_goals rintro name ⟨⟩ (_ | _ | i) q ⟨⟩ <;> decide

theorem history_out_of_order : ∃ s p, system.Run {} [.call 0 noClock (.create draft),
      .call 0 noClock (.command (.setPipelineState "p" .stopped)),
      .call 1 noClock (.command (.setPipelineState "p" .running)), .record 1, .record 0] s ∧
    s.pending 0 = none ∧ s.pending 1 = none ∧ s.manager.pipelines.lookup "p" = some p ∧ p.state = .running ∧
    (s.entries "p").getLast?.map (·.toState) = some .stopped ∧ ¬ Faithful s "p" p := by
  refine ⟨_, _, .cons rfl (.cons rfl (.cons rfl (.cons rfl (.cons rfl (.nil _))))), rfl, rfl, rfl, rfl,
    ?_, fun h => ?_⟩
  · decide +kernel
  · exact absurd h.last (by decide +kernel)

end Aeon.L4.History
