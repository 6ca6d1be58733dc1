import Aeon.L1Types.Event
import Mathlib.Logic.Function.Basic

/-!
# The topology runners and the linear runner

`run` (`crates/aeon-engine/src/pipeline.rs:457-495`) and the runners of `dag.rs` over any sources,
processor and sinks, compared turn by turn: a runner may never end.

* `runners_agree_iff`: when they write the same batches and count the same;
* `push_source_cut_off`: a push source that is quiet for one turn.
-/
namespace Aeon.L3.TopologyRunners

open Function List Aeon.Types

structure Env (S P K E O U : Type) where
  sourceKind : S → SourceKind
  nextBatch : S → Except String (List E) × S
  processBatch : P → List E → Except String (List O) × P
  writeBatch : K → List O → Except String (List U) × K
  flush : K → Except String Unit × K

structure Metrics where
  eventsReceived : Nat := 0
  eventsProcessed : Nat := 0
  outputsSent : Nat := 0

structure St (S P K O : Type) where
  source : Nat → S
  processor : P
  sink : Nat → K
  writes : Nat → List (List O) := fun _ => []
  metrics : Metrics := {}

variable {S P K E O U : Type}

abbrev M (S P K O : Type) := EStateM String (St S P K O)

section Calls

variable (env : Env S P K E O U)

def answer {α : Type} (r : Except String α) (st : St S P K O) : EStateM.Result String (St S P K O) α :=
  match r with
  | .ok a => .ok a st
  | .error e => .error e st

def nextBatch (i : Nat) : M S P K O (List E) := fun st =>
  let r := env.nextBatch (st.source i)
  answer r.1 { st with source := update st.source i r.2 }

def processBatch (events : List E) : M S P K O (List O) := fun st =>
  let r := env.processBatch st.processor events
  answer r.1 { st with processor := r.2 }

def writeBatch (j : Nat) (outs : List O) : M S P K O (List U) := fun st =>
  let r := env.writeBatch (st.sink j) outs
  answer r.1 { st with
    sink := update st.sink j r.2
    writes := update st.writes j (st.writes j ++ [outs]) }

def flush (j : Nat) : M S P K O Unit := fun st =>
  let r := env.flush (st.sink j)
  answer r.1 { st with sink := update st.sink j r.2 }

def count (f : Metrics → Metrics) : M S P K O Unit := fun st => .ok () { st with metrics := f st.metrics }

def received (n : Nat) : M S P K O Unit := count fun m => { m with eventsReceived := m.eventsReceived + n }

def processed (n : Nat) : M S P K O Unit := count fun m => { m with eventsProcessed := m.eventsProcessed + n }

def sent (n : Nat) : M S P K O Unit := count fun m => { m with outputsSent := m.outputsSent + n }

/-- mirrors pipeline.rs:471-491 -/
def linearTurn (kind : SourceKind) (_ : Unit) : M S P K O (Option Unit) := do
  let events ← nextBatch env 0
  if events.isEmpty then
    return if kind = .pull then none else some ()
  else
    received events.length
    let outputs ← processBatch env events
    processed events.length
    let delivered ← writeBatch env 0 outputs
    sent delivered.length
    return some ()

def writeAll (sinks : Nat) (outputs : List O) : M S P K O Unit := do
  (List.range (sinks - 1)).forM fun j => do
    let _ ← writeBatch env j outputs
  let _ ← writeBatch env (sinks - 1) outputs

/-- mirrors dag.rs:195-222 -/
def fanOutTurn (sinks : Nat) (_ : Unit) : M S P K O (Option Unit) := do
  let events ← nextBatch env 0
  if events.isEmpty then
    return none
  else
    received events.length
    let outputs ← processBatch env events
    processed events.length
    writeAll env sinks outputs
    sent outputs.length
    return some ()

def pollSource (sinks : Nat) (s : (Nat → Bool) × Bool) (i : Nat) : M S P K O ((Nat → Bool) × Bool) := do
  if s.1 i then
    return s
  else
    let events ← nextBatch env i
    if events.isEmpty then
      return (update s.1 i true, s.2)
    else
      received events.length
      let outputs ← processBatch env events
      processed events.length
      writeAll env sinks outputs
      sent outputs.length
      return (s.1, true)

/-- mirrors dag.rs:252-283, 524-561 -/
def fanInTurn (sources sinks : Nat) (exhausted : Nat → Bool) : M S P K O (Option (Nat → Bool)) := do
  let s ← (List.range sources).foldlM (pollSource env sinks) (exhausted, false)
  return if s.2 then some s.1 else none

def flushAll (sinks : Nat) : M S P K O Unit := (List.range sinks).forM (flush env)

end Calls

inductive Prog (L : Type)
  | going (vars : L)
  | ended (r : Except String Unit)

variable {L : Type}

def close : EStateM.Result String (St S P K O) Unit → Prog L × St S P K O
  | .ok _ st => (.ended (.ok ()), st)
  | .error e st => (.ended (.error e), st)

def advance (turn : L → M S P K O (Option L)) (finish : M S P K O Unit) (stop : Bool) :
    Prog L × St S P K O → Prog L × St S P K O
  | (.ended r, st) => (.ended r, st)
  | (.going vars, st) =>
    if stop then close (finish st)
    else match turn vars st with
      | .ok (some vars) st => (.going vars, st)
      | .ok none st => close (finish st)
      | .error e st => (.ended (.error e), st)

def after (turn : L → M S P K O (Option L)) (finish : M S P K O Unit) (shutdown : Nat → Bool)
    (start : Prog L × St S P K O) : Nat → Prog L × St S P K O
  | 0 => start
  | n + 1 => advance turn finish (shutdown n) (after turn finish shutdown start n)

section Runners

variable (env : Env S P K E O U) (shutdown : Nat → Bool) (st₀ : St S P K O)

def run : Nat → Prog Unit × St S P K O :=
  after (linearTurn env (env.sourceKind (st₀.source 0))) (flush env 0) shutdown (.going (), st₀)

/-- mirrors dag.rs:176-228 -/
def runFanOut (sinks : Nat) : Nat → Prog Unit × St S P K O :=
  after (fanOutTurn env sinks) (flushAll env sinks) shutdown
    (if sinks = 0 then .ended (.error "fan-out requires at least one sink") else .going (), st₀)

/-- mirrors dag.rs:234-287 -/
def runFanIn (sources : Nat) : Nat → Prog (Nat → Bool) × St S P K O :=
  after (fanInTurn env sources 1) (flush env 0) shutdown
    (if sources = 0 then .ended (.error "fan-in requires at least one source") else .going fun _ => false,
      st₀)

/-- mirrors dag.rs:503-567 -/
def runFanInFanOut (sources sinks : Nat) : Nat → Prog (Nat → Bool) × St S P K O :=
  after (fanInTurn env sources sinks) (flushAll env sinks) shutdown (if sources = 0 ∨ sinks = 0 then
      .ended (.error "fan-in-fan-out requires at least one source and one sink")
    else .going fun _ => false, st₀)

/-- mirrors dag.rs:430-439 -/
inductive Topology
  | linear
  | fanIn
  | fanOut
  | fanInFanOut

/-- mirrors dag.rs:441-451 -/
def Topology.detect (sources sinks : Nat) : Topology :=
  match decide (sources > 1), decide (sinks > 1) with
  | false, false => .linear
  | true, false => .fanIn
  | false, true => .fanOut
  | true, true => .fanInFanOut

def outcome : Prog L × St S P K O → Option (Except String Unit) × St S P K O
  | (.going _, st) => (none, st)
  | (.ended r, st) => (some r, st)

/-- mirrors dag.rs:459-499 -/
def runTopology (sources sinks n : Nat) : Option (Except String Unit) × St S P K O :=
  match Topology.detect sources sinks with
  | .linear =>
    if sources = 0 then (some (.error "pipeline requires at least one source"), st₀)
    else if sinks = 0 then (some (.error "pipeline requires at least one sink"), st₀)
    else outcome (run env shutdown st₀ n)
  | .fanIn =>
    if sinks = 0 then (some (.error "fan-in requires at least one sink"), st₀)
    else outcome (runFanIn env shutdown st₀ sources n)
  | .fanOut =>
    if sources = 0 then (some (.error "fan-out requires at least one source"), st₀)
    else outcome (runFanOut env shutdown st₀ sinks n)
  | .fanInFanOut => outcome (runFanInFanOut env shutdown st₀ sources sinks n)

end Runners

section Turn

variable (env : Env S P K E O U)

def Reads (st : St S P K O) (events : List E) : Prop := (env.nextBatch (st.source 0)).1 = .ok events

def CountsAgree (st : St S P K O) : Prop := ∀ events outs delivered, Reads env st events → events ≠ [] →
    (env.processBatch st.processor events).1 = .ok outs →
    (env.writeBatch (st.sink 0) outs).1 = .ok delivered → delivered.length = outs.length

def observed (st : St S P K O) : Metrics × List (List O) := (st.metrics, st.writes 0)

def turnBy (tally : List O → List U → Nat) (kind : SourceKind) : M S P K O (Option Unit) := do
  let events ← nextBatch env 0
  if events.isEmpty then
    return if kind = .pull then none else some ()
  else
    received events.length
    let outputs ← processBatch env events
    processed events.length
    let delivered ← writeBatch env 0 outputs
    sent (tally outputs delivered)
    return some ()

def asRun : SourceKind → M S P K O (Option Unit) := turnBy env fun _ delivered => delivered.length

def asFan : SourceKind → M S P K O (Option Unit) := turnBy env fun outs _ => outs.length

end Turn

variable {env : Env S P K E O U} {kind : SourceKind} {st st' : St S P K O}

lemma flushAll_one : flushAll env 1 = (flush env 0 : M S P K O Unit) := by simp [flushAll]

lemma fanOutTurn_one (u : Unit) : fanOutTurn env 1 u = (asFan env .pull : M S P K O _) := by
  simp [fanOutTurn, asFan, turnBy, writeAll]

lemma fanInTurn_one {exhausted : Nat → Bool} (h : exhausted 0 = false) :
    fanInTurn env 1 1 exhausted = (do return (← asFan env .pull).map fun _ => exhausted : M S P K O _) := by
  simp only [fanInTurn, pollSource, range_one, foldlM_cons, foldlM_nil, h, asFan, turnBy,
    writeAll, Nat.sub_self, range_zero, pure_bind, bind_assoc, bind_pure, Bool.false_eq_true,
    if_false]
  congr 1; funext events; split <;> simp

def left {α : Type} : EStateM.Result String (St S P K O) α → St S P K O
  | .ok _ st | .error _ st => st

lemma observed_flush : observed (left (flush env 0 st)) = observed st := by
  simp only [flush, answer]; cases (env.flush (st.sink 0)).1 <;> rfl

section TurnBy

variable {tally : List O → List U → Nat}

lemma turnBy_run : turnBy env tally kind st =
    let r := env.nextBatch (st.source 0)
    let st₁ : St S P K O := { st with source := update st.source 0 r.2 }
    match r.1 with
    | .error e => .error e st₁
    | .ok [] => .ok (if kind = .pull then none else some ()) st₁
    | .ok (e :: es) =>
      let st₂ := { st₁ with metrics.eventsReceived := st.metrics.eventsReceived + (e :: es).length }
      let p := env.processBatch st.processor (e :: es)
      match p.1 with
      | .error e => .error e { st₂ with processor := p.2 }
      | .ok outs =>
        let w := env.writeBatch (st.sink 0) outs
        let st₃ := { st₂ with
          processor := p.2
          metrics.eventsProcessed := st.metrics.eventsProcessed + (e :: es).length
          sink := update st.sink 0 w.2
          writes := update st.writes 0 (st.writes 0 ++ [outs]) }
        match w.1 with
        | .error e => .error e st₃
        | .ok delivered =>
          .ok (some ()) { st₃ with metrics.outputsSent := st.metrics.outputsSent + tally outs delivered
            } := by
  simp only [turnBy, nextBatch, bind, EStateM.bind, answer]
  rcases h : (env.nextBatch (st.source 0)).1 with e | _ | ⟨e, es⟩
  · rfl
  · rfl
  · simp only [received, count, processBatch, answer, isEmpty_cons, Bool.false_eq_true, if_false,
      EStateM.bind]
    cases (env.processBatch st.processor (e :: es)).1 with
    | error => rfl
    | ok outs =>
      simp only [processed, count, writeBatch, answer]
      cases (env.writeBatch (st.sink 0) outs).1 <;> rfl

lemma observed_turnBy (h : ∀ events, Reads env st events → events = []) :
    observed (left (turnBy env tally kind st)) = observed st := by
  unfold Reads at h; simp only [turnBy_run]
  rcases hr : (env.nextBatch (st.source 0)).1 with e | _ | ⟨e, es⟩
  · rfl
  · rfl
  · cases h _ hr

variable (tally kind) in
lemma received_turnBy {events : List E} (h : Reads env st events) :
    (left (turnBy env tally kind st)).metrics.eventsReceived = st.metrics.eventsReceived + events.length := by
  cases events with
  | nil => simp only [turnBy_run, show _ = _ from h]; rfl
  | cons =>
    simp only [turnBy_run, show _ = _ from h]; split
    · rfl
    · split <;> rfl

variable (tally kind) in
lemma turnBy_empty (h : Reads env st []) :
    ∃ st', turnBy env tally kind st = .ok (if kind = .pull then none else some ()) st' ∧
      observed st' = observed st := by
  simp only [turnBy_run, show _ = _ from h]; exact ⟨_, rfl, rfl⟩

lemma turnBy_kind (h : ¬ Reads env st []) (kind' : SourceKind) :
    turnBy env tally kind st = turnBy env tally kind' st := by
  unfold Reads at h; simp only [turnBy_run]
  rcases hr : (env.nextBatch (st.source 0)).1 with e | _ | ⟨e, es⟩
  · rfl
  · exact absurd hr h
  · rfl

end TurnBy

variable (kind) in
lemma asFan_eq (h : CountsAgree env st) : asFan env kind st = asRun env kind st := by
  unfold CountsAgree Reads at h; simp only [asFan, asRun, turnBy_run]
  rcases hr : (env.nextBatch (st.source 0)).1 with e | _ | ⟨e, es⟩
  · rfl
  · rfl
  grind

variable (kind) in
lemma asFan_ne (h : ¬ CountsAgree env st) : ∃ st₁ st₂, asFan env .pull st = .ok (some ()) st₁ ∧
    asRun env kind st = .ok (some ()) st₂ ∧ observed st₁ ≠ observed st₂ := by
  simp only [CountsAgree, not_forall] at h
  obtain ⟨events, outs, delivered, hr, hne, hp, hw, hl⟩ := h
  obtain ⟨e, es, rfl⟩ := exists_cons_of_ne_nil hne
  simp only [asFan, asRun, turnBy_run, show _ = _ from hr, hp, hw]; grind [observed]

section Runs

variable {turn : L → M S P K O (Option L)} {finish : M S P K O Unit} {stop : Bool}

lemma observed_close : observed (close r : Prog L × St S P K O).2 = observed (left r) := by
  cases r <;> rfl

lemma observed_advance {vars : L} (hf : ∀ st, observed (left (finish st)) = observed st) :
    observed (advance turn finish false (.going vars, s)).2 = observed (left (turn vars s)) := by
  simp only [advance, Bool.false_eq_true, if_false]
  rcases turn vars s with ⟨_ | _, st'⟩ | ⟨e, st'⟩
  · exact observed_close.trans (hf st')
  · rfl
  · rfl

lemma observed_stop (hf : ∀ st, observed (left (finish st)) = observed st) :
    observed (advance turn finish true p).2 = observed p.2 := by
  rcases p with ⟨_ | _, st⟩
  · exact observed_close.trans (hf st)
  · rfl

end Runs

variable (env) (shutdown : Nat → Bool) (st₀ : St S P K O)

def Agree {L L' : Type} (r : Nat → Prog L × St S P K O) (r' : Nat → Prog L' × St S P K O) : Prop :=
  ∀ n, observed (r n).2 = observed (r' n).2

def Aligned : Prop := ∀ n st, run env shutdown st₀ n = (.going (), st) → shutdown n = false →
    CountsAgree env st ∧ ∀ events, Reads env st events → events ≠ [] →
      ∀ m < n, ∀ st', run env shutdown st₀ m = (.going (), st') → ¬ Reads env st' []

lemma run_succ (n : Nat) : run env shutdown st₀ (n + 1) =
    advance (fun _ => asRun env (env.sourceKind (st₀.source 0))) (flush env 0) (shutdown n)
      (run env shutdown st₀ n) := rfl

lemma runFanOut_succ (n : Nat) : runFanOut env shutdown st₀ 1 (n + 1) =
    advance (fun _ => asFan env .pull) (flush env 0) (shutdown n) (runFanOut env shutdown st₀ 1 n) := by
  rw [← flushAll_one, ← funext fanOutTurn_one]; rfl

variable {env shutdown st₀}

def Stage (env : Env S P K E O U) (shutdown : Nat → Bool) (st₀ : St S P K O) (n : Nat) : Prop :=
  (runFanOut env shutdown st₀ 1 n = run env shutdown st₀ n ∧ ∀ st, run env shutdown st₀ n = (.going (), st) →
      ∀ m < n, ∀ st', run env shutdown st₀ m = (.going (), st') → ¬ Reads env st' []) ∨
  ((∃ r st, runFanOut env shutdown st₀ 1 n = (.ended r, st)) ∧
    ∃ m < n, ∃ st', run env shutdown st₀ m = (.going (), st') ∧ Reads env st' [])

lemma advance_stop (turn : L → M S P K O (Option L)) (finish : M S P K O Unit) (vars : L) (st : St S P K O) :
    ∃ r st', advance turn finish true (.going vars, st) = (.ended r, st') := by
  simp only [advance, if_true]
  cases finish st with
  | ok _ => exact ⟨_, _, rfl⟩
  | error => exact ⟨_, _, rfl⟩

lemma Stage.succ (h : Stage env shutdown st₀ n)
    (hc : ∀ st, run env shutdown st₀ n = (.going (), st) → shutdown n = false →
      runFanOut env shutdown st₀ 1 n = run env shutdown st₀ n → CountsAgree env st) :
    Stage env shutdown st₀ (n + 1) := by
  rcases h with ⟨heq, hb⟩ | ⟨⟨r, st, hen⟩, m, hm, hq⟩
  · have hr := run_succ env shutdown st₀ n
    have hf := runFanOut_succ env shutdown st₀ n
    rw [heq] at hf
    rcases hn : run env shutdown st₀ n with ⟨⟨⟨⟩⟩ | r, st⟩ <;> rw [hn] at hr hf
    · cases hs : shutdown n <;> rw [hs] at hr hf
      · have ht := asFan_eq .pull (hc st hn hs heq); by_cases he : Reads env st []
        · -- the fan-out runner ends here; `run` ends with it for a pull source
          obtain ⟨st', hst', -⟩ := turnBy_empty .pull (fun outs _ => outs.length) he
          have hf' : ∃ r st, runFanOut env shutdown st₀ 1 (n + 1) = (.ended r, st) := by
            rw [hf]; simp only [advance, Bool.false_eq_true, if_false, asFan, hst', if_true]
            cases flush env 0 st' with
            | ok _ => exact ⟨_, _, rfl⟩
            | error => exact ⟨_, _, rfl⟩
          exact .inr ⟨hf', n, by omega, st, hn, he⟩
        · refine .inl ⟨?_, fun st₁ _ m hm st' hm' => ?_⟩
          · rw [hf, hr]; simp only [advance, ht, asRun, turnBy_kind he .pull]
          grind
      · refine .inl ⟨by rw [hf, hr]; rfl, fun st₁ h₁ => ?_⟩; rw [hr] at h₁
        obtain ⟨r, st', hs'⟩ := advance_stop (fun _ => asRun env (env.sourceKind (st₀.source 0)))
          (flush env 0) () st
        grind
    · refine .inl ⟨by rw [hf, hr]; rfl, fun st₁ h₁ => ?_⟩; rw [hr] at h₁; cases h₁
  · exact .inr ⟨⟨r, st, by rw [runFanOut_succ, hen]; rfl⟩, m, by omega, hq⟩

lemma Stage.zero : Stage env shutdown st₀ 0 := .inl ⟨rfl, fun _ _ _ hm => absurd hm (Nat.not_lt_zero _)⟩

lemma observed_asFan (h : CountsAgree env st) :
    observed (left (asFan env .pull st)) = observed (left (asRun env kind st)) := by
  rw [asFan_eq _ h]; by_cases hem : Reads env st []
  · have hq : ∀ events, Reads env st events → events = [] := fun events he => by simp_all [Reads]
    exact (observed_turnBy hq).trans (observed_turnBy hq).symm
  · rw [asRun, turnBy_kind hem kind]

lemma counts_of_agree (h : Agree (runFanOut env shutdown st₀ 1) (run env shutdown st₀))
    (hn : run env shutdown st₀ n = (.going (), st)) (hs : shutdown n = false)
    (heq : runFanOut env shutdown st₀ 1 n = run env shutdown st₀ n) : CountsAgree env st := by
  by_contra hc
  obtain ⟨st₁, st₂, h₁, h₂, hne⟩ := asFan_ne (env.sourceKind (st₀.source 0)) hc
  have := h (n + 1)
  rw [run_succ, runFanOut_succ, heq, hn, hs, observed_advance fun _ => observed_flush,
    observed_advance fun _ => observed_flush, h₁, h₂] at this
  exact hne this

lemma agree_fanOut_iff :
    Agree (runFanOut env shutdown st₀ 1) (run env shutdown st₀) ↔ Aligned env shutdown st₀ := by
  constructor
  · intro h n st hn hs
    have hst : Stage env shutdown st₀ n := by
      clear hn hs
      induction n with
      | zero => exact .zero
      | succ n ih => exact ih.succ fun st hn hs heq => counts_of_agree h hn hs heq
    rcases hst with ⟨heq, hb⟩ | ⟨⟨r, stf, he⟩, -⟩
    · exact ⟨counts_of_agree h hn hs heq, fun _ _ _ => hb st hn⟩
    · -- the fan-out runner has ended: events now would be counted by `run` alone
      have hno : ∀ events, Reads env st events → events = [] := by
        intro events hr; have h₀ := h n; have h₁ := h (n + 1)
        rw [run_succ, runFanOut_succ, he, hn, hs, observed_advance fun _ => observed_flush] at h₁
        rw [he, hn] at h₀; have := congrArg (fun x => x.1.eventsReceived) (h₀.symm.trans h₁)
        have hl := received_turnBy (env.sourceKind (st₀.source 0)) (fun _ d => d.length) hr
        simp_all [observed, asRun]
      exact ⟨fun events _ _ hr hne => absurd (hno events hr) hne, fun events hr hne =>
        absurd (hno events hr) hne⟩
  · intro h n
    suffices hboth : Stage env shutdown st₀ n ∧
        observed (runFanOut env shutdown st₀ 1 n).2 = observed (run env shutdown st₀ n).2 from hboth.2
    induction n with
    | zero => exact ⟨.zero, rfl⟩
    | succ n ih =>
      refine ⟨ih.1.succ fun st hn hs _ => (h n st hn hs).1, ?_⟩
      rw [run_succ, runFanOut_succ]; have ho := ih.2; cases hs : shutdown n
      · rcases hn : run env shutdown st₀ n with ⟨⟨⟨⟩⟩ | r, st⟩ <;> rw [hn] at ho
        · rw [observed_advance (s := st) fun _ => observed_flush]
          rcases ih.1 with ⟨heq, -⟩ | ⟨⟨r, stf, he⟩, m, hm, st', hm', hq⟩
          · rw [heq, hn, observed_advance fun _ => observed_flush]
            exact observed_asFan (h n st hn hs).1
          · rw [he] at ho ⊢; refine ho.trans (observed_turnBy fun events hr => ?_).symm
            by_contra hne; exact (h n st hn hs).2 events hr hne m hm st' hm' hq
        · rcases ih.1 with ⟨heq, -⟩ | ⟨⟨r, stf, he⟩, -⟩
          · rw [heq, hn]; rfl
          · rw [he] at ho ⊢; exact ho
      simp_all [observed_stop fun _ => observed_flush]

variable (env shutdown st₀) in
lemma runFanIn_one (n : Nat) : (∃ exhausted : Nat → Bool, exhausted 0 = false ∧ ∃ st,
      runFanIn env shutdown st₀ 1 n = (.going exhausted, st) ∧
      runFanOut env shutdown st₀ 1 n = (.going (), st)) ∨
    ∃ r st, runFanIn env shutdown st₀ 1 n = (.ended r, st) ∧
    runFanOut env shutdown st₀ 1 n = (.ended r, st) := by
  induction n with
  | zero => exact .inl ⟨_, rfl, _, rfl, rfl⟩
  | succ n ih =>
    rw [runFanOut_succ, show runFanIn env shutdown st₀ 1 (n + 1) = advance (fanInTurn env 1 1) (flush env 0)
      (shutdown n) (runFanIn env shutdown st₀ 1 n) from rfl]
    rcases ih with ⟨exhausted, hex, st, h₁, h₂⟩ | ⟨r, st, h₁, h₂⟩ <;> rw [h₁, h₂]
    · cases shutdown n
      · simp only [advance, Bool.false_eq_true, if_false, fanInTurn_one hex, bind, EStateM.bind]
        rcases asFan env .pull st with ⟨_ | _, st'⟩ | ⟨e, st'⟩
        · right; simp only [pure, EStateM.pure, Option.map_none]
          cases flush env 0 st' with
          | ok _ => exact ⟨_, _, rfl, rfl⟩
          | error => exact ⟨_, _, rfl, rfl⟩
        · exact .inl ⟨exhausted, hex, st', rfl, rfl⟩
        simp
      · right; simp only [advance, if_true]
        cases flush env 0 st with
        | ok _ => exact ⟨_, _, rfl, rfl⟩
        | error => exact ⟨_, _, rfl, rfl⟩
    · exact .inr ⟨r, st, rfl, rfl⟩

theorem runners_agree_iff (env : Env S P K E O U) (shutdown : Nat → Bool) (st₀ : St S P K O) :
    (∀ n, runTopology env shutdown st₀ 1 1 n = outcome (run env shutdown st₀ n)) ∧
    (Agree (runFanOut env shutdown st₀ 1) (run env shutdown st₀) ↔ Aligned env shutdown st₀) ∧
    (Agree (runFanIn env shutdown st₀ 1) (run env shutdown st₀) ↔ Aligned env shutdown st₀) := by
  refine ⟨fun n => rfl, agree_fanOut_iff, ?_⟩; rw [← agree_fanOut_iff]
  refine forall_congr' fun n => ?_
  rcases runFanIn_one env shutdown st₀ n with
    ⟨_, -, st, h₁, h₂⟩ | ⟨r, st, h₁, h₂⟩ <;> rw [h₁, h₂]

def quietThenOne : Env (List (List Nat)) Unit Unit Nat Nat Nat where
  sourceKind _ := .push
  nextBatch
    | [] => (.ok [], [])
    | batch :: rest => (.ok batch, rest)
  processBatch _ events := (.ok events, ())
  writeBatch _ outs := (.ok outs, ())
  flush _ := (.ok (), ())

theorem push_source_cut_off :
    let st₀ : St (List (List Nat)) Unit Unit Nat :=
      { source := fun _ => [[], [7]], processor := (), sink := fun _ => () }
    (run quietThenOne (fun _ => false) st₀ 2).2.writes 0 = [[7]] ∧
    (runFanOut quietThenOne (fun _ => false) st₀ 1 2).2.writes 0 = [] ∧
    (runFanIn quietThenOne (fun _ => false) st₀ 1 2).2.writes 0 = [] ∧
    ¬ Agree (runFanOut quietThenOne (fun _ => false) st₀ 1) (run quietThenOne (fun _ => false) st₀) ∧
    ¬ Agree (runFanIn quietThenOne (fun _ => false) st₀ 1) (run quietThenOne (fun _ => false) st₀) := by
  refine ⟨rfl, rfl, rfl, fun h => ?_, fun h => ?_⟩
  · exact absurd (congrArg Prod.snd (h 2)) (by simp [observed]; decide)
  · exact absurd (congrArg Prod.snd (h 2)) (by simp [observed]; decide)

end Aeon.L3.TopologyRunners
