import Aeon.L3Pipeline.Managed

/-!
# The managed runner against the plain one

`run_buffered_managed` is documented as "identical to `run_buffered`"
(`crates/aeon-engine/src/pipeline.rs:2304-2315`); its source loop has neither the capacity check nor
the gate.

* `managed_refines_plain`: without plan, backpressure and closed gate the runs are the same;
* `managed_ignores_guards`: otherwise they are not.
-/
namespace Aeon.L3.ManagedRefines

open Option Aeon.Core Aeon.Types Aeon.L2.Checkpoint Aeon.L3.Gate Aeon.L3.SinkTask Aeon.L3.Runner
    Aeon.L3.Managed

variable {P : Type}

structure Guarded (plan : Option RecoveryPlan) (s : Pipe P) : Prop where
  plan : s.pulls ≠ [] → s.plan = plan
  pulls : ∀ x ∈ s.pulls, x.1 = false ∧ x.2.all (· = .opened)

def uncontrolled (p : P) (s : Pipe P) : St P := { pipe := s, current := p }

def Unhindered (s : Pipe P) : Runner.Lbl → Prop
  | .src => (s.src = .top → s.engaged = false) ∧
      (s.src = .check → s.engaged = false ∧ s.gate.all (· = .opened))
  | _ => True

def UnhinderedRun (s : St P) : Managed.Lbl P → Prop
  | .run l => Unhindered s.pipe l
  | _ => True

structure Common (s : Pipe P) : Prop where
  src : s.src ≠ .throttled
  proc : s.proc ≠ .drained ∧ s.proc ≠ .waiting ∧ s.proc ≠ .taking

section Steps

variable (cfg : Cfg) (p : P) {s s' : Pipe P}

lemma srcStep_eq (h : Common s) (hf : Unhindered s .src) :
    (uncontrolled p s).srcStep cfg = (s.srcStep cfg).map (uncontrolled p) := by
  cases hs : s.src with
  | top => cases hd : s.shutdown <;> simp [St.srcStep, Pipe.srcStep, uncontrolled, hs, hd, hf.1 hs]
  | throttled => exact absurd hs h.src
  | check => simp [St.srcStep, Pipe.srcStep, uncontrolled, hs, (hf.2 hs).2]
  | pushing | fetching | finished | failed => simp [St.srcStep, Pipe.srcStep, uncontrolled, hs]

lemma procStep_eq (h : Common s) (locked : Bool) :
    (uncontrolled p s).procStep cfg locked = (s.procStep cfg).map (uncontrolled p) := by
  cases hp : s.proc with
  | top => cases hd : s.shutdown <;> simp [St.procStep, Pipe.procStep, uncontrolled, hp, hd, St.takeUpgrade]
  | drained => exact absurd hp h.proc.1
  | waiting => exact absurd hp h.proc.2.1
  | taking => exact absurd hp h.proc.2.2
  | _ => simp [St.procStep, Pipe.procStep, uncontrolled, hp]

lemma step_eq (h : Common s) (hf : Unhindered s l) :
    (uncontrolled p s).step cfg (.run l) = (s.step cfg p l).map (uncontrolled p) := by
  cases l with
  | shutdown => rfl
  | gate => simp [St.step, St.runStep, Pipe.step, uncontrolled, Function.comp_def]
  | pressure => rfl
  | src => exact srcStep_eq cfg p h hf
  | batch => by_cases hs : s.src = .fetching <;> simp [St.step, St.runStep, Pipe.step, uncontrolled, hs]
  | proc locked => exact procStep_eq cfg p h locked
  | processed =>
    cases hpr : s.proc <;> simp [St.step, St.runStep, Pipe.step, uncontrolled, hpr, St.onProcessed]
  | sink => cases hp : s.sink.phase <;> simp only [St.step, St.runStep, Pipe.step, uncontrolled, hp] <;> rfl
  | sinkTask => simp [St.step, St.runStep, Pipe.step, uncontrolled, Function.comp_def]

variable {cfg p}

structure Kept (s : Pipe P) : Prop where
  common : Common s
  plan : s.plan = none
  pulls : ∀ x ∈ s.pulls, x.1 = false ∧ x.2.all (· = .opened)

lemma Kept.srcStep (h : Kept s) (hf : Unhindered s .src) (hs : s.srcStep cfg = some s') : Kept s' := by
  unfold Pipe.srcStep at hs; split at hs
  · rename_i hsr
    cases hs; refine ⟨⟨?_, h.common.proc⟩, h.plan, h.pulls⟩; rw [hf.1 hsr]
    grind
  · rename_i hsr
    exact absurd hsr h.common.src
  · rename_i hsr
    obtain ⟨he, hg⟩ := hf.2 hsr; rw [if_pos hg] at hs; cases hs
    refine ⟨⟨nofun, h.common.proc⟩, h.plan, fun x hx => ?_⟩
    rcases List.mem_append.mp hx with hx | hx
    · exact h.pulls x hx
    grind
  · cases hs; unfold Pipe.pushSrc; split_ifs
    · exact ⟨⟨nofun, h.common.proc⟩, h.plan, h.pulls⟩
    · exact h
  · cases hs

lemma Kept.procStep (h : Kept s) (hs : s.procStep cfg = some s') : Kept s' := by
  have hse : ∀ {pc : ProcPc}, pc ≠ .drained ∧ pc ≠ .waiting ∧ pc ≠ .taking → Kept { s with proc := pc } :=
    fun hpc => ⟨⟨h.common.src, hpc⟩, h.plan, h.pulls⟩
  unfold Pipe.procStep at hs; split at hs
  · grind
  · cases hs; unfold Pipe.popSrc; split
    · grind
    · exact ⟨⟨h.common.src, nofun, nofun, nofun⟩, h.plan, h.pulls⟩
  · cases hs; unfold Pipe.pushSink; split_ifs
    · exact ⟨⟨h.common.src, nofun, nofun, nofun⟩, h.plan, h.pulls⟩
    · exact h
  · cases hs; refine hse ?_; grind
  · grind
  · cases hs

lemma Kept.step (h : Kept s) (hf : Unhindered s l) (hs : s.step cfg p l = some s') : Kept s' := by
  cases l with
  | shutdown => cases hs; exact ⟨⟨h.common.src, h.common.proc⟩, h.plan, h.pulls⟩
  | gate =>
    obtain ⟨_, -, rfl⟩ := map_eq_some_iff.mp hs
    exact ⟨⟨h.common.src, h.common.proc⟩, h.plan, h.pulls⟩
  | pressure => cases hs; exact ⟨⟨h.common.src, h.common.proc⟩, h.plan, h.pulls⟩
  | src => exact h.srcStep hf hs
  | batch r =>
    simp only [Pipe.step] at hs; split_ifs at hs; cases hs
    match r with
    | .error e => exact ⟨⟨nofun, h.common.proc⟩, h.plan, h.pulls⟩
    | .ok [] =>
      refine ⟨⟨?_, h.common.proc⟩, h.plan, h.pulls⟩; simp only [Pipe.onBatch]
      split_ifs <;> exact nofun
    | .ok (_ :: _) => exact ⟨⟨nofun, h.common.proc⟩, h.plan, h.pulls⟩
  | proc => exact h.procStep hs
  | processed baseline =>
    simp only [Pipe.step] at hs; split at hs <;> cases hs
    cases baseline <;> exact ⟨⟨h.common.src, nofun, nofun, nofun⟩, h.plan, h.pulls⟩
  | sink =>
    simp only [Pipe.step] at hs; split at hs
    · cases hs; exact ⟨⟨h.common.src, h.common.proc⟩, h.plan, h.pulls⟩
    · obtain ⟨k, ring, rfl, -⟩ := Pipe.onSink_eq cfg hs
      exact ⟨⟨h.common.src, h.common.proc⟩, h.plan, h.pulls⟩
  | sinkTask =>
    obtain ⟨k, -, rfl⟩ := map_eq_some_iff.mp hs
    exact ⟨⟨h.common.src, h.common.proc⟩, h.plan, h.pulls⟩

end Steps

theorem managed_refines_plain (B : Bincode) (d : Disk) (up : Bool) (writer : Option CheckpointPersist)
    (hpl : loadRecoveryPlan B d up writer = none) (cfg : Cfg) {m₀ : St P} (hi : Initial cfg m₀)
    (ls : List Runner.Lbl) (m : St P) :
    ((machine cfg).restrict UnhinderedRun).Run m₀ (ls.map .run) m ↔
      ∃ s, ((plain cfg (loadRecoveryPlan B d up writer) m₀.current).restrict Unhindered).Run m₀.pipe ls s ∧
        m = { m₀ with pipe := s } ∧ Guarded (loadRecoveryPlan B d up writer) s := by
  rw [hpl]
  have hsa : m₀ = uncontrolled m₀.current m₀.pipe := by
    obtain ⟨pipe, ctl, current, green, canary⟩ := m₀; obtain ⟨-, rfl, rfl, rfl⟩ := hi; rfl
  have hk : Kept m₀.pipe := by
    obtain ⟨⟨hsr, hpr, -, -⟩, -, hn, -, -, hp⟩ := hi.pipe
    refine ⟨⟨by rw [hsr]; exact nofun, by rw [hpr]; exact ⟨nofun, nofun, nofun⟩⟩, hn, ?_⟩
    rw [hp]; exact nofun
  generalize m₀.current = p at hsa ⊢; generalize m₀.pipe = s₀ at hsa hk ⊢; subst hsa
  clear hi
  induction ls generalizing s₀ with
  | nil =>
    constructor
    · intro hr; cases hr; exact ⟨s₀, .nil _, rfl, fun _ => hk.plan, hk.pulls⟩
    · rintro ⟨s, hr, rfl, -⟩; cases hr; exact .nil _
  | cons l ls ih =>
    constructor
    · intro hr
      cases hr with
      | cons hst hre =>
        obtain ⟨hf, hst⟩ := hst; have heq := step_eq cfg p hk.common hf
        rw [show (uncontrolled p s₀).step cfg (.run l) = some _ from hst] at heq
        obtain ⟨s₁, hs₁, rfl⟩ := map_eq_some_iff.mp heq.symm
        obtain ⟨s, hs, hm, hg⟩ := (ih s₁ (hk.step hf hs₁)).mp hre
        exact ⟨s, .cons ⟨hf, hs₁⟩ hs, hm, hg⟩
    · rintro ⟨s, hr, rfl, hg⟩
      cases hr with
      | cons hst hre =>
        rename_i s₁
        obtain ⟨hf, hst⟩ := hst; have heq := step_eq cfg p hk.common hf
        rw [show s₀.step cfg p l = some s₁ from hst] at heq
        exact .cons ⟨hf, heq⟩ ((ih s₁ (hk.step hf hst)).mpr ⟨s, hre, rfl, hg⟩)

def guarded (engaged : Bool) (gate : Option GateState) : St Nat := idlePipeline .push none engaged gate

def disk : Disk := ⟨fun _ => none, fun _ => [(3, plainBincode.serialize ⟨3, 0, ∅, [], 5, 0, ∅⟩)]⟩

def store : Option CheckpointPersist := some (.l3 ⟨0, 4, none⟩)

def turn : List Runner.Lbl := [.src, .src]

lemma turn_pulls (engaged : Bool) (gate : Option GateState) :
    ∃ m, (machine perEventCfg).Run (guarded engaged gate) (turn.map .run) m ∧
    m.pipe.pulls = [(engaged, gate)] ∧
      m.pipe.plan = none :=
  ⟨_, .cons rfl (.cons rfl (.nil _)), rfl, rfl⟩

theorem managed_ignores_guards : (loadRecoveryPlan plainBincode disk true store = some ⟨∅, 0, 3⟩ ∧
      ∃ m, (machine perEventCfg).Run (guarded false none) (turn.map .run) m ∧
        ¬ Guarded (loadRecoveryPlan plainBincode disk true store) m.pipe) ∧
    (∃ m, (machine perEventCfg).Run (guarded true none) (turn.map .run) m ∧ ∀ plan, ¬ Guarded plan m.pipe) ∧
    ∃ m, (machine perEventCfg).Run (guarded false (some .frozen)) (turn.map .run) m ∧
    ∀ plan, ¬ Guarded plan m.pipe := by
  have hp : loadRecoveryPlan plainBincode disk true store = some ⟨∅, 0, 3⟩ := by decide +kernel
  obtain ⟨m₁, hr₁, hp₁, hn₁⟩ := turn_pulls false none
  obtain ⟨m₂, hr₂, hp₂, -⟩ := turn_pulls true none
  obtain ⟨m₃, hr₃, hp₃, -⟩ := turn_pulls false (some .frozen)
  refine ⟨⟨hp, m₁, hr₁, fun hg => ?_⟩, ⟨m₂, hr₂, fun plan hg => ?_⟩, m₃, hr₃, fun plan hg => ?_⟩
  · have hgi := hg.plan (by rw [hp₁]; exact nofun); grind
  · cases (hg.pulls (true, none) (by rw [hp₂]; exact List.mem_singleton_self _)).1
  · cases (hg.pulls (false, some .frozen) (by rw [hp₃]; exact List.mem_singleton_self _)).2

def eventOutput : Output := Output.withEventIdentity { payload := [] } (.plain 7 [])

def openTurn : List Runner.Lbl :=
  [.src, .src, .batch (.ok [.plain 7 []]), .src, .proc false, .proc false, .processed (.ok [eventOutput])
    (.ok []),
    .proc false, .sink, .sinkTask (.answer (.ok fun _ => .delivered))]

lemma openTurn_unhindered :
    LTS.Along (fun s => St.step perEventCfg s) UnhinderedRun (guarded false (some .opened))
      (openTurn.map .run) :=
  ⟨⟨fun _ => rfl, nofun⟩, _, rfl, ⟨nofun, fun _ => ⟨rfl, rfl⟩⟩, _, rfl, trivial, _, rfl, ⟨nofun, nofun⟩, _,
    rfl,
    trivial, _, rfl, trivial, _, rfl, trivial, _, rfl, trivial, _, rfl, trivial, _, rfl, trivial, _, rfl,
      trivial⟩

theorem managed_refines_plain_open :
    ∃ m s, ((machine perEventCfg).restrict UnhinderedRun).Run (guarded false (some .opened))
      (openTurn.map .run) m ∧
      ((plain perEventCfg none 0).restrict Unhindered).Run (guarded false (some .opened)).pipe openTurn s ∧
      m.pipe = s ∧ (s.sink.batches, s.sink.task.metrics.outputsSent) = ([[eventOutput]], 1) ∧
      Guarded none s := by
  have h : (LTS.exec (fun s => St.step perEventCfg s) (guarded false (some .opened)) (openTurn.map .run)).map
      (fun m => (m.pipe.sink.batches, m.pipe.sink.task.metrics.outputsSent)) = some ([[eventOutput]], 1) := by
    decide +kernel
  obtain ⟨m, hm, hv⟩ := map_eq_some_iff.mp h
  have hr : ((machine perEventCfg).restrict UnhinderedRun).Run (guarded false (some .opened))
    (openTurn.map .run) m :=
    LTS.run_restrict openTurn_unhindered hm
  obtain ⟨s, hs, rfl, hg⟩ := (managed_refines_plain plainBincode disk true none rfl perEventCfg
    idlePipeline_initial openTurn m).mp hr
  exact ⟨_, s, hr, hs, rfl, hv, hg⟩

end Aeon.L3.ManagedRefines
