import Aeon.L3Pipeline.Installed
import Aeon.L3Pipeline.UpgradeCalls

/-!
# The state of processors across a swap

`transfer_processor_state` (`crates/aeon-engine/src/pipeline.rs:377-416`) at a swap, a cutover and
the end of a canary. The machine is `Managed` with the state of every processor beside it.

* `hand_off_iff`: exactly when a hand-off keeps the state;
* `canary_write_lost`: a key the canary wrote is dropped.
-/
namespace Aeon.L3.StateTransfer

open List Option Function Finmap Aeon.Core Aeon.Types Aeon.L3.Managed
open Aeon.L3.Runner (unorderedCfg)

variable {P : Type}

abbrev Write := Bytes × Option Bytes

abbrev State := HashMap Bytes Bytes

def write (m : State) : Write → State
  | (k, some v) => m.insert k v
  | (k, none) => m.erase k

def lastWrite (ws : List Write) (k : Bytes) : Option (Option Bytes) := ws.reverse.lookup k

lemma lookup_write (m : State) (w : Write) (k : Bytes) :
    (write m w).lookup k = if k = w.1 then w.2 else m.lookup k := by
  obtain ⟨k', _ | v⟩ := w <;> split_ifs with h
  · rw [h]; exact lookup_erase k' m
  · exact lookup_erase_ne h
  · rw [h]; exact lookup_insert m
  · exact lookup_insert_of_ne m h

lemma lastWrite_append (log ws : List Write) (k : Bytes) :
    lastWrite (log ++ ws) k = (lastWrite ws k).or (lastWrite log k) := by
  simp only [lastWrite, reverse_append, lookup_append]

lemma lookup_foldl_write (m : State) (ws : List Write) (k : Bytes) :
    (ws.foldl write m).lookup k = (lastWrite ws k).getD (m.lookup k) := by
  induction ws generalizing m with
  | nil => rfl
  | cons w ws ih =>
    rw [foldl_cons, ih, lookup_write, ← singleton_append, lastWrite_append]
    rcases lastWrite ws k with _ | v
    · obtain ⟨k', v⟩ := w; by_cases hk : k = k'
      · simp [lastWrite, hk]
      · simp [lastWrite, List.lookup_cons, beq_false_of_ne hk, hk]
    · rfl

structure Live (P : Type) where
  task : St P
  state : P → State
  log : P → List Write := fun _ => []

inductive Transfer
  | snapshotFailed (e : String)
  | snapshot (entries : Listing Bytes Bytes) (restored : Except String Unit)

structure Lbl (P : Type) where
  task : Managed.Lbl P
  baseline : List Write := []
  canary : List Write := []
  transfer : Transfer := .snapshot [] (.ok ())

namespace Live

variable [DecidableEq P]

/-- mirrors crates/aeon-wasm/src/processor.rs:262-274 -/
def restoreState (x : Live P) (p : P) (entries : Listing Bytes Bytes) : Live P := { x with
    state := update x.state p (insertAll ∅ (entries.map fun e => (e.1, e.2)))
    log := update x.log p [] }

/-- mirrors pipeline.rs:389-416 -/
def transferProcessorState (x : Live P) (outgoing incoming : P) : Transfer → Option (Live P)
  | .snapshotFailed _ => some x
  | .snapshot entries restored =>
    if ¬ Lists entries (x.state outgoing) then none
    else if entries = [] then some x
    else match restored with
      | .ok () => some (x.restoreState incoming entries)
      | .error _ => some x

def writes (x : Live P) (p : P) (ws : List Write) : Live P := { x with
    state := update x.state p (ws.foldl write (x.state p))
    log := update x.log p (x.log p ++ ws) }

/-- mirrors pipeline.rs:2557-2612 -/
def handled (x : Live P) (l : Lbl P) : List (P × List Write) :=
  match l.task, x.task.pipe.proc with
  | .run (.processed baseline _), .processing batch =>
    match (if 0 < x.task.ctl.canaryPct then x.task.canary else none) with
    | none => [(x.task.current, l.baseline)]
    | some candidate =>
      let toBaseline := batch.filter (!St.toCanary x.task.ctl.canaryPct ·)
      let toCandidate := batch.filter (St.toCanary x.task.ctl.canaryPct ·)
      (if toBaseline = [] then [] else [(x.task.current, l.baseline)]) ++
        match St.answered toBaseline baseline with
        | .ok _ => if toCandidate = [] then [] else [(candidate, l.canary)]
        | .error _ => []
  | _, _ => []

end Live

inductive Kind
  | replace
  | endCanary
  deriving DecidableEq

def handOff (t : Installed P) : Taken P → Option (Kind × P)
  | .action .cutoverBlueGreen => t.green.map (.replace, ·)
  | .action .completeCanary => t.canary.map (.endCanary, ·)
  | .processor p => some (.replace, p)
  | _ => none

namespace Live

variable [DecidableEq P]

def handsOff (x : Live P) (l : Lbl P) : Option (Kind × P) :=
  (taken x.task l.task).bind (handOff (installed x.task))

def step (cfg : Runner.Cfg) (x : Live P) (l : Lbl P) : Option (Live P) := do
  let task ← x.task.step cfg l.task
  match x.handsOff l with
  | some (_, incoming) => return { ← x.transferProcessorState x.task.current incoming l.transfer with task }
  | none => return { (x.handled l).foldl (fun x e => x.writes e.1 e.2) x with task }

end Live

variable [DecidableEq P]

structure Initial (cfg : Runner.Cfg) (x : Live P) : Prop where
  task : Managed.Initial cfg x.task
  log : ∀ p, x.log p = []

def machine (cfg : Runner.Cfg) : LTS (Live P) (Lbl P) := .ofFn (Initial cfg) (Live.step cfg)

variable {cfg : Runner.Cfg} {x x' : Live P} {l : Lbl P} {kind : Kind} {incoming : P}

lemma step_task (h : x.step cfg l = some x') : x.task.step cfg l.task = some x'.task := by
  obtain ⟨task, ht, h⟩ := bind_eq_some_iff.mp h; rw [ht]; split at h
  · obtain ⟨y, -, h⟩ := bind_eq_some_iff.mp h; cases h; rfl
  · cases h; rfl

omit [DecidableEq P] in
lemma current_take (t : Installed P) (k : Option (Taken P)) :
    (t.take k).current = ((k.bind (handOff t)).map Prod.snd).getD t.current := by
  rcases k with _ | (a | p)
  · rfl
  · cases a
    case cutoverBlueGreen => rcases t with ⟨_, _ | _, _, _⟩ <;> rfl
    case completeCanary => rcases t with ⟨_, _, _ | _, _⟩ <;> rfl
    all_goals rfl
  · rfl

lemma installed_current_step (h : x.step cfg l = some x') :
    x'.task.current = ((x.handsOff l).map Prod.snd).getD x.task.current := by
  have hc := congrArg Installed.current (installed_step (step_task h))
  rwa [current_take] at hc

def Holds (x : Live P) : Prop := ∀ p k v, lastWrite (x.log p) k = some v → (x.state p).lookup k = v

lemma holds_writes (h : Holds x) (p : P) (ws : List Write) : Holds (x.writes p ws) := by
  intro q k v hv; by_cases hq : q = p
  · subst hq; simp only [Live.writes, update_self] at hv ⊢
    rw [lastWrite_append] at hv; rw [lookup_foldl_write]
    rcases hl : lastWrite ws k with _ | v'
    · rw [hl] at hv; exact h q k v hv
    grind
  · simp only [Live.writes, update_of_ne hq] at hv ⊢; exact h q k v hv

lemma holds_restoreState (h : Holds x) (p : P) (entries : Listing Bytes Bytes) :
    Holds (x.restoreState p entries) := by
  intro q k v hv; by_cases hq : q = p
  · subst hq; simp only [Live.restoreState, update_self] at hv; cases hv
  · simp only [Live.restoreState, update_of_ne hq] at hv ⊢; exact h q k v hv

lemma holds_transfer {outgoing : P} (h : Holds x)
    (ht : x.transferProcessorState outgoing incoming t = some x') : Holds x' := by
  unfold Live.transferProcessorState at ht; split at ht
  · cases ht; exact h
  · split_ifs at ht
    · cases ht; exact h
    · split at ht <;> cases ht
      · exact holds_restoreState h _ _
      · exact h

lemma holds_step (h : Holds x) (hs : x.step cfg l = some x') : Holds x' := by
  obtain ⟨task, -, hs⟩ := bind_eq_some_iff.mp hs; split at hs
  · obtain ⟨y, hy, hs⟩ := bind_eq_some_iff.mp hs; cases hs
    have ha : Holds y := holds_transfer h hy; exact ha
  · cases hs
    have ha : Holds ((x.handled l).foldl (fun x e => x.writes e.1 e.2) x) :=
      List.foldlRecOn (x.handled l) _ h fun _ hy e _ => holds_writes hy e.1 e.2
    exact ha

lemma reachable_holds (h : (machine cfg).Reachable x) : Holds x := by
  refine LTS.Inductive.reachable ⟨fun x hx p k v hv => ?_, fun _ _ _ hx hs => holds_step hx hs⟩ h
  rw [hx.log] at hv; cases hv

def Transfer.Ok : Transfer → Prop
  | .snapshot _ (.ok ()) => True
  | _ => False

lemma transfer_state {outgoing : P} (hok : t.Ok)
    (h : x.transferProcessorState outgoing incoming t = some x') :
    x'.state incoming = if x.state outgoing = ∅ then x.state incoming else x.state outgoing := by
  obtain _ | ⟨entries, _ | _⟩ := t
  · cases hok
  · cases hok
  · simp only [Live.transferProcessorState] at h; split_ifs at h with hl he
    · cases h; subst he; rw [if_pos (Finmap.ext hl.symm)]
    · cases h
      have hs : (x.restoreState incoming entries).state incoming = x.state outgoing := by
        simp [Live.restoreState, insertAll_empty hl]
      rw [hs, if_neg]; intro hn; rw [hn] at hl
      exact he ((Multiset.coe_eq_zero entries).mp hl)

def HandsOver (x x' : Live P) (incoming : P) : Kind → Prop
  | .replace => x'.state incoming = x.state x.task.current
  | .endCanary =>
    (∀ k v, lastWrite (x.log incoming) k = some v → (x'.state incoming).lookup k = v) ∧
    ∀ k v, lastWrite (x.log incoming) k = none → (x.state x.task.current).lookup k = some v →
      (x'.state incoming).lookup k = some v

def Safe (x : Live P) (incoming : P) : Kind → Prop
  | .replace => x.state x.task.current ≠ ∅ ∨ x.state incoming = ∅
  | .endCanary =>
    x.state x.task.current = ∅ ∨ ∀ k v, lastWrite (x.log incoming) k = some v →
    (x.state x.task.current).lookup k = v

omit [DecidableEq P] in
lemma handsOver_iff (hx : Holds x)
    (h : x'.state incoming = if x.state x.task.current = ∅ then x.state incoming else x.state x.task.current)
    (kind : Kind) : HandsOver x x' incoming kind ↔ Safe x incoming kind := by
  cases kind with
  | replace => rw [HandsOver, Safe, h]; grind
  | endCanary =>
    rw [HandsOver, Safe, h]; split_ifs with he
    · refine iff_of_true ⟨hx incoming, fun k v _ hv => ?_⟩ (.inl he); simp_all
    grind

theorem hand_off_iff (cfg : Runner.Cfg) (hr : (machine cfg).Reachable x) (hs : x.step cfg l = some x')
    (ho : x.handsOff l = some (kind, incoming)) (hok : l.transfer.Ok) :
    x'.task.current = incoming ∧ (HandsOver x x' incoming kind ↔ Safe x incoming kind) := by
  have hc := installed_current_step hs; rw [ho] at hc
  refine ⟨hc, handsOver_iff (reachable_holds hr) ?_ kind⟩
  obtain ⟨task, -, hs⟩ := bind_eq_some_iff.mp hs; rw [ho] at hs
  obtain ⟨y, hy, hs⟩ := bind_eq_some_iff.mp hs
  have hst : y.state incoming = _ := transfer_state hok hy; cases hs; exact hst

def fresh : Live Nat := { task := idlePipeline .push none, state := fun _ => ∅ }

lemma fresh_initial : Initial unorderedCfg fresh := ⟨idlePipeline_initial, fun _ => rfl⟩

def canaryRun (ws : List Write) : List (Lbl Nat) :=
  [{ task := .call 0 (.upgrade (.startCanary 1 50)) }, { task := .run .src }, { task := .run .src },
    { task := .run (.batch (.ok [.plain 0 [], .plain 99 []])) }, { task := .run .src },
    { task := .run (.proc false) }, { task := .run (.proc false) },
    { task := .run (.processed (.ok []) (.ok [])), baseline := [([1], some [7])], canary := ws },
    { task := .run (.proc false) }, { task := .call 1 (.upgrade .completeCanary) }]

def complete : Lbl Nat := { task := .run (.proc false), transfer := .snapshot [⟨[1], [7]⟩] (.ok ()) }

structure CanaryState where
  current : Nat
  log : List Write
  baseline : List (Option Bytes)
  canary : List (Option Bytes)
  off : Option (Kind × Nat)
  deriving DecidableEq

def canaryState (x : Live Nat) : CanaryState where
  current := x.task.current
  log := x.log 1
  baseline := [[1], [2]].map fun k => (x.state 0).lookup k
  canary := [[1], [2]].map fun k => (x.state 1).lookup k
  off := x.handsOff complete

def beforeAfter (ws : List Write) : Option (CanaryState × CanaryState) :=
  (LTS.exec (Live.step unorderedCfg) fresh (canaryRun ws)).bind fun x =>
    (x.step unorderedCfg complete).map fun x' => (canaryState x, canaryState x')

lemma of_beforeAfter (h : beforeAfter ws = some (v, v')) :
    ∃ x x', (machine unorderedCfg).Reachable x ∧ x.step unorderedCfg complete = some x' ∧
      canaryState x = v ∧ canaryState x' = v' := by
  obtain ⟨x, hx, h⟩ := bind_eq_some_iff.mp h
  obtain ⟨x', hx', h⟩ := map_eq_some_iff.mp h; cases h
  exact ⟨x, x', ⟨fresh, canaryRun ws, fresh_initial, LTS.run_of_exec hx⟩, hx', rfl, rfl⟩

def agreeing : List Write := [([1], some [6]), ([2], some [8]), ([1], some [7]), ([2], none)]

theorem agreeing_canary_handed_over :
    ∃ x x', (machine unorderedCfg).Reachable x ∧ x.step unorderedCfg complete = some x' ∧
      canaryState x = ⟨0, agreeing, [some [7], none], [some [7], none], some (.endCanary, 1)⟩ ∧
      canaryState x' = ⟨1, [], [some [7], none], [some [7], none], none⟩ ∧
      complete.transfer.Ok ∧ HandsOver x x' 1 .endCanary := by
  obtain ⟨x, x', hr, hs, hx, hx'⟩ := of_beforeAfter (show beforeAfter agreeing =
    some (⟨0, agreeing, [some [7], none], [some [7], none], some (.endCanary, 1)⟩,
      ⟨1, [], [some [7], none], [some [7], none], none⟩) by decide +kernel)
  have hb : (x.state 0).lookup [1] = some [7] ∧ (x.state 0).lookup [2] = none := by
    simpa [canaryState] using congrArg CanaryState.baseline hx
  have hsa : Safe x 1 .endCanary := by
    rw [Safe, show x.log 1 = agreeing from congrArg CanaryState.log hx,
      show x.task.current = 0 from congrArg CanaryState.current hx]
    refine .inr fun k v hv => ?_
    have hk : k = [1] ∧ v = some [7] ∨ k = [2] ∧ v = none := by
      simp only [lastWrite, agreeing, reverse_cons, reverse_nil, nil_append, cons_append,
        List.lookup_cons] at hv
      grind
    rcases hk with ⟨rfl, rfl⟩ | ⟨rfl, rfl⟩
    · exact hb.1
    · exact hb.2
  have ho : x.handsOff complete = some (.endCanary, 1) := congrArg CanaryState.off hx
  exact ⟨x, x', hr, hs, hx, hx', trivial, (hand_off_iff unorderedCfg hr hs ho trivial).2.mpr hsa⟩

theorem canary_write_lost : ∃ x x', (machine unorderedCfg).Reachable x ∧
    x.step unorderedCfg complete = some x' ∧
      canaryState x = ⟨0, [([2], some [8])], [some [7], none], [none, some [8]], some (.endCanary, 1)⟩ ∧
      canaryState x' = ⟨1, [], [some [7], none], [some [7], none], none⟩ ∧
      complete.transfer.Ok ∧ ¬ HandsOver x x' 1 .endCanary := by
  obtain ⟨x, x', hr, hs, hx, hx'⟩ := of_beforeAfter (show beforeAfter [([2], some [8])] =
    some (⟨0, [([2], some [8])], [some [7], none], [none, some [8]], some (.endCanary, 1)⟩,
      ⟨1, [], [some [7], none], [some [7], none], none⟩) by decide +kernel)
  refine ⟨x, x', hr, hs, hx, hx', trivial, fun ho => ?_⟩
  have hw : lastWrite (x.log 1) [2] = some (some [8]) := by
    rw [show x.log 1 = [([2], some [8])] from congrArg CanaryState.log hx]; rfl
  have hh : [(x'.state 1).lookup [1], (x'.state 1).lookup [2]] = [some [7], none] :=
    congrArg CanaryState.canary hx'
  rw [ho.1 [2] _ hw] at hh; simp at hh

end Aeon.L3.StateTransfer
