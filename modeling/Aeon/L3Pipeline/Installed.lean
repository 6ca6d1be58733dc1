import Aeon.L3Pipeline.Managed

/-!
# The installed processors of a managed pipeline

What the processor task of `run_buffered_managed` has installed changes by the action of an upgrade
call, by the processor of `drain_and_swap`, and in no other way (`installed_step`).
-/
namespace Aeon.L3.Managed

open Option Aeon.L3.Runner

variable {P : Type}

structure Installed (P : Type) where
  current : P
  green : Option P := none
  canary : Option P := none
  canaryPct : UInt8 := 0
  deriving DecidableEq

namespace Installed

/-- mirrors crates/aeon-engine/src/pipeline.rs:2509-2554 -/
def act (t : Installed P) : UpgradeAction P → Installed P
  | .startBlueGreen green => { t with green := some green }
  | .cutoverBlueGreen => { t with current := t.green.getD t.current, green := none }
  | .startCanary canary pct => { t with canary := some canary, canaryPct := pct }
  | .setCanaryPct pct => { t with canaryPct := pct }
  | .completeCanary => { t with current := t.canary.getD t.current, canary := none, canaryPct := 0 }
  | .rollback => { t with green := none, canary := none, canaryPct := 0 }

def swap (t : Installed P) (processor : P) : Installed P := { t with current := processor }

end Installed

def installed (s : St P) : Installed P := ⟨s.current, s.green, s.canary, s.ctl.canaryPct⟩

inductive Taken (P : Type)
  | action (a : UpgradeAction P)
  | processor (p : P)

def Installed.take (t : Installed P) : Option (Taken P) → Installed P
  | none => t
  | some (.action a) => t.act a
  | some (.processor p) => t.swap p

def taken (s : St P) : Lbl P → Option (Taken P)
  | .run (.proc locked) =>
    match s.pipe.proc with
    | .top => if s.pipe.shutdown || locked then none else s.ctl.upgradeAction.map (.action ·.2)
    | .taking => s.ctl.newProcessor.map .processor
    | _ => none
  | _ => none

variable {cfg : Cfg} {s s' : St P}

@[simp] lemma canaryPct_wake (k : Control P) (f : Call P → Call P) (woken : Option Nat) :
    (k.wake f woken).canaryPct = k.canaryPct := by
  cases woken <;> rfl

lemma installed_takeUpgrade (s : St P) :
    installed s.takeUpgrade = (installed s).take (s.ctl.upgradeAction.map (.action ·.2)) := by
  unfold St.takeUpgrade; rcases s.ctl.upgradeAction with _ | ⟨c, a⟩
  · rfl
  · cases a <;> simp [installed, St.upgrade, Control.notifyUpgrade, Installed.take, Installed.act]

lemma installed_procStep {locked : Bool} (h : s.procStep cfg locked = some s') :
    installed s' = (installed s).take (taken s (.run (.proc locked))) := by
  unfold St.procStep at h; unfold taken; split at h <;> rename_i hp <;> simp only [hp]
  · -- the head of the loop
    cases hd : s.pipe.shutdown with
    | true => simp only [hd, if_true] at h; cases h; rfl
    | false =>
      simp only [hd, Bool.false_eq_true, if_false] at h; cases h
      cases locked with
      | true => rfl
      | false => exact installed_takeUpgrade s
  case h_6 => split_ifs at h <;> cases h <;> simp [installed, Control.notifyDrain, Installed.take]
  case h_8 =>
    split at h <;> rename_i hs <;> cases h <;>
      simp [installed, hs, Control.notifySwap, Installed.take, Installed.swap]
  case h_9 => cases h
  all_goals cases h; rfl

lemma installed_srcStep (h : s.srcStep cfg = some s') : installed s' = installed s := by
  unfold St.srcStep at h; split at h
  · cases h; rfl
  · split_ifs at h
    · split at h <;> cases h <;> simp [installed, Control.notifySwap]
    · cases h; rfl
  · cases h; rfl
  · cases h

lemma installed_sinkSwap (s : St P) : installed s.sinkSwap = installed s := by
  unfold St.sinkSwap; split
  · split_ifs <;> simp [installed, Control.notifySwap]
  · rfl

lemma canaryPct_callStep {k k' : Control P} {c : Nat} (h : k.callStep c = some k') :
    k'.canaryPct = k.canaryPct := by
  unfold Control.callStep at h; split at h
  · rename_i d pc _
    cases pc with
    | place => cases h; cases d <;> rfl
    | wait | swapWait | returned => cases h
    | _ => cases h; rfl
  · cases h; rfl
  · cases h

lemma installed_step {l : Lbl P} (h : s.step cfg l = some s') :
    installed s' = (installed s).take (taken s l) := by
  rcases l with l | ⟨c, op⟩ | c
  · rcases l with _ | _ | _ | _ | _ | _ | _ | _ | _
    case proc => exact installed_procStep h
    case src => exact installed_srcStep h
    case shutdown | pressure => cases h; rfl
    case gate | sinkTask => obtain ⟨_, -, rfl⟩ := map_eq_some_iff.mp h; rfl
    case batch => obtain ⟨-, h⟩ := ite_none_right_eq_some.mp h; cases h; rfl
    case processed => simp only [St.step, St.runStep] at h; split at h <;> cases h; rfl
    case sink =>
      simp only [St.step, St.runStep] at h; split at h
      · cases h; exact installed_sinkSwap s
      · obtain ⟨_, -, rfl⟩ := map_eq_some_iff.mp h; rfl
  · obtain ⟨k, hk, rfl⟩ := map_eq_some_iff.mp h; unfold Control.begin at hk
    split at hk <;> cases hk <;> rfl
  · obtain ⟨k, hk, rfl⟩ := map_eq_some_iff.mp h
    simp only [installed, canaryPct_callStep hk, taken, Installed.take]

end Aeon.L3.Managed
