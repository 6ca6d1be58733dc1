import Aeon.L3Pipeline.Managed

/-!
# Upgrade calls

The upgrade methods (`crates/aeon-engine/src/pipeline.rs:2217-2302`) put an action into one slot and
wait; the runner simulates `Core.Mailbox` (`step_mailbox`).

* `upgrade_calls_safe`: one call at a time has its action applied, once;
* `upgrade_call_lost`: two calls lose an action, or return before it is applied.
-/
namespace Aeon.L3.Managed

open Option Function Aeon.Core Aeon.Types Aeon.L3.SinkTask Aeon.L3.Runner

variable {P : Type}

def Call.mail : Call P → Option (UpgradeAction P × Mailbox.Pc)
  | .upgrade a pc => some (a, pc)
  | .drain _ _ => none

namespace Control

variable {k k' : Control P} {c : Nat}

def mailbox (k : Control P) : Mailbox (UpgradeAction P) where
  slot := k.upgradeAction
  complete := k.upgradeActionComplete
  calls c := (k.calls c).bind Call.mail
  applied := k.applied
  replaced := k.replaced

lemma mailbox_calls {calls : Nat → Option (Call P)}
    (h : ∀ c, (calls c).bind Call.mail = (k.calls c).bind Call.mail) :
    ({ k with calls := calls } : Control P).mailbox = k.mailbox := by simp only [mailbox, h]

lemma mailbox_wake (hf : ∀ call, (f call).mail = call.mail) (o : Option Nat) :
    (k.wake f o).mailbox = k.mailbox := by
  cases o with
  | none => rfl
  | some c =>
    refine mailbox_calls fun c' => ?_; by_cases hc : c' = c
    · subst hc; rw [update_self]
      cases k.calls c' with
      | none => rfl
      | some call => exact hf call
    · rw [update_of_ne hc]

lemma mailbox_notifyDrain (k : Control P) : k.notifyDrain.mailbox = k.mailbox :=
  mailbox_wake (fun call => by cases call with
    | drain d pc => cases pc <;> rfl
    | upgrade => rfl) _

lemma mailbox_notifySwap (k : Control P) : k.notifySwap.mailbox = k.mailbox :=
  mailbox_wake (fun call => by cases call with
    | drain d pc => cases pc <;> rfl
    | upgrade => rfl) _

lemma mailbox_setCall_drain (h : (k.calls c).bind Call.mail = none) :
    (k.setCall c (.drain d pc)).mailbox = k.mailbox := by
  refine mailbox_calls fun c' => ?_; by_cases hc : c' = c
  · subst hc; rw [update_self, h]; rfl
  · rw [update_of_ne hc]

lemma mailbox_setCall_upgrade :
    (k.setCall c (.upgrade a pc)).mailbox.calls = update k.mailbox.calls c (some (a, pc)) := by
  funext c'; by_cases hc : c' = c
  · subst hc; simp [mailbox, setCall, Call.mail]
  · simp [mailbox, setCall, hc]

lemma mailbox_wakeUpgrade (k : Control P) (o : Option Nat) :
    (k.wake Call.wakeUpgrade o).mailbox = k.mailbox.wake o := by
  cases o with
  | none => rfl
  | some c =>
    have hca : (k.wake Call.wakeUpgrade (some c)).mailbox.calls = (k.mailbox.wake (some c)).calls := by
      funext c'; by_cases hc : c' = c
      · subst hc; simp only [mailbox, wake, Mailbox.wake, update_self]
        cases k.calls c' with
        | none => rfl
        | some call => cases call <;> rfl
      · simp [mailbox, wake, Mailbox.wake, hc]
    simp_all [mailbox, wake, Mailbox.wake]

lemma mailbox_notifyUpgrade (k : Control P) : k.notifyUpgrade.mailbox = k.mailbox.notified :=
  mailbox_wakeUpgrade _ _

lemma drainStep_mailbox (hc : k.calls c = some (.drain d pc)) (h : k.drainStep c d pc = some k') :
    k'.mailbox = k.mailbox := by
  have hn : (k.calls c).bind Call.mail = none := by rw [hc]; rfl
  cases pc with
  | poll => cases h; exact mailbox_setCall_drain (k := { k with drainComplete := _ }) hn
  | place => cases h; cases d <;> exact mailbox_setCall_drain hn
  | swapPoll => cases h; exact mailbox_setCall_drain (k := { k with swapComplete := _ }) hn
  | resume => cases h; exact mailbox_setCall_drain (k := { k with paused := _ }) hn
  | wait | swapWait | returned => cases h

lemma begin_mailbox (h : k.begin c op = some k') :
    k'.mailbox = k.mailbox ∨ ∃ a, op = .upgrade a ∧ k.mailbox.step (.post c a) = some k'.mailbox := by
  unfold begin at h; split at h
  · cases h
  · rename_i hc
    cases h
    exact .inl (mailbox_setCall_drain (k := { k with paused := true }) (by simp [hc]))
  · rename_i a hc
    cases h; refine .inr ⟨a, rfl, ?_⟩
    have hn : k.mailbox.calls c = none := by simp [mailbox, hc]
    simp only [Mailbox.step, hn]; rw [← mailbox_setCall_upgrade]; rfl

lemma callStep_mailbox (h : k.callStep c = some k') :
    k'.mailbox = k.mailbox ∨ k.mailbox.step (.poll c) = some k'.mailbox := by
  unfold callStep at h; split at h
  · rename_i d pc hc
    exact .inl (drainStep_mailbox hc h)
  · rename_i a hc
    cases h
    have hs : k.mailbox.calls c = some (a, .posted) := by simp [mailbox, hc, Call.mail]
    refine .inr ?_; simp only [Mailbox.step, hs, Mailbox.polled, ← mailbox_setCall_upgrade]
    rfl
  · cases h

end Control

section Simulation

variable {cfg : Cfg} {s s' : St P}

lemma upgrade_mailbox (s : St P) (a : UpgradeAction P) : (s.upgrade a).ctl.mailbox = s.ctl.mailbox := by
  cases a <;> rfl

lemma takeUpgrade_mailbox (s : St P) : s.takeUpgrade.ctl.mailbox = s.ctl.mailbox ∨
      s.ctl.mailbox.step .take = some s.takeUpgrade.ctl.mailbox := by
  unfold St.takeUpgrade; split
  · exact .inl rfl
  · rename_i c a hs
    refine .inr ?_; have hm : s.ctl.mailbox.slot = some (c, a) := hs
    simp only [Mailbox.step, hm, map_some, Option.some.injEq]
    rw [Control.mailbox_notifyUpgrade, upgrade_mailbox]; rfl

lemma procStep_mailbox {locked : Bool} (h : s.procStep cfg locked = some s') :
    s'.ctl.mailbox = s.ctl.mailbox ∨ s.ctl.mailbox.step .take = some s'.ctl.mailbox := by
  unfold St.procStep at h; split at h
  · split_ifs at h <;> cases h
    · exact .inl rfl
    · exact .inl rfl
    · exact takeUpgrade_mailbox s
  · cases h; exact .inl rfl
  · cases h; exact .inl rfl
  · cases h; exact .inl rfl
  · cases h; exact .inl rfl
  · split_ifs at h <;> cases h
    · exact .inl (Control.mailbox_notifyDrain _)
    · exact .inl rfl
  · cases h; exact .inl rfl
  · split at h <;> cases h
    · exact .inl rfl
    · exact .inl (Control.mailbox_notifySwap _)
  · cases h

lemma srcStep_mailbox (h : s.srcStep cfg = some s') : s'.ctl.mailbox = s.ctl.mailbox := by
  unfold St.srcStep at h; split at h
  · cases h; rfl
  · split_ifs at h
    · split at h <;> cases h
      · exact Control.mailbox_notifySwap _
      · rfl
    · cases h; rfl
  · cases h; rfl
  · cases h

lemma sinkSwap_mailbox (s : St P) : s.sinkSwap.ctl.mailbox = s.ctl.mailbox := by
  unfold St.sinkSwap; split
  · split_ifs
    · exact Control.mailbox_notifySwap _
    · rfl
  · rfl

lemma runStep_mailbox (h : s.runStep cfg l = some s') :
    s'.ctl.mailbox = s.ctl.mailbox ∨ s.ctl.mailbox.step .take = some s'.ctl.mailbox := by
  cases l with
  | shutdown => cases h; exact .inl rfl
  | gate => obtain ⟨_, -, rfl⟩ := map_eq_some_iff.mp h; exact .inl rfl
  | pressure => cases h; exact .inl rfl
  | src => exact .inl (srcStep_mailbox h)
  | batch => simp only [St.runStep] at h; grind
  | proc => exact procStep_mailbox h
  | processed => simp only [St.runStep] at h; split at h <;> cases h; exact .inl rfl
  | sink =>
    simp only [St.runStep] at h; split at h
    · cases h; exact .inl (sinkSwap_mailbox s)
    · obtain ⟨_, -, rfl⟩ := map_eq_some_iff.mp h; exact .inl rfl
  | sinkTask => obtain ⟨_, -, rfl⟩ := map_eq_some_iff.mp h; exact .inl rfl

def OneUpgrade (s : St P) : Lbl P → Prop
  | .call _ (.upgrade _) => ∀ c a pc, s.ctl.calls c = some (.upgrade a pc) → pc = .returned
  | _ => True

lemma mailbox_calls_eq {k : Control P} {c : Nat} {a : UpgradeAction P} {pc : Mailbox.Pc} :
    k.mailbox.calls c = some (a, pc) ↔ k.calls c = some (.upgrade a pc) := by
  simp only [Control.mailbox]
  rcases k.calls c with _ | ⟨d, pc'⟩ | ⟨a', pc'⟩ <;> simp [Call.mail]

lemma step_mailbox {l : Lbl P} (h : s.step cfg l = some s') : s'.ctl.mailbox = s.ctl.mailbox ∨
    ∃ ml, s.ctl.mailbox.step ml = some s'.ctl.mailbox ∧ (OneUpgrade s l → s.ctl.mailbox.Alone ml) := by
  cases l with
  | run => exact (runStep_mailbox h).imp_right fun hm => ⟨.take, hm, fun _ => trivial⟩
  | call c =>
    obtain ⟨k, hk, rfl⟩ := map_eq_some_iff.mp h
    refine (Control.begin_mailbox hk).imp_right ?_; rintro ⟨a, rfl, hm⟩
    exact ⟨.post c a, hm, fun ho c' a' pc hc' => ho c' a' pc (mailbox_calls_eq.mp hc')⟩
  | callStep c =>
    obtain ⟨k, hk, rfl⟩ := map_eq_some_iff.mp h
    exact (Control.callStep_mailbox hk).imp_right fun hm => ⟨.poll c, hm, fun _ => trivial⟩

end Simulation

structure UpgradesSafe (s : St P) : Prop where
  returned : ∀ c a, s.ctl.calls c = some (.upgrade a .returned) → s.ctl.applied.filter (·.1 = c) = [(c, a)]
  once : ∀ c a pc, s.ctl.calls c = some (.upgrade a pc) →
    s.ctl.applied.filter (·.1 = c) = [] ∨ s.ctl.applied.filter (·.1 = c) = [(c, a)]
  unmade : ∀ c, (∀ a pc, s.ctl.calls c ≠ some (.upgrade a pc)) → s.ctl.applied.filter (·.1 = c) = []
  replaced : s.ctl.replaced = []

/-- In every run, with any drains, batches and schedules of the three tasks, in which upgrade calls
do not overlap. -/
theorem upgrade_calls_safe (cfg : Cfg) {s : St P} (h : ((machine cfg).restrict OneUpgrade).Reachable s) :
    UpgradesSafe s := by
  have hma : ((Mailbox.lts (UpgradeAction P)).restrict Mailbox.Alone).Reachable s.ctl.mailbox := by
    refine LTS.Reachable.map (f := fun s : St P => s.ctl.mailbox) (fun s hs => ?_) (fun s l s' hst => ?_) h
    · show s.ctl.mailbox = {}; rw [hs.ctl]; rfl
    · rcases step_mailbox hst.2 with hsm | ⟨ml, hml, ha⟩
      · exact .inl hsm
      · exact .inr ⟨ml, ha hst.1, hml⟩
  have hsa := Mailbox.safe_of_alone hma
  refine ⟨fun c a hc => hsa.returned c a (mailbox_calls_eq.mpr hc),
    fun c a pc hc => hsa.once c a pc (mailbox_calls_eq.mpr hc), fun c hc => hsa.unmade c ?_, hsa.replaced⟩
  rcases hm : s.ctl.mailbox.calls c with _ | ⟨a, pc⟩
  · rfl
  · exact absurd (mailbox_calls_eq.mp hm) (hc a pc)

structure CallView where
  first : Option (Call Nat)
  second : Option (Call Nat)
  applied : List (Nat × UpgradeAction Nat)
  replaced : List Nat
  deriving DecidableEq

def callView (s : St Nat) : CallView := ⟨s.ctl.calls 0, s.ctl.calls 1, s.ctl.applied, s.ctl.replaced⟩

def overwritten : List (Lbl Nat) :=
  [.call 0 (.upgrade (.startBlueGreen 1)), .call 1 (.upgrade .cutoverBlueGreen), .run (.proc false),
    .callStep 0]

def stale : List (Lbl Nat) :=
  [.call 0 (.upgrade (.startCanary 1 10)), .run (.proc false), .call 1 (.upgrade (.setCanaryPct 50)),
    .callStep 1]

def overwrittenView : CallView :=
  ⟨some (.upgrade (.startBlueGreen 1) .returned), some (.upgrade .cutoverBlueGreen .posted),
    [(1, .cutoverBlueGreen)], [0]⟩

def staleView : CallView :=
  ⟨some (.upgrade (.startCanary 1 10) .posted), some (.upgrade (.setCanaryPct 50) .returned),
    [(0, .startCanary 1 10)], []⟩

theorem upgrade_call_lost : (∃ s, (machine unorderedCfg).Reachable s ∧ callView s = overwrittenView ∧
    ¬ UpgradesSafe s) ∧
    ∃ s, (machine unorderedCfg).Reachable s ∧ callView s = staleView ∧ ¬ UpgradesSafe s := by
  have h₁ : (LTS.exec (fun s => St.step unorderedCfg s) (idlePipeline .push none) overwritten).map callView =
    some overwrittenView := by
    decide +kernel
  have h₂ : (LTS.exec (fun s => St.step unorderedCfg s) (idlePipeline .push none) stale).map callView =
    some staleView := by decide +kernel
  obtain ⟨s₁, hs₁, hv₁⟩ := map_eq_some_iff.mp h₁
  obtain ⟨s₂, hs₂, hv₂⟩ := map_eq_some_iff.mp h₂
  refine ⟨⟨s₁, ⟨_, overwritten, idlePipeline_initial, LTS.run_of_exec hs₁⟩, hv₁, fun hs => ?_⟩,
    s₂, ⟨_, stale, idlePipeline_initial, LTS.run_of_exec hs₂⟩, hv₂, fun hs => ?_⟩
  · have hr := hs.replaced
    rw [show s₁.ctl.replaced = [0] from congrArg CallView.replaced hv₁] at hr; cases hr
  · have ha := hs.returned 1 _ (congrArg CallView.second hv₂)
    rw [show s₂.ctl.applied = [(0, .startCanary 1 10)] from congrArg CallView.applied hv₂] at ha
    cases ha

def inTurn : List (Lbl Nat) :=
  [.call 0 (.upgrade (.startBlueGreen 1)), .callStep 0, .run (.proc false),
    .call 1 (.upgrade .cutoverBlueGreen),
    .run (.proc true), .run (.proc true), .run (.proc true), .run (.proc false), .callStep 1]

def inTurnView : CallView :=
  ⟨some (.upgrade (.startBlueGreen 1) .returned), some (.upgrade .cutoverBlueGreen .returned),
    [(0, .startBlueGreen 1), (1, .cutoverBlueGreen)], []⟩

lemma inTurn_oneUpgrade :
    LTS.Along (fun s => St.step unorderedCfg s) OneUpgrade (idlePipeline .push none) inTurn := by
  refine ⟨nofun, _, rfl, trivial, _, rfl, trivial, _, rfl, fun c a pc hc => ?_, _, rfl, trivial, _, rfl,
    trivial, _,
    rfl, trivial, _, rfl, trivial, _, rfl, trivial, _, rfl, trivial⟩
  match c, hc with
  | 0, hc => cases hc; rfl
  | c + 1, hc => cases hc

theorem upgrade_calls_safe_in_turn :
    ∃ s, ((machine unorderedCfg).restrict OneUpgrade).Reachable s ∧ callView s = inTurnView ∧
    UpgradesSafe s := by
  have h : (LTS.exec (fun s => St.step unorderedCfg s) (idlePipeline .push none) inTurn).map callView =
    some inTurnView := by decide +kernel
  obtain ⟨s, hs, hv⟩ := map_eq_some_iff.mp h
  have hr : ((machine unorderedCfg).restrict OneUpgrade).Reachable s :=
    ⟨_, inTurn, idlePipeline_initial, LTS.run_restrict inTurn_oneUpgrade hs⟩
  exact ⟨s, hr, hv, upgrade_calls_safe unorderedCfg hr⟩

end Aeon.L3.Managed
