import Aeon.Core.LTS
import Aeon.Core.Notify
import Aeon.L3Pipeline.WriteGate

/-!
# Draining a write gate, one atomic operation at a time

`crates/aeon-engine/src/write_gate.rs`, where a step is one atomic operation: the lock of the state,
the counter of guards, the notification.

* `Inv.gate_step`: seen from the gate alone, the steps are those of `WriteGate`;
* `frozen_until_reopen`: a frozen gate has no guard;
* `drain_awake`, `drain_misses_last_guard`: when a drain is woken, and when not.
-/
namespace Aeon.L3.GateDrain

open List Option Aeon.Core Aeon.L3.Gate

/-- mirrors write_gate.rs:112-159 -/
inductive Phase
  | started
  | flipped
  | looping
  | sawGuards
  | waiting
  | sawNone
  | returned
  deriving DecidableEq

structure St where
  gate : WriteGate := {}
  notify : Notify Nat := {}
  notifying : Nat := 0
  drains : List Phase := []
  deriving DecidableEq

inductive Lbl
  | enter
  | dropGuard
  | notifyWaiters
  | call
  | flip (d : Nat)
  | announce (d : Nat)
  | load (d : Nat)
  | notified (d : Nat)
  | wake (d : Nat)
  | commit (d : Nat)
  | timeout (d : Nat)
  | reopen
  deriving DecidableEq

/-- mirrors write_gate.rs:142-145 -/
def freeze (g : WriteGate) : WriteGate :=
  if g.state = .freezeRequested then { g with state := .frozen } else g

def advance (s : St) (d : Nat) (p : Phase) (s' : St) (p' : Phase) : Option St :=
  if s.drains[d]? = some p then some { s' with drains := s.drains.set d p' } else none

def step (s : St) : Lbl → Option St
  | .enter => s.gate.tryEnter.map fun g => { s with gate := g }
  | .dropGuard =>
    if 0 < s.gate.inFlight then
      some { s with
        gate := s.gate.dropGuard
        notifying := if s.gate.inFlight = 1 then s.notifying + 1 else s.notifying }
    else none
  | .notifyWaiters =>
    if 0 < s.notifying then
      some { s with notifying := s.notifying - 1, notify := s.notify.notifyWaiters }
    else none
  | .call => some { s with
      drains := s.drains ++ [if s.gate.state = .frozen then .returned else .started] }
  | .flip d => advance s d .started { s with gate := s.gate.requestFreeze } .flipped
  | .announce d => advance s d .flipped { s with notify := s.notify.notifyWaiters } .looping
  | .load d => advance s d .looping s (if s.gate.inFlight = 0 then .sawNone else .sawGuards)
  | .notified d =>
    let (notify, woken) := s.notify.poll d
    advance s d .sawGuards { s with notify := notify } (if woken then .looping else .waiting)
  | .wake d => if d ∈ s.notify.waiters then none else advance s d .waiting s .looping
  | .commit d => advance s d .sawNone { s with gate := freeze s.gate } .returned
  | .timeout d => advance s d .waiting { s with notify := s.notify.forget d } .returned
  | .reopen =>
    if ∀ p ∈ s.drains, p = .returned then
      some { s with gate := s.gate.reopen, notifying := s.notifying + 1 }
    else none

/-- mirrors write_gate.rs:65-71 -/
def Initial (s : St) : Prop := s = {}

def machine : LTS St Lbl := .ofFn Initial step

def Parked (s : St) (d : Nat) : Prop := s.drains[d]? = some .waiting ∧ d ∈ s.notify.waiters

def WakePending (s : St) : Prop := 0 < s.notifying ∨ Phase.flipped ∈ s.drains

structure Safe (s : St) : Prop where
  drained : s.gate.state = .frozen → s.gate.inFlight = 0
  closed : s.gate.state = .frozen →
    ∀ ls s', machine.Run s ls s' → Lbl.reopen ∉ ls → Lbl.enter ∉ ls ∧ s'.gate.state = .frozen
  awake : ∀ d, Parked s d → s.gate.inFlight = 0 → WakePending s

def Allowed (s : St) (l : Lbl) : Prop :=
  l = .notifyWaiters → s.gate.inFlight = 0 → s.notifying = 1 → Phase.sawGuards ∉ s.drains

instance decidableAllowed (s : St) (l : Lbl) : Decidable (Allowed s l) :=
  inferInstanceAs (Decidable
    (l = .notifyWaiters → s.gate.inFlight = 0 → s.notifying = 1 → Phase.sawGuards ∉ s.drains))

lemma advance_eq_some :
    advance s d p s' p' = some t ↔ s.drains[d]? = some p ∧ { s' with drains := s.drains.set d p' } = t := by
  simp [advance]

lemma phase_set {drains : List Phase} {d e : Nat} {p q : Phase} (h : (drains.set d p)[e]? = some q) :
    q = p ∨ drains[e]? = some q := by grind

lemma mem_set {drains : List Phase} (h : q ∈ drains.set d p) : q = p ∨ q ∈ drains := by grind

def Phase.Draining (p : Phase) : Prop := p ≠ .started ∧ p ≠ .returned

structure Inv (s : St) : Prop where
  closed : ∀ p ∈ s.drains, p.Draining → s.gate.state ≠ .opened
  none : Phase.sawNone ∈ s.drains → s.gate.inFlight = 0
  drained : s.gate.state = .frozen → s.gate.inFlight = 0

lemma requestFreeze_closed (g : WriteGate) : g.requestFreeze.state ≠ .opened := by
  grind [WriteGate.requestFreeze]

lemma inFlight_requestFreeze (g : WriteGate) : g.requestFreeze.inFlight = g.inFlight := by
  unfold WriteGate.requestFreeze; split_ifs <;> rfl

lemma inFlight_freeze (g : WriteGate) : (freeze g).inFlight = g.inFlight := by
  unfold freeze; split_ifs <;> rfl

lemma Inv.initial (h : Initial s) : Inv s := by
  subst h; refine ⟨?_, ?_, ?_⟩
  · intro p hp; cases hp
  · intro hp; cases hp
  · intro he; cases he

lemma Inv.move (h : Inv s) (hd : s.drains[d]? = some p) (hp : p.Draining)
    (hn : p' = .sawNone → s.gate.inFlight = 0) (notify : Notify Nat) :
    Inv { s with notify := notify, drains := s.drains.set d p' } where
  closed q hq hdr := by
    rcases mem_set hq with rfl | hq
    · exact h.closed p (mem_of_getElem? hd) hp
    · exact h.closed q hq hdr
  none hq := by
    rcases mem_set hq with hq | hq
    · exact hn hq.symm
    · exact h.none hq
  drained := h.drained

lemma Inv.commitFreeze {s : St} (h : Inv s) {d : Nat} (hd : s.drains[d]? = some .sawNone) :
    s.gate.commitFreeze = some (freeze s.gate) := by
  rw [WriteGate.commitFreeze, if_pos (h.none (mem_of_getElem? hd)), freeze]

lemma Inv.gate_step {s s' : St} {l : Lbl} (h : Inv s) (hs : step s l = some s') :
    s'.gate = s.gate ∨ (l = .enter ∧ s.gate.tryEnter = some s'.gate) ∨
    (0 < s.gate.inFlight ∧ s'.gate = s.gate.dropGuard) ∨ s'.gate = s.gate.requestFreeze ∨
    s.gate.commitFreeze = some s'.gate ∨ (l = .reopen ∧ s'.gate = s.gate.reopen) := by
  cases l with
  | enter => obtain ⟨g, hg, rfl⟩ := map_eq_some_iff.mp hs; exact .inr (.inl ⟨rfl, hg⟩)
  | dropGuard | notifyWaiters | reopen => obtain ⟨hp, hs⟩ := ite_none_right_eq_some.mp hs; grind
  | call => cases hs; exact .inl rfl
  | flip d => obtain ⟨-, rfl⟩ := advance_eq_some.mp hs; simp
  | announce d | load d | notified d | timeout d => obtain ⟨-, rfl⟩ := advance_eq_some.mp hs; exact .inl rfl
  | wake d =>
    obtain ⟨-, rfl⟩ := advance_eq_some.mp (ite_none_left_eq_some.mp hs).2
    exact .inl rfl
  | commit d =>
    obtain ⟨hd, rfl⟩ := advance_eq_some.mp hs
    exact .inr (.inr (.inr (.inr (.inl (h.commitFreeze hd)))))

lemma tryEnter_opened {g g' : WriteGate} (h : g.tryEnter = some g') : g.state = .opened := by
  simp_all [WriteGate.tryEnter]

lemma Inv.step {s s' : St} {l : Lbl} (h : Inv s) (hs : step s l = some s') : Inv s' := by
  cases l with
  | enter =>
    obtain ⟨g, hg, rfl⟩ := map_eq_some_iff.mp hs; have ho := tryEnter_opened hg
    have hst : g.state = s.gate.state := WriteGate.state_tryEnter hg
    refine ⟨fun p hp hdr => hst ▸ h.closed p hp hdr, fun hp => ?_, by grind⟩
    exact absurd ho (h.closed _ hp (by simp [Phase.Draining]))
  | dropGuard =>
    obtain ⟨hpo, hs⟩ := ite_none_right_eq_some.mp hs; cases hs
    exact ⟨h.closed, fun hp => absurd (h.none hp) (by omega), fun hf => absurd (h.drained hf) (by omega)⟩
  | notifyWaiters =>
    obtain ⟨-, hs⟩ := ite_none_right_eq_some.mp hs; cases hs
    exact ⟨h.closed, h.none, h.drained⟩
  | call =>
    cases hs
    have hn : ∀ p, p ∈ s.drains ++ [if s.gate.state = .frozen then Phase.returned else .started] →
        p.Draining → p ∈ s.drains := by
      intro p hp hdr; rcases mem_append.mp hp with hp | hp
      · exact hp
      · rw [mem_singleton] at hp; split_ifs at hp <;> subst hp
        · exact absurd rfl hdr.2
        · exact absurd rfl hdr.1
    exact ⟨fun p hp hdr => h.closed p (hn p hp hdr) hdr, fun hp =>
      h.none (hn _ hp (by simp [Phase.Draining])), h.drained⟩
  | flip =>
    obtain ⟨-, rfl⟩ := advance_eq_some.mp hs; have hc := inFlight_requestFreeze s.gate
    refine ⟨fun p _ _ => requestFreeze_closed s.gate, fun hp => ?_,
      fun hf => hc.trans (h.drained (by grind [WriteGate.requestFreeze]))⟩
    rcases mem_set hp with hp | hp
    · cases hp
    · exact hc.trans (h.none hp)
  | announce d | timeout d =>
    obtain ⟨hd, rfl⟩ := advance_eq_some.mp hs
    exact h.move hd (by simp [Phase.Draining]) (by simp) _
  | load d =>
    obtain ⟨hd, rfl⟩ := advance_eq_some.mp hs
    refine h.move hd (by simp [Phase.Draining]) (fun hp => ?_) _; by_contra hne
    simp [hne] at hp
  | notified d => obtain ⟨hd, rfl⟩ := advance_eq_some.mp hs; grind [h.move, Phase.Draining]
  | wake d =>
    obtain ⟨hd, rfl⟩ := advance_eq_some.mp (ite_none_left_eq_some.mp hs).2
    exact h.move hd (by simp [Phase.Draining]) (by simp) _
  | commit d =>
    obtain ⟨hd, rfl⟩ := advance_eq_some.mp hs
    have hz : (freeze s.gate).inFlight = 0 := (inFlight_freeze s.gate).trans (h.none (mem_of_getElem? hd))
    have hst : (freeze s.gate).state = .opened ↔ s.gate.state = .opened :=
      WriteGate.state_commitFreeze (h.commitFreeze hd)
    refine ⟨fun p hp hdr => ?_, fun _ => hz, fun _ => hz⟩; rcases mem_set hp with rfl | hp
    · exact absurd rfl hdr.2
    · exact mt hst.mp (h.closed p hp hdr)
  | reopen =>
    obtain ⟨hr, hs⟩ := ite_none_right_eq_some.mp hs; cases hs
    exact ⟨fun p hp hdr => absurd (hr p hp) hdr.2, by grind, nofun⟩

lemma Inv.frozen_step {s s' : St} {l : Lbl} (h : Inv s) (hs : GateDrain.step s l = some s')
    (hf : s.gate.state = .frozen) (hl : l ≠ .reopen) : l ≠ .enter ∧ s'.gate.state = .frozen := by
  have hc : s.gate.state ≠ .opened := by rw [hf]; decide
  refine ⟨?_, ?_⟩
  · rintro rfl; obtain ⟨g, hg, -⟩ := map_eq_some_iff.mp hs
    exact hc (tryEnter_opened hg)
  · rcases h.gate_step hs with hg | ⟨-, hg⟩ | ⟨-, hg⟩ | hg | hg | ⟨hr, -⟩
    · rw [hg, hf]
    · exact absurd (tryEnter_opened hg) hc
    · rw [hg]; exact hf
    · rw [hg, WriteGate.requestFreeze, if_neg hc, hf]
    · unfold WriteGate.commitFreeze at hg; grind
    · exact absurd hr hl

lemma frozen_until_reopen (hr : machine.Run s ls s') (h : Inv s) (hf : s.gate.state = .frozen)
    (hl : Lbl.reopen ∉ ls) : Lbl.enter ∉ ls ∧ s'.gate.state = .frozen := by
  induction hr with
  | nil => exact ⟨not_mem_nil, hf⟩
  | cons hs _ ih =>
    rw [mem_cons, not_or] at hl
    obtain ⟨hne, hf'⟩ := h.frozen_step hs hf (Ne.symm hl.1)
    obtain ⟨hre, hla⟩ := ih (h.step hs) hf' hl.2; grind

def Expects (s : St) : Prop := Phase.sawGuards ∈ s.drains ∨ ∃ d, Parked s d

def Awake (s : St) : Prop := Expects s → s.gate.inFlight = 0 → 0 < s.notifying

lemma expects_of_set {s : St} {d : Nat} {p : Phase} {gate : WriteGate} {notify : Notify Nat} {notifying : Nat}
    (hw : notify.waiters ⊆ s.notify.waiters) (hs : p ≠ .sawGuards) (hwa : p ≠ .waiting)
    (h : Expects ⟨gate, notify, notifying, s.drains.set d p⟩) : Expects s := by
  rcases h with h | ⟨e, he, hm⟩
  · rcases mem_set h with h | h
    · exact absurd h.symm hs
    · exact .inl h
  · rcases phase_set he with h | h
    · exact absurd h.symm hwa
    · exact .inr ⟨e, h, hw hm⟩

lemma Awake.step (h : Awake s) (ha : Allowed s l) (hs : step s l = some s') : Awake s' := by
  cases l with
  | enter =>
    obtain ⟨g, hg, rfl⟩ := map_eq_some_iff.mp hs; intro _ h0
    grind [WriteGate.tryEnter]
  | dropGuard =>
    obtain ⟨hpo, hs⟩ := ite_none_right_eq_some.mp hs; cases hs
    intro _ (h0 : s.gate.inFlight - 1 = 0); simp [show s.gate.inFlight = 1 by omega]
  | notifyWaiters =>
    obtain ⟨hpo, hs⟩ := ite_none_right_eq_some.mp hs; cases hs
    rintro (hsa | ⟨d, -, hd⟩) h0
    · -- the one step that can lose a wake-up
      have hne : s.notifying ≠ 1 := fun ho => ha rfl h0 ho hsa; grind
    · cases hd
  | call =>
    cases hs; rintro (hsa | ⟨d, hd, hw⟩) <;> refine h ?_
    · rcases mem_append.mp hsa with hp | hp
      · exact .inl hp
      grind
    · exact .inr ⟨d, by grind, hw⟩
  | flip =>
    obtain ⟨-, rfl⟩ := advance_eq_some.mp hs
    exact fun he h0 => h (expects_of_set (List.Subset.refl _) (by simp) (by simp) he)
      ((inFlight_requestFreeze s.gate).symm.trans h0)
  | announce =>
    obtain ⟨-, rfl⟩ := advance_eq_some.mp hs
    exact fun he => h (expects_of_set (nil_subset _) (by simp) (by simp) he)
  | load =>
    obtain ⟨-, rfl⟩ := advance_eq_some.mp hs; intro he (h0 : s.gate.inFlight = 0)
    rw [if_pos h0] at he
    exact h (expects_of_set (List.Subset.refl _) (by simp) (by simp) he) h0
  | notified =>
    obtain ⟨hd, rfl⟩ := advance_eq_some.mp hs
    exact fun _ => h (.inl (mem_of_getElem? hd))
  | wake =>
    obtain ⟨-, rfl⟩ := advance_eq_some.mp (ite_none_left_eq_some.mp hs).2
    exact fun he => h (expects_of_set (List.Subset.refl _) (by simp) (by simp) he)
  | commit =>
    obtain ⟨-, rfl⟩ := advance_eq_some.mp hs
    exact fun he h0 => h (expects_of_set (List.Subset.refl _) (by simp) (by simp) he)
      ((inFlight_freeze s.gate).symm.trans h0)
  | timeout =>
    obtain ⟨-, rfl⟩ := advance_eq_some.mp hs
    exact fun he => h (expects_of_set filter_sublist.subset (by simp) (by simp) he)
  | reopen =>
    obtain ⟨-, hs⟩ := ite_none_right_eq_some.mp hs; cases hs
    exact fun _ _ => Nat.succ_pos _

/-- In every run that sends no last notification past a drain, the gate is safe and no drain sleeps
on an empty gate. -/
theorem drain_awake {s : St} (h : (machine.restrict Allowed).Reachable s) : Safe s := by
  obtain ⟨s₀, ls, hi, hr⟩ := h
  have hb : Inv s ∧ Awake s := by
    refine hr.induct (I := fun t => Inv t ∧ Awake t) (fun t l u ht hl => ?_) ⟨Inv.initial hi, ?_⟩
    · exact ⟨ht.1.step hl.2, ht.2.step hl.1 hl.2⟩
    · rw [show s₀ = {} from hi]; rintro (hs | ⟨d, hd, -⟩)
      · cases hs
      · cases hd
  refine ⟨hb.1.drained, fun hf ls s' hr' hl => ?_, fun d hd h0 => ?_⟩
  · exact frozen_until_reopen hr' hb.1 hf hl
  · exact .inl (hb.2 (.inr ⟨d, hd⟩) h0)

def drained : List Lbl :=
  [.enter, .call, .flip 0, .announce 0, .load 0, .notified 0, .dropGuard, .notifyWaiters, .wake 0, .load 0,
    .commit 0]

theorem drain_awake_one_guard :
    ∃ s, (machine.restrict Allowed).Reachable s ∧ s.gate.state = .frozen ∧ Safe s := by
  exact LTS.exists_restrict rfl drained (by decide +kernel) fun _ => drain_awake

def missed : List Lbl := [.enter, .call, .flip 0, .announce 0, .load 0, .dropGuard, .notifyWaiters,
    .notified 0]

theorem drain_misses_last_guard :
    ∃ s, machine.Reachable s ∧ Parked s 0 ∧ s.gate.inFlight = 0 ∧ ¬WakePending s := by
  have h : LTS.exec step {} missed = some ⟨⟨.freezeRequested, 0⟩, ⟨false, [0]⟩, 0, [.waiting]⟩ := by
    decide +kernel
  refine ⟨_, ⟨_, _, rfl, LTS.run_of_exec h⟩, ⟨rfl, ?_⟩, rfl, ?_⟩
  · decide
  · simp [WakePending]

end Aeon.L3.GateDrain
