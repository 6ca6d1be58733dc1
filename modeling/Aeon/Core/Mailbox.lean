import Mathlib.Logic.Function.Basic
import Aeon.Core.LTS
import Aeon.Core.Notify

/-!
# A slot with a handshake

Callers put an action into one slot and wait for a notification; a consumer takes what it finds
there. Nothing ties a notification to an action.

* `safe_of_alone`: a caller that posts only while no other call is in flight has its action taken
  once.
-/
namespace Aeon.Core

open Function

inductive Mailbox.Pc
  | posted
  | waiting
  | returned
  deriving DecidableEq

structure Mailbox (A : Type*) where
  slot : Option (Nat × A) := none
  complete : Notify Nat := {}
  calls : Nat → Option (A × Mailbox.Pc) := fun _ => none
  applied : List (Nat × A) := []
  replaced : List Nat := []

namespace Mailbox

variable {A : Type*} {m m' : Mailbox A} {c : Nat} {a : A}

def Pc.wake : Pc → Pc
  | .waiting => .returned
  | pc => pc

def wake (m : Mailbox A) : Option Nat → Mailbox A
  | none => m
  | some c => { m with calls := update m.calls c ((m.calls c).map fun x => (x.1, x.2.wake)) }

inductive Lbl (A : Type*)
  | post (c : Nat) (a : A)
  | poll (c : Nat)
  | take

def notified (m : Mailbox A) : Mailbox A :=
  let (n, woken) := m.complete.notifyOne
  ({ m with complete := n } : Mailbox A).wake woken

def taken (m : Mailbox A) (x : Nat × A) : Mailbox A :=
  ({ m with slot := none, applied := m.applied ++ [x] } : Mailbox A).notified

def polled (m : Mailbox A) (c : Nat) (a : A) : Mailbox A :=
  let (n, now) := m.complete.poll c
  { m with
    complete := n
    calls := update m.calls c (some (a, if now then .returned else .waiting)) }

def step (m : Mailbox A) : Lbl A → Option (Mailbox A)
  | .post c a =>
    match m.calls c with
    | some _ => none
    | none =>
      some { m with
        slot := some (c, a)
        calls := update m.calls c (some (a, .posted))
        replaced := m.replaced ++ (m.slot.map Prod.fst).toList }
  | .poll c =>
    match m.calls c with
    | some (a, .posted) => some (m.polled c a)
    | _ => none
  | .take => m.slot.map m.taken

def lts (A : Type*) : LTS (Mailbox A) (Lbl A) := .ofFn (· = {}) step

def Quiet (m : Mailbox A) : Prop := ∀ c a pc, m.calls c = some (a, pc) → pc = .returned

def Alone (m : Mailbox A) : Lbl A → Prop
  | .post _ _ => m.Quiet
  | _ => True

def appliedFor (m : Mailbox A) (c : Nat) : List (Nat × A) := m.applied.filter (·.1 = c)

structure Safe (m : Mailbox A) : Prop where
  returned : ∀ c a, m.calls c = some (a, .returned) → m.appliedFor c = [(c, a)]
  once : ∀ c a pc, m.calls c = some (a, pc) → m.appliedFor c = [] ∨ m.appliedFor c = [(c, a)]
  unmade : ∀ c, m.calls c = none → m.appliedFor c = []
  replaced : m.replaced = []

inductive Flight (m : Mailbox A) (c : Nat) (a : A) : Prop
  | posted (call : m.calls c = some (a, .posted)) (slot : m.slot = some (c, a)) (complete : m.complete = {})
      (applied : m.appliedFor c = [])
  | taken (call : m.calls c = some (a, .posted)) (slot : m.slot = none)
      (complete : m.complete = { permit := true }) (applied : m.appliedFor c = [(c, a)])
  | waiting (call : m.calls c = some (a, .waiting)) (slot : m.slot = some (c, a))
      (complete : m.complete = { waiters := [c] }) (applied : m.appliedFor c = [])

structure Inv (m : Mailbox A) : Prop where
  safe : Safe m
  flight : (m.slot = none ∧ m.complete = {} ∧ m.Quiet) ∨
    ∃ c a, Flight m c a ∧ ∀ c' a' pc, c' ≠ c → m.calls c' = some (a', pc) → pc = .returned

lemma Inv.empty : Inv ({} : Mailbox A) := ⟨⟨nofun, nofun, fun _ _ => rfl, rfl⟩, .inl ⟨rfl, rfl, nofun⟩⟩

lemma Flight.not_quiet (h : Flight m c a) : ¬ m.Quiet := by
  intro hq
  cases h with
  | posted call | taken call | waiting call => cases hq c a _ call

lemma appliedFor_taken (m : Mailbox A) (x : Nat × A) (c : Nat) :
    (m.taken x).appliedFor c = m.appliedFor c ++ if x.1 = c then [x] else [] := by
  have ha : (m.taken x).applied = m.applied ++ [x] := by
    unfold taken notified wake; split
    rename_i o _
    cases o <;> rfl
  grind [appliedFor]

lemma Safe.update (h : Safe m) (hca : m'.calls = update m.calls c (some (a, pc)))
    (ho : ∀ c', c' ≠ c → m'.appliedFor c' = m.appliedFor c')
    (hc : m'.appliedFor c = [(c, a)] ∨ pc ≠ .returned ∧ m'.appliedFor c = []) (hr : m'.replaced = []) :
    Safe m' where
  returned c' a' hc' := by
    rw [hca] at hc'; by_cases hcc : c' = c
    · subst hcc; simp only [update_self, Option.some.injEq, Prod.mk.injEq] at hc'
      obtain ⟨rfl, hpc⟩ := hc'; exact hc.resolve_right fun hne => hne.1 hpc
    · rw [ho c' hcc]; exact h.returned c' a' (by simpa [hcc] using hc')
  once c' a' pc' hc' := by
    rw [hca] at hc'; by_cases hcc : c' = c
    · subst hcc; simp only [update_self, Option.some.injEq, Prod.mk.injEq] at hc'
      obtain ⟨rfl, -⟩ := hc'; exact hc.elim .inr fun hne => .inl hne.2
    · rw [ho c' hcc]; exact h.once c' a' pc' (by simpa [hcc] using hc')
  unmade c' hc' := by
    rw [hca] at hc'; by_cases hcc : c' = c
    · subst hcc; simp at hc'
    · rw [ho c' hcc]; exact h.unmade c' (by simpa [hcc] using hc')
  replaced := hr

def Rest (m : Mailbox A) (c : Nat) : Prop := ∀ c' a' pc, c' ≠ c → m.calls c' = some (a', pc) → pc = .returned

lemma Rest.update (h : Rest m c) (hc : m'.calls = update m.calls c (some (a, pc))) : Rest m' c := by
  intro c' a' pc' hne hc'; rw [hc] at hc'; exact h c' a' pc' hne (by simpa [hne] using hc')

lemma Rest.quiet (h : Rest m c) (hc : m.calls c = some (a, .returned)) : m.Quiet := by
  intro c' a' pc hc'; by_cases hcc : c' = c
  · grind
  · exact h c' a' pc hcc hc'

lemma Inv.post (h : Inv m) (hq : m.Quiet) (hn : m.calls c = none) : Inv { m with
      slot := some (c, a)
      calls := update m.calls c (some (a, .posted))
      replaced := m.replaced ++ (m.slot.map Prod.fst).toList } := by
  rcases h.flight with ⟨hs, hc, -⟩ | ⟨c₀, a₀, hf, -⟩
  swap
  · exact absurd hq hf.not_quiet
  have ha : m.appliedFor c = [] := h.safe.unmade c hn
  have hr : Rest m c := fun c' a' pc _ hc' => hq c' a' pc hc'
  refine ⟨h.safe.update rfl (fun _ _ => rfl) (.inr ⟨nofun, ha⟩) ?_, .inr ⟨c, a, ?_, hr.update rfl⟩⟩
  · simp [hs, h.safe.replaced]
  · exact .posted (update_self ..) rfl hc ha

lemma Inv.poll (h : Inv m) (hc : m.calls c = some (a, .posted)) : Inv (m.polled c a) := by
  rcases h.flight with ⟨-, -, hq⟩ | ⟨c₀, a₀, hf, hr⟩
  · cases hq c a _ hc
  obtain rfl : c₀ = c := by by_contra hne; grind
  cases hf with
  | posted call slot complete applied =>
    cases call.symm.trans hc
    have hp : m.polled c₀ a = { m with
        complete := { waiters := [c₀] }, calls := update m.calls c₀ (some (a, .waiting)) } := by
      simp [Mailbox.polled, complete, Notify.poll]
    rw [hp]
    exact ⟨h.safe.update rfl (fun _ _ => rfl) (.inr ⟨nofun, applied⟩) h.safe.replaced,
      .inr ⟨c₀, a, .waiting (update_self ..) slot rfl applied, Rest.update hr rfl⟩⟩
  | taken call slot complete applied =>
    cases call.symm.trans hc
    have hp : m.polled c₀ a = { m with
        complete := {}, calls := update m.calls c₀ (some (a, .returned)) } := by
      simp [Mailbox.polled, complete, Notify.poll]
    rw [hp]
    exact ⟨h.safe.update rfl (fun _ _ => rfl) (.inl applied) h.safe.replaced,
      .inl ⟨slot, rfl, (Rest.update hr rfl).quiet (update_self ..)⟩⟩
  | waiting call => cases call.symm.trans hc

lemma Inv.take (h : Inv m) (hsl : m.slot = some x) : Inv (m.taken x) := by
  rcases h.flight with ⟨hn, -, -⟩ | ⟨c, a, hf, hr⟩
  · cases hn.symm.trans hsl
  have hfo := appliedFor_taken m x
  cases hf with
  | posted call slot complete applied =>
    cases slot.symm.trans hsl
    have ht : m.taken (c, a) = { m with
        slot := none, applied := m.applied ++ [(c, a)], complete := { permit := true } } := by
      simp [Mailbox.taken, notified, complete, Notify.notifyOne, wake]
    rw [ht] at hfo ⊢; have hs := hfo c; rw [applied, if_pos rfl] at hs
    refine ⟨h.safe.update (update_eq_self_iff.mpr call.symm).symm ?_ (.inl hs) h.safe.replaced,
      .inr ⟨c, a, .taken call rfl rfl hs, hr⟩⟩
    grind
  | taken _ slot => cases slot.symm.trans hsl
  | waiting call slot complete applied =>
    cases slot.symm.trans hsl
    have ht : m.taken (c, a) = { m with
        slot := none, applied := m.applied ++ [(c, a)], complete := {}
        calls := update m.calls c (some (a, .returned)) } := by
      simp [Mailbox.taken, notified, complete, Notify.notifyOne, wake, call, Pc.wake]
    rw [ht] at hfo ⊢; have hs := hfo c; rw [applied, if_pos rfl] at hs
    refine ⟨h.safe.update rfl ?_ (.inl hs) h.safe.replaced,
      .inl ⟨rfl, rfl, (Rest.update hr rfl).quiet (update_self ..)⟩⟩
    grind

lemma Inv.step (h : Inv m) (ha : m.Alone l) (hs : m.step l = some m') : Inv m' := by
  cases l with
  | post =>
    simp only [Mailbox.step] at hs; split at hs
    · cases hs
    · rename_i hn
      cases hs; exact h.post ha hn
  | poll =>
    simp only [Mailbox.step] at hs; split at hs
    · rename_i a hc
      cases hs; exact h.poll hc
    · cases hs
  | take => obtain ⟨x, hsl, rfl⟩ := Option.map_eq_some_iff.mp hs; exact h.take hsl

lemma safe_of_alone (h : ((lts A).restrict Alone).Reachable m) : Safe m := by
  have hi : ((lts A).restrict Alone).Inductive Inv :=
    ⟨fun _ hm => hm ▸ Inv.empty, fun _ _ _ hin hst => hin.step hst.1 hst.2⟩
  exact (hi.reachable h).safe

end Mailbox

end Aeon.Core
