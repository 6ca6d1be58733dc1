import Mathlib.Data.List.Induction

/-!
# Labelled transition systems

States moved by labels. A label carries everything a step is told from outside, so that "every run
whose steps meet `C`" is a run of `M.restrict C`.

* `Inductive.reachable`, `Run.induct`: an inductive predicate holds along every run;
* `Reachable.map`: what one system reaches, seen as the states of another.
-/
namespace Aeon.Core

open Option

structure LTS (St Lbl : Type*) where
  init : St → Prop
  step : St → Lbl → St → Prop

namespace LTS

variable {St Lbl : Type*}

def ofFn (init : St → Prop) (f : St → Lbl → Option St) : LTS St Lbl where
  init := init
  step s l s' := f s l = some s'

inductive Run (M : LTS St Lbl) : St → List Lbl → St → Prop
  | nil (s : St) : Run M s [] s
  | cons {s t u : St} {l : Lbl} {ls : List Lbl} :
      M.step s l t → Run M t ls u → Run M s (l :: ls) u

def Reachable (M : LTS St Lbl) (s : St) : Prop := ∃ s₀ ls, M.init s₀ ∧ M.Run s₀ ls s

structure Inductive (M : LTS St Lbl) (I : St → Prop) : Prop where
  init : ∀ s, M.init s → I s
  step : ∀ s l s', I s → M.step s l s' → I s'

def restrict (M : LTS St Lbl) (C : St → Lbl → Prop) : LTS St Lbl where
  init := M.init
  step s l s' := C s l ∧ M.step s l s'

variable {M : LTS St Lbl} {s t u : St} {ls ls' : List Lbl}

lemma Run.append (h : M.Run s ls t) (h' : M.Run t ls' u) : M.Run s (ls ++ ls') u := by
  induction h with
  | nil => exact h'
  | cons hst _ ih => exact .cons hst (ih h')

lemma Run.of_append (h : M.Run s (ls ++ ls') u) : ∃ t, M.Run s ls t ∧ M.Run t ls' u := by
  induction ls generalizing s with
  | nil => exact ⟨s, .nil s, h⟩
  | cons l ls ih =>
    cases h with
    | cons hst hr => obtain ⟨t, h₁, h₂⟩ := ih hr; exact ⟨t, .cons hst h₁, h₂⟩

lemma Run.induct {I : St → Prop} (hse : ∀ s l s', I s → M.step s l s' → I s') (h : M.Run s ls t) (hs : I s) :
    I t := by
  induction h with
  | nil => exact hs
  | cons hst _ ih => exact ih (hse _ _ _ hs hst)

lemma Run.induct_labels {I : List Lbl → St → Prop} (hs : I [] s)
    (hse : ∀ ls t l u, I ls t → M.step t l u → I (ls ++ [l]) u) (h : M.Run s ls t) : I ls t := by
  induction ls using List.reverseRecOn generalizing t with
  | nil => cases h; exact hs
  | append_singleton ls l ih =>
    obtain ⟨u, hu, hl⟩ := h.of_append
    cases hl with
    | cons hst hn => cases hn; exact hse ls u l t (ih hu) hst

lemma Run.of_restrict (h : (M.restrict C).Run s ls t) : M.Run s ls t := by
  induction h with
  | nil => exact .nil _
  | cons hst _ ih => exact .cons hst.2 ih

lemma Run.restrict_mono (h : (M.restrict C).Run s ls t) (hC : ∀ s l, C s l → C' s l) :
    (M.restrict C').Run s ls t := by
  induction h with
  | nil => exact .nil _
  | cons hst _ ih => exact .cons ⟨hC _ _ hst.1, hst.2⟩ ih

def exec (f : St → Lbl → Option St) : St → List Lbl → Option St
  | s, [] => some s
  | s, l :: ls => (f s l).bind fun t => exec f t ls

variable {init : St → Prop}

lemma run_of_exec (h : exec f s ls = some t) : (ofFn init f).Run s ls t := by
  induction ls generalizing s with
  | nil => cases h; exact .nil _
  | cons l ls ih => obtain ⟨u, hu, hr⟩ := bind_eq_some_iff.mp h; exact .cons hu (ih hr)

lemma exists_run {init P : St → Prop} [DecidablePred P] (h : (exec f s ls).any (P ·) = true) :
    ∃ t, (ofFn init f).Run s ls t ∧ P t := by
  obtain ⟨t, ht, hp⟩ := (any_eq_true ..).mp h
  exact ⟨t, run_of_exec ht, of_decide_eq_true hp⟩

lemma exists_reachable {init P : St → Prop} [DecidablePred P] (hi : init s) (ls : List Lbl)
    (h : (exec f s ls).any (P ·) = true) : ∃ t, (ofFn init f).Reachable t ∧ P t := by
  obtain ⟨t, ht, hp⟩ : ∃ t, (ofFn init f).Run s ls t ∧ P t := exists_run h
  exact ⟨t, ⟨s, ls, hi, ht⟩, hp⟩

lemma run_exec_get (h : (exec f s ls).isSome = true) : (ofFn init f).Run s ls ((exec f s ls).get h) :=
  run_of_exec (some_get h).symm

def Along (f : St → Lbl → Option St) (C : St → Lbl → Prop) : St → List Lbl → Prop
  | _, [] => True
  | s, l :: ls => C s l ∧ ∃ t, f s l = some t ∧ Along f C t ls

lemma run_restrict (h : Along f C s ls) (ht : exec f s ls = some t) :
    ((ofFn init f).restrict C).Run s ls t := by
  induction ls generalizing s with
  | nil => cases ht; exact .nil _
  | cons l ls ih => obtain ⟨hC, u, hu, hr⟩ := h; rw [exec, hu] at ht; exact .cons ⟨hC, hu⟩ (ih hr ht)

lemma run_restrict_of_exec [∀ s l, Decidable (C s l)]
    (h : exec (fun s l => if C s l then f s l else none) s ls = some t) :
    ((ofFn init f).restrict C).Run s ls t := by
  induction ls generalizing s with
  | nil => cases h; exact .nil _
  | cons l ls ih =>
    obtain ⟨u, hu, hr⟩ := bind_eq_some_iff.mp h
    rw [ite_none_right_eq_some] at hu; exact .cons hu (ih hr)

lemma exists_restrict {init P Q : St → Prop} [∀ s l, Decidable (C s l)] [DecidablePred P] (hi : init s)
    (ls : List Lbl) (h : (exec (fun s l => if C s l then f s l else none) s ls).any (P ·) = true)
    (hq : ∀ t, ((ofFn init f).restrict C).Reachable t → Q t) :
    ∃ t, ((ofFn init f).restrict C).Reachable t ∧ P t ∧ Q t := by
  obtain ⟨t, ht, hp⟩ := (any_eq_true ..).mp h
  have hr : ((ofFn init f).restrict C).Reachable t := ⟨s, ls, hi, run_restrict_of_exec ht⟩
  exact ⟨t, hr, of_decide_eq_true hp, hq t hr⟩

lemma Inductive.reachable (hI : M.Inductive I) (h : M.Reachable s) : I s := by
  obtain ⟨s₀, ls, h₀, hr⟩ := h; exact hr.induct hI.step (hI.init s₀ h₀)

lemma Reachable.map {St' Lbl' : Type*} {N : LTS St' Lbl'} {f : St → St'} (hi : ∀ s, M.init s → N.init (f s))
    (hs : ∀ s l s', M.step s l s' → f s' = f s ∨ ∃ l', N.step (f s) l' (f s')) (h : M.Reachable s) :
    N.Reachable (f s) := by
  obtain ⟨s₀, ls, h₀, hr⟩ := h
  refine hr.induct (I := fun t => N.Reachable (f t)) (fun t l u ht hl => ?_) ⟨f s₀, [], hi s₀ h₀, .nil _⟩
  rcases hs t l u hl with hsa | ⟨l', hl'⟩
  · rwa [hsa]
  · obtain ⟨t₀, ls', ht₀, hr'⟩ := ht
    exact ⟨t₀, ls' ++ [l'], ht₀, hr'.append (.cons hl' (.nil _))⟩

end LTS

end Aeon.Core
