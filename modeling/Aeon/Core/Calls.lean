import Mathlib.Logic.Function.Basic

/-!
# Calls in flight

Several calls at a time, of which one goes on while the others stand still: `All.update` and
`Pairwise.update` are what then has to be shown of each call, and of any two.
-/
namespace Aeon.Core

abbrev Calls (C : Type*) := Nat → Option C

namespace Calls

variable {C : Type*} {calls : Calls C} {id : Nat} {next : Option C} {P : C → Prop} {R : C → C → Prop}

lemma update_eq_some : Function.update calls id next i = some c ↔
    (i = id ∧ next = some c) ∨ (i ≠ id ∧ calls i = some c) := by
  by_cases hi : i = id <;> simp [hi]

def All (calls : Calls C) (P : C → Prop) : Prop := ∀ i c, calls i = some c → P c

def Others (calls : Calls C) (id : Nat) (P : C → Prop) : Prop := ∀ i c, i ≠ id → calls i = some c → P c

def Pairwise (calls : Calls C) (R : C → C → Prop) : Prop :=
  ∀ i i' c c', i ≠ i' → calls i = some c → calls i' = some c' → R c c'

lemma All.others (h : calls.All P) (id : Nat) : calls.Others id P := fun i c _ => h i c

lemma all_update : All (Function.update calls id next) P ↔ calls.Others id P ∧ ∀ c, next = some c → P c := by
  refine ⟨fun h => ⟨fun i c hi hc => h i c (update_eq_some.mpr (.inr ⟨hi, hc⟩)),
    fun c hc => h id c (update_eq_some.mpr (.inl ⟨rfl, hc⟩))⟩, fun h i c hc => ?_⟩
  obtain ⟨-, hc⟩ | ⟨hi, hc⟩ := update_eq_some.mp hc
  · exact h.2 c hc
  · exact h.1 i c hi hc

lemma Pairwise.update (h : calls.Pairwise R) (hs : ∀ a b, R a b → R b a)
    (hn : ∀ c, next = some c → calls.Others id (R c)) : Pairwise (Function.update calls id next) R := by
  intro i i' c c' hne hc hc'
  rcases update_eq_some.mp hc with ⟨hi, hc⟩ | ⟨hi, hc⟩ <;>
    rcases update_eq_some.mp hc' with ⟨hi', hc'⟩ | ⟨hi', hc'⟩
  · exact absurd (hi.trans hi'.symm) hne
  · exact hn c hc i' c' hi' hc'
  · exact hs _ _ (hn c' hc' i c hi hc)
  · exact h i i' c c' hne hc hc'

lemma Pairwise.others (h : calls.Pairwise R) (hc : calls id = some c) : calls.Others id (R c) :=
  fun i c' hi hc' => h id i c c' hi.symm hc hc'

end Calls

end Aeon.Core
