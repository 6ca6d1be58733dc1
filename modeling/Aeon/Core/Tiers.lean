import Mathlib.Logic.Function.Basic

/-!
# Two tiers over a map

`Tiers m u l`: what a reader finds in the upper tier, or in the lower one where the upper has
nothing, is what `m` holds. A write may skip the lower tier (`Tiers.write`), a deletion may not.
-/
namespace Aeon.Core

open Function

variable {κ β : Type*} [DecidableEq κ]

def Tiers (m u l : κ → Option β) : Prop := ∀ k v, (u k).or (l k) = some v → m k = some v

namespace Tiers

variable {m u l : κ → Option β} {k : κ} {v : β}

section

variable (h : Tiers m u l)
include h

lemma update (k : κ) (hk : ∀ w, x.or y = some w → z = some w) :
    Tiers (Function.update m k z) (Function.update u k x) (Function.update l k y) := by
  intro j w hw; by_cases hjk : j = k
  · grind
  · rw [update_of_ne hjk, update_of_ne hjk] at hw
    rw [update_of_ne hjk]; exact h j w hw

lemma write (k : κ) (v : β) :
    Tiers (Function.update m k (some v)) (Function.update u k (some v)) l := by
  have hk := h.update k (x := some v) (y := l k) (z := some v) fun w hw => hw; simp_all

lemma promote (hk : m k = some v) : Tiers m (Function.update u k (some v)) l := by
  have hw := h.write k v; rwa [← hk, update_eq_self k m, hk] at hw

lemma erase (k : κ) :
    Tiers (Function.update m k none) (Function.update u k none) (Function.update l k none) :=
  h.update k fun _ hw => hw

lemma demote (hk : u k = some v) :
    Tiers m (Function.update u k none) (Function.update l k (some v)) := by
  have hm : m k = some v := h k v (by rw [hk, Option.some_or])
  have hd := h.update k (x := none) (y := some v) (z := some v) fun w hw => hw
  rwa [← hm, update_eq_self k m, hm] at hd

end

end Tiers

end Aeon.Core
