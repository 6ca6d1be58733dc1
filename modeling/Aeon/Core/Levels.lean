import Mathlib.Algebra.GroupWithZero.Nat
import Mathlib.Data.List.Nodup

/-!
# Filling places, the emptiest holder first

A greedy loop gives a place to the holder with the most places left, again and again. What stands
above a level shrinks by one with each of them until nothing does (`above_lower`).
-/
namespace Aeon.Core

open List

variable {α : Type*}

def minBy (cmp : α → α → Ordering) : List α → Option α
  | [] => none
  | a :: l => some (l.foldl (fun x y => if cmp x y = .gt then y else x) a)

section MinBy

variable {cmp : α → α → Ordering} {f : α → Nat}

lemma foldl_min_spec (hgt : ∀ x y, cmp x y = .gt → f x ≤ f y) (hle : ∀ x y, cmp x y ≠ .gt → f y ≤ f x) (a : α)
    (l : List α) :
    l.foldl (fun x y => if cmp x y = .gt then y else x) a ∈ a :: l ∧
      ∀ y ∈ a :: l, f y ≤ f (l.foldl (fun x y => if cmp x y = .gt then y else x) a) := by
  induction l generalizing a with
  | nil => simp
  | cons b l ih =>
    rw [foldl_cons]; split_ifs with hab
    · obtain ⟨hm, hma⟩ := ih b; grind
    · obtain ⟨hm, hma⟩ := ih a; grind

lemma minBy_spec (hgt : ∀ x y, cmp x y = .gt → f x ≤ f y) (hle : ∀ x y, cmp x y ≠ .gt → f y ≤ f x)
    (h : minBy cmp l = some m) : m ∈ l ∧ ∀ y ∈ l, f y ≤ f m := by
  cases l with
  | nil => cases h
  | cons a l => cases h; exact foldl_min_spec hgt hle a l

lemma minBy_eq_none (h : minBy cmp l = none) : l = [] := by
  cases l with
  | nil => rfl
  | cons => cases h

end MinBy

abbrev Slots (α : Type*) := List (α × Nat)

namespace Slots

def above (gap : Nat) (s : Slots α) : Nat := (s.map fun e => e.2 - gap).sum

lemma above_eq_zero_iff {gap : Nat} {s : Slots α} : s.above gap = 0 ↔ ∀ e ∈ s, e.2 ≤ gap := by
  rw [above, List.sum_eq_zero_iff_forall_eq_nat]; constructor
  · intro h e he; exact Nat.sub_eq_zero_iff_le.mp (h _ (List.mem_map_of_mem he))
  grind

variable [DecidableEq α]

def lower (a : α) (s : Slots α) : Slots α := s.map fun e => if e.1 = a then (e.1, e.2 - 1) else e

lemma map_fst_lower (a : α) (s : Slots α) : (s.lower a).map Prod.fst = s.map Prod.fst := by
  rw [lower, List.map_map]; refine map_congr_left fun e _ => ?_; grind

lemma lower_of_notMem {a : α} {s : Slots α} (h : a ∉ s.map Prod.fst) : s.lower a = s := by
  conv_rhs => rw [← List.map_id s]
  refine map_congr_left fun e he => ?_; grind

variable {a : α} {d gap : Nat} {s : Slots α}

lemma sum_lower (f : Nat → Nat) (hk : (s.map Prod.fst).Nodup) (h : (a, d) ∈ s) :
    ((s.lower a).map fun e => f e.2).sum + f d = (s.map fun e => f e.2).sum + f (d - 1) := by
  induction s with
  | nil => cases h
  | cons e s =>
    rw [map_cons, nodup_cons] at hk
    have hc : lower a (e :: s) = (if e.1 = a then (e.1, e.2 - 1) else e) :: lower a s := rfl
    rw [hc, map_cons, sum_cons, map_cons, sum_cons]
    rcases mem_cons.mp h with rfl | h
    · rw [if_pos rfl, lower_of_notMem hk.1]; simp only; omega
    grind

lemma above_lower (hk : (s.map Prod.fst).Nodup) (h : (a, d) ∈ s) (hm : ∀ e ∈ s, e.2 ≤ d) :
    (s.lower a).above gap = s.above gap - 1 := by
  have hs := sum_lower (· - gap) hk h; grind [above, above_eq_zero_iff]

end Slots

end Aeon.Core
