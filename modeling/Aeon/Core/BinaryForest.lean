import Mathlib.Data.List.Basic
import Mathlib.Data.Nat.Bitwise

/-!
# Forests that grow like a binary counter

Perfect binary trees, one for each set bit of the number of leaves: adding a leaf merges trees as
adding one carries. `forestSize n` counts the nodes over `n` leaves.

* `forestSize_succ`: one more leaf adds one node and one for each carry;
* `forestSize_two_pow_add`: the largest tree comes first, the rest is a forest.
-/
namespace Aeon.Core

open List

def lowZeros (w n : Nat) : Nat := ((List.range w).takeWhile fun i => !n.testBit i).length

def onesBelow (w n : Nat) : Nat := ((List.range w).filter fun i => n.testBit i).length

lemma lowZeros_succ (w n : Nat) : lowZeros (w + 1) n = if n % 2 = 0 then lowZeros w (n / 2) + 1 else 0 := by
  have hb : ((fun i => !n.testBit i) ∘ Nat.succ) = fun i => !(n / 2).testBit i := by grind
  have h0 : n.testBit 0 = decide (n % 2 = 1) := Nat.testBit_zero n
  rw [lowZeros, range_succ_eq_map, takeWhile_cons]
  rcases Nat.mod_two_eq_zero_or_one n with h | h
  · simp [h0, h, takeWhile_map, hb, lowZeros]
  · simp [h0, h]

lemma onesBelow_succ (w n : Nat) : onesBelow (w + 1) n = n % 2 + onesBelow w (n / 2) := by
  have hb : ((fun i => n.testBit i) ∘ Nat.succ) = fun i => (n / 2).testBit i := by grind
  have h0 : n.testBit 0 = decide (n % 2 = 1) := Nat.testBit_zero n
  rw [onesBelow, range_succ_eq_map, filter_cons]; grind [onesBelow]

lemma lowZeros_two_pow (hh : h < w) : lowZeros w (2 ^ h) = h := by
  induction h generalizing w with
  | zero =>
    obtain ⟨w, rfl⟩ := Nat.exists_eq_succ_of_ne_zero (by omega : w ≠ 0)
    rw [Nat.succ_eq_add_one, lowZeros_succ]; rfl
  | succ h ih =>
    obtain ⟨w, rfl⟩ := Nat.exists_eq_succ_of_ne_zero (by omega : w ≠ 0)
    have hha : 2 ^ (h + 1) / 2 = 2 ^ h := by omega
    rw [Nat.succ_eq_add_one, lowZeros_succ, if_pos (by omega), hha, ih (by omega)]

lemma lowZeros_two_pow_add (hp : 0 < r) (hr : r < 2 ^ h) : lowZeros w (2 ^ h + r) = lowZeros w r := by
  induction h generalizing w r with
  | zero => omega
  | succ h ih =>
    cases w with
    | zero => rfl
    | succ =>
      rw [Nat.pow_succ] at hr ⊢
      rw [lowZeros_succ, lowZeros_succ, show (2 ^ h * 2 + r) % 2 = r % 2 by omega,
        show (2 ^ h * 2 + r) / 2 = 2 ^ h + r / 2 by omega]
      split_ifs with he
      · rw [ih (by omega) (by omega)]
      · rfl

lemma two_pow_le_of_lt_lowZeros (hn : 0 < n) (hh : h < lowZeros w n) : 2 ^ (h + 1) ≤ n := by
  induction w generalizing n h with
  | zero => simp [lowZeros] at hh
  | succ =>
    rw [lowZeros_succ] at hh; split_ifs at hh with he
    · cases h with
      | zero => omega
      | succ => grind
    · omega

def forestSize (n : Nat) : Nat := if n = 0 then 0 else n + forestSize (n / 2)

@[simp] lemma forestSize_zero : forestSize 0 = 0 := by simp [forestSize]

lemma forestSize_eq (n : Nat) : forestSize n = n + forestSize (n / 2) := by grind [forestSize]

lemma le_forestSize (n : Nat) : n ≤ forestSize n := by have := forestSize_eq n; omega

lemma forestSize_succ (h : n + 1 < 2 ^ w) :
    forestSize (n + 1) = forestSize n + 1 + lowZeros w (n + 1) := by
  induction w generalizing n with
  | zero => simp at h
  | succ w ih =>
    have hn := forestSize_eq n; have hs := forestSize_eq (n + 1); rw [Nat.pow_succ] at h
    rw [lowZeros_succ]; split_ifs with he
    · have hh : (n + 1) / 2 = n / 2 + 1 := by omega
      have := ih (n := n / 2) (by omega); rw [hh] at hs ⊢; omega
    · have hh : (n + 1) / 2 = n / 2 := by omega
      rw [hh] at hs; omega

lemma forestSize_two_pow_add (h : Nat) (hr : r < 2 ^ h) :
    forestSize (2 ^ h + r) = (2 * 2 ^ h - 1) + forestSize r := by
  induction h generalizing r with
  | zero => simp_all [forestSize]
  | succ h ih =>
    rw [Nat.pow_succ] at hr; have hp := Nat.two_pow_pos h
    have hh : (2 ^ (h + 1) + r) / 2 = 2 ^ h + r / 2 := by rw [Nat.pow_succ]; omega
    have hs := ih (r := r / 2) (by omega); grind [forestSize_eq]

lemma forestSize_add_onesBelow (h : n < 2 ^ w) : forestSize n + onesBelow w n = 2 * n := by
  induction w generalizing n with
  | zero => simp_all [onesBelow]
  | succ => rw [Nat.pow_succ] at h; have hs := forestSize_eq n; grind [onesBelow_succ]

lemma forestSize_lt (h : n < 2 ^ w) : forestSize n < 2 * 2 ^ w := by
  have := forestSize_add_onesBelow h; omega

end Aeon.Core
