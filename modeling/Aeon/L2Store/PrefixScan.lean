import Mathlib.Data.List.TakeWhile
import Aeon.Core.SortedMap

/-!
# Prefix scans of the L3 store

`RedbStore::scan_prefix` (`crates/aeon-state/src/l3.rs`) reads from the prefix to the least key
above all that start with it, or to the end.

* `scan_exact`: a scan returns exactly the entries under the prefix, in order.
-/
namespace Aeon.L2.PrefixScan

open List Aeon.Core
open scoped Aeon.Core.KeyOrder

def bump : Bytes → Option Bytes
  | [] => none
  | last :: upper => if last < 0xFF then some ((last + 1) :: upper) else bump upper

/-- mirrors l3.rs:304-315 -/
def prefixUpperBound (start : Bytes) : Option Bytes := (bump start.reverse).map reverse

def InRange (start : Bytes) (upper : Option Bytes) (key : Bytes) : Prop := start ≤ key ∧ ∀ u ∈ upper, key < u
  deriving Decidable

def range (table : SortedMap Bytes Bytes) (start : Bytes) (upper : Option Bytes) : List (Bytes × Bytes) :=
  table.toList.filter (InRange start upper ·.1)

/-- mirrors l3.rs:245-288 -/
def scanPrefix (table : SortedMap Bytes Bytes) (start : Bytes) : List (Bytes × Bytes) :=
  match prefixUpperBound start with
  | some upper => range table start (some upper)
  | none => (range table start none).takeWhile (start.isPrefixOf ·.1)

lemma bump_concat (l : Bytes) (b : UInt8) : bump (l ++ [b]) =
    match bump l with
    | some upper => some (upper ++ [b])
    | none => if b < 0xFF then some [b + 1] else none := by
  induction l with
  | nil => rfl
  | cons last l ih =>
    rw [cons_append, bump, bump, ih]
    split_ifs <;> rfl

lemma prefixUpperBound_cons (b : UInt8) (start : Bytes) : prefixUpperBound (b :: start) =
    match prefixUpperBound start with
    | some upper => some (b :: upper)
    | none => if b < 0xFF then some [b + 1] else none := by
  rw [prefixUpperBound, reverse_cons, bump_concat, prefixUpperBound]
  cases bump start.reverse with
  | some => simp
  | none => split_ifs <;> simp

lemma lt_add_one_iff {b c : UInt8} (h : b < 0xFF) : c < b + 1 ↔ c ≤ b := by
  rw [UInt8.lt_iff_toNat_lt, UInt8.le_iff_toNat_le, UInt8.toNat_add]
  have : b.toNat < 255 := h
  simp; omega

lemma cons_le_cons_iff' {b c : UInt8} {start key : Bytes} :
    b :: start ≤ c :: key ↔ b < c ∨ b = c ∧ start ≤ key := by
  rw [← not_lt, cons_lt_cons_iff, ← not_lt (a := key)]
  rcases lt_trichotomy b c with h | rfl | h
  · simp [h, h.not_gt, h.ne']
  · simp
  · simp [h, h.not_gt, h.ne']

lemma inRange_iff (start key : Bytes) : InRange start (prefixUpperBound start) key ↔ start <+: key := by
  induction start generalizing key with
  | nil => simp [InRange, prefixUpperBound, bump, ← not_lt]
  | cons b start ih =>
    cases key with
    | nil => simp [InRange, ← not_lt]
    | cons c key =>
      rw [InRange, prefixUpperBound_cons, cons_prefix_cons, ← ih key, InRange]
      cases hu : prefixUpperBound start with
      | some =>
        simp only [Option.mem_def, Option.some.injEq, forall_eq', cons_le_cons_iff', cons_lt_cons_iff]
        grind
      | none =>
        split_ifs with hb
        · simp only [Option.mem_def, Option.some.injEq, forall_eq', cons_le_cons_iff', cons_lt_cons_iff,
            lt_add_one_iff hb, not_lt_nil]
          grind
        · -- nothing is above a byte `0xFF`
          have hc : c ≤ b := by
            rw [UInt8.le_iff_toNat_le]; have : ¬ b.toNat < 255 := hb
            have := c.toNat_lt; omega
          simp only [cons_le_cons_iff']
          grind

lemma scanPrefix_eq (table : SortedMap Bytes Bytes) (start : Bytes) :
    scanPrefix table start = table.toList.filter (start.isPrefixOf ·.1) := by
  have hr : range table start (prefixUpperBound start) = table.toList.filter (start.isPrefixOf ·.1) := by
    refine filter_congr fun e _ => ?_
    rw [Bool.eq_iff_iff, decide_eq_true_eq, isPrefixOf_iff_prefix]; exact inRange_iff start e.1
  rw [scanPrefix]
  cases hu : prefixUpperBound start with
  | some => rw [hu] at hr; exact hr
  | none =>
    rw [hu] at hr; rw [hr]
    exact takeWhile_eq_self_iff.mpr fun e he => (mem_filter.mp he).2

/-- **Prefix scans.** -/
theorem scan_exact (start : Bytes) :
    (∀ key, InRange start (prefixUpperBound start) key ↔ start <+: key) ∧
    ∀ table, scanPrefix table start = table.toList.filter (start.isPrefixOf ·.1) ∧
      (scanPrefix table start).Pairwise fun a b => a.1 < b.1 := by
  refine ⟨inRange_iff start, fun table => ?_⟩
  have hs := scanPrefix_eq table start
  exact ⟨hs, hs ▸ table.sorted.filter _⟩

end Aeon.L2.PrefixScan
