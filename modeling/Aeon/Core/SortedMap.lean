import Mathlib.Data.List.Lex
import Mathlib.Order.Lattice
import Mathlib.Order.Monotone.Basic
import Aeon.Core.RecordLog

/-!
# Maps with their entries in key order

`BTreeMap` and ordered key-value stores as sorted association lists. Byte-string keys are compared
byte by byte; `beBytes_lt`: big-endian integers keep their order.
-/
namespace Aeon.Core

open List

structure SortedMap (κ ν : Type*) [LinearOrder κ] where
  toList : List (κ × ν)
  sorted : toList.Pairwise fun a b => a.1 < b.1

namespace SortedMap

variable {κ κ' ν ν' : Type*} [LinearOrder κ] [LinearOrder κ']

@[ext] lemma ext {m m' : SortedMap κ ν} (h : m.toList = m'.toList) : m = m' := by
  cases m; cases m'; cases h; rfl

def empty : SortedMap κ ν := ⟨[], .nil⟩

variable (m : SortedMap κ ν)

def get? (k : κ) : Option ν := (m.toList.find? (·.1 = k)).map Prod.snd

def keep (p : κ → Bool) : SortedMap κ ν := ⟨m.toList.filter (p ·.1), m.sorted.filter _⟩

def erase (k : κ) : SortedMap κ ν := m.keep (· ≠ k)

def insert (k : κ) (v : ν) : SortedMap κ ν where
  toList := m.toList.filter (·.1 < k) ++ (k, v) :: m.toList.filter (k < ·.1)
  sorted := by
    refine pairwise_append.mpr ⟨m.sorted.filter _, pairwise_cons.mpr
      ⟨fun b hb => by simpa using (mem_filter.mp hb).2, m.sorted.filter _⟩, ?_⟩
    intro a ha b hb
    have hak : a.1 < k := by simpa using (mem_filter.mp ha).2
    rcases mem_cons.mp hb with rfl | hb
    · exact hak
    · exact hak.trans (by simpa using (mem_filter.mp hb).2)

def mapKeys {f : κ → κ'} (hf : StrictMono f) (g : ν → ν') : SortedMap κ' ν' where
  toList := m.toList.map fun e => (f e.1, g e.2)
  sorted := pairwise_map.mpr (m.sorted.imp fun h => hf h)

variable {m : SortedMap κ ν} {k k' : κ} {v : ν} {p q : κ → Bool}

@[simp] lemma toList_insert : (m.insert k v).toList =
    m.toList.filter (·.1 < k) ++ (k, v) :: m.toList.filter (k < ·.1) := rfl

variable {f : κ → κ'}

@[simp] lemma toList_mapKeys (hf : StrictMono f) (g : ν → ν') :
    (m.mapKeys hf g).toList = m.toList.map fun e => (f e.1, g e.2) := rfl

@[simp] lemma toList_keep : (m.keep p).toList = m.toList.filter (p ·.1) := rfl

lemma keep_keep : (m.keep p).keep q = m.keep fun k => p k && q k := by
  ext1; simp only [toList_keep, List.filter_filter]; grind

lemma keep_comm : (m.keep p).keep q = (m.keep q).keep p := by
  rw [keep_keep, keep_keep]; congr 1; funext k
  exact Bool.and_comm _ _

lemma keep_congr (h : ∀ e ∈ m.toList, p e.1 = q e.1) : m.keep p = m.keep q := ext (filter_congr h)

lemma keep_eq_self (h : ∀ e ∈ m.toList, p e.1 = true) : m.keep p = m := ext (filter_eq_self.mpr h)

lemma filter_lt_append_filter_le {l : List (κ × ν)} (h : l.Pairwise fun a b => a.1 < b.1) (k : κ) :
    l.filter (·.1 < k) ++ l.filter (k ≤ ·.1) = l := by
  induction l with
  | nil => rfl
  | cons a l =>
    obtain ⟨hlt, hl⟩ := pairwise_cons.mp h; by_cases hak : a.1 < k
    · grind
    · -- everything behind `a` is above `k` too
      have hle : k ≤ a.1 := not_lt.mp hak
      have hn : l.filter (·.1 < k) = [] := filter_eq_nil_iff.mpr fun b hb => by grind
      grind

lemma keep_insert_of_not (h : p k = false) : (m.insert k v).keep p = m.keep p := by
  ext1
  have ha : (m.toList.filter (k < ·.1)).filter (p ·.1) = (m.toList.filter (k ≤ ·.1)).filter (p ·.1) := by
    rw [List.filter_filter, List.filter_filter]; refine filter_congr fun e _ => ?_
    by_cases hk : e.1 = k
    · rw [hk, h]; rfl
    · grind
  simp only [toList_keep, toList_insert, filter_append, filter_cons, h, ha, Bool.false_eq_true, if_false]
  rw [← filter_append]; exact congrArg _ (filter_lt_append_filter_le m.sorted k)

lemma keep_insert (h : p k = true) : (m.insert k v).keep p = (m.keep p).insert k v := by
  ext1
  simp only [toList_keep, toList_insert, filter_append, filter_cons, h, if_true, List.filter_filter,
    Bool.and_comm]

lemma mapKeys_insert (hf : StrictMono f) (g : ν → ν') :
    (m.insert k v).mapKeys hf g = (m.mapKeys hf g).insert (f k) (g v) := by
  ext1
  have hlt : ∀ a b, decide (f a < f b) = decide (a < b) := fun a b => decide_eq_decide.mpr hf.lt_iff_lt
  simp only [toList_mapKeys, toList_insert, map_append, map_cons, List.filter_map, Function.comp_def, hlt]

lemma mapKeys_keep (hf : StrictMono f) (g : ν → ν') (p : κ' → Bool) :
    (m.mapKeys hf g).keep p = (m.keep (p ∘ f)).mapKeys hf g := by
  ext1; simp only [toList_mapKeys, toList_keep, List.filter_map]; rfl

lemma toList_insert_of_lt (h : ∀ e ∈ m.toList, e.1 < k) : (m.insert k v).toList = m.toList ++ [(k, v)] := by
  have hn : m.toList.filter (k < ·.1) = [] := filter_eq_nil_iff.mpr fun e he => by simpa using (h e he).le
  rw [toList_insert, hn, filter_eq_self.mpr (by simpa using h)]

lemma get?_keep (h : p k = true) : (m.keep p).get? k = m.get? k := by
  rw [get?, get?, toList_keep, find?_filter]; grind

lemma get?_insert_self : (m.insert k v).get? k = some v := by
  have hn : (m.toList.filter (·.1 < k)).find? (·.1 = k) = none := find?_eq_none.mpr fun e he => by grind
  rw [get?, toList_insert, find?_append, hn]; simp

lemma get?_erase_of_ne (h : k' ≠ k) : (m.erase k).get? k' = m.get? k' := get?_keep (decide_eq_true h)

lemma get?_insert_of_ne (h : k' ≠ k) : (m.insert k v).get? k' = m.get? k' := by
  have he : (m.insert k v).erase k = m.erase k := keep_insert_of_not (by simp)
  rw [← get?_erase_of_ne h, he, get?_erase_of_ne h]

lemma get?_erase_self : (m.erase k).get? k = none := by
  have hn : (m.erase k).toList.find? (·.1 = k) = none := find?_eq_none.mpr fun e he => by
    simpa using (mem_filter.mp he).2
  rw [get?, hn]; rfl

lemma foldl_erase (ks : List κ) : ks.foldl erase m = m.keep (· ∉ ks) := by
  induction ks generalizing m with
  | nil => exact (keep_eq_self (by simp)).symm
  | cons k ks ih => simp [foldl_cons, ih, erase, keep_keep]

lemma get?_eq_none : m.get? k = none ↔ k ∉ m.toList.map Prod.fst := by
  rw [get?, Option.map_eq_none_iff, find?_eq_none, List.mem_map]; grind

lemma perm_of_find? {l : List (κ × ν)} {e : κ × ν} (hl : l.Pairwise fun a b => a.1 < b.1)
    (h : l.find? (·.1 = k) = some e) : l.Perm (e :: l.filter (·.1 ≠ k)) := by
  induction l with
  | nil => cases h
  | cons x l ih =>
    obtain ⟨hx, hl⟩ := pairwise_cons.mp hl; by_cases hk : x.1 = k
    · rw [find?_cons_of_pos (by simp [hk])] at h; obtain rfl := Option.some.inj h
      have hr : l.filter (·.1 ≠ k) = l := filter_eq_self.mpr fun y hy => by simpa using (hk ▸ hx y hy).ne'
      rw [filter_cons_of_neg (by simp [hk]), hr]
    · rw [find?_cons_of_neg (by simp [hk])] at h
      rw [filter_cons_of_pos (by simp [hk])]
      exact ((ih hl h).cons x).trans (.swap _ _ _)

lemma perm_erase (h : m.get? k = some v) : m.toList.Perm ((k, v) :: (m.erase k).toList) := by
  obtain ⟨e, he, rfl⟩ := Option.map_eq_some_iff.mp h
  have hk : e.1 = k := by simpa using find?_some he
  have hp := perm_of_find? m.sorted he; subst hk; exact hp

lemma perm_insert : (m.insert k v).toList.Perm ((k, v) :: (m.erase k).toList) := by
  have h₁ : (m.erase k).toList.filter (·.1 < k) = m.toList.filter (·.1 < k) := by
    rw [erase, toList_keep, List.filter_filter]; exact filter_congr fun e _ => by grind
  have h₂ : (m.erase k).toList.filter (fun e => !decide (e.1 < k)) = m.toList.filter (k < ·.1) := by
    rw [erase, toList_keep, List.filter_filter]; exact filter_congr fun e _ => by grind
  rw [toList_insert, ← h₁, ← h₂]
  exact perm_middle.trans (.cons _ (filter_append_perm _ _))

end SortedMap

/-! ## Byte strings as keys

The orders of the machine integers are instances only where `KeyOrder` is open. -/

namespace KeyOrder

scoped instance linearOrderUInt8 : LinearOrder UInt8 where
  le_refl _ := UInt8.le_refl _
  le_trans _ _ _ := UInt8.le_trans
  lt_iff_le_not_ge a b := by rw [UInt8.lt_iff_toNat_lt, UInt8.le_iff_toNat_le, UInt8.le_iff_toNat_le]; omega
  le_antisymm _ _ := UInt8.le_antisymm
  le_total := UInt8.le_total
  toDecidableLE := inferInstance
  toDecidableEq := inferInstance
  toDecidableLT := inferInstance

scoped instance linearOrderUInt64 : LinearOrder UInt64 where
  le_refl _ := UInt64.le_refl _
  le_trans _ _ _ := UInt64.le_trans
  lt_iff_le_not_ge a b := by
    rw [UInt64.lt_iff_toNat_lt, UInt64.le_iff_toNat_le, UInt64.le_iff_toNat_le]; omega
  le_antisymm _ _ := UInt64.le_antisymm
  le_total := UInt64.le_total
  toDecidableLE := inferInstance
  toDecidableEq := inferInstance
  toDecidableLT := inferInstance

end KeyOrder

open scoped KeyOrder

def beBytes (w n : Nat) : Bytes := (leBytes w n).reverse

lemma append_lt_append_left (s : Bytes) (h : a < b) : s ++ a < s ++ b := by
  induction s with
  | nil => exact h
  | cons x s ih => exact cons_lt_cons_iff.mpr (.inr ⟨rfl, ih⟩)

lemma append_lt_append (hl : a.length = b.length) (h : a < b) (s t : Bytes) : a ++ s < b ++ t := by
  induction a generalizing b with
  | nil => grind
  | cons =>
    cases b with
    | nil => cases hl
    | cons =>
      rcases cons_lt_cons_iff.mp h with hxy | ⟨rfl, hab⟩
      · exact cons_lt_cons_iff.mpr (.inl hxy)
      simp_all

lemma beBytes_lt (hb : b < 256 ^ w) (hab : a < b) : beBytes w a < beBytes w b := by
  induction w generalizing a b with
  | zero => simp at hb; omega
  | succ w ih =>
    have hd : b / 256 < 256 ^ w := Nat.div_lt_of_lt_mul (by rw [Nat.pow_succ] at hb; omega)
    simp only [beBytes, leBytes, reverse_cons] at ih ⊢; by_cases hq : a / 256 < b / 256
    · exact append_lt_append (by simp) (ih hd hq) _ _
    · -- the same high bytes: the last byte decides
      have hq' : a / 256 = b / 256 := by omega
      rw [hq']; refine append_lt_append_left _ (cons_lt_cons_iff.mpr (.inl ?_))
      grind [UInt8.lt_iff_toNat_lt, UInt8.toNat_ofNat']

end Aeon.Core
