import Mathlib.Data.List.Basic
import Mathlib.Data.List.Nodup
import Mathlib.Data.List.Perm.Basic

/-!
# Buckets with a deadline

A map from keys to lists that are filled at the back and emptied as a whole, each with a deadline.

* `items_push`, `items_pop`: nothing is lost and nothing doubled;
* `pop_of_mem`: with one bucket per key, a bucket is found under its key.
-/
namespace Aeon.Core

open List

structure Bucket (β : Type*) where
  items : List β
  deadline : Nat

abbrev Buckets (κ β : Type*) := List (κ × Bucket β)

namespace Buckets

variable {κ β : Type*} [DecidableEq κ]

def push (k : κ) (b : β) (deadline : Nat) : Buckets κ β → Buckets κ β
  | [] => [(k, ⟨[b], deadline⟩)]
  | x :: m => if x.1 = k then (k, ⟨x.2.items ++ [b], deadline⟩) :: m else x :: push k b deadline m

def pop (k : κ) : Buckets κ β → Option (Bucket β × Buckets κ β)
  | [] => none
  | x :: m => if x.1 = k then some (x.2, m) else (pop k m).map fun r => (r.1, x :: r.2)

def items (m : Buckets κ β) : List β := m.flatMap (·.2.items)

def keys (m : Buckets κ β) : List κ := m.map Prod.fst

variable {m m' : Buckets κ β} {k : κ} {b : β} {d : Nat} {bk : Bucket β} {x : κ × Bucket β}

lemma items_push : (push k b d m).items.Perm (b :: m.items) := by
  induction m with
  | nil => exact List.Perm.refl _
  | cons x m ih =>
    rw [push]; split_ifs
    · simp_all [items]
    · show (x.2.items ++ items (push k b d m)).Perm (b :: (x.2.items ++ items m))
      exact (ih.append_left _).trans perm_middle

lemma mem_push (h : x ∈ push k b d m) :
    x ∈ m ∨ ∃ old, x = (k, ⟨old ++ [b], d⟩) ∧ (old = [] ∨ ∃ d', (k, ⟨old, d'⟩) ∈ m) := by
  induction m with
  | nil => exact .inr ⟨[], mem_singleton.mp h, .inl rfl⟩
  | cons y m ih =>
    rw [push] at h; split_ifs at h with hy
    · rcases mem_cons.mp h with rfl | h
      · refine .inr ⟨y.2.items, rfl, .inr ⟨y.2.deadline, ?_⟩⟩; simp [← hy]
      grind
    · rcases mem_cons.mp h with rfl | h
      · exact .inl mem_cons_self
      · rcases ih h with h | ⟨old, hx, hold⟩
        · exact .inl (mem_cons_of_mem _ h)
        · exact .inr ⟨old, hx, hold.imp_right fun ⟨d', hd⟩ => ⟨d', mem_cons_of_mem _ hd⟩⟩

lemma mem_keys_push (h : k' ∈ (push k b d m).keys) : k' ∈ m.keys ∨ k' = k := by
  obtain ⟨x, hx, rfl⟩ := List.mem_map.mp h; rcases mem_push hx with hx | ⟨old, rfl, -⟩
  · exact .inl (List.mem_map_of_mem hx)
  · exact .inr rfl

lemma nodup_push (h : m.keys.Nodup) : (push k b d m).keys.Nodup := by
  induction m with
  | nil => exact nodup_singleton k
  | cons x m ih =>
    obtain ⟨hx, hm⟩ := nodup_cons.mp h; rw [push]; split_ifs with hk
    · subst hk; exact nodup_cons.mpr ⟨hx, hm⟩
    · refine nodup_cons.mpr ⟨fun hme => ?_, ih hm⟩
      rcases mem_keys_push hme with hme | hme
      · exact hx hme
      · exact hk hme

section

variable (h : pop k m = some (bk, m'))
include h

lemma items_pop : m.items.Perm (bk.items ++ m'.items) := by
  induction m generalizing m' with
  | nil => cases h
  | cons x m ih =>
    rw [pop] at h; split_ifs at h
    · cases h; exact List.Perm.refl _
    · obtain ⟨⟨bk', rest⟩, hr, heq⟩ := Option.map_eq_some_iff.mp h; cases heq
      show (x.2.items ++ items m).Perm (bk'.items ++ (x.2.items ++ items rest))
      refine ((ih hr).append_left _).trans ?_; rw [← append_assoc, ← append_assoc]
      exact perm_append_comm.append_right _

lemma mem_of_pop : (k, bk) ∈ m := by
  induction m generalizing m' with
  | nil => cases h
  | cons =>
    rw [pop] at h; split_ifs at h with hx
    · grind
    · obtain ⟨⟨bk', rest⟩, hr, heq⟩ := Option.map_eq_some_iff.mp h; grind

lemma sublist_of_pop : m'.Sublist m := by
  induction m generalizing m' with
  | nil => cases h
  | cons =>
    rw [pop] at h; split_ifs at h
    · grind
    · obtain ⟨⟨bk', rest⟩, hr, heq⟩ := Option.map_eq_some_iff.mp h; grind

lemma nodup_pop (hm : m.keys.Nodup) : m'.keys.Nodup :=
  ((sublist_of_pop h).map Prod.fst).nodup hm

end

lemma pop_of_mem (hm : m.keys.Nodup) (h : (k, bk) ∈ m) : ∃ m', pop k m = some (bk, m') := by
  induction m with
  | nil => cases h
  | cons x m ih =>
    obtain ⟨hx, hm⟩ := nodup_cons.mp hm; rw [pop]
    rcases mem_cons.mp h with rfl | h
    · exact ⟨m, if_pos rfl⟩
    · have hne : x.1 ≠ k := by grind
      obtain ⟨m', hm'⟩ := ih hm h; grind

end Buckets

lemma count_flatMap_set {α β : Type*} [BEq β] {l : List α} {i : Nat} {a a' : α} (f : α → List β) (x : β)
    (h : l[i]? = some a) :
    ((l.set i a').flatMap f).count x + (f a).count x = (l.flatMap f).count x + (f a').count x := by
  induction l generalizing i with
  | nil => cases h
  | cons =>
    cases i with
    | zero | succ => grind

end Aeon.Core
