import Mathlib.Algebra.BigOperators.Group.List.Basic
import Mathlib.Algebra.GroupWithZero.Nat
import Mathlib.Data.List.Induction
import Mathlib.Logic.Function.Basic

/-!
# Keyed logs with an index of offsets

A log of keys with new values or tombstones holds a map (`contents`); `index` gives the offset of
the last entry of each key.
-/
namespace Aeon.Core.KeyedLog

variable {κ β : Type*} [DecidableEq κ]

abbrev Entry (κ β : Type*) := κ × Option β

def contents (log : List (Entry κ β)) : κ → Option β :=
  log.foldl (fun m e => Function.update m e.1 e.2) fun _ => none

def index (size : Entry κ β → Nat) (base : Nat) (log : List (Entry κ β)) : (κ → Option Nat) × Nat :=
  log.foldl (fun r e => (Function.update r.1 e.1 (e.2.map fun _ => r.2), r.2 + size e)) (fun _ => none, base)

variable {size : Entry κ β → Nat} {base : Nat} {log : List (Entry κ β)} {e : Entry κ β} {k : κ}

lemma contents_snoc : contents (log ++ [e]) = Function.update (contents log) e.1 e.2 := by
  simp [contents, List.foldl_append]

lemma index_snoc : index size base (log ++ [e]) =
    (Function.update (index size base log).1 e.1 (e.2.map fun _ => (index size base log).2),
      (index size base log).2 + size e) := by simp [index, List.foldl_append]

lemma fst_index_snoc : (index size base (log ++ [e])).1 =
    Function.update (index size base log).1 e.1 (e.2.map fun _ => (index size base log).2) := by
      rw [index_snoc]

lemma snd_index : (index size base log).2 = base + (log.map size).sum := by
  induction log using List.reverseRecOn with
  | nil => rfl
  | append_singleton log e ih => rw [index_snoc, ih]; simp [Nat.add_assoc]

lemma exists_of_contents (h : contents log k = some v) : (k, some v) ∈ log := by
  induction log using List.reverseRecOn with
  | nil => cases h
  | append_singleton => rw [contents_snoc] at h; grind

lemma index_eq_none (h : (index size base log).1 k = none) : contents log k = none := by
  induction log using List.reverseRecOn with
  | nil => rfl
  | append_singleton log e =>
    rw [fst_index_snoc] at h; rw [contents_snoc]; by_cases hk : k = e.1
    · subst hk; simpa using h
    grind

lemma exists_of_index {offset : Nat} (h : (index size base log).1 k = some offset) :
    ∃ first v rest, log = first ++ (k, some v) :: rest ∧ offset = base + (first.map size).sum ∧
      contents log k = some v := by
  induction log using List.reverseRecOn with
  | nil => cases h
  | append_singleton log e =>
    rw [fst_index_snoc] at h; rw [contents_snoc]; by_cases hk : k = e.1
    · subst hk; obtain ⟨k, value⟩ := e; rw [Function.update_self] at h
      obtain ⟨v, rfl, ho⟩ := Option.map_eq_some_iff.mp h
      exact ⟨log, v, [], rfl, by rw [← ho, snd_index], Function.update_self _ _ _⟩
    grind

end Aeon.Core.KeyedLog
