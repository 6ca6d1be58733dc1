import Mathlib.Data.List.Basic

/-!
# Paths and the files they name

Texts with `/` between their pieces. `join` is that of a path buffer (a part that starts with `/`
replaces the base); `resolve` is the list of names from the root. There are no links.

* `resolve_join_join_eq_iff`: only `Normal` names go down name by name.
-/
namespace Aeon.Core.Path

open List

abbrev Text := List Char

structure Normal (p : Text) : Prop where
  nonempty : p ≠ []
  here : p ≠ ['.']
  up : p ≠ ['.', '.']
  slash : '/' ∉ p

instance decidableNormal (p : Text) : Decidable (Normal p) :=
  decidable_of_iff (p ≠ [] ∧ p ≠ ['.'] ∧ p ≠ ['.', '.'] ∧ '/' ∉ p)
    ⟨fun h => ⟨h.1, h.2.1, h.2.2.1, h.2.2.2⟩, fun h => ⟨h.nonempty, h.here, h.up, h.slash⟩⟩

def join (base part : Text) : Text :=
  if part.head? = some '/' then part
  else if base = [] ∨ base.getLast? = some '/' then base ++ part
  else base ++ '/' :: part

def visit (place : List Text) (piece : Text) : List Text :=
  if piece = [] ∨ piece = ['.'] then place
  else if piece = ['.', '.'] then place.dropLast
  else place ++ [piece]

def walk (place : List Text) (path : Text) : List Text := (path.splitOn '/').foldl visit place

def resolve (cwd : List Text) (path : Text) : List Text :=
  walk (if path.head? = some '/' then [] else cwd) path

variable {place cwd : List Text} {p a b base part : Text}

@[simp] lemma walk_nil : walk place [] = place := by rfl

lemma walk_slash : walk place (a ++ '/' :: b) = walk (walk place a) b := by
  rw [walk, splitOn_append_cons_self, foldl_append]; rfl

lemma walk_of_normal (h : Normal p) : walk place p = place ++ [p] := by
  rw [walk, splitOn_eq_singleton h.slash, foldl_cons, foldl_nil, visit, if_neg, if_neg h.up]
  rintro (hp | hp)
  · exact h.nonempty hp
  · exact h.here hp

lemma resolve_join : resolve cwd (join base part) =
      walk (if part.head? = some '/' then [] else resolve cwd base) part := by
  by_cases ha : part.head? = some '/'
  · grind [join, resolve]
  · rw [join, if_neg ha, if_neg ha]; by_cases hn : base = []
    · subst hn; simp [resolve, ha]
    · have hh : ∀ rest, (base ++ rest).head? = base.head? := fun rest => head?_append_of_ne_nil base hn
      split_ifs with he
      · -- the base ends with a slash: its last piece is empty
        obtain hn' | hl := he
        · exact absurd hn' hn
        · obtain ⟨front, rfl⟩ := getLast?_eq_some_iff.mp hl
          rw [resolve, hh, append_assoc, singleton_append, walk_slash, resolve, walk_slash, walk_nil]
      · rw [resolve, hh, walk_slash, resolve]

lemma Normal.relative (h : Normal p) : p.head? ≠ some '/' := by
  intro hp; exact h.slash (mem_of_mem_head? hp)

lemma resolve_join_normal (h : Normal part) : resolve cwd (join base part) = resolve cwd base ++ [part] := by
  rw [resolve_join, if_neg h.relative, walk_of_normal h]

lemma notMem_of_mem_splitOn (h : p ∈ a.splitOn '/') : '/' ∉ p := by
  induction a generalizing p with
  | nil => simp_all
  | cons c a ih =>
    rw [splitOn_cons_eq_if_modifyHead] at h; split_ifs at h with hc
    · grind
    · obtain ⟨first, rest, hs⟩ := exists_cons_of_ne_nil (splitOn_ne_nil '/' a)
      rw [hs] at h ih; rcases mem_cons.mp h with rfl | h
      · grind
      grind

lemma normal_visit (h : ∀ c ∈ place, Normal c) (hp : '/' ∉ p) : ∀ c ∈ visit place p, Normal c := by
  intro c hc; unfold visit at hc; split_ifs at hc with hs hup
  · exact h c hc
  · exact h c (dropLast_subset _ hc)
  · rw [not_or] at hs; rcases mem_append.mp hc with hc | hc
    · exact h c hc
    · rw [mem_singleton.mp hc]; exact ⟨hs.1, hs.2, hup, hp⟩

lemma normal_walk (h : ∀ c ∈ place, Normal c) : ∀ c ∈ walk place a, Normal c := by
  have ha : ∀ pieces : List Text, (∀ q ∈ pieces, '/' ∉ q) → ∀ start : List Text,
      (∀ c ∈ start, Normal c) → ∀ c ∈ pieces.foldl visit start, Normal c := by
    intro pieces
    induction pieces with
    | nil => exact fun _ start hs => hs
    | cons q pieces ih =>
      intro hq start hs
      exact ih (fun r hr => hq r (mem_cons_of_mem _ hr)) _ (normal_visit hs (hq q mem_cons_self))
  exact ha _ (fun q hq => notMem_of_mem_splitOn hq) place h

lemma normal_resolve (h : ∀ c ∈ cwd, Normal c) : ∀ c ∈ resolve cwd a, Normal c := by
  refine normal_walk fun c hc => ?_; grind

lemma resolve_join_join_eq_iff (h : ∀ c ∈ cwd, Normal c) :
    resolve cwd (join (join base a) b) = resolve cwd base ++ [a, b] ↔ Normal a ∧ Normal b := by
  constructor
  · intro heq
    have hal : ∀ c ∈ resolve cwd base ++ [a, b], Normal c := by rw [← heq]; exact normal_resolve h
    grind
  · rintro ⟨ha, hb⟩; rw [resolve_join_normal hb, resolve_join_normal ha, append_assoc]
    rfl

end Aeon.Core.Path
