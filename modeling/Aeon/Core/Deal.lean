import Mathlib.Data.List.Forall2
import Mathlib.Data.List.Perm.Basic
import Mathlib.Data.List.TakeDrop
import Mathlib.Logic.Equiv.Basic

/-!
# Dealing slots to pools of interchangeable items

A greedy assignment takes the first `quota` items of each pool, in the order they are listed in, and
gives each the next free slot (`deal`).

* `deal_perm`: if every pool drawn from is drawn whole onto equal slots (`OrderFree`), the order of
  its items does not matter;
* `exists_of_not_whole`: otherwise an exchange of two items does.
-/
namespace Aeon.Core

open List

variable {α β : Type*}

structure Pool (α : Type*) where
  items : List α
  quota : Nat

namespace Pool

def hand (p : Pool α) : List α := p.items.take p.quota

def Whole (p : Pool α) (τ : List β) : Prop :=
  p.hand = [] ∨ p.items.length ≤ p.quota ∧ p.items.length ≤ τ.length ∧
      ∀ a ∈ τ.take p.items.length, ∀ b ∈ τ.take p.items.length, a = b

instance [DecidableEq α] [DecidableEq β] (p : Pool α) (τ : List β) : Decidable (p.Whole τ) :=
  inferInstanceAs (Decidable (_ ∨ _ ∧ _ ∧ _))

def Same (p q : Pool α) : Prop := p.quota = q.quota ∧ p.items.Perm q.items

lemma length_hand (p : Pool α) : p.hand.length = min p.quota p.items.length := by simp [hand]

lemma Same.length_hand (h : Same p q) : p.hand.length = q.hand.length := by
  rw [Pool.length_hand, Pool.length_hand, h.1, h.2.length_eq]

lemma zip_eq_map_of_take : ∀ {l : List α} {τ : List β}, τ.take l.length = List.replicate l.length b →
      l.zip τ = l.map (·, b)
  | [], _, _ => rfl
  | x :: l, [], h => by simp [replicate_succ] at h
  | x :: l, c :: τ, h => by
    simp only [length_cons, take_succ_cons, replicate_succ, List.cons.injEq] at h
    rw [zip_cons_cons, map_cons, zip_eq_map_of_take h.2, h.1]

lemma Whole.zip_perm (hw : p.Whole τ) (h : Same p q) : (p.hand.zip τ).Perm (q.hand.zip τ) := by
  rcases hw with hn | ⟨hqu, hl, hco⟩
  · simp [← length_eq_zero_iff, ← h.length_hand, hn, length_nil]
  · have hq : q.items.length ≤ q.quota := by rw [← h.2.length_eq, ← h.1]; exact hqu
    rw [hand, hand, take_of_length_le hqu, take_of_length_le hq]
    rcases hτ : τ.take p.items.length with _ | ⟨b, bs⟩
    · have h0 : p.items = [] := by simp_all [← length_eq_zero_iff, length_take]
      simp [← length_eq_zero_iff, ← h.2.length_eq, h0]
    · have hr : τ.take p.items.length = List.replicate p.items.length b := by
        refine eq_replicate_iff.mpr ⟨by rw [length_take]; omega, fun c hc => ?_⟩
        exact hco c hc b (by rw [hτ]; exact mem_cons_self)
      rw [zip_eq_map_of_take hr, zip_eq_map_of_take (by rw [← h.2.length_eq]; exact hr)]
      exact h.2.map _

lemma Whole.same (hw : p.Whole τ) (h : Same p q) : q.Whole τ := by
  rw [Whole, ← length_eq_zero_iff, h.length_hand, length_eq_zero_iff, h.1, h.2.length_eq] at hw
  exact hw

lemma exists_of_not_whole {p : Pool α} {τ : List β} (hw : ¬ p.Whole τ) (hτ : p.hand.length ≤ τ.length) :
    ∃ i j, i < p.hand.length ∧ j < p.items.length ∧ i ≠ j ∧
    (p.quota ≤ j ∨ j < p.hand.length ∧ τ[i]? ≠ τ[j]?) := by
  rw [Whole, not_or] at hw; obtain ⟨hne, hw⟩ := hw
  have hp : 0 < p.hand.length := length_pos_iff.mpr hne; have hle := p.length_hand
  by_cases hq : p.items.length ≤ p.quota
  · have hl : p.items.length ≤ τ.length := by omega
    simp only [hq, hl, true_and, not_forall] at hw; obtain ⟨a, ha, b, hb, hab⟩ := hw
    obtain ⟨i, hi, rfl⟩ := mem_iff_getElem.mp ha
    obtain ⟨j, hj, rfl⟩ := mem_iff_getElem.mp hb; rw [length_take] at hi hj
    rw [getElem_take, getElem_take] at hab
    refine ⟨i, j, by omega, by omega, fun h => hab (by subst h; rfl), .inr ⟨by omega, ?_⟩⟩
    grind
  · exact ⟨0, p.quota, hp, by omega, by omega, Or.inl (Nat.le_refl _)⟩

end Pool

def deal (ps : List (Pool α)) (τ : List β) : List (α × β) := (ps.flatMap Pool.hand).zip τ

def drawn (ps : List (Pool α)) : Nat := (ps.flatMap Pool.hand).length

lemma drawn_cons (p : Pool α) (ps : List (Pool α)) : drawn (p :: ps) = p.hand.length + drawn ps := by
  grind [drawn]

def OrderFree : List (Pool α) → List β → Prop
  | [], _ => True
  | p :: ps, τ => p.Whole τ ∧ OrderFree ps (τ.drop p.hand.length)

instance instDecidableOrderFree [DecidableEq α] [DecidableEq β] :
    (ps : List (Pool α)) → (τ : List β) → Decidable (OrderFree ps τ)
  | [], _ => .isTrue trivial
  | p :: ps, τ =>
    have : Decidable (OrderFree ps (τ.drop p.hand.length)) := instDecidableOrderFree ps _
    inferInstanceAs (Decidable (p.Whole τ ∧ OrderFree ps (τ.drop p.hand.length)))

lemma zip_append_left (a b : List α) (τ : List β) : (a ++ b).zip τ = a.zip τ ++ b.zip (τ.drop a.length) := by
  induction a generalizing τ with
  | nil => simp
  | cons x a ih =>
    cases τ with
    | nil => simp
    | cons => simp [ih]

lemma map_fst_zip_sublist : ∀ (l : List α) (τ : List β), ((l.zip τ).map Prod.fst).Sublist l
  | [], _ => List.Sublist.slnil
  | _ :: _, [] => nil_sublist _
  | x :: l, _ :: τ => (map_fst_zip_sublist l τ).cons_cons x

lemma deal_cons (p : Pool α) (ps : List (Pool α)) (τ : List β) :
    deal (p :: ps) τ = p.hand.zip τ ++ deal ps (τ.drop p.hand.length) := by
  rw [deal, flatMap_cons, zip_append_left, deal]

lemma deal_perm (h : List.Forall₂ Pool.Same ps qs) (hf : OrderFree ps τ) : (deal ps τ).Perm (deal qs τ) := by
  induction h generalizing τ with
  | nil => exact List.Perm.refl _
  | cons hpq _ ih => rw [deal_cons, deal_cons, ← hpq.length_hand]; exact (hf.1.zip_perm hpq).append (ih hf.2)

lemma OrderFree.same (hf : OrderFree ps τ) (h : List.Forall₂ Pool.Same ps qs) : OrderFree qs τ := by
  induction h generalizing τ with
  | nil => exact trivial
  | cons hpq _ ih => exact ⟨hf.1.same hpq, hpq.length_hand ▸ ih hf.2⟩

lemma orderFree_iff {ps : List (Pool α)} {τ : List β} :
    OrderFree ps τ ↔ ∀ pre p post, ps = pre ++ p :: post → p.Whole (τ.drop (drawn pre)) := by
  induction ps generalizing τ with
  | nil => simp [OrderFree]
  | cons q ps ih =>
    rw [OrderFree, ih]; constructor
    · rintro ⟨hq, hr⟩ pre p post heq
      cases pre with
      | nil => cases heq; exact hq
      | cons => simp_all [drop_drop, ← drawn_cons]
    · intro h; refine ⟨h [] q ps rfl, fun pre p post heq => ?_⟩
      have h := h (q :: pre) p post (by rw [heq]; rfl)
      rwa [drawn_cons, ← drop_drop] at h

lemma mem_deal {pre post : List (Pool α)} {p : Pool α} {τ : List β} {i : Nat} {x : α} {b : β}
    (hx : p.hand[i]? = some x) (hb : (τ.drop (drawn pre))[i]? = some b) :
    (x, b) ∈ deal (pre ++ p :: post) τ := by
  have hm : (x, b) ∈ p.hand.zip (τ.drop (drawn pre)) := by
    rw [mem_iff_getElem?]; exact ⟨i, by rw [getElem?_zip_eq_some]; exact ⟨hx, hb⟩⟩
  rw [deal, flatMap_append, zip_append_left, flatMap_cons, zip_append_left]
  exact mem_append_right _ (mem_append_left _ hm)

lemma countP_flatMap_of_nodup {f : β → List α} {P : α → Bool} {is : List β} {i : β} (hn : is.Nodup)
    (hi : i ∈ is) (ho : ∀ j ∈ is, j ≠ i → ∀ a ∈ f j, P a = false) :
    (is.flatMap f).countP P = (f i).countP P := by
  induction is with
  | nil => cases hi
  | cons j is =>
    rw [nodup_cons] at hn
    have hz : ∀ k ∈ j :: is, k ≠ i → (f k).countP P = 0 := by grind
    rw [flatMap_cons, countP_append]; rcases mem_cons.mp hi with rfl | hi
    · grind
    · have hne : j ≠ i := fun h => hn.1 (h ▸ hi); grind

end Aeon.Core
