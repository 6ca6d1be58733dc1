import Mathlib.Data.List.Basic

/-!
# Numbers within the ticks of a clock

An issuer stamps with the tick its clock reads and a number that starts at 0 with each later tick.
As long as the clock does not go back, no two tickets are alike (`Tickets.fresh`).
-/
namespace Aeon.Core

variable {α : Type*}

structure Tickets (tick number : α → ℕ) (issued : List α) (last next : ℕ) : Prop where
  count : issued.countP (fun a => tick a = last) = next
  upper : ∀ a ∈ issued, tick a ≤ last ∧ (tick a = last → number a < next)
  reached : last = 0 ∨ ∃ a ∈ issued, tick a = last

namespace Tickets

variable {tick number : α → ℕ} {issued : List α} {last next now : ℕ} {a' : α}

lemma nil : Tickets tick number [] 0 0 := ⟨rfl, by simp, .inl rfl⟩

section

variable (h : Tickets tick number issued last next)
include h

lemma last_le (hn : ∀ a ∈ issued, tick a ≤ now) : last ≤ now := by
  rcases h.reached with rfl | ⟨a, ha, rfl⟩
  · exact Nat.zero_le now
  · exact hn a ha

lemma number_eq_count (hno : ∀ a ∈ issued, tick a ≤ now) (hn : number a' = if last < now then 0 else next) :
      number a' = issued.countP (fun a => tick a = now) := by
  rw [hn]; split_ifs with hlt
  · symm; rw [List.countP_eq_zero]; intro a ha heq
    have hle := (h.upper a ha).1; grind
  · obtain rfl : last = now := Nat.le_antisymm (h.last_le hno) (Nat.not_lt.mp hlt)
    exact h.count.symm

lemma fresh (hno : ∀ a ∈ issued, tick a ≤ now) (hn : number a' = if last < now then 0 else next) :
    ∀ a ∈ issued, tick a = now → number a ≠ number a' := by
  intro a ha heq; obtain ⟨hle, hlt⟩ := h.upper a ha; have hl := h.last_le hno
  grind

lemma issue (hno : ∀ a ∈ issued, tick a ≤ now) (ht : tick a' = now)
    (hn : number a' = if last < now then 0 else next) :
    Tickets tick number (issued ++ [a']) now (number a' + 1) := by
  have hc := h.number_eq_count hno hn; refine ⟨?_, fun a ha => ?_, .inr ⟨a', by simp, ht⟩⟩
  · grind
  · rcases List.mem_append.mp ha with ha | ha
    · refine ⟨hno a ha, fun heq => ?_⟩; obtain ⟨hle, hlt⟩ := h.upper a ha
      have hl := h.last_le hno; grind
    grind

end

end Tickets

end Aeon.Core
