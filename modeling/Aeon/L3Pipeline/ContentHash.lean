import Aeon.Core.LTS

/-!
# Content-hash dedup

`crates/aeon-engine/src/eo2_content_hash.rs`: hashes are forgotten at most once per eighth of the
window, and only inside a call.

* `dedup_exact`: over instants that do not go back, duplicates are exact and no entry outlives a
  call by more than an eighth;
* `idle_entry_ages`: without calls nothing is swept.
-/
namespace Aeon.L3.ContentHash

open Option Function Aeon.Core

/-- mirrors eo2_content_hash.rs:77-80 -/
structure DedupInner where
  map : UInt64 → Option Nat := fun _ => none
  lastSweep : Nat

/-- mirrors eo2_content_hash.rs:143-150 -/
def sweepExpired (window : Nat) (g : DedupInner) (now : Nat) : DedupInner where
  map h := (g.map h).filter (now - · < window)
  lastSweep := now

/-- mirrors eo2_content_hash.rs:115-121 -/
def amortised (window : Nat) (g : DedupInner) (now : Nat) : DedupInner :=
  if window / 8 ≤ now - g.lastSweep then sweepExpired window g now else g

/-- mirrors eo2_content_hash.rs:107-130 -/
def checkAndMarkHash (window : Nat) (g : DedupInner) (h : UInt64) (now : Nat) : Bool × DedupInner :=
  let g := amortised window g now
  if (g.map h).any (now - · < window) then (true, g)
  else (false, { g with map := update g.map h (some now) })

inductive Label
  | check (h : UInt64) (now : Nat)
  | sweep (now : Nat)

structure State where
  inner : DedupInner
  clock : Nat
  answers : List (UInt64 × Nat × Bool) := []

def step (window : Nat) (s : State) : Label → Option State
  | .check h now =>
    if s.clock ≤ now then
      let (seen, inner) := checkAndMarkHash window s.inner h now
      some ⟨inner, now, (h, now, seen) :: s.answers⟩
    else none
  | .sweep now =>
    if s.clock ≤ now then some { s with inner := sweepExpired window s.inner now, clock := now } else none

def machine (window : Nat) : LTS State Label := .ofFn (fun s => ∃ now, s = ⟨⟨fun _ => none, now⟩, now, []⟩)
    (step window)

def State.passed (s : State) (h : UInt64) : Option Nat :=
  (s.answers.find? fun a => a.1 = h ∧ a.2.2 = false).map (·.2.1)

structure Inv (window : Nat) (s : State) : Prop where
  held : ∀ h t, s.inner.map h = some t → s.passed h = some t
  gone : ∀ h t, s.inner.map h = none → s.passed h = some t → window ≤ s.clock - t
  past : ∀ h t, s.passed h = some t → t ≤ s.clock
  swept : s.inner.lastSweep ≤ s.clock
  soon : s.clock - s.inner.lastSweep < window / 8 ∨ s.inner.lastSweep = s.clock
  kept : ∀ h t, s.inner.map h = some t → s.inner.lastSweep - t < window ∨ s.inner.lastSweep ≤ t

section Inv

variable {window : Nat} {s : State}

lemma Inv.sweep (h : Inv window s) (hn : s.clock ≤ now) :
    Inv window { s with inner := sweepExpired window s.inner now, clock := now } := by
  refine ⟨fun k t hk => ?_, fun k t hk hp => ?_, fun k t hp => Nat.le_trans (h.past k t hp) hn, Nat.le_refl _,
    .inr rfl, fun k t hk => ?_⟩
  · exact h.held k t (filter_eq_some_iff.mp hk).1
  · -- swept now, or before
    cases hm : s.inner.map k with
    | none => exact Nat.le_trans (h.gone k t hm hp) (Nat.sub_le_sub_right hn t)
    | some t' =>
      obtain rfl : t' = t := Option.some.inj ((h.held k t' hm).symm.trans hp)
      simpa [sweepExpired, hm] using hk
  · exact .inl (of_decide_eq_true (filter_eq_some_iff.mp hk).2)

lemma Inv.sweepOnce (h : Inv window s) (hn : s.clock ≤ now) :
    Inv window { s with inner := amortised window s.inner now, clock := now } := by
  unfold amortised; split_ifs with hi
  · exact h.sweep hn
  · exact ⟨h.held, fun k t hk hp => Nat.le_trans (h.gone k t hk hp) (Nat.sub_le_sub_right hn t),
      fun k t hp => Nat.le_trans (h.past k t hp) hn, Nat.le_trans h.swept hn, .inl (Nat.lt_of_not_le hi),
      h.kept⟩

lemma Inv.any_iff (h : Inv window s) (k : UInt64) :
    (s.inner.map k).any (s.clock - · < window) = true ↔ ∃ t ∈ s.passed k, s.clock - t < window := by
  simp only [any_eq_true, decide_eq_true_eq, Option.mem_def]
  constructor
  · rintro ⟨t, ht, hlt⟩; exact ⟨t, h.held k t ht, hlt⟩
  · rintro ⟨t, ht, hlt⟩
    cases hm : s.inner.map k with
    | none => have := h.gone k t hm ht; omega
    | some t' => exact ⟨t', rfl, by rwa [Option.some.inj ((h.held k t' hm).symm.trans ht)]⟩

lemma Inv.step (h : Inv window s) (hs : step window s l = some s') : Inv window s' := by
  cases l with
  | sweep => obtain ⟨hn, hs⟩ := ite_none_right_eq_some.mp hs; cases hs; exact h.sweep hn
  | check k now =>
    obtain ⟨hn, hs⟩ := ite_none_right_eq_some.mp hs
    obtain rfl : (⟨(checkAndMarkHash window s.inner k now).2, now,
      (k, now, (checkAndMarkHash window s.inner k now).1) :: s.answers⟩ : State) = s' := Option.some.inj hs
    have ha := h.sweepOnce hn
    by_cases hc : ((amortised window s.inner now).map k).any (now - · < window) = true
    · -- a duplicate changes nothing
      rw [show checkAndMarkHash window s.inner k now = _ from if_pos hc]
      exact ⟨fun j t hj => by simpa [State.passed] using ha.held j t hj,
        fun j t hj hp => ha.gone j t hj (by simpa [State.passed] using hp),
        fun j t hp => ha.past j t (by simpa [State.passed] using hp), ha.swept, ha.soon, ha.kept⟩
    · rw [show checkAndMarkHash window s.inner k now = _ from if_neg hc]
      have hp : ∀ j, State.passed ⟨{ amortised window s.inner now with
          map := update (amortised window s.inner now).map k (some now) }, now,
            (k, now, false) :: s.answers⟩ j =
          if j = k then some now else s.passed j := by
        intro j; by_cases hj : j = k
        · simp [State.passed, hj]
        · simp [State.passed, hj, Ne.symm hj]
      refine ⟨fun j t hj => ?_, fun j t hj hpj => ?_, fun j t hpj => ?_, ha.swept, ha.soon, fun j t hj => ?_⟩
      all_goals by_cases hjk : j = k
      · subst hjk; simpa [hp] using hj
      · simp only [update_of_ne hjk] at hj; rw [hp, if_neg hjk]; exact ha.held j t hj
      · subst hjk; simp at hj
      · simp only [update_of_ne hjk] at hj; simp only [hp, if_neg hjk] at hpj; exact ha.gone j t hj hpj
      · simp only [hp, if_pos hjk, Option.some.injEq] at hpj; exact hpj ▸ Nat.le_refl _
      · simp only [hp, if_neg hjk] at hpj; exact ha.past j t hpj
      · subst hjk; simp only [update_self, Option.some.injEq] at hj; exact .inr (hj ▸ ha.swept)
      · simp only [update_of_ne hjk] at hj; exact ha.kept j t hj

lemma inv_reachable (h : (machine window).Reachable s) : Inv window s := by
  refine LTS.Inductive.reachable ⟨?_, fun s l s' => Inv.step⟩ h
  rintro s ⟨now, rfl⟩
  exact ⟨fun _ _ h => (by cases h), fun _ _ _ h => (by cases h), fun _ _ h => (by cases h), Nat.le_refl _,
    .inr rfl,
    fun _ _ h => (by cases h)⟩

theorem dedup_exact (h : (machine window).Reachable s) :
    (∀ k now, s.clock ≤ now → ((checkAndMarkHash window s.inner k now).1 = true ↔
      ∃ t ∈ s.passed k, now - t < window)) ∧
    ∀ k t, s.inner.map k = some t → s.clock - t < window + window / 8 ∨ t = s.clock := by
  have hi := inv_reachable h
  constructor
  · intro k now hn
    have ha := (hi.sweepOnce hn).any_iff k
    rw [← show State.passed { s with inner := amortised window s.inner now, clock := now } k =
      s.passed k from rfl, ← ha,
      checkAndMarkHash]
    split_ifs with hc <;> simp [hc]
  · intro k t hk
    have ht := hi.past k t (hi.held k t hk)
    have hk := hi.kept k t hk
    have hs := hi.soon
    have hw := hi.swept
    omega

end Inv

theorem dedup_exact_again :
    ∃ s, (machine 8).Reachable s ∧ s.answers = [(1, 8, false), (2, 4, false), (1, 3, true), (1, 0, false)] ∧
      (checkAndMarkHash 8 s.inner 2 11).1 = true := by
  obtain ⟨s, hs, hr, hc⟩ : ∃ s, (machine 8).Reachable s ∧
      s.answers = [(1, 8, false), (2, 4, false), (1, 3, true), (1, 0, false)] ∧ s.clock = 8 :=
    LTS.exists_reachable ⟨0, rfl⟩ [.check 1 0, .check 1 3, .check 2 4, .check 1 8] (by decide +kernel)
  refine ⟨s, hs, hr, ((dedup_exact hs).1 2 11 (by rw [hc]; decide)).mpr ⟨4, ?_, by decide⟩⟩
  rw [State.passed, hr]; rfl

theorem idle_entry_ages :
    ∃ s, (machine 8).Reachable s ∧ s.inner.map 1 = some 0 ∧ 8 / 8 ≤ 100 - s.inner.lastSweep ∧ s.clock ≤ 100 ∧
      ¬ 100 - 0 < 8 + 8 / 8 :=
  LTS.exists_reachable ⟨0, rfl⟩ [.check 1 0] (by decide +kernel)

end Aeon.L3.ContentHash
