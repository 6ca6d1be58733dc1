import Mathlib.Algebra.Order.BigOperators.Group.Finset
import Mathlib.Data.Fintype.Basic
import Aeon.Core.LTS

/-!
# The push buffer

`crates/aeon-connectors/src/push_buffer.rs`. A sender that finds the channel full raises the spill
counter before it waits; each access is a step of its own.

* `buffer_exact`: in every reachable state nothing is lost, the counter never wraps, and a quiet
  buffer has counter zero and no flag.
-/
namespace Aeon.L3.PushBuffer

open Function List Aeon.Core

variable {k : Nat} {α : Type}

structure Item (k : Nat) (α : Type) where
  sender : Fin k
  event : α
  spilled : Bool

/-- mirrors push_buffer.rs:37-56 -/
inductive Tx (α : Type)
  | idle
  | full (e : α)
  | counted (e : α) (count : Nat)
  | waiting (e : α)

/-- mirrors push_buffer.rs:84-116 -/
inductive Rx (k : Nat) (α : Type)
  | draining (batch : List (Item k α))
  | loaded (batch : List (Item k α)) (remaining : Nat)
  | subtracted (batch : List (Item k α))
  | clearing (batch : List (Item k α))

structure St (k : Nat) (α : Type) where
  chan : List (Item k α) := []
  spillCount : Nat := 0
  overloaded : Bool := false
  tx : Fin k → Tx α := fun _ => .idle
  rx : Rx k α := .draining []
  returned : List (Item k α) := []
  given : Fin k → List α := fun _ => []

structure Config where
  capacity : Nat
  batchSize : Nat
  spillThreshold : Nat

inductive Lbl (k : Nat) (α : Type)
  | trySend (i : Fin k) (e : α) (full : Bool)
  | count (i : Fin k)
  | signal (i : Fin k)
  | push (i : Fin k)
  | recv | load | sub | check | clear

def St.give (s : St k α) (i : Fin k) (e : α) : Fin k → List α := update s.given i (s.given i ++ [e])

def step (c : Config) (s : St k α) : Lbl k α → Option (St k α)
  | .trySend i e full =>
    match s.tx i with
    | .idle =>
      if full then some { s with tx := update s.tx i (.full e), given := s.give i e }
      else if s.chan.length < c.capacity then
        some { s with chan := s.chan ++ [⟨i, e, false⟩], given := s.give i e }
      else none
    | _ => none
  | .count i =>
    match s.tx i with
    | .full e =>
      some { s with spillCount := s.spillCount + 1, tx := update s.tx i (.counted e s.spillCount) }
    | _ => none
  | .signal i =>
    match s.tx i with
    | .counted e count =>
      some { s with
        overloaded := if c.spillThreshold ≤ count + 1 then true else s.overloaded
        tx := update s.tx i (.waiting e) }
    | _ => none
  | .push i =>
    match s.tx i with
    | .waiting e =>
      if s.chan.length < c.capacity then
        some { s with chan := s.chan ++ [⟨i, e, true⟩], tx := update s.tx i .idle }
      else none
    | _ => none
  | .recv =>
    match s.rx, s.chan with
    | .draining b, x :: chan =>
      if b.length = 0 ∨ b.length < c.batchSize then some { s with chan := chan, rx := .draining (b ++ [x]) }
      else none
    | _, _ => none
  | .load =>
    match s.rx with
    | .draining b => if b.length = 0 then none else some { s with rx := .loaded b s.spillCount }
    | _ => none
  | .sub =>
    match s.rx with
    | .loaded b r => some { s with spillCount := s.spillCount - min r b.length, rx := .subtracted b }
    | _ => none
  | .check =>
    match s.rx with
    | .subtracted b =>
      if s.spillCount = 0 then some { s with rx := .clearing b }
      else some { s with rx := .draining [], returned := s.returned ++ b }
    | _ => none
  | .clear =>
    match s.rx with
    | .clearing b => some { s with overloaded := false, rx := .draining [], returned := s.returned ++ b }
    | _ => none

def machine (c : Config) : LTS (St k α) (Lbl k α) := .ofFn (· = {}) (step c)

def Tx.event : Tx α → List α
  | .idle => []
  | .full e | .counted e _ | .waiting e => [e]

def Rx.batch : Rx k α → List (Item k α)
  | .draining b | .loaded b _ | .subtracted b | .clearing b => b

def foundFull (s : St k α) : Nat :=
  ∑ i, (s.tx i).event.length + s.chan.countP (·.spilled) + s.rx.batch.countP (·.spilled)

def Tx.held : Tx α → Nat
  | .idle | .full _ => 0
  | .counted .. | .waiting _ => 1

def Rx.held : Rx k α → Nat
  | .draining b | .loaded b _ => b.countP (·.spilled)
  | .subtracted _ | .clearing _ => 0

def held (s : St k α) : Nat := ∑ i, (s.tx i).held + s.chan.countP (·.spilled) + s.rx.held

def ofSender (i : Fin k) (l : List (Item k α)) : List α := (l.filter (·.sender = i)).map (·.event)

def Quiet (s : St k α) : Prop := (∀ i, s.tx i = .idle) ∧ s.chan = [] ∧ s.rx = .draining []

structure Inv (s : St k α) : Prop where
  events : ∀ i, ofSender i (s.returned ++ s.rx.batch ++ s.chan) ++ (s.tx i).event = s.given i
  count : s.spillCount ≤ held s
  loaded : ∀ b r, s.rx = .loaded b r → r ≤ s.spillCount ∧ s.spillCount - r + b.countP (·.spilled) ≤ held s
  flag : s.overloaded = true → 0 < held s ∨ ∃ b, s.rx = .subtracted b ∨ s.rx = .clearing b

variable {c : Config} {s s' : St k α} {i : Fin k}

lemma sum_held_update {f : Fin k → Tx α} {x : Tx α} {a b : Nat} (ha : (f i).held = a) (hb : x.held = b) :
    ∑ j, (update f i x j).held + a = ∑ j, (f j).held + b := by
  rw [← Finset.add_sum_erase _ _ (Finset.mem_univ i), ← Finset.add_sum_erase (a := i) _ (fun j => (f j).held)
    (Finset.mem_univ i),
    update_self, Finset.sum_congr rfl fun j hj => by rw [update_of_ne (Finset.ne_of_mem_erase hj)], ha, hb]
  omega

lemma held_le_sum (f : Fin k → Tx α) (i : Fin k) : (f i).held ≤ ∑ j, (f j).held :=
  Finset.single_le_sum (f := fun j => (f j).held) (fun _ _ => Nat.zero_le _) (Finset.mem_univ i)

lemma held_le_foundFull (s : St k α) : held s ≤ foundFull s := by
  have ht : ∑ i, (s.tx i).held ≤ ∑ i, (s.tx i).event.length :=
    Finset.sum_le_sum fun i _ => by cases s.tx i <;> simp [Tx.held, Tx.event]
  have hr : s.rx.held ≤ s.rx.batch.countP (·.spilled) := by cases s.rx <;> simp [Rx.held, Rx.batch]
  rw [held, foundFull]; omega

@[simp] lemma ofSender_append (i : Fin k) (l l' : List (Item k α)) :
    ofSender i (l ++ l') = ofSender i l ++ ofSender i l' := by
  rw [ofSender, filter_append, map_append]; rfl

@[simp] lemma ofSender_cons (i : Fin k) (x : Item k α) (l : List (Item k α)) :
    ofSender i (x :: l) = (if x.sender = i then [x.event] else []) ++ ofSender i l := by
  rw [ofSender, filter_cons]; split <;> simp_all [ofSender]

@[simp] lemma ofSender_nil (i : Fin k) : ofSender i ([] : List (Item k α)) = [] := rfl

lemma events_of_ne {l : List (Item k α)} (l' : List (Item k α)) {tx : Fin k → Tx α} {given : Fin k → List α}
    {x : Tx α} {g : List α} (h : ∀ j, ofSender j l ++ (tx j).event = given j)
    (hl : ∀ j, j ≠ i → ofSender j l' = ofSender j l) (hi : ofSender i l' ++ x.event = g) (j : Fin k) :
    ofSender j l' ++ (update tx i x j).event = update given i g j := by
  by_cases hj : j = i
  · subst hj; rwa [update_self, update_self]
  · rw [update_of_ne hj, update_of_ne hj, hl j hj]; exact h j

section

variable (h : Inv s)
include h

lemma Inv.event_eq (hi : s.tx i = x) :
    ofSender i (s.returned ++ s.rx.batch ++ s.chan) ++ x.event = s.given i := hi ▸ h.events i

lemma Inv.trySend {e : α} {full : Bool} (hs : step c s (.trySend i e full) = some s') : Inv s' := by
  rw [step] at hs
  split at hs
  · rename_i hi
    have he := (append_nil _).symm.trans (h.event_eq hi)
    split_ifs at hs with hf hc <;> cases hs
    · have hh : held { s with tx := update s.tx i (.full e), given := s.give i e } = held s := by
        have := sum_held_update (x := .full e) (congrArg Tx.held hi) rfl
        simp only [held]
        exact congrArg (· + _ + _) this
      exact ⟨events_of_ne _ h.events (fun _ _ => rfl) (congrArg (· ++ [e]) he), hh ▸ h.count,
        fun b r hb => hh ▸ h.loaded b r hb, fun ho => hh ▸ h.flag ho⟩
    · have hh : held { s with chan := s.chan ++ [⟨i, e, false⟩], given := s.give i e } = held s := by
        simp [held]
      refine ⟨fun j => ?_, hh ▸ h.count, fun b r hb => hh ▸ h.loaded b r hb, fun ho => hh ▸ h.flag ho⟩
      have := events_of_ne (i := i) (x := .idle) (s.returned ++ s.rx.batch ++ (s.chan ++ [⟨i, e, false⟩]))
        (g := s.given i ++ [e]) h.events (fun j hj => by simp [hj.symm]) (by rw [← he]; simp [Tx.event]) j
      rwa [← hi, update_eq_self] at this
  · cases hs

lemma Inv.count_step (hs : step c s (.count i) = some s') : Inv s' := by
  rw [step] at hs
  split at hs
  · rename_i e hi
    cases hs
    have hh : held { s with spillCount := s.spillCount + 1, tx := update s.tx i (.counted e s.spillCount) } =
        held s + 1 := by
      have : ∑ j, (update s.tx i (.counted e s.spillCount) j).held + 0 = ∑ j, (s.tx j).held + 1 :=
        sum_held_update (congrArg Tx.held hi) rfl
      simp only [held]
      omega
    refine ⟨fun j => ?_, ?_, fun b r hb => ?_, fun _ => .inl (hh ▸ Nat.succ_pos _)⟩
    · have := events_of_ne (x := .counted e s.spillCount) _ h.events (fun _ _ => rfl)
        (h.event_eq (x := .full e) hi) j
      rwa [update_eq_self] at this
    · have := h.count
      rw [hh]; exact Nat.succ_le_succ this
    · obtain ⟨h₁, h₂⟩ := h.loaded b r hb
      dsimp only; omega
  · cases hs

lemma Inv.signal (hs : step c s (.signal i) = some s') : Inv s' := by
  rw [step] at hs
  split at hs
  · rename_i e n hi
    cases hs
    have hh : held { s with
        overloaded := if c.spillThreshold ≤ n + 1 then true else s.overloaded
        tx := update s.tx i (.waiting e) } = held s := by
      have := sum_held_update (x := .waiting e) (congrArg Tx.held hi) rfl
      exact congrArg (· + _ + _) (Nat.succ.inj this)
    have hp : 0 < held s := by
      have := held_le_sum s.tx i
      rw [hi] at this
      exact Nat.lt_of_lt_of_le (Nat.lt_of_lt_of_le Nat.one_pos this) (by rw [held]; omega)
    refine ⟨fun j => ?_, hh ▸ h.count, fun b r hb => hh ▸ h.loaded b r hb, fun _ => .inl (hh ▸ hp)⟩
    have := events_of_ne (x := .waiting e) _ h.events (fun _ _ => rfl) (h.event_eq (x := .counted e n) hi) j
    rwa [update_eq_self] at this
  · cases hs

lemma Inv.push (hs : step c s (.push i) = some s') : Inv s' := by
  rw [step] at hs
  split at hs
  · rename_i e hi
    split_ifs at hs
    cases hs
    have hh : held { s with chan := s.chan ++ [⟨i, e, true⟩], tx := update s.tx i .idle } = held s := by
      have : ∑ j, (update s.tx i .idle j).held + 1 = ∑ j, (s.tx j).held + 0 :=
        sum_held_update (congrArg Tx.held hi) rfl
      simp only [held, countP_append, countP_singleton, if_true]
      omega
    refine ⟨fun j => ?_, hh ▸ h.count, fun b r hb => hh ▸ h.loaded b r hb, fun ho => hh ▸ h.flag ho⟩
    have := events_of_ne (i := i) (x := .idle) (s.returned ++ s.rx.batch ++ (s.chan ++ [⟨i, e, true⟩]))
      (g := s.given i) h.events (fun j hj => by simp [hj.symm]) (by rw [← h.event_eq hi]; simp [Tx.event]) j
    rwa [update_eq_self] at this
  · cases hs

lemma Inv.recv (hs : step c s .recv = some s') : Inv s' := by
  rw [step] at hs
  split at hs
  · rename_i b x chan hr hc
    split_ifs at hs
    cases hs
    have hh : held { s with chan := chan, rx := .draining (b ++ [x]) } = held s := by
      simp only [held, hr, hc, Rx.held, countP_append, countP_cons, countP_nil]
      omega
    refine ⟨fun j => ?_, hh ▸ h.count, fun b r hb => (by cases hb), fun ho => .inl ?_⟩
    · rw [← h.events j]; simp [hr, hc, Rx.batch]
    · obtain hp | ⟨b', hb' | hb'⟩ := h.flag ho
      · exact hh ▸ hp
      · rw [hr] at hb'; cases hb'
      · rw [hr] at hb'; cases hb'
  · cases hs

lemma Inv.load (hs : step c s .load = some s') : Inv s' := by
  rw [step] at hs
  split at hs
  · rename_i b hr
    split_ifs at hs
    cases hs
    have hh : held { s with rx := .loaded b s.spillCount } = held s := by simp only [held, hr, Rx.held]
    refine ⟨fun j => ?_, hh ▸ h.count, fun b' r hb => ?_, fun ho => .inl ?_⟩
    · rw [← h.events j]; simp [hr, Rx.batch]
    · cases hb
      rw [hh, held, hr, Rx.held]; dsimp only; omega
    · obtain hp | ⟨b', hb' | hb'⟩ := h.flag ho
      · exact hh ▸ hp
      · rw [hr] at hb'; cases hb'
      · rw [hr] at hb'; cases hb'
  · cases hs

lemma Inv.sub (hs : step c s .sub = some s') : Inv s' := by
  rw [step] at hs
  split at hs
  · rename_i b r hr
    cases hs
    obtain ⟨h₁, h₂⟩ := h.loaded b r hr
    have hc := h.count
    have hl : b.countP (·.spilled) ≤ b.length := countP_le_length
    have hh : held { s with spillCount := s.spillCount - min r b.length, rx := .subtracted b } +
        b.countP (·.spilled) = held s := by
      simp only [held, hr, Rx.held]
      omega
    refine ⟨fun j => ?_, ?_, fun b' r' hb => (by cases hb), fun _ => .inr ⟨b, .inl rfl⟩⟩
    · rw [← h.events j]; simp [hr, Rx.batch]
    · dsimp only; omega
  · cases hs

lemma Inv.check (hs : step c s .check = some s') : Inv s' := by
  rw [step] at hs
  split at hs
  · rename_i b hr
    have hc := h.count
    split_ifs at hs with h₀ <;> cases hs
    · have hh : held { s with rx := .clearing b } = held s := by simp only [held, hr, Rx.held]
      refine ⟨fun j => ?_, hh ▸ hc, fun b' r hb => (by cases hb), fun _ => .inr ⟨b, .inr rfl⟩⟩
      rw [← h.events j]; simp [hr, Rx.batch]
    · have hh : held { s with rx := .draining [], returned := s.returned ++ b } = held s := by
        simp [held, hr, Rx.held]
      refine ⟨fun j => ?_, hh ▸ hc, fun b' r hb => (by cases hb), fun _ => .inl ?_⟩
      · rw [← h.events j]; simp [hr, Rx.batch]
      · rw [hh]; omega
  · cases hs

lemma Inv.clear (hs : step c s .clear = some s') : Inv s' := by
  rw [step] at hs
  split at hs
  · rename_i b hr
    cases hs
    have hh : held { s with overloaded := false, rx := .draining [], returned := s.returned ++ b } =
        held s := by
      simp [held, hr, Rx.held]
    refine ⟨fun j => ?_, hh ▸ h.count, fun b' r hb => (by cases hb), fun ho => (by cases ho)⟩
    rw [← h.events j]; simp [hr, Rx.batch]
  · cases hs

end

lemma inv_inductive (c : Config) : (machine (k := k) (α := α) c).Inductive Inv where
  init := by
    rintro s rfl
    exact ⟨fun _ => rfl, Nat.zero_le _, fun _ _ hb => (by cases hb), fun ho => (by cases ho)⟩
  step s l s' h hs := by
    cases l with
    | trySend => exact h.trySend hs
    | count => exact h.count_step hs
    | signal => exact h.signal hs
    | push => exact h.push hs
    | recv => exact h.recv hs
    | load => exact h.load hs
    | sub => exact h.sub hs
    | check => exact h.check hs
    | clear => exact h.clear hs

lemma Quiet.held_eq (hq : Quiet s) : held s = 0 := by
  obtain ⟨ht, hc, hr⟩ := hq
  simp [held, ht, hc, hr, Tx.held, Rx.held]

theorem buffer_exact (hs : (machine c).Reachable s) :
    (∀ i, ofSender i s.returned ++ ofSender i (s.rx.batch ++ s.chan) ++ (s.tx i).event = s.given i) ∧
    s.spillCount ≤ foundFull s ∧ (∀ b r, s.rx = .loaded b r → min r b.length ≤ s.spillCount) ∧
    (Quiet s → (∀ i, ofSender i s.returned = s.given i) ∧ s.spillCount = 0 ∧ s.overloaded = false) := by
  have h := (inv_inductive c).reachable hs
  refine ⟨fun i => ?_, h.count.trans (held_le_foundFull s), fun b r hb => ?_, fun hq => ⟨fun i => ?_, ?_, ?_⟩⟩
  · simp [← h.events i, ofSender_append]
  · exact (Nat.min_le_left ..).trans (h.loaded b r hb).1
  · rw [← h.events i]; simp [hq.1 i, hq.2.1, hq.2.2, Rx.batch, Tx.event]
  · exact Nat.le_zero.mp (hq.held_eq ▸ h.count)
  · by_contra ho
    obtain hp | ⟨b, hb | hb⟩ := h.flag (by simpa using ho)
    · exact absurd hq.held_eq hp.ne'
    · rw [hq.2.2] at hb; cases hb
    · rw [hq.2.2] at hb; cases hb

theorem buffer_exact_spill :
    ∃ s : St 1 Nat, s.given 0 = [7, 8] ∧ Quiet s ∧ s.spillCount = 0 ∧ s.overloaded = false := by
  have hs : ∃ s, (machine ⟨1, 2, 1⟩).Run ({} : St 1 Nat)
      [.trySend 0 7 false, .trySend 0 8 true, .count 0, .signal 0, .recv,
      .push 0, .recv, .load, .sub, .check, .clear] s ∧ s.given 0 = [7, 8] ∧ Quiet s :=
    ⟨_, .cons rfl (.cons rfl (.cons rfl (.cons rfl (.cons rfl (.cons rfl (.cons rfl (.cons rfl
      (.cons rfl (.cons rfl
      (.cons rfl (.nil _))))))))))), rfl, fun i => by rw [Fin.fin_one_eq_zero i]; rfl, rfl, rfl⟩
  obtain ⟨s, hr, hg, hq⟩ := hs
  exact ⟨s, hg, hq, ((buffer_exact ⟨_, _, rfl, hr⟩).2.2.2 hq).2⟩

end Aeon.L3.PushBuffer
