import Mathlib.Logic.Function.Basic
import Aeon.Core.LTS

/-!
# One task per pipeline

`crates/aeon-engine/src/pipeline_supervisor.rs`: `start` looks at the running map, lets its lock go,
and takes it again to insert; `stop` waits for the task before it drops the gates.

* `supervisor_alone`: while calls on a name do not overlap it has one task, entry and gate;
* `starts_overlap`: two tasks, or a task without a gate.
-/
namespace Aeon.L3.Supervisor

open Function Aeon.Core

structure Task where
  gate : Nat
  signalled : Bool := false
  exited : Bool := false

/-- mirrors pipeline_supervisor.rs:467-489, 588-599, 741-802 -/
inductive Call
  | done
  | checked
  | gated (gate : Nat)
  | spawned (task : Nat)
  | taken (task : Nat)
  | waiting (task : Nat)
  | joined

structure Slot where
  running : Option Nat := none
  registered : Option Nat := none
  gates : Nat := 0
  tasks : List Task := []
  calls : Nat → Call := fun _ => .done

inductive Lbl
  | start (i : Nat)
  | fail (i : Nat)
  | getOrCreate (i : Nat)
  | spawn (i : Nat)
  | insert (i : Nat)
  | stop (i : Nat)
  | signal (i : Nat)
  | exit (t : Nat)
  | join (i : Nat)
  | removeGates (i : Nat)

variable (s : Slot)

def Slot.call (i : Nat) (c : Call) : Slot := { s with calls := update s.calls i c }

def Slot.setTask (t : Nat) (f : Task → Task) : Slot := { s with tasks := s.tasks.modify t f }

def step : Lbl → Option Slot
  | .start i =>
    match s.calls i with
    | .done => some (if s.running.isSome then s else s.call i .checked)
    | _ => none
  | .fail i =>
    match s.calls i with
    | .checked | .gated _ => some (s.call i .done)
    | _ => none
  | .getOrCreate i =>
    match s.calls i with
    | .checked =>
      match s.registered with
      | some g => some (s.call i (.gated g))
      | none =>
        some (Slot.call { s with registered := some s.gates, gates := s.gates + 1 } i (.gated s.gates))
    | _ => none
  | .spawn i =>
    match s.calls i with
    | .gated g =>
      some (Slot.call { s with tasks := s.tasks ++ [⟨g, false, false⟩] } i (.spawned s.tasks.length))
    | _ => none
  | .insert i =>
    match s.calls i with
    | .spawned t => some (Slot.call { s with running := some t } i .done)
    | _ => none
  | .stop i =>
    match s.calls i with
    | .done =>
      match s.running with
      | none => some s
      | some t => some (Slot.call { s with running := none } i (.taken t))
    | _ => none
  | .signal i =>
    match s.calls i with
    | .taken t => some ((s.setTask t fun a => { a with signalled := true }).call i (.waiting t))
    | _ => none
  | .exit t => some (s.setTask t fun a => { a with exited := true })
  | .join i =>
    match s.calls i with
    | .waiting t => if (s.tasks[t]?).any (·.exited) then some (s.call i .joined) else none
    | _ => none
  | .removeGates i =>
    match s.calls i with
    | .joined => some (Slot.call { s with registered := none } i .done)
    | _ => none

def machine : LTS (String → Slot) (String × Lbl) :=
  .ofFn (· = fun _ => {}) fun s l => (step (s l.1) l.2).map (update s l.1)

def Alone (s : String → Slot) : String × Lbl → Prop
  | (name, .start _) | (name, .stop _) => ∀ i, (s name).calls i = .done
  | _ => True

def Slot.Only (t : Nat) : Prop :=
  ∀ (u : Nat) (a : Task), s.tasks[u]? = some a → a.exited = false → u = t ∧ s.registered = some a.gate

def Slot.AllExited : Prop := ∀ (u : Nat) (a : Task), s.tasks[u]? = some a → a.exited = true

def Fits : Call → Prop
  | .done => (∀ t, s.running = some t → s.Only t) ∧ (s.running = none → s.AllExited)
  | .checked | .joined => s.running = none ∧ s.AllExited
  | .gated g => s.running = none ∧ s.AllExited ∧ s.registered = some g
  | .spawned t | .taken t | .waiting t => s.running = none ∧ s.Only t

structure Inv (s : Slot) (i : Nat) : Prop where
  others : ∀ j, j ≠ i → s.calls j = .done
  fits : Fits s (s.calls i)

variable {s s' : Slot} {i j t : Nat}

lemma Inv.at (h : Inv s i) (hj : s.calls j = c) (hc : c ≠ .done) :
    (∀ k, k ≠ j → s.calls k = .done) ∧ Fits s c := by
  obtain rfl : j = i := not_not.mp fun hne => hc (hj ▸ h.others j hne)
  exact ⟨h.others, hj ▸ h.fits⟩

lemma Inv.call (h : ∀ k, k ≠ i → s.calls k = .done) (c : Call) (hf : Fits s c) : Inv (s.call i c) i where
  others k hk := (update_of_ne hk ..).trans (h k hk)
  fits := by
    have hi : (s.call i c).calls i = c := update_self ..
    rw [hi]
    cases c <;> exact hf

lemma tasks_setTask {f : Task → Task} {u : Nat} {a : Task} (h : (s.setTask t f).tasks[u]? = some a) :
    ∃ b, s.tasks[u]? = some b ∧ (a = b ∨ a = f b) := by
  rw [Slot.setTask, List.getElem?_modify] at h
  cases hb : s.tasks[u]? with
  | none => rw [hb] at h; cases h
  | some b =>
    rw [hb] at h
    obtain rfl := Option.some.inj h
    refine ⟨b, rfl, ?_⟩
    dsimp only
    split <;> simp

lemma Fits.setTask {c : Call} (h : Fits s c) {f : Task → Task}
    (hf : ∀ a, (f a).gate = a.gate ∧ (a.exited = true → (f a).exited = true)) : Fits (s.setTask t f) c := by
  have ha : s.AllExited → (s.setTask t f).AllExited := fun h u a hu => by
    obtain ⟨b, hb, rfl | rfl⟩ := tasks_setTask hu
    · exact h u _ hb
    · exact (hf b).2 (h u b hb)
  have ho : ∀ v, s.Only v → (s.setTask t f).Only v := fun v h u a hu he => by
    obtain ⟨b, hb, rfl | rfl⟩ := tasks_setTask hu
    · exact h u _ hb he
    · obtain ⟨hv, hg⟩ := h u b hb (by
        cases hx : b.exited with
        | false => rfl
        | true => exact absurd ((hf b).2 hx) (by simp [he]))
      exact ⟨hv, hg.trans (congrArg some (hf b).1.symm)⟩
  cases c with
  | done => exact ⟨fun v hv => ho v (h.1 v hv), fun hn => ha (h.2 hn)⟩
  | checked | joined => exact ⟨h.1, ha h.2⟩
  | gated => exact ⟨h.1, ha h.2.1, h.2.2⟩
  | spawned v | taken v | waiting v => exact ⟨h.1, ho v h.2⟩

lemma Inv.step_of_alone (h : Inv s i) (hs : step s l = some s')
    (ha : ∀ j, l = .start j ∨ l = .stop j → ∀ k, s.calls k = .done) : ∃ i, Inv s' i := by
  cases l with
  | start j =>
    have hd := ha j (.inl rfl)
    have hf := h.fits
    rw [hd i] at hf
    rw [step, hd j] at hs
    cases hr : s.running with
    | some => rw [hr] at hs; cases hs; exact ⟨i, h⟩
    | none => rw [hr] at hs; cases hs; exact ⟨j, .call (fun k _ => hd k) .checked ⟨hr, hf.2 hr⟩⟩
  | fail j =>
    rw [step] at hs
    split at hs
    · rename_i hj
      cases hs
      obtain ⟨ho, hr, hx⟩ := h.at hj (by simp)
      exact ⟨j, .call ho .done ⟨fun t ht => (by rw [hr] at ht; cases ht), fun _ => hx⟩⟩
    · rename_i g hj
      cases hs
      obtain ⟨ho, hr, hx, -⟩ := h.at hj (by simp)
      exact ⟨j, .call ho .done ⟨fun t ht => (by rw [hr] at ht; cases ht), fun _ => hx⟩⟩
    · cases hs
  | getOrCreate j =>
    rw [step] at hs
    split at hs
    · rename_i hj
      obtain ⟨ho, hr, hx⟩ := h.at hj (by simp)
      split at hs <;> cases hs
      · exact ⟨j, .call ho (.gated _) ⟨hr, hx, by assumption⟩⟩
      · exact ⟨j, .call (s := { s with registered := some s.gates, gates := s.gates + 1 }) ho (.gated _)
          ⟨hr, hx, rfl⟩⟩
    · cases hs
  | spawn j =>
    rw [step] at hs
    split at hs
    · rename_i g hj
      cases hs
      obtain ⟨ho, hr, hx, hg⟩ := h.at hj (by simp)
      refine ⟨j, .call (s := { s with tasks := s.tasks ++ [⟨g, false, false⟩] }) ho (.spawned _)
        ⟨hr, fun u a hu he => ?_⟩⟩
      rcases Nat.lt_or_ge u s.tasks.length with hl | hl
      · rw [List.getElem?_append_left hl] at hu
        exact absurd (hx u a hu) (by simp [he])
      · rw [List.getElem?_append_right hl, List.getElem?_singleton] at hu
        split_ifs at hu with h₀
        cases hu
        exact ⟨by omega, hg⟩
    · cases hs
  | insert j =>
    rw [step] at hs
    split at hs
    · rename_i t hj
      cases hs
      obtain ⟨ho, -, hx⟩ := h.at hj (by simp)
      exact ⟨j, .call (s := { s with running := some t }) ho .done
        ⟨fun u hu => Option.some.inj hu ▸ hx, fun hn => (by cases hn)⟩⟩
    · cases hs
  | stop j =>
    have hd := ha j (.inr rfl)
    have hf := h.fits
    rw [hd i] at hf
    rw [step, hd j] at hs
    cases hr : s.running with
    | none => rw [hr] at hs; cases hs; exact ⟨i, h⟩
    | some t =>
      rw [hr] at hs; cases hs
      exact ⟨j, .call (s := { s with running := none }) (fun k _ => hd k) (.taken t) ⟨rfl, hf.1 t hr⟩⟩
  | signal j =>
    rw [step] at hs
    split at hs
    · rename_i t hj
      cases hs
      obtain ⟨ho, hf⟩ := h.at hj (by simp)
      exact ⟨j, .call (s := s.setTask t _) ho (.waiting t)
        (Fits.setTask (c := .waiting t) hf fun a => ⟨rfl, id⟩)⟩
    · cases hs
  | exit =>
    cases hs
    exact ⟨i, h.others, h.fits.setTask fun a => ⟨rfl, fun _ => rfl⟩⟩
  | join j =>
    rw [step] at hs
    split at hs
    · rename_i t hj
      split_ifs at hs with hx
      cases hs
      obtain ⟨ho, hr, hf⟩ := h.at hj (by simp)
      refine ⟨j, .call ho .joined ⟨hr, fun u a hu => ?_⟩⟩
      cases he : a.exited with
      | true => rfl
      | false =>
        obtain rfl := (hf u a hu he).1
        rw [hu] at hx
        exact he.symm.trans hx
    · cases hs
  | removeGates j =>
    rw [step] at hs
    split at hs
    · rename_i hj
      cases hs
      obtain ⟨ho, hr, hx⟩ := h.at hj (by simp)
      exact ⟨j, .call (s := { s with registered := none }) ho .done
        ⟨fun t ht => (by rw [show s.running = _ from hr] at ht; cases ht), fun _ => hx⟩⟩
    · cases hs

lemma inv_inductive : (machine.restrict Alone).Inductive fun s => ∀ name, ∃ i, Inv (s name) i where
  init := by
    rintro s rfl name
    exact ⟨0, fun _ _ => rfl, fun t ht => (by cases ht), fun _ u a hu => (by cases hu)⟩
  step s l s' h hs name := by
    obtain ⟨ha, hs⟩ := hs
    obtain ⟨n, l⟩ := l
    obtain ⟨t, ht, rfl⟩ := Option.map_eq_some_iff.mp hs
    by_cases hn : name = n
    · subst hn
      obtain ⟨i, hi⟩ := h name
      rw [update_self]
      refine hi.step_of_alone ht ?_
      rintro j (rfl | rfl)
      · exact ha
      · exact ha
    · rw [update_of_ne hn]; exact h name

lemma Fits.unique (h : Fits s c) (ht : s.tasks[t]? = some a) (he : a.exited = false) :
    s.Only t ∧ (s.running = some t ↔ c = .done) := by
  have hn : ¬ s.AllExited := fun hx => absurd (hx t a ht) (by simp [he])
  cases c with
  | done =>
    cases hr : s.running with
    | none => exact absurd (h.2 hr) hn
    | some u => obtain rfl := (h.1 u hr t a ht he).1; exact ⟨h.1 t hr, by simp⟩
  | checked | joined => exact absurd h.2 hn
  | gated => exact absurd h.2.1 hn
  | spawned | taken | waiting => obtain rfl := (h.2 t a ht he).1; exact ⟨h.2, by simp [h.1]⟩

theorem supervisor_alone {s : String → Slot} (hs : (machine.restrict Alone).Reachable s) (name : String)
    (t : Nat) (a : Task) (ht : (s name).tasks[t]? = some a) (he : a.exited = false) :
    (∀ u b, (s name).tasks[u]? = some b → b.exited = false → u = t) ∧ (s name).registered = some a.gate ∧
    ((s name).running = some t ↔ ∀ i, (s name).calls i = .done) := by
  obtain ⟨i, h⟩ := inv_inductive.reachable hs name
  obtain ⟨ho, hr⟩ := h.fits.unique ht he
  refine ⟨fun u b hu hb => (ho u b hu hb).1, (ho t a ht he).2, hr.trans ⟨fun hi j => ?_, fun hd => hd i⟩⟩
  by_cases hj : j = i
  · exact hj ▸ hi
  · exact h.others j hj

def restarting : List (String × Lbl) :=
  [("p", .start 0), ("p", .getOrCreate 0), ("p", .spawn 0), ("p", .insert 0), ("p", .stop 1), ("q", .start 0),
    ("p", .signal 1), ("q", .getOrCreate 0), ("q", .spawn 0), ("p", .exit 0), ("p", .join 1),
    ("q", .insert 0),
    ("p", .removeGates 1), ("p", .start 0), ("p", .getOrCreate 0), ("p", .spawn 0), ("p", .insert 0)]

theorem supervisor_alone_restarted : ∃ s : String → Slot, (machine.restrict Alone).Reachable s ∧
    (s "p").tasks[0]? = some ⟨0, true, true⟩ ∧ (s "p").tasks[1]? = some ⟨1, false, false⟩ ∧
    (s "p").registered = some 1 ∧ (s "p").running = some 1 := by
  have hr : (machine.restrict Alone).Run (fun _ => {}) restarting _ :=
    .cons ⟨?_, rfl⟩ <| .cons ⟨trivial, rfl⟩ <| .cons ⟨trivial, rfl⟩ <| .cons ⟨trivial, rfl⟩ <|
      .cons ⟨?_, rfl⟩ <|
    .cons ⟨?_, rfl⟩ <| .cons ⟨trivial, rfl⟩ <| .cons ⟨trivial, rfl⟩ <| .cons ⟨trivial, rfl⟩ <|
      .cons ⟨trivial, rfl⟩ <|
    .cons ⟨trivial, rfl⟩ <| .cons ⟨trivial, rfl⟩ <| .cons ⟨trivial, rfl⟩ <| .cons ⟨?_, rfl⟩ <|
      .cons ⟨trivial, rfl⟩ <|
    .cons ⟨trivial, rfl⟩ <| .cons ⟨trivial, rfl⟩ <| .nil _
  case refine_5 =>
    have hs : (machine.restrict Alone).Reachable _ := ⟨_, _, rfl, hr⟩
    obtain ⟨-, hg, he⟩ := supervisor_alone hs "p" 1 ⟨1, false, false⟩ rfl rfl
    exact ⟨_, hs, rfl, rfl, hg, he.mpr fun i => by rcases i with _ | _ | i <;> rfl⟩
  all_goals rintro (_ | _ | i) <;> rfl

theorem starts_overlap : (∃ s : String → Slot, machine.Reachable s ∧ (s "p").running = some 1 ∧
      (s "p").tasks[0]? = some ⟨0, false, false⟩ ∧ (s "p").tasks[1]? = some ⟨0, false, false⟩ ∧
      (s "p").calls 0 = .done ∧ (s "p").calls 1 = .done) ∧
    ∃ s : String → Slot, machine.Reachable s ∧ (s "p").running = some 1 ∧ (s "p").registered = none ∧
      (s "p").tasks[1]? = some ⟨0, false, false⟩ :=
  ⟨⟨_, ⟨_, [("p", .start 0), ("p", .start 1), ("p", .getOrCreate 0), ("p", .spawn 0), ("p", .insert 0),
      ("p", .getOrCreate 1), ("p", .spawn 1), ("p", .insert 1)], rfl,
      .cons rfl (.cons rfl (.cons rfl (.cons rfl (.cons rfl (.cons rfl (.cons rfl (.cons rfl (.nil _))))))))⟩,
      rfl, rfl, rfl, rfl, rfl⟩,
    ⟨_, ⟨_, [("p", .start 0), ("p", .getOrCreate 0), ("p", .spawn 0), ("p", .insert 0), ("p", .stop 0),
      ("p", .start 1),
      ("p", .getOrCreate 1), ("p", .spawn 1), ("p", .insert 1), ("p", .signal 0), ("p", .exit 0),
      ("p", .join 0),
      ("p", .removeGates 0)], rfl,
      .cons rfl (.cons rfl (.cons rfl (.cons rfl
        (.cons rfl (.cons rfl (.cons rfl (.cons rfl (.cons rfl (.cons rfl
        (.cons rfl (.cons rfl (.cons rfl (.nil _)))))))))))))⟩, rfl, rfl, rfl⟩⟩

end Aeon.L3.Supervisor
