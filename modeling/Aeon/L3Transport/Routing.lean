import Aeon.Core.LTS
import Aeon.L3Transport.Session

/-!
# The routing table of the network hosts

Both hosts (`transport/websocket_host.rs`, `webtransport_host.rs`) route by a map that each session
fills and clears key by key.

* `routing_safe`: when no cleanup takes the entry of another live session;
* `cleanup_removes_live_entry`: the old session of a reconnected processor ends.
-/
namespace Aeon.L3.Routing

open Function List Aeon.Core Aeon.Types Aeon.L3.Session

abbrev Key := String × PartitionId

def keysOf (assignments : List PipelineAssignment) : List Key :=
  assignments.flatMap fun a => a.partitions.map fun p => (a.name, p)

inductive Task
  | waiting
  | inserting (done todo : List Key)
  | serving (keys : List Key)
  | removing (todo : List Key)
  deriving DecidableEq

namespace Task

def isLive : Task → Bool
  | inserting _ _ | serving _ => true
  | _ => false

def isRemoving : Task → Bool
  | removing (_ :: _) => true
  | _ => false

def held : Task → List Key
  | inserting done _ => done
  | serving keys => keys
  | removing todo => todo
  | waiting => []

end Task

structure St where
  routing : Key → Option Nat := fun _ => none
  tasks : List Task

variable (s : St)

def St.Live (i : Nat) : Prop := ∃ t, s.tasks[i]? = some t ∧ t.isLive = true

inductive Lbl
  | connect (i : Nat) (assignments : List PipelineAssignment)
  | insert (i : Nat)
  | serve (i : Nat)
  | close (i : Nat)
  | remove (i : Nat)

def St.move (i : Nat) (t : Task) (routing : Key → Option Nat) : St := ⟨routing, s.tasks.set i t⟩

/-- mirrors websocket_host.rs:167-176, 217-224, webtransport_host.rs:428-438, 566-576 -/
def step : Lbl → Option St
  | .connect i assignments =>
    match s.tasks[i]? with
    | some .waiting => some (s.move i (.inserting [] (keysOf assignments)) s.routing)
    | _ => none
  | .insert i =>
    match s.tasks[i]? with
    | some (.inserting done (k :: todo)) =>
      some (s.move i (.inserting (done ++ [k]) todo) (update s.routing k (some i)))
    | _ => none
  | .serve i =>
    match s.tasks[i]? with
    | some (.inserting done []) => some (s.move i (.serving done) s.routing)
    | _ => none
  | .close i =>
    match s.tasks[i]? with
    | some (.serving keys) => some (s.move i (.removing keys) s.routing)
    | _ => none
  | .remove i =>
    match s.tasks[i]? with
    | some (.removing (k :: todo)) => some (s.move i (.removing todo) (update s.routing k none))
    | _ => none

def Starts : Prop := (∀ k, s.routing k = none) ∧ ∀ t ∈ s.tasks, t = .waiting

def machine : LTS St Lbl := .ofFn Starts step

/-- mirrors websocket_host.rs:296-318 -/
def route (pipeline : String) (partition : PartitionId) : Except String Nat :=
  match s.routing (pipeline, partition) with
  | none => .error ("no T4 session for pipeline=" ++ pipeline ++ " partition=" ++ toString partition)
  | some i =>
    if s.tasks[i]?.any Task.isLive then .ok i else .error ("T4 session " ++ toString i ++ " not found")

def Steals (l : Lbl) : Prop := ∃ i j k todo, l = .remove j ∧ s.tasks[j]? = some (.removing (k :: todo)) ∧
    s.routing k = some i ∧ i ≠ j ∧ s.Live i

def St.inserts : Lbl → Option (Nat × Key)
  | .insert i =>
    match s.tasks[i]? with
    | some (.inserting _ (k :: _)) => some (i, k)
    | _ => none
  | _ => none

def Free (l : Lbl) : Prop :=
  ∀ ik ∈ s.inserts l, ∀ j < s.tasks.length, ∀ t ∈ s.tasks[j]?, ik.2 ∈ t.held → j = ik.1

instance decidableFree (s : St) (l : Lbl) : Decidable (Free s l) :=
  inferInstanceAs (Decidable (∀ ik ∈ s.inserts l, ∀ j < s.tasks.length, ∀ t ∈ s.tasks[j]?, ik.2 ∈ t.held →
    j = ik.1))

inductive Moves (s : St) : Lbl → St → Prop
  | keep {l : Lbl} {i : Nat} {t t' : Task} (ht : s.tasks[i]? = some t) (hheld : t'.held = t.held) :
      Moves s l (s.move i t' s.routing)
  | insert {i : Nat} {done todo : List Key} {k : Key}
    (ht : s.tasks[i]? = some (.inserting done (k :: todo))) :
      Moves s (.insert i) (s.move i (.inserting (done ++ [k]) todo) (update s.routing k (some i)))
  | remove {i : Nat} {todo : List Key} {k : Key} (ht : s.tasks[i]? = some (.removing (k :: todo))) :
      Moves s (.remove i) (s.move i (.removing todo) (update s.routing k none))

section Move

variable {s s' : St} {l : Lbl} {i j : Nat} {k : Key} {t t' : Task} {routing : Key → Option Nat}

lemma moves_of_step (h : step s l = some s') : Moves s l s' := by
  cases l <;> simp only [step] at h <;> split at h <;> cases h
  next h => exact .keep h rfl
  next h => exact .insert h
  next h => exact .keep h rfl
  next h => exact .keep h rfl
  next h => exact .remove h

lemma getElem?_move (ht : s.tasks[i]? = some t) (j : Nat) :
    (s.move i t' routing).tasks[j]? = if i = j then some t' else s.tasks[j]? := by
  obtain ⟨hi, -⟩ := List.getElem?_eq_some_iff.mp ht; rw [St.move, getElem?_set]
  simp [hi]

def Holds (s : St) (i : Nat) (k : Key) : Prop := ∃ t, s.tasks[i]? = some t ∧ k ∈ t.held

lemma holds_move (ht : s.tasks[i]? = some t) :
    Holds (s.move i t' routing) j k ↔ if i = j then k ∈ t'.held else Holds s j k := by
  unfold Holds; rw [getElem?_move ht]; split_ifs
  · simp
  · rfl

end Move

def Owned : Prop := ∀ k i, s.routing k = some i → Holds s i k

def Alone : Prop := ∀ k i j, Holds s i k → Holds s j k → i = j

section Invariants

variable {s s' : St} {l : Lbl}

lemma Owned.starts (h : Starts s) : Owned s := by intro k i hk; rw [h.1 k] at hk; cases hk

lemma Owned.step (h : Owned s) (hs : Moves s l s') : Owned s' := by
  have ho : ∀ {k i t}, s.routing k = some i → s.tasks[i]? = some t → k ∈ t.held := by
    intro k i t hk ht; obtain ⟨t', ht', hold⟩ := h k i hk; grind
  intro k' j hk
  cases hs with
  | keep ht hh =>
    rw [holds_move ht]; split_ifs with hi
    · subst hi; rw [hh]; exact ho hk ht
    · exact h k' j hk
  | @insert i done todo k ht =>
    rw [holds_move ht]; by_cases hkk : k' = k
    · subst hkk; simp only [St.move, update_self, Option.some.injEq] at hk
      rw [if_pos hk]; exact mem_append_right _ mem_cons_self
    · have hk : s.routing k' = some j := by simpa [St.move, hkk] using hk
      split_ifs with hi
      · subst hi; exact mem_append_left _ (ho hk ht)
      · exact h k' j hk
  | @remove i todo k ht =>
    have hkk : k' ≠ k := by rintro rfl; simp [St.move] at hk
    have hk : s.routing k' = some j := by simpa [St.move, hkk] using hk
    rw [holds_move ht]; split_ifs with hi
    · subst hi; exact (mem_cons.mp (ho hk ht)).resolve_left hkk
    · exact h k' j hk

lemma Alone.starts (h : Starts s) : Alone s := by
  rintro k i j ⟨t, ht, hold⟩ -; rw [h.2 t (mem_of_getElem? ht)] at hold; cases hold

lemma Alone.of_imp (h : Alone s) (him : ∀ k i, Holds s' i k → Holds s i k) : Alone s' :=
  fun k i j hi hj => h k i j (him k i hi) (him k j hj)

lemma Alone.step (h : Alone s) (hf : Free s l) (hs : Moves s l s') : Alone s' := by
  cases hs with
  | keep ht hh =>
    refine h.of_imp fun k j hj => ?_; rw [holds_move ht] at hj; split_ifs at hj with hi
    · subst hi; exact ⟨_, ht, by rwa [← hh]⟩
    · exact hj
  | @insert i done todo k ht =>
    have hn : ∀ j, Holds s j k → j = i := by
      rintro j ⟨t, htj, hold⟩
      have hin : s.inserts (.insert i) = some (i, k) := by simp only [St.inserts, ht]
      exact hf (i, k) hin j (List.getElem?_eq_some_iff.mp htj).1 t htj hold
    have hold : ∀ k' j, Holds (s.move i (.inserting (done ++ [k]) todo) (update s.routing k (some i))) j k' →
        Holds s j k' ∨ (j = i ∧ k' = k) := by
      intro k' j hj; rw [holds_move ht] at hj; split_ifs at hj with hi
      · subst hi; rcases mem_append.mp hj with hd | hd
        · exact .inl ⟨_, ht, hd⟩
        grind
      · exact .inl hj
    intro k' i₁ i₂ h₁ h₂
    rcases hold k' i₁ h₁ with ho₁ | ⟨hi₁, rfl⟩ <;> rcases hold k' i₂ h₂ with ho₂ | ⟨hi₂, hk⟩
    · exact h k' i₁ i₂ ho₁ ho₂
    · grind
    · grind
    · exact hi₁.trans hi₂.symm
  | @remove i todo k ht =>
    refine h.of_imp fun k' j hj => ?_; rw [holds_move ht] at hj; split_ifs at hj with hi
    · subst hi; exact ⟨_, ht, mem_cons_of_mem _ hj⟩
    · exact hj

lemma not_steals (h : Owned s) (ha : Alone s) : ¬ Steals s l := by
  rintro ⟨i, j, k, todo, rfl, ht, hk, hne, -⟩; have hi : Holds s i k := h k i hk
  have hj : Holds s j k := ⟨_, ht, mem_cons_self⟩; exact hne (ha k i j hi hj)

lemma live_of_owned (h : Owned s) (hd : ∀ t ∈ s.tasks, t.isRemoving = false) (hk : s.routing k = some i) :
    s.Live i := by
  obtain ⟨t, ht, hold⟩ := h k i hk; refine ⟨t, ht, ?_⟩
  have hn := hd t (mem_of_getElem? ht)
  cases t with
  | waiting => cases hold
  | inserting | serving => rfl
  | removing todo =>
    cases todo with
    | nil => exact absurd hold not_mem_nil
    | cons => cases hn

end Invariants

theorem routing_safe : ((machine.restrict Free).Reachable s → ∀ l, ¬ Steals s l) ∧
    (machine.Reachable s → (∀ t ∈ s.tasks, t.isRemoving = false) → ∀ k i, s.routing k = some i →
      s.Live i) := by
  constructor
  · intro hs l
    have hi : (machine.restrict Free).Inductive fun s => Owned s ∧ Alone s :=
      ⟨fun s h => ⟨.starts h, .starts h⟩, fun s l s' h hst =>
        ⟨h.1.step (moves_of_step hst.2), h.2.step hst.1 (moves_of_step hst.2)⟩⟩
    obtain ⟨ho, ha⟩ := hi.reachable hs; exact not_steals ho ha
  · intro hs hd k i hk
    have hi : machine.Inductive Owned :=
      ⟨fun s h => .starts h, fun s l s' h hst => h.step (moves_of_step hst)⟩
    exact live_of_owned (hi.reachable hs) hd hk

def assignment : List PipelineAssignment := [⟨"p", [0], 100⟩]

def sessions (n : Nat) : St := { tasks := List.replicate n .waiting }

lemma sessions_start (n : Nat) : Starts (sessions n) := ⟨fun _ => rfl, fun _ ht => eq_of_mem_replicate ht⟩

def takeover : List Lbl :=
  [.connect 0 assignment, .insert 0, .serve 0, .connect 1 assignment, .insert 1, .serve 1, .close 0]

def inTurn : List Lbl :=
  [.connect 0 assignment, .insert 0, .serve 0, .close 0, .remove 0, .connect 1 assignment, .insert 1,
    .serve 1]

structure RoutedSessions where
  tasks : List Task
  entry : Option Nat
  routed : Option Nat
  deriving DecidableEq

def routedSessions : RoutedSessions := ⟨s.tasks, s.routing ("p", 0), (route s "p" 0).toOption⟩

theorem cleanup_removes_live_entry :
    ∃ s s', machine.Run (sessions 2) takeover s ∧ route s "p" 0 = .ok 1 ∧ Steals s (.remove 0) ∧
      step s (.remove 0) = some s' ∧ s'.Live 1 ∧ s'.routing ("p", 0) = none := by
  have h : (LTS.exec step (sessions 2) takeover).map routedSessions =
      some ⟨[.removing [("p", 0)], .serving [("p", 0)]], some 1, some 1⟩ := by decide +kernel
  obtain ⟨⟨routing, tasks⟩, hs, hv⟩ := Option.map_eq_some_iff.mp h
  obtain rfl : tasks = [.removing [("p", 0)], .serving [("p", 0)]] := congrArg RoutedSessions.tasks hv
  have he : routing ("p", 0) = some 1 := congrArg RoutedSessions.entry hv
  have hl : (⟨routing, [.removing [("p", 0)], .serving [("p", 0)]]⟩ : St).Live 1 := ⟨_, rfl, rfl⟩
  refine ⟨_, _, LTS.run_of_exec hs, ?_, ⟨1, 0, ("p", 0), [], rfl, rfl, he, by decide, hl⟩, rfl,
    ⟨_, rfl, rfl⟩, by simp [St.move]⟩
  simp only [route, he]; rfl

theorem routing_safe_in_turn :
    ∃ s, (machine.restrict Free).Reachable s ∧
    routedSessions s = ⟨[.removing [], .serving [("p", 0)]], some 1, some 1⟩ ∧
      (∀ l, ¬ Steals s l) ∧ s.Live 1 := by
  have h : (LTS.exec (fun s l => if Free s l then step s l else none)
    (sessions 2) inTurn).map routedSessions =
      some ⟨[.removing [], .serving [("p", 0)]], some 1, some 1⟩ := by decide +kernel
  obtain ⟨s, hs, hv⟩ := Option.map_eq_some_iff.mp h
  have hru : (machine.restrict Free).Run (sessions 2) inTurn s := LTS.run_restrict_of_exec hs
  have hr : (machine.restrict Free).Reachable s := ⟨_, _, sessions_start 2, hru⟩
  have ht : s.tasks = [.removing [], .serving [("p", 0)]] := congrArg RoutedSessions.tasks hv
  refine ⟨s, hr, hv, (routing_safe s).1 hr, (routing_safe s).2 ⟨_, _, sessions_start 2, hru.of_restrict⟩ ?_
    ("p", 0) 1 (congrArg RoutedSessions.entry hv)⟩
  rw [ht]; decide

end Aeon.L3.Routing
