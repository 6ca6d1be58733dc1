import Aeon.Core.Calls
import Aeon.L2Store.Tiered

/-!
# Calls on one tiered store at a time

The methods of `TieredStore` (`crates/aeon-state/src/tiered.rs`) take `&self`, so their tier
operations interleave. `advance_cells`: the store runs as its cells do, key by key.

* `calls_keep_last`: reads return the last put while no call takes up a key that another is at work
  on;
* `demotion_loses_put`: a put while the key is demoted.
-/
namespace Aeon.L2.TieredCalls

open Function Aeon.Core Aeon.Core.KeyedLog Aeon.L2.StateLog Aeon.L2.Tiered

inductive Call where
  | put (key value : Bytes)
  | putL3 (key value : Bytes)
  | delete (key : Bytes)
  | deleteL2 (key : Bytes)
  | deleteL3 (key : Bytes)
  | get (key : Bytes)
  | getL2 (key : Bytes)
  | getL3 (key : Bytes)
  | promote (key value : Bytes)
  | demote (keys : List Bytes)
  | demoteL2 (key value : Bytes) (keys : List Bytes)
  | demoteL1 (key : Bytes) (keys : List Bytes)

structure State where
  store : TieredStore
  last : Bytes → Option Bytes := fun _ => none
  calls : Calls Call := fun _ => none

variable (s : State)

/-- mirrors tiered.rs:282-295, 336-394 -/
def advance : Call → State × Option Call
  | .put key value => ({ s with
      store.l1 := s.store.l1.put key value
      last := update s.last key (some value) }, some (.putL3 key value))
  | .putL3 key value => ({ s with store.l3 := s.store.l3.map fun l3 => update l3 key (some value) }, none)
  | .delete key => ({ s with
      store.l1 := s.store.l1.delete key
      last := update s.last key none }, some (.deleteL2 key))
  | .deleteL2 key => ({ s with store.l2 := s.store.l2.map fun l2 => l2.delete key }, some (.deleteL3 key))
  | .deleteL3 key => ({ s with store.l3 := s.store.l3.map fun l3 => update l3 key none }, none)
  | .get key => (s, match s.store.l1.get key with
    | some _ => none
    | none => some (.getL2 key))
  | .getL2 key => (s, match s.store.getL2 key with
    | .error _ => none
    | .ok (some value) => some (.promote key value)
    | .ok none => some (.getL3 key))
  | .getL3 key => (s, match s.store.l3.bind fun l3 => l3 key with
    | some value => some (.promote key value)
    | none => none)
  | .promote key value => ({ s with store.l1 := s.store.l1.put key value }, none)
  | .demote [] => (s, none)
  | .demote (key :: keys) => (s, match s.store.l1.get key with
    | some value => some (.demoteL2 key value keys)
    | none => some (.demote keys))
  | .demoteL2 key value keys =>
    ({ s with store.l2 := s.store.l2.map fun l2 => l2.put key value }, some (.demoteL1 key keys))
  | .demoteL1 key keys =>
    let s := { s with store.l1 := s.store.l1.delete key }
    (s, if s.store.l1OverThreshold then some (.demote keys) else none)

/-- mirrors tiered.rs:262-280 -/
def begin (s : TieredStore) : Lbl → Option (Option Call)
  | .put key value => some (some (.put key value))
  | .get key => some (some (.get key))
  | .delete key => some (some (.delete key))
  | .demote maxEntries it =>
    if Lists it s.l1.data then
      some (if s.l2.isSome ∧ s.l1OverThreshold then
        some (.demote (((L1Store.scanPrefix it []).take maxEntries).map Sigma.fst)) else none)
    else none
  | .restart _ => none

inductive Label where
  | start (id : Nat) (call : Lbl)
  | advance (id : Nat)

def step : Label → Option State
  | .start id call =>
    if s.calls id = none then (begin s.store call).map fun c =>
      { s with calls := update s.calls id c } else none
  | .advance id => (s.calls id).map fun call =>
    let (s', next) := advance s call
    { s' with calls := update s.calls id next }

def Starts : Prop :=
  TieredStore.withConfig s.store.config noFiles = .ok s.store ∧ s = { store := s.store }

def system : LTS State Label := LTS.ofFn Starts step

def Call.takes : Call → Option (Bytes × Bool)
  | .put key _ | .delete key | .demote (key :: _) => some (key, true)
  | .get key => some (key, false)
  | _ => none

def Call.holds : Call → Option (Bytes × Bool)
  | .putL3 key _ | .deleteL2 key | .deleteL3 key | .demoteL2 key _ _ | .demoteL1 key _ => some (key, true)
  | .getL2 key | .getL3 key | .promote key _ => some (key, false)
  | _ => none

def Compatible (a b : Option (Bytes × Bool)) : Prop :=
  ∀ key w w', a = some (key, w) → b = some (key, w') → w = false ∧ w' = false

def Call.Fits : Call → Prop
  | .demoteL2 key value _ => Short (key, some value)
  | _ => True

def Apart : Label → Prop
  | .start _ _ => True
  | .advance id => ∀ call, s.calls id = some call →
    call.Fits ∧ s.calls.Others id fun c => Compatible call.takes c.holds

structure Cell where
  l1 : Option Bytes
  l2 : Option Bytes
  l3 : Option Bytes
  last : Option Bytes

def Cell.read (c : Cell) : Option Bytes := c.l1.or (c.l2.or c.l3)

abbrev Cells := Bytes → Cell

def modify (cells : Cells) (key : Bytes) (f : Cell → Cell) : Cells := update cells key (f (cells key))

def Cells.advance (l3Enabled more : Bool) (cells : Cells) : Call → Cells × Option Call
  | .put key value =>
    (modify cells key fun c => { c with l1 := some value, last := some value }, some (.putL3 key value))
  | .putL3 key value =>
    (modify cells key fun c => { c with l3 := if l3Enabled then some value else c.l3 }, none)
  | .delete key => (modify cells key fun c => { c with l1 := none, last := none }, some (.deleteL2 key))
  | .deleteL2 key => (modify cells key fun c => { c with l2 := none }, some (.deleteL3 key))
  | .deleteL3 key => (modify cells key fun c => { c with l3 := none }, none)
  | .get key => (cells, match (cells key).l1 with
    | some _ => none
    | none => some (.getL2 key))
  | .getL2 key => (cells, match (cells key).l2 with
    | some value => some (.promote key value)
    | none => some (.getL3 key))
  | .getL3 key => (cells, match (cells key).l3 with
    | some value => some (.promote key value)
    | none => none)
  | .promote key value => (modify cells key fun c => { c with l1 := some value }, none)
  | .demote [] => (cells, none)
  | .demote (key :: keys) => (cells, match (cells key).l1 with
    | some value => some (.demoteL2 key value keys)
    | none => some (.demote keys))
  | .demoteL2 key value keys =>
    (modify cells key fun c => { c with l2 := some value }, some (.demoteL1 key keys))
  | .demoteL1 key keys =>
    (modify cells key fun c => { c with l1 := none }, if more then some (.demote keys) else none)

def State.cells (l : Bytes → Option Bytes) : Cells := fun key =>
  ⟨s.store.l1.get key, l key, s.store.l3.bind fun l3 => l3 key, s.last key⟩

section Refines

variable {s : State} {l : Bytes → Option Bytes} {call : Call}

lemma get_cells (h : Lower [] s.store.l2 l) (key : Bytes) :
    (s.store.get key).1 = .ok (s.cells l key).read := by
  rw [TieredStore.get, h.getL2, Cell.read, State.cells]
  rcases s.store.l1.get key with _ | v <;> rcases l key with _ | v <;>
    rcases s.store.l3.bind fun l3 => l3 key with _ | v <;> rfl

lemma advance_cells (h : Lower [] s.store.l2 l) (hf : call.Fits)
    (h2 : ∀ key value keys, call = .demoteL2 key value keys → s.store.l2.isSome) :
    (advance s call).1.store.l2.isSome = s.store.l2.isSome ∧ (advance s call).1.calls = s.calls ∧
    ∃ l' more, Lower [] (advance s call).1.store.l2 l' ∧
      (s.cells l).advance s.store.l3.isSome more call = ((advance s call).1.cells l',
        (advance s call).2) := by
  rcases call with ⟨key, value⟩ | ⟨key, value⟩ | key | key | key | key | key | key | ⟨key, value⟩ |
    (_ | ⟨key, keys⟩) |
    ⟨key, value, keys⟩ | ⟨key, keys⟩
  case deleteL2 =>
    refine ⟨Option.isSome_map, rfl, _, false, h.delete key, Prod.ext (funext fun k => ?_) rfl⟩
    by_cases hk : k = key <;> simp [Cells.advance, modify, State.cells, advance, hk]
  case demoteL2 =>
    obtain ⟨l2, hl2⟩ := Option.isSome_iff_exists.mp (h2 key value keys rfl); rw [hl2] at h
    obtain ⟨log, hh, rfl⟩ : ∃ log, Holds l2 log ∧ l = contents log := by
      cases h with
      | opened hh => exact ⟨_, hh, rfl⟩
    refine ⟨Option.isSome_map, rfl, _, false, by rw [advance, hl2]; exact .opened (hh.put hf),
      Prod.ext (funext fun k => ?_) rfl⟩
    by_cases hk : k = key <;> simp [Cells.advance, modify, State.cells, advance, contents_snoc, hk]
  case getL2 =>
    refine ⟨rfl, rfl, l, false, h, Prod.ext rfl ?_⟩
    simp only [Cells.advance, advance, State.cells, h.getL2]; cases l key <;> rfl
  case demoteL1 =>
    refine ⟨rfl, rfl, l, _, h, Prod.ext (funext fun k => ?_) rfl⟩
    by_cases hk : k = key <;> simp [Cells.advance, modify, State.cells, advance, get_delete, hk]
  all_goals
    refine ⟨rfl, rfl, l, false, h, Prod.ext (funext fun k => ?_) rfl⟩
    first | rfl | by_cases hk : k = key <;> cases hl3 : s.store.l3 <;>
      simp [Cells.advance, modify, State.cells, advance, get_put, get_delete, hk, hl3]

end Refines

def Call.deletes (key : Bytes) : Call → Prop
  | .deleteL2 k | .deleteL3 k => k = key
  | _ => False

def Knows (l2 : Bool) (cells : Cells) : Call → Prop
  | .putL3 key value => (cells key).l1 = some value ∧ (cells key).last = some value
  | .deleteL2 key => (cells key).l1 = none ∧ (cells key).last = none
  | .deleteL3 key => (cells key).l1 = none ∧ (cells key).l2 = none ∧ (cells key).last = none
  | .getL2 key => (cells key).l2.or (cells key).l3 = (cells key).last
  | .getL3 key => (cells key).l3 = (cells key).last
  | .promote key value => (cells key).last = some value
  | .demote _ => l2 = true
  | .demoteL2 key value _ => l2 = true ∧ (cells key).l1 = some value ∧ (cells key).last = some value
  | .demoteL1 key _ => l2 = true ∧ (cells key).l2 = (cells key).last ∧ ((cells key).last).isSome
  | _ => True

def Call.touches (call : Call) : Option (Bytes × Bool) := call.takes.or call.holds

variable {l2 l3Enabled more : Bool} {cells cells' : Cells} {call next : Call} {key : Bytes}

@[simp] lemma modify_self (f : Cell → Cell) : modify cells key f key = f (cells key) := by simp [modify]

@[simp] lemma modify_of_ne (h : k ≠ key) (f : Cell → Cell) : modify cells key f k = cells k := by
  simp [modify, h]

lemma advance_other (h : ∀ w, call.touches ≠ some (key, w)) :
    (cells.advance l3Enabled more call).1 key = cells key := by
  have hne : ∀ k w, call.touches = some (k, w) → key ≠ k := fun k w hk hke => h w (hke ▸ hk)
  rcases call with _ | _ | _ | _ | _ | _ | _ | _ | _ | (_ | ⟨k, keys⟩) | _ | _ <;>
    first | rfl | simp only [Cells.advance, modify_of_ne (hne _ _ rfl)]

lemma advance_reads (h : call.touches = some (key, false)) :
    ((cells.advance l3Enabled more call).1 key).l2 = (cells key).l2 ∧
    ((cells.advance l3Enabled more call).1 key).l3 = (cells key).l3 ∧
    ((cells.advance l3Enabled more call).1 key).last = (cells key).last := by
  rcases call with _ | _ | _ | _ | _ | _ | _ | _ | _ | (_ | ⟨k, keys⟩) | _ | _ <;>
    simp_all [Call.touches, Call.takes, Call.holds, Cells.advance]

lemma advance_next (hk : Knows l2 cells call)
    (hg : ∀ key w, call.takes = some (key, w) → (cells key).read = (cells key).last)
    (h : (cells.advance l3Enabled more call).2 = some next) :
    Knows l2 (cells.advance l3Enabled more call).1 next ∧
    (next.holds = none ∨ next.holds = call.touches) := by
  rcases call with _ | _ | _ | _ | _ | _ | _ | _ | _ | (_ | ⟨k, keys⟩) | _ | _ <;>
    simp only [Cells.advance] at h ⊢ <;> (try split at h) <;> cases h <;>
    simp_all [Call.touches, Call.takes, Call.holds, Knows, Cell.read]

lemma advance_good (hk : Knows l2 cells call) (hke : call.touches = some (key, w))
    (hg : ¬ call.deletes key → (cells key).read = (cells key).last)
    (hn : ∀ next, (cells.advance l3Enabled more call).2 = some next → ¬ next.deletes key) :
    ((cells.advance l3Enabled more call).1 key).read = ((cells.advance l3Enabled more call).1 key).last := by
  rcases call with _ | _ | _ | _ | _ | _ | _ | _ | _ | (_ | ⟨k, keys⟩) | _ | _ <;>
    simp_all [Cells.advance, Call.touches, Call.takes, Call.holds, Knows, Cell.read, Call.deletes,
      Option.or_of_isSome]

lemma Knows.congr (h : Knows l2 cells call)
    (heq : ∀ key, call.holds = some (key, true) → cells' key = cells key)
    (heq' : ∀ key, call.holds = some (key, false) → (cells' key).l2 = (cells key).l2 ∧
      (cells' key).l3 = (cells key).l3 ∧ (cells' key).last = (cells key).last) : Knows l2 cells' call := by
  cases call <;> simp_all [Call.holds, Knows]

structure Inv (l2 : Bool) (cells : Cells) (calls : Calls Call) : Prop where
  knows : calls.All (Knows l2 cells)
  apart : calls.Pairwise fun a b => Compatible a.holds b.holds
  good : ∀ key, calls.All (fun c => ¬ c.deletes key) → (cells key).read = (cells key).last

lemma holds_of_deletes (h : call.deletes key) : call.holds = some (key, true) := by
  cases call <;> simp_all [Call.deletes, Call.holds]

lemma holds_of_takes (h : call.takes = some a) : call.holds = none := by
  rcases call with _ | _ | _ | _ | _ | _ | _ | _ | _ | (_ | _) | _ | _ <;> simp_all [Call.takes, Call.holds]

lemma touches_of_deletes (h : call.deletes key) : call.touches = some (key, true) := by
  cases ht : call.takes with
  | none => simp [Call.touches, ht, holds_of_deletes h]
  | some => exact nomatch (holds_of_takes ht).symm.trans (holds_of_deletes h)

lemma Compatible.symm (h : Compatible a b) : Compatible b a := fun key w w' hb ha => (h key w' w ha hb).symm

section Calls

variable {calls : Calls Call} {id : Nat} (h : Inv l2 cells calls)
include h

lemma Inv.start (hh : call.holds = none) (hk : Knows l2 cells call) (hfr : calls id = none) :
    Inv l2 cells (update calls id (some call)) := by
  refine ⟨Calls.all_update.mpr ⟨h.knows.others id, fun c hc => ?_⟩,
    h.apart.update (fun _ _ => Compatible.symm) fun c hc i c' _ _ key w w' ha => ?_, fun key hn => ?_⟩
  · cases hc; exact hk
  · simp_all
  · refine h.good key fun i c hc => (Calls.all_update.mp hn).1 i c (fun hi => ?_) hc
    simp_all

lemma Inv.advance (l3Enabled more : Bool) (hca : calls id = some call)
    (ha : calls.Others id fun c => Compatible call.takes c.holds) :
    Inv l2 (cells.advance l3Enabled more call).1 (update calls id (cells.advance l3Enabled more call).2) := by
  have hkn := h.knows id call hca
  have ht : calls.Others id fun c => Compatible call.touches c.holds := by
    cases hta : call.takes with
    | none => simpa [Call.touches, hta] using h.apart.others hca
    | some => simpa [Call.touches, hta] using ha
  have hg : ∀ key w, call.touches = some (key, w) → ¬ call.deletes key →
    (cells key).read = (cells key).last := by
    intro key w hke hd; refine h.good key fun i c hc hd' => ?_; by_cases hi : i = id
    · exact hd (by simp_all)
    · exact absurd (ht i c hi hc key w true hke (holds_of_deletes hd')).2 (by decide)
  have hn : ∀ next, (cells.advance l3Enabled more call).2 = some next →
      Knows l2 (cells.advance l3Enabled more call).1 next ∧
        (next.holds = none ∨ next.holds = call.touches) := fun next =>
    advance_next hkn fun key w hk => hg key w (by simp [Call.touches, hk]) fun hd =>
      nomatch (holds_of_takes hk).symm.trans (holds_of_deletes hd)
  refine ⟨Calls.all_update.mpr ⟨fun i c hi hc => ?_, fun c hc => (hn c hc).1⟩,
    h.apart.update (fun _ _ => Compatible.symm) fun c hc => ?_, fun key hno => ?_⟩
  · refine (h.knows i c hc).congr (fun key hke => advance_other fun w hw => ?_) fun key hke => ?_
    · exact absurd (ht i c hi hc key w true hw hke).2 (by decide)
    · by_cases hw : ∃ w, call.touches = some (key, w)
      · obtain ⟨w, hw⟩ := hw; obtain ⟨rfl, -⟩ := ht i c hi hc key w false hw hke
        exact advance_reads hw
      · simp [advance_other fun w hw' => hw ⟨w, hw'⟩]
  · rcases (hn c hc).2 with hh | hh
    · simp [Calls.Others, Compatible, hh]
    · exact hh ▸ ht
  · obtain ⟨ho, hs⟩ := Calls.all_update.mp hno
    by_cases hw : ∃ w, call.touches = some (key, w)
    · obtain ⟨w, hw⟩ := hw; exact advance_good hkn hw (hg key w hw) hs
    · simp only [advance_other fun w hw' => hw ⟨w, hw'⟩]
      refine h.good key fun i c hc hd => ?_; by_cases hi : i = id
      · obtain rfl : call = c := by simp_all
        exact hw ⟨true, touches_of_deletes hd⟩
      · exact ho i c hi hc hd

end Calls

def Refines : Prop := ∃ l, Lower [] s.store.l2 l ∧ Inv s.store.l2.isSome (s.cells l) s.calls

variable {s s' : State} {label : Label}

lemma refines_start (h : Starts s) : Refines s := by
  obtain ⟨hw, hs⟩ := h; obtain ⟨hl1, hl3, hl⟩ := withConfig_spec (.inl rfl) hw
  refine ⟨_, hl, ?_, ?_, fun key _ => ?_⟩
  · rw [hs]; exact nofun
  · rw [hs]; exact nofun
  · rw [hs]; simp only [Cell.read, State.cells, hl1, hl3, get_new]; split_ifs <;> rfl

lemma knows_of_begin {call : Lbl} {c : Call} (h : begin s.store call = some (some c)) :
    c.holds = none ∧ ∀ cells, Knows s.store.l2.isSome cells c := by
  cases call with
  | demote =>
    obtain ⟨-, h⟩ := Option.ite_none_right_eq_some.mp h
    obtain ⟨⟨h2, -⟩, hc⟩ := Option.ite_none_right_eq_some.mp (Option.some.inj h)
    cases hc; exact ⟨rfl, fun _ => h2⟩
  | restart => cases h
  | _ => cases h; exact ⟨rfl, fun _ => trivial⟩

lemma Refines.step (h : Refines s) (ha : Apart s label) (hs : step s label = some s') : Refines s' := by
  obtain ⟨l, hl, hi⟩ := h
  cases label with
  | start =>
    obtain ⟨hfr, hs⟩ := Option.ite_none_right_eq_some.mp hs
    obtain ⟨c, hb, rfl⟩ := Option.map_eq_some_iff.mp hs
    refine ⟨l, hl, ?_⟩
    cases c with
    | none => dsimp only; rw [← hfr, update_eq_self]; exact hi
    | some =>
      obtain ⟨hh, hk⟩ := knows_of_begin hb
      exact hi.start hh (hk _) hfr
  | advance id =>
    obtain ⟨call, hca, rfl⟩ := Option.map_eq_some_iff.mp hs; obtain ⟨hf, ho⟩ := ha call hca
    obtain ⟨h2, hcs, l', more, hl', heq⟩ := advance_cells hl hf fun key value keys hd => by
      have hk := hi.knows id call hca; rw [hd] at hk; exact hk.1
    have hi' := hi.advance s.store.l3.isSome more hca ho
    rw [heq, ← h2] at hi'; exact ⟨l', hl', hi'⟩

theorem calls_keep_last {s₀ : State} (labels : List Label) (hs : Starts s₀)
    (hr : (system.restrict Apart).Run s₀ labels s) (hd : ∀ id, s.calls id = none) (key : Bytes) :
    (s.store.get key).1 = .ok (s.last key) := by
  obtain ⟨l, hl, hi⟩ : Refines s :=
    hr.induct (by rintro t label t' ht ⟨ha, hst⟩; exact ht.step ha hst) (refines_start hs)
  rw [get_cells hl, hi.good key fun id call hca => nomatch (hd id).symm.trans hca]; rfl

def demoting : List Label :=
  [.start 0 (.put [1] [7]), .advance 0, .advance 0, .start 1 (.demote 1 [⟨[1], [7]⟩]), .advance 1,
    .start 0 (.put [2] [8]), .advance 0, .advance 1, .advance 0, .advance 1, .advance 1,
    .start 1 (.get [1]), .advance 1, .start 0 (.delete [2]), .advance 0, .advance 1, .advance 0, .advance 1,
    .advance 0]

def created : State := { store := ⟨.new, some .fresh, some fun _ => none, smallL1 true⟩ }

theorem demoted_read_back : ∃ s, (system.restrict Apart).Run created demoting s ∧
    (s.store.get [1]).1 = .ok (some [7]) ∧ (s.store.get [2]).1 = .ok none := by
  have hr : (system.restrict Apart).Run created demoting _ :=
    .cons ⟨trivial, rfl⟩ <| .cons ⟨?_, rfl⟩ <| .cons ⟨?_, rfl⟩ <| .cons ⟨trivial, rfl⟩ <| .cons ⟨?_, rfl⟩ <|
    .cons ⟨trivial, rfl⟩ <| .cons ⟨?_, rfl⟩ <| .cons ⟨?_, rfl⟩ <| .cons ⟨?_, rfl⟩ <| .cons ⟨?_, rfl⟩ <|
      .cons ⟨?_, rfl⟩ <|
    .cons ⟨trivial, rfl⟩ <| .cons ⟨?_, rfl⟩ <| .cons ⟨trivial, rfl⟩ <| .cons ⟨?_, rfl⟩ <| .cons ⟨?_, rfl⟩ <|
      .cons ⟨?_, rfl⟩ <|
    .cons ⟨?_, rfl⟩ <| .cons ⟨?_, rfl⟩ <| .nil _
  case refine_15 =>
    have hl := calls_keep_last _ ⟨rfl, rfl⟩ hr fun id => by rcases id with _ | _ | id <;> rfl
    exact ⟨_, hr, hl [1], hl [2]⟩
  all_goals
    rintro c ⟨⟩
    refine ⟨by trivial, ?_⟩
    rintro (_ | _ | i) c hi ⟨⟩ key w w' h h' <;> first
      | exact absurd rfl hi
      | cases h <;> exact absurd h' (by simp [Call.holds])

theorem demotion_loses_put : ∃ s, Starts created ∧ system.Run created
    [.start 0 (.put [1] [7]), .advance 0, .advance 0, .start 1 (.demote 1 [⟨[1], [7]⟩]), .advance 1,
      .start 2 (.put [1] [8]), .advance 2, .advance 2, .advance 1, .advance 1] s ∧
    s.calls 0 = none ∧ s.calls 1 = none ∧ s.calls 2 = none ∧
    s.last [1] = some [8] ∧ (s.store.get [1]).1 = .ok (some [7]) :=
  ⟨_, ⟨rfl, rfl⟩, .cons rfl (.cons rfl (.cons rfl
    (.cons rfl (.cons rfl (.cons rfl (.cons rfl (.cons rfl (.cons rfl
    (.cons rfl (.nil _)))))))))), by decide +kernel⟩

end Aeon.L2.TieredCalls
