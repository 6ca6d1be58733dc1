import Aeon.Core.LTS
import Aeon.L2Store.StateLog

/-!
# Crashes of the memory-mapped state tier

`L2Store::open` (`crates/aeon-state/src/l2.rs`) writes behind a torn entry without truncating the
file, so a shorter entry leaves the rest of it behind.

* `recovery_exact`: when the store is the map of what was fully kept and done since;
* `torn_value_becomes_key`: a torn value is read as an entry.
-/
namespace Aeon.L2.StateLog.Crash

open List Aeon.Core Aeon.Core.KeyedLog

structure State where
  store : L2Store
  log : List (Entry Bytes Bytes)

inductive Label where
  | put (key value : Bytes)
  | delete (key : Bytes)
  | clear
  | compact (it : List Bytes)
  | reopen (n : Nat)

def kept : Nat → List (Entry Bytes Bytes) → List (Entry Bytes Bytes)
  | _, [] => []
  | room, e :: log => if sizeOf e ≤ room then e :: kept (room - sizeOf e) log else []

def step (s : State) : Label → Option State
  | .put key value => some ⟨s.store.put key value, s.log ++ [(key, some value)]⟩
  | .delete key =>
    some ⟨s.store.delete key, if (contents s.log key).isSome then s.log ++ [(key, none)] else s.log⟩
  | .clear => some ⟨s.store.clear, []⟩
  | .compact it => some ⟨s.store.compact it, it.map fun key => (key, contents s.log key)⟩
  | .reopen n =>
    match L2Store.openFile (s.store.file.take n) with
    | .ok store => some ⟨store, kept (n - magic.length) s.log⟩
    | .error _ => none

def system : LTS State Label := LTS.ofFn (· = ⟨.fresh, []⟩) step

def Clean (s : State) : Label → Prop
  | .put key value => Short (key, some value)
  | .compact it => ∀ key, key ∈ it ↔ (s.store.index key).isSome
  | .reopen n => magic.length ≤ n ∧ nextEntry ((s.store.file.take n).drop s.store.writePos) = none
  | _ => True

variable {s s' : State} {label : Label} {log : List (Entry Bytes Bytes)} {e : Entry Bytes Bytes}
  {tail : Bytes}

lemma nextEntry_take (he : Short e) (hn : n < sizeOf e) : nextEntry ((frameOf e).take n) = none := by
  obtain ⟨flag, value, hf, hv⟩ : ∃ flag value, frameOf e = frame flag e.1 value ∧ value.length < 2 ^ 32 := by
    obtain ⟨key, _ | value⟩ := e
    · exact ⟨_, _, rfl, he.2⟩
    · exact ⟨_, _, rfl, he.2⟩
  rw [← length_frameOf, hf] at hn; rw [hf, frame]
  cases n with
  | zero => rfl
  | succ n =>
    have hp := take_prefix n (fieldBytes e.1 ++ fieldBytes value)
    obtain ⟨err, her⟩ := stable_readFields.rejects (readFields_reads he.1 hv) hp fun h => by
        have := congrArg List.length h
        simp only [frame, length_cons, length_take] at this hn; omega
    rw [take_succ_cons, nextEntry, her]

lemma mem_kept : ∀ {room : Nat} {log : List (Entry Bytes Bytes)}, e ∈ kept room log → e ∈ log
  | _, _ :: _, h => by
    rw [kept] at h
    split_ifs at h
    · rcases mem_cons.mp h with rfl | h
      · exact .head _
      · exact .tail _ (mem_kept h)
    · cases h

lemma take_frames (hs : ∀ e ∈ log, Short e) (room : Nat)
    (ht : nextEntry (tail.take (room - (log.map sizeOf).sum)) = none) :
    ∃ tail', (log.flatMap frameOf ++ tail).take room = (kept room log).flatMap frameOf ++ tail' ∧
      nextEntry tail' = none := by
  induction log generalizing room with
  | nil => exact ⟨_, rfl, by simpa using ht⟩
  | cons e log ih =>
    rw [kept]; split_ifs with hle
    · obtain ⟨tail', h, h'⟩ := ih (fun x hx => hs x (.tail _ hx)) (room - sizeOf e)
        (by rwa [map_cons, sum_cons, ← Nat.sub_sub] at ht)
      refine ⟨tail', ?_, h'⟩
      rw [flatMap_cons, append_assoc, take_append, length_frameOf, h,
        take_of_length_le (by rwa [length_frameOf]), flatMap_cons, append_assoc]
    · refine ⟨(frameOf e).take room, ?_, nextEntry_take (hs e (.head _)) (by omega)⟩
      rw [flatMap_cons, append_assoc, take_append_of_le_length (by rw [length_frameOf]; omega)]
      rfl

lemma Clean.step (hc : Clean s label) (h : Trails s.store s.log tail) :
    ∃ s' tail', Crash.step s label = some s' ∧ Trails s'.store s'.log tail' := by
  cases label with
  | put => exact ⟨_, _, rfl, h.put hc⟩
  | delete key => obtain ⟨n, hn⟩ := h.delete key; exact ⟨_, _, rfl, hn⟩
  | clear => exact ⟨_, _, rfl, trails_nil.mpr holds_fresh⟩
  | compact => exact ⟨_, _, rfl, trails_nil.mpr (h.compact hc).1⟩
  | reopen n =>
    obtain ⟨hn, ht⟩ := hc
    rw [h.file, h.writePos, drop_take, drop_left, length_image, ← Nat.sub_sub] at ht
    obtain ⟨tail', hf, hno⟩ := take_frames h.short (n - magic.length) ht
    have hcu : s.store.file.take n = image (kept (n - magic.length) s.log) ++ tail' := by
      rw [h.file, image, append_assoc, take_append, take_of_length_le hn, hf, image, append_assoc]
    obtain ⟨store, ho, htr⟩ := open_trails (fun e (he : e ∈ kept (n - magic.length) s.log) =>
      h.short e (mem_kept he)) hno
    refine ⟨⟨store, _⟩, tail', ?_, htr⟩; simp only [Crash.step, hcu, ho]

/-- Over any clean run the store is the map of its entries, and a clean reopening succeeds. -/
theorem recovery_exact (labels : List Label) (s : State)
    (hr : (system.restrict Clean).Run ⟨.fresh, []⟩ labels s) :
    (∀ key, s.store.get key = .ok (contents s.log key)) ∧
    ∀ n, Clean s (.reopen n) → ∃ s', step s (.reopen n) = some s' := by
  obtain ⟨tail, h⟩ : ∃ tail, Trails s.store s.log tail := by
    refine hr.induct (I := fun s => ∃ tail, Trails s.store s.log tail) ?_ ⟨[], trails_nil.mpr holds_fresh⟩
    rintro t label t' ⟨tail, h⟩ ⟨hc, hs⟩; obtain ⟨u, tail', hu, htr⟩ := hc.step h
    obtain rfl : u = t' := Option.some.inj (hu.symm.trans hs); exact ⟨tail', htr⟩
  refine ⟨h.get, fun n hn => ?_⟩; obtain ⟨s', _, hs', -⟩ := hn.step h; exact ⟨s', hs'⟩

theorem recovery_exact_overwritten : ∃ s, (system.restrict Clean).Run ⟨.fresh, []⟩
    [.put [1] [7], .put [2] [8], .reopen 22, .put [3] [9], .reopen 30] s ∧
    s.store.get [3] = .ok (some [9]) ∧ s.store.get [2] = .ok none := by
  have hr : (system.restrict Clean).Run ⟨.fresh, []⟩
      [.put [1] [7], .put [2] [8], .reopen 22, .put [3] [9], .reopen 30] _ :=
    .cons ⟨⟨by decide, by decide⟩, rfl⟩ (.cons ⟨⟨by decide, by decide⟩, rfl⟩
      (.cons ⟨⟨by decide, by decide⟩, rfl⟩
      (.cons ⟨⟨by decide, by decide⟩, rfl⟩ (.cons ⟨⟨by decide, by decide⟩, rfl⟩ (.nil _)))))
  have hg := (recovery_exact _ _ hr).1; exact ⟨_, hr, hg [3], hg [2]⟩

theorem torn_value_becomes_key : ∃ s, system.Run ⟨.fresh, []⟩
    [.put [1] (frame flagLive [9] [9] ++ [0]), .reopen 29, .put [2] [], .reopen 30] s ∧
    contents s.log [9] = none ∧ s.store.get [9] = .ok (some [9]) :=
  ⟨_, .cons rfl (.cons rfl (.cons rfl (.cons rfl (.nil _)))), by decide +kernel, by decide +kernel⟩

end Aeon.L2.StateLog.Crash
