import Aeon.Core.Cursor
import Aeon.Core.KeyedLog

/-!
# The memory-mapped state tier

`L2Store` of `crates/aeon-state/src/l2.rs`: a file of entries, only appended to, and an index in
memory. `Holds s log`: the file has the entries `log`, whose keys and values are `Short`.

* `open_image`: opening the file of `log` gives a store that holds it;
* `Holds.get`, `Holds.put`, `Holds.delete`: the operations of the map.
-/
namespace Aeon.L2.StateLog

open Function List Option Aeon.Core Aeon.Core.KeyedLog

def magic : Bytes := [65, 69, 79, 78, 76, 50, 0, 1]

def flagLive : UInt8 := 1

def flagDeleted : UInt8 := 0

/-- mirrors l2.rs:55-71 -/
structure L2Store where
  file : Bytes
  index : Bytes → Option Nat
  writePos : Nat

/-- mirrors l2.rs:206-221 -/
def frame (flag : UInt8) (key value : Bytes) : Bytes := flag :: (fieldBytes key ++ fieldBytes value)

def entrySize (key value : Bytes) : Nat := 1 + 4 + key.length + 4 + value.length

def readFields : Reader String (Bytes × Bytes) := do
  let key ← Reader.field "L2: read key_len" "L2: read key"
  let value ← Reader.field "L2: read val_len" "L2: read value"
  return (key, value)

lemma stable_readFields : Stable readFields :=
  (Stable.field _ _).bind fun _ => (Stable.field _ _).bind fun _ => Stable.pure _

/-- mirrors l2.rs:157-194 -/
def readEntryAt (file : Bytes) (pos : Nat) : Except String (Option (UInt8 × Bytes × Bytes)) :=
  match file.drop pos with
  | [] => .ok none
  | flag :: rest => (readFields rest).map fun r => some (flag, r.1)

namespace L2Store

/-- mirrors l2.rs:107-134 -/
def recover (file : Bytes) : Nat → (Bytes → Option Nat) → Nat → (Bytes → Option Nat) × Nat
  | 0, index, pos => (index, pos)
  | fuel + 1, index, pos =>
    match readEntryAt file pos with
    | .ok (some (flag, key, value)) =>
      recover file fuel (update index key (if flag = flagLive then some pos else none))
        (pos + entrySize key value)
    | _ => (index, pos)

/-- mirrors l2.rs:73-155 -/
def openFile (file : Bytes) : Except String L2Store :=
  if file = [] then .ok ⟨magic, fun _ => none, magic.length⟩
  else if file.length < magic.length then .error "L2: read header"
  else if file.take magic.length ≠ magic then .error "L2: invalid magic bytes"
  else
    let (index, pos) := recover file file.length (fun _ => none) magic.length
    .ok ⟨file, index, pos⟩

variable (s : L2Store)

/-- mirrors l2.rs:196-230 -/
def appendEntry (flag : UInt8) (key value : Bytes) : L2Store × Nat :=
  let written := s.file.take s.writePos ++ frame flag key value ++ s.file.drop
    (s.writePos + entrySize key value)
  ({ s with file := written, writePos := s.writePos + entrySize key value }, s.writePos)

/-- mirrors l2.rs:409-423 -/
def get (key : Bytes) : Except String (Option Bytes) :=
  match s.index key with
  | none => .ok none
  | some offset => (readEntryAt s.file offset).map fun entry => entry.map (·.2.2)

/-- mirrors l2.rs:425-446 -/
def put (key value : Bytes) : L2Store :=
  let (s, offset) := s.appendEntry flagLive key value
  { s with index := update s.index key (some offset) }

/-- mirrors l2.rs:448-465 -/
def delete (key : Bytes) : L2Store :=
  let removed := { s with index := update s.index key none }
  if (s.index key).isSome then (removed.appendEntry flagDeleted key []).1 else removed

def fresh : L2Store := ⟨magic, fun _ => none, magic.length⟩

/-- mirrors l2.rs:312-345 -/
def compact (it : List Bytes) : L2Store := it.foldl (fun new key =>
    match s.get key with
    | .ok (some value) => new.put key value
    | _ => new) fresh

/-- mirrors l2.rs:378-399 -/
def clear (_ : L2Store) : L2Store := fresh

end L2Store

def frameOf (e : Entry Bytes Bytes) : Bytes :=
  match e.2 with
  | some value => frame flagLive e.1 value
  | none => frame flagDeleted e.1 []

def sizeOf (e : Entry Bytes Bytes) : Nat := entrySize e.1 (e.2.getD [])

def image (log : List (Entry Bytes Bytes)) : Bytes := magic ++ log.flatMap frameOf

def nextEntry : Bytes → Option (Entry Bytes Bytes × Bytes)
  | [] => none
  | flag :: rest =>
    match readFields rest with
    | .ok ((key, value), rest) => some ((key, if flag = flagLive then some value else none), rest)
    | .error _ => none

def entriesOf (file : Bytes) : List (Entry Bytes Bytes) := scanFuel nextEntry file.length
    (file.drop magic.length)

def Short (e : Entry Bytes Bytes) : Prop := e.1.length < 2 ^ 32 ∧ (e.2.getD []).length < 2 ^ 32
  deriving Decidable

structure Holds (s : L2Store) (log : List (Entry Bytes Bytes)) : Prop where
  short : ∀ e ∈ log, Short e
  file : s.file = image log
  index : s.index = (index sizeOf magic.length log).1
  writePos : s.writePos = (image log).length

structure Trails (s : L2Store) (log : List (Entry Bytes Bytes)) (tail : Bytes) : Prop where
  short : ∀ e ∈ log, Short e
  file : s.file = image log ++ tail
  index : s.index = (index sizeOf magic.length log).1
  writePos : s.writePos = (image log).length

lemma trails_nil {log : List (Entry Bytes Bytes)} : Trails s log [] ↔ Holds s log :=
  ⟨fun h => ⟨h.short, by rw [h.file, append_nil], h.index, h.writePos⟩,
    fun h => ⟨h.short, by rw [h.file, append_nil], h.index, h.writePos⟩⟩

section Frames

variable {log : List (Entry Bytes Bytes)} {e : Entry Bytes Bytes} {key value : Bytes} {flag : UInt8}

lemma length_frame : (frame flag key value).length = entrySize key value := by
  simp only [frame, fieldBytes, entrySize, length_cons, length_append, length_leBytes]
  omega

lemma length_frameOf (e : Entry Bytes Bytes) : (frameOf e).length = sizeOf e := by
  obtain ⟨key, _ | value⟩ := e
  · exact length_frame
  · exact length_frame

lemma length_image : (image log).length = magic.length + (log.map sizeOf).sum := by
  simp [image, length_frameOf]

lemma image_snoc : image (log ++ [e]) = image log ++ frameOf e := by simp [image]

lemma readFields_reads (hk : key.length < 2 ^ 32) (hva : value.length < 2 ^ 32) :
    Reads readFields (fieldBytes key ++ fieldBytes value) (key, value) := by
  have hf : Reads (Reader.field "L2: read val_len" "L2: read value") (fieldBytes value) value :=
    Reads.field hva _ _
  have hv := hf.bind (f := fun value => Pure.pure (key, value)) (Reads.pure (key, value))
  rw [append_nil] at hv
  exact (Reads.field (b := key) hk "L2: read key_len" "L2: read key").bind hv

lemma nextEntry_frame (hk : key.length < 2 ^ 32) (hv : value.length < 2 ^ 32) (rest : Bytes) :
    nextEntry (frame flag key value ++ rest) = some ((key, if flag = flagLive then some value else none),
      rest) := by
  have hr := readFields_reads hk hv rest; rw [frame, cons_append, nextEntry, hr]

lemma nextEntry_frameOf (he : Short e) (rest : Bytes) : nextEntry (frameOf e ++ rest) = some (e, rest) := by
  obtain ⟨key, _ | value⟩ := e
  · exact nextEntry_frame he.1 he.2 rest
  · exact nextEntry_frame he.1 he.2 rest

lemma length_le_image : log.length ≤ (image log).length := by
  have hs := length_le_sum_of_one_le (log.map sizeOf) fun n hn => by grind [sizeOf, entrySize]
  rw [length_map] at hs; rw [length_image]; omega

lemma entriesOf_image (hs : ∀ e ∈ log, Short e) : entriesOf (image log) = log := by
  have hd : (image log).drop magic.length = log.flatMap frameOf := drop_left
  have hsc : scanFuel nextEntry (image log).length (log.flatMap frameOf) = log.map id :=
    scanFuel_frames length_le_image (fun e he => nextEntry_frameOf (hs e he)) rfl
  rw [entriesOf, hd, hsc, List.map_id]

lemma readEntryAt_frame (before rest : Bytes) (hk : key.length < 2 ^ 32) (hv : value.length < 2 ^ 32) :
    readEntryAt (before ++ (frame flag key value ++ rest)) before.length = .ok (some (flag, key, value)) := by
  rw [readEntryAt, drop_left]; simp only [frame, cons_append]
  rw [readFields_reads hk hv rest]; rfl

lemma readEntryAt_stop {tail : Bytes} (h : nextEntry tail = none) (before : Bytes)
    (r : UInt8 × Bytes × Bytes) :
    readEntryAt (before ++ tail) before.length ≠ .ok (some r) := by
  rw [readEntryAt, drop_left]; rcases tail with _ | ⟨flag, rest⟩
  · simp
  · rw [nextEntry] at h; cases hr : readFields rest <;> simp_all [Except.map]

lemma readEntryAt_image {first rest : List (Entry Bytes Bytes)} (he : Short e) (tail : Bytes) :
    readEntryAt (image (first ++ e :: rest) ++ tail) (image first).length =
      .ok (some (if e.2.isSome then flagLive else flagDeleted, e.1, e.2.getD [])) := by
  have hi : image (first ++ e :: rest) ++ tail = image first ++
    (frameOf e ++ (rest.flatMap frameOf ++ tail)) := by
    simp [image]
  rw [hi]; obtain ⟨key, _ | value⟩ := e
  · exact readEntryAt_frame _ _ he.1 he.2
  · exact readEntryAt_frame _ _ he.1 he.2

end Frames

section Open

variable {log : List (Entry Bytes Bytes)}

lemma recover_image (done todo : List (Entry Bytes Bytes)) {fuel : Nat} {tail : Bytes}
    (hs : ∀ e ∈ done ++ todo, Short e) (hf : todo.length ≤ fuel) (ht : nextEntry tail = none) :
    L2Store.recover (image (done ++ todo) ++ tail) fuel (index sizeOf magic.length done).1
      (image done).length =
      index sizeOf magic.length (done ++ todo) := by
  have hp : ∀ log, (image log).length = (index sizeOf magic.length log).2 := fun log => by
    rw [length_image, snd_index]
  induction todo generalizing done fuel with
  | nil =>
    rw [append_nil]
    cases fuel with
    | zero => rw [L2Store.recover, hp]
    | succ =>
      rw [L2Store.recover]; split
      · rename_i hr
        exact absurd hr (readEntryAt_stop ht _ _)
      · rw [hp]
  | cons e todo ih =>
    obtain ⟨fuel, rfl⟩ : ∃ f, fuel = f + 1 := ⟨fuel - 1, by simp at hf; omega⟩
    have hsp : done ++ e :: todo = (done ++ [e]) ++ todo := by simp
    have hi : update (index sizeOf magic.length done).1 e.1
        (if (if e.2.isSome then flagLive else flagDeleted) = flagLive then some (image done).length else none)
          =
        (index sizeOf magic.length (done ++ [e])).1 := by
      rw [fst_index_snoc, hp]; obtain ⟨key, _ | value⟩ := e <;> rfl
    have hn : (image done).length + entrySize e.1 (e.2.getD []) = (image (done ++ [e])).length := by
      rw [image_snoc, length_append, length_frameOf]; rfl
    have hre := ih (done ++ [e]) (hsp ▸ hs) (show todo.length ≤ fuel by simpa using hf)
    rw [L2Store.recover, readEntryAt_image (hs e (by simp))]; grind

lemma open_trails {tail : Bytes} (hs : ∀ e ∈ log, Short e) (ht : nextEntry tail = none) :
    ∃ s, L2Store.openFile (image log ++ tail) = .ok s ∧ Trails s log tail := by
  have hl : log.length ≤ (image log ++ tail).length := by
    rw [length_append]; exact Nat.le_add_right_of_le length_le_image
  have hr := recover_image [] log hs hl ht
  have hne : image log ++ tail ≠ [] := by simp [image, magic]
  have hta : (image log ++ tail).take magic.length = magic := by rw [image, append_assoc, take_left]
  refine ⟨⟨image log ++ tail, (index sizeOf magic.length log).1, (index sizeOf magic.length log).2⟩, ?_, hs,
    rfl,
    rfl, ?_⟩
  · rw [L2Store.openFile, if_neg hne, if_neg (by rw [length_append, length_image]; omega),
      if_neg (not_not.mpr hta)]
    exact congrArg (fun r : (Bytes → Option Nat) × Nat =>
      Except.ok (L2Store.mk (image log ++ tail) r.1 r.2)) hr
  · rw [length_image, snd_index]

lemma open_image (hsh : ∀ e ∈ log, Short e) : ∃ s, L2Store.openFile (image log) = .ok s ∧ Holds s log := by
  obtain ⟨s, hs, h⟩ := @open_trails _ [] hsh rfl; rw [append_nil] at hs
  exact ⟨s, hs, trails_nil.mp h⟩

lemma holds_fresh : Holds L2Store.fresh [] :=
  ⟨by simp, by simp [image, L2Store.fresh], rfl, by simp [image, L2Store.fresh]⟩

lemma open_empty : ∃ s, L2Store.openFile [] = .ok s ∧ Holds s [] := ⟨_, rfl, holds_fresh⟩

end Open

section Ops

variable {s : L2Store} {log : List (Entry Bytes Bytes)} {key value tail : Bytes}

lemma Trails.get (h : Trails s log tail) (key : Bytes) : s.get key = .ok (contents log key) := by
  rw [L2Store.get, h.index, h.file]
  cases hi : (KeyedLog.index sizeOf magic.length log).1 key with
  | none => rw [index_eq_none hi]
  | some =>
    obtain ⟨first, v, rest, rfl, rfl, hv⟩ := exists_of_index hi
    have hr : readEntryAt (image (first ++ (key, some v) :: rest) ++ tail) (image first).length =
        .ok (some (flagLive, key, v)) := readEntryAt_image (h.short (key, some v) (by simp)) tail
    rw [length_image] at hr; simp only [hr, hv]; rfl

lemma Trails.isSome_index (h : Trails s log tail) (key : Bytes) :
    (s.index key).isSome = (contents log key).isSome := by
  rw [h.index]
  cases hi : (KeyedLog.index sizeOf magic.length log).1 key with
  | none => rw [index_eq_none hi]; rfl
  | some => obtain ⟨_, _, _, -, -, hv⟩ := exists_of_index hi; rw [hv]; rfl

lemma Trails.append (h : Trails s log tail) (hs : Short e) :
    Trails ⟨image log ++ frameOf e ++ tail.drop (sizeOf e), update s.index e.1 (e.2.map fun _ => s.writePos),
      s.writePos + sizeOf e⟩ (log ++ [e]) (tail.drop (sizeOf e)) where
  short e' he := by
    rcases mem_append.mp he with he | he
    · exact h.short e' he
    · exact mem_singleton.mp he ▸ hs
  file := by rw [image_snoc]
  index := by rw [fst_index_snoc, snd_index, ← length_image, ← h.index, h.writePos]
  writePos := by rw [image_snoc, length_append, length_frameOf, h.writePos]

lemma appendEntry_trails (hf : s.file = image log ++ tail) (hp : s.writePos = (image log).length)
    (flag : UInt8) :
    s.appendEntry flag key value = (⟨image log ++ frame flag key value ++ tail.drop (entrySize key value),
      s.index,
        s.writePos + entrySize key value⟩, s.writePos) := by
  rw [L2Store.appendEntry, hf, hp, take_left, drop_append, drop_eq_nil_of_le (by omega)]
  simp

lemma Trails.put (h : Trails s log tail) (hs : Short (key, some value)) :
    Trails (s.put key value) (log ++ [(key, some value)]) (tail.drop (entrySize key value)) := by
  rw [L2Store.put, appendEntry_trails h.file h.writePos]; exact h.append hs

lemma Trails.delete (h : Trails s log tail) (key : Bytes) :
    ∃ n, Trails (s.delete key) (if (contents log key).isSome then log ++ [(key, none)] else log)
      (tail.drop n) := by
  rw [L2Store.delete, h.isSome_index]; split_ifs with hs
  · -- the key has an entry, so its length fits
    obtain ⟨v, hv⟩ := isSome_iff_exists.mp hs
    have hk : Short (key, (none : Option Bytes)) := ⟨(h.short _ (exists_of_contents hv)).1, by simp⟩
    refine ⟨sizeOf (key, none), ?_⟩
    rw [appendEntry_trails (s := ⟨s.file, update s.index key none, s.writePos⟩) h.file h.writePos]
    exact h.append hk
  · have hn : s.index key = none := by have := h.isSome_index key; simp_all
    refine ⟨0, h.short, h.file, ?_, h.writePos⟩; rw [← h.index]
    show update s.index key none = s.index; rw [← hn, update_eq_self]

lemma Holds.get (h : Holds s log) (key : Bytes) : s.get key = .ok (contents log key) :=
  (trails_nil.mpr h).get key

lemma Holds.put (h : Holds s log) (hs : Short (key, some value)) :
    Holds (s.put key value) (log ++ [(key, some value)]) := by
  have := (trails_nil.mpr h).put hs; rw [drop_nil] at this; exact trails_nil.mp this

lemma Holds.delete (h : Holds s log) (key : Bytes) :
    ∃ log', Holds (s.delete key) log' ∧ contents log' = update (contents log) key none := by
  obtain ⟨n, hn⟩ := (trails_nil.mpr h).delete key; rw [drop_nil] at hn
  refine ⟨_, trails_nil.mp hn, ?_⟩; split_ifs with hs
  · exact contents_snoc
  · rw [← not_isSome_iff_eq_none.mp hs, update_eq_self]

lemma contents_map (it : List Bytes) (m : Bytes → Option Bytes) (key : Bytes) :
    contents (it.map fun k => (k, m k)) key = if key ∈ it then m key else none := by
  induction it using List.reverseRecOn with
  | nil => rfl
  | append_singleton it k ih =>
    rw [map_append, map_singleton, contents_snoc]
    by_cases hk : key = k <;> simp [hk, ih]

variable {it : List Bytes}

variable {m : Bytes → Option Bytes}

lemma holds_compact
    (hg : ∀ key ∈ it, s.get key = .ok (m key) ∧ ∃ value, m key = some value ∧ Short (key, some value)) :
    Holds (s.compact it) (it.map fun key => (key, m key)) := by
  rw [L2Store.compact]
  induction it using List.reverseRecOn with
  | nil => exact holds_fresh
  | append_singleton it key ih =>
    obtain ⟨hke, value, hv, hs⟩ := hg key (by simp)
    have := (ih fun k hk => hg k (by simp [hk])).put hs
    simpa [foldl_append, hke, hv] using this

lemma contents_listed (h : ∀ key, key ∈ it ↔ (m key).isSome) :
    contents (it.map fun key => (key, m key)) = m := by
  funext key; rw [contents_map]; split_ifs with hk
  · rfl
  · exact (not_isSome_iff_eq_none.mp (mt (h key).mpr hk)).symm

lemma Trails.compact (h : Trails s log tail) (hit : ∀ key, key ∈ it ↔ (s.index key).isSome) :
    Holds (s.compact it) (it.map fun key => (key, contents log key)) ∧
      contents (it.map fun key => (key, contents log key)) = contents log := by
  simp only [h.isSome_index] at hit
  refine ⟨holds_compact fun key hk => ?_, contents_listed hit⟩
  obtain ⟨value, hv⟩ := isSome_iff_exists.mp ((hit key).mp hk)
  exact ⟨h.get key, value, hv, h.short _ (exists_of_contents hv)⟩

end Ops

end Aeon.L2.StateLog
