import Aeon.Core.RecordLog

/-!
# The L2 body store

`crates/aeon-engine/src/l2_body.rs`, on the bytes of the files: a segment is a header and records
`seq | crc32 | len | payload`; the iterator stops at the first record that is cut short or fails its
CRC, and `append` goes on behind whatever the file holds. MessagePack and CRC32 are parameters
(`Codec`).
-/
namespace Aeon.L2.Body

open List Aeon.Core

structure Codec (Event : Type) where
  encode : Event → Option Bytes
  decode : Bytes → Option Event
  crc32 : Bytes → UInt32

/-- mirrors l2_body.rs:54-55 -/
def segmentMagic : Bytes := [65, 69, 79, 78, 45, 76, 50, 66]

/-- mirrors l2_body.rs:57-58 -/
def segmentVersion : Nat := 1

/-- mirrors l2_body.rs:60-61 -/
def headerSize : Nat := 12

/-- mirrors l2_body.rs:63-64 -/
def recordHeaderSize : Nat := 16

/-- mirrors l2_body.rs:66-67 -/
def defaultSegmentBytes : Nat := 256 * 1024 * 1024

def header : Bytes := segmentMagic ++ leBytes 2 segmentVersion ++ leBytes 2 0

/-- mirrors l2_body.rs:122-137 -/
structure Segment where
  start : Nat
  maxSeq : Option Nat
  byteLen : Nat
  deriving DecidableEq

abbrev Dir := List (Nat × Bytes)

namespace Dir

def create (d : Dir) (start : Nat) (b : Bytes) : Option Dir :=
  if start ∈ d.map Prod.fst then none
  else some (d.takeWhile (·.1 < start) ++ (start, b) :: d.dropWhile (·.1 < start))

def write (d : Dir) (start : Nat) (b : Bytes) : Dir :=
  d.map fun f => if f.1 = start then (f.1, f.2 ++ b) else f

end Dir

section Store

variable {Event : Type} (C : Codec Event)

/-- mirrors l2_body.rs:276-291 -/
def frame (seq : Nat) (payload : Bytes) : Bytes :=
  leBytes 8 seq ++ leBytes 4 (C.crc32 (leBytes 4 payload.length ++ payload)).toNat ++
    leBytes 4 payload.length ++ payload

/-- mirrors l2_body.rs:362-424 -/
def nextRecord (data : Bytes) : Option (Except String (Nat × Event) × Bytes) :=
  if data.length < recordHeaderSize then none
  else
    let seq := leVal (data.take 8)
    let crc := leVal ((data.drop 8).take 4)
    let len := leVal ((data.drop 12).take 4)
    if data.length < recordHeaderSize + len then none
    else
      let onDisk := (data.drop recordHeaderSize).take len
      if (C.crc32 (leBytes 4 len ++ onDisk)).toNat ≠ crc then none
      else
        match C.decode onDisk with
        | none => some (.error "l2-body: decode event", [])
        | some e => some (.ok (seq, e), data.drop (recordHeaderSize + len))

/-- mirrors l2_body.rs:331-352 -/
def iterRecords (file : Bytes) : Except String (List (Except String (Nat × Event))) :=
  if file.length < headerSize ∨ file.take 8 ≠ segmentMagic then
    .error "l2-body: bad header on read"
  else .ok (scan (nextRecord C) (file.drop headerSize))

def collectRecords : List (Except String (Nat × Event)) → Except String (List (Nat × Event))
  | [] => .ok []
  | .error e :: _ => .error e
  | .ok r :: rs => do
    let rest ← collectRecords rs
    .ok (r :: rest)

/-- mirrors l2_body.rs:196-247 -/
def Segment.openFile (start : Nat) (file : Bytes) : Except String Segment :=
  if file.length < headerSize then .error "l2-body: file shorter than header"
  else if file.take 8 ≠ segmentMagic then .error "l2-body: bad magic"
  else if leVal ((file.drop 8).take 2) ≠ segmentVersion then
    .error ("l2-body: unsupported version " ++ toString (leVal ((file.drop 8).take 2)))
  else do
    let records ← collectRecords (← iterRecords C file)
    .ok ⟨start, (records.getLast?).map Prod.fst, file.length⟩

/-- mirrors l2_body.rs:476-489 -/
structure Store where
  segmentBytes : Nat
  dir : Dir := []
  segments : List Segment := []
  nextSeq : Nat := 0
  deriving DecidableEq

/-- mirrors l2_body.rs:466-472 -/
def effectiveSegmentBytes (segmentBytes : Nat) : Nat :=
  if segmentBytes = 0 then defaultSegmentBytes else segmentBytes

def openFiles : Dir → Except String (List Segment × Nat)
  | [] => .ok ([], 0)
  | (start, file) :: d => do
    let seg ← Segment.openFile C start file
    let (segs, nextSeq) ← openFiles d
    .ok (seg :: segs, max (match seg.maxSeq with | some m => m + 1 | none => 0) nextSeq)

/-- mirrors l2_body.rs:495-533 -/
def Store.openDir (segmentBytes : Nat) (dir : Dir) : Except String Store := do
  let (segments, nextSeq) ← openFiles C dir
  .ok ⟨segmentBytes, dir, segments, nextSeq⟩

/-- mirrors l2_body.rs:251-297 -/
def Segment.append (s : Segment) (seq : Nat) (event : Event) : Except String (Segment × Bytes) :=
  match s.maxSeq.filter (seq ≤ ·) with
  | some m =>
    .error ("l2-body: non-monotonic seq " ++ toString seq ++ " ≤ max " ++ toString m)
  | none =>
    match C.encode event with
    | none => .error "l2-body: encode event"
    | some payload =>
      if 2 ^ 32 ≤ payload.length then .error "l2-body: event exceeds u32 len"
      else .ok (⟨s.start, some seq, s.byteLen + (recordHeaderSize + payload.length)⟩, frame C seq payload)

variable (s : Store)

/-- mirrors l2_body.rs:538-543 -/
def Store.needNew : Prop :=
  ∀ seg ∈ s.segments.getLast?, effectiveSegmentBytes s.segmentBytes ≤ seg.byteLen
  deriving Decidable

/-- mirrors l2_body.rs:544-549 -/
def Store.rollover : Except String Store :=
  if s.needNew then
    match s.dir.create s.nextSeq header with
    | none => .error ("l2-body: create " ++ toString s.nextSeq ++ ".l2b")
    | some dir =>
      .ok { s with dir := dir, segments := s.segments ++ [⟨s.nextSeq, none, headerSize⟩] }
  else .ok s

/-- mirrors l2_body.rs:536-558 -/
def Store.append (event : Event) : Store × Except String Nat :=
  match s.rollover with
  | .error e => (s, .error e)
  | .ok s =>
    match s.segments.getLast? with
    | none => (s, .error "unreachable: the rollover left no segment")
    | some writable =>
      match writable.append C s.nextSeq event with
      | .error e => (s, .error e)
      | .ok (writable', bytes) =>
        ({ s with
            dir := s.dir.write writable.start bytes
            segments := s.segments.dropLast ++ [writable']
            nextSeq := s.nextSeq + 1 }, .ok s.nextSeq)

/-- mirrors l2_body.rs:588-618 -/
def gcSegments (minAckSeq : Nat) (elapsed : Nat → Bool) : List Segment → List Nat × List Segment
  | seg :: next :: segs =>
    if (seg.maxSeq.any (· < minAckSeq)) && elapsed seg.start then
      let (removed, kept) := gcSegments minAckSeq elapsed (next :: segs)
      (seg.start :: removed, kept)
    else ([], seg :: next :: segs)
  | segs => ([], segs)

/-- mirrors l2_body.rs:575-621 -/
def Store.gcUpTo (minAckSeq : Nat) (elapsed : Nat → Bool) : Store :=
  let (removed, kept) := gcSegments minAckSeq elapsed s.segments
  { s with dir := s.dir.filter (·.1 ∉ removed), segments := kept }

/-- mirrors l2_body.rs:653-666 -/
def iterSegment (dir : Dir) (fromSeq : Nat) (seg : Segment) : Except String (List (Nat × Event)) :=
  match seg.maxSeq with
  | none => .ok []
  | some m =>
    if m < fromSeq then .ok []
    else
      match dir.find? (·.1 = seg.start) with
      | none => .error "l2-body: read"
      | some (_, file) => do
        let records ← collectRecords (← iterRecords C file)
        .ok (records.filter fun r => fromSeq ≤ r.1)

/-- mirrors l2_body.rs:650-669 -/
def Store.iterFrom (fromSeq : Nat) : Except String (List (Nat × Event)) := do
  let parts ← s.segments.mapM (iterSegment C s.dir fromSeq)
  .ok parts.flatten

end Store

section Records

variable {Event : Type} {C : Codec Event}

@[simp] lemma length_header : header.length = headerSize := rfl

lemma length_frame (seq : Nat) (payload : Bytes) :
    (frame C seq payload).length = recordHeaderSize + payload.length := by
  simp [frame, recordHeaderSize]; omega

lemma frame_fields (seq : Nat) (payload rest : Bytes) : (frame C seq payload ++ rest).take 8 = leBytes 8 seq ∧
    ((frame C seq payload ++ rest).drop 8).take 4 = leBytes 4
      (C.crc32 (leBytes 4 payload.length ++ payload)).toNat ∧
    ((frame C seq payload ++ rest).drop 12).take 4 = leBytes 4 payload.length ∧
    (frame C seq payload ++ rest).drop recordHeaderSize = payload ++ rest := by
  simp only [frame, append_assoc]
  have hd : ∀ (a b : Bytes) (n m : Nat), a.length = n → (a ++ b).drop (n + m) = b.drop m := by
    intro a b n m h; rw [← drop_drop, drop_left' h]
  simp [drop_left' (length_leBytes 8 seq), take_left' (length_leBytes 4 _), hd _ _ 8 4
    (length_leBytes 8 seq), drop_left' (length_leBytes 4 _), recordHeaderSize, hd _ _ 8 8
    (length_leBytes 8 seq), hd _ _ 4 4 (length_leBytes 4 _)]

lemma nextRecord_frame {seq : Nat} {payload : Bytes} (hs : seq < 2 ^ 64) (hle : payload.length < 2 ^ 32)
    (hde : C.decode payload = some e) (rest : Bytes) :
    nextRecord C (frame C seq payload ++ rest) = some (.ok (seq, e), rest) := by
  obtain ⟨h₁, h₂, h₃, h₄⟩ := frame_fields (C := C) seq payload rest
  have hl : (frame C seq payload ++ rest).length = recordHeaderSize + payload.length + rest.length := by
    rw [length_append, length_frame]
  have hv : leVal (leBytes 4 payload.length) = payload.length := leVal_leBytes hle
  have hc : leVal (leBytes 4 (C.crc32 (leBytes 4 payload.length ++ payload)).toNat) =
      (C.crc32 (leBytes 4 payload.length ++ payload)).toNat := leVal_leBytes (UInt32.toNat_lt _)
  have hd : (frame C seq payload ++ rest).drop (recordHeaderSize + payload.length) = rest := by simp_all
  simp only [nextRecord, h₁, h₂, h₃, h₄, hl, hv, hc, take_left, hde, hd, leVal_leBytes (w := 8) hs]
  grind

lemma nextRecord_torn {seq : Nat} {payload : Bytes} (hle : payload.length < 2 ^ 32)
    (hn : n < (frame C seq payload).length) : nextRecord C ((frame C seq payload).take n) = none := by
  rw [length_frame] at hn
  have hl : ((frame C seq payload).take n).length = n := by rw [length_take, length_frame]; omega
  rw [nextRecord, hl]; by_cases h16 : n < recordHeaderSize
  · rw [if_pos h16]
  · -- the length field is whole, and says that bytes are missing
    have h₃ := (frame_fields (C := C) seq payload []).2.2.1; rw [append_nil] at h₃
    have hf : (((frame C seq payload).take n).drop 12).take 4 = leBytes 4 payload.length := by
      rw [drop_take, take_take, ← h₃]; congr 1
      rw [recordHeaderSize] at h16; omega
    rw [if_neg h16]; simp only [hf, leVal_leBytes (w := 4) hle]; rw [if_pos (by omega)]

lemma nextRecord_nil : nextRecord C [] = none := rfl

lemma nextRecord_progress (d : Bytes) (a : Except String (Nat × Event)) (r : Bytes)
    (h : nextRecord C d = some (a, r)) : r.length < d.length := by
  simp only [nextRecord] at h; split_ifs at h with h16 hl hc
  have hp : 0 < recordHeaderSize := by decide
  grind

lemma iterRecords_header (body : Bytes) : iterRecords C (header ++ body) = .ok
    (scan (nextRecord C) body) := by rfl

end Records

section Directory

variable {Event : Type} {C : Codec Event} {s : Store}

def Dir.Distinct (d : Dir) : Prop := (d.map Prod.fst).Nodup

lemma Dir.Distinct.create {d d' : Dir} (h : d.Distinct) {start : Nat} {b : Bytes}
    (hc : d.create start b = some d') : d'.Distinct := by
  unfold Dir.create at hc; split_ifs at hc with hm; cases hc
  have hp : (d.takeWhile (·.1 < start) ++ (start, b) :: d.dropWhile (·.1 < start)).Perm
    ((start, b) :: d) := by
    have hs : d.takeWhile (·.1 < start) ++ d.dropWhile (·.1 < start) = d := takeWhile_append_dropWhile
    refine perm_middle.trans ?_; rw [hs]
  grind [Dir.Distinct, nodup_cons]

lemma Dir.map_fst_write (d : Dir) (start : Nat) (b : Bytes) :
    (d.write start b).map Prod.fst = d.map Prod.fst := by
  rw [Dir.write, List.map_map]; refine map_congr_left fun f _ => ?_; grind

lemma Store.rollover_distinct {s' : Store} (h : s.dir.Distinct) (hr : s.rollover = .ok s') :
    s'.dir.Distinct := by
  unfold Store.rollover at hr; split_ifs at hr
  · split at hr
    · cases hr
    · rename_i hc
      cases hr; exact h.create hc
  · cases hr; exact h

lemma Store.append_distinct (h : s.dir.Distinct) (e : Event) : (s.append C e).1.dir.Distinct := by
  unfold Store.append; split
  · exact h
  · rename_i s' hr
    have h' := Store.rollover_distinct h hr; split
    · exact h'
    · split
      · exact h'
      · rw [Dir.Distinct, Dir.map_fst_write]; exact h'

lemma Store.gcUpTo_distinct (h : s.dir.Distinct) (minAckSeq : Nat) (elapsed : Nat → Bool) :
    (s.gcUpTo minAckSeq elapsed).dir.Distinct :=
  (filter_sublist.map Prod.fst).nodup h

lemma gcSegments_split (minAckSeq : Nat) (elapsed : Nat → Bool) (segs : List Segment) :
    ∃ gone kept, segs = gone ++ kept ∧ (segs ≠ [] → kept ≠ []) ∧
      gcSegments minAckSeq elapsed segs = (gone.map Segment.start, kept) ∧
      ∀ seg ∈ gone, seg.maxSeq.any (· < minAckSeq) = true ∧ elapsed seg.start = true := by
  induction segs with
  | nil => exact ⟨[], [], rfl, fun h => h, rfl, fun seg h => absurd h not_mem_nil⟩
  | cons seg segs ih =>
    cases segs with
    | nil => exact ⟨[], [seg], rfl, fun h => h, rfl, fun seg h => absurd h not_mem_nil⟩
    | cons =>
      obtain ⟨gone, kept, heq, hne, hgc, hg⟩ := ih; rw [gcSegments]; split_ifs with hd
      · grind
      simp

lemma mem_gcSegments {minAckSeq : Nat} {elapsed : Nat → Bool} {segs : List Segment} {seg : Segment}
    (hme : seg ∈ segs) (hm : seg.maxSeq = some m) (hle : minAckSeq ≤ m) :
    seg ∈ (gcSegments minAckSeq elapsed segs).2 := by
  obtain ⟨gone, kept, rfl, -, hgc, hg⟩ := gcSegments_split minAckSeq elapsed segs; grind

lemma Store.append_seq {seq : Nat} (h : (s.append C e).2 = .ok seq) : seq = s.nextSeq := by
  have hro : ∀ s', s.rollover = .ok s' → s'.nextSeq = s.nextSeq := by grind [Store.rollover]
  unfold Store.append at h; split at h
  · cases h
  · rename_i s' hr
    grind

lemma Store.mem_of_mem_gcUpTo {minAckSeq : Nat} {elapsed : Nat → Bool}
    (h : f ∈ (s.gcUpTo minAckSeq elapsed).dir) : f ∈ s.dir :=
  mem_of_mem_filter h

lemma find?_of_ascending_key {α : Type} (key : α → Nat) {l : List α} (ha : l.Pairwise (key · < key ·)) {x : α}
    (hx : x ∈ l) {p : α → Bool} (hp : ∀ y, p y = decide (key y = key x)) : l.find? p = some x := by
  obtain ⟨pre, post, rfl⟩ := append_of_mem hx; rw [pairwise_append] at ha
  rw [find?_append, find?_eq_none.mpr, Option.none_or, find?_cons_of_pos (by simp [hp])]
  intro y hy; have := ha.2.2 y hy _ mem_cons_self; simp only [hp, decide_eq_true_eq]
  omega

lemma find?_of_ascending {d : Dir} (ha : d.Pairwise (·.1 < ·.1)) {f : Nat × Bytes} (hf : f ∈ d)
    {p : Nat × Bytes → Bool} (hp : ∀ g, p g = decide (g.1 = f.1)) :
    d.find? p = some f :=
  find?_of_ascending_key Prod.fst ha hf hp

end Directory

end Aeon.L2.Body
