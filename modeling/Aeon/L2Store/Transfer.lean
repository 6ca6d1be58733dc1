import Aeon.L1Types.Event
import Aeon.L2Store.Body

/-!
# Streaming the segments of a partition

`crates/aeon-engine/src/l2_transfer.rs`, with the segment halves of `engine_providers.rs` and
`partition_install.rs`. A reader holds the bytes its file had when it was opened.

* `Copying`: what holds of both sides between two chunks;
* `Copying.installed`: an accepted transfer has every file of the source byte for byte.
-/
namespace Aeon.L2.Transfer

open List Option Function Aeon.Core Aeon.Types Aeon.L2.Body

/-- mirrors l2_transfer.rs:25-30 -/
structure SegmentEntry where
  startSeq : Nat
  sizeBytes : Nat
  crc32 : UInt32
  deriving DecidableEq

abbrev SegmentManifest := List SegmentEntry

/-- mirrors l2_transfer.rs:55-68 -/
structure SegmentChunk where
  startSeq : Nat
  offset : Nat
  data : Bytes
  isLast : Bool
  deriving DecidableEq

/-- mirrors l2_transfer.rs:14-16 -/
def defaultChunkBytes : Nat := 1024 * 1024

variable (d : Dir)

def fileAt (start : Nat) : Option Bytes := (d.find? (·.1 = start)).map Prod.snd

def editFile (start : Nat) (g : Bytes → Bytes) : Dir :=
  d.map fun f => (f.1, if f.1 = start then g f.2 else f.2)

def truncate (start : Nat) : Dir :=
  if start ∈ d.map Prod.fst then editFile d start fun _ => []
  else d.takeWhile (·.1 < start) ++ (start, []) :: d.dropWhile (·.1 < start)

def overwrite (file : Bytes) (offset : Nat) (data : Bytes) : Bytes :=
  if data = [] then file
  else (file ++ List.replicate (offset - file.length) 0).take offset ++ data ++ file.drop
    (offset + data.length)

def writeAt (start offset : Nat) (data : Bytes) : Dir :=
  editFile d start fun file => overwrite file offset data

section Source

variable (crc32 : Bytes → UInt32)

/-- mirrors l2_transfer.rs:53-94 -/
def readManifest (d : Dir) : SegmentManifest := d.map fun f => ⟨f.1, f.2.length, crc32 f.2⟩

/-- mirrors l2_transfer.rs:115-121 -/
structure SegmentReader where
  startSeq : Nat
  file : Bytes
  offset : Nat
  chunkBytes : Nat
  deriving DecidableEq

/-- mirrors l2_transfer.rs:126-145 -/
def SegmentReader.openSegment (d : Dir) (startSeq chunkBytes : Nat) : Except String SegmentReader :=
  match fileAt d startSeq with
  | none => .error ("l2-transfer: open " ++ toString startSeq ++ ".l2b")
  | some file => .ok ⟨startSeq, file, 0, max chunkBytes 1⟩

/-- mirrors l2_transfer.rs:148-169 -/
def SegmentReader.nextChunk (r : SegmentReader) : Option (SegmentChunk × SegmentReader) :=
  if r.file.length ≤ r.offset then none
  else
    let take := min r.chunkBytes (r.file.length - r.offset)
    some (⟨r.startSeq, r.offset, (r.file.drop r.offset).take take,
        decide (r.file.length ≤ r.offset + take)⟩,
      { r with offset := r.offset + take })

/-- mirrors engine_providers.rs:78-84 -/
structure ChunkIter where
  segs : List SegmentEntry
  current : Option SegmentReader := none
  deriving DecidableEq

/-- mirrors engine_providers.rs:84-100 -/
def nextChunk (chunkBytes : Nat) (d : Dir) :
    List SegmentEntry → Option SegmentReader → Except String (Option (SegmentChunk × ChunkIter))
  | [], current =>
    match current.bind SegmentReader.nextChunk with
    | some (c, r) => .ok (some (c, ⟨[], some r⟩))
    | none => .ok none
  | e :: segs, current =>
    match current.bind SegmentReader.nextChunk with
    | some (c, r) => .ok (some (c, ⟨e :: segs, some r⟩))
    | none => do
      let r ← SegmentReader.openSegment d e.startSeq chunkBytes
      nextChunk chunkBytes d segs (some r)

def ChunkIter.next (it : ChunkIter) (d : Dir) : Except String (Option (SegmentChunk × ChunkIter)) :=
  nextChunk defaultChunkBytes d it.segs it.current

end Source

section Target

variable (crc32 : Bytes → UInt32)

/-- mirrors l2_transfer.rs:193-198 -/
structure OpenSegment where
  expectedBytes : Nat
  bytesReceived : Nat

/-- mirrors l2_transfer.rs:182-191 -/
structure SegmentWriter where
  manifest : SegmentManifest
  openSegments : Nat → Option OpenSegment := fun _ => none
  finalized : Nat → Option UInt32 := fun _ => none

def hex8 (c : UInt32) : String :=
  let digits := Nat.toDigits 16 c.toNat
  String.ofList (List.replicate (8 - digits.length) '0' ++ digits)

variable (w : SegmentWriter)

def SegmentWriter.setOpen (start : Nat) (seg : OpenSegment) : SegmentWriter :=
  { w with openSegments := update w.openSegments start (some seg) }

variable (d : Dir)

/-- mirrors l2_transfer.rs:283-302 -/
def SegmentWriter.finalize (entry : SegmentEntry) (seg : OpenSegment) : Except String Unit × SegmentWriter :=
  let start := entry.startSeq
  if seg.bytesReceived ≠ seg.expectedBytes then
    (.error ("l2-transfer: is_last but received " ++ toString seg.bytesReceived ++ " of " ++
      toString seg.expectedBytes ++ " bytes for start_seq=" ++ toString start), w.setOpen start seg)
  else
    let actualCrc := crc32 ((fileAt d start).getD [])
    if actualCrc ≠ entry.crc32 then
      (.error ("l2-transfer: CRC mismatch for start_seq=" ++ toString start ++ ": expected " ++
        hex8 entry.crc32 ++ ", got " ++ hex8 actualCrc), w.setOpen start seg)
    else
      (.ok (), { w with
        finalized := update w.finalized start (some actualCrc)
        openSegments := update w.openSegments start none })

/-- mirrors l2_transfer.rs:245-262 -/
def SegmentWriter.openFor (entry : SegmentEntry) : OpenSegment × Dir :=
  match w.openSegments entry.startSeq with
  | some seg => (seg, d)
  | none => (⟨entry.sizeBytes, 0⟩, truncate d entry.startSeq)

/-- mirrors l2_transfer.rs:283-305 -/
def SegmentWriter.writeChunk (entry : SegmentEntry) (c : SegmentChunk) (seg : OpenSegment) :
    Except String Unit × SegmentWriter × Dir :=
  if c.isLast then
    let (res, w) := w.finalize crc32 d entry seg
    (res, w, d)
  else (.ok (), w.setOpen c.startSeq seg, d)

/-- mirrors l2_transfer.rs:221-305 -/
def SegmentWriter.applyChunk (c : SegmentChunk) :
    Except String Unit × SegmentWriter × Dir :=
  match w.manifest.find? (·.startSeq = c.startSeq) with
  | none =>
    (.error ("l2-transfer: chunk for unknown segment start_seq=" ++ toString c.startSeq), w, d)
  | some entry =>
    if (w.finalized c.startSeq).isSome then
      (.error ("l2-transfer: chunk after finalize for start_seq=" ++ toString c.startSeq), w, d)
    else
      let (seg, d) := w.openFor d entry
      if seg.expectedBytes < c.offset + c.data.length then
        (.error ("l2-transfer: chunk overflows segment: offset=" ++ toString c.offset ++ ", len=" ++
          toString c.data.length ++ ", expected=" ++ toString seg.expectedBytes),
          w.setOpen c.startSeq seg, d)
      else w.writeChunk crc32 (writeAt d c.startSeq c.offset c.data) entry c
        { seg with bytesReceived := max seg.bytesReceived (c.offset + c.data.length) }

/-- mirrors l2_transfer.rs:310-320 -/
def SegmentWriter.finish : Except String Unit :=
  match w.manifest.find? fun e => (w.finalized e.startSeq).isNone with
  | some e => .error ("l2-transfer: missing segment start_seq=" ++ toString e.startSeq ++ " at finish")
  | none => .ok ()

/-- mirrors partition_install.rs:60-64 -/
structure L2SegmentInstaller where
  pipeline : String
  partition : PartitionId
  writer : Option SegmentWriter := none
  dir : Dir := []

variable (i : L2SegmentInstaller)

def L2SegmentInstaller.errorFor (what : String) : String :=
  "l2-installer: " ++ what ++ " for pipeline=" ++ i.pipeline ++ " partition=" ++ toString i.partition.toNat

/-- mirrors partition_install.rs:100-118 -/
def L2SegmentInstaller.begin (manifest : SegmentManifest) :
    Except String L2SegmentInstaller :=
  match i.writer with
  | some _ => .error (i.errorFor "begin called twice")
  | none => .ok { i with writer := some { manifest := manifest } }

/-- mirrors partition_install.rs:120-135 -/
def L2SegmentInstaller.applyChunk (c : SegmentChunk) :
    Except String Unit × L2SegmentInstaller :=
  match i.writer with
  | none => (.error (i.errorFor "apply_chunk without begin"), i)
  | some w =>
    let (res, w, d) := w.applyChunk crc32 i.dir c
    (res, { i with writer := some w, dir := d })

/-- mirrors partition_install.rs:137-168 -/
def L2SegmentInstaller.finish (success : Bool) : Except String Unit × L2SegmentInstaller :=
  match i.writer with
  | none => (.error (i.errorFor "finish without begin"), i)
  | some w =>
    if success then (w.finish, { i with writer := none })
    else (.ok (), { i with writer := none, dir := [] })

end Target

section Files

variable {d : Dir} {start start' : Nat}

lemma fileAt_cons (f : Nat × Bytes) :
    fileAt (f :: d) start = if f.1 = start then some f.2 else fileAt d start := by
  by_cases hf : f.1 = start <;> simp [fileAt, hf]

lemma fileAt_of_mem (h : d.Distinct) (hf : f ∈ d) : fileAt d f.1 = some f.2 := by
  induction d with
  | nil => cases hf
  | cons => grind [Dir.Distinct, nodup_cons, fileAt_cons]

lemma mem_of_fileAt (h : fileAt d start = some b) : (start, b) ∈ d := by
  obtain ⟨f, hf, rfl⟩ := map_eq_some_iff.mp h; grind

lemma fileAt_eq_none : fileAt d start = none ↔ start ∉ d.map Prod.fst := by
  rw [fileAt, map_eq_none_iff, find?_eq_none, List.mem_map]; grind

lemma fileAt_editFile (g : Bytes → Bytes) : fileAt (editFile d start g) start' =
      if start' = start then (fileAt d start').map g else fileAt d start' := by
  induction d with
  | nil => simp [editFile, fileAt]
  | cons f d ih => rw [editFile, map_cons, ← editFile, fileAt_cons, fileAt_cons, ih]; grind

lemma fileAt_truncate :
    fileAt (truncate d start) start' = if start' = start then some [] else fileAt d start' := by
  unfold truncate; split_ifs with hm heq heq
  · obtain ⟨b, hb⟩ := ne_none_iff_exists'.mp fun h => fileAt_eq_none.mp h hm
    rw [fileAt_editFile, if_pos heq, heq, hb]; rfl
  · rw [fileAt_editFile, if_neg heq]
  · subst heq; rw [fileAt, find?_append, find?_eq_none.mpr, none_or]
    · simp
    · intro f hf hn
      exact hm (List.mem_map.mpr ⟨f, (takeWhile_subset _ hf), by simpa using hn⟩)
  grind [fileAt, takeWhile_append_dropWhile, fileAt]

variable {offset : Nat}

lemma fileAt_writeAt {data : Bytes} : fileAt (writeAt d start offset data) start' =
      if start' = start then (fileAt d start').map (overwrite · offset data) else fileAt d start' :=
  fileAt_editFile _

lemma length_overwrite {file data : Bytes} (h : data ≠ []) :
    (overwrite file offset data).length = max file.length (offset + data.length) := by
  grind [overwrite, length_append, length_take, length_replicate, length_drop]

lemma getElem?_overwrite {file data : Bytes} {offset i : Nat} :
    (offset ≤ i → i < offset + data.length → (overwrite file offset data)[i]? = data[i - offset]?) ∧
    (i < offset ∨ offset + data.length ≤ i → i < file.length →
      (overwrite file offset data)[i]? = file[i]?) := by
  by_cases hd : data = []
  · rw [overwrite, if_pos hd, hd]; grind
  have hh : ((file ++ List.replicate (offset - file.length) 0).take offset).length = offset := by grind
  rw [overwrite, if_neg hd, append_assoc]; refine ⟨fun h₁ h₂ => ?_, fun ho hlt => ?_⟩
  · rw [getElem?_append_right (by omega), hh, getElem?_append_left (by omega)]
  · rcases ho with hi | hi
    · rw [getElem?_append_left (by omega), getElem?_take_of_lt hi, getElem?_append_left hlt]
    · rw [getElem?_append_right (by omega), hh, getElem?_append_right (by omega), getElem?_drop]
      congr 1; omega

lemma overwrite_take {file : Bytes} (h : offset ≤ file.length) (n : Nat) :
    overwrite (file.take offset) offset ((file.drop offset).take n) = file.take (offset + n) := by
  have hl : (file.take offset).length = offset := length_take_of_le h
  have hr : ∀ m, (file.take offset).drop (offset + m) = [] := fun m => drop_of_length_le (by omega)
  unfold overwrite; grind

end Files

section Applied

variable (crc32 : Bytes → UInt32) (w : SegmentWriter) (d : Dir) (c : SegmentChunk)

def written (entry : SegmentEntry) : Dir := writeAt (w.openFor d entry).2 c.startSeq c.offset c.data

def received (entry : SegmentEntry) : OpenSegment := { (w.openFor d entry).1 with
    bytesReceived := max (w.openFor d entry).1.bytesReceived (c.offset + c.data.length) }

def Complete (entry : SegmentEntry) : Prop :=
  (received w d c entry).bytesReceived = (received w d c entry).expectedBytes ∧
    crc32 ((fileAt (written w d c entry) c.startSeq).getD []) = entry.crc32

inductive Applied : Except String Unit × SegmentWriter × Dir → Prop
  | refused (msg : String) :
      w.manifest.find? (·.startSeq = c.startSeq) = none ∨ w.finalized c.startSeq ≠ none →
      Applied (.error msg, w, d)
  | overflow (entry : SegmentEntry) (msg : String) :
      w.manifest.find? (·.startSeq = c.startSeq) = some entry → w.finalized c.startSeq = none →
      (w.openFor d entry).1.expectedBytes < c.offset + c.data.length →
      Applied (.error msg, w.setOpen c.startSeq (w.openFor d entry).1, (w.openFor d entry).2)
  | kept (entry : SegmentEntry) (res : Except String Unit) :
      w.manifest.find? (·.startSeq = c.startSeq) = some entry → w.finalized c.startSeq = none →
      c.offset + c.data.length ≤ (w.openFor d entry).1.expectedBytes →
      (res = .ok () ∧ c.isLast = false) ∨
        ((∃ msg, res = .error msg) ∧ c.isLast = true ∧ ¬Complete crc32 w d c entry) →
      Applied (res, w.setOpen c.startSeq (received w d c entry), written w d c entry)
  | finalized (entry : SegmentEntry) :
      w.manifest.find? (·.startSeq = c.startSeq) = some entry → w.finalized c.startSeq = none →
      c.offset + c.data.length ≤ (w.openFor d entry).1.expectedBytes → c.isLast = true →
      Complete crc32 w d c entry →
      Applied (.ok (), { w with
        finalized := update w.finalized c.startSeq (some entry.crc32)
        openSegments := update w.openSegments c.startSeq none }, written w d c entry)

variable {w c}

variable {entry : SegmentEntry}

lemma startSeq_of_find (h : w.manifest.find? (·.startSeq = c.startSeq) = some entry) :
    entry.startSeq = c.startSeq := by simpa using find?_some h

variable (w c)

lemma applied : Applied crc32 w d c (w.applyChunk crc32 d c) := by
  unfold SegmentWriter.applyChunk; split
  · rename_i hf
    exact .refused _ (.inl hf)
  · rename_i entry hf
    have hs := startSeq_of_find hf; split_ifs with hfi
    · exact .refused _ (.inr (ne_none_iff_isSome.mpr hfi))
    have hfi : w.finalized c.startSeq = none := by simpa using hfi
    simp only; split_ifs with ho
    · exact .overflow entry _ hf hfi ho
    have hft := Nat.le_of_not_lt ho
    show Applied crc32 w d c (w.writeChunk crc32 (written w d c entry) entry c (received w d c entry))
    unfold SegmentWriter.writeChunk; split_ifs with hl
    · simp only [SegmentWriter.finalize, hs]; split_ifs with hb hc
      · exact .kept entry _ hf hfi hft (.inr ⟨⟨_, rfl⟩, hl, fun h => hb h.1⟩)
      · exact .kept entry _ hf hfi hft (.inr ⟨⟨_, rfl⟩, hl, fun h => hc h.2⟩)
      · have hc := not_not.mp hc; rw [hc]
        exact .finalized entry hf hfi hft hl ⟨not_not.mp hb, hc⟩
    · exact .kept entry _ hf hfi hft (.inl ⟨rfl, by simpa using hl⟩)

lemma fileAt_openFor (start : Nat) : fileAt (w.openFor d entry).2 start =
    if start = entry.startSeq ∧ w.openSegments entry.startSeq = none then some [] else fileAt d start := by
  grind [fileAt_truncate, SegmentWriter.openFor]

lemma fileAt_written {start : Nat} (hs : entry.startSeq = c.startSeq) (h : start ≠ c.startSeq) :
    fileAt (written w d c entry) start = fileAt d start := by
  grind [written, fileAt_writeAt, fileAt_openFor]

variable {crc32 w d c} {r : Except String Unit × SegmentWriter × Dir}

lemma Applied.frame (ha : Applied crc32 w d c r) {start : Nat} (h : start ≠ c.startSeq) :
    r.2.1.finalized start = w.finalized start ∧ r.2.1.openSegments start = w.openSegments start ∧
    fileAt r.2.2 start = fileAt d start := by
  cases ha with
  | refused => exact ⟨rfl, rfl, rfl⟩
  | overflow entry msg hf _ _ => refine ⟨rfl, update_of_ne h _ _, ?_⟩; grind [fileAt_openFor]
  | kept entry res hf _ _ _ =>
    exact ⟨rfl, update_of_ne h _ _, fileAt_written w d c (startSeq_of_find hf) h⟩
  | finalized entry hf _ _ _ _ =>
    exact ⟨update_of_ne h _ _, update_of_ne h _ _, fileAt_written w d c (startSeq_of_find hf) h⟩

lemma Applied.manifest (ha : Applied crc32 w d c r) : r.2.1.manifest = w.manifest := by cases ha <;> rfl

end Applied

section Copying

variable {crc32 : Bytes → UInt32} {d t t' : Dir} {w w' : SegmentWriter} {it it' : ChunkIter}
  {c : SegmentChunk} {r r' : SegmentReader}

structure Reading (d t : Dir) (w : SegmentWriter) (segs : List SegmentEntry) (r : SegmentReader) : Prop where
  notListed : r.startSeq ∉ segs.map SegmentEntry.startSeq
  file : ∀ f ∈ d, f.1 = r.startSeq → r.file = f.2
  offset : r.offset ≤ r.file.length
  started : w.openSegments r.startSeq = none → r.offset = 0 ∨ r.offset = r.file.length
  written : w.openSegments r.startSeq ≠ none → fileAt t r.startSeq = some (r.file.take r.offset)

structure Copying (d t : Dir) (w : SegmentWriter) (it : ChunkIter) : Prop where
  listed : ∀ f ∈ d, ∃ e ∈ w.manifest, e.startSeq = f.1
  finalized : ∀ f ∈ d, w.finalized f.1 ≠ none → fileAt t f.1 = some f.2
  untouched : ∀ e ∈ it.segs, w.openSegments e.startSeq = none
  nodup : (it.segs.map SegmentEntry.startSeq).Nodup
  reading : ∀ r ∈ it.current, Reading d t w it.segs r

lemma Copying.begin (h : d.Distinct) :
    Copying d t { manifest := readManifest crc32 d } ⟨readManifest crc32 d, none⟩ where
  listed f hf := ⟨_, List.mem_map_of_mem hf, rfl⟩
  finalized f hf hfin := absurd rfl hfin
  untouched e he := rfl
  nodup := by rw [readManifest, List.map_map]; exact h
  reading r hr := by cases hr

variable {segs : List SegmentEntry}

lemma Copying.openSegment {cur : Option SegmentReader} (hd : d.Distinct) (h : Copying d t w ⟨e :: segs, cur⟩)
    (hr : SegmentReader.openSegment d e.startSeq n = .ok r) : Copying d t w ⟨segs, some r⟩ := by
  have hn := nodup_cons.mp h.nodup; unfold SegmentReader.openSegment at hr; split at hr
  · cases hr
  · rename_i file hfi
    cases hr
    refine ⟨h.listed, h.finalized, fun e' he' => h.untouched e' (mem_cons_of_mem _ he'), hn.2, ?_⟩
    rintro _ ⟨⟩
    refine ⟨hn.1, fun f hf hs => ?_, Nat.zero_le _, fun _ => .inl rfl, fun ho => ?_⟩
    · have hf' := fileAt_of_mem hd hf; grind
    · exact absurd (h.untouched e mem_cons_self) ho

lemma Copying.next (hd : d.Distinct) (h : Copying d t w it) (hn : it.next d = .ok (some (c, it'))) :
    ∃ r r', r.nextChunk = some (c, r') ∧ it'.current = some r' ∧ Copying d t w ⟨it'.segs, some r⟩ := by
  obtain ⟨segs, cur⟩ := it; unfold ChunkIter.next at hn
  induction segs generalizing cur with
  | nil =>
    simp only [nextChunk] at hn; split at hn
    · rename_i hc
      cases hn; obtain ⟨r, hcu, hr⟩ := bind_eq_some_iff.mp hc; grind
    · cases hn
  | cons e segs ih =>
    simp only [nextChunk] at hn; split at hn
    · rename_i hc
      cases hn; obtain ⟨r, hcu, hr⟩ := bind_eq_some_iff.mp hc; grind
    · cases hr : SegmentReader.openSegment d e.startSeq defaultChunkBytes with
      | error => rw [hr] at hn; cases hn
      | ok r => rw [hr] at hn; exact ih (some r) (h.openSegment hd hr) hn

lemma next_ne_error (h : ∀ e ∈ it.segs, e.startSeq ∈ d.map Prod.fst) (err : String) :
    it.next d ≠ .error err := by
  obtain ⟨segs, cur⟩ := it; unfold ChunkIter.next
  induction segs generalizing cur with
  | nil => simp only [nextChunk]; split <;> simp
  | cons e segs ih =>
    simp only [nextChunk]; split
    · simp
    · obtain ⟨b, hb⟩ := ne_none_iff_exists'.mp fun hn => fileAt_eq_none.mp hn (h e mem_cons_self)
      simp only [SegmentReader.openSegment, hb]
      exact ih _ fun e' he' => h e' (mem_cons_of_mem _ he')

lemma applyChunk_ok (h : w.applyChunk crc32 t c = (.ok (), w', t')) :
    ∃ entry, entry.startSeq = c.startSeq ∧ w'.manifest = w.manifest ∧ w.finalized c.startSeq = none ∧
      t' = writeAt (w.openFor t entry).2 c.startSeq c.offset c.data ∧
      if c.isLast then
        (∃ crc, w'.finalized = update w.finalized c.startSeq (some crc)) ∧
          w'.openSegments = update w.openSegments c.startSeq none
      else ∃ seg, w' = w.setOpen c.startSeq seg := by
  have ha := applied crc32 w t c; rw [h] at ha
  cases ha with
  | kept entry _ hf hfi _ => refine ⟨entry, startSeq_of_find hf, rfl, hfi, rfl, ?_⟩; grind
  | finalized entry hf hfi _ hl _ => refine ⟨entry, startSeq_of_find hf, rfl, hfi, rfl, ?_⟩; grind

lemma Reading.openFor (h : Reading d t w segs r) (hlt : r.offset < r.file.length)
    (he : entry.startSeq = r.startSeq) (start : Nat) :
    fileAt (w.openFor t entry).2 start =
      if start = r.startSeq then some (r.file.take r.offset) else fileAt t start := by
  unfold SegmentWriter.openFor; rw [he]; split
  · rename_i seg hse
    split_ifs with hs
    · rw [hs]; exact h.written (by rw [hse]; exact some_ne_none seg)
    · rfl
  · rename_i hn
    grind [h.started, fileAt_truncate]

lemma nextChunk_eq (h : r.nextChunk = some (c, r')) :
    r.offset < r.file.length ∧ c.startSeq = r.startSeq ∧ c.offset = r.offset ∧
      ∃ n ≤ r.file.length - r.offset, c.data = (r.file.drop r.offset).take n ∧
        (c.isLast = true → r.offset + n = r.file.length) ∧ r' = { r with offset := r.offset + n } := by
  grind [SegmentReader.nextChunk]

lemma Copying.applyChunk (h : Copying d t w ⟨segs, some r⟩) (hr : r.nextChunk = some (c, r'))
    (ha : w.applyChunk crc32 t c = (.ok (), w', t')) :
    Copying d t' w' ⟨segs, some r'⟩ := by
  obtain ⟨hlt, hs, hof, n, hn, hd, hla, rfl⟩ := nextChunk_eq hr
  obtain ⟨entry, hen, hm, hF, rfl, hw'⟩ := applyChunk_ok ha; rw [hs] at hen hF hw'
  rw [hs, hof, hd]; have hre : Reading d t w segs r := h.reading r rfl
  have hfi : ∀ start, fileAt (writeAt (w.openFor t entry).2 r.startSeq r.offset
        ((r.file.drop r.offset).take n)) start =
      if start = r.startSeq then some (r.file.take (r.offset + n)) else fileAt t start := by
    intro start; rw [fileAt_writeAt, hre.openFor hlt hen]; split_ifs
    · rw [map_some, overwrite_take hre.offset]
    · rfl
  have hl : ∀ e ∈ segs, e.startSeq ≠ r.startSeq :=
    fun e he heq => hre.notListed (heq ▸ List.mem_map_of_mem he)
  split_ifs at hw' with hi
  · -- the last chunk: the file is whole
    obtain ⟨⟨crc, hf'⟩, ho⟩ := hw'; have hed := hla hi
    refine ⟨fun f hf => hm ▸ h.listed f hf, fun f hf hfn => ?_, fun e he => ?_, h.nodup, ?_⟩
    · rw [hfi]; split_ifs with hf1
      · grind [hre.file]
      · rw [hf', update_of_ne hf1] at hfn; exact h.finalized f hf hfn
    · rw [ho, update_of_ne (hl e he)]; exact h.untouched e he
    · rintro _ ⟨⟩
      exact ⟨hre.notListed, hre.file, Nat.le_of_eq hed, fun _ => .inr hed, fun hne =>
        absurd (by rw [ho]; exact update_self _ _ _) hne⟩
  · obtain ⟨seg, rfl⟩ := hw'
    refine ⟨h.listed, fun f hf hfn => ?_, fun e he => ?_, h.nodup, ?_⟩
    · have hf1 : f.1 ≠ r.startSeq := fun heq => hfn (heq ▸ hF); rw [hfi, if_neg hf1]
      exact h.finalized f hf hfn
    · exact (update_of_ne (hl e he) _ _).trans (h.untouched e he)
    · rintro _ ⟨⟩
      refine ⟨hre.notListed, hre.file, Nat.add_le_of_le_sub' hre.offset hn, fun hno => ?_, fun _ => ?_⟩
      · exact absurd hno (by simp [SegmentWriter.setOpen])
      · rw [hfi, if_pos rfl]

lemma Copying.installed (h : Copying d t w it) (hfi : w.finish = .ok ()) :
    ∀ f ∈ d, fileAt t f.1 = some f.2 := by
  intro f hf; unfold SegmentWriter.finish at hfi; split at hfi
  · cases hfi
  · rename_i hn
    obtain ⟨e, he, hs⟩ := h.listed f hf; have ha := find?_eq_none.mp hn e he
    exact h.finalized f hf (by rw [← hs]; simpa [ne_none_iff_isSome] using ha)

lemma Copying.mono (h : Copying d t w it) (hs : ∀ f ∈ d', f ∈ d) : Copying d' t w it where
  listed f hf := h.listed f (hs f hf)
  finalized f hf := h.finalized f (hs f hf)
  untouched := h.untouched
  nodup := h.nodup
  reading r hr :=
    let hre := h.reading r hr
    ⟨hre.notListed, fun f hf => hre.file f (hs f hf), hre.offset, hre.started, hre.written⟩

end Copying

end Aeon.L2.Transfer
