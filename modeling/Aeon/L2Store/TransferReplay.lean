import Mathlib.Data.LawfulXor.Basic
import Aeon.L2Store.AtRest
import Aeon.L2Store.CrashRecovery
import Aeon.L2Store.Transfer

/-!
# Replay from a transferred partition

A whole transfer of a partition directory (`crates/aeon-engine/src/l2_transfer.rs`) and the target's
`open`, with the same keys.

* `transfer_replays_iff`: the target replays what the source would iff every file has its header,
  every payload reads the same without its key, and a record is left;
* `transfer_loses_keys`: the sidecars stay behind.
-/
namespace Aeon.L2.TransferReplay

open Function List Option Aeon.Core Aeon.L2.Body Aeon.L2.Transfer Aeon.L2.AtRest

section Transfer

variable (crc32 : Bytes → UInt32)

def drain : Nat → SegmentReader → SegmentWriter → Dir → Except String (SegmentWriter × Dir)
  | 0, _, w, t => .ok (w, t)
  | fuel + 1, r, w, t =>
    match r.nextChunk with
    | none => .ok (w, t)
    | some (c, r') =>
      match w.applyChunk crc32 t c with
      | (.error e, _, _) => .error e
      | (.ok (), w', t') => drain fuel r' w' t'

def copySegments (chunkBytes : Nat) (d : Dir) :
    List SegmentEntry → SegmentWriter → Dir → Except String (SegmentWriter × Dir)
  | [], w, t => .ok (w, t)
  | e :: es, w, t => do
    let r ← SegmentReader.openSegment d e.startSeq chunkBytes
    let (w, t) ← drain crc32 r.file.length r w t
    copySegments chunkBytes d es w t

def transfer (chunkBytes : Nat) (d : Dir) : Except String Dir := do
  let manifest := readManifest crc32 d
  let (w, t) ← copySegments crc32 chunkBytes d manifest { manifest } []
  w.finish
  .ok t

end Transfer

section Copy

variable {crc32 : Bytes → UInt32} {w : SegmentWriter} {done : Dir} {start : Nat} {file : Bytes}

def writerAt (w : SegmentWriter) (start : Nat) (file : Bytes) (o : Nat) : SegmentWriter :=
  if o = 0 then w else w.setOpen start ⟨file.length, o⟩

def dirAt (done : Dir) (start : Nat) (file : Bytes) (o : Nat) : Dir :=
  if o = 0 then done else done ++ [(start, file.take o)]

def finalizedWriter (crc32 : Bytes → UInt32) (w : SegmentWriter) (start : Nat) (file : Bytes) :
    SegmentWriter :=
  { w with finalized := update w.finalized start (some (crc32 file)) }

section

variable (hd : ∀ f ∈ done, f.1 < start)
include hd

lemma editFile_concat (b : Bytes) (g : Bytes → Bytes) :
    editFile (done ++ [(start, b)]) start g = done ++ [(start, g b)] := by
  rw [editFile, map_append]; congr 1
  · refine (map_congr_left fun f hf => ?_).trans (List.map_id _); grind
  · simp

lemma fileAt_concat (b : Bytes) : fileAt (done ++ [(start, b)]) start = some b := by
  rw [fileAt, find?_append, find?_eq_none.mpr]
  · simp
  grind

lemma truncate_new : truncate done start = done ++ [(start, [])] := by
  have hn : start ∉ done.map Prod.fst := by grind
  rw [truncate, if_neg hn, takeWhile_eq_self_iff.mpr (by simpa using hd),
    dropWhile_eq_nil_iff.mpr (by simpa using hd)]

end

structure Expects (crc32 : Bytes → UInt32) (w : SegmentWriter) (start : Nat) (file : Bytes) : Prop where
  listed : w.manifest.find? (·.startSeq = start) = some ⟨start, file.length, crc32 file⟩
  notDone : w.finalized start = none
  notOpen : w.openSegments start = none

lemma Expects.openFor (h : Expects crc32 w start file) (hd : ∀ f ∈ done, f.1 < start) (ho : o ≤ file.length) :
    (writerAt w start file o).openFor (dirAt done start file o) ⟨start, file.length, crc32 file⟩ =
      (⟨file.length, o⟩, done ++ [(start, file.take o)]) := by
  unfold writerAt dirAt SegmentWriter.openFor; by_cases h0 : o = 0
  · subst h0; simp [h.notOpen, truncate_new hd]
  · simp [h0, SegmentWriter.setOpen]

lemma writerAt_setOpen (o n : Nat) :
    (writerAt w start file o).setOpen start ⟨file.length, n⟩ = w.setOpen start ⟨file.length, n⟩ := by
  unfold writerAt; split_ifs
  · rfl
  · simp [SegmentWriter.setOpen]

lemma Expects.applyChunk (h : Expects crc32 w start file) (hd : ∀ f ∈ done, f.1 < start)
    (hle : o + n ≤ file.length) :
    (writerAt w start file o).applyChunk crc32 (dirAt done start file o)
        ⟨start, o, (file.drop o).take n, decide (file.length ≤ o + n)⟩ =
      if o + n = file.length then
        (.ok (), finalizedWriter crc32 w start file, done ++ [(start, file)])
      else (.ok (), w.setOpen start ⟨file.length, o + n⟩, done ++ [(start, file.take (o + n))]) := by
  have hm : (writerAt w start file o).manifest = w.manifest := by unfold writerAt; split_ifs <;> rfl
  have hf : (writerAt w start file o).finalized = w.finalized := by unfold writerAt; split_ifs <;> rfl
  have hl : ((file.drop o).take n).length = n := by grind
  have hw : writeAt (done ++ [(start, file.take o)]) start o ((file.drop o).take n) =
      done ++ [(start, file.take (o + n))] := by rw [writeAt, editFile_concat hd, overwrite_take (by omega)]
  simp only [SegmentWriter.applyChunk, hm, h.listed, hf, h.notDone, isSome_none,
    Bool.false_eq_true, if_false, h.openFor hd (show o ≤ file.length by omega), hl,
    if_neg (Nat.not_lt.mpr hle), hw, Nat.max_eq_right (Nat.le_add_right o n)]
  unfold SegmentWriter.writeChunk; by_cases he : o + n = file.length
  · have ht : file.take (o + n) = file := by rw [he, take_length]
    rw [if_pos (by simp [he]), if_pos he, ht]
    simp only [SegmentWriter.finalize, he, fileAt_concat hd, ne_eq, not_true_eq_false, if_false, getD_some,
      hf]
    unfold finalizedWriter writerAt; split_ifs <;> simp [SegmentWriter.setOpen, h.notOpen]
  grind [writerAt_setOpen]

lemma Expects.drain (h : Expects crc32 w start file) (hd : ∀ f ∈ done, f.1 < start) {chunkBytes : Nat}
    (hc : 0 < chunkBytes) (fuel o : Nat) (hf : file.length - o ≤ fuel) (ho : o < file.length) :
    drain crc32 fuel ⟨start, file, o, chunkBytes⟩ (writerAt w start file o) (dirAt done start file o) =
      .ok (finalizedWriter crc32 w start file, done ++ [(start, file)]) := by
  induction fuel generalizing o with
  | zero => omega
  | succ fuel =>
    have hn : 0 < min chunkBytes (file.length - o) := by omega
    have hle : o + min chunkBytes (file.length - o) ≤ file.length := by omega
    simp only [TransferReplay.drain, SegmentReader.nextChunk, if_neg (Nat.not_le.mpr ho)]
    rw [h.applyChunk hd hle]
    by_cases he : o + min chunkBytes (file.length - o) = file.length
    · rw [if_pos he]; simp only [he]
      cases fuel with
      | zero => rfl
      | succ => simp [TransferReplay.drain, SegmentReader.nextChunk]
    grind [writerAt, dirAt]

structure Copied (crc32 : Bytes → UInt32) (d pre : Dir) (w : SegmentWriter) (t : Dir) : Prop where
  manifest : w.manifest = readManifest crc32 d
  notOpen : ∀ n, w.openSegments n = none
  finalized : ∀ f ∈ d, w.finalized f.1 = none ↔ ¬ (f ∈ pre ∧ f.2 ≠ [])
  files : t = pre.filter (·.2 ≠ [])

variable {d pre t : Dir}

lemma Copied.expects (ha : d.Pairwise (·.1 < ·.1)) (h : Copied crc32 d pre w t) (hf : f ∈ d) (hp : f ∉ pre) :
    Expects crc32 w f.1 f.2 where
  listed := by
    have hfi := find?_of_ascending ha hf (p := ((fun e : SegmentEntry => decide (e.startSeq = f.1)) ∘
      fun g : Nat × Bytes => ⟨g.1, g.2.length, crc32 g.2⟩)) fun _ => rfl
    rw [h.manifest, readManifest, find?_map, hfi]; rfl
  notDone := (h.finalized f hf).mpr fun hm => hp hm.1
  notOpen := h.notOpen f.1

lemma Copied.skip (h : Copied crc32 d pre w t) (he : f.2 = []) : Copied crc32 d (pre ++ [f]) w t where
  manifest := h.manifest
  notOpen := h.notOpen
  finalized g hg := by
    rw [h.finalized g hg, mem_append, mem_singleton]; constructor
    · rintro hg' ⟨hm | rfl, hne⟩
      · exact hg' ⟨hm, hne⟩
      · exact hne he
    · exact fun hg' hm => hg' ⟨.inl hm.1, hm.2⟩
  files := by rw [h.files]; simp [he]

lemma Copied.add (ha : d.Pairwise (·.1 < ·.1)) (h : Copied crc32 d pre w t) (hf : f ∈ d) (hne : f.2 ≠ []) :
    Copied crc32 d (pre ++ [f]) (finalizedWriter crc32 w f.1 f.2) (t ++ [(f.1, f.2)]) where
  manifest := h.manifest
  notOpen := h.notOpen
  finalized g hg := by
    simp only [finalizedWriter, mem_append, mem_singleton]
    by_cases hgf : g.1 = f.1
    · have hs : g = f := by
        have h₁ := find?_of_ascending ha hg (p := fun x => decide (x.1 = g.1)) fun _ => rfl
        have h₂ := find?_of_ascending ha hf (p := fun x => decide (x.1 = g.1)) fun _ => by rw [hgf]
        exact Option.some.inj (h₁.symm.trans h₂)
      subst hs; simp [hne]
    · have ho : g ≠ f := fun heq => hgf (by rw [heq])
      rw [update_of_ne hgf, h.finalized g hg]; simp [ho]
  files := by rw [h.files]; simp [hne]

lemma Copied.copySegments {d pre post t : Dir} (hd : d = pre ++ post) (ha : d.Pairwise (·.1 < ·.1))
    (chunkBytes : Nat) (h : Copied crc32 d pre w t) :
    ∃ w' t', copySegments crc32 chunkBytes d (readManifest crc32 post) w t = .ok (w', t') ∧
      Copied crc32 d d w' t' := by
  induction post generalizing pre w t with
  | nil => rw [append_nil] at hd; subst hd; exact ⟨w, t, rfl, h⟩
  | cons f post ih =>
    have hf : f ∈ d := by simp [hd]
    have hs := ha; rw [hd, pairwise_append] at hs
    have hb : ∀ g ∈ pre, g.1 < f.1 := fun g hg => hs.2.2 g hg f mem_cons_self
    have hp : f ∉ pre := fun hm => Nat.lt_irrefl _ (hb f hm)
    have ho : SegmentReader.openSegment d f.1 chunkBytes = .ok ⟨f.1, f.2, 0, max chunkBytes 1⟩ := by
      have hfi : fileAt d f.1 = some f.2 := by rw [fileAt, find?_of_ascending ha hf fun _ => rfl]; rfl
      simp only [SegmentReader.openSegment, hfi]
    have hd' : d = (pre ++ [f]) ++ post := by simp [hd]
    rw [readManifest, map_cons, ← readManifest, TransferReplay.copySegments, ho]
    simp only [bind, Except.bind]; by_cases he : f.2 = []
    · simp only [he, length_nil, TransferReplay.drain]; exact ih hd' (h.skip he)
    · have hdo : ∀ g ∈ t, g.1 < f.1 := by grind [h.files]
      have hdr := (h.expects ha hf hp).drain hdo (show 0 < max chunkBytes 1 by omega)
        f.2.length 0 (by omega) (length_pos_iff.mpr he)
      rw [writerAt, dirAt, if_pos rfl, if_pos rfl] at hdr; simp only [hdr]
      exact ih hd' (h.add ha hf he)

lemma transfer_ok_iff (has : d.Pairwise (·.1 < ·.1)) (chunkBytes : Nat) :
    transfer crc32 chunkBytes d = .ok t ↔ (∀ f ∈ d, f.2 ≠ []) ∧ t = d := by
  have hs : Copied crc32 d [] { manifest := readManifest crc32 d } [] :=
    ⟨rfl, fun _ => rfl, fun f _ => by simp, rfl⟩
  obtain ⟨w, t', hr, hc⟩ := hs.copySegments (nil_append d).symm has chunkBytes
  simp only [transfer, hr, bind, Except.bind]; by_cases ha : ∀ f ∈ d, f.2 ≠ []
  · have hfi : w.finish = .ok () := by
      have hn : w.manifest.find? (fun e => (w.finalized e.startSeq).isNone) = none := by
        rw [find?_eq_none, hc.manifest]; intro e he
        obtain ⟨f, hf, rfl⟩ := List.mem_map.mp he
        have := (hc.finalized f hf).not.mpr (not_not.mpr ⟨hf, ha f hf⟩); simp_all
      simp only [SegmentWriter.finish, hn]
    have ht : t' = d := by grind [hc.files, filter_eq_self]
    grind
  · push Not at ha
    obtain ⟨f, hf, hem⟩ := ha
    have hfi : ∃ msg, w.finish = .error msg := by
      have hso : (w.manifest.find? (fun e => (w.finalized e.startSeq).isNone)).isSome := by
        rw [find?_isSome]; refine ⟨⟨f.1, f.2.length, crc32 f.2⟩, ?_, ?_⟩
        · rw [hc.manifest]; exact List.mem_map.mpr ⟨f, hf, rfl⟩
        · rw [isNone_iff_eq_none]; exact (hc.finalized f hf).mpr fun hm => hm.2 hem
      obtain ⟨e, he⟩ := isSome_iff_exists.mp hso; simp [SegmentWriter.finish, he]
    grind

end Copy

section Target

variable {Event Kek Dek : Type} {C : Codec Event} {A : Cipher Kek Dek} {kek : Option Kek}
  {fs : List (SegFile Event)} {d : Dir}

def noSidecar : Nat → Option Bytes := fun _ => none

lemma openSegment_noSidecar (start : Nat) (file : Bytes) : AtRest.openSegment C A kek
    (noSidecar start) start file =
      (Segment.openFile C start file).map fun seg => (seg, none) := by
  have hp : loadCipher A kek (noSidecar start) = .ok none := by cases kek <;> rfl
  rw [AtRest.openSegment, hp]; rfl

lemma openFiles_ok (h : AtRest.openFiles C A kek noSidecar d = .ok r) (hf : f ∈ d) :
    ∃ seg, Segment.openFile C f.1 f.2 = .ok seg := by
  induction d generalizing r with
  | nil => cases hf
  | cons g =>
    obtain ⟨start, file⟩ := g
    simp only [AtRest.openFiles, openSegment_noSidecar, bind, Except.bind] at h
    cases ho : Segment.openFile C start file with
    | error => simp only [ho, Except.map, reduceCtorEq] at h
    | ok => grind

lemma runs_of_empty (h : Runs m fs n) (he : ∀ f ∈ fs, f.recs = []) : m = n := by
  induction fs generalizing m with
  | nil => exact h
  | cons f fs ih =>
    have hs : f.next = n := ih h.2 fun g hg => he g (mem_cons_of_mem _ hg)
    have hf := he f mem_cons_self; have hst := h.1
    simp only [SegFile.next, hf, length_nil] at hs; omega

def derivedNext (fs : List (SegFile Event)) (n : Nat) : Nat :=
  if fs.all (·.recs.isEmpty) then 0 else n

lemma derivedNext_cons (hru : Runs f.next fs n) :
    derivedNext (f :: fs) n = max (if f.recs = [] then 0 else f.next) (derivedNext fs n) := by
  have hle := hru.le; unfold derivedNext; by_cases hr : f.recs = []
  · simp [hr]
  · simp only [all_cons, isEmpty_eq_false_iff.mpr hr, Bool.false_and, Bool.false_eq_true, if_false,
      if_neg hr]
    split_ifs with he
    · grind [runs_of_empty]
    omega

variable {sidecar : Nat → Option Bytes}

lemma openFiles_cons {key : Option Dek} {segs : List (Segment × Option Dek)} (hru : Runs f.next fs n)
    (ho : AtRest.openSegment C A kek (sidecar f.start) f.start (f.bytes C) = .ok (f.segment C, key))
    (hre : AtRest.openFiles C A kek sidecar d = .ok (segs, derivedNext fs n)) :
    AtRest.openFiles C A kek sidecar ((f.start, f.bytes C) :: d) =
      .ok ((f.segment C, key) :: segs, derivedNext (f :: fs) n) := by
  rw [AtRest.openFiles, ho, derivedNext_cons hru]; simp only [bind, Except.bind, hre]
  by_cases hr : f.recs = []
  · simp [SegFile.segment, hr]
  · have hp : 0 < f.next := by
      have := length_pos_iff.mpr hr; unfold SegFile.next
      omega
    simp [SegFile.segment, hr, Nat.sub_add_cancel hp]

lemma openFiles_loaded (key : SegFile Event → Option Dek)
    (hl : ∀ f ∈ fs, loadCipher A kek (sidecar f.start) = .ok (key f)) (hf : ∀ f ∈ fs, f.Fits)
    {evs : SegFile Event → List Event}
    (hd : ∀ f ∈ fs, (f.recs.map Prod.snd).mapM (under C A (key f) []).decode = some (evs f))
    (hr : Runs m fs n) :
    AtRest.openFiles C A kek sidecar (fs.map fun f => (f.start, f.bytes C)) =
      .ok (fs.map fun f => (f.segment C, key f), derivedNext fs n) := by
  induction fs generalizing m with
  | nil => rfl
  | cons f fs ih =>
    have ho :=
      openFile_decoded (C := C) (D := under C A (key f) []) rfl (hf f mem_cons_self) (hd f mem_cons_self)
    have hre := ih (fun g hg => hl g (mem_cons_of_mem _ hg))
      (fun g hg => hf g (mem_cons_of_mem _ hg)) (fun g hg => hd g (mem_cons_of_mem _ hg)) hr.2
    refine openFiles_cons hr.2 ?_ hre; rw [AtRest.openSegment, hl f mem_cons_self]
    simp only [bind, Except.bind, ho]

lemma openDir_decoded (kek : Option Kek) (segmentBytes : Nat) (hfi : ∀ f ∈ fs, f.Fits)
    (evs : SegFile Event → List Event) (hd : ∀ f ∈ fs, (f.recs.map Prod.snd).mapM C.decode = some (evs f))
    (hr : Runs m fs n) (hdi : d = fs.map fun f => (f.start, f.bytes C))
    (hfn : ∀ f ∈ fs, d.find? (·.1 = f.start) = some (f.start, f.bytes C)) :
    ∃ s', AtRest.Store.openDir C A segmentBytes kek noSidecar d = .ok s' ∧
    s'.body.nextSeq = derivedNext fs n ∧
      ∀ fromSeq, s'.iterFrom C A fromSeq = .ok (fs.flatMap fun f => recordsFrom fromSeq f.start (evs f)) := by
  have hl : ∀ f ∈ fs, loadCipher A kek (noSidecar f.start) = .ok none := by intro f hf; cases kek <;> rfl
  have ho := openFiles_loaded (fun _ => none) hl hfi hd hr
  rw [AtRest.Store.openDir, hdi, ho, ← hdi]; refine ⟨_, rfl, rfl, fun fromSeq => ?_⟩
  refine iterFrom_files ?_ hfn hfi (fun _ => none) evs (fun f hf _ => hl f hf) hd fromSeq
  simp

end Target

section Replay

variable {Event Kek Dek : Type} {C : Codec Event} {A : Cipher Kek Dek} {s : AtRest.Store Kek Dek}
  {fs : List (SegFile Event)} {torn : Option Nat} {chunkBytes : Nat}

def Replays (C : Codec Event) (A : Cipher Kek Dek) (chunkBytes : Nat) (s : AtRest.Store Kek Dek) :
    Prop :=
  ∃ t s', transfer C.crc32 chunkBytes s.body.dir = .ok t ∧
    AtRest.Store.openDir C A s.body.segmentBytes s.kek noSidecar t = .ok s' ∧
    (∀ fromSeq, s'.iterFrom C A fromSeq = s.iterFrom C A fromSeq) ∧
    s'.body.nextSeq = s.body.nextSeq

structure Transferable (C : Codec Event) (A : Cipher Kek Dek) (s : AtRest.Store Kek Dek) : Prop where
  headers : ∀ f ∈ s.body.dir, headerSize ≤ f.2.length
  unsealed : ∀ f ∈ s.body.dir, ∀ dek, s.encryptor f.1 = some dek →
    ∀ r ∈ rawRecords C.crc32 f.2, C.decode r.2 = (A.openPayload dek r.2).bind C.decode
  counted : s.body.nextSeq = 0 ∨ ∃ f ∈ s.body.dir, rawRecords C.crc32 f.2 ≠ []

def decoded (C : Codec Event) (f : SegFile Event) : List Event :=
  ((f.recs.map Prod.snd).mapM C.decode).getD []

lemma number_injective (h : number n es = number n es') : es = es' := by
  induction es generalizing n es' with
  | nil =>
    cases es' with
    | nil => rfl
    | cons => cases h
  | cons e es ih =>
    cases es' with
    | nil => cases h
    | cons => simp only [number, List.cons.injEq, Prod.mk.injEq, true_and] at h; rw [h.1, ih h.2]

lemma decoded_eq_of_flatMap {evs evs' : SegFile Event → List Event}
    (hl : ∀ f ∈ fs, (evs f).length = (evs' f).length)
    (h : (fs.flatMap fun f => recordsFrom 0 f.start (evs f)) = fs.flatMap fun f => recordsFrom 0 f.start
      (evs' f)) :
    ∀ f ∈ fs, evs f = evs' f := by
  have ha : ∀ (n : Nat) (es : List Event), recordsFrom 0 n es = number n es := by
    intro n es; simp [recordsFrom]
  simp only [ha, flatMap_def] at h
  have hp := eq_iff_flatten_eq.mpr ⟨h, by
    simp only [List.map_map]; refine map_congr_left fun f hf => ?_; simp [hl f hf]⟩
  intro f hf; exact number_injective (map_inj_left.mp hp f hf)

lemma decode_of_transferable (h : Inv C A s fs torn) (ht : Transferable C A s) :
    ∀ f ∈ fs, ∀ r ∈ f.recs, C.decode r.2 = some r.1 := by
  intro f hf r hr; have hre := (h.reads f hf r hr).2
  have hm : (f.start, f.bytes C) ∈ s.body.dir := by grind [h.shape.dir]
  cases hk : s.encryptor f.start with
  | none => rw [hk] at hre; exact hre
  | some dek =>
    rw [hk] at hre; have hra := rawRecords_bytes (C := C) (h.fits hf)
    obtain ⟨n, hn⟩ : ∃ n, (n, r.2) ∈ number f.start (f.recs.map Prod.snd) := by
      obtain ⟨pre, post, hs⟩ := append_of_mem (List.mem_map_of_mem (f := Prod.snd) hr)
      exact ⟨_, by rw [hs, number_append]; exact mem_append_right _ mem_cons_self⟩
    have hp := ht.unsealed _ hm dek hk (n, r.2) (by rw [hra]; exact hn); exact hp.trans hre

lemma counted_iff (h : Shape C b fs none) (hfi : ∀ f ∈ fs, f.Fits) :
    (∃ f ∈ b.dir, rawRecords C.crc32 f.2 ≠ []) ↔ ∃ f ∈ fs, f.recs ≠ [] := by
  have hd : b.dir = fs.map fun f => (f.start, f.bytes C) := by simpa using h.dir
  have hr : ∀ f ∈ fs, rawRecords C.crc32 (f.bytes C) = [] ↔ f.recs = [] := by
    grind [rawRecords_bytes, length_number]
  rw [hd]; constructor
  · grind
  · rintro ⟨f, hf, hne⟩; exact ⟨_, List.mem_map_of_mem hf, (hr f hf).not.mpr hne⟩

lemma derivedNext_eq_iff (n : Nat) : derivedNext fs n = n ↔ n = 0 ∨ ∃ f ∈ fs, f.recs ≠ [] := by
  grind [derivedNext]

lemma torn_none (h : Inv C A s fs torn) (hh : ∀ f ∈ s.body.dir, headerSize ≤ f.2.length) : torn = none := by
  cases ht : torn with
  | none => rfl
  | some n =>
    have hlt := (h.shape.stuck n ht).1
    have hl := hh (s.body.nextSeq, header.take n) (by simp [h.shape.dir, ht]); grind

lemma replays_of_transferable (h : Inv C A s fs torn) (ht : Transferable C A s) :
    Replays C A chunkBytes s := by
  obtain rfl := torn_none h ht.headers
  have hd : s.body.dir = fs.map fun f => (f.start, f.bytes C) := by simpa using h.shape.dir
  have hne : ∀ f ∈ s.body.dir, f.2 ≠ [] := by
    intro f hf he; have := ht.headers f hf; rw [he, headerSize, length_nil] at this
    omega
  have hde : ∀ f ∈ fs, (f.recs.map Prod.snd).mapM C.decode = some (f.recs.map Prod.fst) :=
    fun f hf => mapM_of_forall (decode_of_transferable h ht f hf)
  have hfi : ∀ f ∈ fs, f.Fits := fun f hf => h.fits hf; obtain ⟨m, hr⟩ := h.shape.runs
  obtain ⟨s', ho, hn, hi⟩ := openDir_decoded (A := A) s.kek s.body.segmentBytes hfi _ hde
    hr hd fun f hf => h.shape.find hf
  refine ⟨s.body.dir, s', (transfer_ok_iff h.shape.ascending chunkBytes).mpr ⟨hne, rfl⟩, ho,
    fun fromSeq => (hi fromSeq).trans (h.iterFrom fromSeq).symm, ?_⟩
  rw [hn]
  exact (derivedNext_eq_iff _).mpr (ht.counted.imp_right (counted_iff h.shape hfi).mp)

lemma transferable_of_replays (h : Inv C A s fs torn) (hr : Replays C A chunkBytes s) :
    Transferable C A s := by
  obtain ⟨t, s', htr, ho, hi, hn⟩ := hr
  obtain ⟨-, rfl⟩ := (transfer_ok_iff h.shape.ascending chunkBytes).mp htr
  have hfl : ∀ f ∈ s.body.dir, ∃ seg, Segment.openFile C f.1 f.2 = .ok seg := by
    intro f hf
    cases ha : AtRest.openFiles C A s.kek noSidecar s.body.dir with
    | error => rw [AtRest.Store.openDir, ha] at ho; cases ho
    | ok => exact openFiles_ok ha hf
  have hh : ∀ f ∈ s.body.dir, headerSize ≤ f.2.length := by
    intro f hf; obtain ⟨seg, hs⟩ := hfl f hf; by_contra hlt
    rw [Segment.openFile, if_pos (by omega)] at hs; cases hs
  obtain rfl := torn_none h hh
  have hd : s.body.dir = fs.map fun f => (f.start, f.bytes C) := by simpa using h.shape.dir
  have hfi : ∀ f ∈ fs, f.Fits := fun f hf => h.fits hf
  have hde : ∀ f ∈ fs, (f.recs.map Prod.snd).mapM C.decode = some (decoded C f) := by
    intro f hf
    cases hm : (f.recs.map Prod.snd).mapM C.decode with
    | some => rw [decoded, hm, getD_some]
    | none =>
      obtain ⟨msg, hms⟩ := openFile_undecoded (C := C) rfl (hfi f hf) hm
      obtain ⟨seg, hs⟩ := hfl _ (hd ▸ List.mem_map_of_mem hf); grind
  obtain ⟨m, hru⟩ := h.shape.runs
  obtain ⟨s'', ho', hn', hi'⟩ := openDir_decoded (A := A) s.kek s.body.segmentBytes hfi _
    hde hru hd fun f hf => h.shape.find hf
  obtain rfl : s'' = s' := Except.ok.inj (ho'.symm.trans ho)
  have hsa : ∀ f ∈ fs, decoded C f = f.recs.map Prod.fst := by
    have h0 := (hi' 0).symm.trans ((hi 0).trans (h.iterFrom 0))
    refine decoded_eq_of_flatMap (fun f hf => ?_) (Except.ok.inj h0); grind [length_of_mapM]
  refine ⟨hh, ?_, ?_⟩
  · intro x hx dek hdk r hr; rw [hd] at hx; obtain ⟨f, hf, rfl⟩ := List.mem_map.mp hx
    rw [rawRecords_bytes (hfi f hf)] at hr
    obtain ⟨q, hq, hqr⟩ := List.mem_map.mp (mem_number hr).2.2
    have hk := (h.reads f hf q hq).2; rw [hdk] at hk
    have hp : C.decode q.2 = some q.1 := forall_of_mapM (hsa f hf ▸ hde f hf) q hq
    rw [← hqr, hp]; exact hk.symm
  · exact ((derivedNext_eq_iff _).mp (hn'.symm.trans hn)).imp_right (counted_iff h.shape hfi).mpr

theorem transfer_replays_iff (hrt : ∀ e b, C.encode e = some b → C.decode b = some e)
    (h : (machine C A).Reachable s) (chunkBytes : Nat) :
    Replays C A chunkBytes s ↔ Transferable C A s := by
  obtain ⟨fs, torn, hi⟩ := Inv.reachable hrt h
  exact ⟨transferable_of_replays hi, replays_of_transferable hi⟩

end Replay

def xorCipher : Cipher UInt8 UInt8 where
  wrap k d nonce := (k ^^^ d) :: nonce
  unwrap k b := b.head?.map (k ^^^ ·)
  sealPayload d _ p := some (p.map (d ^^^ ·))
  openPayload d b := some (b.map (d ^^^ ·))
  unwrap_wrap k d n := congrArg some (xor_cancel_left k d)
  open_seal d n p b h := by
    obtain rfl := Option.some.inj h
    rw [List.map_map, show (d ^^^ ·) ∘ (d ^^^ ·) = id from funext (xor_cancel_left d), List.map_id]

def emptyStore (kek : Option UInt8) : AtRest.Store UInt8 UInt8 := { body := ⟨0, [], [], 0⟩, kek }

def oneAppend : List (AtRest.Lbl Bytes UInt8) := [.append ⟨1, [], []⟩ [7]]

def oneFile (payload : Bytes) : Dir := [(0, header ++ frame binCodec 0 payload)]

theorem transfer_loses_keys : ∃ s, (machine binCodec xorCipher).Reachable s ∧
      (∀ f ∈ s.body.dir, headerSize ≤ f.2.length) ∧
      ∀ chunkBytes, ¬ Replays binCodec xorCipher chunkBytes s := by
  have h : (LTS.exec (AtRest.step binCodec xorCipher) (emptyStore (some 9)) oneAppend).map
      (fun s => (s.body.dir, s.kek, s.body.segmentBytes)) = some (oneFile [0xC5, 0, 6], some 9, 0) := by
    decide +kernel
  obtain ⟨s, hs, hv⟩ := map_eq_some_iff.mp h
  obtain ⟨hd, hk, hb⟩ : s.body.dir = oneFile [0xC5, 0, 6] ∧ s.kek = some 9 ∧
      s.body.segmentBytes = 0 := by simpa using hv
  have hf : (AtRest.Store.openDir binCodec xorCipher 0 (some 9) noSidecar
      (oneFile [0xC5, 0, 6])).isOk = false := by decide +kernel
  refine ⟨s, ⟨_, oneAppend, ⟨0, some 9, rfl⟩, LTS.run_of_exec hs⟩, ?_, ?_⟩
  · rw [hd]; decide +kernel
  · rintro chunkBytes ⟨t, s', htr, ho, -, -⟩
    have ha : s.body.dir.Pairwise (·.1 < ·.1) := by rw [hd]; exact pairwise_singleton _ _
    obtain ⟨-, rfl⟩ := (transfer_ok_iff ha chunkBytes).mp htr; rw [hd, hk, hb] at ho
    rw [ho] at hf; cases hf

def threeAppends : List (AtRest.Lbl Bytes UInt8) := [[7], [8], [9]].map (.append ⟨1, [], []⟩)

def twoFiles : Dir := [(0, header ++ frame binCodec 0 [0xC4, 1, 7] ++ frame binCodec 1 [0xC4, 1, 8]),
  (2, header ++ frame binCodec 2 [0xC4, 1, 9])]

theorem transfer_replays_plaintext :
    ∃ s, (machine binCodec xorCipher).Reachable s ∧ s.body.dir = twoFiles ∧
    Replays binCodec xorCipher 5 s := by
  have h : (LTS.exec (AtRest.step binCodec xorCipher)
    { body := ⟨40, [], [], 0⟩, kek := none } threeAppends).map
      (fun s => (s.body.dir, s.encryptor 0, s.encryptor 2)) = some (twoFiles, none, none) := by decide +kernel
  obtain ⟨s, hs, hv⟩ := map_eq_some_iff.mp h
  obtain ⟨hd, h₀, h₂⟩ : s.body.dir = twoFiles ∧ s.encryptor 0 = none ∧ s.encryptor 2 = none := by
    simpa using hv
  have hr : (machine binCodec xorCipher).Reachable s := ⟨_, threeAppends, ⟨40, none, rfl⟩, LTS.run_of_exec hs⟩
  refine ⟨s, hr, hd, (transfer_replays_iff binCodec_round_trip hr 5).mpr ⟨?_, ?_, .inr ?_⟩⟩
  · rw [hd]; decide +kernel
  · intro f hf dek hde; rw [hd, twoFiles, mem_pair] at hf; rcases hf with rfl | rfl
    · rw [h₀] at hde; cases hde
    · rw [h₂] at hde; cases hde
  · rw [hd]; exact ⟨_, mem_cons_of_mem _ mem_cons_self, by decide +kernel⟩

end Aeon.L2.TransferReplay
