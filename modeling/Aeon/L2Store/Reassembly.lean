import Aeon.Core.LTS
import Aeon.L2Store.Transfer

/-!
# Putting a segment together again

`crates/aeon-engine/src/l2_transfer.rs`: a writer under any sequence of chunks. `Receiving` is the
bytes each chunk has put in place.

* `reassembled`: any order of a reader's pieces gives the source's file, and a segment is finalized
  only with the size and CRC of its entry;
* `reassembly_fails`: an empty file, a doubled entry, an empty chunk.
-/
namespace Aeon.L2.Reassembly

open List Function Aeon.Core Aeon.L2.Body Aeon.L2.Transfer

/-- mirrors l2_transfer.rs:148-169 -/
def readAll (r : SegmentReader) : Nat → List SegmentChunk
  | 0 => []
  | n + 1 =>
    match r.nextChunk with
    | some (c, r') => c :: readAll r' n
    | none => []

def chunks (start : Nat) (file : Bytes) (chunkBytes : Nat) : List SegmentChunk :=
  readAll ⟨start, file, 0, max chunkBytes 1⟩ file.length

def Delivery (cs sent : List SegmentChunk) : Prop :=
  ∃ pre, sent = pre ++ cs.filter (·.isLast) ∧ (∀ c ∈ pre, c ∈ cs ∧ c.isLast = false) ∧
    ∀ c ∈ cs, c.isLast = false → c ∈ pre

section Machine

variable (crc32 : Bytes → UInt32)

abbrev St := SegmentWriter × Dir

def step (s : St) (c : SegmentChunk) : Option St := some (s.1.applyChunk crc32 s.2 c).2

variable (m : SegmentManifest)

/-- mirrors l2_transfer.rs:203-217 -/
def Initial (s : St) : Prop := s.1 = { manifest := m }

lemma initial_writer (t : Dir) : Initial m ({ manifest := m }, t) := rfl

def machine : LTS St SegmentChunk := .ofFn (Initial m) (step crc32)

def Installed (d : Dir) : Prop :=
  ∀ e ∈ m, ∃ file, fileAt d e.startSeq = some file ∧ file.length = e.sizeBytes ∧ crc32 file = e.crc32

def Consistent : Prop := ∀ e ∈ m, ∀ e' ∈ m, e.startSeq = e'.startSeq → e = e'
  deriving Decidable

def bytesReceived (w : SegmentWriter) (start : Nat) : Nat :=
  ((w.openSegments start).map (·.bytesReceived)).getD 0

def Allowed (s : St) (c : SegmentChunk) : Prop := c.data = [] → c.offset ≤ bytesReceived s.1 c.startSeq

instance decidableAllowed (s : St) (c : SegmentChunk) : Decidable (Allowed s c) :=
  inferInstanceAs (Decidable (c.data = [] → c.offset ≤ bytesReceived s.1 c.startSeq))

end Machine

structure Piece (start : Nat) (file : Bytes) (c : SegmentChunk) : Prop where
  startSeq : c.startSeq = start
  nonempty : c.data ≠ []
  inside : c.offset + c.data.length ≤ file.length
  bytes : ∀ i, c.offset ≤ i → i < c.offset + c.data.length → c.data[i - c.offset]? = file[i]?
  last : c.isLast = true ↔ c.offset + c.data.length = file.length

section Reader

variable {r r' : SegmentReader} {c : SegmentChunk}

lemma piece_nextChunk (hp : 0 < r.chunkBytes) (h : r.nextChunk = some (c, r')) :
    Piece r.startSeq r.file c ∧ c.offset = r.offset ∧ r' = { r with offset := c.offset + c.data.length } := by
  unfold SegmentReader.nextChunk at h; split_ifs at h with he
  obtain ⟨rfl, rfl⟩ := Prod.mk.inj (Option.some.inj h)
  have hl : ((r.file.drop r.offset).take (min r.chunkBytes (r.file.length - r.offset))).length =
      min r.chunkBytes (r.file.length - r.offset) := by
    rw [length_take, length_drop]; omega
  refine ⟨⟨rfl, ?_, ?_, fun i h₁ h₂ => ?_, ?_⟩, rfl, ?_⟩
  · grind
  · simp only [hl]; omega
  · grind
  · grind
  · simp

lemma nextChunk_none (h : r.nextChunk = none) : r.file.length ≤ r.offset := by
  simp_all [SegmentReader.nextChunk]

lemma readAll_spec (hpo : 0 < r.chunkBytes) (hn : r.file.length ≤ r.offset + n) :
    (∀ c ∈ readAll r n, Piece r.startSeq r.file c) ∧
    (∀ i, r.offset ≤ i → i < r.file.length → ∃ c ∈ readAll r n, c.offset ≤ i ∧ i < c.offset + c.data.length) ∧
    (r.offset < r.file.length → ∃ c, (readAll r n).filter (·.isLast) = [c]) := by
  induction n generalizing r with
  | zero =>
    refine ⟨fun c hc => ?_, fun i h₁ h₂ => absurd h₂ (by omega), fun h => absurd h (by omega)⟩
    cases hc
  | succ n ih =>
    unfold readAll
    cases hne : r.nextChunk with
    | none => have he := nextChunk_none hne; grind
    | some p =>
      obtain ⟨c, r'⟩ := p; obtain ⟨hp, ho, rfl⟩ := piece_nextChunk hpo hne
      have hle : 0 < c.data.length := length_pos_iff.mpr hp.nonempty
      obtain ⟨ha, hco, hl⟩ := ih (r := { r with offset := c.offset + c.data.length }) hpo
        (show r.file.length ≤ c.offset + c.data.length + n by omega)
      refine ⟨fun c' hc' => ?_, fun i h₁ h₂ => ?_, fun _ => ?_⟩
      · grind
      · grind
      · by_cases he : c.offset + c.data.length = r.file.length
        · have hr : readAll { r with offset := c.offset + c.data.length } n = [] := by
            cases n with
            | zero => rfl
            | succ =>
              have hno : SegmentReader.nextChunk { r with offset := c.offset + c.data.length } = none :=
                if_pos (Nat.le_of_eq he.symm)
              rw [readAll, hno]
          simp [hr, filter_cons_of_pos (hp.last.mpr he), filter_nil]
        grind [hp.inside, hp.last]

end Reader

section Receiving

variable {crc32 : Bytes → UInt32} {m : SegmentManifest} {entry : SegmentEntry} {file g : Bytes} {s s' : St}
  {got cs : List SegmentChunk} {c : SegmentChunk}

structure Receiving (entry : SegmentEntry) (file : Bytes) (s : St) (got : List SegmentChunk)
    (g : Bytes) : Prop where
  listed : s.1.manifest.find? (·.startSeq = entry.startSeq) = some entry
  finalized : s.1.finalized entry.startSeq = none
  seg : (s.1.openFor s.2 entry).1 = ⟨file.length, g.length⟩
  present : fileAt (s.1.openFor s.2 entry).2 entry.startSeq = some g
  fits : g.length ≤ file.length
  bytes : ∀ c ∈ got, ∀ i, c.offset ≤ i → i < c.offset + c.data.length → i < g.length ∧ g[i]? = file[i]?

section

variable (h : Receiving entry file s got g)
include h

lemma Receiving.other (hne : entry.startSeq ≠ c.startSeq) :
    Receiving entry file (s.1.applyChunk crc32 s.2 c).2 got g := by
  have ha := applied crc32 s.1 s.2 c; obtain ⟨hf, ho, hfi⟩ := ha.frame hne
  refine ⟨ha.manifest.symm ▸ h.listed, hf.trans h.finalized, ?_, ?_, h.fits, h.bytes⟩
  · rw [← h.seg]; unfold SegmentWriter.openFor; grind
  grind [h.present, fileAt_openFor]

lemma Receiving.bytes_overwrite (hp : Piece entry.startSeq file c) :
    (overwrite g c.offset c.data).length = max g.length (c.offset + c.data.length) ∧
    ∀ c' ∈ got ++ [c], ∀ i, c'.offset ≤ i → i < c'.offset + c'.data.length →
      i < (overwrite g c.offset c.data).length ∧ (overwrite g c.offset c.data)[i]? = file[i]? := by
  have hl : (overwrite g c.offset c.data).length = max g.length (c.offset + c.data.length) :=
    length_overwrite hp.nonempty
  refine ⟨hl, fun c' hc' i h₁ h₂ => ?_⟩
  by_cases hin : c.offset ≤ i ∧ i < c.offset + c.data.length
  · exact ⟨by omega, (getElem?_overwrite.1 hin.1 hin.2).trans (hp.bytes i hin.1 hin.2)⟩
  · rcases mem_append.mp hc' with hc' | hc'
    · obtain ⟨hlt, hb⟩ := h.bytes c' hc' i h₁ h₂
      exact ⟨by omega, (getElem?_overwrite.2 (by omega) hlt).trans hb⟩
    grind

lemma Receiving.seg_received (hp : Piece entry.startSeq file c) :
    received s.1 s.2 c entry = ⟨file.length, (overwrite g c.offset c.data).length⟩ := by
  rw [received, h.seg, (h.bytes_overwrite hp).1]

lemma Receiving.file_written (hp : Piece entry.startSeq file c) :
    fileAt (written s.1 s.2 c entry) entry.startSeq = some (overwrite g c.offset c.data) := by
  rw [written, hp.startSeq, fileAt_writeAt, if_pos rfl, h.present]; rfl

lemma Receiving.applyChunk (crc32 : Bytes → UInt32) (hp : Piece entry.startSeq file c) :
    ((c.isLast = false ∨ ¬Complete crc32 s.1 s.2 c entry) ∧ (s.1.applyChunk crc32 s.2 c).2 =
      (s.1.setOpen entry.startSeq (received s.1 s.2 c entry), written s.1 s.2 c entry)) ∨
    (c.isLast = true ∧ (s.1.applyChunk crc32 s.2 c).2.1.finalized entry.startSeq = some entry.crc32 ∧
      (s.1.applyChunk crc32 s.2 c).2.2 = written s.1 s.2 c entry) := by
  have ha := applied crc32 s.1 s.2 c; have hf := h.listed; have hfi := hp.inside
  rw [← hp.startSeq] at hf ⊢; generalize s.1.applyChunk crc32 s.2 c = r at ha ⊢
  cases ha with
  | refused msg hno =>
    rcases hno with hno | hno
    · grind
    · rw [hp.startSeq] at hno; exact absurd h.finalized hno
  | overflow => grind [h.seg]
  | kept | finalized => grind

lemma Receiving.piece (hp : Piece entry.startSeq file c) (hla : c.isLast = false) :
    Receiving entry file (s.1.applyChunk crc32 s.2 c).2 (got ++ [c]) (overwrite g c.offset c.data) := by
  obtain ⟨hle, hb⟩ := h.bytes_overwrite hp
  obtain ⟨-, hr⟩ | ⟨hl, -⟩ := h.applyChunk crc32 hp
  · rw [hr]; refine ⟨h.listed, h.finalized, ?_, ?_, ?_, hb⟩
    · rw [← h.seg_received hp]; simp [SegmentWriter.openFor, SegmentWriter.setOpen]
    · rw [fileAt_openFor, if_neg (by simp [SegmentWriter.setOpen])]; exact h.file_written hp
    grind [hp.inside, h.fits]
  · rw [hla] at hl; cases hl

lemma Receiving.last (hp : Piece entry.startSeq file c) (hl : c.isLast = true) (he : entry.crc32 = crc32 file)
    (hco : ∀ i < file.length, ∃ c' ∈ got ++ [c], c'.offset ≤ i ∧ i < c'.offset + c'.data.length) :
    (s.1.applyChunk crc32 s.2 c).2.1.finalized entry.startSeq ≠ none ∧
    fileAt (s.1.applyChunk crc32 s.2 c).2.2 entry.startSeq = some file := by
  obtain ⟨hle, hb⟩ := h.bytes_overwrite hp; have hen := hp.last.mp hl; have hf := h.fits
  have hw : overwrite g c.offset c.data = file := by refine ext_getElem? fun i => ?_; grind
  have hwr : fileAt (written s.1 s.2 c entry) entry.startSeq = some file := hw ▸ h.file_written hp
  have hc : Complete crc32 s.1 s.2 c entry := by
    refine ⟨?_, ?_⟩
    · rw [h.seg_received hp, hw]
    grind [hp.startSeq]
  obtain ⟨hno, -⟩ | ⟨-, hfi, hd⟩ := h.applyChunk crc32 hp
  · grind
  grind

end

lemma receiving_run (hru : (machine crc32 m).Run s cs s') (h : Receiving entry file s got g)
    (hcs : ∀ c ∈ cs, c.startSeq = entry.startSeq → Piece entry.startSeq file c ∧ c.isLast = false) :
    ∃ g', Receiving entry file s' (got ++ cs.filter (·.startSeq = entry.startSeq)) g' := by
  induction hru generalizing got g with
  | nil => exact ⟨g, by simpa using h⟩
  | @cons s t u c cs hs _ ih =>
    obtain rfl := Option.some.inj hs
    have hr := fun c' hc' => hcs c' (mem_cons_of_mem c hc')
    by_cases hc : c.startSeq = entry.startSeq
    · obtain ⟨hp, hl⟩ := hcs c mem_cons_self hc
      obtain ⟨g', hg'⟩ := ih (h.piece hp hl) hr; grind
    · obtain ⟨g', hg'⟩ := ih (h.other (Ne.symm hc)) hr; grind

lemma finalized_run {start : Nat} (hr : (machine crc32 m).Run s cs s') (h : s.1.finalized start ≠ none) :
    fileAt s'.2 start = fileAt s.2 start := by
  induction hr with
  | nil => rfl
  | @cons s t u c cs hs _ =>
    obtain rfl := Option.some.inj hs; have ha := applied crc32 s.1 s.2 c
    by_cases hc : start = c.startSeq
    · have hsa : (s.1.applyChunk crc32 s.2 c).2 = s := by
        rw [hc] at h; generalize s.1.applyChunk crc32 s.2 c = r at ha ⊢
        cases ha with
        | refused => rfl
        | overflow entry msg _ hf => exact absurd hf h
        | kept entry res _ hf => exact absurd hf h
        | finalized entry _ hf => exact absurd hf h
      grind
    · obtain ⟨hf, -, hfi⟩ := ha.frame hc; grind

lemma untouched_run {start : Nat} (hru : (machine crc32 m).Run s cs s') (h : ∀ c ∈ cs, c.startSeq ≠ start) :
    fileAt s'.2 start = fileAt s.2 start := by
  induction hru with
  | nil => rfl
  | @cons s t u c cs hs _ ih =>
    obtain rfl := Option.some.inj hs
    have hr := ih fun c' hc' => h c' (mem_cons_of_mem c hc')
    exact hr.trans ((applied crc32 s.1 s.2 c).frame (h c mem_cons_self).symm).2.2

lemma receiving_start (hm : m.find? (·.startSeq = entry.startSeq) = some entry)
    (hs : entry.sizeBytes = file.length) : Receiving entry file ({ manifest := m }, t) [] [] where
  listed := hm
  finalized := rfl
  seg := by simp [SegmentWriter.openFor, hs]
  present := by rw [fileAt_openFor, if_pos ⟨rfl, rfl⟩]
  fits := Nat.zero_le _
  bytes c hc := by cases hc

lemma delivered {start n : Nat} (hne : file ≠ [])
    (hm : m.find? (·.startSeq = start) = some ⟨start, file.length, crc32 file⟩)
    (hru : (machine crc32 m).Run ({ manifest := m }, t) cs s')
    (hd : Delivery (chunks start file n) (cs.filter (·.startSeq = start))) :
      fileAt s'.2 start = some file := by
  obtain ⟨pre, hse, hpr, ha⟩ := hd
  obtain ⟨hp, hco, hla⟩ := readAll_spec (r := ⟨start, file, 0, max n 1⟩) (n := file.length)
    (Nat.le_max_right n 1) (Nat.le_add_left _ _)
  obtain ⟨c, hc⟩ := hla (length_pos_iff.mpr hne)
  have hme : c ∈ chunks start file n ∧ c.isLast = true := mem_filter.mp (by rw [chunks, hc]; simp)
  have hpi : Piece start file c := hp c hme.1; rw [chunks, hc] at hse
  obtain ⟨cs₁, cs₂, rfl, hc₁, hc₂⟩ := filter_eq_append_iff.mp hse
  obtain ⟨l₁, l₂, rfl, hl₁, -, -⟩ := filter_eq_cons_iff.mp hc₂
  obtain ⟨s₁, hr₁, hr₂⟩ := hru.of_append; obtain ⟨s₂, hr₂, hr₃⟩ := hr₂.of_append
  cases hr₃ with
  | cons hst hre =>
    obtain rfl := Option.some.inj hst
    have h₀ : Receiving ⟨start, file.length, crc32 file⟩ file ({ manifest := m }, t) [] [] :=
      receiving_start hm rfl
    obtain ⟨g₁, h₁⟩ := receiving_run hr₁ h₀ fun c' hc' hs => by
      have hin : c' ∈ pre := hc₁ ▸ mem_filter.mpr ⟨hc', by simpa using hs⟩
      exact ⟨hp c' (hpr c' hin).1, (hpr c' hin).2⟩
    obtain ⟨g₂, h₂⟩ := receiving_run hr₂ h₁ fun c' hc' hs => absurd (by simpa using hs) (hl₁ c' hc')
    have hn : l₁.filter (·.startSeq = start) = [] := filter_eq_nil_iff.mpr hl₁
    simp only [hc₁, hn, nil_append, append_nil] at h₂
    have hb : ∀ i < file.length, ∃ c' ∈ pre ++ [c], c'.offset ≤ i ∧ i < c'.offset + c'.data.length := by
      intro i hi; obtain ⟨c', hc', hr⟩ := hco i (Nat.zero_le i) hi; refine ⟨c', ?_, hr⟩
      cases hl : c'.isLast with
      | false => exact mem_append_left _ (ha c' hc' hl)
      | true => grind
    have hcr : (⟨start, file.length, crc32 file⟩ : SegmentEntry).crc32 = crc32 file := rfl
    obtain ⟨hfi, hf⟩ := h₂.last hpi hme.2 hcr hb; exact (finalized_run hre hfi).trans hf

end Receiving

section Sized

variable {crc32 : Bytes → UInt32} {m : SegmentManifest} {s : St} {c : SegmentChunk}

structure Sized (crc32 : Bytes → UInt32) (m : SegmentManifest) (s : St) : Prop where
  manifest : s.1.manifest = m
  opened : ∀ start seg, s.1.openSegments start = some seg → ∃ entry file,
    m.find? (·.startSeq = start) = some entry ∧ fileAt s.2 start = some file ∧
    seg = ⟨entry.sizeBytes, file.length⟩
  finalized : ∀ start, s.1.finalized start ≠ none → ∃ entry file,
    m.find? (·.startSeq = start) = some entry ∧ fileAt s.2 start = some file ∧
      file.length = entry.sizeBytes ∧ crc32 file = entry.crc32

lemma Sized.initial (h : Initial m s) : Sized crc32 m s := by
  refine ⟨?_, fun start seg hs => ?_, fun start hf => ?_⟩
  · rw [h]
  · rw [h] at hs; cases hs
  · rw [h] at hf; exact absurd rfl hf

variable {entry : SegmentEntry}

section

variable (h : Sized crc32 m s)
include h

lemma Sized.openFor (hf : s.1.manifest.find? (·.startSeq = c.startSeq) = some entry) :
    ∃ file, fileAt (s.1.openFor s.2 entry).2 c.startSeq = some file ∧
      (s.1.openFor s.2 entry).1 = ⟨entry.sizeBytes, file.length⟩ ∧ bytesReceived s.1 c.startSeq =
        file.length := by
  have hs := startSeq_of_find hf; unfold SegmentWriter.openFor bytesReceived; rw [hs]
  cases ho : s.1.openSegments c.startSeq with
  | none => simp [fileAt_truncate]
  | some => obtain ⟨entry', file, hf', hfi, rfl⟩ := h.opened _ _ ho; simp_all [h.manifest]

lemma Sized.written (ha : Allowed s c) (hf : s.1.manifest.find? (·.startSeq = c.startSeq) = some entry) :
    ∃ file, fileAt (Transfer.written s.1 s.2 c entry) c.startSeq = some file ∧
      received s.1 s.2 c entry = ⟨entry.sizeBytes, file.length⟩ := by
  obtain ⟨file, hfi, hs, hb⟩ := h.openFor hf
  refine ⟨overwrite file c.offset c.data, ?_, ?_⟩
  · rw [Transfer.written, fileAt_writeAt, if_pos rfl, hfi]; rfl
  · rw [received, hs]; by_cases hd : c.data = []
    · have hle : c.offset ≤ file.length := hb ▸ ha hd
      rw [overwrite, if_pos hd, hd, length_nil, Nat.add_zero, Nat.max_eq_left hle]
    · rw [length_overwrite hd]

lemma Sized.setOpen {file : Bytes} (hfi : s.1.manifest.find? (·.startSeq = c.startSeq) = some entry)
    (hfn : s.1.finalized c.startSeq = none) (hfl : fileAt d c.startSeq = some file)
    (ho : ∀ start ≠ c.startSeq, fileAt d start = fileAt s.2 start) :
    Sized crc32 m (s.1.setOpen c.startSeq ⟨entry.sizeBytes, file.length⟩, d) where
  manifest := h.manifest
  opened start seg hseg := by
    by_cases hs : start = c.startSeq
    · subst hs
      have hn : (some ⟨entry.sizeBytes, file.length⟩ : Option OpenSegment) = some seg :=
        (update_self c.startSeq _ _).symm.trans hseg
      exact ⟨entry, file, h.manifest ▸ hfi, hfl, (Option.some.inj hn).symm⟩
    · have hold : s.1.openSegments start = some seg := (update_of_ne hs _ _).symm.trans hseg
      obtain ⟨entry', file', hf, hg, he⟩ := h.opened start seg hold
      exact ⟨entry', file', hf, (ho start hs).trans hg, he⟩
  finalized start hs := by
    have hne : start ≠ c.startSeq := fun he => hs (he ▸ hfn)
    obtain ⟨entry', file', hf, hg, he⟩ := h.finalized start hs
    exact ⟨entry', file', hf, (ho start hne).trans hg, he⟩

lemma Sized.step (ha : Allowed s c) : Sized crc32 m (s.1.applyChunk crc32 s.2 c).2 := by
  have hap := applied crc32 s.1 s.2 c
  have hfr : ∀ start ≠ c.startSeq, fileAt (s.1.applyChunk crc32 s.2 c).2.2 start = fileAt s.2 start :=
    fun start hs => (hap.frame hs).2.2
  generalize s.1.applyChunk crc32 s.2 c = r at hap hfr ⊢
  cases hap with
  | refused => exact h
  | overflow entry msg hfi hfn =>
    obtain ⟨file, hfl, hse, -⟩ := h.openFor hfi; rw [hse]; exact h.setOpen hfi hfn hfl hfr
  | kept entry res hfi hfn =>
    obtain ⟨file, hfl, hse⟩ := h.written ha hfi; rw [hse]; exact h.setOpen hfi hfn hfl hfr
  | finalized entry hfi hfn _ _ hc =>
    obtain ⟨file, hfl, hse⟩ := h.written ha hfi; obtain ⟨hsi, hcr⟩ := hc; rw [hse] at hsi
    rw [hfl] at hcr; refine ⟨h.manifest, fun start seg hs => ?_, fun start hs => ?_⟩
    · by_cases heq : start = c.startSeq
      · grind
      · obtain ⟨entry', file', hf, hg, he⟩ := h.opened start seg ((update_of_ne heq _ _).symm.trans hs)
        grind
    · by_cases heq : start = c.startSeq
      · subst heq; exact ⟨entry, file, h.manifest ▸ hfi, hfl, hsi, hcr⟩
      · have hold : s.1.finalized start ≠ none := fun hn => hs ((update_of_ne heq _ _).trans hn)
        obtain ⟨entry', file', hf, hg, he⟩ := h.finalized start hold; grind

lemma Sized.installed (hm : Consistent m) (hf : s.1.finish = .ok ()) :
    Installed crc32 m s.2 := by
  intro e he; unfold SegmentWriter.finish at hf; split at hf
  · cases hf
  · rename_i hn
    rw [h.manifest] at hn; have hso : s.1.finalized e.startSeq ≠ none := by grind
    obtain ⟨entry, file, hfi, hfl, hsi, hc⟩ := h.finalized e.startSeq hso
    have hs : entry.startSeq = e.startSeq := by simpa using find?_some hfi
    obtain rfl := hm entry (mem_of_find?_eq_some hfi) e he hs; grind

end

end Sized

theorem reassembled (crc32 : Bytes → UInt32) (m : SegmentManifest) :
    (∀ (t : Dir) (start : Nat) (file : Bytes) (chunkBytes : Nat),
      m.find? (·.startSeq = start) = some ⟨start, file.length, crc32 file⟩ →
      ((∀ cs s, (machine crc32 m).Run ({ manifest := m }, t) cs s →
          Delivery (chunks start file chunkBytes) (cs.filter (·.startSeq = start)) →
          fileAt s.2 start = some file) ↔
        file ≠ [] ∨ fileAt t start = some [])) ∧
    (Consistent m → ∀ s, ((machine crc32 m).restrict Allowed).Reachable s →
      s.1.finish = .ok () → Installed crc32 m s.2) := by
  refine ⟨fun t start file n hm => ⟨fun h => ?_, fun h cs s hr hd => ?_⟩, fun hm s hre hf => ?_⟩
  · by_cases hne : file = []
    · subst hne
      exact .inr (h [] _ (.nil _) ⟨[], rfl, fun c hc => absurd hc not_mem_nil, fun c hc =>
        absurd hc not_mem_nil⟩)
    · exact .inl hne
  · by_cases hne : file = []
    · -- an empty file has no chunk
      subst hne; obtain ⟨pre, hs, hp, -⟩ := hd
      have hn : pre = [] := eq_nil_iff_forall_not_mem.mpr fun c hc => not_mem_nil (hp c hc).1
      rw [hn] at hs
      have ho : ∀ c ∈ cs, c.startSeq ≠ start := fun c hc => by simpa using filter_eq_nil_iff.mp hs c hc
      simp_all [untouched_run hr ho]
    · exact delivered hne hm hr hd
  · obtain ⟨s₀, cs, hi, hr⟩ := hre
    have hsi : Sized crc32 m s := by
      refine hr.induct (I := Sized crc32 m) (fun t c u ht hc => ?_) (Sized.initial hi)
      obtain rfl := Option.some.inj hc.2; exact ht.step hc.1
    exact hsi.installed hm hf

def shuffled : List SegmentChunk :=
  [⟨0, 1, [8], false⟩, ⟨0, 0, [7], false⟩, ⟨0, 1, [8], false⟩, ⟨5, 0, [1], true⟩, ⟨0, 2, [9], true⟩]

def threeBytes : SegmentManifest := [⟨0, 3, crc32 [7, 8, 9]⟩]

theorem reassembled_shuffled : ∃ s, ((machine crc32 threeBytes).restrict Allowed).Reachable s ∧
    s.1.finish = .ok () ∧
      fileAt s.2 0 = some [7, 8, 9] ∧ Installed crc32 threeBytes s.2 := by
  have h : (LTS.exec (fun s c => if Allowed s c then step crc32 s c else none)
    ({ manifest := threeBytes }, [])
      shuffled).map (fun s => s.1.finish) = some (.ok ()) := by decide +kernel
  obtain ⟨s, hs, hf⟩ := Option.map_eq_some_iff.mp h
  have hru : ((machine crc32 threeBytes).restrict Allowed).Run ({ manifest := threeBytes }, []) shuffled s :=
    LTS.run_restrict_of_exec hs
  have hr : ((machine crc32 threeBytes).restrict Allowed).Reachable s := ⟨_, _, initial_writer _ _, hru⟩
  have hd : Delivery (chunks 0 [7, 8, 9] 1) (shuffled.filter (·.startSeq = 0)) :=
    ⟨shuffled.take 3, by decide +kernel, by decide +kernel, by decide +kernel⟩
  obtain ⟨hw, hsi⟩ := reassembled crc32 threeBytes
  refine ⟨s, hr, hf, ?_, hsi (by decide +kernel) s hr hf⟩
  exact (hw [] 0 [7, 8, 9] 1 rfl).mpr (.inl (by decide)) shuffled s hru.of_restrict hd

theorem reassembly_fails : (readManifest crc32 [(0, [])] = [⟨0, 0, crc32 []⟩] ∧ chunks 0 [] 4 = [] ∧
      SegmentWriter.finish { manifest := [⟨0, 0, crc32 []⟩] } =
        .error "l2-transfer: missing segment start_seq=0 at finish") ∧
    (∃ s, (machine crc32 [⟨0, 1, crc32 [7]⟩, ⟨0, 2, crc32 [7, 8]⟩]).Reachable s ∧ s.1.finish = .ok () ∧
      fileAt s.2 0 = some [7]) ∧
    (∃ s, (machine crc32 [⟨0, 5, crc32 []⟩]).Reachable s ∧ s.1.finish = .ok () ∧ fileAt s.2 0 = some []) := by
  refine ⟨⟨by decide +kernel, rfl, by decide +kernel⟩, ?_, ?_⟩
  · exact LTS.exists_reachable (initial_writer _ []) [⟨0, 0, [7], true⟩] (by decide +kernel)
  · exact LTS.exists_reachable (initial_writer _ []) [⟨0, 5, [], true⟩] (by decide +kernel)

end Aeon.L2.Reassembly
