import Aeon.Core.LTS
import Aeon.L2Store.Images

/-!
# The L2 body store with encryption at rest

`L2BodyStore` (`crates/aeon-engine/src/l2_body.rs`) with a KEK: every segment has a data key,
wrapped into a sidecar file, and every payload is sealed. A segment under a data key is one of
`Body` under another codec (`under`).

* `Inv.reachable`: the files of every reachable store;
* `Inv.iterFrom`: `iter_from` yields the events of the files that are left.
-/
namespace Aeon.L2.AtRest

open List Option Function Aeon.Core Aeon.L2.Body

/-- mirrors at_rest.rs:47-115 -/
structure Cipher (Kek Dek : Type) where
  wrap : Kek → Dek → Bytes → Bytes
  unwrap : Kek → Bytes → Option Dek
  sealPayload : Dek → Bytes → Bytes → Option Bytes
  openPayload : Dek → Bytes → Option Bytes
  unwrap_wrap : ∀ k d n, unwrap k (wrap k d n) = some d
  open_seal : ∀ d n p b, sealPayload d n p = some b → openPayload d b = some p

section Store

variable {Event Kek Dek : Type}

def under (C : Codec Event) (A : Cipher Kek Dek) (key : Option Dek) (nonce : Bytes) : Codec Event where
  encode e :=
    match key with
    | none => C.encode e
    | some dek => (C.encode e).bind (A.sealPayload dek nonce)
  decode b :=
    match key with
    | none => C.decode b
    | some dek => (A.openPayload dek b).bind C.decode
  crc32 := C.crc32

/-- mirrors l2_body.rs:122-137, 476-489 -/
structure Store (Kek Dek : Type) where
  body : Body.Store
  kek : Option Kek
  sidecar : Nat → Option Bytes := fun _ => none
  encryptor : Nat → Option Dek := fun _ => none

structure Random (Dek : Type) where
  dek : Dek
  wrapNonce : Bytes
  nonce : Bytes

variable (C : Codec Event) (A : Cipher Kek Dek)

namespace Store

variable (s : Store Kek Dek)

variable (r : Random Dek)

def keyFor : Option Dek :=
  if s.body.needNew then s.kek.map fun _ => r.dek
  else s.body.segments.getLast?.bind fun seg => s.encryptor seg.start

/-- mirrors l2_body.rs:155-165 -/
def writeSidecar : Nat → Option Bytes :=
  match s.kek with
  | some k => update s.sidecar s.body.nextSeq (some (A.wrap k r.dek r.wrapNonce))
  | none => s.sidecar

/-- mirrors l2_body.rs:536-558 -/
def append (e : Event) : Store Kek Dek × Except String Nat :=
  let out := s.body.append (under C A (s.keyFor r) r.nonce) e
  ({ s with
      body := out.1
      sidecar := if s.body.needNew then s.writeSidecar A r else s.sidecar
      encryptor :=
        if s.body.needNew ∧ s.body.rollover.isOk then
          update s.encryptor s.body.nextSeq (s.kek.map fun _ => r.dek)
        else s.encryptor }, out.2)

def appendTorn (n : Nat) : Option (Store Kek Dek) :=
  if s.body.needNew then
    (s.body.dir.create s.body.nextSeq (header.take n)).map fun dir =>
      { s with body := { s.body with dir := dir }, sidecar := s.writeSidecar A r }
  else none

def gcUpTo (minAckSeq : Nat) (elapsed : Nat → Bool) : Store Kek Dek :=
  { s with body := s.body.gcUpTo minAckSeq elapsed }

end Store

/-- mirrors l2_body.rs:103-119 -/
def loadCipher (kek : Option Kek) (sidecar : Option Bytes) : Except String (Option Dek) :=
  match kek, sidecar with
  | some k, some b =>
    match A.unwrap k b with
    | some dek => .ok (some dek)
    | none => .error "no KEK available"
  | none, some _ => .error ("l2-body: encryption sidecar present but no KEK configured — " ++
      "pipeline must start with the data-context KEK that produced this segment")
  | _, none => .ok none

/-- mirrors l2_body.rs:192-247 -/
def openSegment (kek : Option Kek) (sidecar : Option Bytes) (start : Nat) (file : Bytes) :
    Except String (Segment × Option Dek) := do
  let key ← loadCipher A kek sidecar
  let seg ← Segment.openFile (under C A key []) start file
  .ok (seg, key)

def openFiles (kek : Option Kek) (sidecar : Nat → Option Bytes) :
    Dir → Except String (List (Segment × Option Dek) × Nat)
  | [] => .ok ([], 0)
  | (start, file) :: d => do
    let seg ← openSegment C A kek (sidecar start) start file
    let (segs, nextSeq) ← openFiles kek sidecar d
    .ok (seg :: segs, max (match seg.1.maxSeq with | some m => m + 1 | none => 0) nextSeq)

/-- mirrors l2_body.rs:495-533 -/
def Store.openDir (segmentBytes : Nat) (kek : Option Kek) (sidecar : Nat → Option Bytes) (dir : Dir) :
    Except String (Store Kek Dek) := do
  let (segs, nextSeq) ← openFiles C A kek sidecar dir
  .ok
    { body := ⟨segmentBytes, dir, segs.map Prod.fst, nextSeq⟩
      kek, sidecar
      encryptor := fun start => (segs.find? (·.1.start = start)).bind Prod.snd }

variable (s : Store Kek Dek)

/-- mirrors l2_body.rs:653-666 -/
def Store.iterSegment (fromSeq : Nat) (seg : Segment) : Except String (List (Nat × Event)) :=
  if seg.maxSeq.all (· < fromSeq) then .ok []
  else do
    let key ← loadCipher A s.kek (s.sidecar seg.start)
    Body.iterSegment (under C A key []) s.body.dir fromSeq seg

/-- mirrors l2_body.rs:650-669 -/
def Store.iterFrom (fromSeq : Nat) : Except String (List (Nat × Event)) := do
  let parts ← s.body.segments.mapM (s.iterSegment C A fromSeq)
  .ok parts.flatten

inductive Lbl (Event Dek : Type)
  | append (r : Random Dek) (e : Event)
  | appendTorn (r : Random Dek) (n : Nat)
  | gc (minAckSeq : Nat) (elapsed : Nat → Bool)

def step : Lbl Event Dek → Option (Store Kek Dek)
  | .append r e => if s.body.nextSeq + 1 < 2 ^ 64 then some (s.append C A r e).1 else none
  | .appendTorn r n => if n < headerSize then s.appendTorn A r n else none
  | .gc minAckSeq elapsed => some (s.gcUpTo minAckSeq elapsed)

def Fresh : Prop :=
  ∃ segmentBytes kek, s = { body := ⟨segmentBytes, [], [], 0⟩, kek }

def machine : LTS (Store Kek Dek) (Lbl Event Dek) := LTS.ofFn Fresh (step C A)

end Store

structure SegFile (Event : Type) where
  start : Nat
  recs : List (Event × Bytes)

section Files

variable {Event : Type} (C : Codec Event)

def framesOf (n : Nat) (ps : List Bytes) : Bytes := (number n ps).flatMap fun r => frame C r.1 r.2

namespace SegFile

variable (f : SegFile Event)

def next : Nat := f.start + f.recs.length

def bytes : Bytes := header ++ framesOf C f.start (f.recs.map Prod.snd)

def segment : Segment := ⟨f.start, if f.recs = [] then none else some (f.next - 1), (f.bytes C).length⟩

def push (r : Event × Bytes) : SegFile Event := { f with recs := f.recs ++ [r] }

end SegFile

def Runs : Nat → List (SegFile Event) → Nat → Prop
  | m, [], n => m = n
  | m, f :: fs, n => f.start = m ∧ Runs f.next fs n

structure Shape (b : Body.Store) (fs : List (SegFile Event)) (torn : Option Nat) : Prop where
  dir : b.dir = fs.map (fun f => (f.start, f.bytes C)) ++ torn.toList.map fun n => (b.nextSeq, header.take n)
  segments : b.segments = fs.map (SegFile.segment C)
  runs : ∃ m, Runs m fs b.nextSeq
  closed : ∀ f ∈ fs.dropLast, f.recs ≠ []
  stuck : ∀ n ∈ torn, n < headerSize ∧ b.needNew ∧ ∀ f ∈ fs, f.recs ≠ []

end Files

section FileLemmas

variable {Event : Type} {C : Codec Event} {b : Body.Store} {fs gs : List (SegFile Event)}
  {torn : Option Nat} {f : SegFile Event} {m n : Nat}

lemma runs_append : Runs m (fs ++ gs) n ↔ ∃ k, Runs m fs k ∧ Runs k gs n := by
  induction fs generalizing m with
  | nil => simp [Runs]
  | cons f fs ih => simp [Runs, ih, and_assoc]

lemma Runs.le (h : Runs m fs n) : m ≤ n := by
  induction fs generalizing m with
  | nil => exact Nat.le_of_eq h
  | cons f fs ih =>
    have hle := ih h.2; have hs := h.1; unfold SegFile.next at hle
    omega

lemma Runs.mem (h : Runs m fs n) (hf : f ∈ fs) : m ≤ f.start ∧ f.next ≤ n := by
  induction fs generalizing m with
  | nil => cases hf
  | cons g fs ih =>
    have hle := h.2.le; have hg := h.1; have hn : g.next = g.start + g.recs.length := rfl
    rcases mem_cons.mp hf with rfl | hf
    · omega
    · have hm := ih h.2 hf; omega

lemma framesOf_append (n : Nat) (ps qs : List Bytes) :
    framesOf C n (ps ++ qs) = framesOf C n ps ++ framesOf C (n + ps.length) qs := by
  rw [framesOf, number_append, flatMap_append]; rfl

lemma bytes_push (r : Event × Bytes) : (f.push r).bytes C = f.bytes C ++ frame C f.next r.2 := by
  rw [SegFile.bytes, SegFile.push, map_append, framesOf_append, ← append_assoc, length_map]
  simp [SegFile.bytes, SegFile.next, framesOf, number]

lemma headerSize_le_bytes : headerSize ≤ (f.bytes C).length := by simp [SegFile.bytes]

lemma Shape.last_of_empty (h : Shape C b fs torn) (hf : f ∈ fs) (he : f.recs = []) :
    f.start = b.nextSeq := by
  obtain ⟨m, hr⟩ := h.runs; rcases eq_nil_or_concat fs with rfl | ⟨pre, g, rfl⟩
  · cases hf
  · rw [concat_eq_append] at *; have hc := h.closed; rw [dropLast_concat] at hc
    obtain ⟨k, -, hg⟩ := runs_append.mp hr; rcases mem_append.mp hf with hf | hf
    · exact absurd he (hc f hf)
    · obtain rfl := mem_singleton.mp hf; have hn : f.next = b.nextSeq := hg.2
      simpa [SegFile.next, he] using hn

lemma Shape.start_lt (h : Shape C b fs torn) (hf : f ∈ fs) (he : f.recs ≠ []) :
    f.start < b.nextSeq := by
  obtain ⟨m, hr⟩ := h.runs; have := (hr.mem hf).2; have := length_pos_iff.mpr he
  unfold SegFile.next at *
  omega

lemma Shape.ascending (h : Shape C b fs torn) : b.dir.Pairwise (·.1 < ·.1) := by
  have hfi : (fs.map fun f => (f.start, f.bytes C)).Pairwise (·.1 < ·.1) := by
    obtain ⟨m, hr⟩ := h.runs; have hc := h.closed; clear h
    induction fs generalizing m with
    | nil => exact List.Pairwise.nil
    | cons f fs ih =>
      rw [map_cons, pairwise_cons]
      cases fs with
      | nil => exact ⟨fun a ha => (not_mem_nil ha).elim, List.Pairwise.nil⟩
      | cons =>
        rw [dropLast_cons_cons] at hc
        have hp := length_pos_iff.mpr (hc f mem_cons_self)
        refine ⟨fun a ha => ?_, ih f.next hr.2 fun x hx => hc x (mem_cons_of_mem _ hx)⟩
        obtain ⟨x, hx, rfl⟩ := List.mem_map.mp ha; have := (hr.2.mem hx).1
        grind [SegFile.next]
  rw [h.dir, pairwise_append]; refine ⟨hfi, ?_, fun x hx y hy => ?_⟩
  · grind
  · obtain ⟨n, hn, rfl⟩ := List.mem_map.mp hy; obtain ⟨f, hf, rfl⟩ := List.mem_map.mp hx
    exact h.start_lt hf ((h.stuck n (by simpa using hn)).2.2 f hf)

/-! ### Appends -/

lemma Shape.rollover (h : Shape C b fs torn) : (¬ b.needNew ∧ torn = none ∧ b.rollover = .ok b) ∨
    (b.needNew ∧ ∃ msg, b.rollover = .error msg) ∨
    (b.needNew ∧ torn = none ∧ (∀ f ∈ fs, f.recs ≠ []) ∧ ∃ b', b.rollover = .ok b' ∧
      b'.nextSeq = b.nextSeq ∧ b'.segmentBytes = b.segmentBytes ∧
      Shape C b' (fs ++ [⟨b.nextSeq, []⟩]) none) := by
  by_cases hn : b.needNew
  · by_cases hta : b.nextSeq ∈ b.dir.map Prod.fst
    · simp_all [Store.rollover, Dir.create]
    · have hno : torn = none := by
        cases ht : torn with
        | none => rfl
        | some => exact absurd (by simp [h.dir, ht]) hta
      have hr : ∀ f ∈ fs, f.recs ≠ [] := by
        intro f hf he
        refine hta (List.mem_map.mpr ⟨(f.start, f.bytes C), ?_, h.last_of_empty hf he⟩)
        grind [h.dir]
      have hlt : ∀ g ∈ b.dir, g.1 < b.nextSeq := by
        intro g hg; rw [h.dir, hno, toList_none, map_nil, append_nil] at hg
        obtain ⟨f, hf, rfl⟩ := List.mem_map.mp hg; exact h.start_lt hf (hr f hf)
      have hc : b.dir.create b.nextSeq header = some (b.dir ++ [(b.nextSeq, header)]) := by
        rw [Dir.create, if_neg hta, takeWhile_eq_self_iff.mpr (by simpa using hlt),
          dropWhile_eq_nil_iff.mpr (by simpa using hlt)]
      have hro : b.rollover = .ok { b with
          dir := b.dir ++ [(b.nextSeq, header)]
          segments := b.segments ++ [⟨b.nextSeq, none, headerSize⟩] } := by simp only [Store.rollover,
          if_pos hn, hc]
      refine .inr (.inr ⟨hn, hno, hr, _, hro, rfl, rfl, ?_⟩); obtain ⟨m, hru⟩ := h.runs
      refine ⟨?_, ?_, ⟨m, runs_append.mpr ⟨_, hru, rfl, by simp [SegFile.next, Runs]⟩⟩, ?_, ?_⟩
      · simp [h.dir, hno, SegFile.bytes, framesOf, number]
      · simp [h.segments, SegFile.segment, SegFile.bytes, framesOf, number]
      · grind
      · rintro _ ⟨⟩
  · refine .inl ⟨hn, ?_, by rw [Store.rollover, if_neg hn]⟩
    cases ht : torn with
    | none => rfl
    | some n => exact absurd (h.stuck n ht).2.1 hn

lemma Shape.appendActive (hc : D.crc32 = C.crc32) (h : Shape C b (fs ++ [f]) none) :
    (∃ msg, (f.segment C).append D b.nextSeq e = .error msg ∧ fits D e = false) ∨
    ∃ p, D.encode e = some p ∧ p.length < 2 ^ 32 ∧ (f.segment C).append D b.nextSeq e =
        .ok ((f.push (e, p)).segment C, frame C b.nextSeq p) := by
  obtain ⟨m, hru⟩ := h.runs; obtain ⟨k, -, hf⟩ := runs_append.mp hru
  have hn : f.next = b.nextSeq := hf.2
  have hm : ((f.segment C).maxSeq).filter (b.nextSeq ≤ ·) = none := by
    rw [SegFile.segment]; split_ifs with hr
    · rfl
    · have hp := length_pos_iff.mpr hr; grind [SegFile.next]
  cases he : D.encode e with
  | none => simp [Segment.append, hm, he, fits]
  | some p =>
    by_cases hl : 2 ^ 32 ≤ p.length
    · left; rw [Segment.append, hm]; simp_all [fits]
    · right; refine ⟨p, rfl, by omega, ?_⟩
      have hfr : frame D b.nextSeq p = frame C b.nextSeq p := by simp only [frame, hc]
      have hs : (f.push (e, p)).next - 1 = b.nextSeq := by rw [← hn]; simp [SegFile.next, SegFile.push]
      rw [Segment.append, hm]; simp only [he, if_neg hl, hfr]
      simp only [SegFile.segment, hs, bytes_push, length_append, length_frame]
      simp [SegFile.push]

lemma Shape.write (h : Shape C b (fs ++ [f]) none) : Shape C { b with
      dir := b.dir.write f.start (frame C b.nextSeq p)
      segments := b.segments.dropLast ++ [(f.push (e, p)).segment C]
      nextSeq := b.nextSeq + 1 } (fs ++ [f.push (e, p)]) none := by
  obtain ⟨m, hr⟩ := h.runs; obtain ⟨k, hp, hf⟩ := runs_append.mp hr
  have hn : f.next = b.nextSeq := hf.2
  have ha := h.ascending; have hc := h.closed; rw [h.dir] at ha
  rw [dropLast_concat] at hc
  simp only [map_append, map_cons, map_nil, toList_none, append_nil, pairwise_append] at ha
  refine ⟨?_, ?_, ⟨m, runs_append.mpr ⟨k, hp, hf.1, ?_⟩⟩, ?_, ?_⟩
  · rw [h.dir, Dir.write]
    simp only [map_append, List.map_map, map_cons, map_nil, toList_none, append_nil]
    congr 1
    · refine map_congr_left fun g hg => ?_
      have hlt := ha.2.2 _ (List.mem_map_of_mem hg) _ mem_cons_self; grind
    · rw [if_pos trivial, bytes_push, hn]; rfl
  · simp [h.segments, map_append]
  · grind [Runs, SegFile.next, SegFile.push, length_append, length_singleton]
  · grind
  · rintro _ ⟨⟩

def rolled (b : Body.Store) (fs : List (SegFile Event)) : List (SegFile Event) :=
  if b.needNew then fs ++ [⟨b.nextSeq, []⟩] else fs

lemma Shape.append (hc : D.crc32 = C.crc32) (h : Shape C b fs torn) (e : Event) :
    (b.needNew ∧ b.rollover.isOk = false ∧ ∃ msg, b.append D e = (b, .error msg)) ∨
    (b.rollover.isOk = true ∧ torn = none ∧ (b.needNew → ∀ g ∈ fs, g.recs ≠ []) ∧
      ∃ pre f b', rolled b fs = pre ++ [f] ∧
        ((∃ msg, fits D e = false ∧ b.append D e = (b', .error msg) ∧ Shape C b' (pre ++ [f]) none ∧
            b'.nextSeq = b.nextSeq) ∨
          ∃ p, D.encode e = some p ∧ p.length < 2 ^ 32 ∧
            b.append D e = (b', .ok b.nextSeq) ∧ Shape C b' (pre ++ [f.push (e, p)]) none ∧
            b'.nextSeq = b.nextSeq + 1)) := by
  have hgo : ∀ b₁ pre f, b.rollover = .ok b₁ → b₁.nextSeq = b.nextSeq → Shape C b₁ (pre ++ [f]) none → ∃ b',
        ((∃ msg, fits D e = false ∧ b.append D e = (b', .error msg) ∧ Shape C b' (pre ++ [f]) none ∧
            b'.nextSeq = b.nextSeq) ∨
          ∃ p, D.encode e = some p ∧ p.length < 2 ^ 32 ∧
            b.append D e = (b', .ok b.nextSeq) ∧ Shape C b' (pre ++ [f.push (e, p)]) none ∧
            b'.nextSeq = b.nextSeq + 1) := by
    intro b₁ pre f hr hs h₁
    have hl : b₁.segments.getLast? = some (f.segment C) := by
      rw [h₁.segments, map_append, map_singleton, getLast?_concat]
    rcases h₁.appendActive hc (e := e) with ⟨msg, hm, hno⟩ | ⟨p, he, hle, hok⟩
    · simp_all [Body.Store.append]
    · refine ⟨_, .inr ⟨p, he, hle, ?_, h₁.write (e := e) (p := p), by rw [← hs]⟩⟩
      rw [hs] at hok; simp only [Body.Store.append, hr, hl, hs, hok]; rfl
  rcases h.rollover with ⟨hnw, hnn, hr⟩ | ⟨hnw, msg, hr⟩ |
    ⟨hnw, hnn, hre, b₁, hr, hs, -, h₁⟩
  · have hne : fs ≠ [] := by rintro rfl; exact hnw (by simp [Body.Store.needNew, h.segments])
    obtain ⟨pre, f, rfl⟩ : ∃ pre f, fs = pre ++ [f] := ⟨_, _, (dropLast_append_getLast hne).symm⟩
    subst hnn; obtain ⟨b', hb'⟩ := hgo b pre f hr rfl h
    exact .inr ⟨by rw [hr]; rfl, rfl, fun hn => absurd hn hnw, pre, f, b', by rw [rolled, if_neg hnw], hb'⟩
  · exact .inl ⟨hnw, by rw [hr]; rfl, msg, by simp only [Body.Store.append, hr]⟩
  · obtain ⟨b', hb'⟩ := hgo b₁ fs ⟨b.nextSeq, []⟩ hr hs h₁
    exact .inr ⟨by rw [hr]; rfl, hnn, fun _ => hre, fs, ⟨b.nextSeq, []⟩, b', by rw [rolled, if_pos hnw], hb'⟩

lemma Shape.leaveTorn {dir : Dir} (h : Shape C b fs torn) (hne : b.needNew) (hn : n < headerSize)
    (hc : b.dir.create b.nextSeq (header.take n) = some dir) :
    Shape C { b with dir := dir } fs (some n) := by
  unfold Dir.create at hc; split_ifs at hc with ht; cases hc
  rcases h.rollover with ⟨hnt, -, -⟩ | ⟨-, msg, hro⟩ | ⟨-, hno, hr, -⟩
  · exact absurd hne hnt
  · grind [Store.rollover, Dir.create]
  · have hlt : ∀ g ∈ b.dir, g.1 < b.nextSeq := by
      intro g hg; rw [h.dir, hno, toList_none, map_nil, append_nil] at hg
      obtain ⟨f, hf, rfl⟩ := List.mem_map.mp hg; exact h.start_lt hf (hr f hf)
    refine ⟨?_, h.segments, h.runs, h.closed, ?_⟩
    · rw [takeWhile_eq_self_iff.mpr (by simpa using hlt), dropWhile_eq_nil_iff.mpr (by simpa using hlt),
        h.dir, hno]
      simp
    · rintro _ ⟨⟩; exact ⟨hn, hne, hr⟩

/-! ### Sweeps -/

lemma Shape.gcUpTo (h : Shape C b fs torn) (minAckSeq : Nat) (elapsed : Nat → Bool) :
    ∃ pre post, fs = pre ++ post ∧ (fs ≠ [] → post ≠ []) ∧ Shape C (b.gcUpTo minAckSeq elapsed) post torn ∧
      ((b.gcUpTo minAckSeq elapsed).needNew ↔ b.needNew) ∧
      ∀ f ∈ pre, (f.segment C).maxSeq.any (· < minAckSeq) = true ∧ elapsed f.start = true := by
  obtain ⟨gone, kept, hs, hk, hgc, hg⟩ := gcSegments_split minAckSeq elapsed b.segments
  rw [h.segments] at hs; obtain ⟨pre, post, heq, rfl, rfl⟩ := map_eq_append_iff.mp hs
  have hne : fs ≠ [] → post ≠ [] := by intro hfs hpo; simp_all [h.segments]
  have hb : b.gcUpTo minAckSeq elapsed = { b with
      dir := b.dir.filter (·.1 ∉ pre.map SegFile.start)
      segments := post.map (SegFile.segment C) } := by
    simp only [Body.Store.gcUpTo, hgc, List.map_map]; rfl
  have hnd : (b.gcUpTo minAckSeq elapsed).needNew ↔ b.needNew := by
    have hl : (post.map (SegFile.segment C)).getLast? = (fs.map (SegFile.segment C)).getLast? := by
      rcases eq_nil_or_concat post with hp | ⟨post', g, hp⟩
      · grind
      grind
    simp only [Store.needNew, hb, h.segments, hl]
  refine ⟨pre, post, heq, hne, ?_, hnd, fun f hf => hg _ (List.mem_map_of_mem hf)⟩
  have ha := h.ascending; have hc := h.closed; rw [h.dir, heq] at ha
  obtain ⟨m, hr⟩ := h.runs; rw [heq] at hr hc; obtain ⟨k, -, hpo⟩ := runs_append.mp hr
  rw [map_append, append_assoc, pairwise_append] at ha; rw [hb]
  refine ⟨?_, rfl, ⟨k, hpo⟩, fun f hf => hc f ?_, fun n hn => ?_⟩
  · rw [h.dir, heq, map_append, append_assoc, filter_append]
    have hg : (pre.map fun f => (f.start, f.bytes C)).filter (·.1 ∉ pre.map SegFile.start) = [] := by
      rw [filter_eq_nil_iff]; intro x hx; obtain ⟨f, hf, rfl⟩ := List.mem_map.mp hx
      simpa using ⟨f, hf, rfl⟩
    rw [hg, nil_append, filter_eq_self.mpr]; intro x hx
    simp only [decide_eq_true_eq, List.mem_map, not_exists, not_and]; intro f hf hst
    have hlt := ha.2.2 _ (List.mem_map_of_mem hf) x hx; simp only at hlt; omega
  · grind
  · obtain ⟨hlt, hnw, hre⟩ := h.stuck n hn; grind

end FileLemmas

section Reading

variable {Event α : Type} {C : Codec Event} {D : Codec α}

def rawCodec (crc32 : Bytes → UInt32) : Codec Bytes := ⟨some, some, crc32⟩

def rawRecords (crc32 : Bytes → UInt32) (file : Bytes) : List (Nat × Bytes) :=
  ((iterRecords (rawCodec crc32) file).toOption.getD []).filterMap Except.toOption

lemma nextRecord_of_raw {d rest b : Bytes} {seq : Nat}
    (h : nextRecord (rawCodec D.crc32) d = some (.ok (seq, b), rest)) :
    (∀ e, D.decode b = some e → nextRecord D d = some (.ok (seq, e), rest)) ∧
      (D.decode b = none → nextRecord D d = some (.error "l2-body: decode event", [])) := by
  unfold nextRecord at h; simp only at h; split_ifs at h with h₁ h₂ h₃
  obtain ⟨⟨rfl, rfl⟩, rfl⟩ := (by simpa [rawCodec] using h : (_ ∧ _) ∧ _)
  refine ⟨fun e hd => ?_, fun hd => ?_⟩ <;>
    refine (if_neg h₁).trans ((if_neg h₂).trans ((if_neg h₃).trans ?_)) <;> rw [hd]

def readAs (D : Codec α) : Nat → List Bytes → List (Except String (Nat × α))
  | _, [] => []
  | n, p :: ps =>
    match D.decode p with
    | none => [.error "l2-body: decode event"]
    | some e => .ok (n, e) :: readAs D (n + 1) ps

lemma scan_framesOf (hc : D.crc32 = C.crc32) (hl : ∀ p ∈ ps, p.length < 2 ^ 32)
    (hn : n + ps.length ≤ 2 ^ 64) :
    scan (nextRecord D) (framesOf C n ps) = readAs D n ps := by
  induction ps generalizing n with
  | nil => exact scan_of_none nextRecord_nil
  | cons p ps ih =>
    rw [length_cons] at hn
    have hf : framesOf C n (p :: ps) = frame (rawCodec C.crc32) n p ++ framesOf C (n + 1) ps := by rfl
    have hr : nextRecord (rawCodec D.crc32) (framesOf C n (p :: ps)) = some (.ok (n, p),
      framesOf C (n + 1) ps) := by
      rw [hf, hc]; exact nextRecord_frame (by omega) (hl p mem_cons_self) rfl _
    cases hd : D.decode p with
    | none =>
      rw [scan_of_some nextRecord_progress ((nextRecord_of_raw hr).2 hd), scan_of_none nextRecord_nil]
      simp only [readAs, hd]
    | some e =>
      rw [scan_of_some nextRecord_progress ((nextRecord_of_raw hr).1 e hd),
        ih (fun q hq => hl q (mem_cons_of_mem _ hq)) (by omega)]
      simp only [readAs, hd]

lemma collect_readAs (h : ps.mapM D.decode = some es) (n : Nat) :
    collectRecords (readAs D n ps) = .ok (number n es) := by
  induction ps generalizing n es with
  | nil =>
    obtain rfl : [] = es := by simpa using h
    rfl
  | cons p ps ih =>
    rw [mapM_cons] at h; obtain ⟨e, he, h⟩ := bind_eq_some_iff.mp h
    obtain ⟨es', hes, h⟩ := bind_eq_some_iff.mp h
    obtain rfl : e :: es' = es := by simpa using h
    simp only [readAs, he, collectRecords, ih hes]; rfl

lemma collect_readAs_none (h : ps.mapM D.decode = none) (n : Nat) :
    ∃ msg, collectRecords (readAs D n ps) = .error msg := by
  induction ps generalizing n with
  | nil => simp at h
  | cons p ps ih =>
    cases hd : D.decode p with
    | none => simp [readAs, hd, collectRecords]
    | some =>
      have hr : ps.mapM D.decode = none := by
        cases hps : ps.mapM D.decode with
        | none => rfl
        | some => simp [mapM_cons, hd, hps] at h
      obtain ⟨msg, hm⟩ := ih hr (n + 1); simp only [readAs, hd, collectRecords, hm]
      exact ⟨msg, rfl⟩

lemma length_of_mapM {β γ : Type} {g : β → Option γ} {bs : List β} {cs : List γ} (h : bs.mapM g = some cs) :
    cs.length = bs.length := by
  induction bs generalizing cs with
  | nil => grind
  | cons =>
    rw [mapM_cons] at h; obtain ⟨c, -, h⟩ := bind_eq_some_iff.mp h
    obtain ⟨cs', hcs, h⟩ := bind_eq_some_iff.mp h; grind

variable {f : SegFile Event}

def SegFile.Fits (f : SegFile Event) : Prop := (∀ r ∈ f.recs, r.2.length < 2 ^ 32) ∧ f.next ≤ 2 ^ 64

lemma iterRecords_bytes (hc : D.crc32 = C.crc32) (hf : f.Fits) :
    iterRecords D (f.bytes C) = .ok (readAs D f.start (f.recs.map Prod.snd)) := by
  have hl : ∀ p ∈ f.recs.map Prod.snd, p.length < 2 ^ 32 := by
    intro p hp; obtain ⟨r, hr, rfl⟩ := List.mem_map.mp hp; exact hf.1 r hr
  have hn : f.start + (f.recs.map Prod.snd).length ≤ 2 ^ 64 := by rw [length_map]; exact hf.2
  rw [SegFile.bytes, iterRecords_header, scan_framesOf hc hl hn]

lemma rawRecords_bytes (hf : f.Fits) :
    rawRecords C.crc32 (f.bytes C) = number f.start (f.recs.map Prod.snd) := by
  have hr : ∀ (ps : List Bytes) (n : Nat),
      (readAs (rawCodec C.crc32) n ps).filterMap Except.toOption = number n ps := by
    intro ps
    induction ps with
    | nil => intro n; rfl
    | cons p ps ih => intro n; exact congrArg ((n, p) :: ·) (ih (n + 1))
  have hi := iterRecords_bytes (C := C) (D := rawCodec C.crc32) rfl hf; rw [rawRecords, hi]
  exact hr _ _

lemma openFile_bytes (hc : D.crc32 = C.crc32) (hf : f.Fits) : Segment.openFile D f.start (f.bytes C) =
      (collectRecords (readAs D f.start (f.recs.map Prod.snd))).map fun records =>
        ⟨f.start, records.getLast?.map Prod.fst, (f.bytes C).length⟩ := by
  have hl : ¬ (f.bytes C).length < headerSize := by grind [headerSize_le_bytes]
  have hm : ¬ (f.bytes C).take 8 ≠ segmentMagic := by rw [not_not]; rfl
  have hv : ¬ leVal (((f.bytes C).drop 8).take 2) ≠ segmentVersion := by rw [not_not]; rfl
  rw [Segment.openFile, if_neg hl, if_neg hm, if_neg hv, iterRecords_bytes hc hf]; rfl

lemma openFile_decoded (hc : D.crc32 = C.crc32) (hf : f.Fits) {es : List α}
    (h : (f.recs.map Prod.snd).mapM D.decode = some es) :
    Segment.openFile D f.start (f.bytes C) = .ok (f.segment C) := by
  simp [length_of_mapM h, length_map, openFile_bytes hc hf, collect_readAs h, Except.map,
    getLast?_number, SegFile.segment, SegFile.next, ← length_eq_zero_iff]

lemma openFile_undecoded (hc : D.crc32 = C.crc32) (hf : f.Fits)
    (h : (f.recs.map Prod.snd).mapM D.decode = none) :
    ∃ msg, Segment.openFile D f.start (f.bytes C) = .error msg := by
  obtain ⟨msg, hm⟩ := collect_readAs_none h f.start
  exact ⟨msg, by rw [openFile_bytes hc hf, hm]; rfl⟩

end Reading

section Store

variable {Event Kek Dek : Type} {C : Codec Event} {A : Cipher Kek Dek} {s : Store Kek Dek}
  {fs : List (SegFile Event)} {torn : Option Nat} {f : SegFile Event}

def recordsFrom (fromSeq : Nat) (start : Nat) (es : List Event) : List (Nat × Event) :=
  (number start es).filter fun r => fromSeq ≤ r.1

lemma recordsFrom_of_le {fromSeq start : Nat} (h : start + es.length ≤ fromSeq) :
    recordsFrom fromSeq start es = [] := by
  rw [recordsFrom, filter_eq_nil_iff]; intro r hr; have := (mem_number hr).2.1
  grind

lemma iterSegment_file {key : Option Dek} {es : List Event}
    (hf : s.body.dir.find? (·.1 = f.start) = some (f.start, f.bytes C)) (hfi : f.Fits)
    (hl : f.recs ≠ [] → loadCipher A s.kek (s.sidecar f.start) = .ok key)
    (hd : (f.recs.map Prod.snd).mapM (under C A key []).decode = some es) (fromSeq : Nat) :
    s.iterSegment C A fromSeq (f.segment C) = .ok (recordsFrom fromSeq f.start es) := by
  have hc : es.length = f.recs.length := by rw [length_of_mapM hd, length_map]
  by_cases hr : f.recs = []
  · have hn : es = [] := length_eq_zero_iff.mp (by rw [hc, hr]; rfl)
    rw [hn, Store.iterSegment, if_pos (by simp [SegFile.segment, hr])]; rfl
  · have hm : (f.segment C).maxSeq = some (f.next - 1) := if_neg hr
    have hp : 0 < f.recs.length := length_pos_iff.mpr hr
    have hne : f.next = f.start + f.recs.length := rfl
    by_cases hsk : f.next - 1 < fromSeq
    · grind [Store.iterSegment, recordsFrom_of_le]
    · have hs : (f.segment C).start = f.start := rfl
      have hi := iterRecords_bytes (C := C) (D := under C A key []) rfl hfi
      rw [Store.iterSegment, if_neg (by simpa [hm] using hsk), hs, hl hr]
      simp only [bind, Except.bind, Body.iterSegment, hm, if_neg hsk, hs, hf, hi, collect_readAs hd]
      rfl

lemma iterFrom_files (hse : s.body.segments = fs.map (SegFile.segment C))
    (hfi : ∀ f ∈ fs, s.body.dir.find? (·.1 = f.start) = some (f.start, f.bytes C)) (hft : ∀ f ∈ fs, f.Fits)
    (key : SegFile Event → Option Dek) (evs : SegFile Event → List Event)
    (hl : ∀ f ∈ fs, f.recs ≠ [] → loadCipher A s.kek (s.sidecar f.start) = .ok (key f))
    (hd : ∀ f ∈ fs, (f.recs.map Prod.snd).mapM (under C A (key f) []).decode = some (evs f)) (fromSeq : Nat) :
    s.iterFrom C A fromSeq = .ok (fs.flatMap fun f => recordsFrom fromSeq f.start (evs f)) := by
  have ho : ∀ f ∈ fs, s.iterSegment C A fromSeq (f.segment C) =
      .ok (recordsFrom fromSeq f.start (evs f)) := fun f hf =>
    iterSegment_file (hfi f hf) (hft f hf) (hl f hf) (hd f hf) fromSeq
  have hp : ∀ gs : List (SegFile Event), (∀ f ∈ gs, f ∈ fs) →
      (gs.map (SegFile.segment C)).mapM (s.iterSegment C A fromSeq) =
        .ok (gs.map fun f => recordsFrom fromSeq f.start (evs f)) := by
    intro gs
    induction gs with
    | nil => intro _; rfl
    | cons g gs ih =>
      intro hs
      rw [map_cons, mapM_cons, ho g (hs g mem_cons_self), ih fun f hf => hs f (mem_cons_of_mem _ hf)]
      rfl
  rw [Store.iterFrom, hse, hp fs fun f hf => hf, flatMap_def]; rfl

lemma under_roundTrip (hrt : ∀ e b, C.encode e = some b → C.decode b = some e) {key : Option Dek}
    {nonce b : Bytes} (h : (under C A key nonce).encode e = some b) :
    (under C A key []).decode b = some e := by
  cases key with
  | none => exact hrt e b h
  | some =>
    obtain ⟨p, hp, hs⟩ := bind_eq_some_iff.mp h
    exact bind_eq_some_iff.mpr ⟨p, A.open_seal _ _ _ _ hs, hrt e p hp⟩

structure Inv (C : Codec Event) (A : Cipher Kek Dek) (s : Store Kek Dek)
    (fs : List (SegFile Event)) (torn : Option Nat) : Prop where
  shape : Shape C s.body fs torn
  bound : s.body.nextSeq < 2 ^ 64
  plain : s.kek = none → (∀ n, s.sidecar n = none) ∧ ∀ n, s.encryptor n = none
  loads : ∀ f ∈ fs, (f.recs = [] ∧ s.body.needNew) ∨
    loadCipher A s.kek (s.sidecar f.start) = .ok (s.encryptor f.start)
  reads : ∀ f ∈ fs, ∀ r ∈ f.recs, r.2.length < 2 ^ 32 ∧
    (under C A (s.encryptor f.start) []).decode r.2 = some r.1

lemma Inv.fits (h : Inv C A s fs torn) (hf : f ∈ fs) : f.Fits := by
  obtain ⟨m, hru⟩ := h.shape.runs; have hle := (hru.mem hf).2; have hb := h.bound
  exact ⟨fun r hr => (h.reads f hf r hr).1, by omega⟩

lemma Inv.fresh (h : Fresh s) : Inv C A s [] none := by
  obtain ⟨segmentBytes, kek, rfl⟩ := h
  refine ⟨⟨rfl, rfl, ⟨0, rfl⟩, ?_, ?_⟩, by simp, fun _ => ⟨fun _ => rfl, fun _ => rfl⟩, ?_, ?_⟩
  · simp
  · rintro _ ⟨⟩
  · simp
  simp

lemma writeSidecar_of_ne (hn : n ≠ s.body.nextSeq) :
    s.writeSidecar A r n = s.sidecar n := by
  cases hk : s.kek with
  | none => simp only [Store.writeSidecar, hk]
  | some => simp only [Store.writeSidecar, hk, update_of_ne hn]

lemma writeSidecar_none (h : s.kek = none) : s.writeSidecar A r = s.sidecar := by
  simp only [Store.writeSidecar, h]

lemma loadCipher_writeSidecar (h : s.kek = none → ∀ n, s.sidecar n = none) :
    loadCipher A s.kek (s.writeSidecar A r s.body.nextSeq) = .ok (s.kek.map fun _ => r.dek) := by
  cases hk : s.kek with
  | none => rw [writeSidecar_none hk, h hk]; rfl
  | some => simp [Store.writeSidecar, hk, loadCipher, A.unwrap_wrap]

lemma Inv.keys (h : Inv C A s fs torn) (hok : s.body.rollover.isOk = true)
    (hr : s.body.needNew → ∀ g ∈ fs, g.recs ≠ []) :
    (∀ g ∈ rolled s.body fs, loadCipher A s.kek ((s.append C A r e).1.sidecar g.start) =
      .ok ((s.append C A r e).1.encryptor g.start)) ∧
    (∀ g ∈ fs, (s.append C A r e).1.encryptor g.start = s.encryptor g.start) ∧
    ∀ pre f, rolled s.body fs = pre ++ [f] → (s.append C A r e).1.encryptor f.start = s.keyFor r := by
  by_cases hn : s.body.needNew
  · have hne : ∀ g ∈ fs, g.start ≠ s.body.nextSeq :=
      fun g hg => Nat.ne_of_lt (h.shape.start_lt hg (hr hn g hg))
    have hold : ∀ g ∈ fs, loadCipher A s.kek (s.sidecar g.start) = .ok (s.encryptor g.start) :=
      fun g hg => (h.loads g hg).resolve_left fun hl => hr hn g hg hl.1
    simp only [Store.append, rolled, hn, hok, and_self, if_true]
    refine ⟨fun g hg => ?_, fun g hg => update_of_ne (hne g hg) _ _, fun pre f hpf => ?_⟩
    · rcases mem_append.mp hg with hg | hg
      · rw [writeSidecar_of_ne (hne g hg), update_of_ne (hne g hg)]
        exact hold g hg
      · obtain rfl := mem_singleton.mp hg; rw [update_self]
        exact loadCipher_writeSidecar fun hk => (h.plain hk).1
    · obtain ⟨-, hf⟩ := append_inj' hpf rfl; grind [update_self, Store.keyFor]
  · simp only [Store.append, rolled, hn, false_and, if_false]
    refine ⟨fun g hg => (h.loads g hg).resolve_left fun hl => hn hl.2, fun g hg => trivial, ?_⟩
    rintro pre f rfl; rw [Store.keyFor, if_neg hn, h.shape.segments]; simp [SegFile.segment]

lemma Inv.plain_append (h : Inv C A s fs torn) (r : Random Dek) (e : Event) (hk : s.kek = none) :
    (∀ n, (s.append C A r e).1.sidecar n = none) ∧ ∀ n, (s.append C A r e).1.encryptor n = none := by
  obtain ⟨hs, he⟩ := h.plain hk; refine ⟨fun n => ?_, fun n => ?_⟩
  · simp [Store.append, writeSidecar_none hk, hs]
  · simp only [Store.append, hk, map_none]; grind

lemma Inv.loads_writeSidecar (h : Inv C A s fs torn) (r : Random Dek) (hf : f ∈ fs) (hr : f.recs ≠ []) :
    loadCipher A s.kek (s.writeSidecar A r f.start) = .ok (s.encryptor f.start) := by
  rw [writeSidecar_of_ne (Nat.ne_of_lt (h.shape.start_lt hf hr))]
  exact (h.loads f hf).resolve_left fun hl => hr hl.1

lemma Inv.append_cases (hrt : ∀ e b, C.encode e = some b → C.decode b = some e) (h : Inv C A s fs torn)
    (hb : s.body.nextSeq + 1 < 2 ^ 64) (r : Random Dek) (e : Event) :
    (s.body.rollover.isOk = false ∧ (∃ msg, (s.append C A r e).2 = .error msg) ∧
      Inv C A (s.append C A r e).1 fs torn) ∨
    ∃ pre f, rolled s.body fs = pre ++ [f] ∧
      ((Body.fits (under C A (s.keyFor r) r.nonce) e = false ∧ (∃ msg, (s.append C A r e).2 = .error msg) ∧
          Inv C A (s.append C A r e).1 (pre ++ [f]) none) ∨
        ∃ p, (s.append C A r e).2 = .ok s.body.nextSeq ∧
        (s.append C A r e).1.body.nextSeq = s.body.nextSeq + 1 ∧
          Inv C A (s.append C A r e).1 (pre ++ [f.push (e, p)]) none) := by
  have hp := h.plain_append r e
  rcases h.shape.append (C := C) (D := under C A (s.keyFor r) r.nonce) rfl e with
    ⟨hn, hok, msg, ha⟩ | ⟨hok, -, hre, pre, f, b', hro, hb'⟩
  · -- the name is taken: a sidecar was written, nothing else happened
    have hs : (s.append C A r e).1 = { s with sidecar := s.writeSidecar A r } := by
      simp only [Store.append, ha, hok, if_pos hn, Bool.false_eq_true, and_false, if_false]
    refine .inl ⟨hok, ⟨msg, congrArg Prod.snd ha⟩, ?_⟩; rw [hs] at hp ⊢
    refine ⟨h.shape, h.bound, hp, fun g hg => ?_, h.reads⟩; by_cases hg0 : g.recs = []
    · exact .inl ⟨hg0, hn⟩
    · exact .inr (h.loads_writeSidecar r hg hg0)
  · obtain ⟨hl, hsa, hla⟩ := h.keys (r := r) (e := e) hok hre; have hk := hla pre f hro
    have hr : ∀ g ∈ rolled s.body fs, ∀ q ∈ g.recs, q.2.length < 2 ^ 32 ∧
        (under C A ((s.append C A r e).1.encryptor g.start) []).decode q.2 = some q.1 := by
      intro g hg q hq; have hgf : g ∈ fs := by grind [rolled]
      rw [hsa g hgf]; exact h.reads g hgf q hq
    rw [hro] at hl hr; refine .inr ⟨pre, f, hro, ?_⟩
    rcases hb' with ⟨msg, hno, ha, hsh, hse⟩ | ⟨p, he, hle, ha, hsh, hse⟩
    · have hbo : (s.append C A r e).1.body = b' := congrArg Prod.fst ha
      refine .inl ⟨hno, ⟨msg, congrArg Prod.snd ha⟩, by rw [hbo]; exact hsh, ?_, hp, fun g hg =>
        .inr (hl g hg), hr⟩
      grind
    · have hbo : (s.append C A r e).1.body = b' := congrArg Prod.fst ha
      refine .inr ⟨p, congrArg Prod.snd ha, by rw [hbo, hse], by rw [hbo]; exact hsh, ?_, hp,
        fun g hg => ?_, fun g hg q hq => ?_⟩
      · grind
      · rcases mem_append.mp hg with hg | hg
        · exact .inr (hl g (mem_append_left _ hg))
        · obtain rfl := mem_singleton.mp hg; exact .inr (hl f (by simp))
      · rcases mem_append.mp hg with hg | hg
        · grind
        · obtain rfl := mem_singleton.mp hg; rcases mem_append.mp hq with hq | hq
          · exact hr f (by simp) q hq
          · obtain rfl := mem_singleton.mp hq; refine ⟨hle, ?_⟩
            have hst : (f.push (e, p)).start = f.start := rfl; rw [hst, hk]
            exact under_roundTrip hrt he

lemma Inv.append (hrt : ∀ e b, C.encode e = some b → C.decode b = some e) (h : Inv C A s fs torn)
    (hb : s.body.nextSeq + 1 < 2 ^ 64) (r : Random Dek) (e : Event) :
    ∃ fs' torn', Inv C A (s.append C A r e).1 fs' torn' := by
  rcases h.append_cases hrt hb r e with ⟨-, -, hi⟩ | ⟨pre, f, -, ⟨-, -, hi⟩ | ⟨p, -, -, hi⟩⟩
  · exact ⟨fs, torn, hi⟩
  · grind
  grind

lemma Inv.appendTorn (h : Inv C A s fs torn) (hn : n < headerSize) (hs : s.appendTorn A r n = some s') :
    Inv C A s' fs (some n) := by
  unfold Store.appendTorn at hs; split_ifs at hs with hne
  obtain ⟨dir, hc, rfl⟩ := map_eq_some_iff.mp hs
  have hsh := h.shape.leaveTorn hne hn hc
  refine ⟨hsh, h.bound, fun hk => ⟨?_, (h.plain hk).2⟩, fun g hg => ?_, h.reads⟩
  · intro m; have hsi := writeSidecar_none (A := A) (r := r) (s := s) hk
    exact (congrFun hsi m).trans ((h.plain hk).1 m)
  · exact .inr (h.loads_writeSidecar r hg ((hsh.stuck n rfl).2.2 g hg))

lemma Inv.gcUpTo (h : Inv C A s fs torn) (minAckSeq : Nat) (elapsed : Nat → Bool) :
    ∃ pre post, fs = pre ++ post ∧ (fs ≠ [] → post ≠ []) ∧ Inv C A (s.gcUpTo minAckSeq elapsed) post torn ∧
      ∀ f ∈ pre, (f.segment C).maxSeq.any (· < minAckSeq) = true ∧ elapsed f.start = true := by
  obtain ⟨pre, post, rfl, hne, hs, hn, hgo⟩ := h.shape.gcUpTo minAckSeq elapsed
  refine ⟨pre, post, rfl, hne, ⟨hs, h.bound, h.plain, fun g hg => ?_, fun g hg =>
    h.reads g (mem_append_right _ hg)⟩, hgo⟩
  exact (h.loads g (mem_append_right _ hg)).imp_left fun hl => ⟨hl.1, hn.mpr hl.2⟩

lemma Inv.reachable (hrt : ∀ e b, C.encode e = some b → C.decode b = some e) (h : (machine C A).Reachable s) :
    ∃ fs torn, Inv C A s fs torn := by
  refine LTS.Inductive.reachable (I := fun s => ∃ fs torn, Inv C A s fs torn)
    ⟨fun s hs => ⟨[], none, .fresh hs⟩, ?_⟩ h
  rintro s l s' ⟨fs, torn, hi⟩ hst
  cases l with
  | append r e =>
    simp only [machine, LTS.ofFn, step, ite_none_right_eq_some, Option.some.injEq] at hst
    obtain ⟨hb, rfl⟩ := hst; exact hi.append hrt hb r e
  | appendTorn r n =>
    simp only [machine, LTS.ofFn, step, ite_none_right_eq_some] at hst
    exact ⟨fs, some n, hi.appendTorn hst.1 hst.2⟩
  | gc minAckSeq elapsed =>
    simp only [machine, LTS.ofFn, step, Option.some.injEq] at hst
    obtain ⟨-, post, -, -, hp, -⟩ := hi.gcUpTo minAckSeq elapsed; grind

lemma Shape.find (h : Shape C b fs torn) (hf : f ∈ fs) :
    b.dir.find? (·.1 = f.start) = some (f.start, f.bytes C) := by
  have hm : (f.start, f.bytes C) ∈ b.dir := by grind [h.dir]
  exact find?_of_ascending h.ascending hm fun _ => rfl

lemma mapM_of_forall {β γ : Type} {g : β → Option γ} {rs : List (γ × β)} (h : ∀ r ∈ rs, g r.2 = some r.1) :
    (rs.map Prod.snd).mapM g = some (rs.map Prod.fst) := by
  induction rs with
  | nil => rfl
  | cons => grind

lemma forall_of_mapM {β γ : Type} {g : β → Option γ} {rs : List (γ × β)}
    (h : (rs.map Prod.snd).mapM g = some (rs.map Prod.fst)) : ∀ r ∈ rs, g r.2 = some r.1 := by
  induction rs with
  | nil => exact fun r hr => absurd hr not_mem_nil
  | cons =>
    rw [map_cons, mapM_cons] at h
    obtain ⟨c, hc, h⟩ := bind_eq_some_iff.mp h
    obtain ⟨cs, hcs, h⟩ := bind_eq_some_iff.mp h; grind

lemma Inv.iterSegment (h : Inv C A s fs torn) (hf : f ∈ fs) (fromSeq : Nat) :
    s.iterSegment C A fromSeq (f.segment C) = .ok (recordsFrom fromSeq f.start (f.recs.map Prod.fst)) :=
  iterSegment_file (h.shape.find hf) (h.fits hf) (fun hr => (h.loads f hf).resolve_left fun hl => hr hl.1)
    (mapM_of_forall fun r hr => (h.reads f hf r hr).2) fromSeq

lemma Inv.iterFrom (h : Inv C A s fs torn) (fromSeq : Nat) : s.iterFrom C A fromSeq =
      .ok (fs.flatMap fun f => recordsFrom fromSeq f.start (f.recs.map Prod.fst)) :=
  iterFrom_files h.shape.segments (fun _ hf => h.shape.find hf) (fun _ hf => h.fits hf)
    (fun f => s.encryptor f.start) (fun f => f.recs.map Prod.fst)
    (fun f hf hr => (h.loads f hf).resolve_left fun hl => hr hl.1)
    (fun f hf => mapM_of_forall fun r hr => (h.reads f hf r hr).2) fromSeq

end Store

end Aeon.L2.AtRest
