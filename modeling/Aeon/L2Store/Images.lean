import Mathlib.Algebra.GroupWithZero.Nat
import Mathlib.Data.List.TakeWhile
import Aeon.L2Store.Body

/-!
# Segment images of the L2 body store

Files of `L2BodyStore` as images (`Img`): the records the iterator reaches, a torn record, and those
behind it.

* `appends_log`: `append` on the files is `Log.append` on the images;
* `openDir_image`, `iterFrom_image`: what `open` and `iter_from` read.
-/
namespace Aeon.L2.Body

open List Aeon.Core

section Run

variable {Event : Type} (C : Codec Event)

def appends (s : Store) : List Event → Store × List (Except String Nat)
  | [] => (s, [])
  | e :: es =>
    let (s₁, r) := s.append C e
    let (s₂, rs) := appends s₁ es
    (s₂, r :: rs)

def acked : List Event → List (Except String Nat) → List (Nat × Event)
  | e :: es, .ok n :: rs => (n, e) :: acked es rs
  | _ :: es, .error _ :: rs => acked es rs
  | _, _ => []

def payload (e : Event) : Bytes := (C.encode e).getD []

def recordSize (r : Nat × Event) : Nat := recordHeaderSize + (payload C r.2).length

def fits (e : Event) : Bool :=
  match C.encode e with
  | none => false
  | some b => decide (b.length < 2 ^ 32)

structure Img (Event : Type) where
  seen : List Event
  torn : Bytes
  hidden : List Event

namespace Img

def empty : Img Event := ⟨[], [], []⟩

def events (i : Img Event) : List Event := i.seen ++ i.hidden

def push (i : Img Event) (e : Event) : Img Event :=
  if i.torn = [] then { i with seen := i.seen ++ [e] } else { i with hidden := i.hidden ++ [e] }

end Img

structure Img.Ok (i : Img Event) : Prop where
  stops : nextRecord C i.torn = none
  hidden : i.torn = [] → i.hidden = []
  seen : ∀ e ∈ i.seen, fits C e = true

def number (n : Nat) : List Event → List (Nat × Event)
  | [] => []
  | e :: es => (n, e) :: number (n + 1) es

def frames (n : Nat) (es : List Event) : Bytes := (number n es).flatMap fun r => frame C r.1 (payload C r.2)

def Img.bytes (n : Nat) (i : Img Event) : Bytes :=
  header ++ frames C n i.seen ++ i.torn ++ frames C (n + i.seen.length) i.hidden

def Img.byteLen (n : Nat) (i : Img Event) : Nat := (i.bytes C n).length

def Img.segment (n : Nat) (i : Img Event) : Segment :=
  ⟨n, if i.events = [] then none else some (n + i.events.length - 1), i.byteLen C n⟩

def total (is : List (Img Event)) : Nat := (is.map fun i => i.events.length).sum

def filesFrom (n : Nat) : List (Img Event) → Dir
  | [] => []
  | i :: is => (n, i.bytes C n) :: filesFrom (n + i.events.length) is

def segsFrom (n : Nat) : List (Img Event) → List Segment
  | [] => []
  | i :: is => i.segment C n :: segsFrom (n + i.events.length) is

def image (segmentBytes : Nat) (is : List (Img Event)) : Store :=
  ⟨segmentBytes, filesFrom C 0 is, segsFrom C 0 is, total is⟩

end Run

/-! ### Numbering -/

section Lemmas

variable {Event : Type} {C : Codec Event}

@[simp] lemma length_number (n : Nat) (es : List Event) : (number n es).length = es.length := by
  induction es generalizing n with
  | nil => rfl
  | cons e es ih => rw [number, length_cons, ih, length_cons]

lemma number_append (n : Nat) (es fs : List Event) :
    number n (es ++ fs) = number n es ++ number (n + es.length) fs := by
  induction es generalizing n with
  | nil => rfl
  | cons e es ih =>
    rw [cons_append, number, number, ih, cons_append, length_cons]
    congr 3; omega

lemma mem_number (h : r ∈ number n es) : n ≤ r.1 ∧ r.1 < n + es.length ∧ r.2 ∈ es := by
  induction es generalizing n with
  | nil => cases h
  | cons =>
    rcases mem_cons.mp h with rfl | h
    · simp
    grind

lemma getLast?_number (n : Nat) (es : List Event) : ((number n es).getLast?).map Prod.fst =
      if es = [] then none else some (n + es.length - 1) := by
  rcases eq_nil_or_concat es with rfl | ⟨es, e, rfl⟩
  · rfl
  · rw [concat_eq_append, number_append]; simp [number]

lemma frames_append (n : Nat) (es fs : List Event) :
    frames C n (es ++ fs) = frames C n es ++ frames C (n + es.length) fs := by
  rw [frames, number_append, flatMap_append]; rfl

@[simp] lemma frames_nil (n : Nat) : frames C n [] = [] := rfl

lemma frames_singleton (n : Nat) (e : Event) : frames C n [e] = frame C n (payload C e) := by
  simp [frames, number]

lemma total_append (is js : List (Img Event)) : total (is ++ js) = total is + total js := by simp [total]

lemma total_singleton (i : Img Event) : total [i] = i.events.length := by simp [total]

lemma filesFrom_append (n : Nat) (is js : List (Img Event)) :
    filesFrom C n (is ++ js) = filesFrom C n is ++ filesFrom C (n + total is) js := by
  induction is generalizing n with
  | nil => rfl
  | cons i is ih =>
    rw [cons_append, filesFrom, filesFrom, ih, cons_append]; congr 3
    simp [total]; omega

lemma segsFrom_append (n : Nat) (is js : List (Img Event)) :
    segsFrom C n (is ++ js) = segsFrom C n is ++ segsFrom C (n + total is) js := by
  induction is generalizing n with
  | nil => rfl
  | cons i is ih =>
    rw [cons_append, segsFrom, segsFrom, ih, cons_append]; congr 3
    simp [total]; omega

/-! ### What `append` does to images -/

def Closed (is : List (Img Event)) : Prop := ∀ i ∈ is, i.events ≠ []

lemma closed_nil : Closed ([] : List (Img Event)) := by intro i hi; cases hi

lemma Closed.concat (h : Closed is) (hi : i.events ≠ []) : Closed (is ++ [i]) := by
  intro j hj; rcases mem_append.mp hj with hj | hj
  · exact h j hj
  grind

lemma mem_filesFrom (h : Closed is) (hf : f ∈ filesFrom C n is) : n ≤ f.1 ∧ f.1 < n + total is := by
  induction is generalizing n with
  | nil => cases hf
  | cons i is ih =>
    have hp : 0 < i.events.length := length_pos_iff.mpr (h i mem_cons_self)
    have ht : total (i :: is) = i.events.length + total is := by simp [total]
    rcases mem_cons.mp hf with rfl | hf
    · omega
    · obtain ⟨h₁, h₂⟩ := ih (fun j hj => h j (mem_cons_of_mem _ hj)) hf; omega

lemma getLast?_segsFrom (is : List (Img Event)) (i : Img Event) :
    (segsFrom C 0 (is ++ [i])).getLast? = some (i.segment C (total is)) := by simp [segsFrom_append, segsFrom]

@[simp] lemma events_empty : (Img.empty : Img Event).events = [] := rfl

lemma bytes_empty (n : Nat) : (Img.empty : Img Event).bytes C n = header := by simp [Img.bytes, Img.empty]

lemma byteLen_empty (n : Nat) : (Img.empty : Img Event).byteLen C n = headerSize := by rfl

lemma headerSize_le_byteLen (n : Nat) (i : Img Event) : headerSize ≤ i.byteLen C n := by
  simp only [Img.byteLen, Img.bytes, length_append, length_header]; omega

variable {T : Nat} {closed : List (Img Event)} {active : Img Event}

lemma needNew_image : (image C T (closed ++ [active])).needNew ↔
    effectiveSegmentBytes T ≤ active.byteLen C (total closed) := by
  simp [Store.needNew, image, getLast?_segsFrom, Img.segment]

lemma rollover_full (hc : Closed closed) (ha : active.events ≠ [])
    (hT : effectiveSegmentBytes T ≤ active.byteLen C (total closed)) :
    (image C T (closed ++ [active])).rollover = .ok (image C T (closed ++ [active] ++ [Img.empty])) := by
  have hn : ∀ f ∈ filesFrom C 0 (closed ++ [active]), f.1 < total (closed ++ [active]) := by
    intro f hf; have h := (mem_filesFrom (hc.concat ha) hf).2; omega
  have hno : total (closed ++ [active]) ∉ (filesFrom C 0 (closed ++ [active])).map Prod.fst := by grind
  have hcr : (filesFrom C 0 (closed ++ [active])).create (total (closed ++ [active])) header =
      some (filesFrom C 0 (closed ++ [active] ++ [Img.empty])) := by
    rw [Dir.create, if_neg hno, takeWhile_eq_self_iff.mpr (by simpa using hn),
      dropWhile_eq_nil_iff.mpr (by simpa using hn), filesFrom_append _ (closed ++ [active]),
      Nat.zero_add, filesFrom, filesFrom, bytes_empty]
  rw [Store.rollover, if_pos (needNew_image.mpr hT)]; simp only [image, hcr]
  rw [segsFrom_append _ (closed ++ [active]), Nat.zero_add, segsFrom, segsFrom, Img.segment,
    byteLen_empty, total_append _ [Img.empty], total_singleton]
  rfl

lemma rollover_room (hT : active.byteLen C (total closed) < effectiveSegmentBytes T) :
    (image C T (closed ++ [active])).rollover = .ok (image C T (closed ++ [active])) := by
  rw [Store.rollover, if_neg (mt needNew_image.mp (by omega))]

lemma rollover_taken (ha : active.events = [])
    (hT : effectiveSegmentBytes T ≤ active.byteLen C (total closed)) :
    ∃ msg, (image C T (closed ++ [active])).rollover = .error msg := by
  have hto : total (closed ++ [active]) = total closed := by rw [total_append, total_singleton, ha]; rfl
  have ht : total (closed ++ [active]) ∈ (filesFrom C 0 (closed ++ [active])).map Prod.fst := by
    rw [hto, filesFrom_append, Nat.zero_add]; simp [filesFrom]
  have hc : (filesFrom C 0 (closed ++ [active])).create (total (closed ++ [active])) header =
      none := if_pos ht
  rw [Store.rollover, if_pos (needNew_image.mpr hT)]; simp only [image, hc]; exact ⟨_, rfl⟩

lemma payload_of_fits (h : fits C e = true) :
    C.encode e = some (payload C e) ∧ (payload C e).length < 2 ^ 32 := by
  rw [fits] at h; split at h
  · cases h
  · simp_all [payload]

variable {e : Event}

lemma segment_append_refuses {s : Segment} {seq : Nat} (h : fits C e = false) :
    ∃ msg, s.append C seq e = .error msg := by
  rw [Segment.append]; split
  · exact ⟨_, rfl⟩
  · rw [fits] at h; split
    · exact ⟨_, rfl⟩
    · simp_all

lemma events_push {i : Img Event} (hi : i.Ok C) (e : Event) : (i.push e).events = i.events ++ [e] := by
  grind [Img.push, Img.events, hi.hidden]

lemma bytes_push {i : Img Event} (hi : i.Ok C) (n : Nat) (e : Event) :
    (i.push e).bytes C n = i.bytes C n ++ frame C (n + i.events.length) (payload C e) := by
  rw [Img.push]; split_ifs with ht
  · simp [Img.bytes, Img.events, hi.hidden ht, ht, frames_append, frames_singleton]
  · simp [Img.bytes, Img.events, frames_append, frames_singleton, Nat.add_assoc]

lemma segment_append_image {i : Img Event} (hi : i.Ok C) (n : Nat) (h : fits C e = true) :
    (i.segment C n).append C (n + i.events.length) e =
      .ok ((i.push e).segment C n, frame C (n + i.events.length) (payload C e)) := by
  obtain ⟨he, hl⟩ := payload_of_fits h
  have hm : ((i.segment C n).maxSeq).filter (n + i.events.length ≤ ·) = none := by
    rw [Img.segment]; split_ifs with hev
    · rfl
    · have hp := length_pos_iff.mpr hev; grind
  rw [Segment.append, hm]; simp only [he]; rw [if_neg (by omega)]
  simp only [Img.segment, events_push hi, Img.byteLen, bytes_push hi, length_append,
    length_frame, append_eq_nil_iff, cons_ne_nil, and_false, if_false]
  rfl

lemma write_image (hc : Closed closed) (b : Bytes) : (filesFrom C 0 (closed ++ [active])).write
    (total closed) b =
      filesFrom C 0 closed ++ [(total closed, active.bytes C (total closed) ++ b)] := by
  rw [filesFrom_append, Nat.zero_add, Dir.write, map_append]; congr 1
  · refine (map_congr_left fun f hf => ?_).trans (List.map_id _)
    have hlt := (mem_filesFrom hc hf).2; rw [if_neg (by omega)]; rfl
  · simp [filesFrom]

lemma append_fits {s : Store} (hr : s.rollover = .ok (image C T (closed ++ [active]))) (hc : Closed closed)
    (hi : active.Ok C) (h : fits C e = true) :
    s.append C e = (image C T (closed ++ [active.push e]), .ok (total (closed ++ [active]))) := by
  have ht : total (closed ++ [active]) = total closed + active.events.length := by
    rw [total_append, total_singleton]
  rw [Store.append, hr]
  simp only [image, getLast?_segsFrom, ht, segment_append_image hi _ h]
  rw [segsFrom_append, segsFrom, segsFrom, dropLast_concat]
  have hw : (filesFrom C 0 (closed ++ [active])).write (active.segment C (total closed)).start
      (frame C (total closed + active.events.length) (payload C e)) =
      filesFrom C 0 (closed ++ [active.push e]) := by
    rw [Img.segment, write_image hc, ← bytes_push hi, filesFrom_append, Nat.zero_add]; rfl
  rw [hw, segsFrom_append, segsFrom, segsFrom, Nat.zero_add, total_append, total_singleton,
    events_push hi, length_append]
  rfl

lemma append_refused {s : Store} (hr : s.rollover = .ok (image C T (closed ++ [active])))
    (h : fits C e = false) :
    ∃ msg, s.append C e = (image C T (closed ++ [active]), .error msg) := by
  obtain ⟨msg, hm⟩ : ∃ msg, (active.segment C (total closed)).append C
      (total (closed ++ [active])) e = .error msg := segment_append_refuses h
  simp [Store.append, hr, image, getLast?_segsFrom, hm]

/-! ### The log of images

`Log` is the abstract store: closed segments and the active one. `Log.append` is
what `L2BodyStore::append` does to it (`append_log`). -/

end Lemmas

structure Log (Event : Type) where
  closed : List (Img Event)
  active : Img Event

namespace Log

variable {Event : Type} (C : Codec Event) (T : Nat)

def imgs (l : Log Event) : List (Img Event) := l.closed ++ [l.active]

def size (l : Log Event) : Nat := l.active.byteLen C (total l.closed)

def Full (l : Log Event) : Prop := effectiveSegmentBytes T ≤ l.size C
  deriving Decidable

def Live (l : Log Event) : Prop := l.active.events ≠ [] ∨ ¬ l.Full C T

def roll (l : Log Event) : Log Event :=
  if l.Full C T then ⟨l.closed ++ [l.active], Img.empty⟩ else l

def append (l : Log Event) (e : Event) : Log Event × Bool :=
  if l.Full C T ∧ l.active.events = [] then (l, false)
  else if fits C e then (⟨(l.roll C T).closed, (l.roll C T).active.push e⟩, true)
  else (l.roll C T, false)

def run (l : Log Event) (es : List Event) : Log Event := es.foldl (fun l e => (l.append C T e).1) l

def stored (l : Log Event) : List Event → List Event
  | [] => []
  | e :: es =>
    if (l.append C T e).2 then e :: stored (l.append C T e).1 es else stored (l.append C T e).1 es

structure Ok (l : Log Event) : Prop where
  closed : Closed l.closed
  imgs : ∀ i ∈ l.imgs, i.Ok C

end Log

section LogLemmas

variable {Event : Type} {C : Codec Event} {T : Nat} {l : Log Event} {e : Event}

lemma empty_ok : (Img.empty : Img Event).Ok C := ⟨nextRecord_nil, fun _ => rfl, fun e he => by cases he⟩

lemma Img.Ok.push {i : Img Event} (hi : i.Ok C) (he : fits C e = true) : (i.push e).Ok C := by
  rw [Img.push]; split_ifs with ht
  · refine ⟨hi.stops, hi.hidden, fun x hx => ?_⟩; rcases mem_append.mp hx with hx | hx
    · exact hi.seen x hx
    grind
  · exact ⟨hi.stops, fun h => absurd h ht, hi.seen⟩

lemma Log.Ok.active (h : l.Ok C) : l.active.Ok C := h.imgs _ (by simp [Log.imgs])

lemma Log.Ok.roll (h : l.Ok C) (hne : ¬ (l.Full C T ∧ l.active.events = [])) : (l.roll C T).Ok C := by
  rw [Log.roll]; split_ifs with hf
  · refine ⟨h.closed.concat fun hev => hne ⟨hf, hev⟩, fun i hi => ?_⟩
    rcases mem_append.mp hi with hi | hi
    · exact h.imgs i hi
    · rw [mem_singleton.mp hi]; exact empty_ok
  · exact h

lemma Log.Ok.append (h : l.Ok C) (e : Event) : (l.append C T e).1.Ok C := by
  rw [Log.append]; split_ifs with hd hf
  · exact h
  · have hr := h.roll hd; refine ⟨hr.closed, fun i hi => ?_⟩
    rcases mem_append.mp hi with hi | hi
    · exact hr.imgs i (mem_append_left _ hi)
    · rw [mem_singleton.mp hi]; exact hr.active.push hf
  · exact h.roll hd

lemma Log.Ok.run (h : l.Ok C) (es : List Event) : (l.run C T es).Ok C := by
  induction es generalizing l with
  | nil => exact h
  | cons e es ih => exact ih (h.append e)

lemma roll_image (h : l.Ok C) (hne : ¬ (l.Full C T ∧ l.active.events = [])) :
    (image C T l.imgs).rollover = .ok (image C T (l.roll C T).imgs) := by
  rw [Log.roll]; split_ifs with hf
  · exact rollover_full h.closed (fun hev => hne ⟨hf, hev⟩) hf
  · exact rollover_room (Nat.lt_of_not_le hf)

lemma total_roll : total (l.roll C T).imgs = total l.imgs := by
  rw [Log.roll]; split_ifs
  · rw [Log.imgs, total_append _ [Img.empty], total_singleton]; rfl
  · rfl

def Answers (r : Except String Nat) (n : Nat) : Bool → Prop
  | true => r = .ok n
  | false => ∃ msg, r = .error msg

lemma append_log (h : l.Ok C) (e : Event) :
    ∃ r, (image C T l.imgs).append C e = (image C T (l.append C T e).1.imgs, r) ∧
      Answers r (total l.imgs) (l.append C T e).2 := by
  by_cases hd : l.Full C T ∧ l.active.events = []
  · obtain ⟨msg, hr⟩ : ∃ msg, (image C T l.imgs).rollover = .error msg := rollover_taken hd.2 hd.1
    rw [Log.append, if_pos hd]; exact ⟨.error msg, by rw [Store.append, hr], msg, rfl⟩
  have hr := h.roll hd; by_cases hf : fits C e = true
  · rw [Log.append, if_neg hd, if_pos hf]
    refine ⟨_, append_fits (roll_image h hd) hr.closed hr.active hf, ?_⟩
    exact congrArg _ total_roll
  · obtain ⟨msg, ha⟩ := append_refused (roll_image h hd) (Bool.not_eq_true _ ▸ hf)
    rw [Log.append, if_neg hd, if_neg hf]; exact ⟨.error msg, ha, msg, rfl⟩

def allEvents (is : List (Img Event)) : List Event := is.flatMap Img.events

lemma length_allEvents (is : List (Img Event)) : (allEvents is).length = total is := by
  rw [allEvents, length_flatMap]; rfl

lemma allEvents_append (h : l.Ok C) (e : Event) : allEvents (l.append C T e).1.imgs =
      allEvents l.imgs ++ if (l.append C T e).2 then [e] else [] := by
  have hr : allEvents (l.roll C T).imgs = allEvents l.imgs := by
    rw [Log.roll]; split_ifs
    · simp [allEvents, Log.imgs, Img.events, Img.empty]
    · rfl
  by_cases hd : l.Full C T ∧ l.active.events = []
  · simp [Log.append, hd]
  · by_cases hf : fits C e = true
    · rw [Log.append, if_neg hd, if_pos hf, if_pos rfl, ← hr]
      simp [allEvents, Log.imgs, events_push (h.roll hd).active]
    · simp [Log.append, hd, hf, hr]

lemma run_nil : l.run C T [] = l := rfl

lemma run_cons (es : List Event) : l.run C T (e :: es) = ((l.append C T e).1).run C T es := rfl

lemma appends_log (h : l.Ok C) (es : List Event) :
    (appends C (image C T l.imgs) es).1 = image C T (l.run C T es).imgs ∧
    acked es (appends C (image C T l.imgs) es).2 = number (total l.imgs) (l.stored C T es) ∧
    allEvents (l.run C T es).imgs = allEvents l.imgs ++ l.stored C T es := by
  induction es generalizing l with
  | nil => exact ⟨rfl, rfl, by simp [Log.run, Log.stored]⟩
  | cons e es ih =>
    obtain ⟨r, hap, ha⟩ := append_log (T := T) h e
    have hev := allEvents_append (T := T) h e
    obtain ⟨h₁, h₂, h₃⟩ := ih (h.append (T := T) e); have ht := congrArg List.length hev
    rw [length_append, length_allEvents, length_allEvents] at ht
    refine ⟨by simpa [appends, hap, run_cons] using h₁, ?_, ?_⟩
    · simp only [appends, hap, Log.stored]
      rcases hb : (l.append C T e).2 with _ | _ <;> rw [hb] at ha ht
      · obtain ⟨msg, rfl⟩ := ha; rw [acked, h₂, ht]; rfl
      · obtain rfl := ha; rw [acked, h₂, ht]; rfl
    grind [run_cons, Log.stored]

/-! ### What `open` and `iter_from` read from the files of a log -/

def Img.Readable (C : Codec Event) (n : Nat) (i : Img Event) : Prop :=
  nextRecord C (i.torn ++ frames C (n + i.seen.length) i.hidden) = none

lemma Img.Ok.readable {i : Img Event} (hi : i.Ok C) (hh : i.hidden = []) (n : Nat) :
    i.Readable C n := by
  rw [Img.Readable, hh, frames_nil, append_nil]; exact hi.stops

def Img.reopened (C : Codec Event) (n : Nat) (i : Img Event) : Segment :=
  ⟨n, if i.seen = [] then none else some (n + i.seen.length - 1), i.byteLen C n⟩

lemma Img.reopened_eq {i : Img Event} (hh : i.hidden = []) (n : Nat) : i.reopened C n = i.segment C n := by
  simp [Img.reopened, Img.segment, Img.events, hh]

lemma collectRecords_ok (rs : List (Nat × Event)) : collectRecords (rs.map .ok) = .ok rs := by
  induction rs with
  | nil => rfl
  | cons r rs ih => rw [map_cons, collectRecords, ih]; rfl

section Read

variable (hrt : ∀ e b, C.encode e = some b → C.decode b = some e)
include hrt

lemma read_file {i : Img Event} (hi : i.Ok C) {n : Nat} (hn : n + i.seen.length ≤ 2 ^ 64)
    (hre : i.Readable C n) :
    iterRecords C (i.bytes C n) = .ok ((number n i.seen).map .ok) := by
  have hb : i.bytes C n = header ++ (frames C n i.seen ++
    (i.torn ++ frames C (n + i.seen.length) i.hidden)) := by
    simp [Img.bytes, append_assoc]
  have hs : scan (nextRecord C) (frames C n i.seen ++ (i.torn ++ frames C (n + i.seen.length) i.hidden)) =
      (number n i.seen).map .ok ++ scan (nextRecord C) (i.torn ++ frames C (n + i.seen.length) i.hidden) := by
    refine scan_frames nextRecord_progress (fun r hr rest => ?_) _
    obtain ⟨-, hlt, hm⟩ := mem_number hr; obtain ⟨he, hl⟩ := payload_of_fits (hi.seen _ hm)
    exact nextRecord_frame (by omega) hl (hrt _ _ he) rest
  rw [hb, iterRecords_header, hs, scan_of_none hre, append_nil]

lemma openFile_image {i : Img Event} (hi : i.Ok C) {n : Nat} (hn : n + i.seen.length ≤ 2 ^ 64)
    (hr : i.Readable C n) :
    Segment.openFile C n (i.bytes C n) = .ok (i.reopened C n) := by
  have hb : i.bytes C n = header ++ (frames C n i.seen ++
    (i.torn ++ frames C (n + i.seen.length) i.hidden)) := by
    simp [Img.bytes, append_assoc]
  have hl : ¬ (i.bytes C n).length < headerSize := by rw [hb]; simp
  have hm : ¬ (i.bytes C n).take 8 ≠ segmentMagic := by rw [hb, not_not]; rfl
  have hv : ¬ leVal (((i.bytes C n).drop 8).take 2) ≠ segmentVersion := by rw [hb, not_not]; rfl
  rw [Segment.openFile, if_neg hl, if_neg hm, if_neg hv, read_file hrt hi hn hr]
  simp only [Except.bind, bind, collectRecords_ok, getLast?_number]; rfl

def ReadableFrom (C : Codec Event) : Nat → List (Img Event) → Prop
  | _, [] => True
  | n, i :: is => i.Ok C ∧ i.Readable C n ∧ ReadableFrom C (n + i.events.length) is

def reopenedFrom (C : Codec Event) : Nat → List (Img Event) → List Segment
  | _, [] => []
  | n, i :: is => i.reopened C n :: reopenedFrom C (n + i.events.length) is

def seenFrom : Nat → List (Img Event) → List (Nat × Event)
  | _, [] => []
  | n, i :: is => number n i.seen ++ seenFrom (n + i.events.length) is

lemma openFiles_image (hr : ReadableFrom C n is) (hn : n + total is ≤ 2 ^ 64) :
    ∃ m, openFiles C (filesFrom C n is) = .ok (reopenedFrom C n is, m) ∧
      ((∀ i ∈ is, i.hidden = []) → m = if total is = 0 then 0 else n + total is) := by
  induction is generalizing n with
  | nil => exact ⟨0, rfl, fun _ => rfl⟩
  | cons i is ih =>
    have ht : total (i :: is) = i.events.length + total is := by simp [total]
    have hev : i.events.length = i.seen.length + i.hidden.length := by simp [Img.events]
    obtain ⟨m, hm, hv⟩ := ih hr.2.2 (by omega)
    have ho := openFile_image hrt hr.1 (show n + i.seen.length ≤ 2 ^ 64 by omega) hr.2.1
    refine ⟨_, by rw [filesFrom, openFiles, ho]; simp only [Except.bind, bind, hm]; rfl, ?_⟩
    intro hh; have hm := hv fun j hj => hh j (mem_cons_of_mem _ hj)
    have hi : i.hidden.length = 0 := by rw [hh i mem_cons_self]; rfl
    rw [hm, ht, Img.reopened]; by_cases hs : i.seen = []
    · grind
    · have hp := length_pos_iff.mpr hs; grind

lemma openDir_image {is : List (Img Event)} (hok : ∀ i ∈ is, i.Ok C) (hh : ∀ i ∈ is, i.hidden = [])
    (hn : total is ≤ 2 ^ 64) :
    Store.openDir C T (filesFrom C 0 is) = .ok (image C T is) := by
  have hr : ∀ (js : List (Img Event)) (n : Nat), (∀ i ∈ js, i ∈ is) → ReadableFrom C n js := by
    intro js
    induction js with
    | nil => intro n _; trivial
    | cons j js ih =>
      intro n hs; have hj := hs j mem_cons_self
      exact ⟨hok j hj, (hok j hj).readable (hh j hj) n, ih _ fun i hi => hs i (mem_cons_of_mem _ hi)⟩
  have hse : ∀ (js : List (Img Event)) (n : Nat), (∀ i ∈ js, i ∈ is) →
    reopenedFrom C n js = segsFrom C n js := by
    intro js
    induction js with
    | nil => intro n _; rfl
    | cons j js ih =>
      intro n hs
      rw [reopenedFrom, segsFrom, Img.reopened_eq (hh j (hs j mem_cons_self)),
        ih _ fun i hi => hs i (mem_cons_of_mem _ hi)]
  obtain ⟨m, hm, hv⟩ := openFiles_image hrt (hr is 0 fun i hi => hi) (by omega)
  have hmt : m = total is := by grind
  rw [Store.openDir, hm, hmt, hse is 0 fun i hi => hi]; rfl

omit hrt in
lemma closed_of_append {closed pre is : List (Img Event)} {active i : Img Event} (hc : Closed closed)
    (heq : closed ++ [active] = pre ++ i :: is) : Closed pre := by
  have h := congrArg List.dropLast heq
  rw [dropLast_concat, dropLast_append_of_ne_nil (by simp)] at h; intro j hj
  exact hc j (h ▸ mem_append_left _ hj)

lemma iterSegment_image {pre is all : List (Img Event)} {i : Img Event} (hp : Closed pre)
    (heq : all = pre ++ i :: is) (hi : i.Ok C) (hn : total pre + i.seen.length ≤ 2 ^ 64)
    (hr : i.Readable C (total pre)) :
    iterSegment C (filesFrom C 0 all) 0 (i.reopened C (total pre)) = .ok (number (total pre) i.seen) := by
  have hfi : (filesFrom C 0 all).find? (·.1 = total pre) = some (total pre, i.bytes C (total pre)) := by
    rw [heq, filesFrom_append, Nat.zero_add, find?_append]
    have hno : (filesFrom C 0 pre).find? (·.1 = total pre) = none := by
      rw [find?_eq_none]; intro f hf; have hlt := (mem_filesFrom hp hf).2
      grind
    rw [hno]; simp [filesFrom]
  rw [iterSegment]; by_cases hs : i.seen = []
  · simp [Img.reopened, hs, number]
  · simp only [Img.reopened, if_neg hs, Nat.not_lt_zero, if_false, hfi, read_file hrt hi hn hr,
      collectRecords_ok, bind, Except.bind]
    simp

lemma iterFrom_image {closed : List (Img Event)} {active : Img Event} (hc : Closed closed)
    (hr : ReadableFrom C 0 (closed ++ [active])) (hn : total (closed ++ [active]) ≤ 2 ^ 64)
    (hs : Store.openDir C T (filesFrom C 0 (closed ++ [active])) = .ok s) :
    s.iterFrom C 0 = .ok (seenFrom 0 (closed ++ [active])) := by
  obtain ⟨m, hm, -⟩ := openFiles_image hrt hr (by omega); rw [Store.openDir, hm] at hs
  cases hs
  have hp : ∀ (is pre : List (Img Event)), closed ++ [active] = pre ++ is →
      ReadableFrom C (total pre) is → ∃ parts, (reopenedFrom C (total pre) is).mapM
        (iterSegment C (filesFrom C 0 (closed ++ [active])) 0) = .ok parts ∧
        parts.flatten = seenFrom (total pre) is := by
    intro is
    induction is with
    | nil => intro pre _ _; exact ⟨[], rfl, rfl⟩
    | cons i is ih =>
      intro pre heq hre
      have ht : total (pre ++ [i]) = total pre + i.events.length := by rw [total_append, total_singleton]
      have hb : total pre + i.seen.length ≤ 2 ^ 64 := by grind [total, Img.events, length_append]
      obtain ⟨parts, hp, hf⟩ := ih (pre ++ [i]) (by simp [heq]) (by rw [ht]; exact hre.2.2)
      rw [ht] at hp hf
      refine ⟨number (total pre) i.seen :: parts, ?_, by rw [flatten_cons, hf]; rfl⟩
      rw [reopenedFrom, mapM_cons, hp, iterSegment_image hrt (closed_of_append hc heq) heq hre.1 hb hre.2.1]
      rfl
  obtain ⟨parts, hma, hf⟩ := hp (closed ++ [active]) [] rfl hr
  have hz : total ([] : List (Img Event)) = 0 := rfl; rw [hz] at hma hf
  simp only [Store.iterFrom, hma, bind, Except.bind, hf]

end Read

lemma readableFrom_of_no_hidden {is : List (Img Event)} (hok : ∀ i ∈ is, i.Ok C)
    (hh : ∀ i ∈ is, i.hidden = []) (n : Nat) : ReadableFrom C n is := by
  induction is generalizing n with
  | nil => trivial
  | cons i is ih =>
    exact ⟨hok i mem_cons_self, (hok i mem_cons_self).readable (hh i mem_cons_self) n,
      ih (fun j hj => hok j (mem_cons_of_mem _ hj)) (fun j hj => hh j (mem_cons_of_mem _ hj)) _⟩

lemma readableFrom_append (h : ReadableFrom C n is) (h' : ReadableFrom C (n + total is) js) :
    ReadableFrom C n (is ++ js) := by
  induction is generalizing n with
  | nil => exact h'
  | cons i is ih => refine ⟨h.1, h.2.1, ih h.2.2 ?_⟩; simp_all [total, Nat.add_assoc]

end LogLemmas

end Aeon.L2.Body
