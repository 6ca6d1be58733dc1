import Aeon.L2Store.Images

/-!
# Crash recovery of the L2 body store

`L2BodyStore` (`crates/aeon-engine/src/l2_body.rs`): appends, a crash that cuts the active segment,
`open`, more appends, `open`, `iter_from(0)`. `open` does not remove a torn record.

* `crash_recovery_iff`: exactly when the store recovers, with no state in which every later append
  fails;
* `crash_recovery_loses_append`: an append acknowledged after a torn write is lost.
-/
namespace Aeon.L2.Body

open List Aeon.Core

section Run

variable {Event : Type} (C : Codec Event)

def cut (d : Dir) (c : Nat) : Option Dir :=
  match d.getLast? with
  | none => none
  | some (start, file) =>
    if headerSize ≤ c ∧ c ≤ file.length then some (d.dropLast ++ [(start, file.take c)]) else none

variable (s : Store)

def Stuck : Prop := ∀ es, ∀ r ∈ (appends C s es).2, ∃ msg, r = .error msg

def activeStart : Nat := ((s.segments.getLast?).map Segment.start).getD 0

def activeRecords (recs : List (Nat × Event)) : List (Nat × Event) :=
  recs.filter fun r => activeStart s ≤ r.1

def contained (recs : List (Nat × Event)) (c : Nat) : List (Nat × Event) :=
  (recs.filter fun r => r.1 < activeStart s) ++
    whole (recordSize C) (c - headerSize) (activeRecords s recs)

structure Recovers (segmentBytes : Nat) (xs : List Event) (c : Nat) (d : Dir) (ys : List Event)
    (s₂ s₄ : Store) : Prop where
  reopen : Store.openDir C segmentBytes d = .ok s₂
  reopen' : Store.openDir C segmentBytes (appends C s₂ ys).1.dir = .ok s₄
  records : s₄.iterFrom C 0 = .ok
    (contained C (appends C ⟨segmentBytes, [], [], 0⟩ xs).1
      (acked xs (appends C ⟨segmentBytes, [], [], 0⟩ xs).2) c ++ acked ys (appends C s₂ ys).2)
  live : ∀ n, ¬ Stuck C (appends C ⟨segmentBytes, [], [], 0⟩ (xs.take n)).1
  live₂ : ∀ n, ¬ Stuck C (appends C s₂ (ys.take n)).1
  live₄ : ¬ Stuck C s₄

end Run

section LogLemmas

variable {Event : Type} {C : Codec Event} {T : Nat} {l : Log Event} {e : Event}

/-! ### Live and dead logs -/

lemma append_dead (hl : ¬ l.Live C T) (e : Event) : l.append C T e = (l, false) := by
  simp_all [Log.Live, not_or, Log.append]

lemma Log.Live.not_dead (hl : l.Live C T) : ¬ (l.Full C T ∧ l.active.events = []) :=
  fun h => hl.elim (fun hne => hne h.2) (fun hf => hf h.1)

lemma stuck_iff (h : l.Ok C) (he₀ : fits C e₀ = true) :
    Stuck C (image C T l.imgs) ↔ ¬ l.Live C T := by
  constructor
  · intro hs hl; obtain ⟨r, hap, ha⟩ := append_log (T := T) h e₀
    rw [Log.append, if_neg hl.not_dead, if_pos he₀] at ha
    obtain ⟨msg, he⟩ := hs [e₀] r (by simp [appends, hap]); cases ha.symm.trans he
  · intro hl es
    induction es with
    | nil => intro r hr; cases hr
    | cons e es ih =>
      obtain ⟨r, hap, ha⟩ := append_log (T := T) h e; rw [append_dead hl] at hap ha
      intro q hq; simp only [appends, hap, mem_cons] at hq; rcases hq with rfl | hq
      · exact ha
      · exact ih q hq

lemma full_empty :
    (⟨is, Img.empty⟩ : Log Event).Full C T ↔ effectiveSegmentBytes T ≤ headerSize := by
  rfl

lemma live_append (h : l.Ok C) (hl : l.Live C T)
    (hfi : headerSize < effectiveSegmentBytes T ∨ fits C e = true) :
    (l.append C T e).1.Live C T := by
  rw [Log.append, if_neg hl.not_dead]; split_ifs with he
  · refine .inl ?_; rw [events_push (h.roll hl.not_dead).active]; simp
  · have hT := hfi.resolve_right he; rw [Log.roll]; split_ifs with hf
    · exact .inr fun hfu => absurd (full_empty.mp hfu) (by omega)
    · exact .inr hf

lemma live_run (h : l.Ok C) (hl : l.Live C T)
    (hfi : headerSize < effectiveSegmentBytes T ∨ ∀ e ∈ es, fits C e = true) :
    (l.run C T es).Live C T := by
  induction es generalizing l with
  | nil => exact hl
  | cons e es ih =>
    rw [run_cons]
    exact ih (h.append e) (live_append h hl (hfi.imp_right fun hf => hf e mem_cons_self))
      (hfi.imp_right fun hf x hx => hf x (mem_cons_of_mem _ hx))

lemma dead_append (hT : effectiveSegmentBytes T ≤ headerSize) (he : fits C e = false) :
    ¬ (l.append C T e).1.Live C T := by
  have hf : l.Full C T := hT.trans (headerSize_le_byteLen _ _)
  by_cases hd : l.Full C T ∧ l.active.events = []
  · simp_all [Log.append, Log.Live]
  · rw [Log.append, if_neg hd, if_neg (by rw [he]; simp), Log.roll, if_pos hf, Log.Live, not_or,
      not_not, not_not]
    exact ⟨rfl, full_empty.mpr hT⟩

lemma fits_of_live_run {es : List Event} (hl : ∀ n, (l.run C T (es.take n)).Live C T) :
    headerSize < effectiveSegmentBytes T ∨ ∀ e ∈ es, fits C e = true := by
  by_contra hc; rw [not_or] at hc; obtain ⟨hT, hex⟩ := hc
  push Not at hex
  obtain ⟨e, he, hf⟩ := hex; obtain ⟨pre, post, rfl⟩ := append_of_mem he
  have ht : (pre ++ e :: post).take (pre.length + 1) = pre ++ [e] := by rw [take_append]; simp
  have h := hl (pre.length + 1); rw [ht, Log.run, foldl_append] at h
  exact dead_append (by omega) (by simpa using hf) h

/-! ### Torn bytes -/

def Img.Clean (i : Img Event) : Prop := i.torn = [] ∧ i.hidden = []

lemma Img.Clean.push {i : Img Event} (h : i.Clean) (e : Event) : (i.push e).Clean := by
  rw [Img.push, if_pos h.1]; exact h

lemma empty_clean : (Img.empty : Img Event).Clean := ⟨rfl, rfl⟩

lemma append_imgs {pre post : List (Img Event)} {i : Img Event} (hl : l.imgs = pre ++ i :: post)
    (hp : ∀ j ∈ post, j.Clean) (hti : i.torn ≠ []) :
    ∃ hid post', (l.append C T e).1.imgs = pre ++ ⟨i.seen, i.torn, i.hidden ++ hid⟩ :: post' ∧
      ∀ j ∈ post', j.Clean := by
  have hro : ∃ post', (l.roll C T).imgs = pre ++ i :: post' ∧ ∀ j ∈ post', j.Clean := by
    rw [Log.roll]; split_ifs
    · refine ⟨post ++ [Img.empty], ?_, fun j hj => ?_⟩
      · simp_all [Log.imgs]
      · rcases mem_append.mp hj with hj | hj
        · exact hp j hj
        · rw [mem_singleton.mp hj]; exact empty_clean
    · exact ⟨post, hl, hp⟩
  rw [Log.append]; split_ifs
  · exact ⟨[], post, by simpa using hl, hp⟩
  · obtain ⟨post', hr, hc⟩ := hro; rcases eq_nil_or_concat post' with rfl | ⟨q, j, rfl⟩
    · -- the image itself is the writable one
      obtain ⟨hpr, ha⟩ := append_inj' hr rfl
      simp_all [Log.imgs, Img.push]
    · rw [concat_eq_append] at hr hc
      have hr' : (l.roll C T).closed ++ [(l.roll C T).active] = (pre ++ i :: q) ++ [j] := by
        rw [← Log.imgs, hr]; simp
      obtain ⟨hpr, ha⟩ := append_inj' hr' rfl; obtain rfl := List.cons.inj ha |>.1
      refine ⟨[], q ++ [(l.roll C T).active.push e], ?_, fun k hk => ?_⟩
      · simp [Log.imgs, hpr]
      · rcases mem_append.mp hk with hk | hk
        · grind
        · rw [mem_singleton.mp hk]; exact (hc _ (by simp)).push e
  · obtain ⟨post', hr, hc⟩ := hro; exact ⟨[], post', by simpa using hr, hc⟩

lemma run_imgs {pre post : List (Img Event)} (hl : l.imgs = pre ++ i :: post) (hp : ∀ j ∈ post, j.Clean)
    (hti : i.torn ≠ []) (es : List Event) :
    ∃ hid post', (l.run C T es).imgs = pre ++ ⟨i.seen, i.torn, i.hidden ++ hid⟩ :: post' ∧
      ∀ j ∈ post', j.Clean := by
  induction es generalizing l i post with
  | nil => exact ⟨[], post, by simpa [run_nil] using hl, hp⟩
  | cons e es ih =>
    obtain ⟨hid, post₁, h₁, hc₁⟩ := append_imgs (C := C) (T := T) (e := e) hl hp hti
    obtain ⟨hid', post', h', hc'⟩ := ih h₁ hc₁ hti
    exact ⟨hid ++ hid', post', by rw [run_cons, h', append_assoc], hc'⟩

lemma hidden_run (hti : l.active.torn ≠ []) (hr : ¬ l.Full C T) (hes : ∃ e ∈ es, fits C e = true) :
    ∃ hid post', (l.run C T es).imgs =
        l.closed ++ ⟨l.active.seen, l.active.torn, l.active.hidden ++ hid⟩ :: post' ∧
      hid ≠ [] ∧ ∀ j ∈ post', j.Clean := by
  induction es with
  | nil => obtain ⟨e, he, -⟩ := hes; cases he
  | cons e es ih =>
    have hro : l.roll C T = l := by rw [Log.roll, if_neg hr]
    have hd : ¬ (l.Full C T ∧ l.active.events = []) := fun h => hr h.1
    by_cases he : fits C e = true
    · have ha : (l.append C T e).1 = ⟨l.closed, l.active.push e⟩ := by
        rw [Log.append, if_neg hd, if_pos he, hro]
      have hi : (l.append C T e).1.imgs =
          l.closed ++ ⟨l.active.seen, l.active.torn, l.active.hidden ++ [e]⟩ :: [] := by
        rw [ha, Log.imgs, Img.push, if_neg hti]
      obtain ⟨hid, post', h', hc'⟩ := run_imgs (C := C) (T := T) hi
        (fun j hj => by cases hj) hti es
      exact ⟨e :: hid, post', by rw [run_cons, h', append_assoc]; rfl, by simp, hc'⟩
    · have ha : (l.append C T e).1 = l := by rw [Log.append, if_neg hd, if_neg he, hro]
      obtain ⟨x, hx, hfx⟩ := hes
      have hx : x ∈ es := (mem_cons.mp hx).resolve_left fun h => he (h ▸ hfx)
      rw [run_cons, ha]; exact ih ⟨x, hx, hfx⟩

lemma no_hidden_run (hh : ∀ i ∈ l.imgs, i.hidden = []) {es : List Event}
    (hs : l.active.torn = [] ∨ l.Full C T ∨ ∀ e ∈ es, fits C e = false) :
    ∀ i ∈ (l.run C T es).imgs, i.hidden = [] := by
  induction es generalizing l with
  | nil => exact hh
  | cons e es ih =>
    rw [run_cons]; have hre : ∀ x ∈ es, x ∈ e :: es := fun x hx => mem_cons_of_mem _ hx
    have hc : ∀ i ∈ l.closed, i.hidden = [] := fun i hi => hh i (mem_append_left _ hi)
    have ha : l.active.hidden = [] := hh _ (by simp [Log.imgs])
    by_cases hd : l.Full C T ∧ l.active.events = []
    · grind [Log.append]
    by_cases hf : l.Full C T
    · -- a fresh segment is opened
      have hr : l.roll C T = ⟨l.closed ++ [l.active], Img.empty⟩ := by rw [Log.roll, if_pos hf]
      rw [Log.append, if_neg hd, hr]
      have hold : ∀ i ∈ l.closed ++ [l.active], i.hidden = [] := hh; split_ifs
      · refine ih (fun i hi => ?_) (.inl rfl); rcases mem_append.mp hi with hi | hi
        · exact hold i hi
        · rw [mem_singleton.mp hi]; rfl
      · refine ih (fun i hi => ?_) (.inl rfl); rcases mem_append.mp hi with hi | hi
        · exact hold i hi
        · rw [mem_singleton.mp hi]; rfl
    · have hr : l.roll C T = l := by rw [Log.roll, if_neg hf]
      rw [Log.append, if_neg hd, hr]; split_ifs with he
      · have ht : l.active.torn = [] := by grind
        refine ih (fun i hi => ?_) (.inl ?_)
        · rcases mem_append.mp hi with hi | hi
          · exact hc i hi
          · rw [mem_singleton.mp hi]
            exact (show l.active.Clean from ⟨ht, ha⟩).push e |>.2
        · exact (show l.active.Clean from ⟨ht, ha⟩).push e |>.1
      · exact ih hh (hs.imp_right (Or.imp_right fun h x hx => h x (hre x hx)))

/-! ### From the empty directory to the crash -/

def Log.first (C : Codec Event) (e : Event) : Log Event :=
  ⟨[], if fits C e then Img.empty.push e else Img.empty⟩

variable (e : Event)

lemma first_ok : (Log.first C e).Ok C := by
  refine ⟨closed_nil, fun i hi => ?_⟩; rw [mem_singleton.mp hi, Log.first]; dsimp only
  split_ifs with he
  · exact empty_ok.push he
  · exact empty_ok

lemma append_fresh :
    ∃ r, (⟨T, [], [], 0⟩ : Store).append C e = (image C T (Log.first C e).imgs, r) ∧
      Answers r 0 (fits C e) := by
  have hr : (⟨T, [], [], 0⟩ : Store).rollover = .ok (image C T ([] ++ [Img.empty])) := by rfl
  by_cases he : fits C e = true
  · have hf : (Log.first C e).imgs = [] ++ [Img.empty.push e] := by rw [Log.first, if_pos he]; rfl
    rw [hf, he]; exact ⟨_, append_fits hr closed_nil empty_ok he, rfl⟩
  · have he : fits C e = false := by simpa using he
    have hf : (Log.first C e).imgs = [] ++ [Img.empty] := by rw [Log.first, if_neg (by simp [he])]; rfl
    obtain ⟨msg, h⟩ := append_refused hr he; rw [hf, he]; exact ⟨.error msg, h, msg, rfl⟩

lemma appends_fresh (es : List Event) :
    (appends C ⟨T, [], [], 0⟩ (e :: es)).1 = image C T ((Log.first C e).run C T es).imgs ∧
    acked (e :: es) (appends C ⟨T, [], [], 0⟩ (e :: es)).2 =
      number 0 (allEvents ((Log.first C e).run C T es).imgs) := by
  obtain ⟨r, hap, ha⟩ := append_fresh (C := C) (T := T) e
  obtain ⟨h₁, h₂, h₃⟩ := appends_log (T := T) (first_ok (C := C) e) es
  refine ⟨by simpa [appends, hap] using h₁, ?_⟩; simp only [appends, hap]
  rw [h₃, number_append, length_allEvents, Nat.zero_add, ← h₂]
  rcases hb : fits C e with _ | _ <;> rw [hb] at ha
  · obtain ⟨msg, rfl⟩ := ha
    simp [acked, Log.first, hb, allEvents, Log.imgs, Img.events, Img.empty, number]
  · obtain rfl := ha
    simp [acked, Log.first, hb, allEvents, Log.imgs, Img.events, Img.empty, Img.push, number]

lemma clean_run (hl : ∀ i ∈ l.imgs, i.Clean) (es : List Event) :
    ∀ i ∈ (l.run C T es).imgs, i.Clean := by
  induction es generalizing l with
  | nil => exact hl
  | cons e es ih =>
    rw [run_cons]; refine ih ?_
    have hr : ∀ i ∈ (l.roll C T).imgs, i.Clean := by
      rw [Log.roll]; split_ifs
      · intro i hi; rcases mem_append.mp hi with hi | hi
        · exact hl i hi
        · rw [mem_singleton.mp hi]; exact empty_clean
      · exact hl
    rw [Log.append]; split_ifs
    · exact hl
    · intro i hi; rcases mem_append.mp hi with hi | hi
      · exact hr i (mem_append_left _ hi)
      · rw [mem_singleton.mp hi]; exact (hr _ (by simp [Log.imgs])).push e
    · exact hr

lemma first_clean : ∀ i ∈ (Log.first C e).imgs, i.Clean := by
  intro i hi; rw [mem_singleton.mp hi, Log.first]; dsimp only
  split_ifs
  · exact empty_clean.push e
  · exact empty_clean

lemma filter_number (n : Nat) (es fs : List Event) :
    (number n (es ++ fs)).filter (fun r => r.1 < n + es.length) = number n es ∧
    (number n (es ++ fs)).filter (fun r => n + es.length ≤ r.1) = number (n + es.length) fs := by
  have hl : ∀ r ∈ number n es, r.1 < n + es.length := fun r hr => (mem_number hr).2.1
  have hh : ∀ r ∈ number (n + es.length) fs, n + es.length ≤ r.1 := fun r hr => (mem_number hr).1
  rw [number_append, filter_append, filter_append]; constructor
  · rw [filter_eq_self.mpr fun r hr => by simpa using hl r hr,
      filter_eq_nil_iff.mpr fun r hr => by simpa using hh r hr, append_nil]
  · rw [filter_eq_nil_iff.mpr fun r hr => by simpa using hl r hr,
      filter_eq_self.mpr fun r hr => by simpa using hh r hr, nil_append]

lemma number_take (n k : Nat) (es : List Event) : (number n es).take k = number n (es.take k) := by
  induction es generalizing n k with
  | nil => simp [number]
  | cons e es ih =>
    cases k with
    | zero => rfl
    | succ => rw [number, take_succ_cons, ih, take_succ_cons, number]

lemma length_recordFrame (r : Nat × Event) :
    (frame C r.1 (payload C r.2)).length = recordSize C r := length_frame _ _

lemma cut_image (h : l.Ok C) (hcl : l.active.Clean) (hcu : cut (image C T l.imgs).dir c = some d) :
    ∃ i : Img Event, d = filesFrom C 0 (l.closed ++ [i]) ∧ i.Ok C ∧ i.hidden = [] ∧
      i.byteLen C (total l.closed) = c ∧
      number (total l.closed) i.seen =
        whole (recordSize C) (c - headerSize) (number (total l.closed) l.active.events) ∧
      i.torn.length =
        leftover (recordSize C) (c - headerSize) (number (total l.closed) l.active.events) ∧
      i.seen.length ≤ l.active.events.length := by
  have hev : l.active.events = l.active.seen := by rw [Img.events, hcl.2, append_nil]
  have hb : l.active.bytes C (total l.closed) =
      header ++ frames C (total l.closed) l.active.seen := by
    simp [Img.bytes, hcl.1, hcl.2]
  have hd : (image C T l.imgs).dir =
      filesFrom C 0 l.closed ++ [(total l.closed, l.active.bytes C (total l.closed))] := by
    rw [image, Log.imgs, filesFrom_append, Nat.zero_add]; rfl
  rw [hd, cut, getLast?_concat] at hcu; simp only [dropLast_concat] at hcu
  split_ifs at hcu with hc; cases hcu; obtain ⟨hc₁, hc₂⟩ := hc
  rw [hb, length_append, length_header] at hc₂; rw [hev]
  have hct : c - headerSize ≤ (frames C (total l.closed) l.active.seen).length := by omega
  obtain ⟨torn, ht, hl, hto⟩ := @take_frames _ _ _ (recordSize C)
    (fun r => frame C r.1 (payload C r.2)) (fun r _ => length_recordFrame r) hct
  obtain ⟨k, hk⟩ : ∃ k, whole (recordSize C) (c - headerSize)
      (number (total l.closed) l.active.seen) = number (total l.closed) (l.active.seen.take k) :=
    ⟨_, (prefix_iff_eq_take.mp (whole_isPrefix _ _ _)).trans (number_take _ _ _)⟩
  have hb' : (l.active.bytes C (total l.closed)).take c =
      (⟨l.active.seen.take k, torn, []⟩ : Img Event).bytes C (total l.closed) := by
    rw [hb, take_append, length_header, take_of_length_le (by simpa using hc₁)]
    rw [frames, ht, hk]; simp [Img.bytes, frames, number, append_assoc]
  refine ⟨⟨l.active.seen.take k, torn, []⟩, ?_, ?_, rfl, ?_, hk.symm, hl, ?_⟩
  · rw [hb', filesFrom_append, Nat.zero_add]; rfl
  · refine ⟨?_, fun _ => rfl, fun e he => h.active.seen e (mem_of_mem_take he)⟩
    rcases hto with rfl | ⟨r, hr, m, hm, rfl⟩
    · exact nextRecord_nil
    · obtain ⟨-, hp⟩ := payload_of_fits (h.active.seen r.2 (mem_number hr).2.2)
      exact nextRecord_torn hp hm
  · rw [Img.byteLen, ← hb', length_take, hb, length_append, length_header]; omega
  grind

lemma activeStart_image : activeStart (image C T l.imgs) = total l.closed := by
  rw [activeStart, image, Log.imgs, getLast?_segsFrom]; rfl

lemma allEvents_imgs : allEvents l.imgs = allEvents l.closed ++ l.active.events := by
  simp [allEvents, Log.imgs]

lemma activeRecords_image :
    activeRecords (image C T l.imgs) (number 0 (allEvents l.imgs)) =
      number (total l.closed) l.active.events := by
  have h := (filter_number 0 (allEvents l.closed) l.active.events).2
  rw [length_allEvents, Nat.zero_add] at h
  rw [activeRecords, activeStart_image, allEvents_imgs]; exact h

lemma contained_image (c : Nat) :
    contained C (image C T l.imgs) (number 0 (allEvents l.imgs)) c =
      number 0 (allEvents l.closed) ++
        whole (recordSize C) (c - headerSize) (number (total l.closed) l.active.events) := by
  have h := (filter_number 0 (allEvents l.closed) l.active.events).1
  rw [length_allEvents, Nat.zero_add] at h
  rw [contained, activeRecords_image, activeStart_image, allEvents_imgs, h]

lemma seenFrom_eq {is : List (Img Event)} (hh : ∀ i ∈ is, i.hidden = []) (n : Nat) :
    seenFrom n is = number n (allEvents is) := by
  induction is generalizing n with
  | nil => rfl
  | cons i is ih =>
    have hi : i.events = i.seen := by rw [Img.events, hh i mem_cons_self, append_nil]
    have hc : allEvents (i :: is) = i.seen ++ allEvents is := by rw [allEvents, flatMap_cons, hi]; rfl
    rw [seenFrom, ih (fun j hj => hh j (mem_cons_of_mem _ hj)), hi, hc, number_append]

lemma length_seenFrom (is : List (Img Event)) (n : Nat) :
    (seenFrom n is).length + (is.map fun i => i.hidden.length).sum = total is := by
  induction is generalizing n with
  | nil => rfl
  | cons =>
    grind [seenFrom, total, length_append, length_number, Img.events]

lemma stored_length_le (l : Log Event) (es : List Event) :
    (l.stored C T es).length ≤ es.length := by
  induction es generalizing l with
  | nil => exact Nat.le_refl _
  | cons => grind [Log.stored, length_cons]

end LogLemmas

section Main

variable {Event : Type} (C : Codec Event)

def beforeCrash (T : Nat) (xs : List Event) : Store := (appends C ⟨T, [], [], 0⟩ xs).1

def crashRecords (T : Nat) (xs : List Event) : List (Nat × Event) :=
  activeRecords (beforeCrash C T xs) (acked xs (appends C ⟨T, [], [], 0⟩ xs).2)

def tornBytes (T : Nat) (xs : List Event) (c : Nat) : Nat :=
  leftover (recordSize C) (c - headerSize) (crashRecords C T xs)

structure Intact (T : Nat) (xs : List Event) (c : Nat) (ys : List Event) : Prop where
  room : headerSize < effectiveSegmentBytes T ∨ ∀ e ∈ xs ++ ys, fits C e = true
  kept : whole (recordSize C) (c - headerSize) (crashRecords C T xs) ≠ [] ∨
    c < effectiveSegmentBytes T
  torn : tornBytes C T xs c = 0 ∨ effectiveSegmentBytes T ≤ c ∨ ∀ e ∈ ys, fits C e = false

variable {C}

structure CrashImages (T : Nat) (xs : List Event) (c : Nat) (d : Dir) (l : Log Event)
    (i : Img Event) : Prop where
  ok : l.Ok C
  before : beforeCrash C T xs = image C T l.imgs
  closed : ∀ j ∈ l.closed, j.hidden = []
  total_le : total l.imgs ≤ xs.length
  dir : d = filesFrom C 0 (l.closed ++ [i])
  cut_ok : i.Ok C
  cut_hidden : i.hidden = []
  cut_len : i.byteLen C (total l.closed) = c
  seen_le : i.seen.length ≤ l.active.events.length
  seen : number (total l.closed) i.seen =
    whole (recordSize C) (c - headerSize) (crashRecords C T xs)
  torn : i.torn.length = tornBytes C T xs c
  contained : contained C (beforeCrash C T xs) (acked xs (appends C ⟨T, [], [], 0⟩ xs).2) c =
    number 0 (allEvents (l.closed ++ [i]))

lemma crash_images (hcu : cut (beforeCrash C T xs).dir c = some d) :
    ∃ (l : Log Event) (i : Img Event), CrashImages (C := C) T xs c d l i := by
  cases xs with
  | nil => cases hcu
  | cons e es =>
    obtain ⟨him, ha⟩ := appends_fresh (C := C) (T := T) e es
    have hok := (first_ok (C := C) e).run (T := T) es
    have hc := clean_run (C := C) (T := T) (first_clean (C := C) e) es
    have hr : crashRecords C T (e :: es) = number
        (total ((Log.first C e).run C T es).closed) ((Log.first C e).run C T es).active.events := by
      rw [crashRecords, beforeCrash, him, ha, activeRecords_image]
    have hb : beforeCrash C T (e :: es) = image C T ((Log.first C e).run C T es).imgs := him
    rw [hb] at hcu
    obtain ⟨i, hd, hi, hh, hl, hs, ht, hle⟩ := cut_image hok (hc _ (by simp [Log.imgs])) hcu
    refine ⟨(Log.first C e).run C T es, i, ⟨hok, hb, fun j hj => ?_, ?_, hd, hi, hh, hl, hle,
      by rw [hr]; exact hs, by rw [tornBytes, hr]; exact ht, ?_⟩⟩
    · exact (hc j (mem_append_left _ hj)).2
    · -- the first append stores at most one event, each later one at most one more
      have hev := (appends_log (T := T) (first_ok (C := C) e) es).2.2
      have hst := stored_length_le (C := C) (T := T) (Log.first C e) es
      have hf : (allEvents (Log.first C e).imgs).length ≤ 1 := by
        simp only [Log.first, Log.imgs, allEvents]
        split_ifs <;> simp [Img.push, Img.empty, Img.events]
      grind [length_allEvents]
    · rw [hb, ha, contained_image, ← hs]
      have hca : allEvents (((Log.first C e).run C T es).closed ++ [i]) =
          allEvents ((Log.first C e).run C T es).closed ++ i.seen := by
        simp [allEvents, Img.events, hh]
      rw [hca, number_append, length_allEvents, Nat.zero_add]

lemma live_fresh_iff {T : Nat} {xs : List Event} {e₀ : Event} (he₀ : fits C e₀ = true) :
    (∀ n, ¬ Stuck C (appends C ⟨T, [], [], 0⟩ (xs.take n)).1) ↔
      (headerSize < effectiveSegmentBytes T ∨ ∀ e ∈ xs, fits C e = true) := by
  have hf : ¬ Stuck C (⟨T, [], [], 0⟩ : Store) := by
    intro hst; obtain ⟨r, hap, ha⟩ := append_fresh (C := C) (T := T) e₀; rw [he₀] at ha
    obtain ⟨msg, her⟩ := hst [e₀] r (by simp [appends, hap]); cases ha.symm.trans her
  cases xs with
  | nil => refine ⟨fun _ => .inr (by simp), fun _ n => ?_⟩; rw [take_nil]; exact hf
  | cons e es =>
    have hs : ∀ n, ¬ Stuck C (appends C ⟨T, [], [], 0⟩ ((e :: es).take (n + 1))).1 ↔
        ((Log.first C e).run C T (es.take n)).Live C T := by
      intro n
      rw [take_succ_cons, (appends_fresh e (es.take n)).1,
        stuck_iff ((first_ok e).run _) he₀, not_not]
    have hfi : (Log.first C e).Live C T ↔
        headerSize < effectiveSegmentBytes T ∨ fits C e = true := by
      by_cases he : fits C e = true
      · simp [Log.first, Log.Live, he, Img.push, Img.empty, Img.events]
      · rw [Log.Live, Log.first, if_neg he, full_empty]; simp [he]
    constructor
    · intro hal; have hr := fits_of_live_run fun n => (hs n).mp (hal (n + 1))
      rcases hfi.mp ((hs 0).mp (hal 1)) with hT | he
      · exact .inl hT
      grind
    · intro hro n
      cases n with
      | zero => exact hf
      | succ n =>
        refine (hs n).mpr (live_run (first_ok e) (hfi.mpr ?_) ?_)
        · grind
        grind

lemma drop_records {closed post : List (Img Event)} {i : Img Event} {hid : List Event} {c : Nat}
    (hl : i.byteLen C (total closed) = c) (hh : i.hidden = []) :
    ∃ file, (total closed, file) ∈
        filesFrom C 0 (closed ++ ⟨i.seen, i.torn, i.hidden ++ hid⟩ :: post) ∧
      file.drop (c - i.torn.length) =
        i.torn ++ frames C (total closed + i.seen.length) (i.hidden ++ hid) := by
  refine ⟨_, by rw [filesFrom_append, Nat.zero_add]; exact mem_append_right _ mem_cons_self, ?_⟩
  have hs : (header ++ frames C (total closed) i.seen).length = c - i.torn.length := by
    rw [Img.byteLen, Img.bytes, hh, frames_nil, append_nil, length_append] at hl
    omega
  rw [Img.bytes, append_assoc]; exact drop_left' hs

section Reopened

variable {T : Nat} {xs ys : List Event} {c : Nat} {d : Dir} {l : Log Event} {i : Img Event}

namespace CrashImages

section

variable (h : CrashImages (C := C) T xs c d l i)
include h

lemma ok₂ : (⟨l.closed, i⟩ : Log Event).Ok C := by
  refine ⟨h.ok.closed, fun j hj => ?_⟩; rcases mem_append.mp hj with hj | hj
  · exact h.ok.imgs j (mem_append_left _ hj)
  · rw [mem_singleton.mp hj]; exact h.cut_ok

lemma hidden₂ :
    ∀ j ∈ (⟨l.closed, i⟩ : Log Event).imgs, j.hidden = [] := by
  intro j hj; rcases mem_append.mp hj with hj | hj
  · exact h.closed j hj
  · rw [mem_singleton.mp hj]; exact h.cut_hidden

lemma total₂ :
    total (⟨l.closed, i⟩ : Log Event).imgs ≤ xs.length := by
  have ht := h.total_le; have hle := h.seen_le
  rw [Log.imgs, total_append, total_singleton] at ht ⊢
  simp only [Img.events, h.cut_hidden, append_nil]; omega

lemma reopen (hrt : ∀ e b, C.encode e = some b → C.decode b = some e) (hs : xs.length ≤ 2 ^ 64) :
    Store.openDir C T d = .ok (image C T (⟨l.closed, i⟩ : Log Event).imgs) := by
  rw [h.dir]; exact openDir_image hrt h.ok₂.imgs h.hidden₂ (h.total₂.trans hs)

lemma live₂_iff :
    (⟨l.closed, i⟩ : Log Event).Live C T ↔
      whole (recordSize C) (c - headerSize) (crashRecords C T xs) ≠ [] ∨
        c < effectiveSegmentBytes T := by
  simp [← h.seen, Img.events, h.cut_hidden, append_nil, ← length_eq_zero_iff, length_number,
    Log.Live, Log.Full, Log.size, h.cut_len, ne_eq]

end

end CrashImages

lemma read_after (h : CrashImages (C := C) T xs c d l i)
    (hrt : ∀ e b, C.encode e = some b → C.decode b = some e) (hs : xs.length + ys.length ≤ 2 ^ 64)
    (hr : ReadableFrom C 0 ((⟨l.closed, i⟩ : Log Event).run C T ys).imgs)
    (hs₄ : Store.openDir C T (appends C (image C T (⟨l.closed, i⟩ : Log Event).imgs) ys).1.dir = .ok s₄) :
    s₄.iterFrom C 0 = .ok (seenFrom 0 ((⟨l.closed, i⟩ : Log Event).run C T ys).imgs) := by
  obtain ⟨hi, -, hev⟩ := appends_log (T := T) h.ok₂ ys
  have ht : total ((⟨l.closed, i⟩ : Log Event).run C T ys).imgs ≤ 2 ^ 64 := by
    have hst := stored_length_le (C := C) (T := T) ⟨l.closed, i⟩ ys
    grind [h.total₂, length_allEvents]
  rw [hi] at hs₄; exact iterFrom_image hrt (h.ok₂.run ys).closed hr ht hs₄

lemma not_recovers_of_torn (h : CrashImages (C := C) T xs c d l i)
    (hrt : ∀ e b, C.encode e = some b → C.decode b = some e)
    (hsi : xs.length + ys.length ≤ 2 ^ 64)
    (hcr : ∀ s₂, Store.openDir C T d = .ok s₂ → tornBytes C T xs c ≠ 0 →
      ∀ file, (activeStart (beforeCrash C T xs), file) ∈ (appends C s₂ ys).1.dir →
        nextRecord C (file.drop (c - tornBytes C T xs c)) = none)
    (hto : tornBytes C T xs c ≠ 0) (hro : c < effectiveSegmentBytes T)
    (hys : ∃ e ∈ ys, fits C e = true) {s₂ s₄ : Store} : ¬ Recovers C T xs c d ys s₂ s₄ := by
  intro hre; have hs₂ := h.reopen hrt (by omega)
  obtain rfl : s₂ = _ := Except.ok.inj (hre.reopen.symm.trans hs₂)
  have hti : i.torn ≠ [] := fun h0 => hto (by rw [← h.torn, h0]; rfl)
  have hf : ¬ (⟨l.closed, i⟩ : Log Event).Full C T := by rw [Log.Full, Log.size, h.cut_len]; omega
  obtain ⟨hid, post, hi, hne, hcl⟩ := hidden_run hti hf hys
  obtain ⟨him, ha, hev⟩ := appends_log (T := T) h.ok₂ ys
  have hra : ReadableFrom C 0 ((⟨l.closed, i⟩ : Log Event).run C T ys).imgs := by
    have hok := (h.ok₂.run (T := T) ys).imgs
    obtain ⟨file, hfi, hd⟩ := @drop_records _ C _ post _ hid _ h.cut_len
      h.cut_hidden
    have hs := hcr _ hs₂ hto file (by rw [h.before, activeStart_image, him, hi]; exact hfi)
    rw [← h.torn, hd] at hs; rw [hi] at hok ⊢
    refine readableFrom_append (readableFrom_of_no_hidden
      (fun j hj => hok j (mem_append_left _ hj)) h.closed 0) ⟨hok _ (by simp), ?_, ?_⟩
    · rw [Nat.zero_add]; exact hs
    · exact readableFrom_of_no_hidden (fun j hj => hok j (by simp [hj])) (fun j hj => (hcl j hj).2) _
  have hit := read_after h hrt hsi hra hre.reopen'
  have hr := hre.records; have hc := h.contained; rw [beforeCrash] at hc
  rw [hit, hc, ha] at hr; have hco := congrArg List.length (Except.ok.inj hr)
  have hsu := length_seenFrom ((⟨l.closed, i⟩ : Log Event).run C T ys).imgs 0
  have ht := congrArg List.length hev
  rw [length_append, length_allEvents, length_allEvents] at ht
  rw [length_append, length_number, length_number, length_allEvents] at hco
  have hp : 0 < (((⟨l.closed, i⟩ : Log Event).run C T ys).imgs.map
      fun i => i.hidden.length).sum := by
    rw [hi]; have := length_pos_iff.mpr hne
    simp only [map_append, map_cons, sum_append, sum_cons, length_append]
    omega
  rw [show (⟨l.closed, i⟩ : Log Event).imgs = l.closed ++ [i] from rfl] at ht; omega

lemma recovers_of_intact (h : CrashImages (C := C) T xs c d l i)
    (hrt : ∀ e b, C.encode e = some b → C.decode b = some e) {e₀ : Event} (he₀ : fits C e₀ = true)
    (hs : xs.length + ys.length ≤ 2 ^ 64) (hint : Intact C T xs c ys) :
    ∃ s₂ s₄, Recovers C T xs c d ys s₂ s₄ := by
  have hs₂ := h.reopen hrt (by omega)
  obtain ⟨him, ha, hev⟩ := appends_log (T := T) h.ok₂ ys
  have hok := (h.ok₂.run (T := T) ys).imgs
  have hsa : (⟨l.closed, i⟩ : Log Event).active.torn = [] ∨
      (⟨l.closed, i⟩ : Log Event).Full C T ∨ ∀ e ∈ ys, fits C e = false := by
    refine hint.torn.imp (fun h0 => ?_) (Or.imp_left fun hT => ?_)
    · grind [h.torn]
    · rw [Log.Full, Log.size, h.cut_len]; exact hT
  have hh := no_hidden_run (C := C) (T := T) h.hidden₂ hsa
  have ht : total ((⟨l.closed, i⟩ : Log Event).run C T ys).imgs ≤ 2 ^ 64 := by
    have hst := stored_length_le (C := C) (T := T) ⟨l.closed, i⟩ ys
    grind [h.total₂, length_allEvents]
  have hs₄ : Store.openDir C T (appends C (image C T (⟨l.closed, i⟩ : Log Event).imgs) ys).1.dir =
      .ok (image C T ((⟨l.closed, i⟩ : Log Event).run C T ys).imgs) := by
    rw [him]; exact openDir_image hrt hok hh ht
  have hl₂ := h.live₂_iff.mpr hint.kept
  have hl : ∀ es, (∀ e ∈ es, e ∈ ys) → ((⟨l.closed, i⟩ : Log Event).run C T es).Live C T :=
    fun es hes => live_run h.ok₂ hl₂
      (hint.room.imp_right fun hf e he => hf e (mem_append_right _ (hes e he)))
  refine ⟨_, _, hs₂, hs₄, ?_, ?_, fun n => ?_, ?_⟩
  · have hi := read_after h hrt hs (readableFrom_of_no_hidden hok hh 0) hs₄
    have hc := h.contained; rw [beforeCrash] at hc
    rw [hi, seenFrom_eq hh, hev, number_append, hc, ha, length_allEvents, Nat.zero_add]; rfl
  · exact (live_fresh_iff he₀).mpr
      (hint.room.imp_right fun hf e he => hf e (mem_append_left _ he))
  · rw [(appends_log h.ok₂ (ys.take n)).1, stuck_iff (h.ok₂.run _) he₀, not_not]; grind
  simp_all [stuck_iff (h.ok₂.run _) he₀]

lemma intact_of_recovers (h : CrashImages (C := C) T xs c d l i)
    (hrt : ∀ e b, C.encode e = some b → C.decode b = some e) {e₀ : Event}
    (he₀ : fits C e₀ = true) (hs : xs.length + ys.length ≤ 2 ^ 64)
    (hcr : ∀ s₂, Store.openDir C T d = .ok s₂ → tornBytes C T xs c ≠ 0 →
      ∀ file, (activeStart (beforeCrash C T xs), file) ∈ (appends C s₂ ys).1.dir →
        nextRecord C (file.drop (c - tornBytes C T xs c)) = none)
    {s₂ s₄ : Store} (hr : Recovers C T xs c d ys s₂ s₄) : Intact C T xs c ys := by
  obtain rfl : s₂ = _ := Except.ok.inj (hr.reopen.symm.trans (h.reopen hrt (by omega)))
  have hl : ∀ n, ((⟨l.closed, i⟩ : Log Event).run C T (ys.take n)).Live C T := by
    intro n; have hn := hr.live₂ n
    rwa [(appends_log h.ok₂ (ys.take n)).1, stuck_iff (h.ok₂.run _) he₀, not_not] at hn
  refine ⟨?_, h.live₂_iff.mp (hl 0), ?_⟩
  · rcases (live_fresh_iff he₀).mp hr.live with hT | hxs
    · exact .inl hT
    · exact (fits_of_live_run hl).imp_right fun hys e he => (mem_append.mp he).elim (hxs e) (hys e)
  · by_contra hc; rw [not_or, not_or] at hc; obtain ⟨ht, hT, hys⟩ := hc
    push Not at hys
    refine not_recovers_of_torn h hrt hs hcr ht (by omega) ?_ hr; grind

end Reopened

theorem crash_recovery_iff (hrt : ∀ e b, C.encode e = some b → C.decode b = some e)
    {e₀ : Event} (he₀ : fits C e₀ = true) (T : Nat) (xs ys : List Event) (c : Nat) (d : Dir)
    (hs : xs.length + ys.length ≤ 2 ^ 64) (hc : cut (beforeCrash C T xs).dir c = some d)
    (hcr : ∀ s₂, Store.openDir C T d = .ok s₂ → tornBytes C T xs c ≠ 0 →
      ∀ file, (activeStart (beforeCrash C T xs), file) ∈ (appends C s₂ ys).1.dir →
        nextRecord C (file.drop (c - tornBytes C T xs c)) = none) :
    (∃ s₂ s₄, Recovers C T xs c d ys s₂ s₄) ↔ Intact C T xs c ys := by
  obtain ⟨l, i, h⟩ := crash_images hc
  exact ⟨fun ⟨_, _, hr⟩ => intact_of_recovers h hrt he₀ hs hcr hr,
    recovers_of_intact h hrt he₀ hs⟩

end Main

def binCodec : Codec Bytes where
  encode b := if b.length < 256 then some (0xC4 :: UInt8.ofNat b.length :: b) else none
  decode
    | 0xC4 :: n :: b => if b.length = n.toNat then some b else none
    | _ => none
  crc32 := crc32

lemma binCodec_round_trip (e b : Bytes) (h : binCodec.encode e = some b) :
    binCodec.decode b = some e := by
  simp only [binCodec] at h ⊢; split_ifs at h with hl; cases h
  simp [Nat.mod_eq_of_lt hl]

def tornDir : Dir := [(0, header ++ leBytes 8 0)]

def tornStore : Store := ⟨0, tornDir, [⟨0, none, 20⟩], 0⟩

def lostStore : Store := ⟨0, (appends binCodec tornStore [[2]]).1.dir, [⟨0, none, 39⟩], 0⟩

theorem crash_recovery_loses_append :
    cut (beforeCrash binCodec 0 [[1]]).dir 20 = some tornDir ∧
    (∀ e b, binCodec.encode e = some b → binCodec.decode b = some e) ∧
    (∀ f ∈ lostStore.dir, nextRecord binCodec (f.2.drop headerSize) = none) ∧
    acked ([[2]] : List Bytes) (appends binCodec tornStore [[2]]).2 = [(0, [2])] ∧
    ¬ ∃ s₂ s₄, Recovers binCodec 0 [[1]] 20 tornDir [[2]] s₂ s₄ := by
  have h₂ : Store.openDir binCodec 0 tornDir = .ok tornStore := rfl
  have h₄ : Store.openDir binCodec 0 (appends binCodec tornStore [[2]]).1.dir = .ok lostStore := by
    decide +kernel
  have hra : lostStore.iterFrom binCodec 0 = .ok [] := rfl
  have ha : acked ([[2]] : List Bytes) (appends binCodec tornStore [[2]]).2 = [(0, [2])] := by decide +kernel
  refine ⟨by decide +kernel, binCodec_round_trip, by decide +kernel, ha, ?_⟩
  rintro ⟨s₂, s₄, hre⟩
  obtain rfl : tornStore = s₂ := Except.ok.inj (h₂.symm.trans hre.reopen)
  obtain rfl : lostStore = s₄ := Except.ok.inj (h₄.symm.trans hre.reopen')
  have hr := Except.ok.inj (hra.symm.trans hre.records); rw [ha] at hr; simp at hr

theorem crash_recovery_one_record :
    cut (beforeCrash binCodec 0 [[1]]).dir 31 = some (beforeCrash binCodec 0 [[1]]).dir ∧
    (∃ s₂ s₄, Recovers binCodec 0 [[1]] 31 (beforeCrash binCodec 0 [[1]]).dir [[2]] s₂ s₄) ∧
    tornBytes binCodec 0 [[1]] 20 = 8 ∧
    ¬ ∃ s₂ s₄, Recovers binCodec 0 [[1]] 20 tornDir [[2]] s₂ s₄ := by
  have hc : cut (beforeCrash binCodec 0 [[1]]).dir 31 =
      some (beforeCrash binCodec 0 [[1]]).dir := by decide +kernel
  have hf : fits binCodec [1] = true := by decide
  have hz : tornBytes binCodec 0 [[1]] 31 = 0 := by decide +kernel
  have ht : tornBytes binCodec 0 [[1]] 20 = 8 := by decide +kernel
  refine ⟨hc, ?_, ht, ?_⟩
  · exact (crash_recovery_iff binCodec_round_trip hf 0 [[1]] [[2]] 31 _ (by decide) hc
      fun _ _ h => absurd hz h).mpr ⟨.inl (by decide), .inr (by decide), .inl hz⟩
  · rw [crash_recovery_iff binCodec_round_trip hf 0 [[1]] [[2]] 20 tornDir (by decide)
      (by decide +kernel) ?_]
    · rintro ⟨-, -, h⟩; rw [ht] at h; revert h
      decide
    · intro s₂ hs₂ _ file hfi; obtain rfl : tornStore = s₂ := Except.ok.inj hs₂
      have hs : ∀ f ∈ (appends binCodec tornStore [[2]]).1.dir,
          nextRecord binCodec (f.2.drop (20 - 8)) = none := by decide +kernel
      rw [ht]; exact hs _ hfi

end Aeon.L2.Body
