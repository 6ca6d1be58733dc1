import Aeon.L2Store.SeqNumbers

/-!
# The L2 body store as a numbered log

`L2BodyStore` (`crates/aeon-engine/src/l2_body.rs`) in runs without faults: a list of events,
numbered from 0, of which whole segments are collected from the front.

* `store_functional`: numbers, reads and sweeps in every state of every run.
-/
namespace Aeon.L2.BodyModel

open List Option Function Aeon.Core Aeon.L2.Body Aeon.L2.AtRest Aeon.L2.TransferReplay

/-- mirrors l2_body.rs:581-621 -/
def gcLoop (hold minAckSeq now : Nat) :
    (Nat → Option Nat) → List Segment → List Nat × List Segment × (Nat → Option Nat)
  | eligibleSince, seg :: next :: segs =>
    if seg.maxSeq.any (· < minAckSeq) then
      let stamp := (eligibleSince seg.start).getD now
      if hold = 0 ∨ hold ≤ now - stamp then
        let (removed, kept, since) :=
          gcLoop hold minAckSeq now (update eligibleSince seg.start none) (next :: segs)
        (seg.start :: removed, kept, since)
      else ([], seg :: next :: segs, update eligibleSince seg.start (some stamp))
    else ([], seg :: next :: segs, eligibleSince)
  | eligibleSince, segs => ([], segs, eligibleSince)

def elapsed (hold now : Nat) (eligibleSince : Nat → Option Nat) (start : Nat) : Bool :=
  hold = 0 ∨ hold ≤ now - (eligibleSince start).getD now

section Sweep

variable {hold minAckSeq now : Nat} {eligibleSince : Nat → Option Nat} {segs : List Segment}

lemma gcSegments_congr (h : ∀ seg ∈ segs, el seg.start = el' seg.start) :
    gcSegments minAckSeq el segs = gcSegments minAckSeq el' segs := by
  induction segs with
  | nil => rfl
  | cons seg segs =>
    cases segs with
    | nil => rfl
    | cons => grind [gcSegments]

lemma gcLoop_eq (ha : segs.Pairwise (·.start < ·.start)) :
    ((gcLoop hold minAckSeq now eligibleSince segs).1, (gcLoop hold minAckSeq now eligibleSince segs).2.1) =
      gcSegments minAckSeq (elapsed hold now eligibleSince) segs := by
  induction segs generalizing eligibleSince with
  | nil => rfl
  | cons seg segs ih =>
    cases segs with
    | nil => rfl
    | cons next segs =>
      rw [pairwise_cons] at ha
      have hs : ∀ g ∈ next :: segs, elapsed hold now (update eligibleSince seg.start none) g.start =
          elapsed hold now eligibleSince g.start := by
        intro g hg; rw [elapsed, update_of_ne (Nat.ne_of_gt (ha.1 g hg)), elapsed]
      have hr : _ = gcSegments minAckSeq (elapsed hold now eligibleSince) (next :: segs) :=
        (ih ha.2).trans (gcSegments_congr hs)
      rw [gcLoop, gcSegments, ← hr]; by_cases hl : seg.maxSeq.any (· < minAckSeq) = true
      · by_cases ho : hold = 0 ∨ hold ≤ now - (eligibleSince seg.start).getD now
        · simp [hl, elapsed, ho]
        · simp [hl, elapsed, ho]
      grind

lemma gcLoop_stamp {start t : Nat} (h : (gcLoop hold minAckSeq now eligibleSince segs).2.2 start = some t) :
    eligibleSince start = some t ∨ t = now ∧ ∃ pre seg post, segs = pre ++ seg :: post ∧ post ≠ [] ∧
      seg.start = start ∧ seg.maxSeq.any (· < minAckSeq) = true := by
  induction segs generalizing eligibleSince with
  | nil => exact .inl h
  | cons seg segs =>
    cases segs with
    | nil => exact .inl h
    | cons next segs =>
      rw [gcLoop] at h; simp only at h; split_ifs at h with hl ho
      · grind
      · -- held back: stamped now, unless it was before
        by_cases heq : start = seg.start
        · simp only [heq, update_self, Option.some.injEq] at h
          cases hs : eligibleSince seg.start with
          | some => grind
          | none =>
            rw [hs] at h
            exact .inr ⟨h.symm, [], seg, next :: segs, rfl, by simp, heq.symm, hl⟩
        grind
      · exact .inl h

end Sweep

structure Sweep where
  minAckSeq : Nat
  now : Nat
  segments : List Segment

def Sweep.Found (w : Sweep) (start : Nat) : Prop :=
  ∃ pre seg post, w.segments = pre ++ seg :: post ∧ post ≠ [] ∧ seg.start = start ∧
    seg.maxSeq.any (· < w.minAckSeq) = true

/-- mirrors l2_body.rs:427-489 -/
structure State (Event Kek Dek : Type) where
  store : AtRest.Store Kek Dek
  gcMinHold : Nat
  eligibleSince : Nat → Option Nat := fun _ => none
  appended : List Event := []
  results : List (Except String Nat) := []
  sweeps : List Sweep := []

section Run

variable {Event Kek Dek : Type} (C : Codec Event) (A : Cipher Kek Dek)

variable (s : State Event Kek Dek)

/-- mirrors l2_body.rs:581-621 -/
def State.gcUpToAt (minAckSeq now : Nat) : State Event Kek Dek :=
  let (removed, kept, eligibleSince) := gcLoop s.gcMinHold minAckSeq now s.eligibleSince s.store.body.segments
  { s with
    store := { s.store with body := { s.store.body with
      dir := s.store.body.dir.filter (·.1 ∉ removed)
      segments := kept } }
    eligibleSince
    sweeps := s.sweeps ++ [⟨minAckSeq, now, s.store.body.segments⟩] }

inductive Label (Event Kek Dek : Type)
  | append (r : Random Dek) (e : Event)
  | gc (minAckSeq now : Nat)
  | reopen (segmentBytes gcMinHold : Nat) (kek : Option Kek)

def step : Label Event Kek Dek → Option (State Event Kek Dek)
  | .append r e =>
    if s.store.body.nextSeq + 1 < 2 ^ 64 ∧ Body.fits (under C A (s.store.keyFor r) r.nonce) e = true then
      let (store, result) := s.store.append C A r e
      some { s with store, appended := s.appended ++ [e], results := s.results ++ [result] }
    else none
  | .gc minAckSeq now => some (s.gcUpToAt minAckSeq now)
  | .reopen segmentBytes gcMinHold kek =>
    (AtRest.Store.openDir C A segmentBytes (s.store.kek.or kek) s.store.sidecar s.store.body.dir).toOption.map
      fun store => { s with store, gcMinHold, eligibleSince := fun _ => none }

def Fresh : Prop :=
  ∃ segmentBytes gcMinHold kek, s = { store := { body := ⟨segmentBytes, [], [], 0⟩, kek }, gcMinHold }

def system : LTS (State Event Kek Dek) (Label Event Kek Dek) := LTS.ofFn Fresh (step C A)

def State.held (seq : Nat) : Bool :=
  s.store.body.segments.any fun seg => seg.start ≤ seq && seg.maxSeq.any (seq ≤ ·)

structure Functional (s : State Event Kek Dek) : Prop where
  seqs : s.results = (List.range s.appended.length).map .ok
  replay : ∀ fromSeq, ∃ records, s.store.iterFrom C A fromSeq = .ok records ∧
    records = (number 0 s.appended).filter (fun r => s.held r.1 && fromSeq ≤ r.1) ∧
    ∃ first, records.map Prod.fst = List.range' first records.length
  sweep : ∀ minAckSeq now, ∃ gone,
    s.store.body.segments = gone ++ (s.gcUpToAt minAckSeq now).store.body.segments ∧
    (s.store.body.segments ≠ [] → (s.gcUpToAt minAckSeq now).store.body.segments ≠ []) ∧
    (s.gcUpToAt minAckSeq now).store.body.dir =
      s.store.body.dir.filter (·.1 ∉ gone.map Segment.start) ∧
    ∀ seg ∈ gone, (∃ records, s.store.iterSegment C A 0 seg = .ok records ∧ ∀ r ∈ records, r.1 < minAckSeq) ∧
      (s.gcMinHold ≠ 0 → ∃ w ∈ s.sweeps, w.now + s.gcMinHold ≤ now ∧ w.Found seg.start)
  reopens : ∀ segmentBytes gcMinHold kek, ∃ s', step C A s (.reopen segmentBytes gcMinHold kek) = some s' ∧
    s'.store.body.segments = s.store.body.segments ∧ s'.store.body.nextSeq = s.store.body.nextSeq

end Run

section Invariant

variable {Event Kek Dek : Type} {C : Codec Event} {A : Cipher Kek Dek} {s s' : State Event Kek Dek}
  {fs : List (SegFile Event)} {m n : Nat}

def contents (fs : List (SegFile Event)) : List Event := fs.flatMap fun f => f.recs.map Prod.fst

lemma length_contents (h : Runs m fs n) : n = m + (contents fs).length := by
  induction fs generalizing m with
  | nil => exact h.symm
  | cons f fs ih =>
    have hs := h.1; have hr := ih h.2
    simp only [SegFile.next, contents, flatMap_cons, length_append, length_map] at hr ⊢
    omega

lemma number_contents (h : Runs m fs n) :
    number m (contents fs) = fs.flatMap fun f => number f.start (f.recs.map Prod.fst) := by
  induction fs generalizing m with
  | nil => rfl
  | cons f fs ih =>
    have hs := h.1
    rw [contents, flatMap_cons, number_append, flatMap_cons, ← ih h.2, length_map, hs, ← hs]
    rfl

structure Inv (C : Codec Event) (A : Cipher Kek Dek) (s : State Event Kek Dek) (fs : List (SegFile Event)) :
    Prop where
  files : AtRest.Inv C A s.store fs none
  full : ∀ f ∈ fs, f.recs ≠ []
  log : ∃ collected, s.appended = collected ++ contents fs ∧ Runs collected.length fs s.store.body.nextSeq
  first : fs = [] → s.appended = []
  results : s.results = (List.range s.appended.length).map .ok
  stamps : ∀ start t, s.eligibleSince start = some t → ∃ w ∈ s.sweeps, w.now = t ∧ w.Found start

lemma Inv.nextSeq (h : Inv C A s fs) : s.store.body.nextSeq = s.appended.length := by
  grind [h.log, length_contents]

lemma inv_fresh (h : Fresh s) : Inv C A s [] := by
  obtain ⟨segmentBytes, gcMinHold, kek, rfl⟩ := h
  refine ⟨.fresh ⟨segmentBytes, kek, rfl⟩, fun f hf => absurd hf not_mem_nil, ⟨[], rfl, rfl⟩, fun _ => rfl,
    rfl,
    fun start t ht => ?_⟩
  cases ht

lemma Inv.rollover_ok (h : Inv C A s fs) : s.store.body.rollover.isOk = true := by
  rcases h.files.shape.rollover with ⟨-, -, hr⟩ | ⟨hne, msg, hr⟩ | ⟨-, -, -, b', hr, -⟩
  · rw [hr]; rfl
  · exfalso
    have hfr : s.store.body.nextSeq ∉ s.store.body.dir.map Prod.fst := by
      intro hm; obtain ⟨x, hx, hn⟩ := List.mem_map.mp hm
      rw [h.files.shape.dir, toList_none, map_nil, append_nil] at hx
      obtain ⟨f, hf, rfl⟩ := List.mem_map.mp hx
      exact Nat.ne_of_lt (h.files.shape.start_lt hf (h.full f hf)) hn
    grind [Body.Store.rollover, Dir.create]
  · rw [hr]; rfl

lemma Inv.append (hrt : ∀ e b, C.encode e = some b → C.decode b = some e) (h : Inv C A s fs)
    (hs : step C A s (.append r e) = some s') :
    ∃ fs', Inv C A s' fs' ∧ contents fs' = contents fs ++ [e] := by
  obtain ⟨⟨hb, hft⟩, hs⟩ := ite_none_right_eq_some.mp hs
  obtain rfl : { s with
    store := (s.store.append C A r e).1
    appended := s.appended ++ [e]
    results := s.results ++ [(s.store.append C A r e).2] } = s' := Option.some.inj hs
  rcases h.files.append_cases hrt hb r e with ⟨hno, -⟩ | ⟨pre, f, hr, ⟨hno, -⟩ | ⟨p, hre, hn, hfi⟩⟩
  · rw [h.rollover_ok] at hno; cases hno
  · grind
  · obtain ⟨collected, ha, hru⟩ := h.log
    have hro : contents (pre ++ [f]) = contents fs ∧ Runs collected.length (pre ++ [f]) s.store.body.nextSeq ∧
        ∀ g ∈ pre, g.recs ≠ [] := by
      rw [← hr]; unfold rolled at hr ⊢; split_ifs at hr ⊢ with hne
      · obtain ⟨rfl, -⟩ := append_inj' hr rfl
        refine ⟨by simp [contents], runs_append.mpr ⟨_, hru, rfl, ?_⟩, h.full⟩
        simp [SegFile.next, Runs]
      · exact ⟨rfl, hru, fun g hg => h.full g (hr ▸ mem_append_left _ hg)⟩
    obtain ⟨hc, hr', hp⟩ := hro
    have hpu : contents (pre ++ [f.push (e, p)]) = contents fs ++ [e] := by
      rw [← hc]; simp [contents, SegFile.push]
    refine ⟨pre ++ [f.push (e, p)], ⟨hfi, fun g hg => ?_, ⟨collected, ?_, ?_⟩, fun hni => ?_, ?_, h.stamps⟩,
      hpu⟩
    · rcases mem_append.mp hg with hg | hg
      · exact hp g hg
      · rw [mem_singleton.mp hg]; simp [SegFile.push]
    · rw [ha, hpu, append_assoc]
    · obtain ⟨k, hp, hf⟩ := runs_append.mp hr'; refine runs_append.mpr ⟨k, hp, hf.1, ?_⟩
      have he : f.next = s.store.body.nextSeq := hf.2
      rw [hn, ← he]; simp [Runs, SegFile.next, SegFile.push, Nat.add_assoc]
    · simp at hni
    · rw [hre, h.results, h.nextSeq, length_append, length_singleton, range_succ, map_append]
      rfl

lemma gcUpToAt_store (h : AtRest.Inv C A s.store fs none) (minAckSeq now : Nat) :
    (s.gcUpToAt minAckSeq now).store =
      s.store.gcUpTo minAckSeq (elapsed s.gcMinHold now s.eligibleSince) := by
  have ha : s.store.body.segments.Pairwise (·.start < ·.start) := by
    have hd := h.shape.ascending
    rw [h.shape.dir, toList_none, map_nil, append_nil, pairwise_map] at hd
    rw [h.shape.segments, pairwise_map]; exact hd
  have hl : _ = gcSegments minAckSeq (elapsed s.gcMinHold now s.eligibleSince) s.store.body.segments :=
    gcLoop_eq ha
  simp only [State.gcUpToAt, AtRest.Store.gcUpTo, Body.Store.gcUpTo, ← hl]

lemma Inv.gc (h : Inv C A s fs) (minAckSeq now : Nat) :
    ∃ pre post, fs = pre ++ post ∧ (fs ≠ [] → post ≠ []) ∧ Inv C A (s.gcUpToAt minAckSeq now) post ∧
      ∀ f ∈ pre, (f.segment C).maxSeq.any (· < minAckSeq) = true ∧
        elapsed s.gcMinHold now s.eligibleSince f.start = true := by
  obtain ⟨pre, post, rfl, hne, hfi, hg⟩ := h.files.gcUpTo minAckSeq (elapsed s.gcMinHold now s.eligibleSince)
  rw [← gcUpToAt_store h.files] at hfi; obtain ⟨collected, ha, hr⟩ := h.log
  refine ⟨pre, post, rfl, hne, ⟨hfi, fun f hf => h.full f (mem_append_right _ hf), ?_, fun hn => ?_,
    h.results, fun start t ht => ?_⟩, hg⟩
  · obtain ⟨k, hpr, hp⟩ := runs_append.mp hr; refine ⟨collected ++ contents pre, ?_, ?_⟩
    · change s.appended = _; grind [contents]
    · rw [length_append, ← length_contents hpr]; exact hp
  · refine h.first ?_
    by_contra hs; exact hne hs hn
  · -- a stamp of this sweep, or of an earlier one
    rcases gcLoop_stamp ht with hb | ⟨rfl, hfo⟩
    · obtain ⟨w, hw, hfo⟩ := h.stamps start t hb; exact ⟨w, mem_append_left _ hw, hfo⟩
    · exact ⟨⟨minAckSeq, t, s.store.body.segments⟩, mem_append_right _ (mem_singleton.mpr rfl), rfl, hfo⟩

lemma loadCipher_or (h : AtRest.Inv C A st fs none) (hfu : ∀ f ∈ fs, f.recs ≠ []) (kek : Option Kek) :
    ∀ f ∈ fs, loadCipher A (st.kek.or kek) (st.sidecar f.start) = .ok (st.encryptor f.start) := by
  intro f hf
  cases hk : st.kek with
  | some => rw [some_or, ← hk]; exact (h.loads f hf).resolve_left fun hl => hfu f hf hl.1
  | none => obtain ⟨hs, he⟩ := h.plain hk; rw [hs, he]; cases kek <;> rfl

lemma openDir_files (h : AtRest.Inv C A st fs none) (hfu : ∀ f ∈ fs, f.recs ≠ [])
    (hfi : fs = [] → st.body.nextSeq = 0) (segmentBytes : Nat) (kek : Option Kek) :
    ∃ st', AtRest.Store.openDir C A segmentBytes (st.kek.or kek) st.sidecar st.body.dir = .ok st' ∧
      st'.body = ⟨segmentBytes, st.body.dir, st.body.segments, st.body.nextSeq⟩ ∧
      AtRest.Inv C A st' fs none := by
  have hl := loadCipher_or h hfu kek
  have hd : st.body.dir = fs.map fun f => (f.start, f.bytes C) := by simpa using h.shape.dir
  obtain ⟨m, hru⟩ := h.shape.runs
  have ho := openFiles_loaded (fun f => st.encryptor f.start) hl (fun f hf => h.fits hf)
    (fun f hf => mapM_of_forall fun r hr => (h.reads f hf r hr).2) hru
  have hne : derivedNext fs st.body.nextSeq = st.body.nextSeq := by
    rw [derivedNext_eq_iff]; rcases fs with _ | ⟨f, fs⟩
    · exact .inl (hfi rfl)
    grind
  rw [← hd, hne] at ho
  have hs : (fs.map fun f => (f.segment C, st.encryptor f.start)).map Prod.fst = st.body.segments := by
    rw [h.shape.segments, List.map_map]; rfl
  have hke : ∀ f ∈ fs, ((fs.map fun f => (f.segment C, st.encryptor f.start)).find?
      (·.1.start = f.start)).bind Prod.snd = st.encryptor f.start := by
    intro f hf; have ha := h.shape.ascending; rw [hd, pairwise_map] at ha
    have hfn : fs.find? (fun g => decide (g.start = f.start)) = some f :=
      find?_of_ascending_key SegFile.start ha hf fun _ => rfl
    rw [find?_map]
    exact congrArg (fun o => (o.map fun g => (g.segment C, st.encryptor g.start)).bind Prod.snd) hfn
  refine ⟨{ body := ⟨segmentBytes, st.body.dir, st.body.segments, st.body.nextSeq⟩
            kek := st.kek.or kek
            sidecar := st.sidecar
            encryptor := fun start => ((fs.map fun f => (f.segment C, st.encryptor f.start)).find?
              (·.1.start = start)).bind Prod.snd }, ?_, rfl, ?_⟩
  · rw [AtRest.Store.openDir, ho]; simp only [bind, Except.bind, hs]
  · refine ⟨⟨h.shape.dir, h.shape.segments, h.shape.runs, h.shape.closed, fun n hn => by cases hn⟩, h.bound,
      ?_, ?_, ?_⟩
    · intro hk; obtain ⟨hsi, he⟩ := h.plain (or_eq_none_iff.mp hk).1
      refine ⟨hsi, fun n => ?_⟩; simp only [he, find?_map]
      generalize fs.find? _ = found; cases found <;> rfl
    · grind
    · intro f hf r hr; have hre := h.reads f hf r hr; grind

lemma Inv.reopen (h : Inv C A s fs) (segmentBytes gcMinHold : Nat) (kek : Option Kek) :
    ∃ s', step C A s (.reopen segmentBytes gcMinHold kek) = some s' ∧
      s'.store.body.segments = s.store.body.segments ∧ s'.store.body.nextSeq = s.store.body.nextSeq ∧
      Inv C A s' fs := by
  have hf : fs = [] → s.store.body.nextSeq = 0 := by intro hn; rw [h.nextSeq, h.first hn]; rfl
  obtain ⟨store, ho, hb, hfi⟩ := openDir_files h.files h.full hf segmentBytes kek
  refine ⟨{ s with store, gcMinHold, eligibleSince := fun _ => none }, ?_, ?_, ?_, hfi, h.full, ?_, h.first,
    h.results, ?_⟩
  · rw [BodyModel.step, ho]; rfl
  · rw [hb]
  · rw [hb]
  · obtain ⟨collected, ha, hr⟩ := h.log; grind
  simp

lemma Inv.step (hrt : ∀ e b, C.encode e = some b → C.decode b = some e) (h : Inv C A s fs)
    (hs : step C A s l = some s') : ∃ fs', Inv C A s' fs' := by
  cases l with
  | append => obtain ⟨fs', h', -⟩ := h.append hrt hs; exact ⟨fs', h'⟩
  | gc minAckSeq now => cases hs; obtain ⟨-, post, -, -, hp, -⟩ := h.gc minAckSeq now; exact ⟨post, hp⟩
  | reopen segmentBytes gcMinHold kek =>
    obtain ⟨s'', hs'', -, -, hi⟩ := h.reopen segmentBytes gcMinHold kek; grind

lemma filter_number_from (m fromSeq : Nat) (es : List Event) :
    ∃ first rest, (number m es).filter (fun r => fromSeq ≤ r.1) = number first rest := by
  induction es generalizing m with
  | nil => exact ⟨m, [], rfl⟩
  | cons e es ih =>
    by_cases hle : fromSeq ≤ m
    · refine ⟨m, e :: es, filter_eq_self.mpr fun r hr => ?_⟩; have := (mem_number hr).1
      grind
    · rw [number, filter_cons_of_neg (by simpa using hle)]; exact ih (m + 1)

lemma map_fst_number (m : Nat) (es : List Event) : (number m es).map Prod.fst = List.range' m es.length := by
  induction es generalizing m with
  | nil => rfl
  | cons e es ih => rw [number, map_cons, ih, length_cons, range'_succ]

lemma Inv.held_iff (h : Inv C A s fs) {seq : Nat} :
    s.held seq = true ↔ ∃ f ∈ fs, f.start ≤ seq ∧ seq < f.next := by
  simp only [State.held, h.files.shape.segments, List.any_map, List.any_eq_true, comp_apply,
    Bool.and_eq_true, decide_eq_true_eq]
  refine exists_congr fun f => and_congr_right fun hf => ?_
  have hp := length_pos_iff.mpr (h.full f hf)
  have hn : f.next = f.start + f.recs.length := rfl
  simp only [SegFile.segment, if_neg (h.full f hf), any_some, decide_eq_true_eq]
  omega

lemma Inv.iterFrom (h : Inv C A s fs) (hru : Runs m fs s.store.body.nextSeq) (fromSeq : Nat) :
    s.store.iterFrom C A fromSeq = .ok ((number m (contents fs)).filter fun r => fromSeq ≤ r.1) := by
  rw [h.files.iterFrom, number_contents hru, filter_flatMap]; rfl

lemma Inv.replay (h : Inv C A s fs) (fromSeq : Nat) :
    ∃ records, s.store.iterFrom C A fromSeq = .ok records ∧
      records = (number 0 s.appended).filter (fun r => s.held r.1 && fromSeq ≤ r.1) ∧
      ∃ first, records.map Prod.fst = List.range' first records.length := by
  obtain ⟨collected, ha, hru⟩ := h.log; have hn := number_contents hru
  refine ⟨(number collected.length (contents fs)).filter fun r => fromSeq ≤ r.1, ?_, ?_, ?_⟩
  · exact h.iterFrom hru fromSeq
  · -- the collected numbers are below all that are left
    have hl : ∀ r ∈ number 0 collected, s.held r.1 = false := by
      intro r hr; rw [← Bool.not_eq_true, h.held_iff]; rintro ⟨f, hf, hs, -⟩
      have hlt := (mem_number hr).2.1; have hge := (hru.mem hf).1; omega
    have hh : ∀ r ∈ number collected.length (contents fs), s.held r.1 = true := by
      intro r hr; rw [hn] at hr; obtain ⟨f, hf, hr⟩ := mem_flatMap.mp hr
      obtain ⟨hge, hlt, -⟩ := mem_number hr; rw [length_map] at hlt
      exact h.held_iff.mpr ⟨f, hf, hge, hlt⟩
    have hno : (number 0 collected).filter (fun r => s.held r.1 && fromSeq ≤ r.1) = [] :=
      filter_eq_nil_iff.mpr fun r hr => by simp [hl r hr]
    rw [ha, number_append, Nat.zero_add, filter_append, hno, nil_append]
    exact filter_congr fun r hr => by simp [hh r hr]
  · obtain ⟨first, rest, heq⟩ := filter_number_from collected.length fromSeq (contents fs)
    exact ⟨first, by rw [heq, map_fst_number, length_number]⟩

lemma Inv.sweep (h : Inv C A s fs) (minAckSeq now : Nat) :
    ∃ gone, s.store.body.segments = gone ++ (s.gcUpToAt minAckSeq now).store.body.segments ∧
      (s.store.body.segments ≠ [] → (s.gcUpToAt minAckSeq now).store.body.segments ≠ []) ∧
      (s.gcUpToAt minAckSeq now).store.body.dir = s.store.body.dir.filter (·.1 ∉ gone.map Segment.start) ∧
      ∀ seg ∈ gone, (∃ records, s.store.iterSegment C A 0 seg = .ok records ∧ ∀ r ∈ records,
        r.1 < minAckSeq) ∧
        (s.gcMinHold ≠ 0 → ∃ w ∈ s.sweeps, w.now + s.gcMinHold ≤ now ∧ w.Found seg.start) := by
  obtain ⟨pre, post, rfl, hne, hp, hg⟩ := h.gc minAckSeq now
  have hsg := h.files.shape.segments; have hs' := hp.files.shape.segments
  refine ⟨pre.map (SegFile.segment C), ?_, ?_, ?_, fun seg hse => ?_⟩
  · grind
  · simp_all
  · -- the files left are those of `post`, in a directory in the order of the names
    have ha := h.files.shape.ascending
    have hd : s.store.body.dir = pre.map (fun f => (f.start, f.bytes C)) ++ post.map fun f =>
      (f.start, f.bytes C) := by
      simpa using h.files.shape.dir
    have hd' : (s.gcUpToAt minAckSeq now).store.body.dir = post.map fun f => (f.start, f.bytes C) := by
      simpa using hp.files.shape.dir
    rw [hd, pairwise_append] at ha
    rw [hd, hd', filter_append, filter_eq_nil_iff.mpr, nil_append, filter_eq_self.mpr]
    · intro x hx
      simp only [List.map_map, List.mem_map, comp_apply, decide_eq_true_eq, not_exists, not_and]
      intro f hf heq; have hlt := ha.2.2 _ (List.mem_map_of_mem hf) x hx
      exact Nat.ne_of_lt hlt heq
    · intro x hx; obtain ⟨f, hf, rfl⟩ := List.mem_map.mp hx; simpa using ⟨f, hf, rfl⟩
  · obtain ⟨f, hf, rfl⟩ := List.mem_map.mp hse; obtain ⟨hl, ho⟩ := hg f hf
    have hm : f ∈ pre ++ post := mem_append_left _ hf
    refine ⟨⟨_, h.files.iterSegment hm 0, fun r hr => ?_⟩, fun hh => ?_⟩
    · have hlt := (mem_number (mem_of_mem_filter hr)).2.1; rw [length_map] at hlt
      have hn : f.next = f.start + f.recs.length := rfl
      simp only [SegFile.segment, if_neg (h.full f hm), any_some, decide_eq_true_eq] at hl
      omega
    · simp only [elapsed, hh, false_or, decide_eq_true_eq] at ho
      cases hs : s.eligibleSince f.start with
      | none => grind
      | some t =>
        rw [hs, getD_some] at ho; obtain ⟨w, hw, rfl, hfo⟩ := h.stamps f.start t hs
        exact ⟨w, hw, by omega, hfo⟩

lemma exists_inv (hrt : ∀ e b, C.encode e = some b → C.decode b = some e) (h : (system C A).Reachable s) :
    ∃ fs, Inv C A s fs := by
  refine LTS.Inductive.reachable (I := fun s => ∃ fs, Inv C A s fs) ⟨fun s hs => ⟨[], inv_fresh hs⟩, ?_⟩ h
  rintro t l u ⟨fs, ht⟩ hl; exact ht.step hrt hl

/-- In every state of every run without faults the store is `Functional`. -/
theorem store_functional (hrt : ∀ e b, C.encode e = some b → C.decode b = some e)
    (h : (system C A).Reachable s) : Functional C A s := by
  obtain ⟨fs, h⟩ := exists_inv hrt h
  refine ⟨h.results, h.replay, h.sweep, fun segmentBytes gcMinHold kek => ?_⟩
  obtain ⟨s', hs', hse, hn, -⟩ := h.reopen segmentBytes gcMinHold kek; grind

end Invariant

theorem store_functional_held :
    ∃ s : State Bytes UInt8 UInt8, s.appended = [[7], [8], [9], [10]] ∧
      s.store.body.segments.map (·.start) = [1, 2] ∧ Functional binCodec xorCipher s := by
  have h : (LTS.exec (step binCodec xorCipher)
      { store := { body := ⟨13, [], [], 0⟩, kek := none }, gcMinHold := 10 }
      [.append ⟨1, [], []⟩ [7], .append ⟨2, [], []⟩ [8], .append ⟨3, [], []⟩ [9], .gc 2 5, .gc 2 20,
        .reopen 100 0 (some 9), .append ⟨4, [], []⟩ [10]]).map
      (fun s => (s.appended, s.store.body.segments.map (·.start))) = some ([[7], [8], [9], [10]],
        [1, 2]) := by
    decide +kernel
  obtain ⟨s, hs, hv⟩ := map_eq_some_iff.mp h; obtain ⟨ha, hst⟩ := Prod.mk.inj hv
  exact ⟨s, ha, hst, store_functional binCodec_round_trip ⟨_, _, ⟨13, 10, none, rfl⟩, LTS.run_of_exec hs⟩⟩

end Aeon.L2.BodyModel
