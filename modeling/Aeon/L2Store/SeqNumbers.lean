import Aeon.L2Store.TransferReplay

/-!
# The sequence numbers of a partition

`L2BodyStore` (`crates/aeon-engine/src/l2_body.rs`) over restarts: `open` derives the next number
from the records, not from the names of the files. Appends may fail behind any byte.

* `seqs_increase`: when the numbers of the appends that returned `Ok` increase;
* `seqs_reused`: a disk that fills up.
-/
namespace Aeon.L2.SeqNumbers

open List Option Aeon.Core Aeon.L2.Body Aeon.L2.AtRest Aeon.L2.TransferReplay

section Open

variable {Event Kek Dek : Type} {C : Codec Event} {A : Cipher Kek Dek} {kek : Option Kek}
  {sidecar : Nat → Option Bytes} {fs : List (SegFile Event)} {f : SegFile Event} {d : Dir}
  {b : Body.Store} {torn : Option Nat} {m n : Nat}

lemma openSegment_ok {start : Nat} {file : Bytes} (h : AtRest.openSegment C A kek sc start file = .ok r) :
    loadCipher A kek sc = .ok r.2 ∧ Segment.openFile (under C A r.2 []) start file = .ok r.1 := by
  unfold AtRest.openSegment at h
  cases hl : loadCipher A kek sc with
  | error => rw [hl] at h; cases h
  | ok => simp only [hl, bind, Except.bind] at h; grind

lemma openFiles_cons_ok {start : Nat} {file : Bytes}
    (h : AtRest.openFiles C A kek sidecar ((start, file) :: d) = .ok r) :
    ∃ seg rest, AtRest.openSegment C A kek (sidecar start) start file = .ok seg ∧
      AtRest.openFiles C A kek sidecar d = .ok rest := by
  rw [AtRest.openFiles] at h
  cases ho : AtRest.openSegment C A kek (sidecar start) start file with
  | error => rw [ho] at h; cases h
  | ok seg =>
    cases hr : AtRest.openFiles C A kek sidecar d with
    | error => simp only [ho, hr, bind, Except.bind] at h; cases h
    | ok rest => exact ⟨seg, rest, rfl, rfl⟩

lemma openFile_bytes_ok {key : Option Dek} {seg : Segment} (hf : f.Fits)
    (h : Segment.openFile (under C A key []) f.start (f.bytes C) = .ok seg) : seg = f.segment C := by
  cases hd : (f.recs.map Prod.snd).mapM (under C A key []).decode with
  | none =>
    obtain ⟨msg, hm⟩ := openFile_undecoded (C := C) (D := under C A key []) rfl hf hd
    rw [hm] at h; cases h
  | some => rw [openFile_decoded (C := C) (D := under C A key []) rfl hf hd] at h; cases h; rfl

lemma openFiles_bytes (hf : ∀ f ∈ fs, f.Fits) (hr : Runs m fs n)
    (h : AtRest.openFiles C A kek sidecar (fs.map fun f => (f.start, f.bytes C)) = .ok r) :
    r.1.map Prod.fst = fs.map (SegFile.segment C) ∧ r.2 = derivedNext fs n := by
  induction fs generalizing m r with
  | nil => cases h; exact ⟨rfl, rfl⟩
  | cons f fs ih =>
    obtain ⟨⟨seg, key⟩, ⟨segs, next⟩, ho, hre⟩ := openFiles_cons_ok h
    obtain ⟨hs, hn⟩ := ih (fun g hg => hf g (mem_cons_of_mem _ hg)) hr.2 hre
    obtain rfl : seg = f.segment C := openFile_bytes_ok (hf f mem_cons_self) (openSegment_ok ho).2
    obtain rfl : next = derivedNext fs n := hn
    rw [map_cons, openFiles_cons hr.2 ho hre] at h; grind

lemma openFiles_short (hx : x ∈ d) (hl : x.2.length < headerSize) :
    AtRest.openFiles C A kek sidecar d ≠ .ok r := by
  induction d generalizing r with
  | nil => cases hx
  | cons g d ih =>
    intro h; obtain ⟨seg, rest, ho, hr⟩ := openFiles_cons_ok h
    rcases mem_cons.mp hx with rfl | hx
    · have hf := (openSegment_ok ho).2; rw [Segment.openFile, if_pos hl] at hf; cases hf
    · exact ih hx hr

lemma Shape.reopen {segmentBytes : Nat} (h : Shape C b fs torn) (hfi : ∀ f ∈ fs, f.Fits)
    (ho : AtRest.Store.openDir C A segmentBytes kek sidecar b.dir = .ok s') :
    torn = none ∧ s'.body = ⟨segmentBytes, b.dir, b.segments, derivedNext fs b.nextSeq⟩ := by
  unfold AtRest.Store.openDir at ho
  cases hf : AtRest.openFiles C A kek sidecar b.dir with
  | error => rw [hf] at ho; cases ho
  | ok =>
    have hno : torn = none := by
      cases ht : torn with
      | none => rfl
      | some n =>
        refine absurd hf (openFiles_short (x := (b.nextSeq, header.take n)) ?_ ?_)
        · simp [h.dir, ht]
        · rw [length_take, length_header]; have := (h.stuck n ht).1; omega
    simp only [hf, bind, Except.bind] at ho; cases ho
    have hd : b.dir = fs.map fun f => (f.start, f.bytes C) := by grind [h.dir]
    obtain ⟨m, hr⟩ := h.runs; rw [hd] at hf; obtain ⟨hs, hn⟩ := openFiles_bytes hfi hr hf
    simp_all [h.segments]

end Open

section Run

variable {Event Kek Dek : Type} (C : Codec Event) (A : Cipher Kek Dek)

/-- mirrors l2_body.rs:289-297, 536-558 -/
def appendCut (s : AtRest.Store Kek Dek) (r : Random Dek) (e : Event) (n : Nat) : Option
    (AtRest.Store Kek Dek) := do
  let b ← s.body.rollover.toOption
  let writable ← b.segments.getLast?
  let (_, bytes) ← (writable.append (under C A (s.keyFor r) r.nonce) b.nextSeq e).toOption
  if n < bytes.length then
    some { s with
        body := { b with dir := b.dir.write writable.start (bytes.take n) }
        sidecar := if s.body.needNew then s.writeSidecar A r else s.sidecar
        encryptor :=
          if s.body.needNew then Function.update s.encryptor s.body.nextSeq (s.kek.map fun _ => r.dek)
          else s.encryptor }
  else none

structure State (Kek Dek : Type) where
  store : AtRest.Store Kek Dek
  acked : List Nat := []

inductive Label (Event Kek Dek : Type)
  | append (r : Random Dek) (e : Event)
  | appendTorn (r : Random Dek) (n : Nat)
  | appendCut (r : Random Dek) (e : Event) (n : Nat)
  | gc (minAckSeq : Nat) (elapsed : Nat → Bool)
  | reopen (segmentBytes : Nat) (kek : Option Kek)

def step (s : State Kek Dek) : Label Event Kek Dek → Option (State Kek Dek)
  | .append r e =>
    if s.store.body.nextSeq + 1 < 2 ^ 64 then
      let (store, result) := s.store.append C A r e
      some ⟨store, s.acked ++ result.toOption.toList⟩
    else none
  | .appendTorn r n =>
    if n < headerSize then (s.store.appendTorn A r n).map fun store => { s with store } else none
  | .appendCut r e n => (appendCut C A s.store r e n).map fun store => { s with store }
  | .gc minAckSeq elapsed => some { s with store := s.store.gcUpTo minAckSeq elapsed }
  | .reopen segmentBytes kek =>
    (AtRest.Store.openDir C A segmentBytes kek s.store.sidecar s.store.body.dir).toOption.map
      fun store => { s with store }

def system : LTS (State Kek Dek) (Label Event Kek Dek) :=
  LTS.ofFn (fun s => AtRest.Fresh s.store ∧ s.acked = []) (step C A)

def Allowed (s : State Kek Dek) : Label Event Kek Dek → Prop
  | .appendCut _ _ n => n = 0
  | .reopen _ _ => s.acked = [] ∨ ∃ f ∈ s.store.body.dir, rawRecords C.crc32 f.2 ≠ []
  | _ => True

end Run

section Invariant

variable {Event Kek Dek : Type} {C : Codec Event} {A : Cipher Kek Dek} {s s' : State Kek Dek}
  {fs : List (SegFile Event)} {torn : Option Nat}

structure Inv (C : Codec Event) (s : State Kek Dek) (fs : List (SegFile Event))
    (torn : Option Nat) : Prop where
  shape : Shape C s.store.body fs torn
  bound : s.store.body.nextSeq < 2 ^ 64
  lengths : ∀ f ∈ fs, ∀ r ∈ f.recs, r.2.length < 2 ^ 32
  increasing : s.acked.Pairwise (· < ·)
  below : ∀ seq ∈ s.acked, seq < s.store.body.nextSeq
  first : s.acked = [] → s.store.body.nextSeq = 0

lemma Inv.fits (h : Inv C s fs torn) (hf : f ∈ fs) : f.Fits := by
  obtain ⟨m, hr⟩ := h.shape.runs; have hle := (hr.mem hf).2; have hb := h.bound
  exact ⟨h.lengths f hf, by omega⟩

lemma inv_fresh (hfr : AtRest.Fresh s.store) (ha : s.acked = []) : Inv C s [] none := by
  obtain ⟨segmentBytes, kek, hs⟩ := hfr; constructor
  · rw [hs]
    exact ⟨rfl, rfl, ⟨0, rfl⟩, fun f hf => absurd hf not_mem_nil, fun n hn => by cases hn⟩
  · grind
  · intro f hf; cases hf
  · grind
  · grind
  grind

lemma Inv.keep {torn' : Option Nat} (h : Inv C s fs torn) (ha : s'.acked = s.acked)
    (hs : Shape C s'.store.body fs' torn') (hn : s'.store.body.nextSeq = s.store.body.nextSeq)
    (hl : ∀ f ∈ fs', ∀ r ∈ f.recs, r.2.length < 2 ^ 32) : Inv C s' fs' torn' where
  shape := hs
  bound := hn ▸ h.bound
  lengths := hl
  increasing := ha ▸ h.increasing
  below := by rw [ha, hn]; exact h.below
  first := by rw [ha, hn]; exact h.first

lemma Inv.lengths_rolled (h : Inv C s fs torn) :
    ∀ f ∈ rolled s.store.body fs, ∀ r ∈ f.recs, r.2.length < 2 ^ 32 := by
  intro f hf r hr; unfold rolled at hf; split_ifs at hf
  · rcases mem_append.mp hf with hf | hf
    · exact h.lengths f hf r hr
    grind
  · exact h.lengths f hf r hr

lemma step_append {result : Except String Nat} (hs : step C A s (.append r e) = some s')
    (ha : s.store.body.append (under C A (s.store.keyFor r) r.nonce) e = (b, result)) :
    s.store.body.nextSeq + 1 < 2 ^ 64 ∧ s'.store.body = b ∧ s'.acked = s.acked ++ result.toOption.toList := by
  obtain ⟨hb, hs⟩ := ite_none_right_eq_some.mp hs; grind

lemma Inv.append (h : Inv C s fs torn) (hs : step C A s (.append r e) = some s') :
    ∃ fs' torn', Inv C s' fs' torn' := by
  have hl := h.lengths_rolled
  rcases h.shape.append (C := C) (D := under C A (s.store.keyFor r) r.nonce) rfl e with
    ⟨-, -, msg, hap⟩ | ⟨-, -, -, pre, f, b', hr, ⟨msg, -, hap, hsh, hse⟩ |
      ⟨p, -, hle, hap, hsh, hse⟩⟩
  · obtain ⟨-, hbo, hac⟩ := step_append hs hap
    exact ⟨fs, torn, h.keep (hac.trans (append_nil _)) (hbo ▸ h.shape) (by rw [hbo]) h.lengths⟩
  · obtain ⟨-, hbo, hac⟩ := step_append hs hap; rw [hr] at hl
    exact ⟨pre ++ [f], none, h.keep (hac.trans (append_nil _)) (hbo ▸ hsh) (by rw [hbo, hse]) hl⟩
  · obtain ⟨hbu, hbo, hac⟩ := step_append hs hap; rw [hr] at hl
    refine ⟨pre ++ [f.push (e, p)], none, ?_⟩; constructor
    · rw [hbo]; exact hsh
    · grind
    · intro g hg q hq; rcases mem_append.mp hg with hg | hg
      · grind
      · rw [mem_singleton.mp hg] at hq; rcases mem_append.mp hq with hq | hq
        · exact hl f (by simp) q hq
        grind
    · -- the number given out is above all before
      rw [hac, pairwise_append]
      refine ⟨h.increasing, pairwise_singleton _ _, fun a ha b hb => ?_⟩
      rw [mem_singleton.mp hb]; exact h.below a ha
    · rw [hac, hbo, hse]; intro seq hm; rcases mem_append.mp hm with hm | hm
      · exact Nat.lt_succ_of_lt (h.below seq hm)
      simp [mem_singleton.mp hm]
    simp [hac, Except.toOption]

lemma Inv.appendTorn (h : Inv C s fs torn) (hs : step C A s (.appendTorn r n) = some s') :
    ∃ fs' torn', Inv C s' fs' torn' := by
  obtain ⟨hn, hs⟩ := ite_none_right_eq_some.mp hs
  obtain ⟨store, hst, rfl⟩ := map_eq_some_iff.mp hs
  unfold AtRest.Store.appendTorn at hst; split_ifs at hst with hne
  obtain ⟨dir, hc, rfl⟩ := map_eq_some_iff.mp hst
  exact ⟨fs, some n, h.keep rfl (h.shape.leaveTorn hne hn hc) rfl h.lengths⟩

lemma Dir.write_nil (d : Dir) (start : Nat) : d.write start [] = d := by simp [Dir.write]

section

variable (h : Inv C s fs torn)
include h

lemma Inv.appendCut_zero (hs : step C A s (.appendCut r e 0) = some s') :
    ∃ fs' torn', Inv C s' fs' torn' := by
  obtain ⟨store, hst, rfl⟩ := map_eq_some_iff.mp hs
  obtain ⟨b, hb, hst⟩ := bind_eq_some_iff.mp hst
  obtain ⟨writable, -, hst⟩ := bind_eq_some_iff.mp hst
  obtain ⟨⟨active, bytes⟩, -, hst⟩ := bind_eq_some_iff.mp hst
  obtain ⟨-, hst⟩ := ite_none_right_eq_some.mp hst; cases hst
  have hl := h.lengths_rolled; unfold rolled at hl
  rcases h.shape.rollover with ⟨hn, -, hr⟩ | ⟨-, msg, hr⟩ | ⟨hn, -, -, b', hr, hne, -, hsh⟩
  · rw [hr] at hb; cases hb; refine ⟨fs, torn, h.keep rfl ?_ rfl h.lengths⟩
    rw [take_zero, Dir.write_nil]; exact h.shape
  · rw [hr] at hb; cases hb
  · rw [hr] at hb; cases hb; rw [if_pos hn] at hl
    refine ⟨_, none, h.keep rfl ?_ hne hl⟩; rw [take_zero, Dir.write_nil]; exact hsh

lemma Inv.gc (minAckSeq : Nat) (elapsed : Nat → Bool) :
    ∃ fs' torn', Inv C { s with store := s.store.gcUpTo minAckSeq elapsed } fs' torn' := by
  obtain ⟨pre, post, rfl, -, hs, -⟩ := h.shape.gcUpTo minAckSeq elapsed
  exact ⟨post, torn, h.keep rfl hs rfl fun f hf => h.lengths f (mem_append_right _ hf)⟩

lemma Inv.reopen {segmentBytes : Nat} {kek : Option Kek}
    (ha : s.acked = [] ∨ ∃ f ∈ s.store.body.dir, rawRecords C.crc32 f.2 ≠ [])
    (hs : step C A s (.reopen segmentBytes kek) = some s') : ∃ fs' torn', Inv C s' fs' torn' := by
  obtain ⟨store, hst, rfl⟩ := map_eq_some_iff.mp hs
  have ho : AtRest.Store.openDir C A segmentBytes kek s.store.sidecar s.store.body.dir = .ok store := by
    cases hr : AtRest.Store.openDir C A segmentBytes kek s.store.sidecar s.store.body.dir with
    | error => rw [hr] at hst; cases hst
    | ok => rw [hr] at hst; cases hst; rfl
  have hfi : ∀ f ∈ fs, f.Fits := fun f hf => h.fits hf
  obtain ⟨rfl, hb⟩ := Shape.reopen h.shape hfi ho
  have hne : derivedNext fs s.store.body.nextSeq = s.store.body.nextSeq := by
    rw [derivedNext_eq_iff]; exact ha.imp h.first (counted_iff h.shape hfi).mp
  refine ⟨fs, none, h.keep rfl ?_ (by rw [hb, hne]) h.lengths⟩; rw [hb, hne]
  exact ⟨h.shape.dir, h.shape.segments, h.shape.runs, h.shape.closed, fun n hn => by cases hn⟩

lemma Inv.step (ha : Allowed C s l) (hs : step C A s l = some s') : ∃ fs' torn', Inv C s' fs' torn' := by
  cases l with
  | append => exact h.append hs
  | appendTorn => exact h.appendTorn hs
  | appendCut r e n => obtain rfl : n = 0 := ha; exact h.appendCut_zero hs
  | gc minAckSeq elapsed => cases hs; exact h.gc minAckSeq elapsed
  | reopen => exact h.reopen ha hs

end

/-- In every run whose steps are allowed, the numbers of the appends that returned `Ok` increase,
over all restarts. -/
theorem seqs_increase {s₀ : State Kek Dek} {labels : List (Label Event Kek Dek)} (hi : (system C A).init s₀)
    (hr : ((system C A).restrict (Allowed C)).Run s₀ labels s) :
    s.acked.Pairwise (· < ·) := by
  have h : ∃ fs torn, Inv C s fs torn := by
    refine hr.induct (I := fun s => ∃ fs torn, Inv C s fs torn) (fun t l u ht hl => ?_) ⟨[], none, ?_⟩
    · obtain ⟨fs, torn, ht⟩ := ht; exact ht.step hl.1 hl.2
    · exact inv_fresh hi.1 hi.2
  obtain ⟨fs, torn, h⟩ := h; exact h.increasing

end Invariant

instance decidableAllowed {Event Kek Dek : Type} (C : Codec Event) (s : State Kek Dek)
    (l : Label Event Kek Dek) : Decidable (Allowed C s l) := by
  cases l <;> dsimp only [Allowed] <;> infer_instance

def emptyDir (segmentBytes : Nat) : State UInt8 UInt8 :=
  ⟨{ body := ⟨segmentBytes, [], [], 0⟩, kek := none }, []⟩

theorem seqs_increase_two_restarts :
    ∃ s : State UInt8 UInt8, s.acked = [0, 1, 2, 3] ∧ s.acked.Pairwise (· < ·) := by
  have h : (LTS.exec (fun s l => if Allowed binCodec s l then step binCodec xorCipher s l else none)
    (emptyDir 13)
      [.append ⟨1, [], []⟩ [7], .append ⟨2, [], []⟩ [8], .appendCut ⟨3, [], []⟩ [9] 0, .gc 1 (fun _ => true),
        .reopen 13 none, .append ⟨4, [], []⟩ [9], .reopen 13 (some 9), .append ⟨5, [], []⟩ [10]]).map
      (·.acked) = some [0, 1, 2, 3] := by decide +kernel
  obtain ⟨s, hs, ha⟩ := map_eq_some_iff.mp h
  have hi : (system binCodec xorCipher).init (emptyDir 13) := ⟨⟨13, none, rfl⟩, rfl⟩
  exact ⟨s, ha, seqs_increase hi (LTS.run_restrict_of_exec hs)⟩

theorem seqs_reused : (∃ s, (system binCodec xorCipher).Run (emptyDir 13)
        [.append ⟨1, [], []⟩ [7], .appendCut ⟨2, [], []⟩ [8] 0, .gc 1 (fun _ => true), .reopen 13 none,
          .append ⟨3, [], []⟩ [9]] s ∧ s.acked = [0, 0]) ∧
    ∃ s, (system binCodec xorCipher).Run (emptyDir 0)
        [.append ⟨1, [], []⟩ [7], .appendCut ⟨2, [], []⟩ [8] 5, .append ⟨3, [], []⟩ [8], .reopen 0 none,
          .append ⟨4, [], []⟩ [9]] s ∧ s.acked = [0, 1, 1] := by
  constructor
  · exact LTS.exists_run (by decide +kernel)
  · exact LTS.exists_run (by decide +kernel)

end Aeon.L2.SeqNumbers
