import Mathlib.Algebra.GroupWithZero.Nat
import Aeon.Core.Cursor

/-!
# Cluster frames

`write_frame` and `read_frame` of `crates/aeon-cluster/src/transport/framing.rs` over one stream.
The limit is checked on `payload.len() as u32`.

* `framing_exact`: when every write is one readable frame, or an error that writes nothing;
* `long_payload_misread`: 2^32 bytes behind a header that announces none.
-/
namespace Aeon.L4.Framing

open List Aeon.Core

/-- mirrors framing.rs:6 -/
def maxFrameSize : Nat := 64 * 1024 * 1024

/-- mirrors framing.rs:11-64 -/
inductive MessageType
  | appendEntries | appendEntriesResponse | vote | voteResponse
  | installSnapshot | installSnapshotResponse | fullSnapshot | fullSnapshotResponse
  | discovery | discoveryResponse | healthPing | healthPong
  | addNodeRequest | addNodeResponse | removeNodeRequest | removeNodeResponse
  | partitionTransferRequest | partitionTransferManifestFrame
  | partitionTransferChunkFrame | partitionTransferEndFrame
  | pohChainTransferRequest | pohChainTransferResponse
  | partitionCutoverRequest | partitionCutoverResponse
  | proposeForwardRequest | proposeForwardResponse
  deriving DecidableEq

def MessageType.all : List MessageType := [.appendEntries, .appendEntriesResponse, .vote, .voteResponse,
    .installSnapshot, .installSnapshotResponse, .fullSnapshot, .fullSnapshotResponse,
    .discovery, .discoveryResponse, .healthPing, .healthPong,
    .addNodeRequest, .addNodeResponse, .removeNodeRequest, .removeNodeResponse,
    .partitionTransferRequest, .partitionTransferManifestFrame,
    .partitionTransferChunkFrame, .partitionTransferEndFrame,
    .pohChainTransferRequest, .pohChainTransferResponse,
    .partitionCutoverRequest, .partitionCutoverResponse,
    .proposeForwardRequest, .proposeForwardResponse]

def MessageType.toU8 (t : MessageType) : UInt8 := UInt8.ofNat (all.idxOf t + 1)

/-- mirrors framing.rs:67-98 -/
def MessageType.fromU8 (v : UInt8) : Option MessageType := if v = 0 then none else all[v.toNat - 1]?

lemma MessageType.fromU8_toU8 (t : MessageType) : fromU8 t.toU8 = some t := by cases t <;> rfl

structure SendStream where
  sent : Bytes
  lostAt : Option Nat

def SendStream.writeAll (s : SendStream) (data : Bytes) (failed : String) : SendStream × Except String Unit :=
  if s.lostAt.any (· < s.sent.length + data.length) then
    ({ s with sent := s.sent ++ data.take (s.lostAt.getD 0 - s.sent.length) }, .error failed)
  else ({ s with sent := s.sent ++ data }, .ok ())

def tooLarge (len : Nat) : String := s!"frame too large: {len} > {maxFrameSize}"

/-- mirrors framing.rs:101-143 -/
def writeFrame (s : SendStream) (t : MessageType) (payload : Bytes) : SendStream × Except String Unit :=
  let len := payload.length % 2 ^ 32
  if maxFrameSize < len then (s, .error (tooLarge len))
  else
    match s.writeAll (t.toU8 :: leBytes 4 len) "failed to write frame header" with
    | (s, .error e) => (s, .error e)
    | (s, .ok ()) =>
      if payload.isEmpty then (s, .ok ()) else s.writeAll payload "failed to write frame payload"

/-- mirrors framing.rs:151-173 -/
def readHeader : Reader String (MessageType × Nat) := do
  let header ← Reader.bytes 5 "failed to read frame header"
  match MessageType.fromU8 (header.headD 0) with
  | none => fun _ => .error ("unknown message type: " ++ toString (header.headD 0).toNat)
  | some t =>
    if maxFrameSize < leVal header.tail then fun _ => .error (tooLarge (leVal header.tail))
    else pure (t, leVal header.tail)

/-- mirrors framing.rs:146-188 -/
def readFrame : Reader String (MessageType × Bytes) := do
  let (t, len) ← readHeader
  let payload ← Reader.bytes len "failed to read frame payload"
  pure (t, payload)

def allocated (data : Bytes) : Nat :=
  match readHeader data with
  | .ok ((_, len), _) => len
  | .error _ => 0

def writeFrames : SendStream → List (MessageType × Bytes) → SendStream × List (MessageType × Bytes)
  | s, [] => (s, [])
  | s, (t, payload) :: rest =>
    match writeFrame s t payload with
    | (s, .ok ()) => ((writeFrames s rest).1, (t, payload) :: (writeFrames s rest).2)
    | (s, .error _) => writeFrames s rest

def WritesOne (s : SendStream) (m : MessageType × Bytes) : Prop :=
  (∃ frame, writeFrame s m.1 m.2 = ({ s with sent := s.sent ++ frame }, .ok ()) ∧ Reads readFrame frame m) ∨
    ∃ e, writeFrame s m.1 m.2 = (s, .error e)

def Fits (s : SendStream) (m : MessageType × Bytes) : Prop :=
  maxFrameSize < m.2.length % 2 ^ 32 ∨ (∃ n ∈ s.lostAt, n ≤ s.sent.length) ∨
    m.2.length < 2 ^ 32 ∧ ∀ n ∈ s.lostAt, s.sent.length + (5 + m.2.length) ≤ n

def Each (P : SendStream → MessageType × Bytes → Prop) : SendStream → List (MessageType × Bytes) → Prop
  | _, [] => True
  | s, m :: msgs => P s m ∧ Each P (writeFrame s m.1 m.2).1 msgs

def Outlives (s : SendStream) (msgs : List (MessageType × Bytes)) : Prop :=
  ∀ n ∈ s.lostAt, msgs = [] ∨ s.sent.length + (msgs.map fun m => 5 + m.2.length).sum ≤ n

variable {s : SendStream} {t : MessageType} {payload : Bytes}

lemma reads_header {len : Nat} (h : len ≤ maxFrameSize) :
    Reads readHeader (t.toU8 :: leBytes 4 len) (t, len) := by
  have hv : leVal (leBytes 4 len) = len := leVal_leBytes (by rw [maxFrameSize] at h; omega)
  have hb : Reads (Reader.bytes 5 "failed to read frame header") (t.toU8 :: leBytes 4 len) _ :=
    Reads.bytes _ _
  have hr := hb.bind (f := fun header => match MessageType.fromU8 (header.headD 0) with
    | none => fun _ => .error ("unknown message type: " ++ toString (header.headD 0).toNat)
    | some t => if maxFrameSize < leVal header.tail then fun _ => .error (tooLarge (leVal header.tail))
      else pure (t, leVal header.tail)) (show Reads _ [] (t, len) from ?_)
  · rwa [append_nil] at hr
  · rw [headD_cons, tail_cons, MessageType.fromU8_toU8, hv]
    simpa only [if_neg (Nat.not_lt.mpr h)] using Reads.pure (t, len)

lemma reads_frame (h : payload.length ≤ maxFrameSize) :
    Reads readFrame (t.toU8 :: leBytes 4 payload.length ++ payload) (t, payload) := by
  have hp := (Reads.bytes payload "failed to read frame payload").bind (f := fun p => pure (t, p))
    (Reads.pure (t, payload))
  rw [append_nil] at hp
  exact (reads_header h).bind hp

lemma yields_header : Yields readHeader fun m => m.2 ≤ maxFrameSize := by
  refine Yields.bind fun header => ?_
  cases MessageType.fromU8 (header.headD 0) with
  | none => intro data a rest h; cases h
  | some =>
    dsimp only; split_ifs with hl
    · intro data a rest h; cases h
    · exact Yields.pure (Nat.not_lt.mp hl)

lemma allocated_le (data : Bytes) : allocated data ≤ maxFrameSize := by
  rw [allocated]; split
  · rename_i h; exact yields_header _ _ _ h
  · exact Nat.zero_le _

lemma writeFrame_live (hl : ¬ maxFrameSize < payload.length % 2 ^ 32)
    (hn : ∀ n ∈ s.lostAt, s.sent.length + (5 + payload.length) ≤ n) : writeFrame s t payload =
      ({ s with sent := s.sent ++ (t.toU8 :: leBytes 4 (payload.length % 2 ^ 32) ++ payload) }, .ok ()) := by
  have hw : ∀ k, k ≤ s.sent.length + (5 + payload.length) → s.lostAt.any (· < k) = false := fun k hk => by
    cases hs : s.lostAt with
    | none => rfl
    | some n => have := hn n hs; simp only [Option.any_some, decide_eq_false_iff_not]; omega
  have h5 : (t.toU8 :: leBytes 4 (payload.length % 2 ^ 32)).length = 5 := by simp
  simp only [writeFrame, if_neg hl, SendStream.writeAll, h5, hw _ (by omega : s.sent.length + 5 ≤ _)]
  simp only [Bool.false_eq_true, if_false, length_append, h5,
    hw _ (by omega : s.sent.length + 5 + payload.length ≤ _)]
  split_ifs with he
  · rw [isEmpty_iff.mp he, append_nil]
  · rw [append_assoc]

lemma writeFrame_lost (hl : ¬ maxFrameSize < payload.length % 2 ^ 32) (hn : n ∈ s.lostAt)
    (hlt : n < s.sent.length + (5 + payload.length)) :
    ∃ e, writeFrame s t payload = ({ s with sent := s.sent ++
      (t.toU8 :: leBytes 4 (payload.length % 2 ^ 32) ++ payload).take (n - s.sent.length) }, .error e) := by
  have hn : s.lostAt = some n := hn
  generalize hh : t.toU8 :: leBytes 4 (payload.length % 2 ^ 32) = header
  have h5 : header.length = 5 := by simp [← hh]
  simp only [writeFrame, if_neg hl, SendStream.writeAll, hn, hh, h5, Option.any_some, Option.getD_some]
  by_cases hlo : n < s.sent.length + 5
  · rw [take_append_of_le_length (by omega)]; simp [hlo]
  · have he : payload ≠ [] := fun he => by rw [he, length_nil] at hlt; omega
    have hp : n < s.sent.length + 5 + payload.length := by omega
    rw [take_append, take_of_length_le (by omega)]
    simp [hlo, he, h5, hp, Nat.sub_add_eq]

lemma readFrame_written (hl : ¬ maxFrameSize < payload.length % 2 ^ 32) :
    readFrame (t.toU8 :: leBytes 4 (payload.length % 2 ^ 32) ++ payload) =
      .ok ((t, payload.take (payload.length % 2 ^ 32)), payload.drop (payload.length % 2 ^ 32)) := by
  have hm : (payload.take (payload.length % 2 ^ 32)).length = payload.length % 2 ^ 32 :=
    length_take_of_le (Nat.mod_le _ _)
  have hr := reads_frame (t := t) (hm ▸ Nat.not_lt.mp hl) (payload.drop (payload.length % 2 ^ 32))
  rwa [hm, append_assoc, take_append_drop] at hr

lemma writesOne_iff (s : SendStream) (m : MessageType × Bytes) : WritesOne s m ↔ Fits s m := by
  obtain ⟨t, payload⟩ := m
  by_cases hl : maxFrameSize < payload.length % 2 ^ 32
  · exact ⟨fun _ => .inl hl, fun _ => .inr ⟨_, if_pos hl⟩⟩
  by_cases hn : ∀ n ∈ s.lostAt, s.sent.length + (5 + payload.length) ≤ n
  · have hw : writeFrame s t payload = _ := writeFrame_live hl hn
    have hlo : ¬ ∃ n ∈ s.lostAt, n ≤ s.sent.length := fun ⟨n, hs, hle⟩ => by have := hn n hs; omega
    refine ⟨fun h => .inr (.inr ⟨?_, hn⟩), fun h => .inl ⟨_, hw, ?_⟩⟩
    · rcases h with ⟨frame, h, hr⟩ | ⟨e, h⟩
      · rw [hw] at h
        obtain rfl := append_cancel_left (congrArg (fun r => r.1.sent) h)
        have hs := hr []
        rw [append_nil, readFrame_written hl] at hs
        injection hs with hs; injection hs with hs
        have hlen := congrArg (fun m => m.2.length) hs
        rw [length_take_of_le (Nat.mod_le _ _)] at hlen
        exact hlen ▸ Nat.mod_lt _ (by decide)
      · rw [hw] at h; injection h with _ h; cases h
    · have hlt : payload.length < 2 ^ 32 := ((h.resolve_left hl).resolve_left hlo).1
      rw [Nat.mod_eq_of_lt hlt] at hl ⊢
      exact reads_frame (Nat.not_lt.mp hl)
  · simp only [not_forall, Nat.not_le] at hn
    obtain ⟨n, hs, hlt⟩ := hn
    obtain ⟨e, hw⟩ := writeFrame_lost (t := t) hl hs hlt
    constructor
    · rintro (⟨frame, h, -⟩ | ⟨e', h⟩)
      · rw [hw] at h; injection h with _ h; cases h
      · rw [hw] at h
        have ht : s.sent ++ _ = s.sent := congrArg (fun r => r.1.sent) h
        have hz :=
          (take_eq_nil_iff.mp (append_cancel_left (ht.trans (append_nil _).symm))).resolve_right (by simp)
        exact .inr (.inl ⟨n, hs, by omega⟩)
    · intro h
      rcases h.resolve_left hl with ⟨n', hs', hle⟩ | ⟨-, hall⟩
      · obtain rfl := Option.some.inj (hs'.symm.trans hs)
        exact .inr ⟨e, by rw [hw, Nat.sub_eq_zero_of_le hle, take_zero, append_nil]⟩
      · have := hall n hs; dsimp only at this; omega

variable {msgs : List (MessageType × Bytes)}

lemma writeFrames_reads (h : Each WritesOne s msgs) : ∃ frames,
    (writeFrames s msgs).1 = { s with sent := s.sent ++ frames } ∧
      Reads (readFrame.many (writeFrames s msgs).2.length) frames (writeFrames s msgs).2 := by
  induction msgs generalizing s with
  | nil => exact ⟨[], by rw [append_nil]; rfl, Reads.pure []⟩
  | cons m msgs ih =>
    obtain ⟨hm, h⟩ := h
    have ih := ih h
    rcases hm with ⟨frame, hw, hr⟩ | ⟨e, hw⟩
    · rw [hw] at ih
      obtain ⟨frames, hf, hs⟩ := ih
      simp only [writeFrames, hw]
      refine ⟨frame ++ frames, by rw [hf, append_assoc], hr.bind ?_⟩
      have hc := hs.bind (f := fun ms => pure (m :: ms)) (Reads.pure (m :: _))
      rwa [append_nil] at hc
    · rw [hw] at ih
      simpa only [writeFrames, hw] using ih

lemma length_accepted (s : SendStream) (msgs : List (MessageType × Bytes)) :
    (writeFrames s msgs).2.length ≤ msgs.length := by
  induction msgs generalizing s with
  | nil => exact Nat.le_refl _
  | cons m msgs ih =>
    rw [writeFrames]; split
    · simpa using ih _
    · exact Nat.le_succ_of_le (ih _)

lemma not_accepted {m : MessageType × Bytes} (h : writeFrame s m.1 m.2 = (s', .error e)) :
    (writeFrames s (m :: msgs)).2 ≠ m :: msgs := fun ha => by
  have hle := length_accepted s' msgs
  rw [writeFrames, h] at ha; rw [ha, length_cons] at hle; omega

lemma accepted_iff (h : Each Fits s msgs) :
    (writeFrames s msgs).2 = msgs ↔ (∀ m ∈ msgs, m.2.length ≤ maxFrameSize) ∧ Outlives s msgs := by
  induction msgs generalizing s with
  | nil => exact ⟨fun _ => ⟨nofun, fun _ _ => .inl rfl⟩, fun _ => rfl⟩
  | cons m msgs ih =>
    obtain ⟨hm, h⟩ := h
    by_cases hl : maxFrameSize < m.2.length % 2 ^ 32
    · have hw : writeFrame s m.1 m.2 = _ := if_pos hl
      refine iff_of_false (not_accepted hw) fun ⟨hle, _⟩ => ?_
      have := hle m mem_cons_self; have := Nat.mod_le m.2.length (2 ^ 32); omega
    rcases hm.resolve_left hl with ⟨n, hs, hle⟩ | ⟨hlt, hn⟩
    · obtain ⟨e, hw⟩ := writeFrame_lost (t := m.1) hl hs (by omega)
      refine iff_of_false (not_accepted hw) fun ⟨_, ho⟩ => ?_
      have := (ho n hs).resolve_left (cons_ne_nil _ _); rw [map_cons, sum_cons] at this; omega
    · have hw : writeFrame s m.1 m.2 = _ := writeFrame_live hl hn
      rw [hw] at h
      rw [Nat.mod_eq_of_lt hlt] at hl
      simp only [writeFrames, hw, cons.injEq, true_and, ih h, forall_mem_cons, Nat.not_lt.mp hl]
      refine and_congr_right fun _ => forall₂_congr fun n hs => ?_
      have := hn n hs
      rcases msgs with _ | ⟨m', msgs⟩ <;> simp [length_append] <;> omega

theorem framing_exact (s : SendStream) (msgs : List (MessageType × Bytes)) :
    (Each WritesOne s msgs ↔ Each Fits s msgs) ∧
    (Each Fits s msgs → (∃ frames, (writeFrames s msgs).1 = { s with sent := s.sent ++ frames } ∧
        Reads (readFrame.many (writeFrames s msgs).2.length) frames (writeFrames s msgs).2) ∧
      ((writeFrames s msgs).2 = msgs ↔ (∀ m ∈ msgs, m.2.length ≤ maxFrameSize) ∧ Outlives s msgs)) ∧
    ∀ data, allocated data ≤ maxFrameSize := by
  have he : WritesOne = Fits := funext fun s => funext fun m => propext (writesOne_iff s m)
  rw [he]; exact ⟨Iff.rfl, fun h => ⟨writeFrames_reads (he ▸ h), accepted_iff h⟩, allocated_le⟩

theorem long_payload_misread : (writeFrame ⟨[], none⟩ .healthPing (replicate (2 ^ 32) 0)).2 = .ok () ∧
    readFrame (writeFrame ⟨[], none⟩ .healthPing (replicate (2 ^ 32) 0)).1.sent =
      .ok ((.healthPing, []), replicate (2 ^ 32) 0) := by
  have hm : (replicate (2 ^ 32) (0 : UInt8)).length % 2 ^ 32 = 0 := by rw [length_replicate, Nat.mod_self]
  have hl : ¬ maxFrameSize < (replicate (2 ^ 32) (0 : UInt8)).length % 2 ^ 32 := by
    rw [hm]; exact Nat.not_lt_zero _
  rw [writeFrame_live hl fun n hn => (Option.not_mem_none n hn).elim, nil_append]
  refine ⟨rfl, ?_⟩
  rw [readFrame_written hl, hm, take_zero, drop_zero]

end Aeon.L4.Framing
