import Mathlib.Data.Multiset.Sort
import Aeon.Core.HashMap
import Aeon.L1Types.Event

/-!
# Checkpoint persistence

`crates/aeon-engine/src/checkpoint.rs` and `FallbackCheckpointStore` (`eo2_recovery.rs`): a WAL file
of bytes, an L3 store in id order, and a store that falls back from one to the other. bincode and
CRC32 are parameters (`Bincode`).
-/
namespace Aeon.L2.Checkpoint

open Function List Aeon.Core Aeon.Types

/-- mirrors checkpoint.rs:41-62 -/
structure CheckpointRecord where
  checkpointId : Nat
  timestampNanos : Int
  sourceOffsets : HashMap PartitionId Int
  pendingEventIds : List Uuid
  deliveredCount : Nat
  failedCount : Nat
  perSinkAckSeq : HashMap String Nat
  deriving DecidableEq

def CheckpointRecord.withId (r : CheckpointRecord) (id : Nat) : CheckpointRecord :=
  { r with checkpointId := id }

structure Bincode where
  serialize : CheckpointRecord → Bytes
  deserialize : Bytes → Option CheckpointRecord
  crc32 : Bytes → UInt32

structure Disk where
  files : String → Option Bytes
  l3 : Nat → List (Nat × Bytes)

namespace Disk

def writeFile (d : Disk) (path : String) (b : Bytes) : Disk :=
  { d with files := update d.files path (some b) }

def writeL3 (d : Disk) (store : Nat) (entries : List (Nat × Bytes)) : Disk :=
  { d with l3 := update d.l3 store entries }

end Disk

def put (entries : List (Nat × Bytes)) (id : Nat) (b : Bytes) : List (Nat × Bytes) :=
  entries.filter (·.1 < id) ++ (id, b) :: entries.filter (id < ·.1)

section Wal

variable (B : Bincode)

/-- mirrors checkpoint.rs:20-21 -/
def walMagic : Bytes := [65, 69, 79, 78, 45, 67, 75, 80]

/-- mirrors checkpoint.rs:23-32 -/
def walVersion : Nat := 2

/-- mirrors checkpoint.rs:34-35 -/
def walHeaderSize : Nat := 10

/-- mirrors checkpoint.rs:37-38 -/
def walRecordHeaderSize : Nat := 8

/-- mirrors checkpoint.rs:415-430 -/
def walHeader : Bytes := walMagic ++ leBytes 2 walVersion

/-- mirrors checkpoint.rs:144-153 -/
def walFrame (r : CheckpointRecord) : Bytes :=
  leBytes 4 (B.serialize r).length ++ leBytes 4 (B.crc32 (B.serialize r)).toNat ++ B.serialize r

/-- mirrors checkpoint.rs:457-499 -/
def nextWalRecord (data : Bytes) : Option (CheckpointRecord × Bytes) :=
  if data.length < walRecordHeaderSize then none
  else
    let len := leVal (data.take 4)
    let expectedCrc := leVal ((data.drop 4).take 4)
    if data.length < walRecordHeaderSize + len then none
    else
      let recordData := (data.drop walRecordHeaderSize).take len
      if (B.crc32 recordData).toNat ≠ expectedCrc then none
      else
        match B.deserialize recordData with
        | none => none
        | some r => some (r, data.drop (walRecordHeaderSize + len))

/-- mirrors checkpoint.rs:434-502 -/
def readWalRecords (data : Bytes) : Except String (List CheckpointRecord) :=
  if data.length < walHeaderSize then .error "wal file too short for header"
  else if data.take 8 ≠ walMagic then .error "wal invalid magic bytes"
  else if leVal ((data.drop 8).take 2) ≠ walVersion then
    .error ("wal unsupported version: " ++ toString (leVal ((data.drop 8).take 2)))
  else .ok (scan (nextWalRecord B) (data.drop walHeaderSize))

/-- mirrors checkpoint.rs:115-118 -/
structure WalWriter where
  path : String
  nextCheckpointId : Nat

variable (d : Disk)

/-- mirrors checkpoint.rs:122-139 -/
def WalWriter.new (path : String) : Except String (WalWriter × Disk) :=
  match d.files path with
  | some data => do
    let records ← readWalRecords B data
    .ok (⟨path, (records.getLast?).elim 0 (·.checkpointId + 1)⟩, d)
  | none => .ok (⟨path, 0⟩, d.writeFile path walHeader)

/-- mirrors checkpoint.rs:142-168 -/
def WalWriter.append (w : WalWriter) (d : Disk) (r : CheckpointRecord) :
    Except String (WalWriter × Disk × CheckpointRecord) :=
  let r := r.withId w.nextCheckpointId
  match d.files w.path with
  | none => .error "wal open for append"
  | some data =>
    .ok ({ w with nextCheckpointId := w.nextCheckpointId + 1 }, d.writeFile w.path (data ++ walFrame B r), r)

/-- mirrors checkpoint.rs:187-195 -/
def walReadLast (path : String) : Except String (Option CheckpointRecord) :=
  match d.files path with
  | none => .ok none
  | some data => do
    let records ← readWalRecords B data
    .ok records.getLast?

/-- mirrors checkpoint.rs:198-205 -/
def walReadAll (path : String) : Except String (List CheckpointRecord) :=
  match d.files path with
  | none => .ok []
  | some data => readWalRecords B data

end Wal

section Stores

variable (B : Bincode)

inductive L3Outcome
  | ok
  | putFailed
  | putUnflushed
  | purgeFailed
  | purgeUnflushed
  deriving DecidableEq

/-- mirrors checkpoint.rs:284-291 -/
structure L3CheckpointStore where
  store : Nat
  nextCheckpointId : Nat
  maxRecords : Option Nat

namespace L3CheckpointStore

/-- mirrors checkpoint.rs:300-320 -/
def openStore (d : Disk) (store : Nat) (maxRecords : Option Nat) (up : Bool) :
    Except String L3CheckpointStore :=
  if up then .ok ⟨store, (((d.l3 store).map Prod.fst).max?).elim 0 (· + 1), maxRecords⟩
  else .error "l3 scan_prefix"

/-- mirrors checkpoint.rs:336-358 -/
def purgeBelow (s : L3CheckpointStore) (d : Disk) (lowWatermark : Nat) : Disk :=
  d.writeL3 s.store ((d.l3 s.store).filter (lowWatermark ≤ ·.1))

/-- mirrors checkpoint.rs:371-399 -/
def append (s : L3CheckpointStore) (d : Disk) (o : L3Outcome) (r : CheckpointRecord) :
    L3CheckpointStore × Disk × Except String CheckpointRecord :=
  let r := r.withId s.nextCheckpointId
  if o = .putFailed then (s, d, .error "l3 write_batch")
  else
    let d := d.writeL3 s.store (put (d.l3 s.store) s.nextCheckpointId (B.serialize r))
    if o = .putUnflushed then (s, d, .error "l3 flush")
    else
      let s := { s with nextCheckpointId := s.nextCheckpointId + 1 }
      let low := s.maxRecords.elim 0 (s.nextCheckpointId - ·)
      if low = 0 then (s, d, .ok r)
      else
        match o with
        | .purgeFailed => (s, d, .error "l3 write_batch")
        | .purgeUnflushed => (s, s.purgeBelow d low, .error "l3 flush")
        | _ => (s, s.purgeBelow d low, .ok r)

/-- mirrors checkpoint.rs:401-411 -/
def readLast (s : L3CheckpointStore) (d : Disk) (up : Bool) : Except String (Option CheckpointRecord) :=
  if up then
    match (d.l3 s.store).getLast? with
    | none => .ok none
    | some (_, b) =>
      match B.deserialize b with
      | none => .error "checkpoint bincode deserialize"
      | some r => .ok (some r)
  else .error "l3 scan_prefix"

end L3CheckpointStore

/-- mirrors eo2_recovery.rs:35-46 -/
structure FallbackCheckpointStore where
  primary : L3CheckpointStore
  walPath : String
  wal : Option WalWriter := none
  inFallback : Bool := false

namespace FallbackCheckpointStore

variable (f : FallbackCheckpointStore) (d : Disk)

/-- mirrors eo2_recovery.rs:86-109 -/
def engageFallback : Except String (FallbackCheckpointStore × Disk) :=
  match f.wal with
  | some _ => .ok ({ f with inFallback := true }, d)
  | none => do
    let (wal, d) ← WalWriter.new B d f.walPath
    .ok ({ f with wal := some wal, inFallback := true }, d)

def appendWal (r : CheckpointRecord) :
    FallbackCheckpointStore × Disk × Except String CheckpointRecord :=
  match f.wal with
  | none => (f, d, .error "fallback: WAL not open")
  | some wal =>
    match wal.append B d r with
    | .error e => (f, d, .error e)
    | .ok (wal, d, r) => ({ f with wal := some wal }, d, .ok r)

/-- mirrors eo2_recovery.rs:168-184 -/
def append (o : L3Outcome) (r : CheckpointRecord) :
    FallbackCheckpointStore × Disk × Except String CheckpointRecord :=
  if f.inFallback then f.appendWal B d r
  else
    match f.primary.append B d o r with
    | (primary, d, .ok r) => ({ f with primary := primary }, d, .ok r)
    | (primary, d, .error _) =>
      match ({ f with primary := primary } : FallbackCheckpointStore).engageFallback B d with
      | .error e => ({ f with primary := primary }, d, .error e)
      | .ok (f, d) => f.appendWal B d r

/-- mirrors eo2_recovery.rs:186-208 -/
def readLast (up : Bool) : Except String (Option CheckpointRecord) :=
  let wal := f.wal.elim (.ok none) fun w => walReadLast B d w.path
  match f.primary.readLast B d up with
  | .ok (some r) =>
    match wal with
    | .ok (some w) => .ok (some (if r.checkpointId < w.checkpointId then w else r))
    | _ => .ok (some r)
  | _ => wal

/-- mirrors eo2_recovery.rs:210-217 -/
def nextCheckpointId : Nat :=
  match f.inFallback, f.wal with
  | true, some wal => wal.nextCheckpointId
  | _, _ => f.primary.nextCheckpointId

/-- mirrors eo2_recovery.rs:112-164 -/
def tryRecoverPrimary (up : Bool) (o : L3Outcome) :
    FallbackCheckpointStore × Disk × Except String Bool :=
  if !f.inFallback then (f, d, .ok true)
  else
    match f.wal with
    | none => ({ f with inFallback := false }, d, .ok true)
    | some wal =>
      match f.primary.readLast B d up with
      | .error _ => (f, d, .ok false)
      | .ok primaryLast =>
        match walReadLast B d wal.path with
        | .error e => (f, d, .error e)
        | .ok none => ({ f with inFallback := false, wal := none }, d, .ok true)
        | .ok (some w) =>
          if primaryLast.any (w.checkpointId ≤ ·.checkpointId) then
            ({ f with inFallback := false, wal := none }, d, .ok true)
          else
            match f.primary.append B d o w with
            | (primary, d, .error _) => ({ f with primary := primary }, d, .ok false)
            | (primary, d, .ok _) =>
              ({ f with primary := primary, inFallback := false, wal := none }, d, .ok true)

end FallbackCheckpointStore

/-- mirrors checkpoint.rs:229-252 -/
inductive CheckpointPersist
  | wal (w : WalWriter)
  | l3 (s : L3CheckpointStore)
  | fallback (f : FallbackCheckpointStore)

namespace CheckpointPersist

def append (d : Disk) (o : L3Outcome) (r : CheckpointRecord) :
    CheckpointPersist → CheckpointPersist × Disk × Except String CheckpointRecord
  | wal w =>
    match w.append B d r with
    | .error e => (wal w, d, .error e)
    | .ok (w, d, r) => (wal w, d, .ok r)
  | l3 s => let (s, d, res) := s.append B d o r; (l3 s, d, res)
  | fallback f => let (f, d, res) := f.append B d o r; (fallback f, d, res)

def readLast (d : Disk) (up : Bool) : CheckpointPersist → Except String (Option CheckpointRecord)
  | wal w => walReadLast B d w.path
  | l3 s => s.readLast B d up
  | fallback f => f.readLast B d up

def nextCheckpointId : CheckpointPersist → Nat
  | wal w => w.nextCheckpointId
  | l3 s => s.nextCheckpointId
  | fallback f => f.nextCheckpointId

def tryRecoverPrimary (d : Disk) (up : Bool) (o : L3Outcome) :
    CheckpointPersist → CheckpointPersist × Disk × Except String Bool
  | wal w => (wal w, d, .ok true)
  | l3 s => (l3 s, d, .ok true)
  | fallback f => let (f, d, res) := f.tryRecoverPrimary B d up o; (fallback f, d, res)

end CheckpointPersist

/-- mirrors eo2_recovery.rs:235-245 -/
structure RecoveryPlan where
  pullSeekOffsets : HashMap PartitionId Int := ∅
  l2ReplayStartSeq : Nat := 0
  sourceCheckpointId : Nat := 0
  deriving DecidableEq

/-- mirrors eo2_recovery.rs:250-276 -/
def RecoveryPlan.fromLast : Option CheckpointRecord → RecoveryPlan
  | none => {}
  | some r =>
    { pullSeekOffsets := r.sourceOffsets
      l2ReplayStartSeq := ((Multiset.sort (r.perSinkAckSeq.entries.map Sigma.snd)).head?).getD 0
      sourceCheckpointId := r.checkpointId }

/-- mirrors crates/aeon-engine/src/pipeline.rs:1914-1936 -/
def loadRecoveryPlan (d : Disk) (up : Bool) (writer : Option CheckpointPersist) : Option RecoveryPlan :=
  writer.bind fun w =>
    match w.readLast B d up with
    | .ok last => some (.fromLast last)
    | .error _ => none

end Stores

/-! ## What the stores hold

`walBytes rs` and `entries rs` are the file and the L3 records that hold the records
`rs`; the lemmas say what opening, appending and reading do to them. -/

section Contents

variable {B : Bincode}

def Bincode.RoundTrips (B : Bincode) (r : CheckpointRecord) : Prop :=
  B.deserialize (B.serialize r) = some r ∧ (B.serialize r).length < 2 ^ 32
  deriving Decidable

@[simp] lemma withId_checkpointId (r : CheckpointRecord) (n : Nat) : (r.withId n).checkpointId = n := rfl

def nextId (rs : List CheckpointRecord) : Nat := (rs.getLast?).elim 0 (·.checkpointId + 1)

def walBytes (B : Bincode) (rs : List CheckpointRecord) : Bytes := walHeader ++ rs.flatMap (walFrame B)

def entries (B : Bincode) (rs : List CheckpointRecord) : List (Nat × Bytes) :=
  rs.map fun r => (r.checkpointId, B.serialize r)

def Ascending (rs : List CheckpointRecord) : Prop := rs.Pairwise (·.checkpointId < ·.checkpointId)

lemma nextWalRecord_progress (d : Bytes) (r : CheckpointRecord) (rest : Bytes)
    (h : nextWalRecord B d = some (r, rest)) : rest.length < d.length := by
  simp only [nextWalRecord] at h; split_ifs at h with hh hl hc
  have hp : 0 < walRecordHeaderSize := by decide
  grind

lemma length_walFrame (r : CheckpointRecord) :
    (walFrame B r).length = walRecordHeaderSize + (B.serialize r).length := by
  simp [walFrame, walRecordHeaderSize]; omega

lemma walFrame_fields (r : CheckpointRecord) (rest : Bytes) :
    (walFrame B r ++ rest).take 4 = leBytes 4 (B.serialize r).length ∧
    ((walFrame B r ++ rest).drop 4).take 4 = leBytes 4 (B.crc32 (B.serialize r)).toNat ∧
    (walFrame B r ++ rest).drop walRecordHeaderSize = B.serialize r ++ rest := by
  refine ⟨?_, ?_, ?_⟩
  · rfl
  · rfl
  rfl

lemma nextWalRecord_frame (h : B.RoundTrips r) (rest : Bytes) :
    nextWalRecord B (walFrame B r ++ rest) = some (r, rest) := by
  obtain ⟨hrt, hle⟩ := h; obtain ⟨h₁, h₂, h₃⟩ := walFrame_fields (B := B) r rest
  have hl : (walFrame B r ++ rest).length = walRecordHeaderSize + (B.serialize r).length + rest.length := by
    rw [length_append, length_walFrame]
  have hv : leVal (leBytes 4 (B.serialize r).length) = (B.serialize r).length := leVal_leBytes hle
  have hc : leVal (leBytes 4 (B.crc32 (B.serialize r)).toNat) = (B.crc32 (B.serialize r)).toNat :=
    leVal_leBytes (UInt32.toNat_lt _)
  have hd : (walFrame B r ++ rest).drop (walRecordHeaderSize + (B.serialize r).length) = rest := by simp_all
  simp only [nextWalRecord, h₁, h₂, h₃, hl, hv, hc, take_left, hrt, hd]; grind

lemma readWalRecords_append (h : ∀ r ∈ rs, B.RoundTrips r) (tail : Bytes) :
    readWalRecords B (walBytes B rs ++ tail) = .ok (rs ++ scan (nextWalRecord B) tail) := by
  have hs : scan (nextWalRecord B) (rs.flatMap (walFrame B) ++ tail) = rs ++ scan (nextWalRecord B) tail := by
    have hf := @scan_frames _ _ _ nextWalRecord_progress (walFrame B) id rs
      (fun r hr rest => nextWalRecord_frame (h r hr) rest) tail
    rwa [List.map_id] at hf
  have hh : walHeader.length = walHeaderSize := rfl
  rw [readWalRecords, walBytes, append_assoc,
    if_neg (by rw [length_append, hh]; omega),
    if_neg (by rw [take_append_of_le_length (by decide)]; decide),
    drop_append_of_le_length (by decide), take_append_of_le_length (by decide),
    if_neg (by decide), drop_left' hh, hs]

lemma readWalRecords_walBytes (h : ∀ r ∈ rs, B.RoundTrips r) : readWalRecords B (walBytes B rs) = .ok rs := by
  have hr := readWalRecords_append h []; rw [append_nil] at hr
  exact hr.trans (congrArg Except.ok (append_nil rs))

lemma walBytes_append (rs : List CheckpointRecord) (r : CheckpointRecord) :
    walBytes B rs ++ walFrame B r = walBytes B (rs ++ [r]) := by simp [walBytes, append_assoc]

@[simp] lemma nextId_concat (rs : List CheckpointRecord) (r : CheckpointRecord) :
    nextId (rs ++ [r]) = r.checkpointId + 1 := by simp [nextId]

lemma Ascending.lt_nextId (h : Ascending rs) :
    ∀ r ∈ rs, r.checkpointId < nextId rs := by
  rcases eq_nil_or_concat' rs with rfl | ⟨init, last, rfl⟩
  · simp
  · intro r hr; rw [nextId_concat]; rcases mem_append.mp hr with hr | hr
    · have := (pairwise_append.mp h).2.2 r hr last (by simp); omega
    grind

lemma max_entries (h : Ascending rs) : (((entries B rs).map Prod.fst).max?).elim 0 (· + 1) = nextId rs := by
  rcases eq_nil_or_concat' rs with rfl | ⟨init, last, rfl⟩
  · rfl
  · have hm : ((entries B (init ++ [last])).map Prod.fst).max? = some last.checkpointId := by
      rw [max?_eq_some_iff]; refine ⟨by simp [entries], ?_⟩; intro n hn
      simp only [entries, List.map_map, List.mem_map] at hn; obtain ⟨r, hr, rfl⟩ := hn
      have := h.lt_nextId r hr; grind [nextId_concat]
    simp_all

lemma put_nextId (h : Ascending rs) (b : Bytes) :
    put (entries B rs) (nextId rs) b = entries B rs ++ [(nextId rs, b)] := by
  have hlt : ∀ e ∈ entries B rs, e.1 < nextId rs := by
    intro e he; obtain ⟨r, hr, rfl⟩ := List.mem_map.mp he; exact h.lt_nextId r hr
  rw [put, filter_eq_self.mpr (by simpa using hlt),
    filter_eq_nil_iff.mpr (by intro e he; have := hlt e he; simp; omega)]

def retain (max : Option Nat) (rs : List CheckpointRecord) : List CheckpointRecord :=
  rs.filter fun r => max.elim 0 (nextId rs - ·) ≤ r.checkpointId

lemma getLast?_retain {max : Option Nat} (hm : max ≠ some 0) (rs : List CheckpointRecord)
    (r : CheckpointRecord) : (retain max (rs ++ [r])).getLast? = some r := by
  have hl : max.elim 0 (nextId (rs ++ [r]) - ·) ≤ r.checkpointId := by
    rw [nextId_concat]; rcases max with _ | m
    · exact Nat.zero_le _
    grind
  grind [retain, filter_singleton]

lemma nextId_retain {max : Option Nat} (hm : max ≠ some 0) (rs : List CheckpointRecord)
    (r : CheckpointRecord) : nextId (retain max (rs ++ [r])) = r.checkpointId + 1 := by
  rw [nextId, getLast?_retain hm, Option.elim_some]

lemma Ascending.concat (h : Ascending rs) (hr : r.checkpointId = nextId rs) : Ascending (rs ++ [r]) := by
  refine pairwise_append.mpr ⟨h, pairwise_singleton _ _, fun a ha b hb => ?_⟩
  rw [mem_singleton.mp hb, hr]; exact h.lt_nextId a ha

lemma entries_retain (max : Option Nat) (rs : List CheckpointRecord) :
    (entries B rs).filter (max.elim 0 (nextId rs - ·) ≤ ·.1) = entries B (retain max rs) := by
  rw [entries, retain, entries, List.filter_map]; rfl

namespace L3CheckpointStore

variable {s : L3CheckpointStore} {d : Disk} {rs : List CheckpointRecord}

lemma openStore_entries (store : Nat) (maxRecords : Option Nat) (hd : d.l3 store = entries B rs)
    (ha : Ascending rs) : openStore d store maxRecords true = .ok ⟨store, nextId rs, maxRecords⟩ := by
  rw [openStore, if_pos rfl, hd, max_entries ha]

lemma append_entries (hd : d.l3 s.store = entries B rs) (ha : Ascending rs)
    (hn : s.nextCheckpointId = nextId rs) (r : CheckpointRecord) :
    s.append B d .ok r = ({ s with nextCheckpointId := s.nextCheckpointId + 1 },
        d.writeL3 s.store (entries B (retain s.maxRecords (rs ++ [r.withId s.nextCheckpointId]))),
        .ok (r.withId s.nextCheckpointId)) := by
  obtain ⟨store, next, max⟩ := s; simp only at hd hn; subst hn
  have hpu : put (d.l3 store) (nextId rs) (B.serialize (r.withId (nextId rs))) =
      entries B (rs ++ [r.withId (nextId rs)]) := by
    rw [hd, put_nextId ha, entries, entries, map_append]; rfl
  have hp := entries_retain (B := B) max (rs ++ [r.withId (nextId rs)])
  rw [nextId_concat, withId_checkpointId] at hp
  rw [append, if_neg (by decide), if_neg (by decide), hpu, ← hp]; simp only
  split_ifs with hl
  · simp_all
  · simp [purgeBelow, Disk.writeL3]

lemma readLast_entries (hd : d.l3 s.store = entries B rs) (hrt : ∀ r ∈ rs, B.RoundTrips r) :
    s.readLast B d true = .ok rs.getLast? := by
  rw [readLast, if_pos rfl, hd]
  rcases eq_nil_or_concat' rs with rfl | ⟨init, last, rfl⟩
  · rfl
  simp [entries, map_append, (hrt last (by simp)).1]

end L3CheckpointStore

lemma WalWriter.new_walBytes {path : String} (hd : d.files path = some (walBytes B rs))
    (hrt : ∀ r ∈ rs, B.RoundTrips r) :
    WalWriter.new B d path = .ok (⟨path, nextId rs⟩, d) := by
  rw [WalWriter.new, hd]; simp only [readWalRecords_walBytes hrt]; rfl

lemma walReadLast_walBytes {path : String} (hd : d.files path = some (walBytes B rs))
    (hrt : ∀ r ∈ rs, B.RoundTrips r) :
    walReadLast B d path = .ok rs.getLast? := by
  rw [walReadLast, hd]; simp only [readWalRecords_walBytes hrt]; rfl

lemma WalWriter.append_walBytes {w : WalWriter} {d : Disk} {rs : List CheckpointRecord}
    (hd : d.files w.path = some (walBytes B rs)) (r : CheckpointRecord) :
    w.append B d r = .ok ({ w with nextCheckpointId := w.nextCheckpointId + 1 },
        d.writeFile w.path (walBytes B (rs ++ [r.withId w.nextCheckpointId])),
        r.withId w.nextCheckpointId) := by rw [WalWriter.append, hd, ← walBytes_append]

end Contents

def plainBincode : Bincode where
  serialize r := leBytes 8 r.checkpointId ++ leBytes 8 r.timestampNanos.toNat ++ leBytes 8 0 ++
    leBytes 8 0 ++ leBytes 8 r.deliveredCount ++ leBytes 8 r.failedCount ++ leBytes 8 0
  deserialize b :=
    if b.length = 56 then
      some ⟨leVal (b.take 8), leVal ((b.drop 8).take 8), ∅, [], leVal ((b.drop 32).take 8),
        leVal ((b.drop 40).take 8), ∅⟩
    else none
  crc32 := crc32

def delivered (n : Nat) : CheckpointRecord := ⟨0, 0, ∅, [], n, 0, ∅⟩

end Aeon.L2.Checkpoint
