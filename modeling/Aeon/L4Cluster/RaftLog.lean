import Mathlib.Data.List.Induction
import Aeon.Core.SortedMap

/-!
# The Raft log stores

`L3RaftLogStore` (`crates/aeon-cluster/src/log_store.rs`) against `MemLogStore` (`store.rs`), one
call at a time, with restarts. `none`: the call never returns, because it waits for its own read
guard.

* `log_refines_iff`: it refines the in-memory log iff no purge reaches the last entry;
* `purge_never_returns`: the purge of a whole log.
-/
namespace Aeon.L4.RaftLog

open List Option Aeon.Core
open scoped Aeon.Core.KeyOrder

structure LeaderId where
  term : UInt64
  nodeId : UInt64
  deriving DecidableEq

structure LogId where
  leaderId : LeaderId
  index : UInt64
  deriving DecidableEq

structure Vote where
  leaderId : LeaderId
  committed : Bool

structure Entry (P : Type) where
  logId : LogId
  payload : P

structure LogState where
  lastPurgedLogId : Option LogId
  lastLogId : Option LogId
  deriving DecidableEq

inductive Bound
  | included (n : UInt64)
  | excluded (n : UInt64)
  | unbounded

inductive ErrorSubject
  | vote
  | store
  | logs

inductive ErrorVerb
  | read
  | write

structure StorageError where
  subject : ErrorSubject
  verb : ErrorVerb

structure Serde (α : Type) where
  serialize : α → Bytes
  deserialize : Bytes → Option α
  roundTrip : ∀ a, deserialize (serialize a) = some a

section Mem

variable {P : Type}

/-- mirrors store.rs:38-45 -/
structure MemLogStore (P : Type) where
  vote : Option Vote := none
  log : SortedMap UInt64 (Entry P) := .empty
  committed : Option LogId := none
  lastPurged : Option LogId := none

def Bound.lowerOk : Bound → UInt64 → Bool
  | included s, i => s ≤ i
  | excluded s, i => s < i
  | unbounded, _ => true

def Bound.upperOk : Bound → UInt64 → Bool
  | included e, i => i ≤ e
  | excluded e, i => i < e
  | unbounded, _ => true

def rangePanics : Bound → Bound → Bool
  | .excluded s, .excluded e => e ≤ s
  | .included s, .included e | .included s, .excluded e | .excluded s, .included e => e < s
  | .unbounded, _ | _, .unbounded => false

namespace MemLogStore

variable (m : MemLogStore P)

/-- mirrors store.rs:69-78 -/
def tryGetLogEntries (lo hi : Bound) : Option (List (Entry P)) :=
  if rangePanics lo hi then none
  else some ((m.log.keep fun i => lo.lowerOk i && hi.upperOk i).toList.map Prod.snd)

/-- mirrors store.rs:83-91 -/
def getLogState : LogState :=
  { lastPurgedLogId := m.lastPurged
    lastLogId := (m.log.toList.getLast?.map (·.2.logId)).or m.lastPurged }

/-- mirrors store.rs:97-101 -/
def saveVote (v : Vote) : MemLogStore P := { m with vote := some v }

/-- mirrors store.rs:108-115 -/
def saveCommitted (c : Option LogId) : MemLogStore P := { m with committed := c }

/-- mirrors store.rs:122-138 -/
def append (es : List (Entry P)) : MemLogStore P :=
  { m with log := es.foldl (fun log e => log.insert e.logId.index e) m.log }

/-- mirrors store.rs:140-147 -/
def truncate (id : LogId) : MemLogStore P := { m with log := m.log.keep (· < id.index) }

/-- mirrors store.rs:149-158 -/
def purge (id : LogId) : MemLogStore P :=
  { m with log := m.log.keep (id.index < ·), lastPurged := some id }

end MemLogStore

end Mem

structure RwLock (α : Type) where
  value : α
  readers : Nat := 0

namespace RwLock

variable {α : Type}

def acquire (l : RwLock α) : RwLock α := { l with readers := l.readers + 1 }

def release (l : RwLock α) : RwLock α := { l with readers := l.readers - 1 }

def write (l : RwLock α) (v : α) : Option (RwLock α) :=
  if l.readers = 0 then some { l with value := v } else none

end RwLock

abbrev L3 := SortedMap Bytes Bytes

inductive BatchOp
  | put (key value : Bytes)
  | delete (key : Bytes)

def L3.writeBatch (l3 : L3) (ops : List BatchOp) : L3 := ops.foldl (fun l3 op =>
    match op with
    | .put k v => l3.insert k v
    | .delete k => l3.erase k) l3

def L3.scanPrefix (l3 : L3) (p : Bytes) : List (Bytes × Bytes) := (l3.keep (p.isPrefixOf ·)).toList

/-- mirrors log_store.rs:47-50 -/
def voteKey : Bytes := "raft/vote".toUTF8.toList

def committedKey : Bytes := "raft/committed".toUTF8.toList

def lastPurgedKey : Bytes := "raft/last_purged".toUTF8.toList

def logPrefix : Bytes := "raft/log/".toUTF8.toList

/-- mirrors log_store.rs:52-57 -/
def logKey (index : UInt64) : Bytes := logPrefix ++ beBytes 8 index.toNat

/-- mirrors log_store.rs:59-66 -/
def logIndexFromKey (key : Bytes) : Option UInt64 :=
  if key.length ≠ logPrefix.length + 8 ∨ ¬ logPrefix.isPrefixOf key then none
  else some (.ofNat (leVal (key.drop logPrefix.length).reverse))

section L3Store

variable {P : Type}

structure Codecs (P : Type) where
  vote : Serde Vote
  logId : Serde LogId
  entry : Serde (Entry P)

/-- mirrors log_store.rs:92-103 -/
structure Cache where
  vote : RwLock (Option Vote) := ⟨none, 0⟩
  committed : RwLock (Option LogId) := ⟨none, 0⟩
  lastPurged : RwLock (Option LogId) := ⟨none, 0⟩
  lastLogId : RwLock (Option LogId) := ⟨none, 0⟩

/-- mirrors log_store.rs:113-117 -/
structure L3RaftLogStore where
  l3 : L3
  cache : Cache

namespace L3RaftLogStore

variable (C : Codecs P) (s : L3RaftLogStore)

def hydrate {α : Type} (S : Serde α) (l3 : L3) (key : Bytes) (subject : ErrorSubject) :
    Except StorageError (Option α) :=
  match l3.get? key with
  | none => .ok none
  | some bytes =>
    match S.deserialize bytes with
    | none => .error ⟨subject, .read⟩
    | some a => .ok (some a)

def lastEntryId (l3 : L3) (verb : ErrorVerb) : Except StorageError (Option LogId) :=
  match (l3.scanPrefix logPrefix).getLast? with
  | none => .ok none
  | some (_, bytes) =>
    match C.entry.deserialize bytes with
    | none => .error ⟨.logs, verb⟩
    | some e => .ok (some e.logId)

/-- mirrors log_store.rs:155-206 -/
def openStore (l3 : L3) : Except StorageError L3RaftLogStore := do
  let vote ← hydrate C.vote l3 voteKey .vote
  let committed ← hydrate C.logId l3 committedKey .store
  let lastPurged ← hydrate C.logId l3 lastPurgedKey .store
  let lastLogId ← lastEntryId C l3 .read
  .ok ⟨l3, ⟨⟨vote, 0⟩, ⟨committed, 0⟩, ⟨lastPurged, 0⟩, ⟨lastLogId, 0⟩⟩⟩

def readEntry (lo hi : Bound) (out : List (Entry P)) (kv : Bytes × Bytes) :
    Except StorageError (List (Entry P)) :=
  match logIndexFromKey kv.1 with
  | none => .ok out
  | some idx =>
    if !(lo.lowerOk idx && hi.upperOk idx) then .ok out
    else
      match C.entry.deserialize kv.2 with
      | none => .error ⟨.logs, .read⟩
      | some e => .ok (out ++ [e])

/-- mirrors log_store.rs:209-243 -/
def tryGetLogEntries (lo hi : Bound) : Except StorageError (List (Entry P)) :=
  (s.l3.scanPrefix logPrefix).foldlM (readEntry C lo hi) []

/-- mirrors log_store.rs:249-258 -/
def getLogState : LogState :=
  { lastPurgedLogId := s.cache.lastPurged.value
    lastLogId := s.cache.lastLogId.value.or s.cache.lastPurged.value }

/-- mirrors log_store.rs:264-272 -/
def saveVote (v : Vote) : Option (Except StorageError L3RaftLogStore) := do
  let vote ← s.cache.vote.write (some v)
  some (.ok ⟨s.l3.insert voteKey (C.vote.serialize v), { s.cache with vote := vote }⟩)

/-- mirrors log_store.rs:278-299 -/
def saveCommitted (c : Option LogId) : Option (Except StorageError L3RaftLogStore) := do
  let l3 :=
    match c with
    | some c => s.l3.insert committedKey (C.logId.serialize c)
    | none => s.l3.erase committedKey
  let committed ← s.cache.committed.write c
  some (.ok ⟨l3, { s.cache with committed := committed }⟩)

def newLast (last : Option LogId) (e : Entry P) : Option LogId :=
  match last with
  | some prev => if e.logId.index ≤ prev.index then some prev else some e.logId
  | none => some e.logId

/-- mirrors log_store.rs:305-340 -/
def append (es : List (Entry P)) : Option (Except StorageError L3RaftLogStore) :=
  let ops := es.map fun e => BatchOp.put (logKey e.logId.index) (C.entry.serialize e)
  if ops.isEmpty then some (.ok s)
  else do
    let l3 := s.l3.writeBatch ops
    let lastLogId ← s.cache.lastLogId.write (es.foldl newLast s.cache.lastLogId.value)
    some (.ok ⟨l3, { s.cache with lastLogId := lastLogId }⟩)

def deletes (p : UInt64 → Bool) : List BatchOp := (s.l3.scanPrefix logPrefix).filterMap fun kv =>
    match logIndexFromKey kv.1 with
    | some idx => if p idx then some (.delete kv.1) else none
    | none => none

/-- mirrors log_store.rs:342-375 -/
def truncate (id : LogId) : Option (Except StorageError L3RaftLogStore) :=
  let ops := s.deletes (id.index ≤ ·)
  let l3 := if ops.isEmpty then s.l3 else s.l3.writeBatch ops
  match lastEntryId C l3 .write with
  | .error e => some (.error e)
  | .ok new => do
    let lastLogId ← s.cache.lastLogId.write new
    some (.ok ⟨l3, { s.cache with lastLogId := lastLogId }⟩)

/-- mirrors log_store.rs:377-408 -/
def purge (id : LogId) : Option (Except StorageError L3RaftLogStore) := do
  let ops := s.deletes (· ≤ id.index) ++ [.put lastPurgedKey (C.logId.serialize id)]
  let l3 := s.l3.writeBatch ops
  let lastPurged ← s.cache.lastPurged.write (some id)
  let guarded := s.cache.lastLogId.acquire
  let lastLogId ←
    match guarded.value with
    | some current => if current.index ≤ id.index then guarded.write none else some guarded
    | none => some guarded
  some (.ok ⟨l3, { s.cache with lastPurged := lastPurged, lastLogId := lastLogId.release }⟩)

end L3RaftLogStore

inductive Call (P : Type)
  | saveVote (v : Vote)
  | saveCommitted (c : Option LogId)
  | append (es : List (Entry P))
  | truncate (id : LogId)
  | purge (id : LogId)
  | reopen

def MemLogStore.call (m : MemLogStore P) : Call P → MemLogStore P
  | .saveVote v => m.saveVote v
  | .saveCommitted c => m.saveCommitted c
  | .append es => m.append es
  | .truncate id => m.truncate id
  | .purge id => m.purge id
  | .reopen => m

def L3RaftLogStore.call (C : Codecs P) (s : L3RaftLogStore) : Call P → Option
    (Except StorageError L3RaftLogStore)
  | .saveVote v => s.saveVote C v
  | .saveCommitted c => s.saveCommitted C c
  | .append es => s.append C es
  | .truncate id => s.truncate C id
  | .purge id => s.purge C id
  | .reopen => some (L3RaftLogStore.openStore C s.l3)

def memRun (calls : List (Call P)) : MemLogStore P := calls.foldl MemLogStore.call {}

def l3RunFrom (C : Codecs P) (s : L3RaftLogStore) : List (Call P) → Option
    (Except StorageError L3RaftLogStore)
  | [] => some (.ok s)
  | c :: calls =>
    match s.call C c with
    | some (.ok s') => l3RunFrom C s' calls
    | r => r

def l3Run (C : Codecs P) (calls : List (Call P)) : Option (Except StorageError L3RaftLogStore) :=
  l3RunFrom C ⟨.empty, {}⟩ calls

structure Agree (C : Codecs P) (s : L3RaftLogStore) (m : MemLogStore P) : Prop where
  logState : s.getLogState = m.getLogState
  vote : s.cache.vote.value = m.vote
  committed : s.cache.committed.value = m.committed
  entries : ∀ lo hi es, m.tryGetLogEntries lo hi = some es → s.tryGetLogEntries C lo hi = .ok es

def Consecutive : Option LogId → List (Entry P) → Prop
  | _, [] => True
  | last, e :: es =>
    (∀ id ∈ last, e.logId.index.toNat = id.index.toNat + 1) ∧ Consecutive (some e.logId) es

end L3Store

lemma logKey_strictMono : StrictMono logKey :=
  fun a b h => append_lt_append_left _ (beBytes_lt (by simpa using b.toNat_lt) (UInt64.lt_iff_toNat_lt.mp h))

lemma isPrefixOf_logKey (i : UInt64) : logPrefix.isPrefixOf (logKey i) = true :=
  isPrefixOf_iff_prefix.mpr (prefix_append _ _)

lemma logIndexFromKey_logKey (i : UInt64) : logIndexFromKey (logKey i) = some i := by
  have hl : (logKey i).length = logPrefix.length + 8 := by simp [logKey, beBytes]
  have hv : leVal (beBytes 8 i.toNat).reverse = i.toNat := by
    rw [beBytes, reverse_reverse]; exact leVal_leBytes (by simpa using i.toNat_lt)
  simp_all [logIndexFromKey, logKey]

lemma logKey_ne {key : Bytes} (h : logPrefix.isPrefixOf key = false) (i : UInt64) : logKey i ≠ key := by
  rintro rfl; rw [isPrefixOf_logKey] at h; cases h

lemma voteKey_not_log : logPrefix.isPrefixOf voteKey = false := by decide +kernel

lemma committedKey_not_log : logPrefix.isPrefixOf committedKey = false := by decide +kernel

lemma lastPurgedKey_not_log : logPrefix.isPrefixOf lastPurgedKey = false := by decide +kernel

section Simulation

variable {P : Type} {C : Codecs P} {l3 : L3} {s : L3RaftLogStore} {m : MemLogStore P}

structure OnDisk (C : Codecs P) (l3 : L3) (m : MemLogStore P) : Prop where
  log : l3.keep (logPrefix.isPrefixOf ·) = m.log.mapKeys logKey_strictMono C.entry.serialize
  vote : l3.get? voteKey = m.vote.map C.vote.serialize
  committed : l3.get? committedKey = m.committed.map C.logId.serialize
  lastPurged : l3.get? lastPurgedKey = m.lastPurged.map C.logId.serialize

def lastId (m : MemLogStore P) : Option LogId := m.log.toList.getLast?.map (·.2.logId)

def cacheOf (m : MemLogStore P) : Cache :=
  { vote := ⟨m.vote, 0⟩, committed := ⟨m.committed, 0⟩, lastPurged := ⟨m.lastPurged, 0⟩,
    lastLogId := ⟨lastId m, 0⟩ }

structure Sim (C : Codecs P) (s : L3RaftLogStore) (m : MemLogStore P) : Prop where
  disk : OnDisk C s.l3 m
  cache : s.cache = cacheOf m
  keys : ∀ e ∈ m.log.toList, e.2.logId.index = e.1

lemma OnDisk.scanPrefix (h : OnDisk C l3 m) :
    l3.scanPrefix logPrefix = m.log.toList.map fun e => (logKey e.1, C.entry.serialize e.2) :=
  congrArg SortedMap.toList h.log

lemma OnDisk.lastEntryId (h : OnDisk C l3 m) (verb : ErrorVerb) :
    L3RaftLogStore.lastEntryId C l3 verb = .ok (lastId m) := by
  grind [L3RaftLogStore.lastEntryId, h.scanPrefix, lastId, C.entry.roundTrip]

lemma hydrate_eq {key : Bytes} {subject : ErrorSubject} (h : l3.get? key = a.map S.serialize) :
    L3RaftLogStore.hydrate S l3 key subject = .ok a := by
  rw [L3RaftLogStore.hydrate, h]; rcases a with _ | a
  · rfl
  · simp only [map_some, S.roundTrip]

lemma OnDisk.openStore (h : OnDisk C l3 m) :
    L3RaftLogStore.openStore C l3 = .ok ⟨l3, cacheOf m⟩ := by
  rw [L3RaftLogStore.openStore, hydrate_eq h.vote, hydrate_eq h.committed, hydrate_eq h.lastPurged,
    h.lastEntryId]
  rfl

lemma foldlM_readEntry (lo hi : Bound) (l : List (UInt64 × Entry P)) (out : List (Entry P)) :
    (l.map fun e => (logKey e.1, C.entry.serialize e.2)).foldlM (L3RaftLogStore.readEntry C lo hi) out =
      .ok (out ++ (l.filter fun e => lo.lowerOk e.1 && hi.upperOk e.1).map Prod.snd) := by
  induction l generalizing out with
  | nil => simp [pure, Except.pure]
  | cons e l ih =>
    rw [map_cons, foldlM_cons, filter_cons]
    simp only [L3RaftLogStore.readEntry, logIndexFromKey_logKey, C.entry.roundTrip]
    rcases lo.lowerOk e.1 && hi.upperOk e.1
    · exact ih out
    · exact (ih (out ++ [e.2])).trans (by simp)

lemma Sim.tryGetLogEntries (h : Sim C s m) (hes : m.tryGetLogEntries lo hi = some es) :
    s.tryGetLogEntries C lo hi = .ok es := by
  simp_all [MemLogStore.tryGetLogEntries, L3RaftLogStore.tryGetLogEntries, h.disk.scanPrefix,
    foldlM_readEntry]

lemma Sim.agree (h : Sim C s m) : Agree C s m := by
  refine ⟨?_, ?_, ?_, fun lo hi es => h.tryGetLogEntries⟩
  · rw [L3RaftLogStore.getLogState, h.cache]; rfl
  · rw [h.cache]; rfl
  · rw [h.cache]; rfl

/-! ### The calls -/

lemma keep_log_insert {key v : Bytes} (h : logPrefix.isPrefixOf key = false) :
    (l3.insert key v).keep (logPrefix.isPrefixOf ·) = l3.keep (logPrefix.isPrefixOf ·) :=
  SortedMap.keep_insert_of_not h

lemma keep_log_erase {key : Bytes} (h : logPrefix.isPrefixOf key = false) :
    (l3.erase key).keep (logPrefix.isPrefixOf ·) = l3.keep (logPrefix.isPrefixOf ·) := by
  rw [SortedMap.erase, SortedMap.keep_keep]; grind

lemma Sim.saveVote (h : Sim C s m) (v : Vote) :
    ∃ s', s.saveVote C v = some (.ok s') ∧ Sim C s' (m.saveVote v) := by
  obtain ⟨l3, cache⟩ := s; obtain ⟨hd, rfl, hk⟩ := h
  refine ⟨⟨l3.insert voteKey (C.vote.serialize v), cacheOf (m.saveVote v)⟩, rfl, ⟨?_, ?_, ?_, ?_⟩, rfl, hk⟩
  · exact (keep_log_insert voteKey_not_log).trans hd.log
  · exact SortedMap.get?_insert_self
  · exact (SortedMap.get?_insert_of_ne (by decide +kernel)).trans hd.committed
  · exact (SortedMap.get?_insert_of_ne (by decide +kernel)).trans hd.lastPurged

lemma Sim.saveCommitted (h : Sim C s m) (c : Option LogId) :
    ∃ s', s.saveCommitted C c = some (.ok s') ∧ Sim C s' (m.saveCommitted c) := by
  obtain ⟨l3, cache⟩ := s; obtain ⟨hd, rfl, hk⟩ := h
  cases c with
  | none =>
    refine ⟨⟨l3.erase committedKey, cacheOf (m.saveCommitted none)⟩, rfl, ⟨?_, ?_, ?_, ?_⟩, rfl, hk⟩
    · exact (keep_log_erase committedKey_not_log).trans hd.log
    · exact (SortedMap.get?_erase_of_ne (by decide +kernel)).trans hd.vote
    · exact SortedMap.get?_erase_self
    · exact (SortedMap.get?_erase_of_ne (by decide +kernel)).trans hd.lastPurged
  | some c =>
    refine ⟨⟨l3.insert committedKey (C.logId.serialize c), cacheOf (m.saveCommitted (some c))⟩, rfl,
      ⟨?_, ?_, ?_, ?_⟩, rfl, hk⟩
    · exact (keep_log_insert committedKey_not_log).trans hd.log
    · exact (SortedMap.get?_insert_of_ne (by decide +kernel)).trans hd.vote
    · exact SortedMap.get?_insert_self
    · exact (SortedMap.get?_insert_of_ne (by decide +kernel)).trans hd.lastPurged

lemma OnDisk.put (h : OnDisk C l3 m) (e : Entry P) :
    OnDisk C (l3.insert (logKey e.logId.index) (C.entry.serialize e)) (m.append [e]) := by
  have hg : ∀ {key}, logPrefix.isPrefixOf key = false →
      (l3.insert (logKey e.logId.index) (C.entry.serialize e)).get? key = l3.get? key :=
    fun hk => SortedMap.get?_insert_of_ne (logKey_ne hk _).symm
  refine ⟨?_, (hg voteKey_not_log).trans h.vote, (hg committedKey_not_log).trans h.committed,
    (hg lastPurgedKey_not_log).trans h.lastPurged⟩
  rw [SortedMap.keep_insert (isPrefixOf_logKey _), h.log, ← SortedMap.mapKeys_insert]; rfl

lemma OnDisk.append (h : OnDisk C l3 m) (es : List (Entry P)) :
    OnDisk C (l3.writeBatch (es.map fun e => .put (logKey e.logId.index) (C.entry.serialize e)))
      (m.append es) := by
  induction es generalizing l3 m with
  | nil => exact h
  | cons e es ih => exact ih (h.put e)

section

variable (hk : ∀ e ∈ m.log.toList, e.2.logId.index = e.1)
include hk

lemma le_lastId {id : LogId} (hid : lastId m = some id) : ∀ e ∈ m.log.toList, e.1 ≤ id.index := by
  obtain ⟨last, hl, rfl⟩ := map_eq_some_iff.mp hid; intro e he
  rw [hk last (mem_of_mem_getLast? hl)]
  obtain ⟨init, hi⟩ := getLast?_eq_some_iff.mp hl; have hs := m.log.sorted; grind

lemma append_one (he : ∀ id ∈ lastId m, id.index < e.logId.index) :
    lastId (m.append [e]) = some e.logId ∧ L3RaftLogStore.newLast (lastId m) e = some e.logId ∧
      ∀ x ∈ (m.append [e]).log.toList, x.2.logId.index = x.1 := by
  have hlo : (m.append [e]).log.toList = m.log.toList ++ [(e.logId.index, e)] := by
    refine SortedMap.toList_insert_of_lt fun x hx => ?_; rcases hl : lastId m with _ | id
    · rw [lastId, map_eq_none_iff, getLast?_eq_none_iff] at hl
      rw [hl] at hx; cases hx
    · exact lt_of_le_of_lt (le_lastId hk hl x hx) (he id hl)
  refine ⟨by rw [lastId, hlo, getLast?_concat]; rfl, ?_, ?_⟩
  · rcases hl : lastId m with _ | id
    · rfl
    · exact if_neg (not_le.mpr (he id hl))
  grind

lemma append_all (hes : Consecutive (lastId m) es) :
    es.foldl L3RaftLogStore.newLast (lastId m) = lastId (m.append es) ∧
      ∀ x ∈ (m.append es).log.toList, x.2.logId.index = x.1 := by
  induction es generalizing m with
  | nil => exact ⟨rfl, hk⟩
  | cons e es ih =>
    obtain ⟨hl, hn, hk'⟩ := append_one hk fun id hid => by rw [UInt64.lt_iff_toNat_lt, hes.1 id hid]; omega
    rw [foldl_cons, hn, ← hl]; exact ih hk' (hl ▸ hes.2)

end

lemma Sim.append (h : Sim C s m) (hes : Consecutive m.getLogState.lastLogId es) :
    ∃ s', s.append C es = some (.ok s') ∧ Sim C s' (m.append es) := by
  have hes' : Consecutive (lastId m) es := by
    rcases hl : lastId m with _ | id
    · cases es with
      | nil => trivial
      | cons => exact ⟨fun _ hid => (by cases hid), hes.2⟩
    · have : m.getLogState.lastLogId = some id := by
        rw [MemLogStore.getLogState]; exact congrArg (Option.or · _) hl
      rwa [this] at hes
  obtain ⟨l3, cache⟩ := s; obtain ⟨hd, rfl, hk⟩ := h; obtain ⟨hf, hk'⟩ := append_all hk hes'
  cases es with
  | nil => exact ⟨_, rfl, hd, rfl, hk⟩
  | cons e es =>
    have hc : cacheOf (m.append (e :: es)) =
        { cacheOf m with lastLogId := ⟨(e :: es).foldl L3RaftLogStore.newLast (lastId m), 0⟩ } := by
      rw [hf]; rfl
    refine ⟨⟨_, cacheOf (m.append (e :: es))⟩, ?_, hd.append (e :: es), rfl, hk'⟩
    rw [hc]; rfl

/-! The deletes of `truncate` and `purge` are one filter of the log. -/

lemma writeBatch_deletes (ks : List Bytes) (ops : List BatchOp) :
    l3.writeBatch (ks.map .delete ++ ops) = L3.writeBatch (l3.keep (· ∉ ks)) ops := by
  have hd : l3.writeBatch (ks.map .delete) = ks.foldl SortedMap.erase l3 := foldl_map
  rw [L3.writeBatch, foldl_append]
  refine congrArg (L3.writeBatch · ops) (hd.trans ((SortedMap.foldl_erase ks).trans ?_))
  simp

lemma writeBatch_nonempty (ops : List BatchOp) :
    (if ops.isEmpty then l3 else l3.writeBatch ops) = l3.writeBatch ops := by
  cases ops <;> rfl

lemma OnDisk.deletes (h : OnDisk C l3 m) (cache : Cache) (p : UInt64 → Bool) :
    (⟨l3, cache⟩ : L3RaftLogStore).deletes p = ((m.log.keep p).toList.map fun e =>
      logKey e.1).map .delete := by
  rw [L3RaftLogStore.deletes, h.scanPrefix, filterMap_map, SortedMap.toList_keep, List.map_map]
  simp only [Function.comp_def, logIndexFromKey_logKey]
  induction m.log.toList with
  | nil => rfl
  | cons e l ih => cases hp : p e.1 <;> simp [hp, ih]

lemma OnDisk.keep (h : OnDisk C l3 m) (p : UInt64 → Bool) :
    OnDisk C (l3.keep (· ∉ (m.log.keep p).toList.map fun e => logKey e.1))
      { m with log := m.log.keep fun i => !p i } := by
  have hg : ∀ {key}, logPrefix.isPrefixOf key = false →
      (l3.keep (· ∉ (m.log.keep p).toList.map fun e => logKey e.1)).get? key = l3.get? key := by
    refine fun hk => SortedMap.get?_keep (decide_eq_true fun hm => ?_)
    obtain ⟨e, -, he⟩ := List.mem_map.mp hm; exact logKey_ne hk e.1 he
  refine ⟨?_, (hg voteKey_not_log).trans h.vote, (hg committedKey_not_log).trans h.committed,
    (hg lastPurgedKey_not_log).trans h.lastPurged⟩
  rw [SortedMap.keep_comm, h.log, SortedMap.mapKeys_keep]; congr 1
  show m.log.keep _ = m.log.keep fun i => !p i; refine SortedMap.keep_congr fun e he => ?_
  have hm : logKey e.1 ∈ (m.log.keep p).toList.map (fun e => logKey e.1) ↔ p e.1 = true := by
    rw [List.mem_map]; constructor
    · rintro ⟨x, hx, hk⟩; rw [← logKey_strictMono.injective hk]
      exact (mem_filter.mp hx).2
    · exact fun hp => ⟨e, mem_filter.mpr ⟨he, hp⟩, rfl⟩
  grind

lemma Sim.truncate (h : Sim C s m) (id : LogId) :
    ∃ s', s.truncate C id = some (.ok s') ∧ Sim C s' (m.truncate id) := by
  obtain ⟨l3, cache⟩ := s; obtain ⟨hd, rfl, hk⟩ := h
  have hm : ({ m with log := m.log.keep fun i => !decide (id.index ≤ i) } : MemLogStore P) =
      m.truncate id := by
    rw [MemLogStore.truncate]; congr 1
    exact SortedMap.keep_congr fun e _ => by rw [← decide_not, decide_eq_decide, not_le]
  have hd' := hm ▸ hd.keep (id.index ≤ ·)
  have hb : l3.writeBatch ((⟨l3, cacheOf m⟩ : L3RaftLogStore).deletes (id.index ≤ ·)) =
      l3.keep (· ∉ (m.log.keep (id.index ≤ ·)).toList.map fun e => logKey e.1) := by
    rw [hd.deletes, ← append_nil (List.map _ _), writeBatch_deletes]; rfl
  refine ⟨⟨_, cacheOf (m.truncate id)⟩, ?_, hd', rfl, fun e he => hk e (mem_of_mem_filter he)⟩
  simp only [L3RaftLogStore.truncate, writeBatch_nonempty]; simp only [hb, hd'.lastEntryId]
  rfl

lemma purge_eq (id : LogId) : (⟨l3, cacheOf m⟩ : L3RaftLogStore).purge C id =
      if ∀ last ∈ lastId m, id.index < last.index then
        some (.ok ⟨l3.writeBatch ((⟨l3, cacheOf m⟩ : L3RaftLogStore).deletes (· ≤ id.index) ++
            [.put lastPurgedKey (C.logId.serialize id)]),
          { cacheOf m with lastPurged := ⟨some id, 0⟩ }⟩)
      else none := by
  rcases hl : lastId m with _ | last
  · rw [if_pos (fun _ h => (by cases h))]
    simp only [L3RaftLogStore.purge, cacheOf, RwLock.write, RwLock.acquire, hl]; rfl
  · by_cases hlt : id.index < last.index
    · rw [if_pos (fun _ h => (by cases h; exact hlt))]
      simp only [L3RaftLogStore.purge, cacheOf, RwLock.write, RwLock.acquire, hl,
        if_neg (not_le.mpr hlt)]
      rfl
    simp_all [L3RaftLogStore.purge, cacheOf, RwLock.write, RwLock.acquire]

lemma Sim.purge_returns (h : Sim C s m) {id : LogId} {r : Except StorageError L3RaftLogStore}
    (hr : s.purge C id = some r) : ∀ last ∈ lastId m, id.index < last.index := by
  obtain ⟨l3, cache⟩ := s; obtain ⟨hd, rfl, hk⟩ := h; simp_all [purge_eq]

lemma lastId_purge (hk : ∀ e ∈ m.log.toList, e.2.logId.index = e.1) {id : LogId}
    (hid : ∀ last ∈ lastId m, id.index < last.index) : lastId (m.purge id) = lastId m := by
  rcases eq_nil_or_concat' m.log.toList with hn | ⟨init, e, hl⟩
  · rw [lastId, lastId, MemLogStore.purge, SortedMap.toList_keep, hn]; rfl
  simp_all [← hk e (by rw [hl]; simp), lastId, MemLogStore.purge, SortedMap.toList_keep, filter_append]

lemma Sim.purge (h : Sim C s m) {id : LogId} (hid : ∀ last ∈ lastId m, id.index < last.index) :
    ∃ s', s.purge C id = some (.ok s') ∧ Sim C s' (m.purge id) := by
  obtain ⟨l3, cache⟩ := s; obtain ⟨hd, rfl, hke⟩ := h
  refine ⟨_, by rw [purge_eq, if_pos hid], ?_, ?_, fun e he => hke e (mem_of_mem_filter he)⟩
  · rw [hd.deletes, writeBatch_deletes]; have hk := hd.keep (· ≤ id.index)
    have hl : (m.log.keep fun i => !decide (i ≤ id.index)) = m.log.keep (id.index < ·) :=
      SortedMap.keep_congr fun e _ => by rw [← decide_not, decide_eq_decide, not_le]
    refine ⟨?_, ?_, ?_, SortedMap.get?_insert_self⟩
    · exact (keep_log_insert lastPurgedKey_not_log).trans (hk.log.trans
        (congrArg (SortedMap.mapKeys · logKey_strictMono C.entry.serialize) hl))
    · exact (SortedMap.get?_insert_of_ne (by decide +kernel)).trans hk.vote
    · exact (SortedMap.get?_insert_of_ne (by decide +kernel)).trans hk.committed
  · rw [cacheOf, cacheOf, lastId_purge hke hid]; rfl

/-! ### Runs -/

lemma Sim.call (h : Sim C s m) (ha : ∀ es, c = .append es → Consecutive m.getLogState.lastLogId es)
    (hp : ∀ id, c = .purge id → ∀ last ∈ lastId m, id.index < last.index) :
    ∃ s', s.call C c = some (.ok s') ∧ Sim C s' (m.call c) := by
  cases c with
  | saveVote v => exact h.saveVote v
  | saveCommitted c => exact h.saveCommitted c
  | append es => exact h.append (ha es rfl)
  | truncate id => exact h.truncate id
  | purge id => exact h.purge (hp id rfl)
  | reopen => exact ⟨_, congrArg some h.disk.openStore, h.disk, rfl, h.keys⟩

variable (calls : List (Call P))

lemma l3RunFrom_append (calls' : List (Call P)) : l3RunFrom C s (calls ++ calls') =
      match l3RunFrom C s calls with
      | some (.ok s') => l3RunFrom C s' calls'
      | r => r := by
  induction calls generalizing s with
  | nil => rfl
  | cons => grind [l3RunFrom]

lemma l3Run_concat (c : Call P) : l3Run C (calls ++ [c]) =
      match l3Run C calls with
      | some (.ok s) => s.call C c
      | r => r := by
  rw [l3Run, l3RunFrom_append, ← l3Run]; rcases l3Run C calls with _ | ⟨_ | s⟩
  · rfl
  · rfl
  · show l3RunFrom C s [c] = s.call C c; rw [l3RunFrom]
    rcases s.call C c with _ | ⟨_ | s'⟩ <;> rfl

lemma memRun_concat (c : Call P) : memRun (calls ++ [c]) = (memRun calls).call c := by
  rw [memRun, foldl_append]; rfl

lemma sim_empty : Sim C ⟨.empty, {}⟩ {} := ⟨⟨rfl, rfl, rfl, rfl⟩, rfl, fun _ h => (by cases h)⟩

def Appends : Prop :=
  ∀ pre es, pre ++ [.append es] <+: calls → Consecutive (memRun pre).getLogState.lastLogId es

def PurgesPart : Prop :=
  ∀ pre id, pre ++ [.purge id] <+: calls → ∀ last ∈ lastId (memRun pre), id.index < last.index

lemma sim_run (ha : Appends calls) (hp : PurgesPart calls) :
    ∃ s, l3Run C calls = some (.ok s) ∧ Sim C s (memRun calls) := by
  induction calls using List.reverseRecOn with
  | nil => exact ⟨_, rfl, sim_empty⟩
  | append_singleton calls c ih =>
    have hpr : calls <+: calls ++ [c] := prefix_append _ _
    obtain ⟨s, hr, hs⟩ := ih (fun pre es h => ha pre es (h.trans hpr)) fun pre id h => hp pre id (h.trans hpr)
    rw [l3Run_concat, hr, memRun_concat]; refine hs.call ?_ ?_
    · rintro es rfl; exact ha calls es (prefix_refl _)
    · rintro id rfl; exact hp calls id (prefix_refl _)

theorem log_refines_iff (ha : Appends calls) :
    (∀ pre, pre <+: calls → ∃ s, l3Run C pre = some (.ok s) ∧ Agree C s (memRun pre)) ↔
      PurgesPart calls := by
  constructor
  · intro hre
    induction calls using List.reverseRecOn with
    | nil => exact fun pre id h => by simp at h
    | append_singleton calls c ih =>
      have hpr : calls <+: calls ++ [c] := prefix_append _ _
      have ha' : Appends calls := fun pre es h => ha pre es (h.trans hpr)
      have hp := ih ha' fun pre h => hre pre (h.trans hpr); intro pre id h last hl
      rcases prefix_concat_iff.mp h with heq | h
      · -- the purge is the last call: it returned
        obtain ⟨rfl, hc⟩ := append_inj' heq rfl; cases hc
        obtain ⟨s, hr, hs⟩ := sim_run (C := C) pre ha' hp
        obtain ⟨s', hr', -⟩ := hre _ (prefix_refl _); rw [l3Run_concat, hr] at hr'
        exact hs.purge_returns hr' last hl
      · exact hp pre id h last hl
  · intro hp pre hpr
    obtain ⟨s, hr, hs⟩ := sim_run (C := C) pre (fun p es h => ha p es (h.trans hpr))
      fun p id h => hp p id (h.trans hpr)
    exact ⟨s, hr, hs.agree⟩

end Simulation

variable (n : UInt64)

def u64Bytes : Bytes := leBytes 8 n.toNat

lemma length_u64Bytes : (u64Bytes n).length = 8 := length_leBytes 8 _

def u64At (b : Bytes) (i : Nat) : UInt64 := .ofNat (leVal ((b.drop i).take 8))

lemma u64At_zero (rest : Bytes) : u64At (u64Bytes n ++ rest) 0 = n := by
  have hv : leVal (u64Bytes n) = n.toNat := leVal_leBytes (by simpa using n.toNat_lt)
  simp_all [u64At, length_u64Bytes]

lemma u64At_add (rest : Bytes) (i : Nat) : u64At (u64Bytes n ++ rest) (8 + i) = u64At rest i := by
  rw [u64At, ← drop_drop, drop_left' (length_u64Bytes n), u64At]

def logIdBytes (id : LogId) : Bytes := u64Bytes id.leaderId.term ++
    (u64Bytes id.leaderId.nodeId ++ u64Bytes id.index)

def logIdOf (b : Bytes) : LogId := ⟨⟨u64At b 0, u64At b 8⟩, u64At b 16⟩

lemma logIdOf_bytes (id : LogId) : logIdOf (logIdBytes id) = id := by
  have h₂ := u64At_zero id.index []
  simp_all [append_nil, logIdOf, logIdBytes, u64At_zero, u64At_add _ _ 0, u64At_add _ _ 8]

def blankCodecs : Codecs Unit where
  vote :=
    { serialize := fun v => (if v.committed then 1 else 0) :: logIdBytes ⟨v.leaderId, 0⟩
      deserialize := fun b => some ⟨(logIdOf b.tail).leaderId, b.head? = some 1⟩
      roundTrip := fun ⟨l, c⟩ => by
        cases c <;> simp [logIdOf_bytes] }
  logId :=
    { serialize := logIdBytes
      deserialize := fun b => some (logIdOf b)
      roundTrip := fun id => congrArg some (logIdOf_bytes id) }
  entry :=
    { serialize := fun e => logIdBytes e.logId
      deserialize := fun b => some ⟨logIdOf b, ()⟩
      roundTrip := fun e => by rw [logIdOf_bytes] }

def blank (index : UInt64) : Entry Unit := ⟨⟨⟨1, 0⟩, index⟩, ()⟩

def purgeAll : List (Call Unit) := [.append [blank 0, blank 1], .purge (blank 1).logId]

lemma appends_of_first {calls : List (Call Unit)} (hes : Consecutive none es)
    (hca : ∀ es', Call.append es' ∉ calls) :
    Appends (.append es :: calls) := by
  intro pre es' h
  cases pre with
  | nil => obtain ⟨hc, -⟩ := cons_prefix_cons.mp h; cases hc; exact hes
  | cons => obtain ⟨-, h⟩ := cons_prefix_cons.mp h; exact absurd (h.subset (by simp)) (hca es')

theorem purge_never_returns : Appends purgeAll ∧ l3Run blankCodecs purgeAll = none ∧
    (memRun purgeAll).getLogState = ⟨some (blank 1).logId, some (blank 1).logId⟩ := by
  refine ⟨appends_of_first ?_ (by simp), ?_, by decide +kernel⟩
  · exact ⟨fun _ h => (by cases h), fun id h => (by cases h; rfl), trivial⟩
  rfl

def purgeFirst : List (Call Unit) := [.append [blank 0, blank 1], .purge (blank 0).logId, .reopen]

theorem log_refines_part : PurgesPart purgeFirst ∧ ∀ pre, pre <+: purgeFirst →
    ∃ s, l3Run blankCodecs pre = some (.ok s) ∧ Agree blankCodecs s (memRun pre) := by
  have ha : Appends purgeFirst := by
    refine appends_of_first ?_ (by simp)
    exact ⟨fun _ h => (by cases h), fun id h => (by cases h; rfl), trivial⟩
  have hp : PurgesPart purgeFirst := by
    intro pre id h last hl; rcases pre with _ | ⟨c, _ | ⟨c', pre⟩⟩
    · cases (cons_prefix_cons.mp h).1
    · obtain ⟨rfl, hr⟩ := cons_prefix_cons.mp h
      obtain rfl : id = (blank 0).logId := Call.purge.inj (cons_prefix_cons.mp hr).1
      have hid : lastId (memRun [.append [blank 0, blank 1]]) = some (blank 1).logId := by decide +kernel
      cases hl.symm.trans hid; decide
    · obtain ⟨-, h⟩ := cons_prefix_cons.mp h
      obtain ⟨-, h⟩ := cons_prefix_cons.mp h
      cases mem_singleton.mp (h.subset (by simp : Call.purge id ∈ pre ++ [.purge id]))
  exact ⟨hp, (log_refines_iff purgeFirst ha).mpr hp⟩

end Aeon.L4.RaftLog
