import Aeon.L1Types.Event
import Aeon.L4Cluster.RaftLog

/-!
# Erasure windows

`crates/aeon-engine/src/erasure_store.rs`, `erasure_policy.rs`: tombstones on L3. A window is a
`u128` of nanoseconds that has to pass through an `i64`.

* `erasure_exact`: a pending tombstone is ripe at the exact time iff its window is `Timely`;
* `long_window_ripe_at_once`: a window of `2^63` nanoseconds is no window.
-/
namespace Aeon.L4.Erasure

open List Aeon.Core Aeon.Types
open Aeon.L4.RaftLog (L3 Serde)
open scoped Aeon.Core.KeyOrder

abbrev Time := Fin (2 ^ 63)

inductive TombstoneState
  | pending | completed | failed
  deriving DecidableEq

/-- mirrors erasure.rs:211-236 -/
structure ErasureTombstone where
  id : Uuid
  acceptedAtNanos : Int
  hardDeleteAfterNanos : Option Int
  state : TombstoneState

def saturatingAdd (a b : Int) : Int := max (-2 ^ 63) (min (2 ^ 63 - 1) (a + b))

/-- mirrors erasure.rs:173-190 -/
def intoTombstone (softDelete : Option Nat) (acceptedAt : Int) (id : Uuid) : ErasureTombstone where
  id := id
  acceptedAtNanos := acceptedAt
  hardDeleteAfterNanos :=
    ((softDelete.filter (· ≠ 0)).filter (· < 2 ^ 63)).map fun nanos : Nat => saturatingAdd acceptedAt nanos
  state := .pending

/-- mirrors erasure.rs:248-257 -/
def ErasureTombstone.isRipe (t : ErasureTombstone) (now : Int) : Bool :=
  if t.state ≠ .pending then false else t.hardDeleteAfterNanos.elim true (· ≤ now)

def erasurePrefix : Bytes := "erasure/tombstones/".toUTF8.toList

/-- mirrors erasure_store.rs:75-80 -/
def recordKey (id : Uuid) : Bytes := erasurePrefix ++ beBytes 16 id.toNat

variable (C : Serde ErasureTombstone)

/-- mirrors erasure_store.rs:94-126 -/
def append (l3 : L3) (t : ErasureTombstone) : Except String L3 :=
  if (l3.get? (recordKey t.id)).isSome then .error "erasure tombstone already exists"
  else .ok (l3.insert (recordKey t.id) (C.serialize t))

def decode (bytes : Bytes) : Except String ErasureTombstone :=
  match C.deserialize bytes with
  | none => .error "erasure tombstone deserialize"
  | some t => .ok t

/-- mirrors erasure_store.rs:128-135 -/
def listAll (l3 : L3) : Except String (List ErasureTombstone) :=
  (l3.scanPrefix erasurePrefix).mapM fun e => decode C e.2

/-- mirrors erasure_store.rs:137-143 -/
def listPending (l3 : L3) : Except String (List ErasureTombstone) :=
  match listAll C l3 with
  | .error e => .error e
  | .ok all => .ok (all.filter (·.state = .pending))

/-- mirrors erasure_store.rs:153-166 -/
def markState (l3 : L3) (id : Uuid) (state : TombstoneState) : Except String L3 :=
  match l3.get? (recordKey id) with
  | none => .error "erasure tombstone not found"
  | some bytes =>
    match decode C bytes with
    | .error e => .error e
    | .ok t => .ok (l3.insert (recordKey id) (C.serialize { t with state := state }))

/-- mirrors erasure_policy.rs:58-63 -/
structure ErasureBacklog where
  pendingCount : Nat
  oldestAcceptedAtNanos : Option Int
  oldestAgeNanos : Option Nat
  forceCompaction : Bool

/-- mirrors erasure_policy.rs:81-91 -/
def maxDelayNanos (hours : BitVec 32) : Nat :=
  if hours.toNat * 3600 * 1000000000 < 2 ^ 64 then hours.toNat * 3600 * 1000000000 else 2 ^ 64 - 1

def oldest : List ErasureTombstone → Option ErasureTombstone
  | [] => none
  | t :: ts =>
    match oldest ts with
    | none => some t
    | some u => if t.acceptedAtNanos ≤ u.acceptedAtNanos then some t else some u

/-- mirrors erasure_policy.rs:104-145 -/
def evaluate (maxDelay : Nat) (l3 : L3) (now : Int) : Except String ErasureBacklog :=
  match listPending C l3 with
  | .error e => .error e
  | .ok pending =>
    match oldest pending with
    | none => .ok ⟨0, none, none, false⟩
    | some o =>
      let age := (now - o.acceptedAtNanos).toNat
      .ok ⟨pending.length, some o.acceptedAtNanos, some age, maxDelay ≤ age⟩

structure Request where
  softDelete : Option Nat
  acceptedAt : Time
  id : Uuid
  state : TombstoneState

def Request.tombstone (e : Request) : ErasureTombstone :=
  { intoTombstone e.softDelete e.acceptedAt e.id with state := e.state }

def Request.mark (id : Uuid) (state : TombstoneState) (e : Request) : Request :=
  if e.id = id then { e with state := state } else e

inductive Op
  | append (softDelete : Option Nat) (acceptedAt : Time) (id : Uuid)
  | markState (id : Uuid) (state : TombstoneState)

def run (l3 : L3) : Op → L3
  | .append softDelete acceptedAt id =>
    ((append C l3 (intoTombstone softDelete acceptedAt id)).toOption).getD l3
  | .markState id state => ((markState C l3 id state).toOption).getD l3

def record (es : List Request) : Op → List Request
  | .append softDelete acceptedAt id =>
    if id ∈ es.map Request.id then es else ⟨softDelete, acceptedAt, id, .pending⟩ :: es
  | .markState id state => es.map (.mark id state)

def unused (l3 : L3) : L3 := l3.keep fun k => !erasurePrefix.isPrefixOf k

def entryOf (e : Request) : Bytes × Bytes := (recordKey e.id, C.serialize e.tombstone)

structure Holds (l3 : L3) (es : List Request) : Prop where
  perm : (l3.scanPrefix erasurePrefix).Perm (es.map (entryOf C))
  nodup : (es.map Request.id).Nodup

variable {C} {l3 : L3} {es : List Request}

lemma decode_serialize (t : ErasureTombstone) : decode C (C.serialize t) = .ok t := by
  rw [decode, C.roundTrip]

lemma isPrefixOf_recordKey (id : Uuid) : erasurePrefix.isPrefixOf (recordKey id) = true :=
  isPrefixOf_iff_prefix.mpr ⟨_, rfl⟩

lemma recordKey_inj : recordKey a = recordKey b ↔ a = b := by
  refine ⟨fun h => ?_, congrArg _⟩
  have hk := append_cancel_left h
  rcases lt_trichotomy a.toNat b.toNat with hl | he | hl
  · exact absurd hk (beBytes_lt b.isLt hl).ne
  · exact BitVec.eq_of_toNat_eq he
  · exact absurd hk (beBytes_lt a.isLt hl).ne'

variable {id : Uuid}

lemma Holds.get?_none (h : Holds C l3 es) : l3.get? (recordKey id) = none ↔ id ∉ es.map Request.id := by
  rw [← SortedMap.get?_keep (isPrefixOf_recordKey id), SortedMap.get?_eq_none]
  have hm : recordKey id ∈ (l3.scanPrefix erasurePrefix).map Prod.fst ↔ id ∈ es.map Request.id := by
    rw [(h.perm.map Prod.fst).mem_iff]; simp [entryOf, recordKey_inj, eq_comm]
  exact not_congr hm

lemma Holds.get?_some (h : Holds C l3 es) {bytes : Bytes} (hg : l3.get? (recordKey id) = some bytes) :
    ∃ e ∈ es, e.id = id ∧ bytes = C.serialize e.tombstone := by
  rw [← SortedMap.get?_keep (isPrefixOf_recordKey id)] at hg
  have hm := h.perm.mem_iff.mp ((SortedMap.perm_erase hg).mem_iff.mpr mem_cons_self)
  obtain ⟨e, he, heq⟩ := mem_map.mp hm
  obtain ⟨hk, hb⟩ := Prod.mk.inj heq
  exact ⟨e, he, recordKey_inj.mp hk, hb.symm⟩

lemma filter_ne (h : id ∉ es.map Request.id) : es.filter (·.id ≠ id) = es :=
  filter_eq_self.mpr fun y hy => decide_eq_true fun he => h (mem_map.mpr ⟨y, hy, he⟩)

lemma map_mark (h : id ∉ es.map Request.id) (state : TombstoneState) : es.map (.mark id state) = es :=
  (map_congr_left fun y hy => if_neg fun he => h (mem_map.mpr ⟨y, hy, he⟩)).trans (map_id' es)

lemma notMem_filter_ne (id : Uuid) : id ∉ (es.filter (·.id ≠ id)).map Request.id := fun hm => by
  obtain ⟨x, hx, he⟩ := mem_map.mp hm
  exact absurd he (by simpa using (mem_filter.mp hx).2)

lemma Holds.put (h : Holds C l3 es) (e : Request) :
    Holds C (l3.insert (recordKey e.id) (C.serialize e.tombstone)) (e :: es.filter (·.id ≠ e.id)) where
  perm := by
    rw [L3.scanPrefix, SortedMap.keep_insert (isPrefixOf_recordKey _)]
    refine SortedMap.perm_insert.trans (.cons _ ?_)
    have hf := h.perm.filter fun x => decide (x.1 ≠ recordKey e.id)
    have hc : es.filter ((fun x => decide (x.1 ≠ recordKey e.id)) ∘ entryOf C) = es.filter (·.id ≠ e.id) :=
      filter_congr fun x _ => by simp [entryOf, recordKey_inj]
    rw [filter_map, hc] at hf
    exact (Perm.of_eq (filter_congr fun x _ => decide_eq_decide.mpr Iff.rfl)).trans hf
  nodup := by exact nodup_cons.mpr ⟨notMem_filter_ne e.id, h.nodup.sublist (filter_sublist.map _)⟩

lemma perm_of_mem {e : Request} (hn : (es.map Request.id).Nodup) (he : e ∈ es) :
    es.Perm (e :: es.filter (·.id ≠ e.id)) := by
  induction es with
  | nil => cases he
  | cons x es ih =>
    obtain ⟨hx, hn⟩ := nodup_cons.mp hn
    rcases mem_cons.mp he with rfl | he
    · rw [filter_cons_of_neg (by simp), filter_ne hx]
    · have hne : x.id ≠ e.id := fun h => hx (h ▸ mem_map_of_mem he)
      rw [filter_cons_of_pos (by simpa using hne)]
      exact ((ih hn he).cons x).trans (.swap ..)

lemma Holds.of_perm (h : Holds C l3 es) (hp : es.Perm es') : Holds C l3 es' :=
  ⟨h.perm.trans (hp.map _), (hp.map _).nodup_iff.mp h.nodup⟩

lemma Holds.step (h : Holds C l3 es) (op : Op) : Holds C (run C l3 op) (record es op) := by
  cases op with
  | append softDelete acceptedAt id =>
    rw [run, record, append]
    by_cases hm : id ∈ es.map Request.id
    · rw [if_pos hm, if_pos (by rw [Option.isSome_iff_ne_none]; exact fun hn => h.get?_none.mp hn hm)]
      exact h
    · have hn : (intoTombstone softDelete acceptedAt id).id = id := rfl
      rw [if_neg hm, if_neg (by rw [hn, h.get?_none.mpr hm]; simp)]
      have hp := h.put ⟨softDelete, acceptedAt, id, .pending⟩
      rwa [filter_ne hm] at hp
  | markState id state =>
    rw [run, record, markState]
    cases hg : l3.get? (recordKey id) with
    | none =>
      rw [map_mark (h.get?_none.mp hg)]
      exact h
    | some =>
      obtain ⟨e, he, rfl, rfl⟩ := h.get?_some hg
      simp only [decode_serialize]
      have hp := (perm_of_mem h.nodup he).map (Request.mark e.id state)
      rw [map_cons, map_mark (notMem_filter_ne e.id), Request.mark, if_pos rfl] at hp
      exact (h.put { e with state := state }).of_perm hp.symm

lemma holds_run (l3 : L3) (ops : List Op) :
    Holds C (ops.foldl (run C) (unused l3)) (ops.foldl record []) := by
  have h₀ : Holds C (unused l3) [] :=
    ⟨.of_eq (by rw [L3.scanPrefix, unused, SortedMap.keep_keep]; simp [SortedMap.keep]), .nil⟩
  generalize unused l3 = l, ([] : List Request) = es at h₀
  induction ops generalizing l es with
  | nil => exact h₀
  | cons op ops ih => exact ih _ _ (h₀.step op)

lemma serialize_injective : Function.Injective C.serialize :=
  fun a b h => Option.some.inj ((C.roundTrip a).symm.trans ((congrArg C.deserialize h).trans (C.roundTrip b)))

lemma listAll_perm (h : Holds C l3 es) :
    ∃ ts, listAll C l3 = .ok ts ∧ ts.Perm (es.map Request.tombstone) := by
  have hd : ∀ l : List (Bytes × Bytes), (∀ x ∈ l, ∃ t, x.2 = C.serialize t) →
      ∃ ts, (l.mapM fun e => decode C e.2) = .ok ts ∧ l.map Prod.snd = ts.map C.serialize := by
    intro l hl
    induction l with
    | nil => exact ⟨[], rfl, rfl⟩
    | cons x l ih =>
      obtain ⟨ts, hts, hm⟩ := ih fun y hy => hl y (mem_cons_of_mem _ hy)
      obtain ⟨t, ht⟩ := hl x mem_cons_self
      refine ⟨t :: ts, ?_, by rw [map_cons, map_cons, ht, hm]⟩
      rw [mapM_cons, hts, ht, decode_serialize]; rfl
  obtain ⟨ts, hts, hm⟩ := hd (l3.scanPrefix erasurePrefix) fun x hx => by
    obtain ⟨e, -, rfl⟩ := mem_map.mp (h.perm.mem_iff.mp hx)
    exact ⟨_, rfl⟩
  refine ⟨ts, hts, (map_perm_map_iff (serialize_injective (C := C))).mp ?_⟩
  rw [← hm, map_map]
  exact (h.perm.map Prod.snd).trans (.of_eq (map_map ..))

lemma oldest_eq_none (h : oldest ts = none) : ts = [] := by
  cases ts with
  | nil => rfl
  | cons =>
    rw [oldest] at h
    split at h
    · cases h
    · split_ifs at h

lemma oldest_spec (h : oldest ts = some o) : o ∈ ts ∧ ∀ t ∈ ts, o.acceptedAtNanos ≤ t.acceptedAtNanos := by
  induction ts generalizing o with
  | nil => cases h
  | cons t ts ih =>
    rw [oldest] at h
    split at h
    · rename_i hn
      cases h
      simp [oldest_eq_none hn]
    · rename_i u hu
      obtain ⟨hm, hle⟩ := ih hu
      split_ifs at h with hc <;> cases h
      · exact ⟨mem_cons_self, forall_mem_cons.mpr ⟨le_rfl, fun v hv => hc.trans (hle v hv)⟩⟩
      · exact ⟨mem_cons_of_mem _ hm, forall_mem_cons.mpr ⟨(not_le.mp hc).le, hle⟩⟩

def Request.window (e : Request) : Nat := e.softDelete.getD 0

def Timely (e : Request) (now : Time) : Prop :=
  e.window < 2 ^ 63 ∧ (e.window = 0 → e.acceptedAt.val ≤ now.val) ∧
  (now.val = 2 ^ 63 - 1 → e.window ≠ 0 → e.acceptedAt.val + e.window < 2 ^ 63)

lemma isRipe_tombstone (e : Request) (now : Time) : e.tombstone.isRipe now.val ↔ e.state = .pending ∧
    (e.window = 0 ∨ 2 ^ 63 ≤ e.window ∨ min (2 ^ 63 - 1) (e.acceptedAt.val + e.window) ≤ now.val) := by
  have := e.acceptedAt.isLt
  rw [ErasureTombstone.isRipe, Request.window]
  by_cases hp : e.state = .pending
  · rw [if_neg (show ¬ e.tombstone.state ≠ .pending from not_not.mpr hp)]
    cases hs : e.softDelete with
    | none => simp [Request.tombstone, intoTombstone, hs, hp]
    | some d =>
      by_cases h₀ : d = 0
      · simp [Request.tombstone, intoTombstone, hs, hp, h₀, Option.filter]
      · by_cases hd : d < 2 ^ 63
        · have hf : e.tombstone.hardDeleteAfterNanos = some (saturatingAdd e.acceptedAt.val d) := by
            simp [Request.tombstone, intoTombstone, hs, Option.filter, h₀,
              show d < 9223372036854775808 from hd]
          simp only [hf, Option.elim_some, saturatingAdd, hp, true_and, Option.getD_some, decide_eq_true_eq]
          omega
        · have hf : e.tombstone.hardDeleteAfterNanos = none := by
            simp [Request.tombstone, intoTombstone, hs, Option.filter, h₀,
              show ¬ d < 9223372036854775808 from hd]
          simp only [hf, Option.elim_none, hp, true_and, Option.getD_some, true_iff]
          omega
  · rw [if_pos (show e.tombstone.state ≠ _ from hp)]
    simp [hp]

lemma isRipe_iff (e : Request) (now : Time) :
    (e.tombstone.isRipe now.val ↔ e.state = .pending ∧ e.acceptedAt.val + e.window ≤ now.val) ↔
      (e.state = .pending → Timely e now) := by
  rw [isRipe_tombstone, Timely]
  have := now.isLt
  by_cases hp : e.state = .pending
  · simp only [hp, true_and, forall_const]; omega
  · simp [hp]

theorem erasure_exact (C : Serde ErasureTombstone) (l3 : L3) (ops : List Op) (now : Time) :
    (∃ ts, listAll C (ops.foldl (run C) (unused l3)) = .ok ts ∧
      ts.Perm ((ops.foldl record []).map Request.tombstone)) ∧
    (∀ e ∈ ops.foldl record [],
      (e.tombstone.isRipe now.val ↔ e.state = .pending ∧ e.acceptedAt.val + e.window ≤ now.val) ↔
        (e.state = .pending → Timely e now)) ∧
    ∀ hours : BitVec 32, ∃ b, evaluate C (maxDelayNanos hours) (ops.foldl (run C) (unused l3)) now.val =
      .ok b ∧
      b.pendingCount = (ops.foldl record []).countP (·.state = .pending) ∧
      ((∀ e ∈ ops.foldl record [], e.state ≠ .pending) → b.oldestAgeNanos = none ∧
        b.forceCompaction = false) ∧
      ∀ e ∈ ops.foldl record [], e.state = .pending →
        (∀ e' ∈ ops.foldl record [], e'.state = .pending → e.acceptedAt ≤ e'.acceptedAt) → ∃ age : Nat,
          b.oldestAgeNanos = some age ∧ ((age : Int) = now.val - e.acceptedAt.val ↔ e.acceptedAt ≤ now) ∧
          ((b.forceCompaction ↔ (hours.toNat * 3600 * 1000000000 : Int) ≤ now.val - e.acceptedAt.val) ↔
            e.acceptedAt ≤ now ∨ hours ≠ 0) := by
  have h := holds_run (C := C) l3 ops
  refine ⟨listAll_perm h, fun e _ => isRipe_iff e now, fun hours => ?_⟩
  generalize ops.foldl (run C) (unused l3) = l3, ops.foldl record [] = es at h ⊢
  obtain ⟨ts, hts, hp⟩ := listAll_perm h
  have hpd : (ts.filter (·.state = .pending)).Perm ((es.filter (·.state = .pending)).map Request.tombstone) :=
    (hp.filter _).trans (.of_eq (filter_map ..))
  have hmem : ∀ t, t ∈ ts.filter (·.state = .pending) ↔ ∃ e ∈ es, e.state = .pending ∧
    e.tombstone = t := fun t => by
    rw [hpd.mem_iff]; simp [and_assoc]
  have hlen : (ts.filter (·.state = .pending)).length = es.countP (·.state = .pending) := by
    rw [hpd.length_eq, length_map, countP_eq_length_filter]
  rw [evaluate, listPending, hts]
  dsimp only
  cases ho : oldest (ts.filter (·.state = .pending)) with
  | none =>
    have hnil := oldest_eq_none ho
    rw [hnil] at hlen
    refine ⟨_, rfl, hlen, fun _ => ⟨rfl, rfl⟩, fun e he hs => ?_⟩
    exact absurd ((hmem e.tombstone).mpr ⟨e, he, hs, rfl⟩) (hnil ▸ not_mem_nil)
  | some o =>
    obtain ⟨hom, hmin⟩ := oldest_spec ho
    obtain ⟨e₀, he₀, hs₀, rfl⟩ := (hmem o).mp hom
    refine ⟨_, rfl, hlen, fun hn => absurd hs₀ (hn e₀ he₀), fun e he hs hle => ⟨_, rfl, ?_⟩⟩
    have h₁ := hmin _ ((hmem e.tombstone).mpr ⟨e, he, hs, rfl⟩)
    have h₂ := hle e₀ he₀ hs₀
    have heq : e₀.acceptedAt = e.acceptedAt := Fin.ext (Nat.le_antisymm (Int.ofNat_le.mp h₁) h₂)
    have hage : ((now.val : Int) - e₀.tombstone.acceptedAtNanos).toNat = now.val - e.acceptedAt.val := by
      rw [← heq]; exact Int.toNat_sub ..
    have hlt := now.isLt
    have hz : hours = 0 ↔ hours.toNat = 0 := BitVec.toNat_inj.symm
    dsimp only
    rw [hage, decide_eq_true_iff, maxDelayNanos, Fin.le_def, ne_eq, hz]
    constructor
    · omega
    · split <;> omega

theorem long_window_ripe_at_once :
    (Request.tombstone ⟨some (2 ^ 63), 0, 1, .pending⟩).isRipe 0 = true ∧ ¬ (0 : Int) + 2 ^ 63 ≤ 0 := by
      decide

end Aeon.L4.Erasure
