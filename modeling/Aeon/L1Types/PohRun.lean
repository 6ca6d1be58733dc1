import Mathlib.Data.List.DropRight
import Aeon.Core.LTS
import Aeon.L1Types.MountainRange

/-!
# Runs of a PoH chain

A chain of `crates/aeon-crypto/src/poh.rs` after any appends and transfers. What it should be is
said by the labels alone.

* `chain_consistent`: sequence, leaf count, head, window and both checks agree with the labels. A
  head that is the genesis digest is taken for an empty chain; that no run ends on it is left to
  SHA-512.
-/
namespace Aeon.Crypto

open List Option Aeon.Core Aeon.Types

section Model

variable (H : Bytes → Hash512)

/-- mirrors poh.rs:41-45 -/
def PohEntry.verifyChain (e : PohEntry) (previousHash : Hash512) : Bool :=
  e.hash = sha512Poh H previousHash e.merkleRoot e.timestampNanos

/-- mirrors poh.rs:271-276, 283-289 -/
def firstBroken : Hash512 → Nat → List PohEntry → Option Nat
  | _, _, [] => none
  | previousHash, i, e :: es => if e.verifyChain H previousHash then firstBroken e.hash (i + 1) es else some i

/-- mirrors poh.rs:250-292 -/
def PohChain.verifyRecent (c : PohChain) : Option Nat :=
  match c.recentEntries with
  | [] => none
  | e :: es => if e.sequence = 0 then firstBroken H c.genesisHash 0 (e :: es) else firstBroken H e.hash 1 es

namespace PohRun

inductive Lbl
  | appendBatch (payloads : List Bytes) (timestampNanos : Int) (signingKey : Option SigningKey)
  | appendRoot (root : {h : Hash512 // h.length = 64}) (timestampNanos : Int) (batchSize : Nat)
      (signingKey : Option SigningKey)
  | transfer (maxRecent : Nat)

def fits (c : PohChain) : Option PohChain :=
  if c.sequence < 2 ^ 64 ∧ c.mmr.leafCount < 2 ^ 64 then some c else none

def step (c : PohChain) : Lbl → Option PohChain
  | .appendBatch payloads timestampNanos signingKey =>
    (c.appendBatch H payloads timestampNanos signingKey).bind fun r => fits r.1
  | .appendRoot root timestampNanos batchSize signingKey =>
    (c.appendRoot H root timestampNanos batchSize signingKey).bind fun r => fits r.1
  | .transfer maxRecent => some (.fromState H c.exportState maxRecent)

def machine (partition : PartitionId) (maxRecent : Nat) : LTS PohChain Lbl :=
  .ofFn (· = PohChain.new H partition maxRecent) (step H)

def Lbl.appends : Lbl → Bool
  | .appendBatch payloads _ _ => !payloads.isEmpty
  | .appendRoot _ _ _ _ => true
  | .transfer _ => false

def Lbl.isTransfer : Lbl → Bool
  | .transfer _ => true
  | _ => false

structure Added where
  root : Hash512
  timestampNanos : Int
  batchSize : Nat
  signedRoot : Option Bytes

def Lbl.added : Lbl → Option Added
  | .appendBatch payloads timestampNanos signingKey =>
    (merkleRoot H payloads).map fun root =>
      ⟨root, timestampNanos, payloads.length % 2 ^ 32, signingKey.map fun sign => sign root timestampNanos⟩
  | .appendRoot root timestampNanos batchSize signingKey =>
    some ⟨root, timestampNanos, batchSize, signingKey.map fun sign => sign root timestampNanos⟩
  | .transfer _ => none

def added (ls : List Lbl) : List Added := ls.filterMap (Lbl.added H)

def chainHash (previous : Hash512) (as : List Added) : Hash512 :=
  as.foldl (fun h a => sha512Poh H h a.root a.timestampNanos) previous

def entriesFrom (previous : Hash512) (n : Nat) : List Added → List PohEntry
  | [] => []
  | a :: as =>
    let hash := sha512Poh H previous a.root a.timestampNanos
    ⟨n, hash, a.root, a.timestampNanos, a.batchSize, a.signedRoot⟩ :: entriesFrom hash (n + 1) as

def sinceTransfer (ls : List Lbl) : Nat := (ls.rtakeWhile fun l => !l.isTransfer).countP Lbl.appends

structure Consistent (partition : PartitionId) (ls : List Lbl) (c : PohChain) : Prop where
  sequence : c.sequence = ls.countP Lbl.appends
  leaves : c.mmr.leafCount = c.sequence
  head : c.currentHash = chainHash H (computeGenesis H partition) (added H ls)
  recent : c.recentEntries =
    (entriesFrom H (computeGenesis H partition) 0 (added H ls)).rtake (min c.maxRecent (sinceTransfer ls))
  linked : c.verifyRecent H = none
  accepted : (ls.countP Lbl.appends = 0 ∨ c.currentHash ≠ computeGenesis H partition) →
    verifyState H c.exportState partition = .ok ()

end PohRun

end Model

namespace PohRun

section Labels

variable {H : Bytes → Hash512} {ls : List Lbl} {l : Lbl} {as bs : List Added} {a : Added} {previous : Hash512}
  {n : Nat}

lemma isSome_added (l : Lbl) : (l.added H).isSome = l.appends := by
  cases l with
  | appendBatch payloads =>
    cases hr : merkleRoot H payloads with
    | none =>
      have hn : payloads = [] := merkleRoot_eq_none.mp hr
      simp only [Lbl.added, Lbl.appends, hn]; rfl
    | some => grind [merkleRoot_eq_none, Lbl.added, Lbl.appends]
  | appendRoot | transfer => rfl

lemma length_added : (added H ls).length = ls.countP Lbl.appends := by
  rw [added, length_filterMap_eq_countP]; simp only [isSome_added]

lemma added_snoc : added H (ls ++ [l]) = added H ls ++ (l.added H).toList := by
  cases h : l.added H <;> simp [added, h]

@[simp] lemma length_entriesFrom : (entriesFrom H previous n as).length = as.length := by
  induction as generalizing previous n with
  | nil => rfl
  | cons a as ih => simp [entriesFrom, ih]

lemma entriesFrom_append : entriesFrom H previous n (as ++ bs) =
      entriesFrom H previous n as ++ entriesFrom H (chainHash H previous as) (n + as.length) bs := by
  induction as generalizing previous n with
  | nil => rfl
  | cons a as ih =>
    simp only [cons_append, entriesFrom, chainHash, foldl_cons, length_cons]
    rw [ih, Nat.add_right_comm, Nat.add_assoc]; rfl

lemma drop_entriesFrom : (entriesFrom H previous n as).drop i =
      entriesFrom H (chainHash H previous (as.take i)) (n + (as.take i).length) (as.drop i) := by
  conv_lhs => rw [← take_append_drop i as, entriesFrom_append]
  rcases Nat.le_total i as.length with hi | hi
  · rw [drop_left' (by simp [hi])]
  · rw [drop_eq_nil_of_le hi, drop_eq_nil_of_le (by simp [entriesFrom, hi])]; rfl

lemma firstBroken_entriesFrom (as : List Added) :
    firstBroken H previous i (entriesFrom H previous n as) = none := by
  induction as generalizing previous n i with
  | nil => rfl
  | cons a as ih => simp [entriesFrom, firstBroken, PohEntry.verifyChain, ih]

lemma verifyRecent_eq_none {c : PohChain} (hr : c.recentEntries = entriesFrom H previous n as)
    (hg : n = 0 → previous = c.genesisHash) : c.verifyRecent H = none := by
  rw [PohChain.verifyRecent, hr]
  cases as with
  | nil => rfl
  | cons a as =>
    simp only [entriesFrom]; split_ifs with hn
    · rw [← hg hn]; exact firstBroken_entriesFrom (a :: as)
    · exact firstBroken_entriesFrom as

lemma rtake_snoc (l : List α) (x : α) (size k : Nat) (hk : k ≤ l.length) :
    (if size < (l.rtake (min size k) ++ [x]).length then (l.rtake (min size k) ++ [x]).tail
      else l.rtake (min size k) ++ [x]) = (l ++ [x]).rtake (min size (k + 1)) := by
  have hold : l.rtake (min size k) ++ [x] = (l ++ [x]).drop (l.length - min size k) := by grind [List.rtake]
  rw [hold, List.rtake]
  simp only [length_drop, length_append, length_singleton, tail_drop]
  grind

end Labels

section Step

variable {H : Bytes → Hash512} {c c' : PohChain} {l : Lbl} {a : Added}

def grown (H : Bytes → Hash512) (c : PohChain) (a : Added) (mmr : MerkleMountainRange) : PohChain :=
  let recent := c.recentEntries ++ entriesFrom H c.currentHash c.sequence [a]
  { c with
    currentHash := sha512Poh H c.currentHash a.root a.timestampNanos
    sequence := c.sequence + 1
    mmr := mmr
    recentEntries := if c.maxRecent < recent.length then recent.tail else recent }

lemma appendRoot_fits (root : Hash512) (t : Int) (size : Nat) (key : Option SigningKey) :
    (c.appendRoot H root t size key).bind (fun r => fits r.1) =
      (c.mmr.append H root).bind fun mmr =>
        fits (grown H c ⟨root, t, size, key.map fun sign => sign root t⟩ mmr) := by
  rw [PohChain.appendRoot]; cases c.mmr.append H root <;> rfl

lemma step_of_added (h : l.added H = some a) :
    step H c l = (c.mmr.append H a.root).bind fun mmr => fits (grown H c a mmr) := by
  cases l with
  | appendBatch payloads t key =>
    obtain ⟨root, hr, rfl⟩ := map_eq_some_iff.mp h
    simp only [step, PohChain.appendBatch, hr, bind_map]
    exact appendRoot_fits root t _ key
  | appendRoot root t size key => cases h; exact appendRoot_fits root t size key
  | transfer => cases h

lemma step_of_added_eq_none (h : l.added H = none) (hl : l.isTransfer = false) : step H c l = fits c := by
  cases l with
  | appendBatch payloads =>
    have hr : merkleRoot H payloads = none := map_eq_none_iff.mp h
    simp [step, PohChain.appendBatch, hr]
  | appendRoot => cases h
  | transfer => cases hl

lemma fits_eq_some_iff : fits c = some c' ↔ (c.sequence < 2 ^ 64 ∧ c.mmr.leafCount < 2 ^ 64) ∧ c = c' := by
  grind [fits]

lemma sinceTransfer_snoc (hl : l.isTransfer = false) :
    sinceTransfer (ls ++ [l]) = sinceTransfer ls + if l.appends then 1 else 0 := by
  simp [sinceTransfer, countP_append, countP_singleton, hl]

lemma sinceTransfer_le (ls : List Lbl) : sinceTransfer ls ≤ ls.countP Lbl.appends :=
  (rtakeWhile_suffix _ _).sublist.countP_le

end Step

structure Inv (H : Bytes → Hash512) (partition : PartitionId) (ls : List Lbl) (c : PohChain) : Prop where
  samePartition : c.partition = partition
  genesis : c.genesisHash = computeGenesis H partition
  room : c.sequence < 2 ^ 64
  nodes : c.mmr.leafCount ≤ c.mmr.nodes.length
  sequence : c.sequence = ls.countP Lbl.appends
  leaves : c.mmr.leafCount = c.sequence
  head : c.currentHash = chainHash H (computeGenesis H partition) (added H ls)
  recent : c.recentEntries =
    (entriesFrom H (computeGenesis H partition) 0 (added H ls)).rtake (min c.maxRecent (sinceTransfer ls))

section Runs

variable {H : Bytes → Hash512} {partition : PartitionId} {ls : List Lbl} {l : Lbl} {c c' : PohChain}
  {a : Added}

lemma Inv.start (maxRecent : Nat) : Inv H partition [] (.new H partition maxRecent) where
  samePartition := rfl
  genesis := rfl
  room := by simp [PohChain.new]
  nodes := Nat.le_refl _
  sequence := rfl
  leaves := rfl
  head := rfl
  recent := by simp [PohChain.new, added, entriesFrom]

section

variable (h : Inv H partition ls c)
include h

lemma Inv.grown {mmr : MerkleMountainRange} (ha : l.added H = some a) (hl : l.isTransfer = false)
    (hm : c.mmr.append H a.root = some mmr) (hf : c.sequence + 1 < 2 ^ 64) :
    Inv H partition (ls ++ [l]) (grown H c a mmr) := by
  have hap : l.appends = true := by rw [← isSome_added (H := H), ha]; rfl
  have had : added H (ls ++ [l]) = added H ls ++ [a] := by rw [added_snoc, ha]; rfl
  obtain ⟨mmr', hm', hle, hn⟩ := MerkleMountainRange.append_spec (H := H) a.root h.nodes
    (by rw [h.leaves]; exact hf)
  obtain rfl : mmr' = mmr := Option.some.inj (hm'.symm.trans hm)
  refine ⟨h.samePartition, h.genesis, hf, ?_, ?_, ?_, ?_, ?_⟩
  · -- the vector grows at least as the leaves do
    have hs := forestSize_succ (w := 64) (n := c.mmr.leafCount) (by rw [h.leaves]; exact hf)
    have := h.nodes; simp only [PohRun.grown, hle]; omega
  · simp [PohRun.grown, h.sequence, hap]
  · simp only [PohRun.grown, hle, h.leaves]
  · simp [PohRun.grown, had, chainHash, h.head]
  · -- the new entry continues the ones so far
    have he : entriesFrom H (computeGenesis H partition) 0 (added H (ls ++ [l])) =
        entriesFrom H (computeGenesis H partition) 0
          (added H ls) ++ entriesFrom H c.currentHash c.sequence [a] := by
      rw [had, entriesFrom_append, ← h.head, Nat.zero_add, length_added, ← h.sequence]
    have hw := rtake_snoc (entriesFrom H (computeGenesis H partition) 0 (added H ls))
      (⟨c.sequence, sha512Poh H c.currentHash a.root a.timestampNanos, a.root, a.timestampNanos, a.batchSize,
        a.signedRoot⟩ : PohEntry) c.maxRecent (sinceTransfer ls)
      (by rw [length_entriesFrom, length_added]; exact sinceTransfer_le ls)
    rw [he, sinceTransfer_snoc hl, if_pos hap]; simp only [PohRun.grown, h.recent]; exact hw

lemma Inv.step (hs : step H c l = some c') : Inv H partition (ls ++ [l]) c' := by
  cases hl : l.isTransfer with
  | true =>
    obtain ⟨maxRecent, rfl⟩ : ∃ maxRecent, l = .transfer maxRecent := by
      cases l <;> first | exact ⟨_, rfl⟩ | cases hl
    cases hs
    have had : added H (ls ++ [.transfer maxRecent]) = added H ls := by rw [added_snoc]; exact append_nil _
    refine ⟨h.samePartition, ?_, h.room, h.nodes, ?_, h.leaves, ?_, ?_⟩
    · simp only [PohChain.fromState, PohChain.exportState, h.samePartition]
    · simp [PohChain.fromState, PohChain.exportState, h.sequence, Lbl.appends]
    · simp only [PohChain.fromState, PohChain.exportState, h.head, had]
    · have hsi : sinceTransfer (ls ++ [.transfer maxRecent]) = 0 := by simp [sinceTransfer, Lbl.isTransfer]
      simp [PohChain.fromState, PohChain.exportState, hsi, List.rtake]
  | false =>
    cases ha : l.added H with
    | none =>
      rw [step_of_added_eq_none ha hl, fits_eq_some_iff] at hs; obtain ⟨-, rfl⟩ := hs
      have hap : l.appends = false := by rw [← isSome_added (H := H), ha]; rfl
      have had : added H (ls ++ [l]) = added H ls := by rw [added_snoc, ha]; exact append_nil _
      refine ⟨h.samePartition, h.genesis, h.room, h.nodes, ?_, h.leaves, ?_, ?_⟩
      · simp [h.sequence, hap]
      · rw [had, h.head]
      · rw [had, sinceTransfer_snoc hl, hap, h.recent]; rfl
    | some =>
      rw [step_of_added ha] at hs; obtain ⟨mmr, hm, hs⟩ := bind_eq_some_iff.mp hs
      obtain ⟨hf, rfl⟩ := fits_eq_some_iff.mp hs; exact h.grown ha hl hm hf.1

lemma Inv.enabled (hs : PohRun.step H c l = none) : c.sequence + 1 = 2 ^ 64 := by
  have hlt := h.room; by_contra hne; have hr : c.sequence + 1 < 2 ^ 64 := by omega
  cases hl : l.isTransfer with
  | true => cases l <;> first | cases hs | cases hl
  | false =>
    cases ha : l.added H with
    | none => grind [step_of_added_eq_none, fits, h.leaves]
    | some a =>
      obtain ⟨mmr, hm, hla, -⟩ := MerkleMountainRange.append_spec (H := H) a.root h.nodes
        (by rw [h.leaves]; exact hr)
      have hle : mmr.leafCount < 2 ^ 64 := by rwa [hla, h.leaves]
      rw [step_of_added ha, hm, bind_some, fits, if_pos ⟨hr, hle⟩] at hs; cases hs

lemma Inv.linked : c.verifyRecent H = none := by
  have hr := h.recent; rw [List.rtake, drop_entriesFrom] at hr
  refine verifyRecent_eq_none hr fun h0 => ?_
  rw [h.genesis, length_eq_zero_iff.mp ((Nat.zero_add _).symm.trans h0)]; rfl

lemma Inv.accepted (hf : ls.countP Lbl.appends = 0 ∨ c.currentHash ≠ computeGenesis H partition) :
    verifyState H c.exportState partition = .ok () := by
  have hh : c.currentHash = computeGenesis H partition ↔ c.sequence = 0 := by
    rw [h.sequence]; refine ⟨fun heq => hf.resolve_right (not_not_intro heq), fun h0 => ?_⟩
    rw [h.head, length_eq_zero_iff.mp (length_added.trans h0)]; rfl
  have hp := MerkleMountainRange.length_peaks (m := c.mmr) (by rw [h.leaves]; exact h.room)
  have hl := h.leaves
  rw [verifyState, if_neg (by simp [PohChain.exportState, h.samePartition])]
  simp only [PohChain.exportState, h.samePartition, ne_eq, hh, hp, hl]; simp

end

end Runs

theorem chain_consistent (H : Bytes → Hash512) (partition : PartitionId) (maxRecent : Nat) {ls : List Lbl}
    {c : PohChain} (hr : (machine H partition maxRecent).Run (.new H partition maxRecent) ls c) :
    Consistent H partition ls c ∧ ∀ l, step H c l = none → c.sequence + 1 = 2 ^ 64 := by
  have h : Inv H partition ls c := hr.induct_labels (.start maxRecent) fun ls c l c' h hs => h.step hs
  exact ⟨⟨h.sequence, h.leaves, h.head, h.recent, h.linked, h.accepted⟩, fun l => h.enabled⟩

def toyHash (b : Bytes) : Hash512 := List.replicate 64 (if b.length = 136 then 136 else b.headD 0)

def mixed : List Lbl := [.appendBatch [[1], [2], [3]] 10 none, .appendBatch [] 11 none,
    .appendBatch [[4]] 12 none,
    .appendRoot ⟨List.replicate 64 5, rfl⟩ 13 7 none, .transfer 2, .appendBatch [[6]] 14 none,
    .appendBatch [[7]] 15 none, .appendBatch [[8]] 16 none]

theorem chain_consistent_mixed :
    ∃ c, c.sequence = 6 ∧ c.mmr.leafCount = 6 ∧ c.recentEntries.map PohEntry.sequence = [4, 5] ∧
      Consistent toyHash 0 mixed c ∧ verifyState toyHash c.exportState 0 = .ok () := by
  have h : (LTS.exec (step toyHash) (.new toyHash 0 1024) mixed).map
      (fun c => ((c.sequence, c.mmr.leafCount, c.recentEntries.map PohEntry.sequence),
        decide (c.currentHash ≠ computeGenesis toyHash 0))) = some ((6, 6, [4, 5]), true) := by decide +kernel
  obtain ⟨c, hc, hv⟩ := map_eq_some_iff.mp h
  obtain ⟨hv, hh⟩ := Prod.mk.inj hv
  obtain ⟨hco, -⟩ := chain_consistent toyHash 0 1024 (LTS.run_of_exec hc)
  exact ⟨c, congrArg Prod.fst hv, congrArg (fun v => v.2.1) hv, congrArg (fun v => v.2.2) hv, hco,
    hco.accepted (.inr (of_decide_eq_true hh))⟩

end PohRun

end Aeon.Crypto
