import Mathlib.Data.List.Sort
import Aeon.L1Types.MountainRange

/-!
# The global checkpoint of the chains

`PohCheckpoint` of `crates/aeon-crypto/src/poh.rs`: the aggregate hashes the heads in the order of
their partitions, not the partition ids and sequence numbers.

* `checkpoint_integrity`: it verifies with changed heads iff their hashes are the same;
* `sequence_not_covered`: a changed sequence number.
-/
namespace Aeon.Crypto

open List Aeon.Core Aeon.Types

/-- mirrors poh.rs:475-476 -/
structure PartitionHead where
  partition : PartitionId
  hash : Hash512
  sequence : Nat
  deriving DecidableEq

/-- mirrors poh.rs:473-481 -/
structure PohCheckpoint where
  partitionHeads : List PartitionHead
  aggregateHash : Hash512
  timestampNanos : Int

def sortHeads (heads : List PartitionHead) : List PartitionHead :=
  heads.insertionSort fun a b => a.partition ≤ b.partition

def headBytes (heads : List PartitionHead) : Bytes := (sortHeads heads).flatMap (·.hash)

/-- mirrors poh.rs:489-498 and 511-520 -/
def aggregate (H : Bytes → Hash512) (heads : List PartitionHead) : Hash512 :=
  if heads.isEmpty then zeroHash else H (headBytes heads)

namespace PohCheckpoint

/-- mirrors poh.rs:485-505 -/
def build (H : Bytes → Hash512) (heads : List PartitionHead) (timestampNanos : Int) : PohCheckpoint :=
  ⟨sortHeads heads, aggregate H heads, timestampNanos⟩

/-- mirrors poh.rs:507-523 -/
def verify (H : Bytes → Hash512) (c : PohCheckpoint) : Bool := c.aggregateHash = aggregate H c.partitionHeads

end PohCheckpoint

variable {heads heads' : List PartitionHead} {timestamp : Int}

lemma sorted_sortHeads (heads : List PartitionHead) :
    (sortHeads heads).Pairwise fun a b => a.partition ≤ b.partition := by
  have : Std.Total fun a b : PartitionHead => a.partition ≤ b.partition := ⟨fun _ _ => UInt16.le_total _ _⟩
  have : IsTrans PartitionHead fun a b => a.partition ≤ b.partition := ⟨fun _ _ _ => UInt16.le_trans⟩
  exact pairwise_insertionSort _ _

lemma sortHeads_perm (hnd : (heads.map (·.partition)).Nodup) (h : heads'.Perm heads) :
    sortHeads heads' = sortHeads heads := by
  have hp : (sortHeads heads).Perm heads := perm_insertionSort _ _
  have hp' : (sortHeads heads').Perm heads' := perm_insertionSort _ _
  refine List.Perm.eq_of_pairwise (fun a b ha hb hab hba => ?_) (sorted_sortHeads _) (sorted_sortHeads _)
    (hp'.trans (h.trans hp.symm))
  exact inj_on_of_nodup_map hnd (h.subset (hp'.subset ha)) (hp.subset hb) (UInt16.le_antisymm hab hba)

lemma flatMap_hash_inj : ∀ {l l' : List PartitionHead}, (∀ h ∈ l, h.hash.length = 64) →
    (∀ h ∈ l', h.hash.length = 64) → l.length = l'.length →
    (l.flatMap (·.hash) = l'.flatMap (·.hash) ↔ l.map (·.hash) = l'.map (·.hash))
  | [], [], _, _, _ => by simp
  | a :: l, b :: l', ha, hb, hl => by
    have hab : a.hash.length = b.hash.length := by rw [ha a (by simp), hb b (by simp)]
    simp only [flatMap_cons, map_cons, List.cons.injEq, ← flatMap_hash_inj
      (fun h hm => ha h (.tail _ hm)) (fun h hm => hb h (.tail _ hm)) (Nat.succ.inj hl)]
    exact ⟨fun h => List.append_inj h hab, fun ⟨h, h'⟩ => by rw [h, h']⟩

def orderedHashes (heads : List PartitionHead) : List Hash512 := (sortHeads heads).map (·.hash)

theorem checkpoint_integrity (H : Bytes → Hash512) (heads : List PartitionHead) (timestamp : Int)
    (hnd : (heads.map (·.partition)).Nodup) (hl : ∀ h ∈ heads, h.hash.length = 64) :
    (∀ heads', heads'.Perm heads → PohCheckpoint.build H heads' timestamp = .build H heads timestamp) ∧
    ∀ heads', heads'.length = heads.length → (∀ h ∈ heads', h.hash.length = 64) →
      (H (headBytes heads') = H (headBytes heads) → headBytes heads' = headBytes heads) →
      (PohCheckpoint.verify H { PohCheckpoint.build H heads timestamp with partitionHeads := heads' } = true ↔
        orderedHashes heads' = orderedHashes heads) := by
  constructor
  · intro heads' h
    have he : heads'.isEmpty = heads.isEmpty := by
      rw [Bool.eq_iff_iff, isEmpty_iff_length_eq_zero, isEmpty_iff_length_eq_zero, h.length_eq]
    simp only [PohCheckpoint.build, aggregate, headBytes, sortHeads_perm hnd h, he]
  · intro heads' hs hl' hf
    have hso : ∀ {l : List PartitionHead}, (∀ h ∈ l, h.hash.length = 64) →
      ∀ h ∈ sortHeads l, h.hash.length = 64 :=
      fun h x hx => h x (mem_insertionSort _ |>.mp hx)
    have hi : headBytes heads' = headBytes heads ↔ orderedHashes heads' = orderedHashes heads :=
      flatMap_hash_inj (hso hl') (hso hl) (by simpa [sortHeads] using hs)
    rw [← hi]
    cases heads with
    | nil => simp_all [PohCheckpoint.verify, PohCheckpoint.build, aggregate]
    | cons =>
      obtain ⟨b, l', rfl⟩ := exists_cons_of_length_eq_add_one hs
      simp only [PohCheckpoint.verify, PohCheckpoint.build, aggregate, isEmpty_cons, Bool.false_eq_true,
        if_false, decide_eq_true_eq]
      exact ⟨fun h => hf h.symm, fun h => by rw [h]⟩

def headsAt (sequence : Nat) : List PartitionHead := [⟨1, zeroHash, sequence⟩, ⟨0, zeroHash, 3⟩]

theorem changed_hash_detected : PohCheckpoint.verify (fun b => b)
    { PohCheckpoint.build (fun b => b) (headsAt 7) 0 with
      partitionHeads := [⟨1, List.replicate 64 1, 7⟩, ⟨0, zeroHash, 3⟩] } ≠ true := by
  have h := (checkpoint_integrity (fun b => b) (headsAt 7) 0 (by decide) (by decide)).2
    [⟨1, List.replicate 64 1, 7⟩, ⟨0, zeroHash, 3⟩] rfl (by decide) (fun h => h)
  exact fun hv => absurd (h.mp hv) (by decide)

theorem sequence_not_covered : headsAt 7 ≠ headsAt 8 ∧ ∀ H : Bytes → Hash512,
    PohCheckpoint.verify H { PohCheckpoint.build H (headsAt 7) 0 with partitionHeads := headsAt 8 } =
      true := by
  refine ⟨by decide, fun H => decide_eq_true ?_⟩
  have h : headBytes (headsAt 8) = headBytes (headsAt 7) := by decide
  change H (headBytes (headsAt 7)) = H (headBytes (headsAt 8)); rw [h]

end Aeon.Crypto
