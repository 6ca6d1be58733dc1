import Aeon.L1Types.Event

/-!
# Proof of History chains

`crates/aeon-crypto/src/poh.rs`, with the Merkle root of `merkle.rs` and the mountain range of
`mmr.rs`. SHA-512 is a parameter `H`; all that is built from it is computed as in the source.
-/
namespace Aeon.Crypto

open Aeon.Core Aeon.Types

abbrev Hash512 := Bytes

/-- mirrors hash.rs:68-76 -/
structure Sha512 where
  hash : Bytes → Hash512
  length_hash : ∀ b, (hash b).length = 64

variable (H : Bytes → Hash512)

/-- mirrors hash.rs:87-97 -/
def sha512Pair (left right : Bytes) : Hash512 := H (left ++ right)

def i64Bytes (t : Int) : Bytes := leBytes 8 (t % 2 ^ 64).toNat

/-- mirrors hash.rs:99-111 -/
def sha512Poh (previous merkleRoot : Hash512) (timestampNanos : Int) : Hash512 :=
  H (previous ++ merkleRoot ++ i64Bytes timestampNanos)

/-- mirrors merkle.rs:96-112 -/
def nextLevel : List Hash512 → List Hash512
  | a :: b :: rest => sha512Pair H a b :: nextLevel rest
  | [a] => [sha512Pair H a a]
  | [] => []

/-- mirrors merkle.rs:82-118 -/
def fromLeaves : Nat → List Hash512 → Option Hash512
  | _, [root] => some root
  | fuel + 1, a :: b :: rest => fromLeaves fuel (nextLevel H (a :: b :: rest))
  | _, _ => none

/-- mirrors merkle.rs:71-80 -/
def merkleRoot (items : List Bytes) : Option Hash512 := fromLeaves H items.length (items.map H)

variable {H} in
lemma length_nextLevel : ∀ l : List Hash512, (nextLevel H l).length = (l.length + 1) / 2
  | [] => rfl
  | [_] => by simp [nextLevel]
  | _ :: _ :: rest => by
    have ih := length_nextLevel rest
    simp only [nextLevel, List.length_cons, ih]
    omega

variable {H} in
lemma exists_fromLeaves {fuel : Nat} (h0 : l ≠ []) (hf : l.length ≤ fuel + 1) :
    ∃ root, fromLeaves H fuel l = some root := by
  induction fuel generalizing l with
  | zero =>
    match l, h0, hf with
    | [root], _, _ => exact ⟨root, by simp [fromLeaves]⟩
    | _ :: _ :: _, _, h => simp at h
  | succ fuel ih =>
    match l, h0, hf with
    | [root], _, _ => exact ⟨root, by simp [fromLeaves]⟩
    | a :: b :: rest, _, h =>
      have hl := length_nextLevel (H := H) (a :: b :: rest)
      have hne : nextLevel H (a :: b :: rest) ≠ [] := by simp [nextLevel]
      simp only [List.length_cons] at h hl; exact ih hne (by omega)

variable {H} in
lemma merkleRoot_eq_none {items : List Bytes} : merkleRoot H items = none ↔ items = [] := by
  constructor
  · intro h; by_contra hne
    obtain ⟨root, hr⟩ := exists_fromLeaves (H := H) (l := items.map H)
      (show items.map H ≠ [] by simpa using hne) (show _ ≤ items.length + 1 by simp)
    rw [merkleRoot, hr] at h; cases h
  · rintro rfl; rfl

/-- mirrors mmr.rs:19-26 -/
structure MerkleMountainRange where
  nodes : List Hash512 := []
  leafCount : Nat := 0

def trailingZeros (n : Nat) : Nat := ((List.range 64).takeWhile fun i => !n.testBit i).length

/-- mirrors mmr.rs:60-71 -/
def mergePeaks (merges : Nat) : Nat → List Hash512 → Nat → Option (List Hash512)
  | 0, nodes, _ => some nodes
  | todo + 1, nodes, rightPos =>
    let h := merges - (todo + 1)
    let subtreeSize := 2 ^ (h + 1) - 1
    if rightPos < subtreeSize then none
    else do
      let left ← nodes[rightPos - subtreeSize]?
      let right ← nodes[rightPos]?
      mergePeaks merges todo (nodes ++ [sha512Pair H left right]) nodes.length

/-- mirrors mmr.rs:45-75 -/
def MerkleMountainRange.append (m : MerkleMountainRange) (leaf : Hash512) :
    Option MerkleMountainRange := do
  let merges := trailingZeros (m.leafCount + 1)
  let nodes ← mergePeaks H merges merges (m.nodes ++ [leaf]) m.nodes.length
  some ⟨nodes, m.leafCount + 1⟩

/-- mirrors mmr.rs:91-109 -/
def peaksFrom : Nat → Nat → Nat → List Nat
  | 0, _, _ => []
  | height + 1, remaining, offset =>
    if 2 ^ height ≤ remaining then
      (offset + (2 * 2 ^ height - 1) - 1) :: peaksFrom height (remaining - 2 ^ height)
        (offset + (2 * 2 ^ height - 1))
    else peaksFrom height remaining offset

/-- mirrors mmr.rs:77-109 -/
def MerkleMountainRange.peaks (m : MerkleMountainRange) : List Nat :=
  if m.leafCount = 0 then [] else peaksFrom (Nat.log2 m.leafCount + 1) m.leafCount 0

abbrev SigningKey := Hash512 → Int → Bytes

/-- mirrors poh.rs:22-38 -/
structure PohEntry where
  sequence : Nat
  hash : Hash512
  merkleRoot : Hash512
  timestampNanos : Int
  batchSize : Nat
  signedRoot : Option Bytes

/-- mirrors poh.rs:65-84 -/
structure PohChain where
  partition : PartitionId
  genesisHash : Hash512
  currentHash : Hash512
  sequence : Nat
  mmr : MerkleMountainRange
  recentEntries : List PohEntry
  maxRecent : Nat

/-- mirrors poh.rs:319-326 -/
structure PohChainState where
  partition : PartitionId
  currentHash : Hash512
  sequence : Nat
  mmr : MerkleMountainRange

def genesisTag : Bytes := [97, 101, 111, 110, 45, 112, 111, 104, 45, 103, 101, 110, 101, 115, 105, 115]

/-- mirrors poh.rs:103-109 -/
def computeGenesis (partition : PartitionId) : Hash512 := H (genesisTag ++ leBytes 2 partition.toNat)

namespace PohChain

/-- mirrors poh.rs:87-101 -/
def new (partition : PartitionId) (maxRecent : Nat) : PohChain :=
  ⟨partition, computeGenesis H partition, computeGenesis H partition, 0, {}, [], maxRecent⟩

/-- mirrors poh.rs:185-214 -/
def appendRoot (c : PohChain) (root : Hash512) (timestampNanos : Int) (batchSize : Nat)
    (signingKey : Option SigningKey) : Option (PohChain × PohEntry) := do
  let pohHash := sha512Poh H c.currentHash root timestampNanos
  let entry : PohEntry := ⟨c.sequence, pohHash, root, timestampNanos, batchSize,
    signingKey.map fun sign => sign root timestampNanos⟩
  let mmr ← c.mmr.append H root
  let recent := c.recentEntries ++ [entry]
  some ({ c with
    currentHash := pohHash
    sequence := c.sequence + 1
    mmr := mmr
    recentEntries := if c.maxRecent < recent.length then recent.tail else recent }, entry)

/-- mirrors poh.rs:139-183 -/
def appendBatch (c : PohChain) (payloads : List Bytes) (timestampNanos : Int)
    (signingKey : Option SigningKey) : Option (PohChain × Option PohEntry) :=
  match merkleRoot H payloads with
  | none => some (c, none)
  | some root =>
    (c.appendRoot H root timestampNanos (payloads.length % 2 ^ 32) signingKey).map fun (c, e) => (c, some e)

/-- mirrors poh.rs:295-303 -/
def exportState (c : PohChain) : PohChainState := ⟨c.partition, c.currentHash, c.sequence, c.mmr⟩

/-- mirrors poh.rs:305-316 -/
def fromState (s : PohChainState) (maxRecent : Nat) : PohChain :=
  ⟨s.partition, computeGenesis H s.partition, s.currentHash, s.sequence, s.mmr, [], maxRecent⟩

end PohChain

/-- mirrors poh.rs:364-372 -/
inductive PohVerifyMode
  | verify
  | verifyWithKey
  | trustExtend
  deriving DecidableEq

/-- mirrors poh.rs:390-411 -/
inductive PohVerifyError
  | partitionMismatch (expected actual : PartitionId)
  | sequenceHashInconsistent (sequence : Nat) (state : String)
  | mmrAheadOfSequence (mmrLeaves sequence : Nat)
  | mmrPeaksInconsistent (leafCount peaks : Nat)
  deriving DecidableEq

def countOnes (n : Nat) : Nat := ((List.range 64).filter fun i => n.testBit i).length

/-- mirrors poh.rs:421-466 -/
def verifyState (s : PohChainState) (expected : PartitionId) : Except PohVerifyError Unit :=
  if s.partition ≠ expected then .error (.partitionMismatch expected s.partition)
  else if s.sequence = 0 ∧ s.currentHash ≠ computeGenesis H s.partition then
    .error (.sequenceHashInconsistent 0 "!= ")
  else if s.sequence ≠ 0 ∧ s.currentHash = computeGenesis H s.partition then
    .error (.sequenceHashInconsistent s.sequence "== ")
  else if s.sequence < s.mmr.leafCount then
    .error (.mmrAheadOfSequence s.mmr.leafCount s.sequence)
  else if s.mmr.peaks.length ≠ countOnes s.mmr.leafCount then
    .error (.mmrPeaksInconsistent s.mmr.leafCount s.mmr.peaks.length)
  else .ok ()

end Aeon.Crypto
