import Aeon.Core.BinaryForest
import Aeon.L1Types.Poh

/-!
# The layout of the Merkle mountain range

`crates/aeon-crypto/src/mmr.rs` computes positions in one vector from the leaf count alone. An index
out of range and a checked overflow are `none`.

* `append_spec`: a vector with a node per leaf takes an append and grows as the forest does;
* `isSome_root_iff`: when the root can be computed.
-/
namespace Aeon.Crypto

open List Option Aeon.Core Aeon.Types

def u64 (n : Nat) : Option Nat := if n < 2 ^ 64 then some n else none

lemma u64_of_lt (h : n < 2 ^ 64) : u64 n = some n := if_pos h

/-- mirrors hash.rs:11-12 -/
def zeroHash : Hash512 := List.replicate 64 0

/-- mirrors mmr.rs:91-109 -/
def checkedPeaksFrom : Nat → Nat → Nat → Option (List Nat)
  | 0, _, _ => some []
  | height + 1, remaining, offset =>
    if 2 ^ height ≤ remaining then do
      let doubled ← u64 (2 * 2 ^ height)
      let offset ← u64 (offset + (doubled - 1))
      let peaks ← checkedPeaksFrom height (remaining - 2 ^ height) offset
      some ((offset - 1) :: peaks)
    else checkedPeaksFrom height remaining offset

section Bag

variable (H : Bytes → Hash512)

/-- mirrors mmr.rs:113-131 -/
def bagPeaks (nodes : List Hash512) : List Nat → Option Hash512
  | [] => some zeroHash
  | [peak] => nodes[peak]?
  | peak :: peaks => do
    let hash ← bagPeaks nodes peaks
    let left ← nodes[peak]?
    some (sha512Pair H left hash)

end Bag

namespace MerkleMountainRange

/-- mirrors mmr.rs:77-109 -/
def checkedPeaks (m : MerkleMountainRange) : Option (List Nat) :=
  if m.leafCount = 0 then some [] else checkedPeaksFrom (Nat.log2 m.leafCount + 1) m.leafCount 0

/-- mirrors mmr.rs:111-131 -/
def root (H : Bytes → Hash512) (m : MerkleMountainRange) : Option Hash512 :=
  m.checkedPeaks.bind (bagPeaks H m.nodes)

end MerkleMountainRange

section Append

variable {H : Bytes → Hash512}

lemma mergePeaks_spec {merges todo first : Nat} (nodes : List Hash512) (rightPos : Nat)
    (hr : ∀ h < merges, 2 ^ (h + 1) ≤ first + 1) (hf : first ≤ rightPos) (hl : rightPos + 1 = nodes.length)
    (ht : todo ≤ merges) :
    ∃ nodes', mergePeaks H merges todo nodes rightPos = some nodes' ∧
    nodes'.length = nodes.length + todo := by
  induction todo generalizing nodes rightPos with
  | zero => exact ⟨nodes, rfl, rfl⟩
  | succ todo ih =>
    have hs : 2 ^ (merges - (todo + 1) + 1) ≤ first + 1 := hr _ (by omega)
    have hle : rightPos - (2 ^ (merges - (todo + 1) + 1) - 1) < nodes.length := by omega
    have hri : rightPos < nodes.length := by omega
    obtain ⟨nodes', hm, hln⟩ := ih
      (nodes ++ [sha512Pair H nodes[rightPos - (2 ^ (merges - (todo + 1) + 1) - 1)] nodes[rightPos]])
      nodes.length (by omega) (by simp) (by omega)
    refine ⟨nodes', ?_, ?_⟩
    · grind [mergePeaks]
    grind

variable {m : MerkleMountainRange} {leaf : Hash512}

lemma MerkleMountainRange.append_spec (leaf : Hash512) (hn : m.leafCount ≤ m.nodes.length)
    (hf : m.leafCount + 1 < 2 ^ 64) :
    ∃ m', m.append H leaf = some m' ∧ m'.leafCount = m.leafCount + 1 ∧
      m'.nodes.length + forestSize m.leafCount = m.nodes.length + forestSize (m.leafCount + 1) := by
  have hr : ∀ h < trailingZeros (m.leafCount + 1), 2 ^ (h + 1) ≤ m.nodes.length + 1 :=
    fun h hh => (two_pow_le_of_lt_lowZeros (Nat.succ_pos _) hh).trans (by omega)
  obtain ⟨nodes, hm, hl⟩ := mergePeaks_spec (H := H) (m.nodes ++ [leaf]) m.nodes.length hr (Nat.le_refl _)
    (by simp) (Nat.le_refl _)
  refine ⟨⟨nodes, m.leafCount + 1⟩, ?_, rfl, ?_⟩
  · rw [append, hm]; rfl
  · have hs := forestSize_succ hf
    have htz : lowZeros 64 (m.leafCount + 1) = trailingZeros (m.leafCount + 1) := rfl
    simp only [hl, length_append, length_singleton]; omega

lemma MerkleMountainRange.leafCount_append (h : m.append H leaf = some m') :
    m'.leafCount = m.leafCount + 1 := by
  obtain ⟨nodes, -, hm⟩ := bind_eq_some_iff.mp h; cases hm; rfl

end Append

section Peaks

lemma lt_of_mem_peaksFrom {height remaining offset p : Nat} (hlt : remaining < 2 ^ height)
    (hp : p ∈ peaksFrom height remaining offset) : p < offset + forestSize remaining := by
  induction height generalizing remaining offset with
  | zero => cases hp
  | succ height ih =>
    rw [Nat.pow_succ] at hlt; have hpo := Nat.two_pow_pos height; rw [peaksFrom] at hp
    split_ifs at hp with hle
    · obtain ⟨r, rfl⟩ := Nat.exists_eq_add_of_le hle; rw [Nat.add_sub_cancel_left] at hp
      have hs := forestSize_two_pow_add height (r := r) (by omega); grind
    · exact ih (by omega) hp

variable {height remaining offset : Nat}

lemma last_mem_peaksFrom (hlt : remaining < 2 ^ height) (hp : 0 < remaining) :
    offset + forestSize remaining - 1 ∈ peaksFrom height remaining offset := by
  induction height generalizing remaining offset with
  | zero => simp at hlt; omega
  | succ height ih =>
    rw [Nat.pow_succ] at hlt; rw [peaksFrom]; split_ifs with hle
    · obtain ⟨r, rfl⟩ := Nat.exists_eq_add_of_le hle; rw [Nat.add_sub_cancel_left]
      have hs := forestSize_two_pow_add height (r := r) (by omega)
      rcases Nat.eq_zero_or_pos r with rfl | hr
      · simp_all
      grind
    · exact ih (by omega) hp

lemma length_peaksFrom (hlt : remaining < 2 ^ height) :
    (peaksFrom height remaining offset).length + forestSize remaining = 2 * remaining := by
  induction height generalizing remaining offset with
  | zero => simp_all [peaksFrom]
  | succ height ih =>
    rw [Nat.pow_succ] at hlt; have hp := Nat.two_pow_pos height; rw [peaksFrom]
    split_ifs with hle
    · obtain ⟨r, rfl⟩ := Nat.exists_eq_add_of_le hle
      have hs := forestSize_two_pow_add height (r := r) (by omega); grind
    · exact ih (by omega)

lemma checkedPeaksFrom_eq (hlt : remaining < 2 ^ height) (hh : height ≤ 63)
    (hf : offset + forestSize remaining < 2 ^ 64) :
    checkedPeaksFrom height remaining offset = some (peaksFrom height remaining offset) := by
  induction height generalizing remaining offset with
  | zero => rfl
  | succ height ih =>
    have hp : 2 ^ height ≤ 2 ^ 62 := Nat.pow_le_pow_right (by decide) (by omega)
    rw [Nat.pow_succ] at hlt; rw [checkedPeaksFrom, peaksFrom]; split_ifs with hle
    · obtain ⟨r, rfl⟩ := Nat.exists_eq_add_of_le hle
      have hs := forestSize_two_pow_add height (r := r) (by omega)
      have hr : checkedPeaksFrom height r (offset + (2 * 2 ^ height - 1)) =
          some (peaksFrom height r (offset + (2 * 2 ^ height - 1))) := ih (by omega) (by omega) (by omega)
      rw [Nat.add_sub_cancel_left, u64_of_lt (by omega), bind_eq_bind, bind_some, u64_of_lt (by omega),
        bind_eq_bind, bind_some, hr]
      rfl
    grind

namespace MerkleMountainRange

variable {m : MerkleMountainRange}

lemma lt_of_mem_peaks (hp : p ∈ m.peaks) : p < forestSize m.leafCount := by
  rw [peaks] at hp; split_ifs at hp
  · cases hp
  · simpa using lt_of_mem_peaksFrom Nat.lt_log2_self hp

lemma last_mem_peaks (h : 0 < m.leafCount) : forestSize m.leafCount - 1 ∈ m.peaks := by
  rw [peaks, if_neg (by omega)]
  have hl : 0 + forestSize m.leafCount - 1 ∈ peaksFrom (m.leafCount.log2 + 1) m.leafCount 0 :=
    last_mem_peaksFrom Nat.lt_log2_self h
  rwa [Nat.zero_add] at hl

lemma length_peaks (h : m.leafCount < 2 ^ 64) : m.peaks.length = countOnes m.leafCount := by
  have ho : forestSize m.leafCount + countOnes m.leafCount = 2 * m.leafCount := forestSize_add_onesBelow h
  have hp : m.peaks.length + forestSize m.leafCount = 2 * m.leafCount := by
    rw [peaks]; split_ifs with h0
    · simp [h0]
    · exact length_peaksFrom Nat.lt_log2_self
  omega

lemma checkedPeaks_eq (h : m.leafCount < 2 ^ 63) : m.checkedPeaks = some m.peaks := by
  have hs := forestSize_lt h; rw [checkedPeaks, peaks]; split_ifs with h0
  · rfl
  · refine checkedPeaksFrom_eq Nat.lt_log2_self ?_ (by omega)
    have : m.leafCount.log2 < 63 := (Nat.log2_lt h0).mpr h; omega

lemma checkedPeaks_eq_none (h : 2 ^ 63 ≤ m.leafCount) : m.checkedPeaks = none := by
  have h0 : m.leafCount ≠ 0 := by omega
  have hl : 63 ≤ m.leafCount.log2 := (Nat.le_log2 h0).mpr h
  have hp : 2 ^ 63 ≤ 2 ^ m.leafCount.log2 := Nat.pow_le_pow_right (by decide) hl
  have hb : u64 (2 * 2 ^ m.leafCount.log2) = none := if_neg (by omega)
  rw [checkedPeaks, if_neg h0, checkedPeaksFrom, if_pos (Nat.log2_self_le h0), hb]; rfl

lemma isSome_bagPeaks_iff {nodes : List Hash512} :
    (bagPeaks H nodes ps).isSome ↔ ∀ p ∈ ps, p < nodes.length := by
  induction ps with
  | nil => simp [bagPeaks]
  | cons p ps ih =>
    cases ps with
    | nil => simp [bagPeaks]
    | cons q ps =>
      rw [forall_mem_cons, ← ih, bagPeaks]
      · cases hb : bagPeaks H nodes (q :: ps) with
        | none => simp
        | some => grind
      · exact cons_ne_nil q ps

lemma isSome_root_iff :
    (m.root H).isSome ↔ m.leafCount < 2 ^ 63 ∧ forestSize m.leafCount ≤ m.nodes.length := by
  by_cases hlt : m.leafCount < 2 ^ 63
  · rw [root, checkedPeaks_eq hlt, bind_some, isSome_bagPeaks_iff]
    refine ⟨fun ha => ⟨hlt, ?_⟩, fun h p hp => (lt_of_mem_peaks hp).trans_le h.2⟩
    rcases Nat.eq_zero_or_pos m.leafCount with h0 | hpo
    · simp [h0]
    grind [last_mem_peaks]
  · rw [root, checkedPeaks_eq_none (by omega)]; grind

end MerkleMountainRange

end Peaks

end Aeon.Crypto
