import Aeon.L1Types.MerkleTree

/-!
# Inclusion proofs

`MerkleProof::verify` of `crates/aeon-crypto/src/merkle.rs`. A level is padded before it is stored,
so the sibling of a node is there.

* `proof_complete`: every item of every batch has a proof, and it verifies.
-/
namespace Aeon.Crypto

open List Option Aeon.Core Aeon.Types

variable {H : Bytes → Hash512} {l : List Hash512} {ls : List (List Hash512)}

/-- mirrors merkle.rs:40-49 -/
def climb (H : Bytes → Hash512) : Hash512 → List ProofStep → Hash512 := List.foldl fun current step =>
    match step.side with
    | .left => sha512Pair H step.hash current
    | .right => sha512Pair H current step.hash

def MerkleProof.verify (H : Bytes → Hash512) (p : MerkleProof) : Bool := climb H p.leafHash p.path = p.root

lemma getElem?_pairUp (l : List Hash512) (k : Nat) :
    (pairUp H l)[k]? = l[2 * k]?.bind fun a => l[2 * k + 1]?.map (sha512Pair H a) := by
  induction l using pairUp.induct generalizing k with
  | case1 a b rest ih =>
    cases k with
    | zero => rfl
    | succ => simp [pairUp, ih, Nat.mul_add]
  | case2 l hl =>
    rcases l with _ | ⟨a, _ | ⟨b, rest⟩⟩
    · simp [pairUp]
    · cases k <;> simp [pairUp, Nat.mul_add]
    · exact absurd rfl (hl a b rest)

variable {a : Hash512}

lemma getElem?_pad {i : Nat} (h : l[i]? = some a) : (pad l)[i]? = some a := by
  unfold pad; split_ifs
  · rw [getElem?_append_left (List.getElem?_eq_some_iff.mp h).1, h]
  · exact h

lemma exists_sibling {i : Nat} (h : l[i]? = some a) :
    ∃ b, (pad l)[if i % 2 = 0 then i + 1 else i - 1]? = some b ∧
      (pairUp H (pad l))[i / 2]? = some (if i % 2 = 0 then sha512Pair H a b else sha512Pair H b a) := by
  have ha := getElem?_pad h; have hi := (List.getElem?_eq_some_iff.mp h).1
  have hl := length_pad l; have hp := Nat.div_add_mod i 2; rw [getElem?_pairUp]
  rcases Nat.mod_two_eq_zero_or_one i with hm | hm
  · obtain ⟨b, hb⟩ : ∃ b, (pad l)[i + 1]? = some b := ⟨_, getElem?_eq_getElem (by omega)⟩
    refine ⟨b, by rw [if_pos hm, hb], ?_⟩
    rw [show 2 * (i / 2) = i by omega, ha, if_pos hm, bind_some, hb, map_some]
  · obtain ⟨b, hb⟩ : ∃ b, (pad l)[i - 1]? = some b := ⟨_, getElem?_eq_getElem (by omega)⟩
    refine ⟨b, by rw [if_neg (by omega), hb], ?_⟩
    rw [show 2 * (i / 2) = i - 1 by omega, hb, bind_some, Nat.sub_add_cancel (by omega), ha,
      if_neg (by omega), map_some]

lemma climb_proofPath {fuel i : Nat} (hls : levelsFrom H fuel l = some ls) (h : l[i]? = some a) :
    ls.getLast?.bind List.head? = some (climb H a (MerkleTree.proofPath i ls)) := by
  induction fuel, l using levelsFrom.induct (H := H) generalizing i a ls with
  | case1 => rw [levelsFrom] at hls; cases hls; cases i <;> simp_all [climb, MerkleTree.proofPath]
  | case2 fuel b c rest ih =>
    rw [levelsFrom] at hls; obtain ⟨ls', hls', rfl⟩ := map_eq_some_iff.mp hls
    obtain ⟨s, hs, hup⟩ := exists_sibling (H := H) h; have hr := ih hls' hup
    rcases ls' with _ | ⟨next, levels⟩
    · cases hr
    · rw [getLast?_cons_cons, hr, MerkleTree.proofPath, hs]; split_ifs <;> rfl
  | case3 => rw [levelsFrom] at hls <;> first | cases hls | assumption

lemma head?_levelsFrom {fuel i : Nat} (hls : levelsFrom H fuel l = some ls) (h : l[i]? = some a) :
    ∃ leaves, ls.head? = some leaves ∧ leaves[i]? = some a := by
  unfold levelsFrom at hls; split at hls
  · cases hls; exact ⟨_, rfl, h⟩
  · obtain ⟨ls', -, rfl⟩ := map_eq_some_iff.mp hls; exact ⟨_, rfl, getElem?_pad h⟩
  · cases hls

theorem proof_complete (H : Bytes → Hash512) (items : List Bytes) (i : Nat) (h : i < items.length) :
    ∃ t p, MerkleTree.fromData H items = some t ∧ t.proof i = some p ∧ p.leafHash = H items[i] ∧
      p.root = t.root ∧ p.verify H = true := by
  have hne : items ≠ [] := ne_nil_of_length_pos (by omega)
  have hr := fromData_root (H := H) items
  obtain ⟨root, hs⟩ := ne_none_iff_exists'.mp fun hn => hne (merkleRoot_eq_none.mp hn)
  rw [hs] at hr; obtain ⟨t, ht, -⟩ := map_eq_some_iff.mp hr
  have hl : (items.map H)[i]? = some (H items[i]) := by simp [h]
  rw [MerkleTree.fromData, if_neg (by simpa using hne)] at ht
  obtain ⟨ls, hls, rfl⟩ := map_eq_some_iff.mp ht
  obtain ⟨leaves, hh, hat⟩ := head?_levelsFrom hls hl
  refine ⟨⟨ls⟩, ⟨H items[i], MerkleTree.proofPath i ls, (MerkleTree.mk ls).root, i⟩, ?_, ?_, rfl, rfl, ?_⟩
  · rw [MerkleTree.fromData, if_neg (by simpa using hne), ht]
  · simp [MerkleTree.proof, hh, hat]
  · simp [MerkleProof.verify, MerkleTree.root, climb_proofPath hls hl]

theorem proof_complete_three : 1 < [[1], [2], [3]].length ∧
    ∃ t p, MerkleTree.fromData id [[1], [2], [3]] = some t ∧ t.proof 1 = some p ∧ p.leafHash = [2] ∧
      p.root = t.root ∧ p.verify id = true :=
  ⟨by decide, proof_complete id [[1], [2], [3]] 1 (by decide)⟩

end Aeon.Crypto
