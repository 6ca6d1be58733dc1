import Mathlib.Data.Nat.Log
import Mathlib.Logic.Function.Iterate
import Aeon.L1Types.MountainRange

/-!
# What the root of a batch commits to

`crates/aeon-crypto/src/merkle.rs`. A level of odd length gets its last node twice, leaves and inner
nodes are hashed alike, and the number of items is not hashed.

* `commitment_binding`: a root binds lists of one length, as far as SHA-512 does not collide on
  them;
* `same_root`: `[a, b, c]` and `[a, b, c, c]`.
-/
namespace Aeon.Crypto

open List Option Aeon.Core Aeon.Types

/-- mirrors merkle.rs:12-16 -/
inductive ProofSide
  | left
  | right

/-- mirrors merkle.rs:19-23 -/
structure ProofStep where
  hash : Hash512
  side : ProofSide

/-- mirrors merkle.rs:26-36 -/
structure MerkleProof where
  leafHash : Hash512
  path : List ProofStep
  root : Hash512
  leafIndex : Nat

/-- mirrors merkle.rs:66-69 -/
structure MerkleTree where
  levels : List (List Hash512)

/-- mirrors merkle.rs:96-104 -/
def pad (level : List Hash512) : List Hash512 :=
  if level.length % 2 ≠ 0 then level ++ level.getLast?.toList else level

section Tree

variable (H : Bytes → Hash512)

/-- mirrors merkle.rs:106-109 -/
def pairUp : List Hash512 → List Hash512
  | a :: b :: rest => sha512Pair H a b :: pairUp rest
  | _ => []

/-- mirrors merkle.rs:88-115 -/
def levelsFrom : Nat → List Hash512 → Option (List (List Hash512))
  | _, [root] => some [[root]]
  | fuel + 1, a :: b :: rest =>
    (levelsFrom fuel (pairUp H (pad (a :: b :: rest)))).map (pad (a :: b :: rest) :: ·)
  | _, _ => none

namespace MerkleTree

/-- mirrors merkle.rs:83-118 -/
def fromLeaves (leaves : List Hash512) : Option MerkleTree := (levelsFrom H leaves.length leaves).map mk

/-- mirrors merkle.rs:76-83 -/
def fromData (items : List Bytes) : Option MerkleTree :=
  if items.isEmpty then none else fromLeaves H (items.map H)

/-- mirrors merkle.rs:121-126 -/
def root (t : MerkleTree) : Hash512 := (t.levels.getLast?.bind List.head?).getD zeroHash

/-- mirrors merkle.rs:150-167 -/
def proofPath : Nat → List (List Hash512) → List ProofStep
  | idx, level :: next :: levels =>
    let siblingIdx := if idx % 2 = 0 then idx + 1 else idx - 1
    let side := if idx % 2 = 0 then ProofSide.right else ProofSide.left
    (level[siblingIdx]?.map (ProofStep.mk · side)).toList ++ proofPath (idx / 2) (next :: levels)
  | _, _ => []

/-- mirrors merkle.rs:141-175 -/
def proof (t : MerkleTree) (index : Nat) : Option MerkleProof := do
  let leaves ← t.levels.head?
  let leafHash ← leaves[index]?
  some ⟨leafHash, proofPath index t.levels, t.root, index⟩

end MerkleTree

inductive Commits (items : List Bytes) (root : Hash512) : Prop
  | tree {t : MerkleTree} (ht : MerkleTree.fromData H items = some t) (hroot : t.root = root)
  | chain {c c' : PohChain} {timestampNanos : Int} {signingKey : Option SigningKey} {e : PohEntry}
      (hc : c.appendBatch H items timestampNanos signingKey = some (c', some e)) (hroot : e.merkleRoot = root)

/-- mirrors merkle.rs:106-109, hash.rs:87-97 -/
def levelInputs : List Hash512 → List Bytes
  | a :: b :: rest => (a ++ b) :: levelInputs rest
  | [a] => [a ++ a]
  | [] => []

def treeInputs : Nat → List Hash512 → List Bytes
  | fuel + 1, a :: b :: rest => levelInputs (a :: b :: rest) ++ treeInputs fuel (nextLevel H (a :: b :: rest))
  | _, _ => []

def hashed (items : List Bytes) : List Bytes := items ++ treeInputs H items.length (items.map H)

def CollisionFree (xs ys : List Bytes) : Prop := ∀ a ∈ hashed H xs, ∀ b ∈ hashed H ys, H a = H b → a = b
  deriving Decidable

end Tree

section Levels

variable {H : Bytes → Hash512}

lemma pad_cons_cons (a b : Hash512) (rest : List Hash512) : pad (a :: b :: rest) = a :: b :: pad rest := by
  have hm : (a :: b :: rest).length % 2 = rest.length % 2 := by grind
  unfold pad; grind

lemma pairUp_pad (l : List Hash512) : pairUp H (pad l) = nextLevel H l := by
  induction l using nextLevel.induct with
  | case1 a b rest ih => rw [pad_cons_cons, pairUp, ih, nextLevel]
  | case2 | case3 => simp [pad, pairUp, nextLevel]

lemma length_pad (l : List Hash512) : (pad l).length = l.length + l.length % 2 := by
  grind [length_append, toList_some, length_singleton, pad]

lemma levelsFrom_root (fuel : Nat) (l : List Hash512) :
    (levelsFrom H fuel l).map (fun ls => ls.getLast?.bind List.head?) = (fromLeaves H fuel l).map some := by
  induction fuel generalizing l with
  | zero => rcases l with _ | ⟨a, _ | ⟨b, rest⟩⟩ <;> rfl
  | succ fuel ih =>
    rcases l with _ | ⟨a, _ | ⟨b, rest⟩⟩
    · rfl
    · rfl
    · have ih := ih (nextLevel H (a :: b :: rest))
      rw [levelsFrom, fromLeaves, ← ih, pairUp_pad, Option.map_map]
      cases hls : levelsFrom H fuel (nextLevel H (a :: b :: rest)) with
      | none => rfl
      | some ls =>
        rcases ls with _ | ⟨level, ls⟩
        · simp_all
        rfl

lemma fromData_root (items : List Bytes) :
    (MerkleTree.fromData H items).map MerkleTree.root = merkleRoot H items := by
  unfold MerkleTree.fromData MerkleTree.fromLeaves merkleRoot
  rcases items with _ | ⟨a, items⟩
  · rfl
  · have h := levelsFrom_root (H := H) (items.length + 1) ((a :: items).map H)
    simp only [isEmpty_cons, Bool.false_eq_true, if_false, length_map, length_cons, Option.map_map]
    cases hls : levelsFrom H (items.length + 1) ((a :: items).map H) with
    | none => simp_all
    | some =>
      rw [hls] at h
      cases hr : fromLeaves H (items.length + 1) ((a :: items).map H) with
      | none => rw [hr] at h; cases h
      | some => rw [hr] at h; simp_all [MerkleTree.root]

variable {root : Hash512}

lemma merkleRoot_of_commits {items : List Bytes} (h : Commits H items root) :
    merkleRoot H items = some root := by
  cases h with
  | tree ht hro => rw [← fromData_root, ht, ← hro]; rfl
  | @chain c c' t key e hc =>
    unfold PohChain.appendBatch at hc
    cases hr : merkleRoot H items with
    | none => rw [hr] at hc; cases hc
    | some =>
      rw [hr] at hc; obtain ⟨⟨c₁, e₁⟩, ha, heq⟩ := map_eq_some_iff.mp hc
      obtain ⟨mmr, -, he⟩ := bind_eq_some_iff.mp ha; grind

end Levels

section Binding

variable {S : Sha512} {fuel : Nat} {l l' : List Hash512} {xs ys : List Bytes}

lemma nextLevel_eq_map (l : List Hash512) : nextLevel H l = (levelInputs l).map H := by
  induction l using nextLevel.induct with
  | case1 a b rest ih => simp [nextLevel, levelInputs, ih, sha512Pair]
  | case2 | case3 => rfl

lemma levelInputs_inj (hl : ∀ h ∈ l, h.length = 64) (hl' : ∀ h ∈ l', h.length = 64)
    (hle : l.length = l'.length) (h : levelInputs l = levelInputs l') : l = l' := by
  induction l using nextLevel.induct generalizing l' with
  | case1 a =>
    rcases l' with _ | ⟨a', _ | ⟨b', rest'⟩⟩
    · cases hle
    · simp at hle
    · simp only [levelInputs, List.cons.injEq] at h
      have ha : a.length = a'.length := by rw [hl a (by simp), hl' a' (by simp)]
      obtain ⟨rfl, rfl⟩ := List.append_inj h.1 ha; grind
  | case2 a =>
    rcases l' with _ | ⟨a', _ | ⟨b', rest'⟩⟩
    · cases hle
    · simp only [levelInputs, List.cons.injEq, and_true] at h
      have ha : a.length = a'.length := by rw [hl a (by simp), hl' a' (by simp)]
      rw [(List.append_inj h ha).1]
    · simp at hle
  | case3 => exact (length_eq_zero_iff.mp hle.symm).symm

lemma eq_of_map_eq {α β : Type*} {f : α → β} {as bs : List α} (hi : ∀ a ∈ as, ∀ b ∈ bs, f a = f b → a = b)
    (h : as.map f = bs.map f) : as = bs := by
  induction as generalizing bs with
  | nil => exact (map_eq_nil_iff.mp h.symm).symm
  | cons =>
    rcases bs with _ | ⟨b, bs⟩
    · cases h
    grind

lemma length_of_mem_nextLevel (hm : h ∈ nextLevel S.hash l) : h.length = 64 := by
  rw [nextLevel_eq_map] at hm; obtain ⟨b, -, rfl⟩ := List.mem_map.mp hm
  exact S.length_hash b

lemma fromLeaves_inj (hle : l.length = l'.length) (hl : ∀ h ∈ l, h.length = 64)
    (hl' : ∀ h ∈ l', h.length = 64)
    (hf : ∀ a ∈ treeInputs S.hash fuel l, ∀ b ∈ treeInputs S.hash fuel l', S.hash a = S.hash b → a = b)
    (h : fromLeaves S.hash fuel l = some root) (h' : fromLeaves S.hash fuel l' = some root) :
    l = l' := by
  induction fuel generalizing l l' with
  | zero =>
    rcases l with _ | ⟨a, _ | ⟨b, rest⟩⟩
    · cases h
    · obtain ⟨a', rfl⟩ := length_eq_one_iff.mp hle.symm; cases h; cases h'
      rfl
    · cases h
  | succ fuel ih =>
    rcases l with _ | ⟨a, _ | ⟨b, rest⟩⟩
    · cases h
    · obtain ⟨a', rfl⟩ := length_eq_one_iff.mp hle.symm; cases h; cases h'
      rfl
    · rcases l' with _ | ⟨a', _ | ⟨b', rest'⟩⟩
      · cases h'
      · simp at hle
      · have hn : nextLevel S.hash (a :: b :: rest) = nextLevel S.hash (a' :: b' :: rest') :=
          ih (by rw [length_nextLevel, length_nextLevel, hle]) (fun h hm => length_of_mem_nextLevel hm)
            (fun h hm => length_of_mem_nextLevel hm)
            (fun x hx y hy => hf x (mem_append_right _ hx) y (mem_append_right _ hy)) h h'
        rw [nextLevel_eq_map, nextLevel_eq_map] at hn
        refine levelInputs_inj hl hl' hle (eq_of_map_eq (fun x hx y hy => ?_) hn)
        exact hf x (mem_append_left _ hx) y (mem_append_left _ hy)

lemma merkleRoot_inj (hl : xs.length = ys.length) (hf : CollisionFree S.hash xs ys)
    (hx : merkleRoot S.hash xs = some root) (hy : merkleRoot S.hash ys = some root) : xs = ys := by
  have hd : ∀ zs : List Bytes, ∀ h ∈ zs.map S.hash, h.length = 64 := by
    intro zs h hm; obtain ⟨b, -, rfl⟩ := List.mem_map.mp hm; exact S.length_hash b
  rw [merkleRoot, ← hl] at hy
  have hle : xs.map S.hash = ys.map S.hash := by
    refine fromLeaves_inj (by simpa using hl) (hd xs) (hd ys) (fun a ha b hb => ?_) hx hy
    exact hf a (mem_append_right _ ha) b (mem_append_right _ (hl ▸ hb))
  exact eq_of_map_eq (fun a ha b hb => hf a (mem_append_left _ ha) b (mem_append_left _ hb)) hle

end Binding

section Ambiguity

variable {H : Bytes → Hash512}

def doubled (H : Bytes → Hash512) (d : Hash512) : Hash512 := sha512Pair H d d

lemma nextLevel_replicate (n : Nat) (d : Hash512) :
    nextLevel H (List.replicate n d) = List.replicate ((n + 1) / 2) (doubled H d) := by
  induction n using Nat.strongRecOn with
  | ind n ih =>
    rcases n with _ | _ | n
    · rfl
    · rfl
    · have hh : (n + 1 + 1 + 1) / 2 = (n + 1) / 2 + 1 := by omega
      rw [hh, replicate_succ, replicate_succ, nextLevel, ih n (by omega), replicate_succ]
      rfl

lemma fromLeaves_replicate {fuel n : Nat} (d : Hash512) (hn : 0 < n) (hf : n ≤ fuel + 1) :
    fromLeaves H fuel (List.replicate n d) = some ((doubled H)^[Nat.clog 2 n] d) := by
  induction fuel generalizing n d with
  | zero =>
    obtain rfl : n = 1 := by omega
    rfl
  | succ fuel ih =>
    rcases n with _ | _ | n
    · omega
    · simp [fromLeaves]
    · have hc : Nat.clog 2 (n + 1 + 1) = Nat.clog 2 ((n + 1 + 1 + 1) / 2) + 1 :=
        Nat.clog_of_two_le (Nat.le_refl 2) (by omega)
      have hl : fromLeaves H (fuel + 1) (List.replicate (n + 1 + 1) d) =
          fromLeaves H fuel (nextLevel H (List.replicate (n + 1 + 1) d)) := rfl
      rw [hl, nextLevel_replicate, ih _ (by omega) (by omega), hc, Function.iterate_succ_apply]

lemma merkleRoot_replicate (x : Bytes) (hn : 0 < n) :
    merkleRoot H (List.replicate n x) = some ((doubled H)^[Nat.clog 2 n] (H x)) := by
  rw [merkleRoot, map_replicate, length_replicate]
  exact fromLeaves_replicate (H x) hn (Nat.le_succ n)

lemma exists_same_root (hm : 0 < m) (hn : 0 < n) (hle : Nat.clog 2 m ≤ Nat.clog 2 n) :
    ∃ xs ys : List Bytes, xs.length = m ∧ ys.length = n ∧ merkleRoot H xs = merkleRoot H ys := by
  obtain ⟨k, hk⟩ := Nat.exists_eq_add_of_le hle
  cases k with
  | zero =>
    refine ⟨List.replicate m [], List.replicate n [], length_replicate, length_replicate, ?_⟩
    grind [merkleRoot_replicate]
  | succ k =>
    let inner := (doubled H)^[k] (H [])
    refine ⟨List.replicate m (inner ++ inner), List.replicate n [], length_replicate, length_replicate, ?_⟩
    have hi : H (inner ++ inner) = (doubled H)^[k + 1] (H []) := by rw [Function.iterate_succ_apply']; rfl
    rw [merkleRoot_replicate _ hm, merkleRoot_replicate _ hn, hi, ← Function.iterate_add_apply, hk]

end Ambiguity

lemma isSome_proof_iff {items : List Bytes} (ht : MerkleTree.fromData H items = some t) (i : Nat) :
    (t.proof i).isSome ↔ i < items.length + if items.length = 1 then 0 else items.length % 2 := by
  have hh : ∀ leaves, t.levels.head? = some leaves → ((t.proof i).isSome ↔ i < leaves.length) := by
    intro leaves hl; simp only [MerkleTree.proof, hl, bind_eq_bind, bind_some]
    grind
  unfold MerkleTree.fromData MerkleTree.fromLeaves at ht
  rcases items with _ | ⟨a, _ | ⟨b, rest⟩⟩
  · cases ht
  · cases ht; simpa using hh [H a] rfl
  · obtain ⟨levels, hle, rfl⟩ := map_eq_some_iff.mp ht
    obtain ⟨ls, -, rfl⟩ := map_eq_some_iff.mp hle; rw [hh _ rfl, length_pad]; simp

theorem commitment_binding (S : Sha512) (n : Nat) (hn : 0 < n) :
    (∀ (xs ys : List Bytes) (root : Hash512), xs.length = n → ys.length = n → CollisionFree S.hash xs ys →
      Commits S.hash xs root → Commits S.hash ys root → xs = ys) ∧
    (∀ m, 0 < m → m ≠ n → ∃ xs ys t t', xs.length = m ∧ ys.length = n ∧
      MerkleTree.fromData S.hash xs = some t ∧
      MerkleTree.fromData S.hash ys = some t' ∧ t.root = t'.root) ∧
    (∀ (xs : List Bytes) (t : MerkleTree), xs.length = n → MerkleTree.fromData S.hash xs = some t →
      ((∀ i, (t.proof i).isSome ↔ i < n) ↔ n = 1 ∨ n % 2 = 0)) := by
  refine ⟨?_, ?_, ?_⟩
  · intro xs ys root hx hy hf hcx hcy
    exact merkleRoot_inj (hx.trans hy.symm) hf (merkleRoot_of_commits hcx) (merkleRoot_of_commits hcy)
  · intro m hm hne
    obtain ⟨xs, ys, hx, hy, hr⟩ : ∃ xs ys : List Bytes, xs.length = m ∧ ys.length = n ∧
        merkleRoot S.hash xs = merkleRoot S.hash ys := by
      rcases Nat.le_total (Nat.clog 2 m) (Nat.clog 2 n) with hle | hle
      · exact exists_same_root hm hn hle
      · obtain ⟨ys, xs, hy, hx, hr⟩ := exists_same_root (H := S.hash) hn hm hle; grind
    have hne : ∀ zs : List Bytes, 0 < zs.length → ∃ t, MerkleTree.fromData S.hash zs = some t := by
      intro zs hz
      have hr : merkleRoot S.hash zs ≠ none := fun h => by simp [merkleRoot_eq_none.mp h] at hz
      rw [← fromData_root, ne_eq, map_eq_none_iff] at hr
      exact ne_none_iff_exists'.mp hr
    obtain ⟨t, ht⟩ := hne xs (hx ▸ hm); obtain ⟨t', ht'⟩ := hne ys (hy ▸ hn)
    rw [← fromData_root, ← fromData_root, ht, ht'] at hr; grind
  · intro xs t hx ht; have hp := isSome_proof_iff ht; rw [hx] at hp
    constructor
    · intro h; have hl := (hp n).symm.trans (h n); grind
    grind

def oddSha512 : Sha512 where
  hash b := List.replicate 64 (UInt8.ofNat (2 * (b.headD 0).toNat + 1 + b.length / 128))
  length_hash _ := length_replicate

def three : List Bytes := [[10], [20], [30]]

def four : List Bytes := [[10], [20], [30], [30]]

def digests : Bytes := oddSha512.hash [10] ++ oddSha512.hash [20]

theorem same_root : ((MerkleTree.fromData oddSha512.hash three).map MerkleTree.root =
        (MerkleTree.fromData oddSha512.hash four).map MerkleTree.root ∧
      CollisionFree oddSha512.hash three four ∧
      ((MerkleTree.fromData oddSha512.hash three).bind (·.proof 3)).isSome) ∧
    ((MerkleTree.fromData oddSha512.hash [[10], [20]]).map MerkleTree.root =
        (MerkleTree.fromData oddSha512.hash [digests]).map MerkleTree.root ∧
      CollisionFree oddSha512.hash [[10], [20]] [digests] ∧
      (MerkleTree.fromData oddSha512.hash [digests]).isSome) := by decide +kernel

theorem commitment_binding_two : ∃ t t', MerkleTree.fromData oddSha512.hash [[10], [20]] = some t ∧
      MerkleTree.fromData oddSha512.hash [[30], [20]] = some t' ∧ t.root ≠ t'.root ∧
      ∀ i, (t.proof i).isSome ↔ i < 2 := by
  have hs : ∀ items : List Bytes, items ∈ [[[10], [20]], [[30], [20]]] →
      (MerkleTree.fromData oddSha512.hash items).isSome := by decide +kernel
  obtain ⟨t, ht⟩ := isSome_iff_exists.mp (hs [[10], [20]] (by decide))
  obtain ⟨t', ht'⟩ := isSome_iff_exists.mp (hs [[30], [20]] (by decide))
  obtain ⟨hb, -, hp⟩ := commitment_binding oddSha512 2 (by decide)
  refine ⟨t, t', ht, ht', fun heq => ?_, (hp _ t rfl ht).mpr (.inr rfl)⟩
  have hf : CollisionFree oddSha512.hash [[10], [20]] [[30], [20]] := by decide +kernel
  have : ([[10], [20]] : List Bytes) = [[30], [20]] := hb _ _ _ rfl rfl hf (.tree ht rfl) (.tree ht' heq.symm)
  exact absurd this (by decide)

end Aeon.Crypto
