import Mathlib.Data.List.Induction
import Aeon.L1Types.MountainRange

/-!
# What a mountain range is

The nodes of `MerkleMountainRange` (`crates/aeon-crypto/src/mmr.rs`) against the definition: blocks
by the binary digits of the leaf count, each a perfect tree, children first (`layout`).

* `range_structure`: the nodes, the peaks and the root after any appends.
-/
namespace Aeon.Crypto

open List Option Aeon.Core Aeon.Types

section Reference

variable (H : Bytes → Hash512)

def perfectRoot : Nat → List Hash512 → Hash512
  | 0, l => l.headD zeroHash
  | h + 1, l => sha512Pair H (perfectRoot h (l.take (2 ^ h))) (perfectRoot h (l.drop (2 ^ h)))

def perfectNodes : Nat → List Hash512 → List Hash512
  | 0, l => [perfectRoot H 0 l]
  | h + 1, l =>
    perfectNodes h (l.take (2 ^ h)) ++ perfectNodes h (l.drop (2 ^ h)) ++ [perfectRoot H (h + 1) l]

def blocks : Nat → List Hash512 → List (Nat × List Hash512)
  | 0, _ => []
  | h + 1, l => if 2 ^ h ≤ l.length then (h, l.take (2 ^ h)) :: blocks h (l.drop (2 ^ h)) else blocks h l

def layout (height : Nat) (l : List Hash512) : List Hash512 :=
  (blocks height l).flatMap fun b => perfectNodes H b.1 b.2

def blockRoots (height : Nat) (l : List Hash512) : List Hash512 :=
  (blocks height l).map fun b => perfectRoot H b.1 b.2

def bag : List Hash512 → Hash512
  | [] => zeroHash
  | [r] => r
  | r :: s :: rs => sha512Pair H r (bag (s :: rs))

def appendAll (leaves : List Hash512) : Option MerkleMountainRange :=
  leaves.foldlM (fun m leaf => m.append H leaf) {}

end Reference

variable {H : Bytes → Hash512} {l pre : List Hash512} {leaf : Hash512} {h : Nat}

lemma length_perfectNodes (h : Nat) (l : List Hash512) : (perfectNodes H h l).length = 2 * 2 ^ h - 1 := by
  induction h generalizing l with
  | zero => rfl
  | succ h ih =>
    have := Nat.two_pow_pos h
    simp only [perfectNodes, length_append, ih, length_singleton, Nat.pow_succ]
    omega

lemma getLast?_perfectNodes (h : Nat) (l : List Hash512) :
    (perfectNodes H h l).getLast? = some (perfectRoot H h l) := by
  cases h <;> simp [perfectNodes]

lemma getElem?_root (pre post : List Hash512) (h : Nat) (l : List Hash512) :
    (pre ++ perfectNodes H h l ++ post)[pre.length + (2 * 2 ^ h - 1) - 1]? = some (perfectRoot H h l) := by
  have hl := length_perfectNodes (H := H) h l; have := Nat.two_pow_pos h
  rw [append_assoc, getElem?_append_right (by omega), getElem?_append_left (by omega),
    ← getLast?_perfectNodes, getLast?_eq_getElem?, hl]
  congr 1; omega

lemma blocks_lt {height : Nat} (hlt : l.length < 2 ^ height) : blocks (height + 1) l = blocks height l := by
  rw [blocks, if_neg (by omega)]

lemma blocks_ge {height : Nat} (hle : 2 ^ height ≤ l.length) :
    blocks (height + 1) l = (height, l.take (2 ^ height)) :: blocks height (l.drop (2 ^ height)) := by
  rw [blocks, if_pos hle]

lemma blocks_nil (height : Nat) : blocks height [] = [] := by
  induction height with
  | zero => rfl
  | succ height ih => rw [blocks_lt (Nat.two_pow_pos _), ih]

lemma blocks_eq {height height' : Nat} (hle : height ≤ height') (hlt : l.length < 2 ^ height) :
    blocks height' l = blocks height l := by
  induction height', hle using Nat.le_induction with
  | base => rfl
  | succ k hk ih => rw [blocks_lt (hlt.trans_le (Nat.pow_le_pow_right (by decide) hk)), ih]

def mergeAt (H : Bytes → Hash512) (h : Nat) (nodes : List Hash512) : Option (List Hash512) :=
  if nodes.length - 1 < 2 ^ (h + 1) - 1 then none
  else do
    let left ← nodes[nodes.length - 1 - (2 ^ (h + 1) - 1)]?
    let right ← nodes[nodes.length - 1]?
    some (nodes ++ [sha512Pair H left right])

def mergeUp (H : Bytes → Hash512) (k : Nat) (nodes : List Hash512) : Option (List Hash512) :=
  (List.range k).foldlM (fun nodes h => mergeAt H h nodes) nodes

lemma mergeUp_succ (k : Nat) (nodes : List Hash512) :
    mergeUp H (k + 1) nodes = (mergeUp H k nodes).bind (mergeAt H k) := by
  simp [mergeUp, range_succ, foldlM_append]

lemma mergePeaks_eq {merges todo : Nat} {nodes : List Hash512} (ht : todo ≤ merges) :
    mergePeaks H merges todo nodes (nodes.length - 1) =
      (List.range' (merges - todo) todo).foldlM (fun nodes h => mergeAt H h nodes) nodes := by
  induction todo generalizing nodes with
  | zero => rfl
  | succ todo ih =>
    have hn : merges - (todo + 1) + 1 = merges - todo := by omega
    rw [mergePeaks, range'_succ, foldlM_cons, mergeAt, hn]; split_ifs
    · rfl
    · simp [← ih (by omega), bind_assoc]

lemma append_eq (m : MerkleMountainRange) (leaf : Hash512) :
    m.append H leaf = (mergeUp H (trailingZeros (m.leafCount + 1)) (m.nodes ++ [leaf])).map
      (⟨·, m.leafCount + 1⟩) := by
  have hl := @mergePeaks_eq H _ _ (m.nodes ++ [leaf]) (Nat.le_refl (trailingZeros (m.leafCount + 1)))
  rw [Nat.sub_self, ← range_eq_range', ← mergeUp] at hl
  rw [MerkleMountainRange.append, ← hl]; simp [map_eq_bind]

lemma mergeUp_full (hf : l.length + 1 = 2 ^ h) :
    mergeUp H h (pre ++ layout H h l ++ [leaf]) = some (pre ++ perfectNodes H h (l ++ [leaf])) := by
  induction h generalizing l pre with
  | zero =>
    obtain rfl : l = [] := length_eq_zero_iff.mp (by omega)
    simp [mergeUp, layout, blocks, perfectNodes, perfectRoot]
  | succ h ih =>
    have hp := Nat.pow_succ 2 h; have hpo := Nat.two_pow_pos h
    have hle : 2 ^ h ≤ l.length := by omega
    have hln := length_perfectNodes (H := H) h (l.take (2 ^ h))
    have hl' := length_perfectNodes (H := H) h (l.drop (2 ^ h) ++ [leaf])
    have hre := @ih (l.drop (2 ^ h)) (pre ++ perfectNodes H h (l.take (2 ^ h))) (by rw [length_drop]; omega)
    rw [layout, blocks_ge hle, flatMap_cons, ← layout, ← append_assoc pre, mergeUp_succ, hre, bind_some,
      perfectNodes, perfectRoot, take_append_of_le_length hle, drop_append_of_le_length hle]
    have hl := getElem?_root (H := H) pre (perfectNodes H h (l.drop (2 ^ h) ++ [leaf])) h (l.take (2 ^ h))
    have hr :=
      getElem?_root (H := H) (pre ++ perfectNodes H h (l.take (2 ^ h))) [] h (l.drop (2 ^ h) ++ [leaf])
    rw [append_nil, length_append] at hr
    rw [mergeAt, if_neg (by simp only [length_append]; omega)]
    simp only [length_append, hln, hl'] at hl hr ⊢
    rw [show pre.length + (2 * 2 ^ h - 1) + (2 * 2 ^ h - 1) - 1 - (2 ^ (h + 1) - 1) = pre.length +
      (2 * 2 ^ h - 1) - 1 by omega,
      hl, hr]
    simp

lemma mergeUp_layout (hw : h ≤ w) (hlt : l.length + 1 < 2 ^ h) :
    mergeUp H (lowZeros w (l.length + 1)) (pre ++ layout H h l ++ [leaf]) =
      some (pre ++ layout H h (l ++ [leaf])) := by
  induction h generalizing l pre with
  | zero => simp at hlt
  | succ h ih =>
    have hp := Nat.pow_succ 2 h
    rcases Nat.lt_trichotomy (l.length + 1) (2 ^ h) with hlt' | heq | hgt
    · rw [layout, layout, blocks_lt (by omega), blocks_lt (by simpa using hlt'), ← layout, ← layout]
      exact ih (by omega) hlt'
    · rw [heq, lowZeros_two_pow (by omega), layout, layout, blocks_lt (by omega),
        blocks_ge (l := l ++ [leaf]) (by simp; omega), ← layout, mergeUp_full heq]
      have ht : (l ++ [leaf]).take (2 ^ h) = l ++ [leaf] := take_of_length_le (by simp; omega)
      have hd : (l ++ [leaf]).drop (2 ^ h) = [] := drop_of_length_le (by simp; omega)
      simp [ht, hd, blocks_nil]
    · have hle : 2 ^ h ≤ l.length := by omega
      have hr := @ih (l.drop (2 ^ h)) (pre ++ perfectNodes H h (l.take (2 ^ h))) (by omega)
        (by rw [length_drop]; omega)
      have hc : l.length + 1 = 2 ^ h + ((l.drop (2 ^ h)).length + 1) := by rw [length_drop]; omega
      rw [hc, lowZeros_two_pow_add (Nat.succ_pos _) (by rw [length_drop]; omega), layout, layout,
        blocks_ge hle,
        blocks_ge (l := l ++ [leaf]) (by simp; omega), take_append_of_le_length hle,
        drop_append_of_le_length hle]
      simpa [layout, append_assoc] using hr

lemma appendAll_eq (hlt : l.length < 2 ^ 64) : appendAll H l = some ⟨layout H 64 l, l.length⟩ := by
  induction l using List.reverseRecOn with
  | nil => simp [appendAll, layout, blocks_nil]
  | append_singleton l leaf ih =>
    rw [length_append, length_singleton] at hlt
    have hm := @mergeUp_layout H l [] leaf 64 64 (Nat.le_refl 64) hlt
    rw [nil_append, nil_append] at hm
    have hl : appendAll H (l ++ [leaf]) = (appendAll H l).bind (·.append H leaf) := by
      simp [appendAll, foldlM_append]
    rw [hl, ih (by omega), bind_some, append_eq]
    exact (congrArg (Option.map _) hm).trans (by simp)

lemma map_peaksFrom (hlt : l.length < 2 ^ h) (pre : List Hash512) :
    (peaksFrom h l.length pre.length).map ((pre ++ layout H h l)[·]?) = (blockRoots H h l).map some := by
  induction h generalizing l pre with
  | zero => rfl
  | succ h ih =>
    have hp := Nat.pow_succ 2 h; rw [peaksFrom, layout, blockRoots]; split_ifs with hle
    · have hl := length_perfectNodes (H := H) h (l.take (2 ^ h))
      have hr :=
        ih (l := l.drop (2 ^ h)) (by rw [length_drop]; omega) (pre ++ perfectNodes H h (l.take (2 ^ h)))
      rw [length_drop, length_append, hl] at hr
      rw [blocks_ge hle, flatMap_cons, ← layout, ← append_assoc, map_cons, map_cons, map_cons,
        getElem?_root, hr, blockRoots]
    · rw [blocks_lt (by omega), ← layout, ← blockRoots, ih (by omega)]

lemma bagPeaks_eq {nodes roots : List Hash512} {peaks : List Nat}
    (h : peaks.map (nodes[·]?) = roots.map some) :
    bagPeaks H nodes peaks = some (bag H roots) := by
  induction peaks generalizing roots with
  | nil =>
    obtain rfl : roots = [] := by simpa using h.symm
    rfl
  | cons peak peaks ih =>
    obtain ⟨r, rs, rfl⟩ := exists_cons_of_ne_nil (by rintro rfl; simp at h : roots ≠ [])
    simp only [map_cons, List.cons.injEq] at h; have hr := ih h.2
    rcases peaks with _ | ⟨peak', peaks⟩ <;> rcases rs with _ | ⟨r', rs⟩ <;>
      simp_all [bagPeaks, bag]

section Bound

variable (H)

def perfectInputs : Nat → List Hash512 → List Bytes
  | 0, _ => []
  | h + 1, l => (perfectRoot H h (l.take (2 ^ h)) ++ perfectRoot H h (l.drop (2 ^ h))) ::
      (perfectInputs h (l.take (2 ^ h)) ++ perfectInputs h (l.drop (2 ^ h)))

def bagInputs : List Hash512 → List Bytes
  | [] => []
  | [_] => []
  | r :: s :: rs => (r ++ bag H (s :: rs)) :: bagInputs (s :: rs)

def rangeInputs (leaves : List Hash512) : List Bytes :=
  (blocks 64 leaves).flatMap (fun b => perfectInputs H b.1 b.2) ++ bagInputs H (blockRoots H 64 leaves)

def NoCollision (xs ys : List Bytes) : Prop := ∀ a ∈ xs, ∀ b ∈ ys, H a = H b → a = b
  deriving Decidable

end Bound

section Binding

variable {S : Sha512} {l l' : List Hash512} {xs xs' ys ys' : List Bytes}

lemma NoCollision.mono (h : NoCollision H xs ys) (hx : xs' ⊆ xs) (hy : ys' ⊆ ys) : NoCollision H xs' ys' :=
  fun a ha b hb => h a (hx ha) b (hy hb)

lemma length_perfectRoot (hl : ∀ leaf ∈ l, leaf.length = 64) : (perfectRoot S.hash h l).length = 64 := by
  cases h with
  | zero => cases l <;> simp_all [perfectRoot, zeroHash]
  | succ => exact S.length_hash _

lemma pair_inj (h : NoCollision H [a ++ b] [a' ++ b']) (heq : sha512Pair H a b = sha512Pair H a' b')
    (hl : a.length = a'.length) : a = a' ∧ b = b' :=
  List.append_inj (h _ (by simp) _ (by simp) heq) hl

lemma perfectRoot_inj (hl : ∀ leaf ∈ l, leaf.length = 64) (hl' : ∀ leaf ∈ l', leaf.length = 64)
    (hln : l.length = 2 ^ h) (hle' : l'.length = 2 ^ h)
    (hf : NoCollision S.hash (perfectInputs S.hash h l) (perfectInputs S.hash h l'))
    (heq : perfectRoot S.hash h l = perfectRoot S.hash h l') : l = l' := by
  induction h generalizing l l' with
  | zero =>
    obtain ⟨a, rfl⟩ := length_eq_one_iff.mp hln
    obtain ⟨b, rfl⟩ := length_eq_one_iff.mp hle'; exact congrArg (fun x => [x]) heq
  | succ h ih =>
    rw [perfectInputs, perfectInputs] at hf
    have hs : ∀ {l : List Hash512} {n : Nat}, (∀ leaf ∈ l, leaf.length = 64) →
        (∀ leaf ∈ l.take n, leaf.length = 64) ∧ ∀ leaf ∈ l.drop n, leaf.length = 64 :=
      fun h => ⟨fun leaf hm => h leaf (mem_of_mem_take hm), fun leaf hm => h leaf (mem_of_mem_drop hm)⟩
    obtain ⟨hle, hr⟩ := pair_inj (hf.mono (by simp) (by simp)) heq
      ((length_perfectRoot (hs hl).1).trans (length_perfectRoot (hs hl').1).symm)
    have ht := ih (hs hl).1 (hs hl').1 (by simp; omega) (by simp; omega) (hf.mono (by simp) (by simp)) hle
    have hd := ih (hs hl).2 (hs hl').2 (by simp; omega) (by simp; omega) (hf.mono (by simp) (by simp)) hr
    rw [← take_append_drop (2 ^ h) l, ht, hd, take_append_drop]

lemma bag_inj (hr : ∀ r ∈ rs, r.length = 64) (hr' : ∀ r ∈ rs', r.length = 64) (hl : rs.length = rs'.length)
    (hf : NoCollision H (bagInputs H rs) (bagInputs H rs')) (heq : bag H rs = bag H rs') : rs = rs' := by
  induction rs generalizing rs' with
  | nil => exact (length_eq_zero_iff.mp hl.symm).symm
  | cons r rs ih =>
    obtain ⟨r', rs', rfl⟩ := exists_cons_of_length_eq_add_one hl.symm
    rcases rs with _ | ⟨s, rs⟩ <;> rcases rs' with _ | ⟨s', rs'⟩
    · exact congrArg (fun x => [x]) heq
    · simp at hl
    · simp at hl
    · obtain ⟨hh, ht⟩ := pair_inj (hf.mono (by simp [bagInputs]) (by simp [bagInputs])) heq
        ((hr r (by simp)).trans (hr' r' (by simp)).symm)
      rw [hh, ih (fun x hx => hr x (.tail _ hx)) (fun x hx => hr' x (.tail _ hx)) (Nat.succ.inj hl)
        (hf.mono (by simp [bagInputs]) (by simp [bagInputs])) ht]

lemma blocks_inj (hl : ∀ leaf ∈ l, leaf.length = 64) (hl' : ∀ leaf ∈ l', leaf.length = 64)
    (hln : l.length = l'.length)
    (hlt : l.length < 2 ^ h)
    (hf : NoCollision S.hash ((blocks h l).flatMap fun b => perfectInputs S.hash b.1 b.2)
      ((blocks h l').flatMap fun b => perfectInputs S.hash b.1 b.2))
    (heq : blockRoots S.hash h l = blockRoots S.hash h l') : l = l' := by
  induction h generalizing l l' with
  | zero =>
    rw [Nat.pow_zero, Nat.lt_one_iff] at hlt
    rw [length_eq_zero_iff.mp hlt, length_eq_zero_iff.mp (hln.symm.trans hlt)]
  | succ h ih =>
    have hp := Nat.pow_succ 2 h; by_cases hle : 2 ^ h ≤ l.length
    · rw [blocks_ge hle, blocks_ge (hln ▸ hle), flatMap_cons, flatMap_cons] at hf
      rw [blockRoots, blockRoots, blocks_ge hle, blocks_ge (hln ▸ hle), map_cons, map_cons,
        List.cons.injEq] at heq
      have ht := perfectRoot_inj (fun x hx => hl x (mem_of_mem_take hx))
        (fun x hx => hl' x (mem_of_mem_take hx))
        (by simp; omega) (by simp; omega) (hf.mono (by simp) (by simp)) heq.1
      have hd := ih (fun x hx => hl x (mem_of_mem_drop hx)) (fun x hx => hl' x (mem_of_mem_drop hx))
        (by simp [hln]) (by simp; omega) (hf.mono (by simp) (by simp)) heq.2
      rw [← take_append_drop (2 ^ h) l, ht, hd, take_append_drop]
    · rw [blocks_lt (by omega), blocks_lt (by omega)] at hf
      rw [blockRoots, blockRoots, blocks_lt (by omega), blocks_lt (by omega)] at heq
      exact ih hl hl' hln (by omega) hf heq

lemma length_blockRoots (hlt : l.length < 2 ^ h) :
    (blockRoots H h l).length + forestSize l.length = 2 * l.length := by
  have hm := congrArg List.length (map_peaksFrom (H := H) hlt [])
  rw [length_map, length_map] at hm; rw [← hm, length_peaksFrom hlt]

lemma length_of_mem_blockRoots (hl : ∀ leaf ∈ l, leaf.length = 64) :
    ∀ r ∈ blockRoots S.hash h l, r.length = 64 := by
  induction h generalizing l with
  | zero => simp [blockRoots, blocks]
  | succ h ih =>
    by_cases hle : 2 ^ h ≤ l.length
    · rw [blockRoots, blocks_ge hle, map_cons, forall_mem_cons]
      exact ⟨length_perfectRoot fun x hx => hl x (mem_of_mem_take hx),
        ih fun x hx => hl x (mem_of_mem_drop hx)⟩
    · rw [blockRoots, blocks_lt (by omega)]; exact ih hl

end Binding

lemma length_layout (hlt : l.length < 2 ^ h) : (layout H h l).length = forestSize l.length := by
  induction h generalizing l with
  | zero => simp_all [layout, blocks]
  | succ h ih =>
    have hp := Nat.pow_succ 2 h; by_cases hle : 2 ^ h ≤ l.length
    · have hr := ih (l := l.drop (2 ^ h)) (by simp; omega)
      have hs := forestSize_two_pow_add h (r := (l.drop (2 ^ h)).length) (by simp; omega)
      rw [length_drop, Nat.add_sub_cancel' hle] at hs
      rw [layout, blocks_ge hle, flatMap_cons, ← layout, length_append, length_perfectNodes, hr, hs,
        length_drop]
    · rw [layout, blocks_lt (by omega), ← layout, ih (by omega)]

lemma range_eq (hlt : l.length < 2 ^ 63) :
    (⟨layout H 64 l, l.length⟩ : MerkleMountainRange).peaks.map
      ((layout H 64 l)[·]?) = (blockRoots H 64 l).map some ∧
      (⟨layout H 64 l, l.length⟩ : MerkleMountainRange).root H = some (bag H (blockRoots H 64 l)) := by
  have hp : (⟨layout H 64 l, l.length⟩ : MerkleMountainRange).peaks.map ((layout H 64 l)[·]?) =
      (blockRoots H 64 l).map some := by
    rw [MerkleMountainRange.peaks]; split_ifs with h0
    · rw [length_eq_zero_iff.mp h0, blockRoots, blocks_nil]; rfl
    · have hl : l.length.log2 < 63 := (Nat.log2_lt h0).mpr hlt
      rw [layout, blockRoots, blocks_eq (by omega : l.length.log2 + 1 ≤ 64) Nat.lt_log2_self]
      simpa [layout, blockRoots] using map_peaksFrom (H := H) (l := l) Nat.lt_log2_self []
  exact ⟨hp, by rw [MerkleMountainRange.root, MerkleMountainRange.checkedPeaks_eq hlt, bind_some,
    bagPeaks_eq hp]⟩

theorem range_structure (S : Sha512) {leaves : List Hash512} (hl : leaves.length < 2 ^ 63) :
    ∃ m, appendAll S.hash leaves = some m ∧ m.nodes = layout S.hash 64 leaves ∧
      m.nodes.length + countOnes leaves.length = 2 * leaves.length ∧
      (∀ n, 0 < n → n ≤ leaves.length → ∀ h < trailingZeros n, 2 ^ (h + 1) < 2 ^ 64) ∧
      m.checkedPeaks = some m.peaks ∧ m.peaks.map (m.nodes[·]?) = (blockRoots S.hash 64 leaves).map some ∧
      m.root S.hash = some (bag S.hash (blockRoots S.hash 64 leaves)) ∧
      ∀ leaves' m', leaves'.length = leaves.length → (∀ leaf ∈ leaves ++ leaves', leaf.length = 64) →
        NoCollision S.hash (rangeInputs S.hash leaves) (rangeInputs S.hash leaves') →
        appendAll S.hash leaves' = some m' → m'.root S.hash = m.root S.hash → leaves' = leaves := by
  have hf : leaves.length < 2 ^ 64 := by omega
  obtain ⟨hp, hr⟩ := range_eq (H := S.hash) hl
  refine ⟨_, appendAll_eq hf, rfl, ?_, ?_, MerkleMountainRange.checkedPeaks_eq hl, hp, hr, ?_⟩
  · rw [length_layout hf]; exact forestSize_add_onesBelow hf
  · intro n hpo hle h hh; have := two_pow_le_of_lt_lowZeros hpo hh; omega
  · intro leaves' m' hl' hla hfr ha heq
    rw [appendAll_eq (hl' ▸ hf), Option.some.injEq] at ha; subst ha
    rw [hr, (range_eq (hl' ▸ hl)).2, Option.some.injEq] at heq
    have hs := length_blockRoots (H := S.hash) (l := leaves) hf
    have hs' := length_blockRoots (H := S.hash) (l := leaves') (h := 64) (hl' ▸ hf)
    have hx : ∀ leaf ∈ leaves, leaf.length = 64 := fun x hx => hla x (mem_append_left _ hx)
    have hx' : ∀ leaf ∈ leaves', leaf.length = 64 := fun x hx => hla x (mem_append_right _ hx)
    rw [hl'] at hs'
    have hro := bag_inj (length_of_mem_blockRoots hx) (length_of_mem_blockRoots hx') (by omega)
      (hfr.mono (subset_append_right _ _) (subset_append_right _ _)) heq.symm
    exact (blocks_inj hx hx' hl'.symm hf (hfr.mono (subset_append_left _ _)
      (subset_append_left _ _)) hro).symm

def mixSha512 : Sha512 where
  hash b := List.replicate 64 (UInt8.ofNat (2 * (b.headD 0).toNat + (b.getLastD 0).toNat))
  length_hash _ := length_replicate

def leafOf (b : UInt8) : Hash512 := List.replicate 64 b

theorem range_structure_three : ∃ m, appendAll mixSha512.hash [leafOf 1, leafOf 2, leafOf 3] = some m ∧
    m.nodes.length + 2 = 6 ∧ ∀ m', appendAll mixSha512.hash [leafOf 2, leafOf 1, leafOf 3] = some m' →
      m'.root mixSha512.hash ≠ m.root mixSha512.hash := by
  obtain ⟨m, ha, -, hc, -, -, -, -, hi⟩ :=
    @range_structure mixSha512 [leafOf 1, leafOf 2, leafOf 3] (by decide)
  refine ⟨m, ha, hc, fun m' ha' heq => ?_⟩
  exact absurd (hi [leafOf 2, leafOf 1, leafOf 3] m' rfl (by decide) (by decide +kernel) ha' heq) (by decide)

end Aeon.Crypto
