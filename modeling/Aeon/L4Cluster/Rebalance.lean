import Mathlib.Algebra.BigOperators.Group.List.Basic
import Mathlib.Data.List.Count
import Aeon.Core.HashMap
import Aeon.Core.Deal
import Aeon.L1Types.Event

/-!
# The partition table and the rebalance the Raft state machine applies

`PartitionTable` (`crates/aeon-cluster/src/types.rs`) and `compute_rebalance`
(`partition_manager.rs`), which iterates a hash map: it takes a listing of the table, one per call.
The greedy loops are `Core.deal` (`computeRebalance_eq_deal`).

* `rebalance_eq_iff`: when the result does not depend on the listing.
-/
namespace Aeon.L4.Cluster

open List Aeon.Core

abbrev NodeId := UInt64

export Aeon.Types (PartitionId)

/-- mirrors types.rs:334-341 -/
inductive PartitionOwnership where
  | owned (node : NodeId)
  | transferring (source target : NodeId)
  deriving DecidableEq

/-- mirrors types.rs:345-350 -/
def PartitionOwnership.activeNode : PartitionOwnership → NodeId
  | .owned n => n
  | .transferring source _ => source

/-- mirrors types.rs:352-354 -/
def PartitionOwnership.isTransferring : PartitionOwnership → Bool
  | .owned _ => false
  | .transferring _ _ => true

/-- mirrors types.rs:358-361 -/
abbrev PartitionTable := HashMap PartitionId PartitionOwnership

abbrev TableListing := Listing PartitionId PartitionOwnership

/-- mirrors types.rs:383-386 -/
def assign (t : PartitionTable) (partition : PartitionId) (node : NodeId) : PartitionTable :=
  t.insert partition (.owned node)

/-- mirrors types.rs:402-408 -/
def partitionsForNode (it : TableListing) (node : NodeId) : List PartitionId :=
  (it.filter fun e => e.2.activeNode = node).map Sigma.fst

lemma mem_partitionsForNode {it : TableListing} {node : NodeId} {p : PartitionId} :
    p ∈ partitionsForNode it node ↔ ∃ o, ⟨p, o⟩ ∈ it ∧ o.activeNode = node := by
  simp [partitionsForNode]

/-- mirrors types.rs:427-433 -/
def partitionCount (it : TableListing) (node : NodeId) : Nat := it.countP fun e => e.2.activeNode = node

/-- mirrors partition_manager.rs:10-18; `none` is the panic of `assert!(!nodes.is_empty())`. -/
def initialAssignment (numPartitions : UInt16) (nodes : List NodeId) : Option (List (PartitionId × NodeId)) :=
  if h : nodes = [] then none
  else some <| (List.range numPartitions.toNat).map fun i =>
    (UInt16.ofNat i, nodes.get ⟨i % nodes.length, Nat.mod_lt _ (length_pos_iff.mpr h)⟩)

/-- mirrors partition_manager.rs:37-46 -/
def targets (total : Nat) (nodes : List NodeId) : HashMap NodeId Nat :=
  insertAll ∅ (nodes.zipIdx.map fun (node, i) =>
    (node, if i < total % nodes.length then total / nodes.length + 1 else total / nodes.length))

def target (it : TableListing) (nodes : List NodeId) (node : NodeId) : Nat :=
  ((targets it.length nodes).lookup node).getD 0

/-- mirrors partition_manager.rs:52-63 -/
def overloaded (it : TableListing) (nodes : List NodeId) : List (NodeId × Nat) := nodes.filterMap fun node =>
    if partitionCount it node > target it nodes node then
      some (node, partitionCount it node - target it nodes node)
    else none

/-- mirrors partition_manager.rs:52-63 -/
def underloaded (it : TableListing) (nodes : List NodeId) : List (NodeId × Nat) := nodes.filterMap fun node =>
    if partitionCount it node < target it nodes node then
      some (node, target it nodes node - partitionCount it node)
    else none

/-- mirrors partition_manager.rs:66-72 -/
def orphanedPartitions (it : TableListing) (nodes : List NodeId) : List (PartitionId × NodeId) :=
  (it.filter fun e => e.2.activeNode ∉ targets it.length nodes).map fun e => (e.1, e.2.activeNode)

def takeDeficit : List (NodeId × Nat) → Option (NodeId × List (NodeId × Nat))
  | [] => none
  | (u, 0) :: rest => (takeDeficit rest).map fun (dst, rest') => (dst, (u, 0) :: rest')
  | (u, d + 1) :: rest => some (u, (u, d) :: rest)

abbrev Move := PartitionId × NodeId × NodeId

structure Plan where
  underloaded : List (NodeId × Nat)
  moves : List Move

def Plan.push (a : Plan) (p : PartitionId) (src : NodeId) : Option Plan :=
  (takeDeficit a.underloaded).map fun (dst, rest) => ⟨rest, a.moves ++ [(p, src, dst)]⟩

/-- mirrors partition_manager.rs:77-83 -/
def moveOrphans (a : Plan) : List (PartitionId × NodeId) → Plan
  | [] => a
  | (p, src) :: rest => moveOrphans ((a.push p src).getD a) rest

/-- mirrors partition_manager.rs:86-104 -/
def moveExcess (a : Plan) (node : NodeId) : Nat → List PartitionId → Plan
  | 0, _ => a
  | _ + 1, [] => a
  | excess + 1, p :: ps =>
    match a.push p node with
    | some a' => moveExcess a' node excess ps
    | none => moveExcess a node (excess + 1) ps

/-- mirrors partition_manager.rs:29-107 -/
def computeRebalance (it : TableListing) (nodes : List NodeId) : List Move :=
  if nodes = [] ∨ it = [] then []
  else
    let a := moveOrphans ⟨underloaded it nodes, []⟩ (orphanedPartitions it nodes)
    let a := (overloaded it nodes).foldl
      (fun a (node, excess) => moveExcess a node excess (partitionsForNode it node)) a
    a.moves

/-- mirrors store.rs:478-485 -/
def applyMoves (t : PartitionTable) (moves : List Move) : PartitionTable :=
  insertAll t (moves.map fun m => (m.1, .owned m.2.2))

def slotsOf (l : List (NodeId × Nat)) : List NodeId := l.flatMap fun (u, d) => List.replicate d u

lemma takeDeficit_of_nil (h : slotsOf l = []) : takeDeficit l = none := by
  induction l with
  | nil => rfl
  | cons =>
    grind [slotsOf, append_eq_nil_iff, replicate_eq_nil_iff, takeDeficit]

lemma takeDeficit_of_cons (h : slotsOf l = u :: τ) : ∃ l', takeDeficit l = some (u, l') ∧ slotsOf l' = τ := by
  induction l with
  | nil => cases h
  | cons e l ih =>
    obtain ⟨v, d⟩ := e
    cases d with
    | zero =>
      obtain ⟨l', hl', hs⟩ := ih (by simpa [slotsOf] using h)
      simp_all [takeDeficit, slotsOf]
    | succ d =>
      simp only [slotsOf, flatMap_cons, replicate_succ, cons_append, List.cons.injEq] at h
      obtain ⟨rfl, hτ⟩ := h; exact ⟨(v, d) :: l, rfl, by simpa [slotsOf] using hτ⟩

namespace Plan

def slots (a : Plan) : List NodeId := slotsOf a.underloaded

def pairs (a : Plan) : List (PartitionId × NodeId) := a.moves.map fun m => (m.1, m.2.2)

lemma push_of_nil {a : Plan} (h : a.slots = []) (p : PartitionId) (src : NodeId) : a.push p src = none := by
  rw [push, takeDeficit_of_nil h]; rfl

lemma push_of_cons {a : Plan} {u : NodeId} {τ : List NodeId} (h : a.slots = u :: τ) (p : PartitionId)
    (src : NodeId) :
    ∃ a', a.push p src = some a' ∧ a'.pairs = a.pairs ++ [(p, u)] ∧ a'.slots = τ := by
  obtain ⟨l', hl', hs⟩ := takeDeficit_of_cons h
  exact ⟨⟨l', a.moves ++ [(p, src, u)]⟩, by rw [push, hl']; rfl, by simp [pairs], hs⟩

end Plan

def Dealt (a b : Plan) (ps : List PartitionId) : Prop :=
  b.pairs = a.pairs ++ ps.zip a.slots ∧ b.slots = a.slots.drop ps.length

lemma Dealt.refl (a : Plan) : Dealt a a [] := by simp [Dealt]

lemma Dealt.trans (h : Dealt a b ps) (h' : Dealt b c qs) : Dealt a c (ps ++ qs) := by
  refine ⟨?_, ?_⟩
  · rw [h'.1, h.1, h.2, zip_append_left, append_assoc]
  · rw [h'.2, h.2, drop_drop, length_append]

variable {p : PartitionId}

lemma Dealt.push {a a' : Plan} {src : NodeId} (h : a.push p src = some a') : Dealt a a' [p] := by
  rcases hs : a.slots with _ | ⟨u, τ⟩
  · rw [Plan.push_of_nil hs] at h; cases h
  · obtain ⟨b, hb, hp, hsl⟩ := Plan.push_of_cons hs p src; rw [hb] at h; cases h
    exact ⟨by rw [hp, hs]; rfl, by rw [hsl, hs]; rfl⟩

lemma slots_eq_nil_of_push {a : Plan} {src : NodeId} (h : a.push p src = none) : a.slots = [] := by
  rcases hs : a.slots with _ | ⟨u, τ⟩
  · rfl
  · obtain ⟨b, hb, -⟩ := Plan.push_of_cons hs p src; rw [hb] at h; cases h

lemma dealt_moveOrphans (a : Plan) (os : List (PartitionId × NodeId)) :
    Dealt a (moveOrphans a os) (os.map Prod.fst) := by
  induction os generalizing a with
  | nil => exact Dealt.refl a
  | cons o os ih =>
    obtain ⟨p, src⟩ := o; rw [moveOrphans]; rcases hp : a.push p src with _ | a'
    · -- no deficit left: nothing more is placed
      have hn := slots_eq_nil_of_push hp
      simp_all [Dealt, zip_nil_right, drop_nil]
    · exact (Dealt.push hp).trans (ih a')

lemma dealt_moveExcess (a : Plan) (node : NodeId) (excess : Nat) (ps : List PartitionId) :
    Dealt a (moveExcess a node excess ps) (ps.take excess) := by
  induction ps generalizing a excess with
  | nil => cases excess <;> exact Dealt.refl a
  | cons p ps ih =>
    cases excess with
    | zero => exact Dealt.refl a
    | succ excess =>
      rw [moveExcess]; rcases hp : a.push p node with _ | a'
      · have hn := slots_eq_nil_of_push hp
        simp_all [Dealt, zip_nil_right, drop_nil]
      · exact (Dealt.push hp).trans (ih a' excess)

lemma dealt_overloaded (it : TableListing) (a : Plan) (ov : List (NodeId × Nat)) :
    Dealt a (ov.foldl (fun a (node, excess) =>
        moveExcess a node excess (partitionsForNode it node)) a)
      (ov.flatMap fun (node, excess) => (partitionsForNode it node).take excess) := by
  induction ov generalizing a with
  | nil => exact Dealt.refl a
  | cons o ov ih => rw [foldl_cons, flatMap_cons]; exact (dealt_moveExcess a _ _ _).trans (ih _)

def classes (it : TableListing) (nodes : List NodeId) : List ((PartitionOwnership → Bool) × Nat) :=
  (fun o => o.activeNode ∉ nodes, (orphanedPartitions it nodes).length) ::
    (overloaded it nodes).map fun (node, excess) => (fun o => o.activeNode = node, excess)

def classOf (it : TableListing) (P : PartitionOwnership → Bool) : List PartitionId :=
  (it.filter fun e => P e.2).map Sigma.fst

def poolOf (it : TableListing) (c : (PartitionOwnership → Bool) × Nat) : Pool PartitionId :=
  ⟨classOf it c.1, c.2⟩

def pools (it : TableListing) (nodes : List NodeId) : List (Pool PartitionId) :=
  (classes it nodes).map (poolOf it)

def slots (it : TableListing) (nodes : List NodeId) : List NodeId := slotsOf (underloaded it nodes)

lemma mem_targets (total : Nat) (nodes : List NodeId) (v : NodeId) : v ∈ targets total nodes ↔ v ∈ nodes := by
  simp [targets, mem_insertAll, Function.comp_def, Finmap.notMem_empty]

lemma target_nil (nodes : List NodeId) (v : NodeId) : target [] nodes v = 0 := by
  rw [target]
  rcases h : (targets (List.length ([] : TableListing)) nodes).lookup v with _ | n
  · rfl
  · rcases mem_of_lookup_insertAll h with hm | hm
    · simp_all
    · simp at hm

variable {nodes : List NodeId}

lemma target_getElem (it : TableListing) (hn : nodes.Nodup) (hi : i < nodes.length) :
    target it nodes nodes[i] =
      if i < it.length % nodes.length then it.length / nodes.length + 1
      else it.length / nodes.length := by
  have hk : (nodes.zipIdx.map fun (e : NodeId × Nat) => e.1) = nodes := zipIdx_map_fst 0 nodes
  have hl := lookup_insertAll_of_mem (m := (∅ : HashMap NodeId Nat))
    (l := nodes.zipIdx.map fun (node, i) => (node, if i < it.length % nodes.length then
      it.length / nodes.length + 1 else it.length / nodes.length))
    (by simpa [Function.comp_def, hk] using hn)
    (List.mem_map.mpr ⟨(nodes[i], i), by simp [mem_zipIdx_iff_getElem?, hi], rfl⟩)
  rw [target, targets, hl, Option.getD_some]

lemma sum_shares (n base extra : Nat) : ((List.range n).map fun i =>
    if i < extra then base + 1 else base).sum =
      n * base + min n extra := by
  induction n with
  | zero => simp
  | succ n ih =>
    rw [range_succ, map_append, sum_append, ih, Nat.succ_mul]
    simp only [map_cons, map_nil, sum_cons, sum_nil]
    split_ifs <;> omega

lemma sum_target (it : TableListing) (hn : nodes.Nodup) (hne : nodes ≠ []) :
    (nodes.map (target it nodes)).sum = it.length := by
  have hm : nodes.map (target it nodes) = (List.range nodes.length).map fun i =>
      if i < it.length % nodes.length then it.length / nodes.length + 1
      else it.length / nodes.length := by
    refine ext_getElem (by simp) fun i h₁ h₂ => ?_
    rw [getElem_map, getElem_map, getElem_range, target_getElem it hn (by simpa using h₁)]
  have hp : 0 < nodes.length := length_pos_iff.mpr hne
  have hlt := Nat.mod_lt it.length hp; rw [hm, sum_shares, Nat.min_eq_right hlt.le]
  exact Nat.div_add_mod it.length nodes.length

lemma sum_partitionCount (it : TableListing) (hn : nodes.Nodup) :
    (nodes.map (partitionCount it)).sum = it.countP fun e => e.2.activeNode ∈ nodes := by
  induction nodes with
  | nil => simp
  | cons v nodes ih =>
    rw [nodup_cons] at hn; rw [map_cons, sum_cons, ih hn.2, partitionCount]
    clear ih
    induction it with
    | nil => rfl
    | cons e it ih =>
      rw [countP_cons, countP_cons, countP_cons, ← ih]
      by_cases hv : e.2.activeNode = v
      · simp only [hv, hn.1, mem_cons_self, decide_true, decide_false, if_true]
        simp only [Bool.false_eq_true, if_false]; omega
      · simp only [mem_cons, hv, false_or, decide_false, Bool.false_eq_true, if_false]
        omega

lemma countP_orphaned (it : TableListing) (nodes : List NodeId) :
    (orphanedPartitions it nodes).length + (it.countP fun e => e.2.activeNode ∈ nodes) =
      it.length := by
  rw [orphanedPartitions, length_map, ← countP_eq_length_filter]
  simp only [mem_targets]; rw [Nat.add_comm]
  simpa using (length_eq_countP_add_countP (fun e : Σ _ : PartitionId, PartitionOwnership =>
    decide (e.2.activeNode ∈ nodes)) (l := it)).symm

lemma sum_overloaded (it : TableListing) (nodes : List NodeId) : ∀ l : List NodeId, ((l.filterMap fun node =>
      if partitionCount it node > target it nodes node then
        some (node, partitionCount it node - target it nodes node) else none).map Prod.snd).sum =
      (l.map fun v => partitionCount it v - target it nodes v).sum
  | [] => rfl
  | v :: l => by
    have ih := sum_overloaded it nodes l
    rw [filterMap_cons, map_cons, sum_cons]
    split_ifs with h
    · rw [map_cons, sum_cons, ih]
    · rw [ih]; omega

lemma sum_underloaded (it : TableListing) (nodes : List NodeId) : ∀ l : List NodeId, ((l.filterMap fun node =>
      if partitionCount it node < target it nodes node then
        some (node, target it nodes node - partitionCount it node) else none).map Prod.snd).sum =
      (l.map fun v => target it nodes v - partitionCount it v).sum
  | [] => rfl
  | v :: l => by
    have ih := sum_underloaded it nodes l
    rw [filterMap_cons, map_cons, sum_cons]
    split_ifs with h
    · rw [map_cons, sum_cons, ih]
    · rw [ih]; omega

lemma sum_sub_add (f g : NodeId → Nat) (l : List NodeId) :
    (l.map fun v => f v - g v).sum + (l.map g).sum = (l.map fun v => g v - f v).sum + (l.map f).sum := by
  induction l with
  | nil => rfl
  | cons => simp only [map_cons, sum_cons]; omega

lemma length_slotsOf (l : List (NodeId × Nat)) : (slotsOf l).length = (l.map Prod.snd).sum := by
  simp [slotsOf, length_flatMap]

lemma slots_nil_listing (nodes : List NodeId) : slots [] nodes = [] := by
  have h : underloaded [] nodes = [] := by simp [underloaded, target_nil]
  rw [slots, h]; rfl

lemma orphanedPartitions_fst (it : TableListing) (nodes : List NodeId) :
    (orphanedPartitions it nodes).map Prod.fst = classOf it fun o => decide (o.activeNode ∉ nodes) := by
  simp [orphanedPartitions, classOf, mem_targets, Function.comp_def]

lemma hands_pools (it : TableListing) (nodes : List NodeId) :
    (pools it nodes).flatMap Pool.hand = (orphanedPartitions it nodes).map Prod.fst ++
      (overloaded it nodes).flatMap fun (node, excess) =>
        (partitionsForNode it node).take excess := by
  rw [pools, classes, map_cons, flatMap_cons, List.map_map, flatMap_map]
  congr 1; rw [Pool.hand, poolOf, ← orphanedPartitions_fst]; simp

lemma computeRebalance_eq_deal (it : TableListing) (nodes : List NodeId) :
    (computeRebalance it nodes).map (fun m => (m.1, m.2.2)) = deal (pools it nodes) (slots it nodes) := by
  have ha : ∀ b, Dealt ⟨underloaded it nodes, []⟩ b ((pools it nodes).flatMap Pool.hand) →
      b.pairs = deal (pools it nodes) (slots it nodes) := fun b hb => hb.1
  rw [computeRebalance]; split_ifs with h
  · -- no node or no partition: there is no deficit to fill
    have hn : slots it nodes = [] := by
      rcases h with rfl | rfl
      · rfl
      · exact slots_nil_listing nodes
    rw [deal, hn, zip_nil_right]; rfl
  · refine ha _ ?_; rw [hands_pools]
    exact (dealt_moveOrphans ⟨underloaded it nodes, []⟩ (orphanedPartitions it nodes)).trans
      (dealt_overloaded it _ (overloaded it nodes))

lemma length_partitionsForNode (it : TableListing) (v : NodeId) :
    (partitionsForNode it v).length = partitionCount it v := by grind [partitionsForNode, partitionCount]

lemma mem_overloaded (h : (v, e) ∈ overloaded it nodes) :
    v ∈ nodes ∧ target it nodes v < partitionCount it v ∧ e = partitionCount it v - target it nodes v := by
  obtain ⟨u, hu, hi⟩ := mem_filterMap.mp h; grind

lemma mem_slots (h : u ∈ slots it nodes) : u ∈ nodes ∧ partitionCount it u < target it nodes u := by
  obtain ⟨⟨w, d⟩, hw, hu⟩ := mem_flatMap.mp h
  obtain rfl := (mem_replicate.mp hu).2; obtain ⟨v, hv, hi⟩ := mem_filterMap.mp hw
  grind

lemma mem_classes (h : c ∈ classes it nodes) :
    c = (fun o => decide (o.activeNode ∉ nodes), (orphanedPartitions it nodes).length) ∨
    ∃ v ∈ nodes, target it nodes v < partitionCount it v ∧
      c = (fun o => decide (o.activeNode = v), partitionCount it v - target it nodes v) := by
  rcases mem_cons.mp h with rfl | h
  · exact .inl rfl
  · obtain ⟨⟨v, e⟩, hv, rfl⟩ := List.mem_map.mp h
    obtain ⟨hm, hlt, rfl⟩ := mem_overloaded hv; grind

lemma drawn_pools (it : TableListing) (nodes : List NodeId) : drawn (pools it nodes) =
      (orphanedPartitions it nodes).length + ((overloaded it nodes).map Prod.snd).sum := by
  have hh : ∀ e ∈ overloaded it nodes, ((partitionsForNode it e.1).take e.2).length = e.2 := by
    rintro ⟨v, e⟩ he; obtain ⟨-, hlt, rfl⟩ := mem_overloaded he
    simp only [length_take, length_partitionsForNode]; omega
  rw [drawn, hands_pools, length_append, length_map, length_flatMap]
  exact congrArg (_ + List.sum ·) (map_congr_left hh)

lemma length_slots (it : TableListing) (hn : nodes.Nodup) (hne : nodes ≠ []) :
    (slots it nodes).length = drawn (pools it nodes) := by
  have hu := sum_underloaded it nodes nodes; have ho := sum_overloaded it nodes nodes
  have hs := sum_sub_add (partitionCount it) (target it nodes) nodes
  have hc := sum_partitionCount it hn; have hor := countP_orphaned it nodes
  have ht := sum_target it hn hne
  rw [slots, length_slotsOf, drawn_pools, underloaded, overloaded, hu, ho]; omega

/-! ### The listing matters only through the order inside a class -/

section Perm

variable {it it' : TableListing} {t : PartitionTable} {nodes : List NodeId}

section

variable (h : it.Perm it')
include h

lemma partitionCount_perm : partitionCount it = partitionCount it' :=
  funext fun _ => h.countP_eq _

lemma target_perm : target it nodes = target it' nodes := by
  funext v; rw [target, target, h.length_eq]

lemma classes_perm : classes it nodes = classes it' nodes := by
  have ho : (orphanedPartitions it nodes).length = (orphanedPartitions it' nodes).length := by
    have h₁ := countP_orphaned it nodes; have h₂ := countP_orphaned it' nodes
    have hc := h.countP_eq fun e => decide (e.2.activeNode ∈ nodes); have hl := h.length_eq
    omega
  rw [classes, classes, ho, overloaded, overloaded, partitionCount_perm h, target_perm h]

lemma slots_perm : slots it nodes = slots it' nodes := by
  rw [slots, slots, underloaded, underloaded, partitionCount_perm h, target_perm h]

lemma classOf_perm (P : PartitionOwnership → Bool) : (classOf it P).Perm (classOf it' P) :=
  (h.filter _).map _

lemma poolOf_same (c : (PartitionOwnership → Bool) × Nat) : (poolOf it c).Same (poolOf it' c) :=
  ⟨rfl, classOf_perm h c.1⟩

lemma pools_same : List.Forall₂ Pool.Same (pools it nodes) (pools it' nodes) := by
  rw [pools, pools, ← classes_perm h, forall₂_map_left_iff, forall₂_map_right_iff]
  exact forall₂_same.mpr fun c _ => poolOf_same h c

lemma drawn_poolOf_perm (cs : List ((PartitionOwnership → Bool) × Nat)) :
    drawn (cs.map (poolOf it)) = drawn (cs.map (poolOf it')) := by
  induction cs with
  | nil => rfl
  | cons c cs ih => rw [map_cons, map_cons, drawn_cons, drawn_cons, ih, (poolOf_same h c).length_hand]

end

lemma classOf_swap (hab : P a.2 = P b.2) : classOf (it.map (Equiv.swap a b)) P =
      ((it.filter fun e => P e.2).map (Equiv.swap a b)).map Sigma.fst := by
  have hP : ∀ e, P (Equiv.swap a b e).2 = P e.2 := fun e => by
    rw [Equiv.swap_apply_def]
    split_ifs with h₁ h₂
    · rw [h₁, hab]
    · rw [h₂, hab]
    · rfl
  rw [classOf, List.filter_map]; congr 2; exact filter_congr fun e _ => by simp [hP]

lemma mem_classOf (h : Lists it t) : p ∈ classOf it P ↔ ∃ o, t.lookup p = some o ∧ P o = true := by
  simp only [classOf, List.mem_map, mem_filter]; constructor
  · rintro ⟨⟨q, o⟩, ⟨hm, hP⟩, rfl⟩; exact ⟨o, h.mem_iff.mp hm, hP⟩
  · rintro ⟨o, ho, hP⟩; exact ⟨⟨p, o⟩, ⟨h.mem_iff.mpr ho, hP⟩, rfl⟩

lemma hand_getElem? (hp : (classOf it c.1)[i]? = some p) (hi : i < c.2) :
    (poolOf it c).hand[i]? = some p := by
  rw [Pool.hand, getElem?_take]; exact (if_pos hi).trans hp

lemma lt_quota_of_lt_hand (hi : i < (poolOf it c).hand.length) : i < c.2 := by
  rw [Pool.length_hand] at hi; exact lt_of_lt_of_le hi (Nat.min_le_left _ _)

lemma classes_disjoint (it : TableListing) (hn : nodes.Nodup) :
    (classes it nodes).Pairwise fun c d => ∀ o, c.1 o = true → d.1 o = true → False := by
  rw [classes, pairwise_cons]; constructor
  · intro c hc o h₁ h₂; obtain ⟨⟨v, e⟩, hv, rfl⟩ := List.mem_map.mp hc
    rw [decide_eq_true_eq] at h₁ h₂; exact h₁ (h₂ ▸ (mem_overloaded hv).1)
  · rw [pairwise_map, overloaded, pairwise_filterMap]
    refine hn.imp fun {a b} hab x hx y hy o h₁ h₂ => ?_; grind

lemma nodup_classOf (h : Lists it t) (P : PartitionOwnership → Bool) : (classOf it P).Nodup :=
  h.nodup_keys.sublist (filter_sublist.map _)

lemma nodup_hands (h : Lists it t) (hn : nodes.Nodup) : ((pools it nodes).flatMap Pool.hand).Nodup := by
  rw [pools, flatMap_map, nodup_flatMap]
  refine ⟨fun c _ => (nodup_classOf h c.1).sublist (take_sublist _ _), ?_⟩
  refine (classes_disjoint it hn).imp fun hcd p hp hq => ?_
  obtain ⟨o, ho, hPo⟩ := (mem_classOf h).mp (mem_of_mem_take hp)
  obtain ⟨o', ho', hQo⟩ := (mem_classOf h).mp (mem_of_mem_take hq); grind

variable {pre post : List ((PartitionOwnership → Bool) × Nat)}

lemma notMem_hands (h : Lists it t) (hn : nodes.Nodup) (hc : classes it nodes = pre ++ c :: post)
    (hp : (classOf it c.1)[j]? = some p) (hj : c.2 ≤ j) :
    p ∉ (pools it nodes).flatMap Pool.hand := by
  have hdi := classes_disjoint it hn
  rw [hc, pairwise_append, pairwise_cons] at hdi
  obtain ⟨o, ho, hco⟩ := (mem_classOf h).mp (mem_of_getElem? hp)
  have hcl : ∀ d : (PartitionOwnership → Bool) × Nat, p ∈ (poolOf it d).hand → d.1 o = true := by
    intro d hd; obtain ⟨o', ho', hdo⟩ := (mem_classOf h).mp (mem_of_mem_take hd); grind
  intro hm; rw [pools, hc, flatMap_map] at hm
  obtain ⟨d, hd, hpd⟩ := mem_flatMap.mp hm; rcases mem_append.mp hd with hd | hd
  · grind
  rcases mem_cons.mp hd with rfl | hd
  · -- in its own class it sits at position `j`, past the quota
    obtain ⟨i, hi⟩ := getElem?_of_mem hpd; rw [Pool.hand, getElem?_take] at hi
    split_ifs at hi with hlt
    have hij := (getElem?_inj (List.getElem?_eq_some_iff.mp hi).1 (nodup_classOf h d.1)).mp (hi.trans hp.symm)
    have hlt : i < d.2 := hlt; omega
  grind

/-- mirrors store.rs:478-485 -/
def rebalance (it : TableListing) (t : PartitionTable) (nodes : List NodeId) : PartitionTable :=
  applyMoves t (computeRebalance it nodes)

lemma rebalance_eq (it : TableListing) (t : PartitionTable) (nodes : List NodeId) : rebalance it t nodes =
      insertAll t ((deal (pools it nodes) (slots it nodes)).map fun x => (x.1, .owned x.2)) := by
  rw [rebalance, applyMoves, ← computeRebalance_eq_deal, List.map_map]; rfl

lemma nodup_deal_keys (h : Lists it t) (hn : nodes.Nodup) :
    ((deal (pools it nodes) (slots it nodes)).map Prod.fst).Nodup :=
  (nodup_hands h hn).sublist (map_fst_zip_sublist _ _)

lemma lookup_rebalance_of_mem (h : Lists it t) (hn : nodes.Nodup)
    (hp : (p, u) ∈ deal (pools it nodes) (slots it nodes)) :
    (rebalance it t nodes).lookup p = some (.owned u) := by
  rw [rebalance_eq]; refine lookup_insertAll_of_mem ?_ (List.mem_map.mpr ⟨(p, u), hp, rfl⟩)
  rw [List.map_map]; exact nodup_deal_keys h hn

lemma lookup_rebalance_of_notMem (hp : p ∉ (pools it nodes).flatMap Pool.hand) :
    (rebalance it t nodes).lookup p = t.lookup p := by
  rw [rebalance_eq]; refine lookup_insertAll_of_notMem fun hm => hp ?_
  rw [List.map_map] at hm; exact (map_fst_zip_sublist _ _).subset hm

lemma lookup_rebalance_at (h : Lists it t) (hn : nodes.Nodup) {c : (PartitionOwnership → Bool) × Nat}
    (hc : classes it nodes = pre ++ c :: post) {i : Nat} {u : NodeId} (hp : (poolOf it c).hand[i]? = some p)
    (hu : ((slots it nodes).drop (drawn (pre.map (poolOf it))))[i]? = some u) :
    (rebalance it t nodes).lookup p = some (.owned u) := by
  refine lookup_rebalance_of_mem h hn ?_; rw [pools, hc, map_append, map_cons]
  exact mem_deal hp hu

lemma exists_slot (hn : nodes.Nodup) (hne : nodes ≠ []) (hc : classes it nodes = pre ++ c :: post) :
    (poolOf it c).hand.length ≤ ((slots it nodes).drop (drawn (pre.map (poolOf it)))).length := by
  have hl := length_slots it hn hne
  simp [pools, hc, map_append, map_cons, drawn, flatMap_append, flatMap_cons, length_append, length_drop, hl]

def MovesWhole (t : PartitionTable) (nodes : List NodeId) : Prop :=
  nodes = [] ∨ ∀ it, Lists it t → OrderFree (pools it nodes) (slots it nodes)

lemma movesWhole_of_listing (h : Lists it t) (hf : OrderFree (pools it nodes) (slots it nodes)) :
    MovesWhole t nodes :=
  .inr fun it' h' => by rw [← slots_perm (h.perm h')]; exact hf.same (pools_same (h.perm h'))

lemma exists_listing_ne (h : Lists it t) (hn : nodes.Nodup) (hne : nodes ≠ [])
    (hw : ¬ OrderFree (pools it nodes) (slots it nodes)) :
    ∃ it', Lists it' t ∧ rebalance it t nodes ≠ rebalance it' t nodes := by
  rw [orderFree_iff] at hw
  push Not at hw
  obtain ⟨_, q, _, heq, hq⟩ := hw
  obtain ⟨pre, rest, hc, rfl, hr⟩ := map_eq_append_iff.mp heq
  obtain ⟨c, post, rfl, rfl, rfl⟩ := map_eq_cons_iff.mp hr
  have hs := exists_slot hn hne hc
  obtain ⟨i, j, hi, hj, hij, hd⟩ := Pool.exists_of_not_whole hq hs
  have hit : (poolOf it c).items.length = (it.filter fun e => c.1 e.2).length := length_map _
  have hil : i < (it.filter fun e => c.1 e.2).length := by have hh := Pool.length_hand (poolOf it c); omega
  have hjl : j < (it.filter fun e => c.1 e.2).length := hit ▸ hj
  obtain ⟨a, ha⟩ : ∃ a, (it.filter fun e => c.1 e.2)[i]? = some a := ⟨_, getElem?_eq_getElem hil⟩
  obtain ⟨b, hb⟩ : ∃ b, (it.filter fun e => c.1 e.2)[j]? = some b := ⟨_, getElem?_eq_getElem hjl⟩
  obtain ⟨ham, hac⟩ := mem_filter.mp (mem_of_getElem? ha)
  obtain ⟨hbm, hbc⟩ := mem_filter.mp (mem_of_getElem? hb)
  have h' : Lists (it.map (Equiv.swap a b)) t := h.map_swap ham hbm; have hp := h'.perm h
  have hc' : classes (it.map (Equiv.swap a b)) nodes = pre ++ c :: post := (classes_perm hp).trans hc
  have hpo : (classOf it c.1)[i]? = some a.1 := by rw [classOf, getElem?_map, ha]; rfl
  have hp' : (classOf (it.map (Equiv.swap a b)) c.1)[j]? = some a.1 := by simp_all [classOf_swap]
  obtain ⟨u, hu⟩ : ∃ u, ((slots it nodes).drop (drawn (pre.map (poolOf it))))[i]? = some u :=
    ⟨_, getElem?_eq_getElem (by omega)⟩
  have hl := lookup_rebalance_at h hn hc (hand_getElem? hpo (lt_quota_of_lt_hand hi)) hu
  refine ⟨_, h', fun hsa => ?_⟩; rw [hsa] at hl; rcases hd with hqu | ⟨hjh, hsl⟩
  · -- in the other listing `a` stays where it is
    rw [lookup_rebalance_of_notMem (notMem_hands h' hn hc' hp' hqu)] at hl
    have hta := (h.mem_iff (k := a.1) (v := a.2)).mp ham; rw [hta] at hl
    have hat : a.2.activeNode = u := by rw [Option.some.inj hl]; rfl
    have hun := mem_slots (mem_of_mem_drop (mem_of_getElem? hu))
    rcases mem_classes (c := c) (by rw [hc]; simp) with rfl | ⟨v, hv, ho, rfl⟩
    · grind
    grind
  · obtain ⟨w, hw⟩ : ∃ w, ((slots it nodes).drop (drawn (pre.map (poolOf it))))[j]? = some w :=
      ⟨_, getElem?_eq_getElem (by omega)⟩
    rw [← slots_perm hp, ← drawn_poolOf_perm hp] at hw
    have hl' := lookup_rebalance_at h' hn hc' (hand_getElem? hp' (lt_quota_of_lt_hand hjh)) hw
    simp_all [slots_perm hp, drawn_poolOf_perm hp]

lemma rebalance_eq_iff (hn : nodes.Nodup) :
    (∀ it it', Lists it t → Lists it' t → rebalance it t nodes = rebalance it' t nodes) ↔
      MovesWhole t nodes := by
  constructor
  · intro ha; by_cases hne : nodes = []
    · exact .inl hne
    refine .inr fun it h => ?_; by_contra hw
    obtain ⟨it', h', hd⟩ := exists_listing_ne h hn hne hw; exact hd (ha it it' h h')
  · rintro (rfl | ha) it it' h h'
    · rfl
    · have hp := deal_perm (pools_same (h.perm h')) (ha it h)
      rw [rebalance_eq, rebalance_eq, ← slots_perm (h.perm h')]
      refine insertAll_perm ?_ (hp.map _); rw [List.map_map]; exact nodup_deal_keys h hn

lemma mem_hands (h : Lists it t) (hp : p ∈ (pools it nodes).flatMap Pool.hand) :
    ∃ o, t.lookup p = some o ∧ (o.activeNode ∈ nodes →
      target it nodes o.activeNode < partitionCount it o.activeNode) := by
  rw [pools, flatMap_map] at hp; obtain ⟨c, hc, hpc⟩ := mem_flatMap.mp hp
  obtain ⟨o, ho, hco⟩ := (mem_classOf h).mp (mem_of_mem_take hpc)
  refine ⟨o, ho, fun hm => ?_⟩; rcases mem_classes hc with rfl | ⟨v, -, hov, rfl⟩
  · grind
  grind

lemma lookup_rebalance_orphan (h : Lists it t) (hn : nodes.Nodup) (hne : nodes ≠ []) {o : PartitionOwnership}
    (hp : t.lookup p = some o) (ho : o.activeNode ∉ nodes) :
    ∃ u, (rebalance it t nodes).lookup p = some (.owned u) := by
  have hm : p ∈ classOf it fun o => decide (o.activeNode ∉ nodes) :=
    (mem_classOf h).mpr ⟨o, hp, decide_eq_true ho⟩
  obtain ⟨i, hi⟩ := getElem?_of_mem hm
  have hl : (classOf it fun o => decide (o.activeNode ∉ nodes)).length =
    (orphanedPartitions it nodes).length := by
    rw [← orphanedPartitions_fst, length_map]
  have hq : i < (orphanedPartitions it nodes).length := hl ▸ (List.getElem?_eq_some_iff.mp hi).1
  obtain ⟨post, hc⟩ : ∃ post, classes it nodes = [] ++
      (fun o => decide (o.activeNode ∉ nodes), (orphanedPartitions it nodes).length) :: post :=
    ⟨_, rfl⟩
  have hh := hand_getElem? (c := (_, (orphanedPartitions it nodes).length)) hi hq
  have hlt := (List.getElem?_eq_some_iff.mp hh).1
  exact ⟨_, lookup_rebalance_at h hn hc hh (getElem?_eq_getElem (lt_of_lt_of_le hlt (exists_slot hn hne hc)))⟩

lemma exists_listing_moved (h : Lists it t) (hn : nodes.Nodup) (hne : nodes ≠ []) {o : PartitionOwnership}
    (hp : t.lookup p = some o) (hm : o.activeNode ∈ nodes)
    (ho : target it nodes o.activeNode < partitionCount it o.activeNode) :
    ∃ it', Lists it' t ∧ ∃ u, (rebalance it' t nodes).lookup p = some (.owned u) := by
  obtain ⟨c, hcd⟩ : ∃ c : (PartitionOwnership → Bool) × Nat,
    c = (fun o' => decide (o'.activeNode = o.activeNode),
      partitionCount it o.activeNode - target it nodes o.activeNode) := ⟨_, rfl⟩
  have hcm : c ∈ classes it nodes := by
    refine mem_cons_of_mem _ (List.mem_map.mpr ⟨(o.activeNode, c.2), ?_, ?_⟩)
    · exact mem_filterMap.mpr ⟨o.activeNode, hm, by rw [if_pos ho, hcd]⟩
    · rw [hcd]
  obtain ⟨pre, post, hc⟩ := append_of_mem hcm
  have hpc : c.1 o = true := by rw [hcd]; exact decide_eq_true rfl
  have hpi : (⟨p, o⟩ : Σ _ : PartitionId, PartitionOwnership) ∈ it := h.mem_iff.mpr hp
  obtain ⟨a, rest, ha⟩ : ∃ a rest, (it.filter fun e => c.1 e.2) = a :: rest :=
    exists_cons_of_ne_nil (ne_nil_of_mem (mem_filter.mpr ⟨hpi, hpc⟩))
  obtain ⟨ham, hac⟩ := mem_filter.mp (ha ▸ mem_cons_self : a ∈ it.filter fun e => c.1 e.2)
  have h' := h.map_swap ham hpi; have hpe := h'.perm h
  have hc' : classes (it.map (Equiv.swap a ⟨p, o⟩)) nodes = pre ++ c :: post := (classes_perm hpe).trans hc
  have hpo : (classOf (it.map (Equiv.swap a ⟨p, o⟩)) c.1)[0]? = some p := by
    rw [classOf_swap (hac.trans hpc.symm), ha]; simp
  have hh := hand_getElem? hpo (show 0 < c.2 by rw [hcd]; exact Nat.sub_pos_of_lt ho)
  have hlt := (List.getElem?_eq_some_iff.mp hh).1
  exact ⟨_, h', _, lookup_rebalance_at h' hn hc' hh
    (getElem?_eq_getElem (lt_of_lt_of_le hlt (exists_slot hn hne hc')))⟩

end Perm

end Aeon.L4.Cluster
