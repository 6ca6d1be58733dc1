import Aeon.L4Cluster.Rebalance

/-!
# What a rebalance leaves each node with

`compute_rebalance` (`crates/aeon-cluster/src/partition_manager.rs`) for every table and order, on
distinct nodes.

* `rebalance_exact`: the `i`-th node ends with its share, by as few moves as any plan needs;
* `rebalance_again`: a second one moves nothing;
* `rebalance_empty_list`: on the empty list nothing moves.
-/
namespace Aeon.L4.RebalanceExact

open List Aeon.Core Aeon.L4.Cluster

/-- mirrors types.rs:388-391 -/
def numPartitions (t : PartitionTable) : Nat := t.entries.card

def holding (t : PartitionTable) (v : NodeId) : Nat := countValues t fun o => o.activeNode = v

def share (total n i : Nat) : Nat := if i < total % n then total / n + 1 else total / n

def Balanced (total : Nat) (nodes : List NodeId) (t : PartitionTable) : Prop :=
  ∀ i v, nodes[i]? = some v → holding t v = share total nodes.length i

variable {it : TableListing} {t : PartitionTable} {nodes : List NodeId} {v : NodeId}

lemma length_listing (h : Lists it t) : it.length = numPartitions t := by
  rw [numPartitions, ← h, Multiset.coe_card]

lemma partitionCount_eq (h : Lists it t) (v : NodeId) : partitionCount it v = holding t v :=
  h.countP_eq fun o => o.activeNode = v

lemma target_eq (h : Lists it t) (hn : nodes.Nodup) (hi : nodes[i]? = some v) :
    target it nodes v = share (numPartitions t) nodes.length i := by
  obtain ⟨hlt, rfl⟩ := List.getElem?_eq_some_iff.mp hi
  rw [target_getElem it hn hlt, length_listing h, share]

def Origins (it : TableListing) (moves : List Move) : Prop :=
  ∀ m ∈ moves, ∃ o, ⟨m.1, o⟩ ∈ it ∧ m.2.1 = o.activeNode

lemma Origins.push {a a' : Plan} {p : PartitionId} {o : PartitionOwnership} (h : Origins it a.moves)
    (hp : ⟨p, o⟩ ∈ it) (ha : a.push p o.activeNode = some a') : Origins it a'.moves := by
  obtain ⟨⟨dst, rest⟩, -, rfl⟩ := Option.map_eq_some_iff.mp ha; intro m hm
  rcases mem_append.mp hm with hm | hm
  · exact h m hm
  grind

lemma Origins.moveOrphans (hos : ∀ e ∈ os, ∃ o, ⟨e.1, o⟩ ∈ it ∧ e.2 = o.activeNode) (h : Origins it a.moves) :
    Origins it (moveOrphans a os).moves := by
  induction os generalizing a with
  | nil => exact h
  | cons e os ih =>
    obtain ⟨o, ho, he⟩ := hos e mem_cons_self; rw [Cluster.moveOrphans]
    refine ih (fun e' he' => hos e' (mem_cons_of_mem _ he')) ?_
    cases hp : a.push e.1 e.2 with
    | none => exact h
    | some => exact h.push ho (he ▸ hp)

lemma Origins.moveExcess {node : NodeId} (hps : ∀ p ∈ ps, ∃ o, ⟨p, o⟩ ∈ it ∧ node = o.activeNode)
    (h : Origins it a.moves) (excess : Nat) : Origins it (moveExcess a node excess ps).moves := by
  induction ps generalizing a excess with
  | nil =>
    cases excess with
    | zero | succ => exact h
  | cons p ps ih =>
    cases excess with
    | zero => exact h
    | succ =>
      have hr : ∀ q ∈ ps, ∃ o, ⟨q, o⟩ ∈ it ∧ node = o.activeNode := fun q hq => hps q (mem_cons_of_mem _ hq)
      obtain ⟨o, ho, hn⟩ := hps p mem_cons_self; rw [Cluster.moveExcess]
      cases hp : a.push p node with
      | none => exact ih hr h _
      | some => exact ih hr (h.push ho (hn ▸ hp)) _

lemma origins_computeRebalance (it : TableListing) (nodes : List NodeId) :
    Origins it (computeRebalance it nodes) := by
  rw [computeRebalance]; split_ifs
  · intro m hm; cases hm
  have ho : Origins it (moveOrphans ⟨underloaded it nodes, []⟩ (orphanedPartitions it nodes)).moves := by
    refine Origins.moveOrphans (fun e he => ?_) fun m hm => by cases hm
    obtain ⟨x, hx, rfl⟩ := List.mem_map.mp he; grind
  generalize Cluster.moveOrphans ⟨underloaded it nodes, []⟩ (orphanedPartitions it nodes) = a at ho
  induction overloaded it nodes generalizing a with
  | nil => exact ho
  | cons e rest ih =>
    exact ih _ (ho.moveExcess (fun p hp => (mem_partitionsForNode.mp hp).imp fun _ ho =>
      ho.imp_right Eq.symm) _)

lemma slots_eq (it : TableListing) (nodes : List NodeId) :
    slots it nodes = nodes.flatMap fun v => List.replicate (target it nodes v - partitionCount it v) v := by
  rw [slots, underloaded]; generalize hc : target it nodes = c; clear hc
  induction nodes with
  | nil => rfl
  | cons u nodes ih =>
    rw [flatMap_cons, ← ih, filterMap_cons]; split_ifs with h
    · rfl
    simp_all

lemma excess_eq (it : TableListing) (nodes : List NodeId) :
    ((overloaded it nodes).flatMap fun (node, excess) => (partitionsForNode it node).take excess) =
      nodes.flatMap fun v => (partitionsForNode it v).take (partitionCount it v - target it nodes v) := by
  rw [overloaded]; generalize hc : target it nodes = c; clear hc
  induction nodes with
  | nil => rfl
  | cons u nodes ih =>
    rw [flatMap_cons, ← ih, filterMap_cons]; split_ifs with h
    · rfl
    simp_all

lemma count_slots (hn : nodes.Nodup) (hv : v ∈ nodes) :
    (slots it nodes).count v = target it nodes v - partitionCount it v := by
  have ho : ∀ u ∈ nodes, u ≠ v →
      ∀ a ∈ List.replicate (target it nodes u - partitionCount it u) u, (a == v) = false := by
    intro u _ hne a ha; rw [(mem_replicate.mp ha).2]; exact beq_eq_false_iff_ne.mpr hne
  rw [slots_eq, List.count, countP_flatMap_of_nodup hn hv ho]
  exact count_replicate_self

def activeFor (t : PartitionTable) (v : NodeId) (p : PartitionId) : Bool :=
  (t.lookup p).any fun o => o.activeNode = v

lemma activeFor_eq (h : Lists it t) (hp : ⟨p, o⟩ ∈ it) : activeFor t v p = decide (o.activeNode = v) := by
  rw [activeFor, h.mem_iff.mp hp]; rfl

lemma count_hands (h : Lists it t) (hn : nodes.Nodup) (hv : v ∈ nodes) :
    ((pools it nodes).flatMap Pool.hand).countP
      (activeFor t v) = partitionCount it v - target it nodes v := by
  have hor : ((orphanedPartitions it nodes).map Prod.fst).countP (activeFor t v) = 0 := by
    rw [countP_eq_zero]; intro p hp; obtain ⟨e, he, rfl⟩ := List.mem_map.mp hp
    obtain ⟨x, hx, rfl⟩ := List.mem_map.mp he; obtain ⟨hit, hou⟩ := mem_filter.mp hx
    rw [activeFor_eq h hit]; intro heq
    refine of_decide_eq_true hou ((mem_targets it.length nodes _).mpr ?_); grind
  have ha : ∀ u, ∀ p ∈ (partitionsForNode it u).take (partitionCount it u - target it nodes u),
      activeFor t v p = decide (u = v) := by
    intro u p hp; obtain ⟨o, ho, rfl⟩ := mem_partitionsForNode.mp (mem_of_mem_take hp)
    exact activeFor_eq h ho
  rw [hands_pools, countP_append, hor, Nat.zero_add, excess_eq,
    countP_flatMap_of_nodup hn hv fun u _ hne p hp => by rw [ha u p hp, decide_eq_false hne],
    countP_eq_length.mpr fun p hp => by rw [ha v p hp]; exact decide_eq_true rfl,
    length_take, length_partitionsForNode]
  omega

lemma length_hands (hn : nodes.Nodup) (hne : nodes ≠ []) :
    ((pools it nodes).flatMap Pool.hand).length = (slots it nodes).length :=
  (length_slots it hn hne).symm

lemma moves_fst (hn : nodes.Nodup) (hne : nodes ≠ []) :
    (computeRebalance it nodes).map Prod.fst = (pools it nodes).flatMap Pool.hand := by
  have hp := congrArg (List.map Prod.fst) (computeRebalance_eq_deal it nodes)
  rw [deal, map_fst_zip (Nat.le_of_eq (length_hands hn hne)), List.map_map] at hp
  exact hp

lemma moves_dst (hn : nodes.Nodup) (hne : nodes ≠ []) :
    (computeRebalance it nodes).map (fun m => m.2.2) = slots it nodes := by
  have hp := congrArg (List.map Prod.snd) (computeRebalance_eq_deal it nodes)
  rw [deal, map_snd_zip (Nat.le_of_eq (length_hands hn hne).symm), List.map_map] at hp
  exact hp

lemma nodup_moves (h : Lists it t) (hn : nodes.Nodup) (hne : nodes ≠ []) :
    ((computeRebalance it nodes).map Prod.fst).Nodup := by
  rw [moves_fst hn hne]; exact nodup_hands h hn

lemma holding_rebalance (h : Lists it t) (hn : nodes.Nodup) (hv : v ∈ nodes) :
    holding (rebalance it t nodes) v = target it nodes v := by
  have hne : nodes ≠ [] := ne_nil_of_mem hv
  have hk : (((computeRebalance it nodes).map fun m =>
      (m.1, PartitionOwnership.owned m.2.2)).map Prod.fst).Nodup := by
    rw [List.map_map]; exact nodup_moves h hn hne
  have hc := countValues_insertAll (m := t) hk fun o => decide (o.activeNode = v)
  rw [countP_map, countP_map] at hc
  have hl : (computeRebalance it nodes).countP (activeFor t v ∘ Prod.fst) =
      partitionCount it v - target it nodes v := by rw [← countP_map, moves_fst hn hne, count_hands h hn hv]
  have hg : (computeRebalance it nodes).countP (fun m => decide (m.2.2 = v)) =
      target it nodes v - partitionCount it v := by
    rw [← count_slots hn hv, ← moves_dst hn hne, List.count, countP_map]
    exact countP_congr fun m _ => by simp
  have hb := partitionCount_eq h v
  have hc' : holding (rebalance it t nodes) v + (partitionCount it v - target it nodes v) =
      holding t v + (target it nodes v - partitionCount it v) := by
    rw [← hl, ← hg]; exact hc
  omega

def lacking (target : NodeId → Nat) (nodes : List NodeId) (t : PartitionTable) : Nat :=
  (nodes.map fun v => target v - holding t v).sum

lemma holding_assign_le (t : PartitionTable) (p : PartitionId) (u v : NodeId) :
    holding (assign t p u) v ≤ holding t v + if u = v then 1 else 0 := by
  have hc := countValues_insert t p (.owned u) fun o => decide (o.activeNode = v)
  have ho : (decide ((PartitionOwnership.owned u).activeNode = v)).toNat = if u = v then 1 else 0 := by
    by_cases huv : u = v
    · rw [if_pos huv, decide_eq_true (show (PartitionOwnership.owned u).activeNode = v from huv)]
      rfl
    · rw [if_neg huv, decide_eq_false (show ¬ (PartitionOwnership.owned u).activeNode = v from huv)]
      rfl
  rw [ho] at hc; simp only [holding, assign]; omega

lemma lacking_assign_le (target : NodeId → Nat) (hn : nodes.Nodup) (t : PartitionTable) (p : PartitionId)
    (u : NodeId) : lacking target nodes t ≤ lacking target nodes (assign t p u) + 1 := by
  have hc : lacking target nodes t ≤ lacking target nodes (assign t p u) + nodes.count u := by
    clear hn
    induction nodes with
    | nil => exact Nat.le_refl _
    | cons v =>
      have ho := holding_assign_le t p u v
      grind [lacking, count_cons_self]
  grind

lemma lacking_applyMoves_le (target : NodeId → Nat) (hn : nodes.Nodup) (t : PartitionTable)
    (plan : List Move) : lacking target nodes t ≤ lacking target nodes (applyMoves t plan) + plan.length := by
  induction plan generalizing t with
  | nil => exact Nat.le_refl _
  | cons m plan ih =>
    have hf := lacking_assign_le target hn t m.1 m.2.2
    have hr : lacking target nodes (assign t m.1 m.2.2) ≤
        lacking target nodes (applyMoves t (m :: plan)) + plan.length := ih (assign t m.1 m.2.2)
    rw [length_cons]; omega

lemma length_moves (h : Lists it t) (hn : nodes.Nodup) (hne : nodes ≠ []) :
    (computeRebalance it nodes).length = lacking (target it nodes) nodes t := by
  have hl := congrArg List.length (@moves_dst it _ hn hne)
  simp_all [length_map, slots_eq, length_flatMap, lacking, length_replicate, partitionCount_eq h]

/-- **A rebalance is exact and minimal.** -/
theorem rebalance_exact (h : Lists it t) (hn : nodes.Nodup) (hne : nodes ≠ []) :
    Balanced (numPartitions t) nodes (rebalance it t nodes) ∧
    (∀ p o, t.lookup p = some o → o.activeNode ∉ nodes → p ∈ (computeRebalance it nodes).map Prod.fst) ∧
    ((computeRebalance it nodes).map Prod.fst).Nodup ∧
    (∀ m ∈ computeRebalance it nodes, ∃ o, t.lookup m.1 = some o ∧ m.2.1 = o.activeNode) ∧
    ∀ plan : List Move, Balanced (numPartitions t) nodes (applyMoves t plan) →
      (computeRebalance it nodes).length ≤ plan.length := by
  refine ⟨fun i v hi => ?_, fun p o hp ho => ?_, nodup_moves h hn hne, fun m hm => ?_, fun plan hpl => ?_⟩
  · grind [holding_rebalance, target_eq]
  · have hou : o.activeNode ∉ targets it.length nodes := fun hme => ho ((mem_targets _ _ _).mp hme)
    have hor : (p, o.activeNode) ∈ orphanedPartitions it nodes :=
      List.mem_map.mpr ⟨⟨p, o⟩, mem_filter.mpr ⟨h.mem_iff.mpr hp, decide_eq_true hou⟩, rfl⟩
    rw [moves_fst hn hne, hands_pools]; grind
  · obtain ⟨o, ho, hs⟩ := origins_computeRebalance it nodes m hm
    exact ⟨o, h.mem_iff.mp ho, hs⟩
  · have hb := lacking_applyMoves_le (target it nodes) hn t plan
    have hz : lacking (target it nodes) nodes (applyMoves t plan) = 0 := by
      rw [lacking, List.sum_eq_zero_iff_forall_eq_nat]; intro n hme
      obtain ⟨v, hv, rfl⟩ := List.mem_map.mp hme; obtain ⟨i, hi⟩ := getElem?_of_mem hv
      rw [target_eq h hn hi, hpl i v hi, Nat.sub_self]
    rw [length_moves h hn hne]; omega

def leaving : TableListing := [⟨0, .owned 9⟩, ⟨1, .owned 9⟩, ⟨2, .owned 9⟩, ⟨3, .transferring 1 9⟩]

theorem rebalance_exact_leaving :
    Lists leaving (insertAll ∅ (leaving.map fun e => (e.1, e.2))) ∧ [(1 : NodeId), 2].Nodup ∧
    (computeRebalance leaving [1, 2]).length = 3 ∧
    Balanced 4 [1, 2] (rebalance leaving (insertAll ∅ (leaving.map fun e => (e.1, e.2))) [1, 2]) := by
  have hl : Lists leaving (insertAll ∅ (leaving.map fun e => (e.1, e.2))) := by decide
  have hn : [(1 : NodeId), 2].Nodup := by decide
  exact ⟨hl, hn, by decide, (rebalance_exact hl hn (by decide)).1⟩

/-- **A second rebalance moves nothing**, whatever the orders the two tables are iterated in. -/
theorem rebalance_again (h : Lists it t) (hn : nodes.Nodup) (h' : Lists it' (rebalance it t nodes)) :
    computeRebalance it' nodes = [] := by
  by_cases hne : nodes = []
  · rw [computeRebalance, if_pos (.inl hne)]
  have hp : numPartitions (rebalance it t nodes) = numPartitions t := by
    have hk : (((computeRebalance it nodes).map fun m =>
        (m.1, PartitionOwnership.owned m.2.2)).map Prod.fst).Nodup := by
      rw [List.map_map]; exact nodup_moves h hn hne
    have hc : countValues (rebalance it t nodes) _ + _ = _ := countValues_insertAll hk fun _ => true
    have hm : ((computeRebalance it nodes).map fun m => (m.1, PartitionOwnership.owned m.2.2)).countP
        (fun e => (t.lookup e.1).any fun _ => true) = (computeRebalance it nodes).length := by
      rw [countP_map, countP_eq_length]; intro m hm
      obtain ⟨o, ho, -⟩ := origins_computeRebalance it nodes m hm
      simp [h.mem_iff.mp ho]
    rw [hm, ← h'.countP_eq, ← h.countP_eq, countP_true, countP_true, length_map] at hc
    rw [← length_listing h', ← length_listing h]; omega
  refine eq_nil_of_length_eq_zero ?_
  rw [length_moves h' hn hne, lacking, List.sum_eq_zero_iff_forall_eq_nat]; intro n hme
  obtain ⟨v, hv, rfl⟩ := List.mem_map.mp hme; obtain ⟨i, hi⟩ := getElem?_of_mem hv
  rw [target_eq h' hn hi, holding_rebalance h hn hv, target_eq h hn hi, hp, Nat.sub_self]

theorem rebalance_again_leaving :
    ∃ it', Lists it' (rebalance leaving (insertAll ∅ (leaving.map fun e => (e.1, e.2))) [1, 2]) ∧
      (computeRebalance leaving [1, 2]).length = 3 ∧ computeRebalance it' [1, 2] = [] := by
  obtain ⟨it', h'⟩ := Lists.exists_listing
    (rebalance leaving (insertAll ∅ (leaving.map fun e => (e.1, e.2))) [1, 2])
  exact ⟨it', h', by decide, rebalance_again (by decide) (by decide) h'⟩

theorem rebalance_empty_list :
    ∃ (it : TableListing) (t : PartitionTable) (nodes : List NodeId), Lists it t ∧ nodes.Nodup ∧
      ∃ p o, t.lookup p = some o ∧ o.activeNode ∉ nodes ∧ p ∉ (computeRebalance it nodes).map Prod.fst :=
  ⟨[⟨0, .owned 1⟩], insertAll ∅ [(0, .owned 1)], [], by decide, by decide, 0, .owned 1, by decide,
    by decide, by decide⟩

end Aeon.L4.RebalanceExact
