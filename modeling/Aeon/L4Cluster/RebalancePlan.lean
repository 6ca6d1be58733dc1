import Mathlib.Data.List.Destutter
import Mathlib.Data.List.Sort
import Aeon.Core.Levels
import Aeon.L4Cluster.Rebalance

/-!
# The plan of `aeon cluster rebalance`

`plan_rebalance` (`crates/aeon-cluster/src/rebalance.rs`): owners above the ceiling hand their
surplus to whoever has the most room (`Core.Levels`). Only partitions that a live member owns take
part.

* `planned_iff`: members end with floor or ceiling iff they lack no more than others have above the
  ceiling;
* `member_stays_empty`: loads 2, 2, 0.
-/
namespace Aeon.L4.RebalancePlan

open List Aeon.Core Aeon.L4.Cluster

/-- mirrors rebalance.rs:94-96 -/
def members (liveMembers : List NodeId) : List NodeId :=
  (liveMembers.insertionSort fun a b => a.toNat ≤ b.toNat).destutter (· ≠ ·)

/-- mirrors rebalance.rs:103-117 -/
def bucket (it : TableListing) (node : NodeId) : List PartitionId :=
  ((it.filter fun e => e.2 = .owned node).map Sigma.fst).insertionSort fun p q => p.toNat ≤ q.toNat

def divCeil (a b : Nat) : Nat := if 0 < a % b then a / b + 1 else a / b

structure Planning where
  deficit : Slots NodeId
  plan : List (PartitionId × NodeId) := []

def cmp (a b : NodeId × Nat) : Ordering := (compare a.2 b.2).swap.then (compare a.1 b.1)

/-- mirrors rebalance.rs:149-156 -/
def pick (owner : NodeId) (deficit : Slots NodeId) : Option (NodeId × Nat) :=
  minBy cmp (deficit.filter fun e => e.1 ≠ owner ∧ 0 < e.2)

/-- mirrors rebalance.rs:145-160 -/
def handOut (owner : NodeId) : Planning → List PartitionId → Planning
  | s, [] => s
  | s, pid :: ps =>
    match pick owner s.deficit with
    | none => s
    | some (target, _) => handOut owner ⟨s.deficit.lower target, s.plan ++ [(pid, target)]⟩ ps

section

variable (it : TableListing) (ms : List NodeId)

/-- mirrors rebalance.rs:119-121 -/
def ceiling : Nat := divCeil (ms.map fun n => (bucket it n).length).sum ms.length

/-- mirrors rebalance.rs:138-145 -/
def surplus (owner : NodeId) : List PartitionId :=
  (bucket it owner).take ((bucket it owner).length - ceiling it ms)

/-- mirrors rebalance.rs:128-134 -/
def start : Planning := { deficit := ms.map fun n => (n, ceiling it ms - (bucket it n).length) }

end

/-- mirrors rebalance.rs:90-168 -/
def planRebalance (it : TableListing) (liveMembers : List NodeId) : List (PartitionId × NodeId) :=
  let ms := members liveMembers
  if ms = [] then []
  else
    let s := ms.foldl (fun s owner => handOut owner s (surplus it ms owner)) (start it ms)
    s.plan.insertionSort fun a b => a.1.toNat ≤ b.1.toNat

def execute (t : PartitionTable) (plan : List (PartitionId × NodeId)) : PartitionTable :=
  insertAll t (plan.map fun m => (m.1, .owned m.2))

def owns (t : PartitionTable) (n : NodeId) : Nat := countValues t fun o => o = .owned n

section

variable (t : PartitionTable) (live : List NodeId)

def total : Nat := (live.dedup.map (owns t)).sum

def floorShare : Nat := total t live / live.dedup.length

def ceilShare : Nat := divCeil (total t live) live.dedup.length

structure Rebalanced (plan : List (PartitionId × NodeId)) : Prop where
  even : ∀ n ∈ live, owns (execute t plan) n = floorShare t live ∨ owns (execute t plan) n = ceilShare t live
  once : (plan.map Prod.fst).Nodup
  above : ∀ m ∈ plan, ∃ n ∈ live, t.lookup m.1 = some (.owned n) ∧ ceilShare t live < owns t n
  untouched : ∀ p o, t.lookup p = some o → (∀ n ∈ live, o ≠ .owned n) → (execute t plan).lookup p = some o

def Enough : Prop := (live.dedup.map fun n => floorShare t live - owns t n).sum ≤
    (live.dedup.map fun n => owns t n - ceilShare t live).sum
  deriving Decidable

end

lemma members_eq (live : List NodeId) :
    members live = (live.insertionSort fun a b => a.toNat ≤ b.toNat).dedup := by
  have ht : Std.Total fun a b : NodeId => a.toNat ≤ b.toNat := ⟨fun a b => Nat.le_total _ _⟩
  have htr : IsTrans NodeId fun a b => a.toNat ≤ b.toNat := ⟨fun a b c => Nat.le_trans⟩
  have ha : Std.Antisymm fun a b : NodeId => a.toNat ≤ b.toNat :=
    ⟨fun a b hab hba => UInt64.toNat_inj.mp (Nat.le_antisymm hab hba)⟩
  exact (pairwise_insertionSort _ live).destutter_eq_dedup

lemma mem_members {live : List NodeId} : n ∈ members live ↔ n ∈ live := by
  rw [members_eq, mem_dedup, mem_insertionSort]

lemma nodup_members (live : List NodeId) : (members live).Nodup := members_eq live ▸ nodup_dedup _

lemma members_perm (live : List NodeId) : (members live).Perm live.dedup :=
  members_eq live ▸ (perm_insertionSort _ live).dedup

variable {it : TableListing} {t : PartitionTable} {live ms : List NodeId} {n owner : NodeId}
  {s s₀ : Planning} {ps : List PartitionId}

lemma length_bucket (h : Lists it t) (n : NodeId) : (bucket it n).length = owns t n := by
  rw [bucket, length_insertionSort, length_map, ← countP_eq_length_filter]
  exact h.countP_eq fun o => o = .owned n

lemma mem_bucket (h : Lists it t) : p ∈ bucket it n ↔ t.lookup p = some (.owned n) := by
  simp [bucket, ← h.mem_iff]

lemma pick_spec {deficit : Slots NodeId} (h : pick owner deficit = some e) :
    e ∈ deficit ∧ 0 < e.2 ∧ ∀ e' ∈ deficit, e'.1 ≠ owner → e'.2 ≤ e.2 := by
  have hgt : ∀ x y : NodeId × Nat, cmp x y = .gt → x.2 ≤ y.2 := by
    intro x y hxy; by_contra hlt
    simp [cmp, Nat.compare_eq_gt.mpr (Nat.lt_of_not_le hlt)] at hxy
  have hle : ∀ x y : NodeId × Nat, cmp x y ≠ .gt → y.2 ≤ x.2 := by
    intro x y hxy; by_contra hlt
    simp [cmp, Nat.compare_eq_lt.mpr (Nat.lt_of_not_le hlt)] at hxy
  obtain ⟨hm, hma⟩ := minBy_spec hgt hle h
  simp only [mem_filter, decide_eq_true_eq] at hm hma; grind

def received (plan : List (PartitionId × NodeId)) (n : NodeId) : Nat := plan.countP fun m => m.2 = n

structure Filled (s₀ : Planning) (ps : List PartitionId) (s : Planning) : Prop where
  handed : s.plan.map Prod.fst = ps
  keys : s.deficit.map Prod.fst = s₀.deficit.map Prod.fst
  above : ∀ gap, s.deficit.above gap = s₀.deficit.above gap - ps.length
  kept : ∀ e ∈ s₀.deficit, ∃ d, (e.1, d) ∈ s.deficit ∧ d + received s.plan e.1 = e.2

lemma Filled.slot (h : Filled s₀ ps s) (hk : (s₀.deficit.map Prod.fst).Nodup) (h₀ : (n, a) ∈ s₀.deficit)
    (hs : (n, b) ∈ s.deficit) : b + received s.plan n = a := by
  obtain ⟨d, hd, hsu⟩ := h.kept _ h₀
  have heq := inj_on_of_nodup_map (h.keys ▸ hk) hd hs rfl; cases heq; exact hsu

lemma Filled.push (h : Filled s₀ ps s) (hk : (s₀.deficit.map Prod.fst).Nodup) (hr : (owner, 0) ∈ s₀.deficit)
    (he : pick owner s.deficit = some e) (p : PartitionId) :
    Filled s₀ (ps ++ [p]) ⟨s.deficit.lower e.1, s.plan ++ [(p, e.1)]⟩ := by
  obtain ⟨hm, hp, hma⟩ := pick_spec he
  have hm' : ∀ e' ∈ s.deficit, e'.2 ≤ e.2 := by
    intro e' he'; by_cases ho : e'.1 = owner
    · have := h.slot hk (ho ▸ hr) he'; omega
    · exact hma e' he' ho
  refine ⟨by simp [h.handed], by rw [Slots.map_fst_lower, h.keys], fun gap => ?_, fun x hx => ?_⟩
  · rw [Slots.above_lower (h.keys ▸ hk) hm hm', h.above, length_append, length_singleton, Nat.sub_sub]
  · obtain ⟨d, hd, hs⟩ := h.kept x hx
    have hc : received (s.plan ++ [(p, e.1)]) x.1 = received s.plan x.1 + if e.1 = x.1 then 1 else 0 := by
      simp [received, countP_cons]
    by_cases hx' : x.1 = e.1
    · have hde := inj_on_of_nodup_map (h.keys ▸ hk) hd hm hx'
      refine ⟨d - 1, List.mem_map.mpr ⟨(x.1, d), hd, by simp [hx']⟩, ?_⟩; grind
    · refine ⟨d, List.mem_map.mpr ⟨(x.1, d), hd, by simp [hx']⟩, ?_⟩; grind

lemma Filled.handOut (h : Filled s₀ ps s) (hk : (s₀.deficit.map Prod.fst).Nodup)
    (hr : (owner, 0) ∈ s₀.deficit) (qs : List PartitionId) (hl : ps.length + qs.length ≤ s₀.deficit.above 0) :
    Filled s₀ (ps ++ qs) (handOut owner s qs) := by
  induction qs generalizing s ps with
  | nil => rw [append_nil]; exact h
  | cons q qs ih =>
    rw [RebalancePlan.handOut]
    cases hp : pick owner s.deficit with
    | none =>
      have hn := minBy_eq_none hp
      have hz : s.deficit.above 0 = 0 := by
        refine Slots.above_eq_zero_iff.mpr fun e he => Nat.le_of_not_lt fun hpo => ?_
        have ho : e.1 ≠ owner := fun heq => by have := h.slot hk (heq ▸ hr) he; omega
        exact not_mem_nil (hn ▸ mem_filter.mpr ⟨he, by simp [ho, hpo]⟩)
      have := h.above 0; simp only [length_cons] at hl; omega
    | some =>
      have hl' : (ps ++ [q]).length + qs.length ≤ s₀.deficit.above 0 := by grind
      have hre := ih (h.push hk hr hp q) hl'; rwa [append_assoc] at hre

lemma Filled.all (hk : (s₀.deficit.map Prod.fst).Nodup) {os : List NodeId}
    (hos : ∀ o ∈ os, surplus it ms o ≠ [] → (o, 0) ∈ s₀.deficit) (h : Filled s₀ ps s)
    (hl : ps.length + (os.flatMap (surplus it ms)).length ≤ s₀.deficit.above 0) :
    Filled s₀ (ps ++ os.flatMap (surplus it ms))
      (os.foldl (fun s owner => RebalancePlan.handOut owner s (surplus it ms owner)) s) := by
  induction os generalizing s ps with
  | nil => simpa using h
  | cons o os ih =>
    rw [flatMap_cons, length_append] at hl
    have hf : Filled s₀ (ps ++ surplus it ms o) (RebalancePlan.handOut o s (surplus it ms o)) := by
      by_cases hn : surplus it ms o = []
      · rw [hn, append_nil]; exact h
      · exact h.handOut hk (hos o mem_cons_self hn) _ (by omega)
    rw [foldl_cons, flatMap_cons, ← append_assoc]
    refine ih (fun x hx => hos x (mem_cons_of_mem _ hx)) hf ?_; grind

lemma divCeil_le (a b : Nat) : a / b ≤ divCeil a b ∧ divCeil a b ≤ a / b + 1 := by
  unfold divCeil; split_ifs <;> omega

lemma le_mul_divCeil (hb : 0 < b) : a ≤ b * divCeil a b := by
  have hd := Nat.div_add_mod a b; unfold divCeil; split_ifs with h
  · have := Nat.mod_lt a hb; rw [Nat.mul_succ]; omega
  · omega

def planned (it : TableListing) (ms : List NodeId) : Planning :=
  ms.foldl (fun s owner => handOut owner s (surplus it ms owner)) (start it ms)

lemma start_keys (it : TableListing) (ms : List NodeId) : (start it ms).deficit.map Prod.fst = ms := by
  simp [start, Function.comp_def]

lemma length_surplus (it : TableListing) (ms : List NodeId) (n : NodeId) :
    (surplus it ms n).length = (bucket it n).length - ceiling it ms := by simp [surplus]

lemma filled_planned (hn : ms.Nodup) (hne : ms ≠ []) :
    Filled (start it ms) (ms.flatMap (surplus it ms)) (planned it ms) := by
  have hem : Filled (start it ms) [] (start it ms) := ⟨rfl, rfl, by simp, fun e he => ⟨e.2, he, rfl⟩⟩
  have hr : ∀ o ∈ ms, surplus it ms o ≠ [] → (o, 0) ∈ (start it ms).deficit := by
    intro o ho hs; have hl := length_surplus it ms o; have := length_pos_iff.mpr hs
    exact List.mem_map.mpr ⟨o, ho, by rw [Nat.sub_eq_zero_of_le (by omega)]⟩
  have hsu := sum_sub_add (fun n => (bucket it n).length) (fun _ => ceiling it ms) ms
  have hc : (ms.map fun n => (bucket it n).length).sum ≤ ms.length * ceiling it ms :=
    le_mul_divCeil (length_pos_iff.mpr hne)
  have hl : (ms.flatMap (surplus it ms)).length ≤ (start it ms).deficit.above 0 := by
    simp only [length_flatMap, length_surplus, Slots.above, start, List.map_map, Function.comp_def,
      Nat.sub_zero, map_const', sum_replicate_nat] at hsu ⊢
    omega
  exact Filled.all (by rw [start_keys]; exact hn) hr hem (by simpa using hl)

lemma mem_surplus (h : Lists it t) (hp : p ∈ surplus it ms n) :
    t.lookup p = some (.owned n) ∧ ceiling it ms < owns t n := by
  have hl := length_surplus it ms n; have := length_pos_of_mem hp
  rw [length_bucket h] at hl; exact ⟨(mem_bucket h).mp (mem_of_mem_take hp), by omega⟩

lemma nodup_surplus (h : Lists it t) (hn : ms.Nodup) : (ms.flatMap (surplus it ms)).Nodup := by
  refine nodup_flatMap.mpr ⟨fun n _ => ?_, hn.imp fun {a b} hab p ha hb => hab ?_⟩
  · have hbu : (bucket it n).Nodup :=
      (perm_insertionSort _ _).nodup_iff.mpr (h.nodup_keys.sublist (filter_sublist.map _))
    exact hbu.sublist (take_sublist _ _)
  · simpa [(mem_surplus h ha).1] using (mem_surplus h hb).1

lemma owns_execute (h : Lists it t) (hn : ms.Nodup) (hne : ms ≠ []) (hd : (n, d) ∈ (planned it ms).deficit) :
      owns (execute t (planned it ms).plan) n + d = ceiling it ms := by
  have hf := @filled_planned it _ hn hne
  have hm : n ∈ ms := by rw [← start_keys it ms, ← hf.keys]; exact List.mem_map_of_mem hd
  have hs : d + received (planned it ms).plan n = ceiling it ms - (bucket it n).length :=
    hf.slot (by rw [start_keys]; exact hn) (List.mem_map.mpr ⟨n, hm, rfl⟩) hd
  have hl : (planned it ms).plan.countP ((fun p => (t.lookup p).any (· = .owned n)) ∘ Prod.fst) =
      (surplus it ms n).length := by
    rw [← countP_map, hf.handed, countP_flatMap_of_nodup hn hm, countP_eq_length]
    · intro p hp; simp [(mem_surplus h hp).1]
    · intro o _ hne' p hp; simp [(mem_surplus h hp).1, hne']
  have hk : (((planned it ms).plan.map fun m => (m.1, PartitionOwnership.owned m.2)).map Prod.fst).Nodup := by
    rw [List.map_map]; exact hf.handed ▸ nodup_surplus h hn
  have hc := countValues_insertAll (m := t) hk fun o => decide (o = .owned n)
  rw [countP_map, countP_map] at hc
  have hg : (planned it ms).plan.countP (fun m => decide (PartitionOwnership.owned m.2 = .owned n)) =
      received (planned it ms).plan n := by simp [received]
  have ha : owns (execute t (planned it ms).plan) n + (surplus it ms n).length =
      owns t n + received (planned it ms).plan n := by
    rw [← hl, ← hg]; exact hc
  rw [length_surplus, length_bucket h] at ha; rw [length_bucket h] at hs; omega

lemma total_eq (h : Lists it t) (live : List NodeId) :
    ((members live).map fun n => (bucket it n).length).sum = total t live := by
  simp only [length_bucket h]; exact ((members_perm live).map _).sum_nat

lemma ceiling_eq (h : Lists it t) (live : List NodeId) : ceiling it (members live) = ceilShare t live := by
  rw [ceiling, total_eq h, ceilShare, (members_perm live).length_eq]

lemma even_iff (h : Lists it t) (hne : members live ≠ []) :
    (∀ n ∈ live, owns (execute t (planned it (members live)).plan) n = floorShare t live ∨
      owns (execute t (planned it (members live)).plan) n = ceilShare t live) ↔ Enough t live := by
  have hf := @filled_planned it _ (nodup_members live) hne
  have hg := divCeil_le (total t live) live.dedup.length
  have hs : ∀ n d, (n, d) ∈ (planned it (members live)).deficit →
      owns (execute t (planned it (members live)).plan) n + d = ceilShare t live := by
    intro n d hd; rw [owns_execute h (nodup_members live) hne hd, ceiling_eq h]
  have hl : (planned it (members live)).deficit.above (ceilShare t live - floorShare t live) = 0 ↔
      Enough t live := by
    have hla : (start it (members live)).deficit.above (ceilShare t live - floorShare t live) =
        (live.dedup.map fun n => floorShare t live - owns t n).sum := by
      rw [← ((members_perm live).map _).sum_nat, Slots.above, start, List.map_map]
      refine congrArg List.sum (map_congr_left fun n _ => ?_)
      have : floorShare t live ≤ ceilShare t live := hg.1
      simp only [Function.comp_apply, length_bucket h, ceiling_eq h]; omega
    have ho : ((members live).flatMap (surplus it (members live))).length =
        (live.dedup.map fun n => owns t n - ceilShare t live).sum := by
      rw [← ((members_perm live).map _).sum_nat, length_flatMap]
      simp only [length_surplus, length_bucket h, ceiling_eq h]
    rw [hf.above, hla, ho, Enough]; omega
  rw [← hl, Slots.above_eq_zero_iff]
  have hsh : floorShare t live ≤ ceilShare t live ∧ ceilShare t live ≤ floorShare t live + 1 := hg
  constructor
  · rintro he ⟨n, d⟩ hd
    have hm : n ∈ live := by
      rw [← mem_members, ← start_keys it (members live), ← hf.keys]
      exact List.mem_map_of_mem hd
    grind
  · intro hle n hm
    have hk : n ∈ (planned it (members live)).deficit.map Prod.fst := by
      rw [hf.keys, start_keys, mem_members]; exact hm
    grind

theorem planned_iff (h : Lists it t) (hne : live ≠ []) :
    Rebalanced t live (planRebalance it live) ↔ Enough t live := by
  have hms : members live ≠ [] := by
    obtain ⟨n, hn⟩ := exists_mem_of_ne_nil live hne
    exact ne_nil_of_mem (mem_members.mpr hn)
  have hf := @filled_planned it _ (nodup_members live) hms
  have hpl : planRebalance it live =
      (planned it (members live)).plan.insertionSort fun a b => a.1.toNat ≤ b.1.toNat := by
    rw [planRebalance, if_neg hms]; rfl
  have hpe : (planRebalance it live).Perm (planned it (members live)).plan := hpl ▸ perm_insertionSort _ _
  have hon : ((planned it (members live)).plan.map Prod.fst).Nodup :=
    hf.handed ▸ nodup_surplus h (nodup_members live)
  have ho' : ((planRebalance it live).map Prod.fst).Nodup := (hpe.map _).nodup_iff.mpr hon
  have he : execute t (planRebalance it live) = execute t (planned it (members live)).plan := by
    refine insertAll_perm ?_ (hpe.map _); grind
  have ha : ∀ p ∈ (planRebalance it live).map Prod.fst, ∃ n ∈ live, t.lookup p = some (.owned n) ∧
      ceilShare t live < owns t n := by
    intro p hp; rw [(hpe.map Prod.fst).mem_iff, hf.handed] at hp
    obtain ⟨n, hn, hp⟩ := mem_flatMap.mp hp
    exact ⟨n, mem_members.mp hn, ceiling_eq h live ▸ mem_surplus h hp⟩
  constructor
  · intro hr; exact (even_iff h hms).mp (he ▸ hr.even)
  · intro hen
    refine ⟨he ▸ (even_iff h hms).mpr hen, ho', fun m hm => ha _ (List.mem_map_of_mem hm), fun p o hp ho =>
      ?_⟩
    rw [execute, lookup_insertAll_of_notMem, hp]; intro hme; rw [List.map_map] at hme
    obtain ⟨n, hn, hl, -⟩ := ha p hme; grind

def uneven : TableListing := [⟨0, .owned 1⟩, ⟨1, .owned 1⟩, ⟨2, .owned 1⟩, ⟨3, .owned 3⟩,
    ⟨4, .transferring 2 1⟩]

theorem planned_uneven :
    Lists uneven (insertAll ∅ (uneven.map fun e => (e.1, e.2))) ∧
    planRebalance uneven [3, 1, 2, 1] = [(0, 2)] ∧
    Rebalanced (insertAll ∅ (uneven.map fun e => (e.1, e.2))) [3, 1, 2, 1]
      (planRebalance uneven [3, 1, 2, 1]) := by
  have hl : Lists uneven (insertAll ∅ (uneven.map fun e => (e.1, e.2))) := by decide
  exact ⟨hl, by decide, (planned_iff hl (by decide)).mpr (by decide)⟩

theorem member_stays_empty :
    ∃ it t, Lists it t ∧ planRebalance it [1, 2, 3] = [] ∧
    owns (execute t (planRebalance it [1, 2, 3])) 3 = 0 ∧
      floorShare t [1, 2, 3] = 1 ∧ ¬ Rebalanced t [1, 2, 3] (planRebalance it [1, 2, 3]) := by
  refine ⟨[⟨0, .owned 1⟩, ⟨1, .owned 1⟩, ⟨2, .owned 2⟩, ⟨3, .owned 2⟩],
    insertAll ∅ [(0, .owned 1), (1, .owned 1), (2, .owned 2), (3, .owned 2)], by decide, by decide, by decide,
    by decide, fun h => ?_⟩
  exact absurd (h.even 3 (by decide)) (by decide)

end Aeon.L4.RebalancePlan
