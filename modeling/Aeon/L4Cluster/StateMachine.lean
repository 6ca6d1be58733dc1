import Mathlib.Data.List.Infix
import Aeon.Core.LTS
import Aeon.L4Cluster.Rebalance

/-!
# The Raft state machine of the cluster

`StateMachineStore::apply_request` (`crates/aeon-cluster/src/store.rs`) over `ClusterSnapshot`. It
takes the orders of the replica's hash maps; `none` is the panic of `initial_assignment` on an empty
list.

* `replicas_agree_iff`: when replicas agree after every prefix of a log;
* `replicas_disagree`: they need not.
-/
namespace Aeon.L4.Cluster

open Aeon.Core

/-- mirrors snapshot.rs:13-27 -/
structure ClusterSnapshot where
  partitionTable : PartitionTable := ∅
  lastAppliedLogIndex : UInt64 := 0
  lastAppliedLogTerm : UInt64 := 0
  sourceAnchorOffsets : HashMap PartitionId UInt64 := ∅
  pohCheckpoint : Option (List UInt8) := none
  configOverrides : HashMap String String := ∅

/-- mirrors types.rs:83-134 -/
inductive ClusterRequest where
  | assignPartition (partition : PartitionId) (node : NodeId)
  | beginTransfer (partition : PartitionId) (source target : NodeId)
  | completeTransfer (partition : PartitionId) (newOwner : NodeId)
  | abortTransfer (partition : PartitionId) (revertTo : NodeId)
  | updateConfig (key value : String)
  | submitCheckpoint (sourceOffsets : HashMap PartitionId Int64)
  | rebalancePartitions (nodes : List NodeId)
  | initialAssignment (numPartitions : UInt16) (nodes : List NodeId)
  | registry (payload : List UInt8)
  deriving DecidableEq

/-- mirrors types.rs:180-190 -/
inductive ClusterResponse where
  | ok
  | error (message : String)
  | registry (bytes : List UInt8)

def debugPartition (p : PartitionId) : String := "PartitionId(" ++ toString p.toNat ++ ")"

structure Orders where
  table : TableListing
  offsets : Listing PartitionId Int64 := []

def ClusterRequest.sourceOffsets : ClusterRequest → HashMap PartitionId Int64
  | .submitCheckpoint m => m
  | _ => ∅

def Orders.Valid (o : Orders) (s : ClusterSnapshot) (r : ClusterRequest) : Prop :=
  Lists o.table s.partitionTable ∧ Lists o.offsets r.sourceOffsets
  deriving Decidable

/-- mirrors store.rs:468-474 -/
def mergeOffset (anchors : HashMap PartitionId UInt64) (e : Σ _ : PartitionId, Int64) :
    HashMap PartitionId UInt64 :=
  let entry := (anchors.lookup e.1).getD 0
  anchors.insert e.1 (if e.2 > entry.toInt64 then e.2.toUInt64 else entry)

/-- mirrors store.rs:406-516 -/
def applyRequest (o : Orders) (s : ClusterSnapshot) : ClusterRequest → Option
    (ClusterSnapshot × ClusterResponse)
  | .assignPartition partition node =>
    some ({ s with partitionTable := assign s.partitionTable partition node }, .ok)
  | .beginTransfer partition source target =>
    match s.partitionTable.lookup partition with
    | some (.owned owner) =>
      if owner = source then
        some ({ s with partitionTable := s.partitionTable.insert partition (.transferring source target) },
          .ok)
      else
        some (s, .error ("partition " ++ debugPartition partition ++ " not owned by node " ++
          toString source.toNat))
    | some (.transferring _ _) => some (s, .error "partition already in transfer")
    | none =>
      some (s, .error ("partition " ++ debugPartition partition ++ " not owned by node " ++
        toString source.toNat))
  | .completeTransfer partition newOwner =>
    let noTransfer := ClusterResponse.error ("no active transfer for partition " ++
      debugPartition partition ++ " to node " ++ toString newOwner.toNat)
    match s.partitionTable.lookup partition with
    | some (.transferring _ target) =>
      if target = newOwner then
        some ({ s with partitionTable := assign s.partitionTable partition newOwner }, .ok)
      else some (s, noTransfer)
    | some (.owned owner) => if owner = newOwner then some (s, .ok) else some (s, noTransfer)
    | none => some (s, noTransfer)
  | .abortTransfer partition revertTo =>
    some ({ s with partitionTable := assign s.partitionTable partition revertTo }, .ok)
  | .updateConfig key value =>
    some ({ s with configOverrides := s.configOverrides.insert key value }, .ok)
  | .submitCheckpoint _ =>
    some ({ s with sourceAnchorOffsets := o.offsets.foldl mergeOffset s.sourceAnchorOffsets }, .ok)
  | .rebalancePartitions nodes =>
    some ({ s with partitionTable := rebalance o.table s.partitionTable nodes }, .ok)
  | .registry _ =>
    some (s, .error "ClusterRequest::Registry must be dispatched via async apply")
  | .initialAssignment numPartitions nodes =>
    if o.table ≠ [] then some (s, .ok)
    else (initialAssignment numPartitions nodes).map fun assignments =>
      ({ s with partitionTable := insertAll s.partitionTable (assignments.map fun a => (a.1, .owned a.2)) },
        .ok)

lemma Orders.exists_valid (s : ClusterSnapshot) (r : ClusterRequest) : ∃ o, Orders.Valid o s r := by
  obtain ⟨it, hit⟩ := Lists.exists_listing s.partitionTable
  obtain ⟨l, hl⟩ := Lists.exists_listing r.sourceOffsets; exact ⟨⟨it, l⟩, hit, hl⟩

inductive Replay : ClusterSnapshot → List ClusterRequest → Option (ClusterSnapshot × List ClusterResponse) →
    Prop
  | nil (s : ClusterSnapshot) : Replay s [] (some (s, []))
  | panic {o : Orders} {s : ClusterSnapshot} {r : ClusterRequest} {log : List ClusterRequest} :
      o.Valid s r → applyRequest o s r = none → Replay s (r :: log) none
  | step {o : Orders} {s s₁ : ClusterSnapshot} {r : ClusterRequest} {resp : ClusterResponse}
      {log : List ClusterRequest} {out : Option (ClusterSnapshot × List ClusterResponse)} :
      o.Valid s r → applyRequest o s r = some (s₁, resp) → Replay s₁ log out →
        Replay s (r :: log) (out.map fun (s₂, resps) => (s₂, resp :: resps))

variable {log : List ClusterRequest}

lemma Replay.snoc {resps : List ClusterResponse} (h : Replay s log (some (s₁, resps)))
    {resp : ClusterResponse} (hv : o.Valid s₁ r) (ha : applyRequest o s₁ r = some (s₂, resp)) :
    Replay s (log ++ [r]) (some (s₂, resps ++ [resp])) := by
  generalize ho : some (s₁, resps) = out at h
  induction h generalizing resps with
  | nil => cases ho; exact .step hv ha (.nil _)
  | panic => cases ho
  | step hv' ha' _ ih =>
    rename_i out _
    cases out with
    | none => cases ho
    | some =>
      simp only [Option.map_some, Option.some.injEq, Prod.mk.injEq] at ho
      obtain ⟨rfl, rfl⟩ := ho; exact .step hv' ha' (ih rfl)

lemma mergeOffset_comm (h : a.1 ≠ b.1) (m : HashMap PartitionId UInt64) :
    mergeOffset (mergeOffset m a) b = mergeOffset (mergeOffset m b) a := by
  simp only [mergeOffset, Finmap.lookup_insert_of_ne m h, Finmap.lookup_insert_of_ne m h.symm]
  exact Finmap.insert_insert_of_ne m h

lemma foldl_mergeOffset_perm {offsets : HashMap PartitionId Int64} (h : Lists l offsets)
    (h' : Lists l' offsets) (m : HashMap PartitionId UInt64) :
    l.foldl mergeOffset m = l'.foldl mergeOffset m := by
  refine (h.perm h').foldl_eq' (fun x hx y hy z => ?_) m; by_cases hxy : x.1 = y.1
  · obtain rfl := h.nodupKeys.eq_of_fst_eq hx hy hxy; rfl
  · exact mergeOffset_comm hxy z

def Insensitive (t : PartitionTable) : ClusterRequest → Prop
  | .rebalancePartitions nodes => MovesWhole t nodes
  | _ => True

lemma applyRequest_det (h : o.Valid s r) (h' : o'.Valid s r)
    (hd : ∀ nodes, r = .rebalancePartitions nodes → nodes.Nodup) (hi : Insensitive s.partitionTable r) :
    applyRequest o s r = applyRequest o' s r := by
  cases r with
  | submitCheckpoint => simp only [applyRequest, foldl_mergeOffset_perm h.2 h'.2]
  | rebalancePartitions nodes =>
    simp only [applyRequest, (rebalance_eq_iff (hd nodes rfl)).mpr hi _ _ h.1 h'.1]
  | initialAssignment =>
    simp [← List.length_eq_zero_iff, (h.1.perm h'.1).length_eq, applyRequest, ne_eq]
  | _ => rfl

lemma replay_unique (hd : ∀ nodes, ClusterRequest.rebalancePartitions nodes ∈ log → nodes.Nodup)
    (hi : ∀ pre r, pre ++ [r] <+: log → ∀ s' resps, Replay s pre (some (s', resps)) →
      Insensitive s'.partitionTable r)
    {out out' : Option (ClusterSnapshot × List ClusterResponse)}
    (h : Replay s log out) (h' : Replay s log out') : out = out' := by
  induction log generalizing s out out' with
  | nil => cases h; cases h'; rfl
  | cons r log ih =>
    have hr : Insensitive s.partitionTable r := hi [] r (by simp) s [] (.nil s)
    have hdr : ∀ nodes, r = .rebalancePartitions nodes →
      nodes.Nodup := fun nodes hn => hd nodes (by simp [hn])
    cases h with
    | panic hv ha =>
      cases h' with
      | panic => rfl
      | step hv' ha' => rw [applyRequest_det hv hv' hdr hr, ha'] at ha; cases ha
    | step hv ha hre =>
      cases h' with
      | panic hv' ha' => rw [applyRequest_det hv hv' hdr hr, ha'] at ha; cases ha
      | step hv' ha' hr' =>
        rw [applyRequest_det hv hv' hdr hr, ha'] at ha; cases ha
        refine congrArg _ (ih (fun nodes hn => hd nodes (List.mem_cons_of_mem _ hn)) ?_ hre hr')
        intro pre q hpr s' resps hp
        exact hi (r :: pre) q (by simpa using hpr) s' _ (.step hv' ha' hp)

theorem replicas_agree_iff (s : ClusterSnapshot) (log : List ClusterRequest)
    (hd : ∀ nodes, ClusterRequest.rebalancePartitions nodes ∈ log → nodes.Nodup) :
    (∀ pre, pre <+: log → ∀ out out', Replay s pre out → Replay s pre out' → out = out') ↔
    (∀ pre nodes, pre ++ [.rebalancePartitions nodes] <+: log →
      ∀ s' resps, Replay s pre (some (s', resps)) → MovesWhole s'.partitionTable nodes) := by
  constructor
  · intro ha pre nodes hpr s' resps hp
    have hn : nodes.Nodup := hd nodes (hpr.subset (by simp))
    refine (rebalance_eq_iff hn).mp fun it it' hit hit' => ?_
    have hv : ∀ it, Lists it s'.partitionTable →
        Orders.Valid ⟨it, []⟩ s' (.rebalancePartitions nodes) := fun it h => ⟨h, rfl⟩
    have h₁ := hp.snoc (hv it hit) rfl; have h₂ := hp.snoc (hv it' hit') rfl; grind
  · intro hw pre hpr out out' h h'
    refine replay_unique (fun nodes hn => hd nodes (hpr.subset hn)) ?_ h h'
    intro pre' r hp' s' resps hp
    cases r with
    | rebalancePartitions nodes => exact hw pre' nodes (hp'.trans hpr) s' resps hp
    | _ => exact trivial

theorem replicas_agree_node_left :
    (∀ nodes, ClusterRequest.rebalancePartitions nodes ∈ [ClusterRequest.rebalancePartitions [1]] →
      nodes.Nodup) ∧
    ∀ pre, pre <+: [ClusterRequest.rebalancePartitions [1]] → ∀ out out',
      Replay { partitionTable := insertAll ∅ [(0, .owned 2), (1, .owned 2)] } pre out →
      Replay { partitionTable := insertAll ∅ [(0, .owned 2), (1, .owned 2)] } pre out' →
      out = out' := by
  refine ⟨by simp, (replicas_agree_iff _ _ (by simp)).mpr fun pre nodes hpr s' resps hp => ?_⟩
  obtain ⟨rfl, hn⟩ : pre = [] ∧ nodes = [1] := by
    cases pre with
    | nil => simpa using hpr
    | cons => simpa using hpr.length_le
  subst hn; cases hp
  have hl : Lists ([⟨0, .owned 2⟩, ⟨1, .owned 2⟩] : TableListing)
      (insertAll ∅ [(0, .owned 2), (1, .owned 2)]) := by decide
  exact movesWhole_of_listing hl (by decide)

def twoOnOne : ClusterSnapshot := { partitionTable := insertAll ∅ [(0, .owned 1), (1, .owned 1)] }

theorem replicas_disagree : ∃ out out', Replay twoOnOne [.rebalancePartitions [1, 2]] out ∧
    Replay twoOnOne [.rebalancePartitions [1, 2]] out' ∧ out ≠ out' := by
  refine ⟨_, _, .step (o := ⟨[⟨0, .owned 1⟩, ⟨1, .owned 1⟩], []⟩) (by decide) rfl (.nil _),
    .step (o := ⟨[⟨1, .owned 1⟩, ⟨0, .owned 1⟩], []⟩) (by decide) rfl (.nil _), ?_⟩
  simp only [Option.map_some, ne_eq, Option.some.injEq, Prod.mk.injEq, ClusterSnapshot.mk.injEq, and_true]
  decide

end Aeon.L4.Cluster
