import Aeon.L4Cluster.StateMachine

/-!
# The ownership protocol of a partition

`apply_request` (`crates/aeon-cluster/src/store.rs`) guards `BeginTransfer` and `CompleteTransfer`;
`AssignPartition`, `AbortTransfer` and rebalance moves are unconditional. `StepOk` is the protocol
for one request.

* `ownership_protocol_iff`: every run keeps it iff every request is `Allowed` where it is applied;
* `ownership_protocol_broken`: a late abort.
-/
namespace Aeon.L4.Cluster

open Finmap Aeon.Core

def machine : LTS ClusterSnapshot ClusterRequest where
  init s := s = {}
  step s r s' := ∃ o resp, Orders.Valid o s r ∧ applyRequest o s r = some (s', resp)

def ClusterRequest.Assigns (p : PartitionId) : ClusterRequest → Prop
  | .assignPartition q _ => q = p
  | .rebalancePartitions _ => True
  | .initialAssignment _ _ => True
  | _ => False

structure StepOk (t : PartitionTable) (r : ClusterRequest) (t' : PartitionTable) : Prop where
  transferring : ∀ p source target, t.lookup p = some (.transferring source target) →
    t'.lookup p = some (.transferring source target) ∨
    r = .completeTransfer p target ∧ t'.lookup p = some (.owned target) ∨
    r = .abortTransfer p source ∧ t'.lookup p = some (.owned source)
  abort : ∀ p n q revertTo, t.lookup p = some (.owned n) → r = .abortTransfer q revertTo →
    t'.lookup p = some (.owned n)
  owner : ∀ p o o', t.lookup p = some o → t'.lookup p = some o' → o'.activeNode ≠ o.activeNode →
    r.Assigns p ∧ o.isTransferring = false ∨
    ∃ source target, r = .completeTransfer p target ∧ o = .transferring source target

def Allowed (t : PartitionTable) : ClusterRequest → Prop
  | .assignPartition p _ => ∀ o, t.lookup p = some o → o.isTransferring = false
  | .abortTransfer p revertTo => ∀ o, t.lookup p = some o → o.activeNode = revertTo
  | .rebalancePartitions nodes => nodes = [] ∨
    ∀ p source tgt, t.lookup p = some (.transferring source tgt) → source ∈ nodes ∧
      ∀ it, Lists it t → partitionCount it source ≤ target it nodes source
  | _ => True

lemma StepOk.refl (t : PartitionTable) (r : ClusterRequest) : StepOk t r t where
  transferring _ _ _ h := .inl h
  abort _ _ _ _ h _ := h
  owner p o o' h h' hne := absurd (by rw [h] at h'; cases h'; rfl) hne

lemma StepOk.insert {new : PartitionOwnership}
    (htr : ∀ source target, t.lookup p = some (.transferring source target) →
      r = .completeTransfer p target ∧ new = .owned target ∨
      r = .abortTransfer p source ∧ new = .owned source)
    (hab : ∀ n q revertTo, t.lookup p = some (.owned n) → r = .abortTransfer q revertTo → new = .owned n)
    (ho : ∀ o, t.lookup p = some o → new.activeNode ≠ o.activeNode → r.Assigns p ∧ o.isTransferring = false ∨
      ∃ source target, r = .completeTransfer p target ∧ o = .transferring source target) :
    StepOk t r (t.insert p new) where
  transferring q source target h := by
    by_cases hq : q = p
    · subst hq; rw [lookup_insert]
      rcases htr source target h with ⟨hr, rfl⟩ | ⟨hr, rfl⟩
      · exact .inr (.inl ⟨hr, rfl⟩)
      · exact .inr (.inr ⟨hr, rfl⟩)
    · rw [lookup_insert_of_ne t hq]; exact .inl h
  abort q n q' revertTo h hr := by
    by_cases hq : q = p
    · subst hq; rw [lookup_insert, hab n q' revertTo h hr]
    · rwa [lookup_insert_of_ne t hq]
  owner q o o' h h' hne := by
    by_cases hq : q = p
    · subst hq; rw [lookup_insert] at h'; cases h'
      exact ho o h hne
    · rw [lookup_insert_of_ne t hq, h] at h'; cases h'; exact absurd rfl hne

lemma StepOk.rebalance {nodes : List NodeId} (h : Lists it t) (ha : Allowed t (.rebalancePartitions nodes)) :
    StepOk t (.rebalancePartitions nodes) (rebalance it t nodes) := by
  rcases ha with rfl | ha
  · have hid : Cluster.rebalance it t [] = t := by rfl
    rw [hid]; exact StepOk.refl t _
  have hk : ∀ p source tgt, t.lookup p = some (.transferring source tgt) →
      (Cluster.rebalance it t nodes).lookup p = some (.transferring source tgt) := by
    intro p source tgt hp; rw [← hp]; refine lookup_rebalance_of_notMem fun hm => ?_
    obtain ⟨o, ho, hov⟩ := mem_hands h hm; rw [hp] at ho; cases ho
    obtain ⟨hin, hle⟩ := ha p source tgt hp; have hlt := hov hin; have hle := hle it h
    simp only [PartitionOwnership.activeNode] at hlt; omega
  exact {
    transferring := fun p source tgt hp => .inl (hk p source tgt hp)
    abort := fun _ _ _ _ _ hr => by cases hr
    owner := fun p o o' hp hp' hne => by
      cases o with
      | owned => exact .inl ⟨trivial, rfl⟩
      | transferring source tgt => rw [hk p source tgt hp] at hp'; cases hp'; exact absurd rfl hne }

lemma stepOk_of_allowed (ha : Allowed s.partitionTable r) (h : machine.step s r s') :
    StepOk s.partitionTable r s'.partitionTable := by
  obtain ⟨o, resp, hv, hap⟩ := h
  cases r with
  | assignPartition =>
    cases hap
    refine StepOk.insert (fun source tgt hp => ?_) (fun _ _ _ _ hr => by cases hr)
      (fun o hp _ => .inl ⟨rfl, ha o hp⟩)
    exact absurd (ha _ hp) (by simp [PartitionOwnership.isTransferring])
  | beginTransfer p source target | completeTransfer p newOwner =>
    simp only [applyRequest] at hap; split at hap
    · rename_i hp
      split at hap
      · rename_i how
        subst how; cases hap
        exact StepOk.insert (fun _ _ hp' => by grind) (fun _ _ _ _ hr => by cases hr)
          (fun o ho _ => by grind [PartitionOwnership.activeNode, ClusterRequest.Assigns])
      · cases hap; exact StepOk.refl _ _
    · (try split at hap) <;> cases hap <;> exact StepOk.refl _ _
    · cases hap; exact StepOk.refl _ _
  | abortTransfer p revertTo =>
    cases hap
    refine StepOk.insert (fun source tgt hp => ?_) (fun n q revert hp hr => ?_)
      (fun o hp hne => absurd (ha o hp).symm hne)
    · obtain rfl : source = revertTo := ha _ hp; exact .inr ⟨rfl, rfl⟩
    · obtain rfl : n = revertTo := ha _ hp; rfl
  | updateConfig | submitCheckpoint | registry => cases hap; exact StepOk.refl _ _
  | rebalancePartitions nodes => cases hap; exact StepOk.rebalance hv.1 ha
  | initialAssignment n nodes =>
    simp only [applyRequest] at hap; split at hap
    · cases hap; exact StepOk.refl _ _
    · -- the table is empty: there is no partition to speak of
      have he : ∀ p o, s.partitionTable.lookup p ≠ some o := fun p o' hp => by
        have hm := hv.1.mem_iff.mpr hp; grind
      exact ⟨fun p _ _ hp => absurd hp (he p _), fun p _ _ _ hp => absurd hp (he p _), fun p _ _ hp =>
        absurd hp (he p _)⟩

lemma allowed_of_stepOk (hd : ∀ nodes, r = .rebalancePartitions nodes → nodes.Nodup)
    (h : ∀ s', machine.step s r s' → StepOk s.partitionTable r s'.partitionTable) :
    Allowed s.partitionTable r := by
  obtain ⟨o, hv⟩ := Orders.exists_valid s r
  have htr {s' p source tgt u} (hs : machine.step s r s')
    (hp : s.partitionTable.lookup p = some (.transferring source tgt))
      (hu : s'.partitionTable.lookup p = some (.owned u)) :
      r = .completeTransfer p tgt ∨ r = .abortTransfer p source := by
    rcases (h s' hs).transferring p source tgt hp with h' | ⟨hr, -⟩ | ⟨hr, -⟩
    · rw [hu] at h'; cases h'
    · exact .inl hr
    · exact .inr hr
  cases r with
  | assignPartition =>
    intro own hp
    cases own with
    | owned => rfl
    | transferring => rcases htr ⟨o, _, hv, rfl⟩ hp (lookup_insert _) with hr | hr <;> cases hr
  | abortTransfer p revertTo =>
    have hok := h _ ⟨o, _, hv, rfl⟩; intro own hp
    cases own with
    | owned n => cases (hok.abort p n p revertTo hp rfl).symm.trans (lookup_insert _); rfl
    | transferring =>
      rcases htr ⟨o, _, hv, rfl⟩ hp (lookup_insert _) with hr | hr <;> cases hr; rfl
  | rebalancePartitions nodes =>
    by_cases hne : nodes = []
    · exact .inl hne
    have hn := hd nodes rfl
    have hm : ∀ it, Lists it s.partitionTable → ∀ p source tgt u,
        s.partitionTable.lookup p = some (.transferring source tgt) →
        (rebalance it s.partitionTable nodes).lookup p ≠ some (.owned u) := by
      intro it hit p source tgt u hp hu
      rcases htr ⟨⟨it, []⟩, _, ⟨hit, rfl⟩, rfl⟩ hp hu with hr | hr <;> cases hr
    refine .inr fun p source tgt hp => ?_
    have hin : source ∈ nodes := by
      by_contra hou; obtain ⟨u, hu⟩ := lookup_rebalance_orphan hv.1 hn hne hp hou
      exact hm _ hv.1 p source tgt u hp hu
    refine ⟨hin, fun it hit => ?_⟩; by_contra ho
    obtain ⟨it', hit', u, hu⟩ := exists_listing_moved hit hn hne hp hin (by
      simpa [PartitionOwnership.activeNode] using ho)
    exact hm _ hit' p source tgt u hp hu
  | _ => exact trivial

theorem ownership_protocol_iff (s : ClusterSnapshot) (log : List ClusterRequest)
    (hd : ∀ nodes, ClusterRequest.rebalancePartitions nodes ∈ log → nodes.Nodup) :
    (∀ pre r, pre ++ [r] <+: log → ∀ s₁ s₂, machine.Run s pre s₁ → machine.step s₁ r s₂ →
      StepOk s₁.partitionTable r s₂.partitionTable) ↔
    (∀ pre r, pre ++ [r] <+: log → ∀ s₁, machine.Run s pre s₁ → Allowed s₁.partitionTable r) := by
  constructor
  · intro hok pre r hp s₁ hru
    refine allowed_of_stepOk (fun nodes hr => ?_) fun s₂ hs => hok pre r hp s₁ s₂ hru hs
    subst hr; exact hd nodes (hp.subset (by simp))
  · intro ha pre r hp s₁ s₂ hru hs; exact stepOk_of_allowed (ha pre r hp s₁ hru) hs

lemma allowed_cons {s : ClusterSnapshot} {q : ClusterRequest} {log : List ClusterRequest}
    (ha : Allowed s.partitionTable q)
    (hl : ∀ s', machine.step s q s' →
      ∀ pre r, pre ++ [r] <+: log → ∀ s₁, machine.Run s' pre s₁ → Allowed s₁.partitionTable r)
    (pre : List ClusterRequest) (r : ClusterRequest) (hp : pre ++ [r] <+: q :: log) (s₁ : ClusterSnapshot)
    (hr : machine.Run s pre s₁) : Allowed s₁.partitionTable r := by
  cases hr with
  | nil => rw [List.nil_append, List.cons_prefix_cons] at hp; exact hp.1 ▸ ha
  | cons hs hr => rw [List.cons_append, List.cons_prefix_cons] at hp; exact hl _ (hp.1 ▸ hs) _ r hp.2 s₁ hr

def transfers : List ClusterRequest := [.assignPartition 0 1, .assignPartition 1 1, .beginTransfer 0 1 2,
  .beginTransfer 1 1 2, .completeTransfer 0 2, .abortTransfer 1 1]

theorem ownership_protocol_transfers : (∀ nodes, ClusterRequest.rebalancePartitions nodes ∉ transfers) ∧
    (∃ s, machine.Run {} transfers s ∧ s.partitionTable.lookup 0 = some (.owned 2) ∧
      s.partitionTable.lookup 1 = some (.owned 1)) ∧
    ∀ pre r, pre ++ [r] <+: transfers →
      ∀ s₁ s₂, machine.Run {} pre s₁ → machine.step s₁ r s₂ →
      StepOk s₁.partitionTable r s₂.partitionTable := by
  have hn : ∀ nodes, ClusterRequest.rebalancePartitions nodes ∉ transfers := by simp [transfers]
  have hr : machine.Run {} transfers _ := .cons ⟨⟨[], []⟩, _, by decide, rfl⟩ <|
    .cons ⟨⟨[⟨0, .owned 1⟩], []⟩, _, by decide, rfl⟩ <|
    .cons ⟨⟨[⟨0, .owned 1⟩, ⟨1, .owned 1⟩], []⟩, _, by decide, rfl⟩ <|
    .cons ⟨⟨[⟨0, .transferring 1 2⟩, ⟨1, .owned 1⟩], []⟩, _, by decide, rfl⟩ <|
    .cons ⟨⟨[⟨0, .transferring 1 2⟩, ⟨1, .transferring 1 2⟩], []⟩, _, by decide, rfl⟩ <|
    .cons ⟨⟨[⟨0, .owned 2⟩, ⟨1, .transferring 1 2⟩], []⟩, _, by decide, rfl⟩ <| .nil _
  refine ⟨hn, ⟨_, hr, by decide, by decide⟩,
    (ownership_protocol_iff {} _ fun nodes h => (hn nodes h).elim).mpr ?_⟩
  refine allowed_cons ?_ ?_
  · intro o ho; cases ho
  rintro _ ⟨o, _, -, ⟨⟩⟩; refine allowed_cons ?_ ?_
  · intro o ho; cases ho
  rintro _ ⟨o, _, -, ⟨⟩⟩; refine allowed_cons trivial ?_
  rintro _ ⟨o, _, -, ⟨⟩⟩; refine allowed_cons trivial ?_
  rintro _ ⟨o, _, -, ⟨⟩⟩; refine allowed_cons trivial ?_
  rintro _ ⟨o, _, -, ⟨⟩⟩; refine allowed_cons ?_ ?_
  · intro o ho; cases ho; rfl
  rintro _ ⟨o, _, -, ⟨⟩⟩ pre r hp; simp at hp

theorem ownership_protocol_broken : ∃ s₁ s₂,
    machine.Run {} [.assignPartition 0 1, .beginTransfer 0 1 2, .completeTransfer 0 2] s₁ ∧
    s₁.partitionTable.lookup 0 = some (.owned 2) ∧
    machine.step s₁ (.abortTransfer 0 1) s₂ ∧ s₂.partitionTable.lookup 0 = some (.owned 1) ∧
    ¬ StepOk s₁.partitionTable (.abortTransfer 0 1) s₂.partitionTable := by
  refine ⟨_, _, .cons ⟨⟨[], []⟩, _, by decide, rfl⟩ (.cons ⟨⟨[⟨0, .owned 1⟩], []⟩, _, by decide, rfl⟩
    (.cons ⟨⟨[⟨0, .transferring 1 2⟩], []⟩, _, by decide, rfl⟩ (.nil _))), by decide,
    ⟨⟨[⟨0, .owned 2⟩], []⟩, _, by decide, rfl⟩, by decide, fun hok => ?_⟩
  have h := hok.abort 0 2 0 1 (by decide) rfl; revert h; decide

end Aeon.L4.Cluster
