import Mathlib.Data.List.Sort
import Aeon.L4Cluster.StateMachine

/-!
# The partitions a node's Kafka source reads

`PipelineSupervisor::start`, `KafkaSourceFactory::build` (`[0]` for no partition) and the ownership
watch. The wrapped source inherits the trait's no-op for `reassign_partitions` (`eo2.rs`).

* `reads_owned_iff`: sources read what the table gives iff it gives what it gave at the start;
* `reads_foreign_partition`: otherwise.
-/
namespace Aeon.L4.SourceAssignment

open Function List Option Aeon.Core Aeon.L4.Cluster

/-- mirrors traits.rs:145-170 -/
class Source (S : Type) where
  reassignPartitions : S → Except String Unit → List PartitionId →
    Except String Unit × S := fun s _ _ => (.ok (), s)
  brokerCoordinatedPartitions : S → Bool := fun _ => false

/-- mirrors crates/aeon-connectors/src/kafka/source.rs:145-160 -/
structure KafkaSource where
  group : Bool := false
  partitions : List Int
  assigned : List Int

def asI32 (partitions : List PartitionId) : List Int := partitions.map fun p => (p.toNat : Int)

/-- mirrors source.rs:373-422 -/
def KafkaSource.reassignPartitions (k : KafkaSource) (assign : Except String Unit)
    (partitions : List PartitionId) : Except String Unit × KafkaSource :=
  if k.group then
    (.error ("KafkaSource: reassign_partitions is not valid in ConsumerMode::Group — " ++
      "partition ownership is broker-coordinated"), k)
  else if (asI32 partitions).insertionSort (· ≤ ·) = k.partitions.insertionSort (· ≤ ·) then (.ok (), k)
  else
    match assign with
    | .error e => (.error ("kafka partition re-assign failed: " ++ e), k)
    | .ok () => (.ok (), { k with partitions := asI32 partitions, assigned := asI32 partitions })

instance : Source KafkaSource where
  reassignPartitions := KafkaSource.reassignPartitions
  brokerCoordinatedPartitions k := k.group

/-- mirrors connector_registry.rs:151-190 -/
structure BoxedSourceAdapter (S : Type) where
  inner : S

instance {S : Type} [Source S] : Source (BoxedSourceAdapter S) where
  reassignPartitions b assign partitions :=
    let (r, s) := Source.reassignPartitions b.inner assign partitions
    (r, ⟨s⟩)
  brokerCoordinatedPartitions b := Source.brokerCoordinatedPartitions b.inner

/-- mirrors eo2.rs:155-167 -/
structure L2WritingSource (S : Type) where
  inner : S

/-- mirrors eo2.rs:208-282 -/
instance {S : Type} [Source S] : Source (L2WritingSource S) where
  brokerCoordinatedPartitions w := Source.brokerCoordinatedPartitions w.inner

/-- mirrors eo2.rs:293-296 -/
inductive MaybeL2Wrapped (S : Type)
  | direct (s : S)
  | wrapped (w : L2WritingSource S)

/-- mirrors eo2.rs:334-396 -/
instance {S : Type} [Source S] : Source (MaybeL2Wrapped S) where
  brokerCoordinatedPartitions
    | .direct s => Source.brokerCoordinatedPartitions s
    | .wrapped w => Source.brokerCoordinatedPartitions w

/-- mirrors eo2.rs:302-318 -/
def MaybeL2Wrapped.wrap {S : Type} (s : S) (l2 : Bool) : MaybeL2Wrapped S :=
  if l2 then .wrapped ⟨s⟩ else .direct s

def MaybeL2Wrapped.inner {S : Type} : MaybeL2Wrapped S → S
  | .direct s => s
  | .wrapped w => w.inner

/-- mirrors connectors.rs:143-160 -/
def kafkaPartitions (partitions : List PartitionId) : List Int :=
  if partitions = [] then [0] else asI32 partitions

structure Watch where
  value : List PartitionId := []
  version : Nat := 0

def Watch.send (w : Watch) (value : List PartitionId) : Watch := ⟨value, w.version + 1⟩

/-- mirrors store.rs:283-298 -/
def Watch.sendIfModified (w : Watch) (value : List PartitionId) : Watch :=
  if w.value = value then w else w.send value

structure Relay where
  seenUpstream : Nat := 0
  channel : Watch
  seen : Nat

structure Running where
  source : MaybeL2Wrapped (BoxedSourceAdapter KafkaSource)
  relay : Option Relay
  atStart : Option PartitionTable

inductive Pipeline
  | stopped
  | resolved (partitions : List PartitionId) (atStart : Option PartitionTable)
  | built (source : KafkaSource) (atStart : Option PartitionTable)
  | running (r : Running)

def Pipeline.runs : Pipeline → Option Running
  | .running r => some r
  | _ => none

structure Node where
  cluster : ClusterSnapshot := {}
  published : Bool := true
  watch : Watch := {}
  resolver : Bool := false
  pipeline : Pipeline := .stopped

inductive NodeLbl
  | apply (o : Orders) (r : ClusterRequest)
  | installSnapshot (c : ClusterSnapshot)
  | broadcast (it : TableListing)
  | installResolver
  | start (it : TableListing)
  | build (assign : Except String Unit)
  | subscribe (l2 : Bool)
  | relay
  | poll (assign : Except String Unit)
  | stop

def Node.setPipeline (s : Node) (pipeline : Pipeline) : Node := { s with pipeline := pipeline }

def Node.step (n : NodeId) (s : Node) : NodeLbl → Option Node
  | .apply o r =>
    if s.published ∧ o.Valid s.cluster r then
      (applyRequest o s.cluster r).map fun (c, _) => { s with cluster := c, published := false }
    else none
  | .installSnapshot c => if s.published then some { s with cluster := c, published := false } else none
  | .broadcast it =>
    if s.published = false ∧ Lists it s.cluster.partitionTable then
      let owned := (partitionsForNode it n).insertionSort (· ≤ ·)
      some { s with watch := s.watch.sendIfModified owned, published := true }
    else none
  | .installResolver => if s.resolver then none else some { s with resolver := true }
  | .start it =>
    match s.pipeline with
    | .stopped =>
      if s.resolver then
        if Lists it s.cluster.partitionTable then
          some (s.setPipeline (.resolved (partitionsForNode it n) (some s.cluster.partitionTable)))
        else none
      else some (s.setPipeline (.resolved [] none))
    | _ => none
  | .build assign =>
    match s.pipeline, assign with
    | .resolved _ _, .error _ => some (s.setPipeline .stopped)
    | .resolved partitions t, .ok () =>
      let ps := kafkaPartitions partitions
      some (s.setPipeline (.built { partitions := ps, assigned := ps } t))
    | _, _ => none
  | .subscribe l2 =>
    match s.pipeline with
    | .built k t =>
      let relay : Option Relay :=
        if s.resolver then some { channel := ⟨s.watch.value, 0⟩, seen := 0 } else none
      if relay.isSome ∧ Source.brokerCoordinatedPartitions k then some (s.setPipeline .stopped)
      else some (s.setPipeline (.running ⟨.wrap ⟨k⟩ l2, relay, t⟩))
    | _ => none
  | .relay =>
    match s.pipeline with
    | .running ⟨k, some r, t⟩ =>
      if r.seenUpstream < s.watch.version then
        let r := { r with seenUpstream := s.watch.version, channel := r.channel.send s.watch.value }
        some (s.setPipeline (.running ⟨k, some r, t⟩))
      else none
    | _ => none
  | .poll assign =>
    match s.pipeline with
    | .running ⟨k, some r, t⟩ =>
      if r.seen < r.channel.version then
        match Source.reassignPartitions k assign r.channel.value with
        | (.error _, _) => some (s.setPipeline .stopped)
        | (.ok (), k) =>
          let r := { r with seen := r.channel.version }
          some (s.setPipeline (.running ⟨k, some r, t⟩))
      else none
    | _ => none
  | .stop => some (s.setPipeline .stopped)

abbrev St := NodeId → Node

def step (s : St) (l : NodeId × NodeLbl) : Option St := ((s l.1).step l.1 l.2).map (update s l.1)

def machine : LTS St (NodeId × NodeLbl) := .ofFn (fun s => ∀ n, (s n).pipeline = .stopped) step

def Gives (t : PartitionTable) (n : NodeId) (p : PartitionId) : Prop :=
  ∃ o, t.lookup p = some o ∧ o.activeNode = n

def Running.Settled (t : PartitionTable) (a : Node) (r : Running) : Prop :=
  a.cluster.partitionTable = t ∧ a.published = true ∧
    ∀ relay ∈ r.relay, relay.seenUpstream = a.watch.version ∧ relay.seen = relay.channel.version
  deriving Decidable

def Settled (t : PartitionTable) (s : St) : Prop := ∀ n, ∀ r ∈ (s n).pipeline.runs, r.Settled t (s n)

def assigned (s : St) (n : NodeId) : Option (List Int) :=
  (s n).pipeline.runs.map fun r => r.source.inner.inner.assigned

structure ReadsOwned (t : PartitionTable) (s : St) : Prop where
  exact : ∀ n ps, assigned s n = some ps → ∀ z, z ∈ ps ↔ ∃ p, Gives t n p ∧ z = (p.toNat : Int)
  once : ∀ n n' ps ps' z, assigned s n = some ps → assigned s n' = some ps' → z ∈ ps → z ∈ ps' → n = n'
  all : ∀ n ps p, assigned s n = some ps → Gives t n p → (p.toNat : Int) ∈ ps

def GaveAtStart (n : NodeId) (atStart : Option PartitionTable) (p : PartitionId) : Prop :=
  ∃ t, atStart = some t ∧ Gives t n p

def FirstAssigned (n : NodeId) (atStart : Option PartitionTable) (p : PartitionId) : Prop :=
  GaveAtStart n atStart p ∨ (∀ q, ¬ GaveAtStart n atStart q) ∧ p = 0

def Unchanged (t : PartitionTable) (s : St) : Prop :=
  ∀ n, ∀ r ∈ (s n).pipeline.runs, ∀ p, Gives t n p ↔ FirstAssigned n r.atStart p

section Proofs

variable {s s' : St} {t : PartitionTable} {n : NodeId} {p : PartitionId}

lemma mem_partitionsForNode_iff_gives (h : Lists it t) : p ∈ partitionsForNode it n ↔ Gives t n p :=
  mem_partitionsForNode.trans (exists_congr fun _ => and_congr_left' h.mem_iff)

def BuiltFrom (n : NodeId) (atStart : Option PartitionTable) (ps : List Int) : Prop :=
  ∀ z, z ∈ ps ↔ ∃ p, FirstAssigned n atStart p ∧ z = (p.toNat : Int)

lemma builtFrom_kafkaPartitions {atStart : Option PartitionTable}
    (h : ∀ p, p ∈ ps ↔ GaveAtStart n atStart p) : BuiltFrom n atStart (kafkaPartitions ps) := by
  intro z; unfold kafkaPartitions; split_ifs with hni
  · subst hni
    have hn : ∀ q, ¬ GaveAtStart n atStart q := fun q hq => not_mem_nil ((h q).mpr hq)
    rw [mem_singleton]; constructor
    · rintro rfl; exact ⟨0, .inr ⟨hn, rfl⟩, rfl⟩
    · rintro ⟨p, hp | ⟨-, rfl⟩, rfl⟩
      · exact absurd hp (hn p)
      · rfl
  · obtain ⟨q, hq⟩ := exists_mem_of_ne_nil ps hni; rw [asI32, List.mem_map]
    constructor
    · rintro ⟨p, hp, rfl⟩; exact ⟨p, .inl ((h p).mp hp), rfl⟩
    · rintro ⟨p, hp | ⟨hn, -⟩, rfl⟩
      · exact ⟨p, (h p).mpr hp, rfl⟩
      grind

def PipelineInv (n : NodeId) : Pipeline → Prop
  | .stopped => True
  | .resolved ps atStart => ∀ p, p ∈ ps ↔ GaveAtStart n atStart p
  | .built k atStart => k.group = false ∧ BuiltFrom n atStart k.assigned
  | .running r => BuiltFrom n r.atStart r.source.inner.inner.assigned

lemma inner_wrap (s : S) (l2 : Bool) : (MaybeL2Wrapped.wrap s l2).inner = s := by cases l2 <;> rfl

lemma reassign_wrapped (k : MaybeL2Wrapped (BoxedSourceAdapter KafkaSource)) (assign : Except String Unit)
    (ps : List PartitionId) :
    Source.reassignPartitions k assign ps = (.ok (), k) := rfl

lemma PipelineInv.step {a b : Node} {l : NodeLbl} (h : PipelineInv n a.pipeline) (hs : a.step n l = some b) :
    PipelineInv n b.pipeline := by
  cases l with simp only [Node.step] at hs
  | apply o r =>
    obtain ⟨-, hs⟩ := ite_none_right_eq_some.mp hs
    obtain ⟨c, -, rfl⟩ := map_eq_some_iff.mp hs; exact h
  | installSnapshot | broadcast | installResolver => grind
  | start it =>
    cases hp : a.pipeline with simp only [hp, reduceCtorEq] at hs
    | stopped =>
      split_ifs at hs with hr hit <;> cases hs <;> intro p
      · rw [mem_partitionsForNode_iff_gives hit]
        exact ⟨fun hg => ⟨_, rfl, hg⟩, fun ⟨t, ht, hg⟩ => by cases ht; exact hg⟩
      · exact ⟨fun hm => absurd hm not_mem_nil, fun ⟨t, ht, _⟩ => by cases ht⟩
  | build assign =>
    cases hp : a.pipeline with simp only [hp, reduceCtorEq] at hs
    | resolved ps atStart =>
      rw [hp] at h; cases assign <;> cases hs
      · trivial
      · exact ⟨rfl, builtFrom_kafkaPartitions h⟩
  | subscribe l2 =>
    cases hp : a.pipeline with simp only [hp, reduceCtorEq] at hs
    | built k atStart =>
      rw [hp] at h
      have hsi : ¬ Source.brokerCoordinatedPartitions k = true := by
        have hgr : Source.brokerCoordinatedPartitions k = k.group := rfl; simp [hgr, h.1]
      grind [Node.setPipeline, PipelineInv, inner_wrap]
  | relay | poll assign =>
    cases hp : a.pipeline with simp only [hp, reduceCtorEq] at hs
    | running r =>
      rw [hp] at h
      obtain ⟨k, _ | r, atStart⟩ := r <;>
        simp only [reduceCtorEq, reassign_wrapped, ite_none_right_eq_some, Option.some.injEq] at hs
      obtain ⟨-, rfl⟩ := hs; exact h
  | stop => cases hs; trivial

lemma pipelineInv_reachable (h : machine.Reachable s) : ∀ n, PipelineInv n (s n).pipeline := by
  refine LTS.Inductive.reachable (I := fun s => ∀ n, PipelineInv n (s n).pipeline) ⟨?_, ?_⟩ h
  · intro s hs n; rw [hs n]; trivial
  · intro s l s' hI hst n; obtain ⟨b, hb, rfl⟩ := map_eq_some_iff.mp hst
    by_cases hn : n = l.1
    · subst hn; rw [update_self]; exact (hI l.1).step hb
    grind

lemma toNat_inj (h : (p.toNat : Int) = q.toNat) : p = q := UInt16.toNat_inj.mp (by exact_mod_cast h)

lemma readsOwned_of_exact (h : ∀ n ps, assigned s n = some ps →
    ∀ z, z ∈ ps ↔ ∃ p, Gives t n p ∧ z = (p.toNat : Int)) : ReadsOwned t s where
  exact := h
  once n n' ps ps' z hps hps' hz hz' := by
    obtain ⟨p, ⟨o, ho, rfl⟩, rfl⟩ := (h n ps hps z).mp hz
    obtain ⟨p', ⟨o', ho', rfl⟩, heq⟩ := (h n' ps' hps' _).mp hz'
    obtain rfl := toNat_inj heq; rw [Option.some.inj (ho.symm.trans ho')]
  all n ps p hps hg := (h n ps hps _).mpr ⟨p, hg, rfl⟩

theorem reads_owned_iff (h : machine.Reachable s) (t : PartitionTable) : ReadsOwned t s ↔ Unchanged t s := by
  have hb : ∀ n, ∀ r ∈ (s n).pipeline.runs, BuiltFrom n r.atStart r.source.inner.inner.assigned := by
    intro n r hr; have hi := pipelineInv_reachable h n
    cases hp : (s n).pipeline with
    | running r' => rw [hp] at hr hi; obtain rfl : r' = r := Option.some.inj hr; exact hi
    | _ => rw [hp] at hr; cases hr
  constructor
  · intro hr n r hru p
    have ha : assigned s n = some r.source.inner.inner.assigned := by rw [assigned, mem_def.mp hru]; rfl
    have he := hr.exact n _ ha (p.toNat : Int); rw [hb n r hru (p.toNat : Int)] at he
    constructor
    · intro hg; obtain ⟨q, hq, heq⟩ := he.mpr ⟨p, hg, rfl⟩; rw [toNat_inj heq]
      exact hq
    · intro hf; obtain ⟨q, hq, heq⟩ := he.mp ⟨p, hf, rfl⟩; rw [toNat_inj heq]
      exact hq
  · intro hu; refine readsOwned_of_exact fun n ps hps z => ?_
    obtain ⟨r, hru, rfl⟩ := map_eq_some_iff.mp hps; rw [hb n r hru z]
    exact exists_congr fun p => and_congr_left fun _ => (hu n r hru p).symm

lemma exec_other (h : LTS.exec step s ls = some s') (hn : ∀ l ∈ ls, l.1 ≠ n) : s' n = s n := by
  induction ls generalizing s with
  | nil => rw [← Option.some.inj h]
  | cons =>
    obtain ⟨u, hu, hr⟩ := bind_eq_some_iff.mp h
    obtain ⟨b, -, rfl⟩ := map_eq_some_iff.mp hu; grind

end Proofs

def idle : St := fun _ => {}

def startOn (n : NodeId) (it : TableListing) (l2 : Bool) : List (NodeId × NodeLbl) :=
  [(n, .installResolver), (n, .start it), (n, .build (.ok ())), (n, .subscribe l2)]

def applyOn (n : NodeId) (r : ClusterRequest) (before after : TableListing) : List (NodeId × NodeLbl) :=
  [(n, .apply ⟨before, []⟩ r), (n, .broadcast after)]

def follow (n : NodeId) : List (NodeId × NodeLbl) := [(n, .relay), (n, .poll (.ok ()))]

def idleNode : List (NodeId × NodeLbl) :=
  applyOn 1 (.assignPartition 0 1) [] [⟨0, .owned 1⟩] ++
  applyOn 2 (.assignPartition 0 1) [] [⟨0, .owned 1⟩] ++
  startOn 1 [⟨0, .owned 1⟩] false ++ follow 1 ++ startOn 2 [⟨0, .owned 1⟩] false

def ownedByOne : PartitionTable := (∅ : PartitionTable).insert 0 (.owned 1)

def moved : List (NodeId × NodeLbl) :=
  let two : TableListing := [⟨0, .owned 1⟩, ⟨1, .owned 2⟩]
  let one : TableListing := [⟨0, .owned 1⟩, ⟨1, .owned 1⟩]
  applyOn 1 (.initialAssignment 2 [1, 2]) [] two ++ applyOn 2 (.initialAssignment 2 [1, 2]) [] two ++
  startOn 1 two true ++ follow 1 ++ startOn 2 two true ++ follow 2 ++
  applyOn 1 (.assignPartition 1 1) two one ++ applyOn 2 (.assignPartition 1 1) two one ++
  follow 1 ++ follow 2

def bothByOne : PartitionTable := ((∅ : PartitionTable).insert 0 (.owned 1)).insert 1 (.owned 1)

def assignedNow (t : PartitionTable) (s : St) : Option (List Int) × Option (List Int) × Bool :=
  (assigned s 1, assigned s 2,
    [1, 2].all fun n => (s n).pipeline.runs.all fun r => decide (r.Settled t (s n)))

lemma settled_of_view (h : LTS.exec step idle ls = some s) (hls : ∀ l ∈ ls, l.1 = 1 ∨ l.1 = 2)
    (hv : (assignedNow t s).2.2 = true) : Settled t s := by
  intro n r hr; by_cases hn : n = 1 ∨ n = 2
  · have ha := List.all_eq_true.mp hv n (by simpa using hn); simp_all
  · have ho : s n = idle n := by refine exec_other h fun l hl heq => hn ?_; grind
    rw [ho] at hr; cases hr

lemma machine_init : machine.init idle := fun _ => rfl

theorem reads_foreign_partition : (∃ s, machine.Reachable s ∧ Settled ownedByOne s ∧ assigned s 1 = some [0] ∧
      assigned s 2 = some [0] ∧ ¬ ReadsOwned ownedByOne s) ∧
    ∃ s, machine.Reachable s ∧ Settled bothByOne s ∧ assigned s 1 = some [0] ∧
      assigned s 2 = some [1] ∧ ¬ ReadsOwned bothByOne s := by
  have h₁ : (LTS.exec step idle idleNode).map (assignedNow ownedByOne) = some (some [0], some [0], true) := by
    decide +kernel
  have h₂ : (LTS.exec step idle moved).map (assignedNow bothByOne) = some (some [0], some [1], true) := by
    decide +kernel
  obtain ⟨s₁, hs₁, hv₁⟩ := map_eq_some_iff.mp h₁
  obtain ⟨s₂, hs₂, hv₂⟩ := map_eq_some_iff.mp h₂
  have ho₁ : assigned s₁ 1 = some [0] := congrArg Prod.fst hv₁
  have ht₁ : assigned s₁ 2 = some [0] := congrArg (fun v => v.2.1) hv₁
  have ho₂ : assigned s₂ 1 = some [0] := congrArg Prod.fst hv₂
  have ht₂ : assigned s₂ 2 = some [1] := congrArg (fun v => v.2.1) hv₂
  refine ⟨⟨s₁, ⟨idle, idleNode, machine_init, LTS.run_of_exec hs₁⟩, ?_, ho₁, ht₁, fun hr => ?_⟩,
    s₂, ⟨idle, moved, machine_init, LTS.run_of_exec hs₂⟩, ?_, ho₂, ht₂, fun hr => ?_⟩
  · exact settled_of_view hs₁ (by decide) (congrArg (fun v => v.2.2) hv₁)
  · have hs := hr.once 1 2 _ _ 0 ho₁ ht₁ mem_cons_self mem_cons_self
    exact absurd hs (by decide)
  · exact settled_of_view hs₂ (by decide) (congrArg (fun v => v.2.2) hv₂)
  · have hm := hr.all 1 _ 1 ho₂ ⟨.owned 1, by decide +kernel, rfl⟩; grind

def steady : List (NodeId × NodeLbl) :=
  let two : TableListing := [⟨0, .owned 1⟩, ⟨1, .owned 2⟩]
  applyOn 1 (.initialAssignment 2 [1, 2]) [] two ++ applyOn 2 (.initialAssignment 2 [1, 2]) [] two ++
  startOn 1 two true ++ follow 1 ++ startOn 2 two true ++ follow 2

def oneEach : PartitionTable := ((∅ : PartitionTable).insert 0 (.owned 1)).insert 1 (.owned 2)

theorem reads_owned_steady :
    ∃ s, machine.Reachable s ∧ Settled oneEach s ∧ assigned s 1 = some [0] ∧ assigned s 2 = some [1] ∧
      ReadsOwned oneEach s := by
  have h : (LTS.exec step idle steady).map (fun s => (assignedNow oneEach s, [1, 2].all fun n =>
      (s n).pipeline.runs.all fun r => decide (r.atStart = some oneEach))) =
      some ((some [0], some [1], true), true) := by decide +kernel
  obtain ⟨s, hs, hv⟩ := map_eq_some_iff.mp h
  have hre : machine.Reachable s := ⟨idle, steady, machine_init, LTS.run_of_exec hs⟩
  refine ⟨s, hre, settled_of_view hs (by decide) (congrArg (fun v => v.1.2.2) hv),
    congrArg (fun v => v.1.1) hv, congrArg (fun v => v.1.2.1) hv, ?_⟩
  refine (reads_owned_iff hre oneEach).mpr fun n r hr p => ?_
  have hn : n = 1 ∨ n = 2 := by
    by_contra hn
    have ho : s n = idle n :=
      exec_other hs fun l hl heq => hn (heq ▸ (by decide : ∀ l ∈ steady, l.1 = 1 ∨ l.1 = 2) l hl)
    rw [ho] at hr; cases hr
  have hat : r.atStart = some oneEach := by
    have ha := List.all_eq_true.mp (congrArg Prod.snd hv) n (by simpa using hn)
    rw [mem_def.mp hr] at ha; exact of_decide_eq_true ha
  have how : ∃ q, Gives oneEach n q := by
    rcases hn with rfl | rfl
    · exact ⟨0, .owned 1, by decide +kernel, rfl⟩
    · exact ⟨1, .owned 2, by decide +kernel, rfl⟩
  obtain ⟨q, hq⟩ := how; constructor
  · exact fun hg => .inl ⟨oneEach, hat, hg⟩
  · rintro (⟨t, ht, hg⟩ | ⟨hno, -⟩)
    · rw [Option.some.inj (hat.symm.trans ht)]; exact hg
    · exact absurd ⟨oneEach, hat, hq⟩ (hno q)

end Aeon.L4.SourceAssignment
