import Aeon.Core.HashMap
import Aeon.Core.LTS
import Aeon.L1Types.Event
import Mathlib.Algebra.Ring.Int.Defs
import Mathlib.Data.List.Perm.Basic

/-!
# Byte accounting of the L2 stores on a node

`crates/aeon-engine/src/eo2_backpressure.rs`. The counters of a pipeline and of the node are behind
two locks, so an `adjust` is two steps. They are `u64` and saturate.

* `accounted`: while nothing saturates, the node's counter is the sum, and `decide` the exact 95 %
  test;
* `accounting_lost`: bytes from before the start, a wrapped product, a cap of 0.
-/
namespace Aeon.L3.Capacity

open List Option Aeon.Core Aeon.Types

/-- mirrors eo2_backpressure.rs:160-168 mirrors eo2_backpressure.rs:222-229 -/
def saturatingAdjust (bytes : Nat) (delta : Int) : Nat :=
  if 0 ≤ delta then min (bytes + delta.toNat) (2 ^ 64 - 1) else bytes - delta.natAbs

/-- mirrors eo2_backpressure.rs:183-186 mirrors eo2_backpressure.rs:266-268 -/
def approaches (used cap : Nat) : Bool :=
  decide (0 < cap) && decide (cap * 19 % 2 ^ 64 ≤ used * 20 % 2 ^ 64)

/-- mirrors eo2_backpressure.rs:32-37 -/
structure CapacityLimits where
  nodeMaxBytes : Option Nat := none
  pipelineMaxBytes : Option Nat := none
  partitionSoftTarget : Option Nat := none

/-- mirrors eo2_backpressure.rs:43-57 -/
def CapacityLimits.fromConfig (nodeMaxBytes pipelineMaxBytes : Option Nat) (partitions : UInt16) :
    CapacityLimits where
  nodeMaxBytes := nodeMaxBytes
  pipelineMaxBytes := pipelineMaxBytes
  partitionSoftTarget :=
    if 0 < partitions then pipelineMaxBytes.map (· / partitions.toNat) else none

/-- mirrors eo2_backpressure.rs:73-80 -/
inductive PressureLevel
  | partition
  | pipeline
  | node

/-- mirrors eo2_backpressure.rs:99-110 -/
inductive BackpressureDecision
  | none
  | pushReject (level : PressureLevel)
  | pullPause (level : PressureLevel)
  | pollSkip (level : PressureLevel)

namespace BackpressureDecision

/-- mirrors eo2_backpressure.rs:114-120 -/
def forKind (kind : SourceKind) (level : PressureLevel) : BackpressureDecision :=
  match kind with
  | .push => .pushReject level
  | .pull => .pullPause level
  | .poll => .pollSkip level

/-- mirrors eo2_backpressure.rs:123-130 -/
def level : BackpressureDecision → Option PressureLevel
  | .none => Option.none
  | .pushReject level => some level
  | .pullPause level => some level
  | .pollSkip level => some level

@[simp] lemma level_forKind (kind : SourceKind) (l : PressureLevel) : (forKind kind l).level = some l := by
  cases kind <;> rfl

end BackpressureDecision

/-- mirrors eo2_backpressure.rs:142-150 -/
structure NodeCapacity where
  bytes : Nat := 0
  cap : Option Nat
  deriving DecidableEq

namespace NodeCapacity

/-- mirrors eo2_backpressure.rs:160-168 -/
def adjust (node : NodeCapacity) (delta : Int) : NodeCapacity :=
  { node with bytes := saturatingAdjust node.bytes delta }

/-- mirrors eo2_backpressure.rs:179-187 -/
def isPressured (node : NodeCapacity) : Bool :=
  match node.cap with
  | some cap => approaches node.bytes cap
  | none => false

end NodeCapacity

/-- mirrors eo2_backpressure.rs:195-205 -/
structure PipelineCapacity where
  partitions : HashMap PartitionId Nat := ∅
  caps : CapacityLimits

namespace PipelineCapacity

variable (c : PipelineCapacity)

/-- mirrors eo2_backpressure.rs:242-248 -/
def partitionBytes (partition : PartitionId) : Nat := (c.partitions.lookup partition).getD 0

/-- mirrors eo2_backpressure.rs:221-230 -/
def adjust (partition : PartitionId) (delta : Int) : PipelineCapacity :=
  { c with partitions := c.partitions.insert partition (saturatingAdjust (c.partitionBytes partition) delta) }

/-- mirrors eo2_backpressure.rs:235-240 -/
def pipelineBytes : Nat := sumValues c.partitions % 2 ^ 64

/-- mirrors eo2_backpressure.rs:258-282 -/
def decide (node : NodeCapacity) (partition : PartitionId) (kind : SourceKind) :
    BackpressureDecision :=
  if node.isPressured then .forKind kind .node
  else if c.caps.pipelineMaxBytes.any fun cap => approaches c.pipelineBytes cap then
    .forKind kind .pipeline
  else if c.caps.partitionSoftTarget.any fun target =>
      Decidable.decide (0 < target ∧ target ≤ c.partitionBytes partition) then
    .forKind kind .partition
  else .none

end PipelineCapacity

structure St where
  node : NodeCapacity
  pipelines : List PipelineCapacity
  mirroring : List Int := []

inductive Lbl
  | adjust (pipeline : Nat) (partition : PartitionId) (delta : Int)
  | mirror (call : Nat)

/-- mirrors eo2_backpressure.rs:221-232 -/
def step (s : St) : Lbl → Option St
  | .adjust i partition delta =>
    if -2 ^ 63 ≤ delta ∧ delta < 2 ^ 63 then
      s.pipelines[i]?.map fun c =>
        { s with
          pipelines := s.pipelines.set i (c.adjust partition delta)
          mirroring := s.mirroring ++ [delta] }
    else none
  | .mirror k => s.mirroring[k]?.map fun delta =>
      { s with node := s.node.adjust delta, mirroring := s.mirroring.eraseIdx k }

/-- mirrors eo2_backpressure.rs:153-157 mirrors eo2_backpressure.rs:208-216 -/
structure Initial (s : St) : Prop where
  node : s.node.bytes = 0
  pipelines : ∀ c ∈ s.pipelines, c.partitions = ∅
  mirroring : s.mirroring = []

def machine : LTS St Lbl := .ofFn Initial step

def allBytes (s : St) : Nat := (s.pipelines.map fun c => sumValues c.partitions).sum

def Fits (s : St) : Lbl → Prop
  | .adjust i partition delta => ∀ c ∈ s.pipelines[i]?,
      0 ≤ c.partitionBytes partition + delta ∧ sumValues c.partitions + delta < 2 ^ 64
  | .mirror k => ∀ delta ∈ s.mirroring[k]?, 0 ≤ s.node.bytes + delta ∧ s.node.bytes + delta < 2 ^ 64

instance decidableFits (s : St) : ∀ l, Decidable (Fits s l)
  | .adjust i partition delta => inferInstanceAs (Decidable (∀ c ∈ s.pipelines[i]?,
      0 ≤ c.partitionBytes partition + delta ∧ sumValues c.partitions + delta < 2 ^ 64))
  | .mirror k => inferInstanceAs (Decidable (∀ delta ∈ s.mirroring[k]?,
      0 ≤ s.node.bytes + delta ∧ s.node.bytes + delta < 2 ^ 64))

def Engages (bytes : Nat) (cap : Option Nat) : Prop := ∃ n ∈ cap, n ≠ 0 ∧ n * 95 ≤ bytes * 100

instance decidableEngages (bytes : Nat) : ∀ cap, Decidable (Engages bytes cap)
  | none => isFalse (by rintro ⟨n, hn, -⟩; cases hn)
  | some n => decidable_of_iff (n ≠ 0 ∧ n * 95 ≤ bytes * 100) (by simp [Engages])

def Exact (bytes : Nat) (cap : Option Nat) : Prop := bytes * 20 < 2 ^ 64 ∧ ∀ n ∈ cap, n * 19 < 2 ^ 64

def pressure (c : PipelineCapacity) (node : NodeCapacity) (partition : PartitionId) : Option PressureLevel :=
  if Engages node.bytes node.cap then some .node
  else if Engages (sumValues c.partitions) c.caps.pipelineMaxBytes then some .pipeline
  else if ∃ target ∈ c.caps.partitionSoftTarget, 0 < target ∧ target ≤ c.partitionBytes partition then
    some .partition
  else none

structure Accounted (s : St) : Prop where
  node : s.node.bytes + s.mirroring.sum = allBytes s
  pipelines : ∀ c ∈ s.pipelines, c.pipelineBytes = sumValues c.partitions
  decision : ∀ c ∈ s.pipelines, Exact s.node.bytes s.node.cap →
    Exact (sumValues c.partitions) c.caps.pipelineMaxBytes →
    ∀ partition kind, (c.decide s.node partition kind).level = pressure c s.node partition

lemma saturatingAdjust_exact {bytes : Nat} {delta : Int} (h₀ : 0 ≤ bytes + delta)
    (h₁ : bytes + delta < 2 ^ 64) : (saturatingAdjust bytes delta : Int) = bytes + delta := by
  grind [saturatingAdjust]

lemma partitionBytes_le (c : PipelineCapacity) (partition : PartitionId) :
    c.partitionBytes partition ≤ sumValues c.partitions := by
  have h := sumValues_insert c.partitions partition 0
  unfold PipelineCapacity.partitionBytes; omega

lemma sumValues_adjust {c : PipelineCapacity} {partition : PartitionId} {delta : Int}
    (h₀ : 0 ≤ c.partitionBytes partition + delta) (h₁ : sumValues c.partitions + delta < 2 ^ 64) :
    (sumValues (c.adjust partition delta).partitions : Int) = sumValues c.partitions + delta := by
  have hle := partitionBytes_le c partition; have hn := saturatingAdjust_exact h₀ (by omega)
  have hs : sumValues (c.adjust partition delta).partitions + c.partitionBytes partition =
      sumValues c.partitions + saturatingAdjust (c.partitionBytes partition) delta :=
    sumValues_insert c.partitions partition _
  omega

lemma sum_map_set {α : Type*} (f : α → Nat) {l : List α} {i : Nat} {a : α} (h : l[i]? = some a) (b : α) :
    ((l.set i b).map f).sum + f a = (l.map f).sum + f b := by
  induction l generalizing i with
  | nil => cases h
  | cons =>
    cases i with
    | zero | succ => grind

lemma sum_eraseIdx {l : List Int} {k : Nat} {d : Int} (h : l[k]? = some d) :
    d + (l.eraseIdx k).sum = l.sum := by
  induction l generalizing k with
  | nil => cases h
  | cons => grind [eraseIdx_cons_zero]

lemma approaches_iff {used cap : Nat} (hu : used * 20 < 2 ^ 64) (hc : cap * 19 < 2 ^ 64) :
    approaches used cap = true ↔ cap ≠ 0 ∧ cap * 95 ≤ used * 100 := by grind [approaches]

lemma any_approaches_iff {used : Nat} {cap : Option Nat} (h : Exact used cap) :
    (cap.any fun n => approaches used n) = true ↔ Engages used cap := by
  cases cap with
  | none => simp [Engages]
  | some n =>
    have hn := approaches_iff h.1 (h.2 n rfl)
    simp [hn, Engages]

lemma isPressured_iff {node : NodeCapacity} (h : Exact node.bytes node.cap) :
    node.isPressured = true ↔ Engages node.bytes node.cap := by
  rw [← any_approaches_iff h, NodeCapacity.isPressured]; cases node.cap <;> rfl

lemma level_decide {node : NodeCapacity} (hc : c.pipelineBytes = sumValues c.partitions)
    (hn : Exact node.bytes node.cap) (hp : Exact (sumValues c.partitions) c.caps.pipelineMaxBytes)
    (partition : PartitionId) (kind : SourceKind) :
    (c.decide node partition kind).level = pressure c node partition := by
  have hpi := any_approaches_iff hp
  have hpa : (c.caps.partitionSoftTarget.any fun target =>
      decide (0 < target ∧ target ≤ c.partitionBytes partition)) = true ↔
      ∃ target ∈ c.caps.partitionSoftTarget, 0 < target ∧ target ≤ c.partitionBytes partition := by
    cases c.caps.partitionSoftTarget <;> simp
  rw [PipelineCapacity.decide, pressure, hc]; simp only [isPressured_iff hn, hpi, hpa]
  split_ifs
  · exact BackpressureDecision.level_forKind kind _
  · exact BackpressureDecision.level_forKind kind _
  · exact BackpressureDecision.level_forKind kind _
  · rfl

structure Inv (s : St) : Prop where
  node : s.node.bytes + s.mirroring.sum = allBytes s
  bound : ∀ c ∈ s.pipelines, sumValues c.partitions < 2 ^ 64

lemma Inv.initial (h : Initial s) : Inv s := by
  have hz : ∀ c ∈ s.pipelines, sumValues c.partitions = 0 := fun c hc => by rw [h.pipelines c hc]; rfl
  refine ⟨?_, fun c hc => by rw [hz c hc]; decide⟩
  have ha : allBytes s = 0 := by refine sum_eq_zero fun n hn => ?_; grind
  rw [h.node, h.mirroring, ha]; rfl

lemma Inv.step {s s' : St} {l : Lbl} (h : Inv s) (hf : Fits s l) (hs : step s l = some s') : Inv s' := by
  cases l with
  | adjust i partition delta =>
    simp only [Capacity.step] at hs; split_ifs at hs
    obtain ⟨c, hc, rfl⟩ := map_eq_some_iff.mp hs; obtain ⟨h₀, h₁⟩ := hf c hc
    have hsu := sumValues_adjust h₀ h₁; refine ⟨?_, fun d hd => ?_⟩
    · have hse := sum_map_set (fun c => sumValues c.partitions) hc (c.adjust partition delta)
      have hn := h.node; grind [allBytes]
    · rcases mem_or_eq_of_mem_set hd with hd | rfl
      · exact h.bound d hd
      · omega
  | mirror =>
    obtain ⟨delta, hk, rfl⟩ := map_eq_some_iff.mp hs; obtain ⟨h₀, h₁⟩ := hf delta hk
    refine ⟨?_, h.bound⟩; have hne := saturatingAdjust_exact h₀ h₁
    have he := sum_eraseIdx hk; have hn := h.node
    simp only [allBytes, NodeCapacity.adjust] at hn ⊢; omega

theorem accounted {s : St} (h : (machine.restrict Fits).Reachable s) : Accounted s := by
  obtain ⟨s₀, ls, hin, hr⟩ := h
  have hi : Inv s := by
    refine hr.induct (I := Inv) (fun t l u ht hl => ?_) (Inv.initial hin)
    exact ht.step hl.1 hl.2
  have hpi : ∀ c ∈ s.pipelines, c.pipelineBytes = sumValues c.partitions :=
    fun c hc => Nat.mod_eq_of_lt (hi.bound c hc)
  exact ⟨hi.node, hpi, fun c hc hn hp => level_decide (hpi c hc) hn hp⟩

def twoPipelines (cap : Option Nat) : St where
  node := { cap := cap }
  pipelines := [{ caps := .fromConfig cap (some 1000) 2 }, { caps := .fromConfig cap (some 1000) 2 }]

lemma twoPipelines_initial (cap : Option Nat) : Initial (twoPipelines cap) where
  node := rfl
  pipelines := by simp [twoPipelines]
  mirroring := rfl

def appendsAndSweep : List Lbl :=
  [.adjust 0 0 960, .adjust 1 1 300, .mirror 1, .mirror 0, .adjust 1 1 (-100), .mirror 0]

theorem accounted_appends_and_sweep :
    ∃ s, (machine.restrict Fits).Reachable s ∧ s.node.bytes = 1160 ∧ allBytes s = 1160 ∧ Accounted s := by
  have h : (LTS.exec (fun s l => if Fits s l then step s l else none) (twoPipelines (some 1500))
      appendsAndSweep).map (fun s => (s.node.bytes, allBytes s)) = some (1160, 1160) := by decide +kernel
  obtain ⟨s, hs, hv⟩ := map_eq_some_iff.mp h; obtain ⟨hn, ha⟩ := Prod.mk.inj hv
  have hr : (machine.restrict Fits).Reachable s := ⟨_, _, twoPipelines_initial _, LTS.run_restrict_of_exec hs⟩
  exact ⟨s, hr, hn, ha, accounted hr⟩

theorem accounting_lost : (∃ s, machine.Reachable s ∧ s.mirroring = [] ∧ s.node.bytes = 60 ∧
    allBytes s = 100) ∧
    (∃ s, machine.Reachable s ∧ s.node = ⟨2 ^ 59, some (2 ^ 63)⟩ ∧ s.node.isPressured = true) ∧
    (∃ s, machine.Reachable s ∧ s.node = ⟨0, some 0⟩ ∧ s.node.isPressured = false) := by
  refine ⟨?_, ?_, ?_⟩
  · exact LTS.exists_reachable (twoPipelines_initial none) [.adjust 0 0 100, .mirror 0, .adjust 1 0 (-40),
      .mirror 0]
      (by decide +kernel)
  · exact LTS.exists_reachable (twoPipelines_initial (some (2 ^ 63))) [.adjust 0 0 (2 ^ 59), .mirror 0]
      (by decide +kernel)
  · exact ⟨twoPipelines (some 0), ⟨_, _, twoPipelines_initial _, .nil _⟩, rfl, rfl⟩

end Aeon.L3.Capacity
