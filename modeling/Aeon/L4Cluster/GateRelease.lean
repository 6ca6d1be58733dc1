import Aeon.L3Pipeline.WriteGate
import Aeon.L4Cluster.StateMachine

/-!
# Frozen gates of a node

The cutover of a transfer (`crates/aeon-engine/src/engine_cutover.rs`) and lifecycle operations with
boundaries (`cluster_boundaries.rs`) freeze gates; `WriteGate::reopen` has no caller. The machine is
one node.

* `gates_released`: when every gate of an owned partition is open;
* `gate_stays_frozen`: an aborted transfer, and a finished operation.
-/
namespace Aeon.L4.GateRelease

open List Function Aeon.Core Aeon.L3.Gate Aeon.L4.Cluster

abbrev Key := String × PartitionId

structure Op where
  pipeline : String
  todo : List (PartitionId × Nat)
  freezing : Option Nat := none

structure St where
  cluster : ClusterSnapshot
  gates : Nat → WriteGate
  fresh : Nat
  registry : Key → Option Nat
  chains : Key → Option Nat
  running : String → Option (List (PartitionId × Nat))
  stopping : String → Bool
  drives : PartitionId → Bool
  asked : List Nat
  ops : Nat → Option Op

inductive Lbl
  | commit (o : Orders) (r : ClusterRequest)
  | start (pipeline : String) (partitions : List PartitionId)
  | stop (pipeline : String)
  | stopped (pipeline : String)
  | chain (k : Key) (sequence : Option Nat)
  | enter (g : Nat)
  | leave (g : Nat)
  | driveBegin (p : PartitionId)
  | driveEnd (p : PartitionId)
  | cutoverRequest (k : Key)
  | cutoverFrozen (g : Nat)
  | opBegin (i : Nat) (pipeline : String) (boundaries : List (PartitionId × Nat))
  | opSkip (i : Nat)
  | opFreeze (i : Nat)
  | opFrozen (i : Nat)
  | opEnd (i : Nat)

/-- mirrors write_gate.rs:236-255 -/
def getOrCreate (s : St) (pipeline : String) : List PartitionId → St × List (PartitionId × Nat)
  | [] => (s, [])
  | p :: ps =>
    match s.registry (pipeline, p) with
    | some g =>
      let (s, gs) := getOrCreate s pipeline ps
      (s, (p, g) :: gs)
    | none =>
      let g := s.fresh
      let (s, gs) := getOrCreate { s with
          gates := update s.gates g {}
          fresh := g + 1
          registry := update s.registry (pipeline, p) (some g) } pipeline ps
      (s, (p, g) :: gs)

def updateGate (s : St) (g : Nat) (gate : WriteGate) : St := { s with gates := update s.gates g gate }

def step (s : St) : Lbl → Option St
  | .commit o r =>
    if o.Valid s.cluster r then (applyRequest o s.cluster r).map fun (c, _) => { s with cluster := c }
    else none
  | .start pipeline partitions =>
    match s.running pipeline with
    | some _ => none
    | none =>
      let (s, gs) := getOrCreate s pipeline partitions
      some { s with running := update s.running pipeline (some gs) }
  | .stop pipeline =>
    if (s.running pipeline).isSome then
      some { s with
        running := update s.running pipeline none
        stopping := update s.stopping pipeline true }
    else none
  | .stopped pipeline =>
    if s.stopping pipeline then
      some { s with
        stopping := update s.stopping pipeline false
        registry := fun k => if k.1 = pipeline then none else s.registry k
        chains := fun k => if k.1 = pipeline then none else s.chains k }
    else none
  | .chain k sequence => some { s with chains := update s.chains k sequence }
  | .enter g => ((s.gates g).tryEnter).map (updateGate s g)
  | .leave g => some (updateGate s g (s.gates g).dropGuard)
  | .driveBegin p => some { s with drives := update s.drives p true }
  | .driveEnd p => some { s with drives := update s.drives p false }
  | .cutoverRequest k =>
    match s.registry k with
    | none => some s
    | some g => some { updateGate s g (s.gates g).requestFreeze with asked := g :: s.asked }
  | .cutoverFrozen g =>
    if g ∈ s.asked then ((s.gates g).commitFreeze).map (updateGate s g) else none
  | .opBegin i pipeline boundaries =>
    match s.ops i with
    | some _ => none
    | none => some { s with ops := update s.ops i (some ⟨pipeline, boundaries, none⟩) }
  | .opSkip i =>
    match s.ops i with
    | some ⟨pipeline, (p, _) :: todo, none⟩ =>
      if s.chains (pipeline, p) = none ∨ s.registry (pipeline, p) = none then
        some { s with ops := update s.ops i (some ⟨pipeline, todo, none⟩) }
      else none
    | _ => none
  | .opFreeze i =>
    match s.ops i with
    | some ⟨pipeline, (p, target) :: todo, none⟩ =>
      match s.chains (pipeline, p), s.registry (pipeline, p) with
      | some sequence, some g =>
        if target ≤ sequence then
          some { updateGate s g (s.gates g).requestFreeze with
            asked := g :: s.asked
            ops := update s.ops i (some ⟨pipeline, todo, some g⟩) }
        else none
      | _, _ => none
    | _ => none
  | .opFrozen i =>
    match s.ops i with
    | some ⟨pipeline, todo, some g⟩ =>
      ((s.gates g).commitFreeze).map fun gate =>
        { updateGate s g gate with ops := update s.ops i (some ⟨pipeline, todo, none⟩) }
    | _ => none
  | .opEnd i =>
    if (s.ops i).isSome then some { s with ops := update s.ops i none } else none

def empty : St :=
  ⟨{}, fun _ => {}, 0, fun _ => none, fun _ => none, fun _ => none, fun _ => false, fun _ => false,
    [], fun _ => none⟩

def machine : LTS St Lbl := .ofFn (· = empty) step

def Released (me : NodeId) (s : St) : Prop := ∀ p, s.drives p = false → (∀ i, s.ops i = none) →
    s.cluster.partitionTable.lookup p = some (.owned me) →
    ∀ pipeline gs g, s.running pipeline = some gs → (p, g) ∈ gs → (s.gates g).state = .opened

def Allowed (me : NodeId) (s : St) : Lbl → Prop
  | .commit o r => ∀ c resp, applyRequest o s.cluster r = some (c, resp) →
      ∀ pipeline gs p g, s.running pipeline = some gs → (p, g) ∈ gs → g ∈ s.asked →
        c.partitionTable.lookup p ≠ some (.owned me)
  | .start pipeline _ => s.stopping pipeline = false
  | .cutoverRequest k => s.cluster.partitionTable.lookup k.2 ≠ some (.owned me)
  | .opFreeze i => ∀ pipeline p target todo, s.ops i = some ⟨pipeline, (p, target) :: todo, none⟩ →
      s.cluster.partitionTable.lookup p ≠ some (.owned me)
  | _ => True

structure RegOk (s : St) : Prop where
  key : ∀ k k' g, s.registry k = some g → s.registry k' = some g → k = k'
  fresh : ∀ k g, s.registry k = some g → g < s.fresh

structure Created (s : St) (pipeline : String) (s' : St) (gs : List (PartitionId × Nat)) : Prop where
  rest : s' = { s with gates := s'.gates, fresh := s'.fresh, registry := s'.registry }
  reg : RegOk s'
  fresh : s.fresh ≤ s'.fresh
  old : ∀ k g, s.registry k = some g → s'.registry k = some g
  new : ∀ k g, s'.registry k = some g →
    s.registry k = some g ∨ k.1 = pipeline ∧ s.fresh ≤ g ∧ (s'.gates g).state = .opened
  gates : ∀ g < s.fresh, s'.gates g = s.gates g
  mem : ∀ p g, (p, g) ∈ gs → s'.registry (pipeline, p) = some g

lemma RegOk.insert (h : RegOk s) (k₀ : Key) : RegOk { s with
      gates := update s.gates s.fresh {}
      fresh := s.fresh + 1
      registry := update s.registry k₀ (some s.fresh) } := by
  refine ⟨fun k k' g hg hg' => ?_, fun k g hg => ?_⟩
  · simp only [update_apply] at hg hg'; split_ifs at hg hg' with h₁ h₂ h₂
    · rw [h₁, h₂]
    · cases hg; exact absurd (h.fresh k' _ hg') (Nat.lt_irrefl _)
    · cases hg'; exact absurd (h.fresh k _ hg) (Nat.lt_irrefl _)
    · exact h.key k k' g hg hg'
  · simp only [update_apply] at hg; split_ifs at hg with h₁
    · grind
    · exact (h.fresh k g hg).trans (Nat.lt_succ_self _)

lemma getOrCreate_spec (pipeline : String) (ps : List PartitionId) (h : RegOk s) :
    ∃ s' gs, getOrCreate s pipeline ps = (s', gs) ∧ Created s pipeline s' gs := by
  induction ps generalizing s with
  | nil =>
    exact ⟨s, [], rfl, rfl, h, Nat.le_refl _, fun _ _ hg => hg, fun _ _ hg => .inl hg,
      fun _ _ => rfl, fun _ _ hm => absurd hm not_mem_nil⟩
  | cons p ps ih =>
    rw [getOrCreate]
    cases hk : s.registry (pipeline, p) with
    | some g =>
      obtain ⟨s', gs, heq, hc⟩ := ih h; simp only [heq]
      refine ⟨s', (p, g) :: gs, rfl, hc.rest, hc.reg, hc.fresh, hc.old, hc.new, hc.gates, ?_⟩
      intro q g' hm; rcases mem_cons.mp hm with hm | hm
      · cases hm; exact hc.old _ _ hk
      · exact hc.mem q g' hm
    | none =>
      obtain ⟨s', gs, heq, hc⟩ := ih (h.insert (pipeline, p)); simp only [heq]
      have hs : s'.registry (pipeline, p) = some s.fresh := hc.old _ _ (update_self _ _ _)
      refine ⟨s', (p, s.fresh) :: gs, rfl, ?_, hc.reg, ?_, fun k g hg => ?_, fun k g hg => ?_,
        fun g hg => ?_, fun q g hm => ?_⟩
      · rw [hc.rest]
      · exact (Nat.le_succ _).trans hc.fresh
      · refine hc.old k g ((update_of_ne ?_ _ _).trans hg); grind
      · rcases hc.new k g hg with hold | ⟨hp, hle, hst⟩
        · simp only [update_apply] at hold; split_ifs at hold with hkk
          · grind [hc.gates]
          · exact .inl hold
        grind
      · rw [hc.gates g (hg.trans (Nat.lt_succ_self _))]; grind
      · rcases mem_cons.mp hm with hm | hm
        · cases hm; exact hs
        · exact hc.mem q g hm

structure Inv (me : NodeId) (s : St) : Prop where
  reg : RegOk s
  running : ∀ pipeline gs p g, s.running pipeline = some gs → (p, g) ∈ gs → s.registry (pipeline, p) = some g
  live : ∀ pipeline, (s.running pipeline).isSome → s.stopping pipeline = false
  registered : ∀ k g, s.registry k = some g → (s.running k.1).isSome ∨ s.stopping k.1 = true
  old : ∀ g ∈ s.asked, g < s.fresh
  closed : ∀ k g, s.registry k = some g → (s.gates g).state ≠ .opened → g ∈ s.asked
  left : ∀ pipeline gs p g, s.running pipeline = some gs → (p, g) ∈ gs → g ∈ s.asked →
    s.cluster.partitionTable.lookup p ≠ some (.owned me)

lemma inv_empty (me : NodeId) : Inv me empty := by
  constructor
  case reg => exact ⟨fun _ _ _ h => (by cases h), fun _ _ h => (by cases h)⟩
  all_goals intros; simp_all [empty]

lemma Inv.released (h : Inv me s) : Released me s := by
  intro p _ _ hp pipeline gs g hr hm; by_contra hst
  exact h.left pipeline gs p g hr hm (h.closed _ g (h.running pipeline gs p g hr hm) hst) hp

lemma Inv.updateGate (h : Inv me s) {gate : WriteGate}
    (hst : (s.gates g).state = .opened → gate.state = .opened) : Inv me (updateGate s g gate) :=
  { h with
    reg := ⟨h.reg.key, h.reg.fresh⟩
    closed := fun k g' hk hne => by
      simp only [GateRelease.updateGate, update_apply] at hne
      split_ifs at hne with hg
      · subst hg; exact h.closed k g' hk fun ho => hne (hst ho)
      · exact h.closed k g' hk hne }

variable {pipeline : String}

section

variable (h : Inv me s)
include h

lemma Inv.start (hru : s.running pipeline = none) (hs : s.stopping pipeline = false)
    (hc : Created s pipeline s' gs) :
    Inv me { s' with running := update s'.running pipeline (some gs) } := by
  have hn : ∀ p g, s.registry (pipeline, p) ≠ some g := fun p g hg => by
    rcases h.registered _ g hg with hr | hr <;> simp_all
  have hr' : s'.running = s.running := by rw [hc.rest]
  have hcu : s'.asked = s.asked := by rw [hc.rest]
  have hs' : s'.stopping = s.stopping := by rw [hc.rest]
  have hold : ∀ k g, s'.registry k = some g → g ∈ s.asked → s.registry k = some g :=
    fun k g hk hg => (hc.new k g hk).resolve_right fun ⟨_, hle, _⟩ => Nat.not_lt.mpr hle (h.old g hg)
  refine ⟨⟨hc.reg.key, hc.reg.fresh⟩, ?_, ?_, ?_, ?_, ?_, ?_⟩ <;>
    simp only [update_apply, hr', hs', hcu]
  · intro pl gs' p g hr hm; split_ifs at hr with hpl
    · cases hr; exact hpl ▸ hc.mem p g hm
    · exact hc.old _ g (h.running pl gs' p g hr hm)
  · intro pl hr; split_ifs at hr with hpl
    · rw [hpl, hs]
    · exact h.live pl hr
  · intro k g hk; split_ifs with hpl
    · exact .inl rfl
    · exact h.registered k g ((hc.new k g hk).resolve_right fun hp => hpl hp.1)
  · exact fun g hg => (h.old g hg).trans_le hc.fresh
  · intro k g hk hne; rcases hc.new k g hk with hk' | ⟨-, -, hst⟩
    · rw [hc.gates g (h.reg.fresh k g hk')] at hne; exact h.closed k g hk' hne
    · exact absurd hst hne
  · intro pl gs' p g hr hm hg; split_ifs at hr with hpl
    · cases hr; exact absurd (hold _ g (hc.mem p g hm) hg) (hn p g)
    · rw [hc.rest]; exact h.left pl gs' p g hr hm hg

lemma Inv.setOps (ops : Nat → Option Op) : Inv me { s with ops := ops } :=
  { h with reg := ⟨h.reg.key, h.reg.fresh⟩ }

lemma Inv.freeze (hk : s.registry k = some g) (hp : s.cluster.partitionTable.lookup k.2 ≠ some (.owned me)) :
    Inv me { GateRelease.updateGate s g (s.gates g).requestFreeze with asked := g :: s.asked } := by
  refine ⟨⟨h.reg.key, h.reg.fresh⟩, h.running, h.live, h.registered, ?_, ?_, ?_⟩
  · intro g' hg'; rcases mem_cons.mp hg' with rfl | hg'
    · exact h.reg.fresh k g' hk
    · exact h.old g' hg'
  · intro k' g' hk' hne; by_cases hg : g' = g
    · grind
    · simp only [GateRelease.updateGate, update_of_ne hg] at hne
      exact mem_cons_of_mem _ (h.closed k' g' hk' hne)
  · intro pl gs p g' hr hm hg'; rcases mem_cons.mp hg' with rfl | hg'
    · -- the gate that is asked to freeze is the one of this key
      have hke := h.reg.key _ _ g' (h.running pl gs p g' hr hm) hk; subst hke; exact hp
    · exact h.left pl gs p g' hr hm hg'

lemma Inv.stop (pipeline : String) : Inv me { s with
      running := update s.running pipeline none
      stopping := update s.stopping pipeline true } := by
  have hr : ∀ pl gs, update s.running pipeline none pl = some gs → s.running pl = some gs := by
    intro pl gs hpl; simp only [update_apply] at hpl; split_ifs at hpl
    exact hpl
  refine ⟨⟨h.reg.key, h.reg.fresh⟩, fun pl gs p g hru => h.running pl gs p g (hr pl gs hru),
    fun pl hs' => ?_, fun k g hk => ?_, h.old, h.closed,
    fun pl gs p g hru => h.left pl gs p g (hr pl gs hru)⟩
  · simp only [update_apply] at hs' ⊢; split_ifs at hs' ⊢ with hpl
    · cases hs'
    · exact h.live pl hs'
  · simp only [update_apply]; split_ifs with hpl
    · exact .inr rfl
    · exact h.registered k g hk

lemma Inv.stopped (hst : s.stopping pipeline = true) :
    Inv me { s with
      stopping := update s.stopping pipeline false
      registry := fun k => if k.1 = pipeline then none else s.registry k
      chains := fun k => if k.1 = pipeline then none else s.chains k } := by
  have hne : ∀ pl, (s.running pl).isSome → pl ≠ pipeline := by
    rintro pl hs rfl; rw [h.live pl hs] at hst; cases hst
  have hk : ∀ k g, (if k.1 = pipeline then none else s.registry k) = some g →
      k.1 ≠ pipeline ∧ s.registry k = some g := by
    intro k g hk; split_ifs at hk with hp; exact ⟨hp, hk⟩
  refine ⟨⟨fun k k' g hg hg' => h.reg.key k k' g (hk k g hg).2 (hk k' g hg').2,
    fun k g hg => h.reg.fresh k g (hk k g hg).2⟩, fun pl gs p g hr hm => ?_, fun pl hs => ?_,
    fun k g hg => ?_, h.old, fun k g hg => h.closed k g (hk k g hg).2, h.left⟩
  · simp only [if_neg (hne pl (by rw [hr]; rfl))]; exact h.running pl gs p g hr hm
  · simp only [update_of_ne (hne pl hs)]; exact h.live pl hs
  · obtain ⟨hp, hg⟩ := hk k g hg; simp only [update_of_ne hp]
    exact h.registered k g hg

lemma inv_step (ha : Allowed me s l) (hs : step s l = some s') : Inv me s' := by
  cases l with simp only [step] at hs
  | commit o r =>
    split_ifs at hs with hv; obtain ⟨⟨c, resp⟩, hap, rfl⟩ := Option.map_eq_some_iff.mp hs
    exact { h with
      reg := ⟨h.reg.key, h.reg.fresh⟩
      left := fun pl gs p g hr hm hg => ha c resp hap pl gs p g hr hm hg }
  | start pipeline partitions =>
    split at hs
    · cases hs
    · obtain ⟨s₁, gs, heq, hc⟩ := getOrCreate_spec pipeline partitions h.reg
      simp only [heq, Option.some.injEq] at hs; exact hs ▸ h.start ‹_› ha hc
  | stop pipeline => split_ifs at hs; cases hs; exact h.stop pipeline
  | stopped pipeline => split_ifs at hs with hst; cases hs; exact h.stopped hst
  | chain | driveBegin p | driveEnd p => cases hs; exact { h with reg := ⟨h.reg.key, h.reg.fresh⟩ }
  | enter g =>
    obtain ⟨gate, hga, rfl⟩ := Option.map_eq_some_iff.mp hs
    exact h.updateGate fun ho => (WriteGate.state_tryEnter hga).trans ho
  | leave g => cases hs; exact h.updateGate fun ho => ho
  | cutoverRequest k =>
    split at hs <;> cases hs
    · exact h
    · exact h.freeze ‹_› ha
  | cutoverFrozen g =>
    split_ifs at hs with hg; obtain ⟨gate, hga, rfl⟩ := Option.map_eq_some_iff.mp hs
    exact h.updateGate fun ho => (WriteGate.state_commitFreeze hga).mpr ho
  | opBegin i pipeline boundaries => split at hs <;> cases hs; exact h.setOps _
  | opSkip i =>
    split at hs
    · split_ifs at hs; cases hs; exact h.setOps _
    · cases hs
  | opFreeze i =>
    split at hs
    · rename_i pipeline p target todo hop
      split at hs
      · rename_i sequence g hch hk
        split_ifs at hs; cases hs
        exact (h.freeze hk (ha pipeline p target todo hop)).setOps _
      · cases hs
    · cases hs
  | opFrozen i =>
    split at hs
    · obtain ⟨gate, hga, rfl⟩ := Option.map_eq_some_iff.mp hs
      exact (h.updateGate fun ho => (WriteGate.state_commitFreeze hga).mpr ho).setOps _
    · cases hs
  | opEnd i => split_ifs at hs; cases hs; exact h.setOps _

end

theorem gates_released (me : NodeId) {s : St} (h : (machine.restrict (Allowed me)).Reachable s) :
    Released me s := by
  have hi : (machine.restrict (Allowed me)).Inductive (Inv me) :=
    ⟨fun s₀ h₀ => h₀ ▸ inv_empty me, fun _ _ _ hs hst => inv_step hs hst.1 hst.2⟩
  exact (hi.reachable h).released

def owned : List Lbl := [.commit ⟨[], []⟩ (.assignPartition 0 1), .start "orders" [0]]

def abortedTransfer : List Lbl := owned ++ [.commit ⟨[⟨0, .owned 1⟩], []⟩ (.beginTransfer 0 1 2),
    .driveBegin 0,
    .cutoverRequest ("orders", 0), .cutoverFrozen 0,
    .commit ⟨[⟨0, .transferring 1 2⟩], []⟩ (.abortTransfer 0 1), .driveEnd 0]

def boundedOp : List Lbl := owned ++
  [.chain ("orders", 0) (some 3), .opBegin 0 "orders" [(0, 3)], .opFreeze 0, .opFrozen 0, .opEnd 0]

theorem gate_stays_frozen : (∃ s, machine.Run empty abortedTransfer s ∧ ¬ Released 1 s) ∧
    ∃ s, machine.Run empty boundedOp s ∧ ¬ Released 1 s := by
  refine ⟨⟨_, LTS.run_exec_get (by decide +kernel), fun h => ?_⟩,
    _, LTS.run_exec_get (by decide +kernel), fun h => ?_⟩
  · have ho := h 0 rfl (fun _ => rfl) rfl "orders" [(0, 0)] 0 rfl (by decide); revert ho
    decide +kernel
  · have ho := h 0 rfl (fun i => ?_) rfl "orders" [(0, 0)] 0 rfl (by decide)
    · revert ho; decide +kernel
    · by_cases hi : i = 0
      · subst hi; rfl
      · exact (update_of_ne hi _ _).trans ((update_of_ne hi _ _).trans
          ((update_of_ne hi _ _).trans ((update_of_ne hi _ _).trans rfl)))

def completedTransfer : List Lbl := owned ++ [.commit ⟨[⟨0, .owned 1⟩], []⟩ (.beginTransfer 0 1 2),
    .driveBegin 0,
    .cutoverRequest ("orders", 0), .cutoverFrozen 0,
    .commit ⟨[⟨0, .transferring 1 2⟩], []⟩ (.completeTransfer 0 2), .driveEnd 0]

def cutOver : Option St := LTS.exec step empty (completedTransfer.take 6)

lemma cutOver_isSome : cutOver.isSome = true := by decide +kernel

def handedOver : Option St := LTS.exec step (cutOver.get cutOver_isSome) (completedTransfer.drop 6)

lemma handedOver_isSome : handedOver.isSome = true := by decide +kernel

lemma running_cutOver (h : (cutOver.get cutOver_isSome).running pipeline = some gs) :
    pipeline = "orders" ∧ gs = [(0, 0)] := by
  by_cases hpl : pipeline = "orders"
  · subst hpl; cases h; exact ⟨rfl, rfl⟩
  · cases h.symm.trans (update_of_ne hpl _ _)

lemma reachable_cutOver : (machine.restrict (Allowed 1)).Run empty (completedTransfer.take 6)
      (cutOver.get cutOver_isSome) := by
  refine LTS.run_restrict ?_ (Option.some_get cutOver_isSome).symm
  refine ⟨?_, _, rfl, rfl, _, rfl, ?_, _, rfl, trivial, _, rfl, ?_, _, rfl, trivial, _, rfl, trivial⟩
  · exact fun _ _ _ _ _ _ _ _ _ h => (not_mem_nil h).elim
  · exact fun _ _ _ _ _ _ _ _ _ h => (not_mem_nil h).elim
  · unfold Allowed; decide +kernel

theorem gates_released_handed_over : (machine.restrict (Allowed 1)).Reachable
    (handedOver.get handedOver_isSome) ∧
    ((handedOver.get handedOver_isSome).gates 0).state = .frozen ∧
    Released 1 (handedOver.get handedOver_isSome) := by
  have hru : (machine.restrict (Allowed 1)).Run (cutOver.get cutOver_isSome)
      (completedTransfer.drop 6) (handedOver.get handedOver_isSome) := by
    refine LTS.run_restrict ⟨?_, _, rfl, trivial, _, rfl, trivial⟩ (Option.some_get _).symm
    intro c resp hap pipeline gs p g hr hm _; obtain ⟨-, rfl⟩ := running_cutOver hr
    obtain ⟨rfl, rfl⟩ : p = 0 ∧ g = 0 := by simpa using hm
    have ht : (applyRequest ⟨[⟨0, .transferring 1 2⟩], []⟩ (cutOver.get cutOver_isSome).cluster
        (.completeTransfer 0 2)).map (·.1.partitionTable.lookup 0) =
          some (some (.owned 2)) := by decide +kernel
    rw [hap] at ht
    have ho : c.partitionTable.lookup 0 = some (.owned 2) := Option.some.inj ht; rw [ho]
    decide
  have hre : (machine.restrict (Allowed 1)).Reachable (handedOver.get handedOver_isSome) :=
    ⟨empty, completedTransfer, rfl, reachable_cutOver.append hru⟩
  exact ⟨hre, by decide +kernel, gates_released 1 hre⟩
end Aeon.L4.GateRelease
