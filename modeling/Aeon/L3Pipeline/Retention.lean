import Aeon.Core.LTS
import Aeon.L2Store.CrashRecovery
import Aeon.L3Pipeline.SinkTask

/-!
# What L2 keeps

Runners that share L2 stores (lanes) sweep them up to the smallest sequence every sink has
acknowledged (`eo2_gc_sweep`, `crates/aeon-engine/src/pipeline.rs`). The tracker keeps the largest
number of a sink, over all partitions.

* `retention_safe`: when no sweep removes an unacknowledged record;
* `retention_broken`: two partitions, and a failed output.
-/
namespace Aeon.L3.Retention

open List Option Function Aeon.Core Aeon.Types Aeon.L2.Body Aeon.L3.Delivery Aeon.L3.SinkTask

structure LaneCfg where
  ctx : Ctx
  tracker : Nat

/-- mirrors pipeline.rs:1953-1999 -/
inductive Sweep
  | idle
  | due
  | running (minAck : Nat) (todo : List PartitionId)
  deriving DecidableEq

structure Lane where
  registered : Bool := false
  task : Task
  records : List (PartitionId × Nat) := []
  processed : Nat := 0
  sinkBuf : List (List (Nat × Output)) := []
  origin : List Nat := []
  reported : List Nat := []
  sweep : Sweep := .idle

structure St where
  lanes : Nat → Lane
  trackers : Nat → AckSeqTracker := fun _ => {}
  stores : PartitionId → Option Store := fun _ => none
  keys : List PartitionId := []

inductive Lbl
  | register (i : Nat)
  | append (i : Nat) (e : Event)
  | process (i k : Nat) (outs : List (Nat × Output))
  | pop (i : Nat)
  | task (i : Nat) (l : SinkTask.Lbl)
  | sweepBegin (i : Nat) (order : List PartitionId)
  | sweepPart (i : Nat) (elapsed : Nat → Bool)

def reportedSeqs (outs : List Tagged) (f : Nat → Outcome) : List Nat :=
  (batchResult outs f).delivered.filterMap (l2SeqById outs)

def Lane.noteReport (lane : Lane) : SinkTask.Lbl → Lane
  | .answer (.ok f) =>
    match lane.task.pc with
    | .writing outs => { lane with reported := lane.reported ++ reportedSeqs outs f }
    | _ => lane
  | _ => lane

section Machine

variable (C : Codec Event) (segmentBytes : Nat) (cfg : Nat → LaneCfg)

variable (s : St)

def setLane (i : Nat) (lane : Lane) : St := { s with lanes := Function.update s.lanes i lane }

/-- mirrors eo2.rs:88-120 -/
def openStore (p : PartitionId) : Store := (s.stores p).getD { segmentBytes := segmentBytes }

def taskStep (i : Nat) (lane : Lane) (l : SinkTask.Lbl) : Option St :=
  if lane.registered ∧ lane.sweep = .idle then
    (SinkTask.step (cfg i).ctx (some (s.trackers (cfg i).tracker)) lane.task l).map fun (t, tracker,
      effects) =>
        { setLane s i { lane.noteReport l with
            task := t
            sweep := if .gcSweep ∈ effects then .due else .idle } with
          trackers := Function.update s.trackers (cfg i).tracker (tracker.getD (s.trackers (cfg i).tracker)) }
  else none

def step : Lbl → Option St
  | .register i =>
    if (s.lanes i).registered then none
    else some { setLane s i { s.lanes i with registered := true } with
      trackers := Function.update s.trackers (cfg i).tracker
        ((s.trackers (cfg i).tracker).registerSink (cfg i).ctx.sinkName) }
  | .append i e =>
    let lane := s.lanes i
    let (store, res) := (openStore segmentBytes s e.partition).append C e
    let s := { s with
      stores := Function.update s.stores e.partition (some store)
      keys := if e.partition ∈ s.keys then s.keys else s.keys ++ [e.partition] }
    match res with
    | .ok seq => some (setLane s i { lane with records := lane.records ++ [(e.partition, seq)] })
    | .error _ => some s
  | .process i k outs =>
    let lane := s.lanes i
    if lane.processed + k ≤ lane.records.length ∧ outs.all (·.1 < k) then
      some (setLane s i { lane with
        processed := lane.processed + k
        sinkBuf := lane.sinkBuf ++ [outs.map fun (j, o) => (lane.processed + j, o)] })
    else none
  | .pop i =>
    let lane := s.lanes i
    match lane.sinkBuf with
    | [] => none
    | batch :: rest =>
      taskStep cfg s i { lane with sinkBuf := rest, origin := lane.origin ++ batch.map Prod.fst }
        (.pop (batch.map Prod.snd))
  | .task i l =>
    match l with
    | .pop _ => none
    | l => taskStep cfg s i (s.lanes i) l
  | .sweepBegin i order =>
    if (s.lanes i).sweep = .due ∧ order.Perm s.keys then
      some (setLane s i { s.lanes i with
        sweep := match (s.trackers (cfg i).tracker).minAcrossSinks with
          | none | some 0 => .idle
          | some minAck => .running minAck order })
    else none
  | .sweepPart i elapsed =>
    match (s.lanes i).sweep with
    | .running minAck (p :: todo) =>
      some { setLane s i { s.lanes i with sweep := .running minAck todo } with
        stores := Function.update s.stores p ((s.stores p).map (·.gcUpTo minAck elapsed)) }
    | .running _ [] => some (setLane s i { s.lanes i with sweep := .idle })
    | _ => none

def Initial : Prop :=
  (∀ i, ∃ ledger, s.lanes i = { task := { ledger := ledger } }) ∧ (∀ k, s.trackers k = {}) ∧
    (∀ p, s.stores p = none) ∧ s.keys = []

def machine : LTS St Lbl := .ofFn Initial (step C segmentBytes cfg)

end Machine

def Acked (lane : Lane) (n : Nat) : Prop :=
  n < lane.processed ∧ (∀ batch ∈ lane.sinkBuf, n ∉ batch.map Prod.fst) ∧
    ∀ k < lane.origin.length, lane.origin[k]? = some n → k ∈ lane.task.delivered

def Unacked (lane : Lane) (n : Nat) (r : PartitionId × Nat) : Prop :=
  lane.records[n]? = some r ∧ ¬ Acked lane n

def Segment.Holds (seg : Segment) (seq : Nat) : Prop := seg.start ≤ seq ∧ ∃ m, seg.maxSeq = some m ∧ seq ≤ m

def Retains (s : St) : Prop := ∀ j minAck p todo, (s.lanes j).sweep = .running minAck (p :: todo) →
    ∀ i n r, Unacked (s.lanes i) n r → r.1 = p →
      minAck ≤ r.2 ∧ ∀ store, s.stores p = some store → ∀ elapsed, ∀ seg ∈ store.segments,
        Segment.Holds seg r.2 → seg ∈ (store.gcUpTo minAck elapsed).segments

structure Shared (cfg : Nat → LaneCfg) : Prop where
  tracker : ∀ i j, (cfg i).tracker = (cfg j).tracker
  name : ∀ i j, (cfg i).ctx.sinkName = (cfg j).ctx.sinkName → i = j

def Allowed (segmentBytes : Nat) (s : St) : Lbl → Prop
  | .register _ => ∀ j minAck todo, (s.lanes j).sweep ≠ .running minAck todo
  | .append i e => (s.lanes i).registered ∧
      ∀ x ∈ (s.lanes i).reported, x ≤ (openStore segmentBytes s e.partition).nextSeq
  | .task i (.answer (.ok f)) => ∀ outs, (s.lanes i).task.pc = .writing outs →
      ∀ n r, Unacked { s.lanes i with task := (s.lanes i).task.note outs f } n r →
      ∀ x ∈ reportedSeqs outs f, x ≤ r.2
  | _ => True

structure Watermark (tracker : AckSeqTracker) (sink : String) (lane : Lane) : Prop where
  entry : lane.registered → (sink, lane.task.maxAckedSeq) ∈ tracker.inner
  fresh : ¬ lane.registered → lane.records = [] ∧ lane.task.maxAckedSeq = 0
  named : lane.task.maxAckedSeq = 0 ∨ lane.task.maxAckedSeq ∈ lane.reported
  bound : ∀ n r, Unacked lane n r → lane.task.maxAckedSeq ≤ r.2

structure Inv (cfg : Nat → LaneCfg) (s : St) : Prop where
  lanes : ∀ i, Watermark (s.trackers (cfg i).tracker) (cfg i).ctx.sinkName (s.lanes i)
  owned : ∀ i, ∀ x ∈ (s.trackers (cfg i).tracker).inner, ∃ j, (s.lanes j).registered ∧
    (cfg j).ctx.sinkName = x.1
  sweeps : ∀ j minAck todo, (s.lanes j).sweep = .running minAck todo →
    ∀ i, (s.lanes i).registered → minAck ≤ (s.lanes i).task.maxAckedSeq

section Invariant

variable {C : Codec Event} {segmentBytes : Nat} {cfg : Nat → LaneCfg} {s s' : St} {i : Nat}
  {lane : Lane} {tracker : AckSeqTracker} {sink : String}

lemma Inv.retains (h : Inv cfg s) : Retains s := by
  intro j minAck p todo hs i n r hu hp
  have hre : (s.lanes i).registered := by
    by_contra hn; have hr := hu.1; rw [((h.lanes i).fresh hn).1] at hr
    cases hr
  have hle : minAck ≤ r.2 := (h.sweeps j minAck _ hs i hre).trans ((h.lanes i).bound n r hu)
  refine ⟨hle, fun store _ elapsed seg hse hh => ?_⟩; obtain ⟨m, hm, hrm⟩ := hh.2
  exact mem_gcSegments hse hm (hle.trans hrm)

lemma Inv.update (hc : Shared cfg) (h : Inv cfg s) (hl : s'.lanes = Function.update s.lanes i lane)
    (hse : Watermark (s'.trackers (cfg i).tracker) (cfg i).ctx.sinkName lane)
    (hke : ∀ x ∈ (s.trackers (cfg i).tracker).inner, x.1 ≠ (cfg i).ctx.sinkName →
      x ∈ (s'.trackers (cfg i).tracker).inner)
    (hne : ∀ x ∈ (s'.trackers (cfg i).tracker).inner, x ∈ (s.trackers (cfg i).tracker).inner ∨
      lane.registered ∧ x.1 = (cfg i).ctx.sinkName)
    (hre : (s.lanes i).registered → lane.registered)
    (hs : ∀ j minAck todo, (Function.update s.lanes i lane j).sweep = .running minAck todo →
      (∀ k, (s.lanes k).registered → minAck ≤ (s.lanes k).task.maxAckedSeq) ∧
        (lane.registered → minAck ≤ lane.task.maxAckedSeq)) :
    Inv cfg s' where
  lanes j := by
    rw [hl]; by_cases hj : j = i
    · subst hj; rwa [update_self]
    · rw [update_of_ne hj]; have hw := h.lanes j
      refine { hw with entry := fun hr => ?_ }; rw [hc.tracker j i] at hw ⊢
      exact hke _ (hw.entry hr) fun hn => hj (hc.name j i hn)
  owned j x hx := by
    rw [hc.tracker j i] at hx; rw [hl]; rcases hne x hx with hold | ⟨hr, hna⟩
    · obtain ⟨k, hk, hkn⟩ := h.owned i x hold; by_cases hki : k = i
      · subst hki; exact ⟨k, by simpa using hre hk, hkn⟩
      · exact ⟨k, by simpa [hki] using hk, hkn⟩
    · exact ⟨i, by simpa using hr, hna.symm⟩
  sweeps j minAck todo hru k hk := by
    rw [hl] at hru hk ⊢; obtain ⟨ha, ho⟩ := hs j minAck todo hru; by_cases hki : k = i
    · subst hki; rw [update_self] at hk ⊢; exact ho hk
    · rw [update_of_ne hki] at hk ⊢; exact ha k hk

lemma Inv.setLane (hc : Shared cfg) (h : Inv cfg s) (hl : s'.lanes = Function.update s.lanes i lane)
    (ht : s'.trackers = s.trackers)
    (hse : Watermark (s.trackers (cfg i).tracker) (cfg i).ctx.sinkName lane)
    (hre : lane.registered = (s.lanes i).registered)
    (hm : lane.task.maxAckedSeq = (s.lanes i).task.maxAckedSeq)
    (hs : ∀ minAck todo, lane.sweep = .running minAck todo →
      ∀ k, (s.lanes k).registered → minAck ≤ (s.lanes k).task.maxAckedSeq) :
    Inv cfg s' := by
  refine h.update hc hl ?_ ?_ ?_ (fun hr => hre ▸ hr) ?_
  · rwa [ht]
  · intro x hx _; rwa [ht]
  · grind
  · intro j minAck todo hru
    have ha : ∀ k, (s.lanes k).registered → minAck ≤ (s.lanes k).task.maxAckedSeq := by
      by_cases hj : j = i
      · grind
      · rw [update_of_ne hj] at hru; exact h.sweeps j minAck todo hru
    grind

lemma noteReport_keeps (lane : Lane) (l : SinkTask.Lbl) :
    (lane.noteReport l).registered = lane.registered ∧ (lane.noteReport l).records = lane.records ∧
      (lane.noteReport l).processed = lane.processed ∧ (lane.noteReport l).sinkBuf = lane.sinkBuf ∧
      (lane.noteReport l).origin = lane.origin ∧ lane.reported ⊆ (lane.noteReport l).reported := by
  unfold Lane.noteReport; grind

lemma Acked.mono {lane lane' : Lane} (h : Acked lane n) (hp : lane'.processed = lane.processed)
    (hb : lane'.sinkBuf = lane.sinkBuf) (ho : lane'.origin = lane.origin)
    (hd : ∀ k ∈ lane.task.delivered, k ∈ lane'.task.delivered) : Acked lane' n := by
  obtain ⟨hn, hq, hou⟩ := h; rw [Acked, hp, hb, ho]
  exact ⟨hn, hq, fun k hk hkn => hd k (hou k hk hkn)⟩

lemma Watermark.keep {lane' : Lane} (h : Watermark tracker sink lane)
    (hrg : lane'.registered = lane.registered) (hma : lane'.task.maxAckedSeq = lane.task.maxAckedSeq)
    (hre : lane'.records = lane.records) (hrp : lane.reported ⊆ lane'.reported)
    (hac : ∀ n, Acked lane n → Acked lane' n) : Watermark tracker sink lane' where
  entry hr := hma ▸ h.entry (hrg ▸ hr)
  fresh hr := by rw [hma, hre]; exact h.fresh (hrg ▸ hr)
  named := by rw [hma]; exact h.named.imp_right fun hm => hrp hm
  bound n r hun := by rw [hma]; exact h.bound n r ⟨hre ▸ hun.1, fun ha => hun.2 (hac n ha)⟩

lemma Watermark.raise {lane' : Lane} {seq : Nat} (h : Watermark tracker sink lane) (hre : lane.registered)
    (hr' : lane'.registered) (hs : lane'.task.maxAckedSeq = seq) (hlt : lane.task.maxAckedSeq < seq)
    (hn : seq ∈ lane'.reported) (hb : ∀ n r, Unacked lane' n r → seq ≤ r.2) :
    Watermark (tracker.recordAck sink seq) sink lane' where
  entry _ := by
    have hse : (sink, max lane.task.maxAckedSeq seq) ∈ (tracker.recordAck sink seq).inner :=
      AckSeqTracker.mem_recordAck_self (h.entry hre)
    rw [max_eq_right hlt.le] at hse; rwa [hs]
  fresh hr := absurd hr' hr
  named := .inr (hs ▸ hn)
  bound n r hun := hs ▸ hb n r hun

lemma Inv.taskStep (hc : Shared cfg) (h : Inv cfg s) (hs : taskStep cfg s i lane l = some s')
    (hrg : lane.registered = (s.lanes i).registered) (hta : lane.task = (s.lanes i).task)
    (hre : lane.records = (s.lanes i).records) (hr : lane.reported = (s.lanes i).reported)
    (hac : ∀ n, Acked (s.lanes i) n → Acked lane n)
    (hal : ∀ f outs, l = .answer (.ok f) → lane.task.pc = .writing outs →
      ∀ n r, Unacked { lane with task := lane.task.note outs f } n r → ∀ x ∈ reportedSeqs outs f, x ≤ r.2) :
    Inv cfg s' := by
  unfold Retention.taskStep at hs; split_ifs at hs with hg
  obtain ⟨⟨t, tracker, effects⟩, ht, rfl⟩ := map_eq_some_iff.mp hs
  obtain ⟨hng, hnr, hn, hnb, hno, hnp⟩ := noteReport_keeps lane l
  have hl : Watermark (s.trackers (cfg i).tracker) (cfg i).ctx.sinkName lane :=
    (h.lanes i).keep hrg (by rw [hta]) hre (by rw [hr]; exact List.Subset.refl _) hac
  have hr' := hng.trans hg.1
  have hle : lane.task.maxAckedSeq ≤ t.maxAckedSeq := by
    rcases step_acks ht with ⟨hm, -⟩ | ⟨_, _, _, _, hlt, -⟩
    · exact Nat.le_of_eq hm.symm
    · exact hlt.le
  have hsw : ∀ j minAck todo, (Function.update s.lanes i { lane.noteReport l with
      task := t, sweep := if .gcSweep ∈ effects then .due else .idle } j).sweep = .running minAck todo →
      (∀ k, (s.lanes k).registered → minAck ≤ (s.lanes k).task.maxAckedSeq) ∧
        ((lane.noteReport l).registered → minAck ≤ t.maxAckedSeq) := by
    intro j minAck todo hru; by_cases hj : j = i
    · grind
    · rw [update_of_ne hj] at hru; have hA := h.sweeps j minAck todo hru; grind
  rcases step_acks ht with ⟨hm, rfl⟩ | ⟨outs, f, rfl, hpc, hlt, hm, hd, rfl⟩
  · refine h.update hc rfl ?_ ?_ ?_ (fun _ => hr') hsw
    · simp only [getD_some, update_self]
      exact hl.keep hng hm hnr hnp fun n ha => ha.mono hn hnb hno fun k hk => (step_booked ht).delivered hk
    · grind
    grind
  · have hme : t.maxAckedSeq ∈ reportedSeqs outs f := by
      rw [hm]
      exact (batchMax_mem outs (batchResult outs f).delivered).resolve_left (by omega)
    refine h.update hc rfl ?_ ?_ ?_ (fun _ => hr') hsw
    · simp only [map_some, getD_some, update_self]
      refine hl.raise hg.1 ?_ rfl hlt ?_ fun n r hun => ?_
      · exact hr'
      · simp only [Lane.noteReport, hpc]; exact mem_append_right _ hme
      · refine hal f outs rfl hpc n r ⟨hnr ▸ hun.1, fun ha => hun.2 ?_⟩ _ hme
        exact ha.mono hn hnb hno fun k hk => hd ▸ hk
    · simp only [map_some, getD_some, update_self]
      exact fun x hx hne => AckSeqTracker.mem_recordAck_of_ne hx hne
    · simp only [map_some, getD_some, update_self]
      exact fun x hx => (AckSeqTracker.mem_recordAck hx).imp_right fun hx => ⟨hr', hx⟩

lemma Inv.register (hc : Shared cfg) (h : Inv cfg s)
    (hq : ∀ j minAck todo, (s.lanes j).sweep ≠ .running minAck todo)
    (hs : step C segmentBytes cfg s (.register i) = some s') : Inv cfg s' := by
  simp only [step] at hs; split_ifs at hs with hre; cases hs
  have hw := h.lanes i; obtain ⟨hrc, hz⟩ := hw.fresh hre
  have hne : (cfg i).ctx.sinkName ∉ (s.trackers (cfg i).tracker).inner.map Prod.fst := by
    intro hm; obtain ⟨x, hx, hn⟩ := List.mem_map.mp hm
    obtain ⟨j, hj, hjn⟩ := h.owned i x hx; rw [hc.name j i (hjn.trans hn)] at hj
    exact hre hj
  refine h.update hc rfl ?_ ?_ ?_ (fun _ => rfl) ?_
  · simp only [update_self]
    refine ⟨fun _ => ?_, fun hr => absurd rfl hr, hw.named, hw.bound⟩; rw [hz]
    exact AckSeqTracker.registerSink_new hne
  · simp only [update_self]
    exact fun x hx _ => AckSeqTracker.mem_registerSink_of_mem hx
  · simp only [update_self]
    exact fun x hx => (AckSeqTracker.mem_registerSink hx).imp_right fun hx => ⟨trivial, hx⟩
  grind

lemma Inv.append (hc : Shared cfg) (h : Inv cfg s) (hre : (s.lanes i).registered)
    (hb : ∀ x ∈ (s.lanes i).reported, x ≤ (openStore segmentBytes s e.partition).nextSeq)
    (hs : step C segmentBytes cfg s (.append i e) = some s') : Inv cfg s' := by
  simp only [step] at hs; split at hs
  · rename_i seq hrs
    cases hs; obtain rfl := Store.append_seq hrs; have hw := h.lanes i
    refine h.setLane hc rfl rfl ?_ rfl rfl (h.sweeps i)
    refine ⟨hw.entry, fun hr => absurd hre hr, hw.named, fun n r hun => ?_⟩
    rcases Nat.lt_or_ge n (s.lanes i).records.length with hn | hn
    · refine hw.bound n r ⟨?_, hun.2⟩; grind [hun.1]
    · -- the new record: its number is the next one of its store
      have hl := hun.1; rw [getElem?_append_right hn, getElem?_singleton] at hl
      split_ifs at hl; cases hl; rcases hw.named with hz | hm
      · simp [hz]
      · exact hb _ hm
  · cases hs; exact ⟨h.lanes, h.owned, h.sweeps⟩

lemma Inv.process (hc : Shared cfg) (h : Inv cfg s) {outs : List (Nat × Output)}
    (hs : step C segmentBytes cfg s (.process i k outs) = some s') : Inv cfg s' := by
  simp only [step] at hs; split_ifs at hs with hg; cases hs
  refine h.setLane hc rfl rfl ?_ rfl rfl (h.sweeps i)
  refine (h.lanes i).keep rfl rfl rfl (List.Subset.refl _) fun n ha => ?_
  obtain ⟨hn, hq, ho⟩ := ha; refine ⟨Nat.lt_add_right k hn, fun batch hb => ?_, ho⟩; grind

lemma Inv.pop (hc : Shared cfg) (h : Inv cfg s) (hs : step C segmentBytes cfg s (.pop i) = some s') :
    Inv cfg s' := by
  simp only [step] at hs; split at hs
  · cases hs
  · rename_i batch rest hbu
    refine h.taskStep hc hs rfl rfl rfl rfl (fun n ha => ?_) (fun _ _ hl => nomatch hl)
    obtain ⟨hn, hq, ho⟩ := ha; rw [hbu] at hq
    refine ⟨hn, fun b hb => hq b (mem_cons_of_mem _ hb), fun k _ hkn => ?_⟩; grind

lemma Inv.sweepBegin (hc : Shared cfg) (h : Inv cfg s) {order : List PartitionId}
    (hs : step C segmentBytes cfg s (.sweepBegin i order) = some s') : Inv cfg s' := by
  simp only [step] at hs; split_ifs at hs with hg; cases hs
  refine h.setLane hc rfl rfl ?_ rfl rfl fun minAck todo hr k hk => ?_
  · exact (h.lanes i).keep rfl rfl rfl (List.Subset.refl _) fun _ ha => ha
  · simp only at hr; split at hr
    · cases hr
    · cases hr
    · rename_i hm
      cases hr; rw [hc.tracker i k] at hm
      exact AckSeqTracker.minAcrossSinks_le ((h.lanes k).entry hk) hm

lemma Inv.sweepPart (hc : Shared cfg) (h : Inv cfg s) {elapsed : Nat → Bool}
    (hs : step C segmentBytes cfg s (.sweepPart i elapsed) = some s') : Inv cfg s' := by
  simp only [step] at hs; split at hs
  · rename_i minAck p todo hsw
    cases hs; refine h.setLane hc rfl rfl ?_ rfl rfl fun minAck' todo' hr => ?_
    · exact (h.lanes i).keep rfl rfl rfl (List.Subset.refl _) fun _ ha => ha
    · cases hr; exact h.sweeps i minAck _ hsw
  · cases hs; refine h.setLane hc rfl rfl ?_ rfl rfl fun minAck' todo' hr => by cases hr
    exact (h.lanes i).keep rfl rfl rfl (List.Subset.refl _) fun _ ha => ha
  · cases hs

lemma Inv.step (hc : Shared cfg) (h : Inv cfg s) (ha : Allowed segmentBytes s l)
    (hs : step C segmentBytes cfg s l = some s') : Inv cfg s' := by
  cases l with
  | register => exact h.register hc ha hs
  | append => exact h.append hc ha.1 ha.2 hs
  | process => exact h.process hc hs
  | pop => exact h.pop hc hs
  | task =>
    simp only [Retention.step] at hs; split at hs
    · cases hs
    · refine h.taskStep hc hs rfl rfl rfl rfl (fun _ ha => ha) (fun f outs hl hpc => ?_)
      subst hl; exact ha outs hpc
  | sweepBegin => exact h.sweepBegin hc hs
  | sweepPart => exact h.sweepPart hc hs

lemma Inv.initial (h : Initial s) : Inv cfg s := by
  obtain ⟨hl, ht, -, -⟩ := h
  refine ⟨fun i => ?_, fun i x hx => ?_, fun j minAck todo hru => ?_⟩
  · obtain ⟨ledger, hi⟩ := hl i; rw [hi]
    exact ⟨fun hr => (by cases hr), fun _ => ⟨rfl, rfl⟩, .inl rfl, fun _ _ _ => Nat.zero_le _⟩
  · grind
  · obtain ⟨ledger, hj⟩ := hl j; rw [hj] at hru; cases hru

end Invariant

theorem retention_safe (C : Codec Event) (segmentBytes : Nat) {cfg : Nat → LaneCfg} (hc : Shared cfg) {s : St}
    (h : ((machine C segmentBytes cfg).restrict (Allowed segmentBytes)).Reachable s) :
    Retains s := by
  have hin : ((machine C segmentBytes cfg).restrict (Allowed segmentBytes)).Inductive (Inv cfg) :=
    ⟨fun _ hi => Inv.initial hi, fun _ _ _ hiv hst => hiv.step hc hst.1 hst.2⟩
  exact (hin.reachable h).retains

def eventIn (p : PartitionId) (k : UInt8) : Event :=
  { Event.plain (BitVec.ofNat 128 k.toNat) [k] with partition := p }

def eventCodec : Codec Event where
  encode e := match e.payload with
    | [k] => if e = eventIn e.partition k then some (leBytes 2 e.partition.toNat ++ [k]) else none
    | _ => none
  decode
    | [a, b, k] => some (eventIn (UInt16.ofNat (leVal [a, b])) k)
    | _ => none
  crc32 := crc32

lemma eventCodec_round_trip (e : Event) (b : Bytes) (h : eventCodec.encode e = some b) :
    eventCodec.decode b = some e := by
  simp only [eventCodec] at h ⊢; split at h
  · rename_i k _
    split_ifs at h with he; cases h
    have hv : leVal (leBytes 2 e.partition.toNat) = e.partition.toNat := leVal_leBytes e.partition.toNat_lt
    simp only [leBytes, cons_append, nil_append] at hv ⊢
    rw [hv, UInt16.ofNat_toNat, ← he]
  · cases h

def laneCfg (i : Nat) : LaneCfg where
  ctx := ⟨.perEvent, .skipToDlq, 3, 50000, String.ofList (List.replicate (i + 1) 's'), true, true⟩
  tracker := 0

lemma laneCfg_shared : Shared laneCfg where
  tracker _ _ := rfl
  name i j h := by simpa [laneCfg] using congrArg String.length h

def emptyLanes : St where
  lanes _ := { task := { ledger := some {} } }

lemma emptyLanes_initial : Initial emptyLanes := ⟨fun _ => ⟨some {}, rfl⟩, fun _ => rfl, fun _ => rfl, rfl⟩

def outputIn (p : PartitionId) (k : UInt8) (seq : Nat) : Output :=
  { Output.plain (BitVec.ofNat 128 k.toNat) with sourcePartition := some p, l2Seq := some seq }

def twoPartitions : List Lbl := [.register 0, .append 0 (eventIn 0 0), .append 0 (eventIn 0 1),
    .append 0 (eventIn 0 2),
    .append 0 (eventIn 1 3), .append 0 (eventIn 1 4),
    .process 0 3 [(0, outputIn 0 0 0), (1, outputIn 0 1 1), (2, outputIn 0 2 2)], .pop 0,
    .task 0 (.answer (.ok fun _ => .delivered)), .task 0 .gc, .sweepBegin 0 [0, 1],
    .sweepPart 0 fun _ => true]

def failedFirst : List Lbl := [.register 0, .append 0 (eventIn 0 0), .append 0 (eventIn 0 1),
    .process 0 2 [(0, outputIn 0 0 0), (1, outputIn 0 1 1)], .pop 0,
    .task 0 (.answer (.ok fun tag => if tag = 0 then .failed "sink full" else .delivered)),
    .task 0 .gc, .sweepBegin 0 [0]]

structure SweptLane where
  sweep : Sweep
  records : List (PartitionId × Nat)
  processed : Nat
  origin : List Nat
  delivered : List Nat
  segments : List Nat
  afterSweep : List Nat
  deriving DecidableEq

def sweptLane (s : St) : SweptLane :=
  let lane := s.lanes 0
  let (minAck, p) := match lane.sweep with
    | .running minAck (p :: _) => (minAck, p)
    | _ => (0, 0)
  let store := (s.stores p).getD { segmentBytes := 0 }
  { sweep := lane.sweep, records := lane.records, processed := lane.processed, origin := lane.origin
    delivered := lane.task.delivered
    segments := store.segments.map Segment.start
    afterSweep := (store.gcUpTo minAck fun _ => true).segments.map Segment.start }

lemma not_retains {minAck n seq : Nat} {todo : List PartitionId}
    (hs : (sweptLane s).sweep = .running minAck (p :: todo)) (hr : (sweptLane s).records[n]? = some (p, seq))
    (hlt : seq < minAck)
    (hun : n < (sweptLane s).processed →
      ∃ k < (sweptLane s).origin.length, (sweptLane s).origin[k]? = some n ∧ k ∉ (sweptLane s).delivered) :
    ¬ Retains s := by
  intro h
  have hu : Unacked (s.lanes 0) n (p, seq) := by
    refine ⟨hr, fun ha => ?_⟩; obtain ⟨k, hk, hkn, hn⟩ := hun ha.1
    exact hn (ha.2.2 k hk hkn)
  exact absurd (h 0 minAck p todo hs 0 n (p, seq) hu rfl).1 (Nat.not_le.mpr hlt)

def twoPartitionsLane : SweptLane :=
  ⟨.running 2 [1], [(0, 0), (0, 1), (0, 2), (1, 0), (1, 1)], 3, [0, 1, 2], [0, 1, 2], [0, 1], [1]⟩

def failedFirstLane : SweptLane := ⟨.running 1 [0], [(0, 0), (0, 1)], 2, [0, 1], [1], [0, 1], [1]⟩

lemma twoPartitions_view :
    (LTS.exec (step eventCodec 1 laneCfg) emptyLanes twoPartitions).map sweptLane =
      some twoPartitionsLane := by decide +kernel

lemma failedFirst_view :
    (LTS.exec (step eventCodec 1 laneCfg) emptyLanes failedFirst).map sweptLane = some failedFirstLane := by
      decide +kernel

theorem retention_broken : (∀ e b, eventCodec.encode e = some b → eventCodec.decode b = some e) ∧
    (∃ s, (machine eventCodec 1 laneCfg).Reachable s ∧ sweptLane s = twoPartitionsLane ∧ ¬ Retains s) ∧
    ∃ s, (machine eventCodec 1 laneCfg).Reachable s ∧ sweptLane s = failedFirstLane ∧ ¬ Retains s := by
  obtain ⟨s₁, hs₁, hv₁⟩ := map_eq_some_iff.mp twoPartitions_view
  obtain ⟨s₂, hs₂, hv₂⟩ := map_eq_some_iff.mp failedFirst_view
  refine ⟨eventCodec_round_trip, ⟨s₁, ⟨emptyLanes, twoPartitions, emptyLanes_initial, LTS.run_of_exec hs₁⟩,
    hv₁, ?_⟩,
    s₂, ⟨emptyLanes, failedFirst, emptyLanes_initial, LTS.run_of_exec hs₂⟩, hv₂, ?_⟩
  · exact not_retains (n := 3) (by rw [hv₁]; rfl) (by rw [hv₁]; rfl) (by decide) (by rw [hv₁]; decide)
  · exact not_retains (n := 0) (by rw [hv₂]; rfl) (by rw [hv₂]; rfl) (by decide) (by rw [hv₂]; decide)

instance (lane : Lane) (n : Nat) : Decidable (Acked lane n) :=
  inferInstanceAs (Decidable (n < lane.processed ∧ (∀ batch ∈ lane.sinkBuf, n ∉ batch.map Prod.fst) ∧
    ∀ k < lane.origin.length, lane.origin[k]? = some n → k ∈ lane.task.delivered))

def inOrder : List Lbl := [.register 0, .append 0 (eventIn 0 0), .append 0 (eventIn 0 1),
    .process 0 2 [(0, outputIn 0 0 0), (1, outputIn 0 1 1)], .pop 0,
    .task 0 (.answer (.ok fun _ => .delivered)), .append 0 (eventIn 0 2), .task 0 .gc, .sweepBegin 0 [0]]

def inOrderLane : SweptLane := ⟨.running 1 [0], [(0, 0), (0, 1), (0, 2)], 2, [0, 1], [0, 1], [0, 1, 2],
    [1, 2]⟩

lemma inOrder_allowed : LTS.Along (step eventCodec 1 laneCfg) (Allowed 1) emptyLanes inOrder := by
  refine ⟨fun _ _ _ => nofun, _, rfl, ⟨rfl, by decide⟩, _, rfl, ⟨rfl, by decide +kernel⟩, _, rfl, trivial, _,
    rfl, trivial, _, rfl, ?_, _, rfl, ⟨rfl, by decide +kernel⟩, _, rfl, trivial, _, rfl, trivial, _, rfl,
      trivial⟩
  intro outs hpc n r hun; cases hpc
  match n, hun with
  | 0, hun => exact absurd (by decide +kernel) hun.2
  | 1, hun => exact absurd (by decide +kernel) hun.2
  | n + 2, hun => cases hun.1

theorem retention_safe_in_order :
    ∃ s, ((machine eventCodec 1 laneCfg).restrict (Allowed 1)).Reachable s ∧ sweptLane s = inOrderLane ∧
      Retains s := by
  have h : (LTS.exec (step eventCodec 1 laneCfg) emptyLanes inOrder).map sweptLane = some inOrderLane := by
    decide +kernel
  obtain ⟨s, hs, hv⟩ := map_eq_some_iff.mp h
  have hr : ((machine eventCodec 1 laneCfg).restrict (Allowed 1)).Reachable s :=
    ⟨emptyLanes, inOrder, emptyLanes_initial, LTS.run_restrict inOrder_allowed hs⟩
  exact ⟨s, hr, hv, retention_safe eventCodec 1 laneCfg_shared hr⟩

end Aeon.L3.Retention
