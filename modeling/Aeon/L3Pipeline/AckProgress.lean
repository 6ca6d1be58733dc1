import Aeon.L3Pipeline.Retention

/-!
# How far the watermark comes

The sink task calls `record_ack` with the result of a first write, not with that of a retry and not
when a flush credits what was pending (`crates/aeon-engine/src/pipeline.rs:642-697`, `2010-2028`).

* `watermark_complete`: when a watermark reaches what its partition has delivered;
* `watermark_stays`: a flush, and a retry.
-/
namespace Aeon.L3.AckProgress

open Function List Option Aeon.Core Aeon.Types Aeon.L3.Delivery Aeon.L3.SinkTask Aeon.L3.Retention
open Aeon.L2.Body (Codec)

def Reaches (tracker : AckSeqTracker) (sink : String) (seq : Nat) : Prop :=
  sink ∈ tracker.inner.map Prod.fst ∧ ∀ v, (sink, v) ∈ tracker.inner → seq ≤ v

def DeliveredUpTo (lane : Lane) (r : PartitionId × Nat) : Prop :=
  ∀ (m : Nat) (r' : PartitionId × Nat), lane.records[m]? = some r' → r'.1 = r.1 → r'.2 ≤ r.2 → Acked lane m

def Complete (cfg : Nat → LaneCfg) (s : St) : Prop :=
  ∀ (i n : Nat) (r : PartitionId × Nat), (s.lanes i).records[n]? = some r → DeliveredUpTo (s.lanes i) r →
    Reaches (s.trackers (cfg i).tracker) (cfg i).ctx.sinkName r.2

def Carries (records : List (PartitionId × Nat)) (n : Nat) (out : Output) : Prop :=
  ∃ r ∈ records[n]?, out.l2Seq = some r.2
  deriving Decidable

def Covered (t : Task) (out : Output) : Prop := ∀ q ∈ out.l2Seq, q ≤ t.maxAckedSeq
  deriving Decidable

def recorded (pc : Pc) (f : Nat → Outcome) : List Nat :=
  match pc with
  | .writing outs => reportedSeqs outs f
  | _ => []

def Reported (t : Task) : SinkTask.Lbl → Prop
  | .answer (.ok f) => ∀ o ∈ t.pc.outs, f o.tag = .delivered →
      Covered t o.out ∨ ∀ q ∈ o.out.l2Seq, ∃ x ∈ recorded t.pc f, q ≤ x
  | .flushed (.ok ()) _ => ∀ o ∈ t.received, o.tag ∈ t.unflushed → Covered t o.out
  | _ => True

def Allowed (s : St) : Retention.Lbl → Prop
  | .process i k outs => (∀ j < k, j ∈ outs.map Prod.fst) ∧
      ∀ x ∈ outs, Carries (s.lanes i).records ((s.lanes i).processed + x.1) x.2
  | .task i l => Reported (s.lanes i).task l
  | _ => True

section Tracker

variable {tracker : AckSeqTracker} {sink other : String} {seq seq' : Nat}

lemma Reaches.mono (h : Reaches tracker sink seq) (hle : seq' ≤ seq) : Reaches tracker sink seq' :=
  ⟨h.1, fun v hv => hle.trans (h.2 v hv)⟩

lemma reaches_registerSink : Reaches (tracker.registerSink sink) sink 0 := by
  refine ⟨?_, fun v _ => Nat.zero_le v⟩; grind [AckSeqTracker.registerSink]

lemma Reaches.registerSink (h : Reaches tracker sink seq) :
    Reaches (tracker.registerSink other) sink seq := by
  unfold AckSeqTracker.registerSink; split_ifs with hin
  · exact h
  · refine ⟨by simpa using .inl (by simpa using h.1), fun v hv => ?_⟩
    rcases mem_append.mp hv with hv | hv
    · exact h.2 v hv
    · -- the new entry is of another sink
      obtain ⟨rfl, -⟩ := Prod.mk.inj (mem_singleton.mp hv); exact absurd h.1 hin

lemma keys_recordAck :
    (tracker.recordAck sink seq).inner.map Prod.fst = (tracker.registerSink sink).inner.map Prod.fst := by
  rw [AckSeqTracker.recordAck, List.map_map]; rfl

lemma Reaches.recordAck (h : Reaches tracker sink seq) : Reaches (tracker.recordAck other seq') sink seq := by
  have hr : Reaches (tracker.registerSink other) sink seq := h.registerSink
  refine ⟨keys_recordAck ▸ hr.1, fun v hv => ?_⟩
  obtain ⟨⟨k, w⟩, hw, heq⟩ := List.mem_map.mp hv; obtain ⟨rfl, rfl⟩ := Prod.mk.inj heq
  have hle := hr.2 w hw; grind

lemma reaches_recordAck : Reaches (tracker.recordAck sink seq) sink seq := by
  refine ⟨keys_recordAck ▸ reaches_registerSink.1, fun v hv => ?_⟩
  obtain ⟨⟨k, w⟩, -, heq⟩ := List.mem_map.mp hv; grind

end Tracker

section Task

variable {ctx : Ctx} {tracker : AckSeqTracker} {tracker' : Option AckSeqTracker} {t t' : Task}
  {l : SinkTask.Lbl}
  {effects : List Effect}

structure Credited (t : Task) : Prop where
  tags : ∀ (k : Nat) (o : Tagged), t.received[k]? = some o → o.tag = k
  outs : ∀ o ∈ t.pc.outs, o ∈ t.received
  old : ∀ tag ∈ t.delivered ++ t.unflushed, tag < t.received.length
  covered : ∀ o ∈ t.received, o.tag ∈ t.delivered → Covered t o.out

lemma le_batchMax {outs : List Tagged} {delivered : List Uuid}
    (h : x ∈ delivered.filterMap (l2SeqById outs)) : x ≤ batchMax outs delivered := by
  have hm : ∀ (l : List Nat) (m : Nat), m ≤ l.foldl max m ∧ ∀ x ∈ l, x ≤ l.foldl max m := by
    intro l
    induction l with
    | nil => exact fun m => ⟨Nat.le_refl m, fun _ hx => absurd hx not_mem_nil⟩
    | cons => grind
  exact (hm _ 0).2 x h

lemma maxAckedSeq_mono (h : SinkTask.step ctx (some tracker) t l = some (t', tracker', effects)) :
    t.maxAckedSeq ≤ t'.maxAckedSeq := by
  rcases step_acks h with ⟨hm, -⟩ | ⟨_, _, _, _, hlt, -⟩
  · exact Nat.le_of_eq hm.symm
  · exact hlt.le

lemma Covered.mono {out : Output} (h : Covered t out) (hle : t.maxAckedSeq ≤ t'.maxAckedSeq) :
    Covered t' out :=
  fun q hq => (h q hq).trans hle

lemma recorded_le (h : SinkTask.step ctx (some tracker) t (.answer (.ok f)) = some (t', tracker', effects)) :
    ∀ x ∈ recorded t.pc f, x ≤ t'.maxAckedSeq := by
  intro x hx; unfold recorded at hx; split at hx
  · rename_i outs hpc
    simp only [SinkTask.step, hpc] at h; cases h
    have hs := handleBatchFailures_booked ctx (t.book outs f (t.ackedSeq (some tracker) outs f)) outs
      (batchResult outs f).failed
    have hm : (t.onWritten ctx (some tracker) outs f).1.maxAckedSeq =
        (t.ackedSeq (some tracker) outs f).getD t.maxAckedSeq := hs.maxAckedSeq
    rw [hm, Task.ackedSeq]; split_ifs with hup
    · exact le_batchMax hx
    · exact (le_batchMax hx).trans (Nat.le_of_not_lt fun hlt => hup ⟨rfl, hlt⟩)
  · cases hx

lemma covered_of_answer (hr : Reported t (.answer (.ok f)))
    (h : SinkTask.step ctx (some tracker) t (.answer (.ok f)) = some (t', tracker', effects)) :
    ∀ o ∈ t.pc.outs, f o.tag = .delivered → Covered t' o.out := by
  intro o ho hf; rcases hr o ho hf with hc | hn
  · exact hc.mono (maxAckedSeq_mono h)
  · intro q hq; obtain ⟨x, hx, hqx⟩ := hn q hq; exact hqx.trans (recorded_le h x hx)

lemma mem_tagsWhere {outs : List Tagged} {tag : Nat} :
    tag ∈ tagsWhere outs f c ↔ (∃ o ∈ outs, o.tag = tag) ∧ f tag = c := by simp [tagsWhere]

section

variable (h : Credited t)
include h

lemma Credited.unique (ho : o ∈ t.received) (ho' : o' ∈ t.received) (ht : o.tag = o'.tag) : o = o' := by
  obtain ⟨k, hk⟩ := mem_iff_getElem?.mp ho
  obtain ⟨k', hk'⟩ := mem_iff_getElem?.mp ho'
  simp_all [h.tags k o hk, h.tags k' o' hk']

lemma Credited.tag_lt (ho : o ∈ t.received) : o.tag < t.received.length := by
  obtain ⟨k, hk⟩ := mem_iff_getElem?.mp ho; rw [h.tags k o hk]; grind

lemma Credited.pop (outs : List Output) : Credited (t.onPop outs) where
  tags k o hk := by
    rcases Nat.lt_or_ge k t.received.length with hlt | hge
    · exact h.tags k o ((getElem?_append_left hlt).symm.trans hk)
    · have ht := tag_of_number ((getElem?_append_right hge).symm.trans hk); omega
  outs o ho := mem_append_right _ ho
  old tag ht := by have hlt := h.old tag ht; simp only [Task.onPop, length_append]; omega
  covered o ho ht := by
    have hlt := h.old o.tag (mem_append_left _ ht)
    rcases mem_append.mp ho with ho | ho
    · exact h.covered o ho ht
    · obtain ⟨n, hn⟩ := mem_iff_getElem?.mp ho; have hne := tag_of_number hn; omega

lemma Credited.keep (hr : t'.received = t.received)
    (hou : ∀ o ∈ t'.pc.outs, o ∈ t.pc.outs) (hle : t.maxAckedSeq ≤ t'.maxAckedSeq)
    (hold : ∀ tag ∈ t'.delivered ++ t'.unflushed, tag ∈ t.delivered ++ t.unflushed ∨ ∃ o ∈ t.pc.outs,
      o.tag = tag)
    (hn : ∀ o ∈ t.received, o.tag ∈ t'.delivered → o.tag ∈ t.delivered ∨ Covered t' o.out) : Credited t' where
  tags := hr ▸ h.tags
  outs o ho := hr ▸ h.outs o (hou o ho)
  old tag ht := by
    rw [hr]; rcases hold tag ht with hin | ⟨o, ho, rfl⟩
    · exact h.old tag hin
    · exact h.tag_lt (h.outs o ho)
  covered o ho ht := by
    rw [hr] at ho; rcases hn o ho ht with hin | hc
    · exact (h.covered o ho hin).mono hle
    · exact hc

lemma Credited.step (hr : Reported t l)
    (hs : SinkTask.step ctx (some tracker) t l = some (t', tracker', effects)) : Credited t' := by
  have hle := maxAckedSeq_mono hs
  have hp : ∀ outs, t' = t.onPop outs → Credited t' := fun outs heq => heq ▸ h.pop outs
  rcases step_outs hs with ⟨outs, rfl⟩ | hou
  · cases step_cases hs with
    | pop => exact hp outs rfl
  cases step_booked hs with
  | pop heq => exact hp _ heq
  | same _ outputs =>
    refine h.keep outputs.received hou hle ?_ ?_
    · simp_all [outputs.delivered, outputs.unflushed]
    simp_all [outputs.delivered]
  | failed _ _ outputs =>
    refine h.keep outputs.received hou hle ?_ ?_
    · simp_all [outputs.delivered, outputs.unflushed]
    simp_all [outputs.delivered]
  | answered _ _ outputs =>
    rename_i f
    refine h.keep outputs.received hou hle ?_ ?_
    · rw [outputs.delivered, outputs.unflushed]; intro tag ht
      simp only [Task.note, mem_append, mem_tagsWhere] at ht ⊢
      tauto
    · rw [outputs.delivered]; intro o ho ht; rcases mem_append.mp ht with ht | ht
      · exact .inl ht
      · obtain ⟨⟨o', ho', heq⟩, hf⟩ := mem_tagsWhere.mp ht
        rw [← h.unique (h.outs o' ho') ho heq]
        exact .inr (covered_of_answer hr hs o' ho' (heq ▸ hf))
  | flushed _ outputs =>
    refine h.keep outputs.received hou hle ?_ ?_
    · simp_all [outputs.delivered, outputs.unflushed, Task.creditPendingOnFlush]
    · rw [outputs.delivered]; intro o ho ht; rcases mem_append.mp ht with ht | ht
      · exact .inl ht
      · exact .inr ((hr o ho ht).mono hle)

end

end Task

structure Traced (lane : Lane) : Prop where
  length : lane.origin.length = lane.task.received.length
  taken : ∀ (k n : Nat), lane.origin[k]? = some n →
    ∃ o, lane.task.received[k]? = some o ∧ Carries lane.records n o.out
  queued : ∀ batch ∈ lane.sinkBuf, ∀ x ∈ batch, Carries lane.records x.1 x.2
  made : ∀ n < lane.processed, (∃ batch ∈ lane.sinkBuf, n ∈ batch.map Prod.fst) ∨ n ∈ lane.origin

structure Progress (tracker : AckSeqTracker) (sink : String) (lane : Lane) : Prop where
  traced : Traced lane
  credited : Credited lane.task
  fresh : ¬ lane.registered → lane.task.received = [] ∧ lane.task.maxAckedSeq = 0
  entry : lane.registered → Reaches tracker sink lane.task.maxAckedSeq

def Inv (cfg : Nat → LaneCfg) (s : St) : Prop :=
  ∀ i, Progress (s.trackers (cfg i).tracker) (cfg i).ctx.sinkName (s.lanes i)

section Invariant

variable {C : Codec Event} {segmentBytes : Nat} {cfg : Nat → LaneCfg} {s s' : St} {i : Nat} {lane : Lane}
  {tracker : AckSeqTracker} {sink : String}

lemma Progress.reaches (h : Progress tracker sink lane) (hr : lane.records[n]? = some r) (ha : Acked lane n) :
    Reaches tracker sink r.2 := by
  obtain ⟨hn, hq, hou⟩ := ha; rcases h.traced.made n hn with ⟨batch, hb, hm⟩ | hor
  · grind
  obtain ⟨k, hk⟩ := mem_iff_getElem?.mp hor
  obtain ⟨o, ho, r', hr', hs⟩ := h.traced.taken k n hk
  obtain rfl := Option.some.inj (hr'.symm.trans hr)
  have hlt : k < lane.origin.length := (List.getElem?_eq_some_iff.mp hk).1
  have hre : lane.registered := by by_contra hno; rw [(h.fresh hno).1] at ho; cases ho
  have hd : o.tag ∈ lane.task.delivered := by rw [h.credited.tags k o ho]; exact hou k hlt hk
  exact (h.entry hre).mono (h.credited.covered o (mem_of_getElem? ho) hd _ hs)

lemma Inv.complete (h : Inv cfg s) : Complete cfg s :=
  fun i n r hr hup => (h i).reaches hr (hup n r hr rfl le_rfl)

lemma Inv.update (h : Inv cfg s) (hl : s'.lanes = update s.lanes i lane)
    (ht : ∀ k sink seq, Reaches (s.trackers k) sink seq → Reaches (s'.trackers k) sink seq)
    (hs : Progress (s'.trackers (cfg i).tracker) (cfg i).ctx.sinkName lane) : Inv cfg s' := by
  intro j; rw [hl]; by_cases hj : j = i
  · grind
  · rw [update_of_ne hj]; obtain ⟨htr, hc, hf, he⟩ := h j
    exact ⟨htr, hc, hf, fun hr => ht _ _ _ (he hr)⟩

lemma reaches_update {trackers : Nat → AckSeqTracker}
    (h : ∀ sink seq, Reaches (trackers k) sink seq → Reaches tracker sink seq) (k' : Nat) (sink : String)
    (seq : Nat) (hr : Reaches (trackers k') sink seq) :
    Reaches (update trackers k tracker k') sink seq := by grind

lemma Carries.append {records : List (PartitionId × Nat)} {out : Output} (h : Carries records n out)
    (rest : List (PartitionId × Nat)) : Carries (records ++ rest) n out := by
  obtain ⟨r, hr, hs⟩ := h
  exact ⟨r, (getElem?_append_left (List.getElem?_eq_some_iff.mp hr).1).trans hr, hs⟩

lemma Traced.task (h : Traced lane) {lane' : Lane} (hr : lane'.task.received = lane.task.received)
    (hre : lane'.records = lane.records) (hp : lane'.processed = lane.processed)
    (hb : lane'.sinkBuf = lane.sinkBuf) (ho : lane'.origin = lane.origin) : Traced lane' := by
  constructor
  · rw [ho, hr]; exact h.length
  · rw [ho, hr, hre]; exact h.taken
  · rw [hb, hre]; exact h.queued
  · rw [hp, hb, ho]; exact h.made

lemma Traced.pop (h : Traced lane) {batch : List (Nat × Output)} {rest : List (List (Nat × Output))}
    (hbu : lane.sinkBuf = batch :: rest) {lane' : Lane}
    (ht : lane'.task.received = (lane.task.onPop (batch.map Prod.snd)).received)
    (hre : lane'.records = lane.records) (hp : lane'.processed = lane.processed) (hrs : lane'.sinkBuf = rest)
    (ho : lane'.origin = lane.origin ++ batch.map Prod.fst) : Traced lane' := by
  have hr : lane'.task.received = lane.task.received ++ number lane.task.received.length
    (batch.map Prod.snd) := ht
  constructor
  · simp [ho, hr, length_append, length_number, h.length, length_map]
  · intro k n hk; rw [ho] at hk; rw [hr, hre]
    rcases Nat.lt_or_ge k lane.origin.length with hlt | hge
    · rw [getElem?_append_left hlt] at hk
      rw [getElem?_append_left (h.length ▸ hlt)]; exact h.taken k n hk
    · -- an output of the batch
      rw [getElem?_append_right hge, getElem?_map] at hk
      obtain ⟨x, hx, rfl⟩ := map_eq_some_iff.mp hk
      rw [getElem?_append_right (h.length ▸ hge), getElem?_number, getElem?_map, ← h.length, hx]
      exact ⟨_, rfl, h.queued batch (hbu ▸ mem_cons_self) x (mem_of_getElem? hx)⟩
  · rw [hrs, hre]; exact fun b hb => h.queued b (hbu ▸ mem_cons_of_mem _ hb)
  · rw [hp, hrs, ho]; intro n hn; rcases h.made n hn with ⟨b, hb, hm⟩ | hin
    · grind
    grind

lemma Progress.sweep (h : Progress tracker sink lane) (sweep : Sweep) :
    Progress tracker sink { lane with sweep := sweep } :=
  ⟨h.traced.task rfl rfl rfl rfl rfl, h.credited, h.fresh, h.entry⟩

lemma Inv.taskStep (h : Inv cfg s) (hs : taskStep cfg s i lane l = some s')
    (hta : lane.task = (s.lanes i).task) (hr : Reported lane.task l)
    (hrg : lane.registered = (s.lanes i).registered)
    (htc : ∀ t tracker' effects, SinkTask.step (cfg i).ctx (some (s.trackers (cfg i).tracker)) lane.task l =
      some (t, tracker', effects) → Traced { lane with task := t }) :
    Inv cfg s' := by
  unfold Retention.taskStep at hs; split_ifs at hs with hg
  obtain ⟨⟨t, tracker', effects⟩, ht, rfl⟩ := map_eq_some_iff.mp hs
  obtain ⟨hne, hnr, hn, hnb, hno, -⟩ := noteReport_keeps lane l
  have hc : Credited t := (hta ▸ (h i).credited : Credited lane.task).step hr ht
  have he : Reaches (s.trackers (cfg i).tracker) (cfg i).ctx.sinkName lane.task.maxAckedSeq :=
    hta ▸ (h i).entry (hrg ▸ hg.1)
  have htr : (∀ sink seq, Reaches (s.trackers (cfg i).tracker) sink seq →
      Reaches (tracker'.getD (s.trackers (cfg i).tracker)) sink seq) ∧
      Reaches (tracker'.getD (s.trackers (cfg i).tracker)) (cfg i).ctx.sinkName t.maxAckedSeq := by
    rcases step_acks ht with ⟨hm, rfl⟩ | ⟨_, _, _, _, _, _, _, rfl⟩
    · grind
    · exact ⟨fun _ _ hre => hre.recordAck, reaches_recordAck⟩
  refine h.update rfl (reaches_update htr.1) ?_; simp only [update_self]
  refine ⟨?_, hc, fun hnt => absurd (hne.trans hg.1) hnt, fun _ => htr.2⟩
  exact (htc t tracker' effects ht).task rfl hnr hn hnb hno

lemma Inv.register (h : Inv cfg s) (hs : Retention.step C segmentBytes cfg s (.register i) = some s') :
    Inv cfg s' := by
  simp only [Retention.step] at hs; split_ifs at hs with hre; cases hs
  obtain ⟨ht, hc, hf, -⟩ := h i
  refine h.update rfl (reaches_update fun _ _ hr => hr.registerSink) ?_
  simp only [update_self]
  refine ⟨ht.task rfl rfl rfl rfl rfl, hc, fun hn => absurd rfl hn, fun _ => ?_⟩
  rw [(hf hre).2]; exact reaches_registerSink

lemma Inv.append (h : Inv cfg s) (hs : Retention.step C segmentBytes cfg s (.append i e) = some s') :
    Inv cfg s' := by
  simp only [Retention.step] at hs; obtain ⟨ht, hc, hf, he⟩ := h i; split at hs
  · cases hs
    refine h.update rfl (fun _ _ _ hr => hr) ⟨⟨ht.length, ?_, ?_, ht.made⟩, hc, hf, he⟩
    · intro k n hk; obtain ⟨o, ho, hca⟩ := ht.taken k n hk; exact ⟨o, ho, hca.append _⟩
    · exact fun batch hb x hx => (ht.queued batch hb x hx).append _
  · cases hs; exact h

lemma Inv.process (h : Inv cfg s) {outs : List (Nat × Output)} (ha : Allowed s (.process i k outs))
    (hs : Retention.step C segmentBytes cfg s (.process i k outs) = some s') : Inv cfg s' := by
  simp only [Retention.step] at hs; split_ifs at hs with hg; cases hs
  obtain ⟨hm, hca⟩ := ha; obtain ⟨ht, hc, hf, he⟩ := h i
  refine h.update rfl (fun _ _ _ hr => hr) ⟨⟨ht.length, ht.taken, ?_, ?_⟩, hc, hf, he⟩
  · intro batch hb x hx; rcases mem_append.mp hb with hb | hb
    · exact ht.queued batch hb x hx
    grind
  · intro n hn; rcases Nat.lt_or_ge n (s.lanes i).processed with hlt | hge
    · rcases ht.made n hlt with ⟨batch, hb, hme⟩ | hin
      · grind
      · exact .inr hin
    · -- an event taken now
      obtain ⟨y, hy, hj⟩ := List.mem_map.mp (hm (n - (s.lanes i).processed) (by simp only at hn; omega))
      refine .inl ⟨_, mem_append_right _ (mem_singleton_self _), ?_⟩; grind

lemma Inv.pop (h : Inv cfg s) (hs : Retention.step C segmentBytes cfg s (.pop i) = some s') : Inv cfg s' := by
  simp only [Retention.step] at hs; split at hs
  · cases hs
  · rename_i batch rest hb
    refine h.taskStep hs rfl trivial rfl fun t tracker' effects ht => ?_
    cases step_cases ht with
    | pop => exact (h i).traced.pop hb rfl rfl rfl rfl rfl

lemma Inv.sweepBegin (h : Inv cfg s) {order : List PartitionId}
    (hs : Retention.step C segmentBytes cfg s (.sweepBegin i order) = some s') : Inv cfg s' := by
  simp only [Retention.step] at hs; split_ifs at hs; cases hs
  exact h.update rfl (fun _ _ _ hr => hr) ((h i).sweep _)

lemma Inv.sweepPart (h : Inv cfg s) {elapsed : Nat → Bool}
    (hs : Retention.step C segmentBytes cfg s (.sweepPart i elapsed) = some s') : Inv cfg s' := by
  simp only [Retention.step] at hs; split at hs
  · cases hs; exact h.update rfl (fun _ _ _ hr => hr) ((h i).sweep _)
  · cases hs; exact h.update rfl (fun _ _ _ hr => hr) ((h i).sweep _)
  · cases hs

lemma Inv.step (h : Inv cfg s) (ha : Allowed s l) (hs : Retention.step C segmentBytes cfg s l = some s') :
    Inv cfg s' := by
  cases l with
  | register => exact h.register hs
  | append => exact h.append hs
  | process => exact h.process ha hs
  | pop => exact h.pop hs
  | task i =>
    simp only [Retention.step] at hs; split at hs
    · cases hs
    · rename_i hl
      refine h.taskStep hs rfl ha rfl fun t tracker' effects ht => ?_
      refine (h i).traced.task ?_ rfl rfl rfl rfl; exact (step_booked ht).received hl
  | sweepBegin => exact h.sweepBegin hs
  | sweepPart => exact h.sweepPart hs

lemma Inv.initial (h : Initial s) : Inv cfg s := by
  intro i; obtain ⟨ledger, hi⟩ := h.1 i; rw [hi]
  exact ⟨⟨rfl, fun _ _ hk => (by cases hk), fun _ hb => absurd hb not_mem_nil,
      fun n hn => absurd hn (Nat.not_lt_zero n)⟩,
    ⟨fun _ _ hk => (by cases hk), fun _ ho => absurd ho not_mem_nil,
      fun _ ht => absurd ht not_mem_nil, fun _ ho => absurd ho not_mem_nil⟩,
    fun _ => ⟨rfl, rfl⟩, fun hr => (by cases hr)⟩

end Invariant

theorem watermark_complete (C : Codec Event) (segmentBytes : Nat) (cfg : Nat → LaneCfg) {s : St}
    (h : ((machine C segmentBytes cfg).restrict Allowed).Reachable s) : Complete cfg s := by
  have hin : ((machine C segmentBytes cfg).restrict Allowed).Inductive (Inv cfg) :=
    ⟨fun _ hi => Inv.initial hi, fun _ _ _ hiv hst => hiv.step hst.1 hst.2⟩
  exact (hin.reachable h).complete

def retryCfg (strategy : DeliveryStrategy) (_ : Nat) : LaneCfg where
  ctx := ⟨strategy, .retryFailed, 3, 50000, "sink", true, true⟩
  tracker := 0

def batchOfTwo : List Retention.Lbl := [.register 0, .append 0 (eventIn 0 0), .append 0 (eventIn 0 1),
    .process 0 2 [(0, outputIn 0 0 0), (1, outputIn 0 1 1)], .pop 0]

def flushedBatch : List Retention.Lbl :=
  batchOfTwo ++ ([.task 0 (.answer (.ok fun _ => .pending)), .task 0 .gc, .task 0 (.tick true 0),
    .task 0 (.flushed (.ok ()) 0)] : List Retention.Lbl)

def retriedBatch : List Retention.Lbl := batchOfTwo ++ ([.task 0 (.answer (.ok fun _ => .failed "busy")),
    .task 0 (.answer (.ok fun _ => .delivered))] : List Retention.Lbl)

def mixedBatch : List Retention.Lbl :=
  [.register 0, .append 0 (eventIn 0 0), .append 0 (eventIn 0 1), .append 0 (eventIn 0 2),
    .process 0 3 [(0, outputIn 0 0 0), (1, outputIn 0 1 1), (2, outputIn 0 2 2)], .pop 0,
    .task 0 (.answer (.ok fun tag => if tag = 0 then .failed "busy" else if tag =
      1 then .pending else .delivered)),
    .task 0 (.answer (.ok fun _ => .delivered)), .task 0 .gc, .task 0 (.tick true 0),
    .task 0 (.flushed (.ok ()) 0)]

structure AckedLane where
  records : List (PartitionId × Nat)
  processed : Nat
  queued : Nat
  origin : List Nat
  delivered : List Nat
  watermarks : List (String × Nat)
  deriving DecidableEq

def ackedLane (s : St) : AckedLane :=
  let lane := s.lanes 0
  ⟨lane.records, lane.processed, lane.sinkBuf.length, lane.origin, lane.task.delivered, (s.trackers 0).inner⟩

def staysBehind : AckedLane := ⟨[(0, 0), (0, 1)], 2, 0, [0, 1], [0, 1], [("sink", 0)]⟩

lemma not_complete {strategy : DeliveryStrategy} (hv : ackedLane s = staysBehind) :
    ¬ Complete (retryCfg strategy) s := by
  intro h; have hre : (s.lanes 0).records = [(0, 0), (0, 1)] := congrArg AckedLane.records hv
  have ha : ∀ m < 2, Acked (s.lanes 0) m := by
    intro m hm; have hp : (s.lanes 0).processed = 2 := congrArg AckedLane.processed hv
    have hb : (s.lanes 0).sinkBuf = [] := length_eq_zero_iff.mp (congrArg AckedLane.queued hv)
    have ho : (s.lanes 0).origin = [0, 1] := congrArg AckedLane.origin hv
    have hd : (s.lanes 0).task.delivered = [0, 1] := congrArg AckedLane.delivered hv
    rw [Acked, hp, hb, ho, hd]; grind
  have hup : DeliveredUpTo (s.lanes 0) (0, 1) := by intro m r hr _ _; grind
  have he : ("sink", 0) ∈ (s.trackers 0).inner := by
    rw [show (s.trackers 0).inner = [("sink", 0)] from congrArg AckedLane.watermarks hv]
    exact mem_singleton_self _
  have hra := h 0 1 (0, 1) (by rw [hre]; rfl) hup; exact absurd (hra.2 0 he) (by decide)

theorem watermark_stays : (∃ s, (machine eventCodec 1 (retryCfg .unorderedBatch)).Reachable s ∧
    ackedLane s = staysBehind ∧
      ¬ Complete (retryCfg .unorderedBatch) s) ∧
    ∃ s, (machine eventCodec 1 (retryCfg .perEvent)).Reachable s ∧ ackedLane s = staysBehind ∧
      ¬ Complete (retryCfg .perEvent) s := by
  have h₁ : (LTS.exec (Retention.step eventCodec 1 (retryCfg .unorderedBatch)) emptyLanes flushedBatch).map
    ackedLane =
      some staysBehind := by decide +kernel
  have h₂ : (LTS.exec (Retention.step eventCodec 1 (retryCfg .perEvent)) emptyLanes retriedBatch).map
    ackedLane =
      some staysBehind := by decide +kernel
  obtain ⟨s₁, hs₁, hv₁⟩ := map_eq_some_iff.mp h₁
  obtain ⟨s₂, hs₂, hv₂⟩ := map_eq_some_iff.mp h₂
  exact ⟨⟨s₁, ⟨emptyLanes, _, emptyLanes_initial, LTS.run_of_exec hs₁⟩, hv₁, not_complete hv₁⟩,
    s₂, ⟨emptyLanes, _, emptyLanes_initial, LTS.run_of_exec hs₂⟩, hv₂, not_complete hv₂⟩

instance decidableReported (t : Task) : (l : SinkTask.Lbl) → Decidable (Reported t l)
  | .answer (.ok f) => inferInstanceAs (Decidable (∀ o ∈ t.pc.outs, f o.tag = .delivered →
      Covered t o.out ∨ ∀ q ∈ o.out.l2Seq, ∃ x ∈ recorded t.pc f, q ≤ x))
  | .flushed (.ok ()) _ => inferInstanceAs (Decidable (∀ o ∈ t.received, _ → _))
  | .answer (.error _) | .flushed (.error _) _ | .pop _ | .gc | .tick _ _ | .abandoned => isTrue trivial

instance decidableAllowed (s : St) (l : Retention.Lbl) : Decidable (Allowed s l) := by
  cases l <;> dsimp only [Allowed] <;> infer_instance

theorem watermark_complete_mixed :
    ∃ s, ((machine eventCodec 1 (retryCfg .unorderedBatch)).restrict Allowed).Reachable s ∧
      ackedLane s = ⟨[(0, 0), (0, 1), (0, 2)], 3, 0, [0, 1, 2], [2, 0, 1], [("sink", 2)]⟩ ∧
      Complete (retryCfg .unorderedBatch) s := by
  exact LTS.exists_restrict emptyLanes_initial mixedBatch (by decide +kernel) fun _ =>
    watermark_complete eventCodec 1 _

end Aeon.L3.AckProgress
