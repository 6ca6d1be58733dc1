import Aeon.L3Pipeline.Managed

/-!
# Hand-off in the managed runner

Batches go over a ring to the processor task and their outputs over a second one to the sink task
(`run_buffered_managed`, `crates/aeon-engine/src/pipeline.rs:2319-2704`).

* `hand_off_exact`: when every event is processed once, in order, and a processor is replaced over
  empty rings;
* `hand_off_broken`: a notification inside `next_batch`, and a batch behind a failed pop.
-/
namespace Aeon.L3.HandOff

open Option Aeon.Core Aeon.Types Aeon.L3.SinkTask Aeon.L3.Runner Aeon.L3.Managed

variable {P : Type}

structure HandedOver (s : Pipe P) : Prop where
  input : s.returned = s.handled.map Handled.events ++ (s.proc.input ++ (s.srcRing ++ s.src.held))
  each : ∀ h ∈ s.handled, (h.baseline ++ h.canary).Perm h.events ∧ (h.canary ≠ [] → h.candidate.isSome)
  output : s.handled.map Handled.outputs = s.sink.batches ++ (s.sinkRing ++ s.proc.output)
  processed : s.proc = .finished → s.returned = s.handled.map Handled.events
  received : s.sink.task.pc = .finished → s.sink.batches = s.handled.map Handled.outputs

def SwapQuiet (s : St P) : Prop :=
  s.pipe.proc = .taking → s.ctl.newProcessor.isSome → s.pipe.srcRing = [] ∧ s.pipe.sinkRing = []

def Clean (s : St P) : Lbl P → Prop
  | .run .shutdown => False
  | .run (.batch (.error _)) => False
  | .run (.processed baseline canary) => (∃ outs, baseline = .ok outs) ∧ ∃ outs, canary = .ok outs
  | .run (.sinkTask (.answer (.error _))) => False
  | .run (.sinkTask (.flushed (.error _) _)) => False
  | _ => s.pipe.shutdown = false

def Parked : SrcPc → Prop
  | .fetching | .pushing _ => False
  | _ => True

def Drained (s : St P) : Lbl P → Prop
  | .callStep c =>
    (∀ p, s.ctl.calls c = some (.drain (.processor p) .place) →
      s.ctl.paused ∧ Parked s.pipe.src ∧ s.pipe.srcRing = []) ∧
    ∀ d, s.ctl.calls c = some (.drain d .resume) → s.ctl.newProcessor = none
  | .run (.proc _) => s.pipe.proc = .empty → s.pipe.src.dropped → s.pipe.srcRing = []
  | .run .sink => s.pipe.sink.phase = .empty → s.pipe.proc.dropped → s.pipe.sinkRing = []
  | _ => True

def Closing : Pc → Prop
  | .flushing final => final = true
  | .finished => True
  | _ => False

lemma handleBatchFailures_not_closing (ctx : Ctx) (t : Task) (outs : List Tagged)
    (failed : List (Uuid × String)) : ¬ Closing (t.handleBatchFailures ctx outs failed).pc := by
  unfold Task.handleBatchFailures; split
  · exact id
  · split
    · exact id
    · exact id
    · simp only; split_ifs <;> exact id

lemma onRetried_not_closing (ctx : Ctx) (t : Task) (outs : List Tagged) (attempt count failed : Nat)
    (f : Nat → Outcome) : ¬ Closing (t.onRetried ctx outs attempt count failed f).pc := by
  unfold Task.onRetried; simp only; split_ifs <;> exact id

lemma flushIf_not_closing (t : Task) (b : Bool) : ¬ Closing (t.flushIf b).pc := by
  cases b
  · exact id
  · exact nofun

lemma onBlockingTick_not_closing (ctx : Ctx) (t : Task) (tracker : Option Delivery.AckSeqTracker)
    (elapsed : Bool) (now : Int) : ¬ Closing (t.onBlockingTick ctx tracker elapsed now).1.pc := id

lemma step_closing {ctx : Ctx} {tracker tracker' : Option Delivery.AckSeqTracker} {effects : List Effect}
    (h : SinkTask.step ctx tracker t l = some (t', tracker', effects)) (hc : Closing t'.pc) :
    l = .abandoned ∨ Closing t.pc := by
  have hno : ¬ Closing t'.pc → l = .abandoned ∨ Closing t.pc := fun hn => absurd hc hn
  cases step_cases h with
  | abandoned => exact .inl rfl
  | written outs f _ => exact hno (handleBatchFailures_not_closing ctx _ _ _)
  | retried outs attempt count failed f _ => exact hno (onRetried_not_closing ctx t _ _ _ _ _)
  | tick count elapsed now _ =>
    refine hno ?_; unfold Task.onTick; split_ifs
    · exact onBlockingTick_not_closing ctx t tracker elapsed now
    · exact flushIf_not_closing _ _
  | idleTick elapsed now _ =>
    refine hno ?_; unfold Task.onIdleTick; split_ifs
    · exact onBlockingTick_not_closing ctx t tracker elapsed now
    · exact flushIf_not_closing _ _
  | flushed final now hpc =>
    cases final with
    | true => exact .inr (by rw [hpc]; rfl)
    | false => exact hno (fun hcl => by cases hcl)
  | pop | writeError | retryError | gc | flushError => exact hno id

structure Flow (s : Pipe P) : Prop where
  input : s.returned = s.handled.map Handled.events ++ (s.proc.input ++ (s.srcRing ++ s.src.held))
  each : ∀ h ∈ s.handled, (h.baseline ++ h.canary).Perm h.events ∧ (h.canary ≠ [] → h.candidate.isSome)
  output : s.handled.map Handled.outputs = s.sink.batches ++ (s.sinkRing ++ s.proc.output)
  processed : s.proc.dropped → s.src.dropped ∧ s.srcRing = []
  received : Closing s.sink.task.pc → s.proc.dropped ∧ s.sinkRing = []

lemma held_of_dropped {pc : SrcPc} (h : pc.dropped) : pc.held = [] := by cases pc <;> first | rfl | cases h

lemma input_of_dropped {pc : ProcPc} (h : pc.dropped) : pc.input = [] := by cases pc <;> first | rfl | cases h

lemma output_of_dropped {pc : ProcPc} (h : pc.dropped) : pc.output = [] := by
  cases pc <;> first | rfl | cases h

lemma Flow.handedOver {s : Pipe P} (h : Flow s) : HandedOver s where
  input := h.input
  each := h.each
  output := h.output
  processed hp := by
    have hd : s.proc.dropped := by rw [hp]; rfl
    obtain ⟨hs, hr⟩ := h.processed hd
    rw [h.input, input_of_dropped hd, hr, held_of_dropped hs]; simp
  received hk := by
    obtain ⟨hd, hr⟩ := h.received (by rw [hk]; trivial)
    rw [h.output, hr, output_of_dropped hd]; simp

namespace Flow

variable {cfg : Cfg} {s : Pipe P}

section

variable (h : Flow s)
include h

lemma setSrc {kind : SourceKind} {pulls : List (Bool × Option Gate.GateState)} (hh : s.src.held = [])
    (hpc : pc.held = []) (hd : s.src.dropped → pc.dropped) :
    Flow { s with src := pc, kind := kind, pulls := pulls } where
  input := by rw [h.input, hh, hpc]
  each := h.each
  output := h.output
  processed hp := ⟨hd (h.processed hp).1, (h.processed hp).2⟩
  received := h.received

lemma setProc (hin : s.proc.input = []) (ho : s.proc.output = []) (hin' : pc.input = [])
    (ho' : pc.output = []) (hd : s.proc.dropped → pc.dropped)
    (hn : pc.dropped → s.src.dropped ∧ s.srcRing = []) : Flow { s with proc := pc } where
  input := by rw [h.input, hin, hin']
  each := h.each
  output := by rw [h.output, ho, ho']
  processed := hn
  received hk := ⟨hd (h.received hk).1, (h.received hk).2⟩

lemma setFree (hp : s.proc = pc) (hh : pc.input = [] ∧ pc.output = []) (hl : pc.dropped = false)
    (hh' : pc'.input = [] ∧ pc'.output = []) (hl' : pc'.dropped = false) :
    Flow { s with proc := pc' } := by
  subst hp
  exact h.setProc hh.1 hh.2 hh'.1 hh'.2 (by rw [hl]; exact nofun) (by rw [hl']; exact nofun)

lemma onBatch (hs : s.src = .fetching) {paused : Bool} (hr : ∀ e, r ≠ .error e) :
    Flow (s.onBatch paused r) := by
  have hh : s.src.held = [] := by rw [hs]; rfl
  have hl : s.src.dropped → False := by rw [hs]; exact nofun
  match r with
  | .error e => exact absurd rfl (hr e)
  | .ok [] => refine h.setSrc hh ?_ fun hd => (hl hd).elim; split_ifs <;> rfl
  | .ok (e :: es) =>
    refine ⟨?_, h.each, h.output, fun hp => (hl (h.processed hp).1).elim, h.received⟩
    simp [Pipe.onBatch, h.input, hs, SrcPc.held]

lemma pushSrc {batch : List Event} (hs : s.src = .pushing batch) : Flow (s.pushSrc cfg batch) := by
  unfold Pipe.pushSrc; split_ifs
  · have hl : s.src.dropped → False := by rw [hs]; exact nofun
    refine ⟨?_, h.each, h.output, fun hp => (hl (h.processed hp).1).elim, h.received⟩
    simp [h.input, hs, SrcPc.held]
  · exact h

lemma popSrc (hpr : s.proc = .popping) : Flow s.popSrc := by
  have hl : s.proc.dropped → False := by rw [hpr]; exact nofun
  have hin : s.proc.input = [] := by rw [hpr]; rfl
  have ho : s.proc.output = [] := by rw [hpr]; rfl
  unfold Pipe.popSrc; split
  · exact h.setProc hin ho rfl rfl (fun hp => (hl hp).elim) nofun
  · rename_i batch rest hr
    refine ⟨?_, h.each, ?_, nofun, fun hk => (hl (h.received hk).1).elim⟩
    · simp [h.input, hpr, hr, ProcPc.input]
    · simp [h.output, hpr, ProcPc.output]

lemma onProcessed (hp : s.proc = .processing x.events)
    (hx : (x.baseline ++ x.canary).Perm x.events ∧ (x.canary ≠ [] → x.candidate.isSome)) :
    Flow (s.onProcessed x) := by
  have hl : s.proc.dropped → False := by rw [hp]; exact nofun
  refine ⟨?_, fun y hy => ?_, ?_, nofun, fun hk => (hl (h.received hk).1).elim⟩
  · simp [Pipe.onProcessed, h.input, hp, ProcPc.input]
  · rcases List.mem_append.mp hy with hy | hy
    · exact h.each y hy
    grind
  · have hold := h.output; rw [hp] at hold; simp [Pipe.onProcessed, ProcPc.output, hold]

lemma pushSink {outs : List Output} (hp : s.proc = .pushing outs) : Flow (s.pushSink cfg outs) := by
  have hl : s.proc.dropped → False := by rw [hp]; exact nofun
  unfold Pipe.pushSink; split_ifs
  · refine ⟨?_, h.each, ?_, nofun, fun hk => (hl (h.received hk).1).elim⟩
    · simp [h.input, hp, ProcPc.input]
    · simp [h.output, hp, ProcPc.output]
  · exact h

lemma checkAbandoned (hp : s.proc = .empty) (he : s.src.dropped → s.srcRing = []) :
    Flow s.checkAbandoned := by
  refine h.setProc (by rw [hp]; rfl) (by rw [hp]; rfl) ?_ ?_ ?_ ?_
  · split_ifs <;> rfl
  · split_ifs <;> rfl
  · rw [hp]; exact nofun
  · split_ifs with hd
    · grind
    · exact nofun

lemma setSink (hb : k.batches = s.sink.batches) (hk : Closing k.task.pc → s.proc.dropped ∧ s.sinkRing = []) :
    Flow { s with sink := k } where
  input := h.input
  each := h.each
  output := by rw [hb]; exact h.output
  processed := h.processed
  received := hk

end

variable {l : SinkTask.Lbl}

lemma apply_batches {ctx : Ctx} {k k' : SinkSide} (h : k.apply ctx l = some k') :
    k'.batches = (k.note l).batches ∧ (Closing k'.task.pc → l = .abandoned ∨ Closing k.task.pc) := by
  obtain ⟨⟨t, tracker, effects⟩, ht, rfl⟩ := map_eq_some_iff.mp h
  exact ⟨rfl, step_closing ht⟩

lemma note_batches {k : SinkSide} (hl : ∀ outs, l ≠ .pop outs) :
    (k.note l).batches = k.batches := by
  unfold SinkSide.note; grind

lemma onTask_batches {ctx : Ctx} {k k' : SinkSide} (h : k.onTask ctx l = some k') :
    k'.batches = k.batches ∧ (Closing k'.task.pc → Closing k.task.pc) := by
  unfold SinkSide.onTask at h; split at h
  · cases h
  · cases h
  · obtain ⟨hb, hc⟩ := apply_batches h; exact ⟨hb, fun hk => (hc hk).resolve_left nofun⟩
  · rename_i hp hab _
    split_ifs at h; obtain ⟨hb, hc⟩ := apply_batches h
    exact ⟨hb.trans (note_batches fun outs hl => hp outs hl), fun hk => (hc hk).resolve_left fun hl => hab hl⟩
  · cases h

lemma onSink (h : Flow s) {s' : Pipe P} (he : s.sink.phase = .empty → s.proc.dropped → s.sinkRing = [])
    (hs : s.onSink cfg = some s') : Flow s' := by
  unfold Pipe.onSink at hs; split at hs
  · split_ifs at hs with hi; split at hs
    · cases hs; exact h.setSink rfl h.received
    · rename_i outs rest hr
      obtain ⟨k, hk, rfl⟩ := map_eq_some_iff.mp hs
      obtain ⟨hb, hc⟩ := apply_batches hk
      refine ⟨h.input, h.each, ?_, h.processed, fun hcl => ?_⟩
      · rw [hb, h.output, hr]; simp [SinkSide.note]
      · rcases hc hcl with hl | hcl
        · cases hl
        · rw [hi] at hcl; exact hcl.elim
  · rename_i hp
    split_ifs at hs with hd
    · obtain ⟨k, hk, rfl⟩ := map_eq_some_iff.mp hs
      exact h.setSink (apply_batches hk).1 fun _ => ⟨hd, he hp hd⟩
    · cases hs; exact h.setSink rfl h.received
  · cases hs

end Flow

section Steps

variable {cfg : Cfg} {s s' : St P}

structure Inv (s : St P) : Prop where
  flow : Flow s.pipe
  placed : s.ctl.newProcessor.isSome → s.ctl.paused ∧ Parked s.pipe.src ∧ s.pipe.srcRing = []
  quiet : s.pipe.proc = .waiting ∨ s.pipe.proc = .taking → s.pipe.sinkRing = []

lemma Inv.swapQuiet (h : Inv s) : SwapQuiet s := fun hp hs => ⟨(h.placed hs).2.2, h.quiet (.inr hp)⟩

lemma Inv.keep (h : Inv s) (hf : Flow s'.pipe) (hpa : s'.ctl.paused = s.ctl.paused)
    (hsl : s'.ctl.newProcessor = s.ctl.newProcessor)
    (hsr : s.ctl.newProcessor.isSome → s.ctl.paused → Parked s.pipe.src → s.pipe.srcRing = [] →
      Parked s'.pipe.src ∧ s'.pipe.srcRing = [])
    (hq : s'.pipe.proc = .waiting ∨ s'.pipe.proc = .taking → s'.pipe.sinkRing = []) : Inv s' where
  flow := hf
  placed hs := by rw [hsl] at hs; obtain ⟨hp, hpr, hr⟩ := h.placed hs; exact ⟨hpa ▸ hp, hsr hs hp hpr hr⟩
  quiet := hq

lemma wake_frame (k : Control P) (f : Call P → Call P) (o : Option Nat) :
    (k.wake f o).paused = k.paused ∧ (k.wake f o).newProcessor = k.newProcessor := by
  cases o <;> exact ⟨rfl, rfl⟩

lemma upgrade_frame (s : St P) (a : UpgradeAction P) :
    (s.upgrade a).pipe = s.pipe ∧ (s.upgrade a).ctl.paused = s.ctl.paused ∧
      (s.upgrade a).ctl.newProcessor = s.ctl.newProcessor := by
  cases a <;> exact ⟨rfl, rfl, rfl⟩

lemma takeUpgrade_frame (s : St P) : s.takeUpgrade.pipe = s.pipe ∧ s.takeUpgrade.ctl.paused = s.ctl.paused ∧
      s.takeUpgrade.ctl.newProcessor = s.ctl.newProcessor := by
  unfold St.takeUpgrade; split
  · exact ⟨rfl, rfl, rfl⟩
  · rename_i c a _
    obtain ⟨hpi, hp, hs⟩ := upgrade_frame ({ s with
      ctl := { s.ctl with upgradeAction := none, applied := s.ctl.applied ++ [(c, a)] } } : St P) a
    exact ⟨hpi, (wake_frame _ _ _).1.trans hp, (wake_frame _ _ _).2.trans hs⟩

lemma Inv.srcStep (h : Inv s) (hup : s.pipe.shutdown = false) (hs : s.srcStep cfg = some s') : Inv s' := by
  unfold St.srcStep at hs; split at hs
  · rename_i hsr
    cases hs; refine h.keep ?_ rfl rfl (fun _ _ _ hr => ⟨?_, hr⟩) h.quiet
    · rw [hup]; exact h.flow.setSrc (by rw [hsr]; rfl) rfl (by rw [hsr]; exact nofun)
    · rw [hup]; trivial
  · rename_i hsr
    have hh : s.pipe.src.held = [] := by rw [hsr]; rfl
    have hl : ∀ pc : SrcPc, s.pipe.src.dropped → pc.dropped := by rw [hsr]; exact nofun
    split_ifs at hs with hpu
    · split at hs
      · cases hs
        exact h.keep (h.flow.setSrc hh rfl (hl _)) (wake_frame _ _ _).1 (wake_frame _ _ _).2
          (fun _ _ _ hr => ⟨trivial, hr⟩) h.quiet
      · cases hs
        exact h.keep (h.flow.setSrc hh rfl (hl _)) rfl rfl (fun _ _ _ hr => ⟨trivial, hr⟩) h.quiet
    · cases hs
      exact h.keep (h.flow.setSrc hh rfl (hl _)) rfl rfl (fun _ hp => absurd hp hpu) h.quiet
  · rename_i batch hsr
    cases hs; refine h.keep (h.flow.pushSrc hsr) rfl rfl (fun _ _ hpa => ?_) ?_
    · rw [hsr] at hpa; exact hpa.elim
    · unfold Pipe.pushSrc; split_ifs <;> exact h.quiet
  · cases hs

lemma onProcessed_flow (h : Inv s) {batch : List Event} (hp : s.pipe.proc = .processing batch)
    {outs outs' : List Output} : Flow (s.onProcessed (.ok outs) (.ok outs') batch) := by
  have ha : ∀ (events : List Event) (o : List Output), ∃ o', St.answered events (.ok o) = .ok o' := by
    intro events o; unfold St.answered; split_ifs <;> exact ⟨_, rfl⟩
  unfold St.onProcessed; split
  · exact h.flow.onProcessed hp ⟨by simp, nofun⟩
  · rename_i candidate _
    obtain ⟨o₁, h₁⟩ := ha (batch.filter (!St.toCanary s.ctl.canaryPct ·)) outs
    obtain ⟨o₂, h₂⟩ := ha (batch.filter (St.toCanary s.ctl.canaryPct ·)) outs'
    simp only [h₁, h₂]; refine h.flow.onProcessed hp ⟨?_, fun _ => rfl⟩
    exact (List.perm_append_comm).trans (List.filter_append_perm (St.toCanary s.ctl.canaryPct) batch)

lemma onProcessed_frame (s : St P) (batch : List Event) (baseline canary : Except String (List Output)) :
    (s.onProcessed baseline canary batch).src = s.pipe.src ∧
      (s.onProcessed baseline canary batch).srcRing = s.pipe.srcRing ∧
      (s.onProcessed baseline canary batch).proc ≠ .waiting ∧
      (s.onProcessed baseline canary batch).proc ≠ .taking := by
  have ha : ∀ r, (s.pipe.onAnswer s.current r batch).src = s.pipe.src ∧
      (s.pipe.onAnswer s.current r batch).srcRing = s.pipe.srcRing ∧
      (s.pipe.onAnswer s.current r batch).proc ≠ .waiting ∧
      (s.pipe.onAnswer s.current r batch).proc ≠ .taking := by
    intro r; cases r <;> exact ⟨rfl, rfl, nofun, nofun⟩
  unfold St.onProcessed; split
  · exact ha baseline
  · simp only; split <;> exact ⟨rfl, rfl, nofun, nofun⟩

lemma Inv.procStep (h : Inv s) (hup : s.pipe.shutdown = false) {locked : Bool}
    (he : s.pipe.proc = .empty → s.pipe.src.dropped → s.pipe.srcRing = [])
    (hs : s.procStep cfg locked = some s') : Inv s' := by
  have hsa : s.ctl.newProcessor.isSome → s.ctl.paused → Parked s.pipe.src → s.pipe.srcRing = [] →
      Parked s.pipe.src ∧ s.pipe.srcRing = [] := fun _ _ hp hr => ⟨hp, hr⟩
  unfold St.procStep at hs; split at hs
  · rename_i hpr
    rw [hup] at hs; simp only [Bool.false_eq_true, if_false] at hs; cases hs
    have hf : Flow { s.pipe with proc := .popping } := h.flow.setFree hpr ⟨rfl, rfl⟩ rfl ⟨rfl, rfl⟩ rfl
    split_ifs
    · exact h.keep hf rfl rfl hsa nofun
    · obtain ⟨hpi, hpa, hsl⟩ := takeUpgrade_frame s; refine h.keep ?_ hpa hsl ?_ nofun
      · rw [hpi]; exact hf
      grind
  · rename_i hpr
    cases hs; refine h.keep (h.flow.popSrc hpr) rfl rfl (fun _ _ hpk hri => ?_) ?_
    · simp_all [Pipe.popSrc]
    · unfold Pipe.popSrc; split <;> exact nofun
  · rename_i outs hpr
    cases hs; refine h.keep (h.flow.pushSink hpr) rfl rfl (fun _ _ hpk hri => ?_) ?_
    · grind [Pipe.pushSink]
    grind [Pipe.pushSink]
  · rename_i hpr
    cases hs; refine h.keep (h.flow.checkAbandoned hpr (he hpr)) rfl rfl hsa ?_
    unfold Pipe.checkAbandoned; grind
  · rename_i hpr
    cases hs; refine h.keep (h.flow.setFree hpr ⟨rfl, rfl⟩ rfl ?_ ?_) rfl rfl hsa ?_
    all_goals split_ifs <;> first | exact ⟨rfl, rfl⟩ | rfl | exact nofun
  · rename_i hpr
    split_ifs at hs with hri
    · cases hs
      exact h.keep (h.flow.setFree hpr ⟨rfl, rfl⟩ rfl ⟨rfl, rfl⟩ rfl) (wake_frame _ _ _).1
        (wake_frame _ _ _).2 hsa fun _ => hri
    · cases hs
      exact h.keep (h.flow.setFree hpr ⟨rfl, rfl⟩ rfl ⟨rfl, rfl⟩ rfl) rfl rfl hsa nofun
  · rename_i hpr
    cases hs
    refine h.keep (h.flow.setFree hpr ⟨rfl, rfl⟩ rfl ?_ ?_) rfl rfl hsa fun _ => h.quiet (.inl hpr)
    all_goals split_ifs <;> first | exact ⟨rfl, rfl⟩ | rfl
  · rename_i hpr
    split at hs
    · cases hs
      exact h.keep (h.flow.setFree hpr ⟨rfl, rfl⟩ rfl ⟨rfl, rfl⟩ rfl) rfl rfl hsa fun _ => h.quiet (.inr hpr)
    · cases hs
      have hsl : ({ s.ctl with newProcessor := none } : Control P).notifySwap.newProcessor = none :=
        (wake_frame _ _ _).2
      refine ⟨h.flow.setFree hpr ⟨rfl, rfl⟩ rfl ⟨rfl, rfl⟩ rfl, fun hso => ?_, nofun⟩
      cases hsl ▸ hso
  · cases hs

lemma Inv.sinkSwap (h : Inv s) : Inv s.sinkSwap := by
  unfold St.sinkSwap
  have hs : s.ctl.newProcessor.isSome → s.ctl.paused → Parked s.pipe.src → s.pipe.srcRing = [] →
      Parked s.pipe.src ∧ s.pipe.srcRing = [] := fun _ _ hp hr => ⟨hp, hr⟩
  split
  · split_ifs
    · exact h.keep (h.flow.setSink rfl h.flow.received) (wake_frame _ _ _).1 (wake_frame _ _ _).2 hs h.quiet
    · exact h.keep (h.flow.setSink rfl h.flow.received) rfl rfl hs h.quiet
  · exact h.keep (h.flow.setSink rfl h.flow.received) rfl rfl hs h.quiet

lemma Inv.runStep (h : Inv s) {l : Runner.Lbl} (hce : Clean s (.run l)) (hd : Drained s (.run l))
    (hs : s.runStep cfg l = some s') : Inv s' := by
  have hsa : s.ctl.newProcessor.isSome → s.ctl.paused → Parked s.pipe.src → s.pipe.srcRing = [] →
      Parked s.pipe.src ∧ s.pipe.srcRing = [] := fun _ _ hp hr => ⟨hp, hr⟩
  cases l with
  | shutdown => exact hce.elim
  | gate =>
    obtain ⟨_, -, rfl⟩ := map_eq_some_iff.mp hs
    exact h.keep ⟨h.flow.input, h.flow.each, h.flow.output, h.flow.processed,
      h.flow.received⟩ rfl rfl hsa h.quiet
  | pressure =>
    cases hs
    exact h.keep ⟨h.flow.input, h.flow.each, h.flow.output, h.flow.processed,
      h.flow.received⟩ rfl rfl hsa h.quiet
  | src => exact h.srcStep hce hs
  | batch r =>
    simp only [St.runStep] at hs; split_ifs at hs with hsr; cases hs
    have hr : ∀ e, r ≠ .error e := fun e he => by subst he; exact hce
    refine h.keep (h.flow.onBatch hsr hr) rfl rfl (fun _ _ hpa => ?_) ?_
    · rw [hsr] at hpa; exact hpa.elim
    · match r with
      | .error e => exact absurd rfl (hr e)
      | .ok [] => exact h.quiet
      | .ok (_ :: _) => exact h.quiet
  | proc => exact h.procStep hce hd hs
  | processed =>
    simp only [St.runStep] at hs; split at hs
    · rename_i batch hpr
      cases hs; obtain ⟨⟨outs, rfl⟩, outs', rfl⟩ := hce
      obtain ⟨hsr, hri, hw, ht⟩ := onProcessed_frame s batch (.ok outs) (.ok outs')
      refine h.keep (onProcessed_flow h hpr) rfl rfl (fun _ _ hp hr => ?_) fun hq => ?_
      · grind
      grind
    · cases hs
  | sink =>
    simp only [St.runStep] at hs; split at hs
    · cases hs; exact h.sinkSwap
    · obtain ⟨p, hp, rfl⟩ := map_eq_some_iff.mp hs; have hf := h.flow.onSink hd hp
      obtain ⟨k, ring, rfl, hri⟩ := Pipe.onSink_eq cfg hp
      exact h.keep hf rfl rfl hsa fun hq => hri (h.quiet hq)
  | sinkTask =>
    obtain ⟨k, hk, rfl⟩ := map_eq_some_iff.mp hs
    obtain ⟨hb, hc⟩ := Flow.onTask_batches hk
    exact h.keep (h.flow.setSink hb fun hcl => h.flow.received (hc hcl)) rfl rfl hsa h.quiet

lemma Inv.begin (h : Inv s) (hs : s.step cfg (.call c op) = some s') : Inv s' := by
  obtain ⟨k, hk, rfl⟩ := map_eq_some_iff.mp hs; unfold Control.begin at hk
  split at hk <;> cases hk
  · exact ⟨h.flow, fun hso => ⟨rfl, (h.placed hso).2⟩, h.quiet⟩
  · exact ⟨h.flow, h.placed, h.quiet⟩

lemma Inv.callStep (h : Inv s) (hd : Drained s (.callStep c)) (hst : s.step cfg (.callStep c) = some s') :
    Inv s' := by
  obtain ⟨k, hk, rfl⟩ := map_eq_some_iff.mp hst; unfold Control.callStep at hk
  split at hk
  · rename_i d pc hc
    cases pc with
    | place =>
      cases hk; refine ⟨h.flow, fun hs => ?_, h.quiet⟩
      cases d with
      | processor p => exact hd.1 p hc
      | source | sink => exact h.placed hs
    | resume =>
      cases hk; have hsl : s.ctl.newProcessor = none := hd.2 d hc
      refine ⟨h.flow, fun hs => ?_, h.quiet⟩; cases hsl ▸ hs
    | poll | swapPoll => cases hk; exact ⟨h.flow, h.placed, h.quiet⟩
    | wait | swapWait | returned => cases hk
  · cases hk; exact ⟨h.flow, h.placed, h.quiet⟩
  · cases hk

lemma Inv.step (h : Inv s) (hc : Clean s l) (hd : Drained s l) (hs : s.step cfg l = some s') : Inv s' := by
  cases l with
  | run => exact h.runStep hc hd hs
  | call => exact h.begin hs
  | callStep => exact h.callStep hd hs

lemma Inv.initial (h : Initial cfg s) : Inv s := by
  obtain ⟨⟨hsr, hp, hri, hs⟩, ⟨ledger, tracker, hsi⟩, -, hr, hh, -⟩ := h.pipe
  refine ⟨⟨?_, ?_, ?_, ?_, ?_⟩, ?_, ?_⟩
  · rw [hr, hh, hp, hri, hsr]; rfl
  · rw [hh]; exact nofun
  · rw [hh, hsi, hs, hp]; rfl
  · rw [hp]; exact nofun
  · rw [hsi]; exact nofun
  · rw [h.ctl]; exact nofun
  · rw [hp]; exact nofun

end Steps

/-- **The hand-off is exact.** -/
theorem hand_off_exact (cfg : Cfg) {s : St P}
    (h : ((machine cfg).restrict fun s l => Clean s l ∧ Drained s l).Reachable s) :
    HandedOver s.pipe ∧ SwapQuiet s := by
  have hid : ((machine (P := P) cfg).restrict fun s l => Clean s l ∧ Drained s l).Inductive Inv :=
    ⟨fun _ hin => Inv.initial hin, fun _ _ _ hi hst => hi.step hst.1.1 hst.1.2 hst.2⟩
  have hi := hid.reachable h; exact ⟨hi.flow.handedOver, hi.swapQuiet⟩

abbrev proc : Lbl Nat := .run (.proc true)

def early : List (Lbl Nat) :=
  [.run .src, .run .src, .call 0 (.drainAndSwap (.processor 1)), proc, proc, proc, proc, proc, .callStep 0,
    .callStep 0, .run (.batch (.ok [.plain 7 []])), .run .src, proc]

def leftBehind : List (Lbl Nat) :=
  [.run .src, .run .src, proc, proc, .run (.batch (.ok [.plain 7 []])), .run .src, .run .src, .run .src,
    .run (.batch (.ok [])), proc]

structure Rings where
  proc : ProcPc
  slot : Option Nat
  srcRing : List (List Event)
  sinkRing : List (List Output)
  returned : List (List Event)
  handled : List (Handled Nat)
  deriving DecidableEq

def rings (s : St Nat) : Rings :=
  ⟨s.pipe.proc, s.ctl.newProcessor, s.pipe.srcRing, s.pipe.sinkRing, s.pipe.returned, s.pipe.handled⟩

def earlyRings : Rings := ⟨.taking, some 1, [[.plain 7 []]], [], [[.plain 7 []]], []⟩

def leftBehindRings : Rings := ⟨.finished, none, [[.plain 7 []]], [], [[.plain 7 []]], []⟩

lemma early_clean : LTS.Along (fun s => St.step perEventCfg s) Clean (idlePipeline .push none) early :=
  ⟨rfl, _, rfl, rfl, _, rfl, rfl, _, rfl, rfl, _, rfl, rfl, _, rfl, rfl, _, rfl, rfl, _, rfl, rfl, _, rfl,
    rfl, _,
    rfl, rfl, _, rfl, rfl, _, rfl, rfl, _, rfl, rfl, _, rfl, trivial⟩

lemma leftBehind_clean :
    LTS.Along (fun s => St.step perEventCfg s) Clean (idlePipeline .pull none) leftBehind :=
  ⟨rfl, _, rfl, rfl, _, rfl, rfl, _, rfl, rfl, _, rfl, rfl, _, rfl, rfl, _, rfl, rfl, _, rfl, rfl, _, rfl,
    rfl, _,
    rfl, rfl, _, rfl, trivial⟩

theorem hand_off_broken : (∃ s, ((machine perEventCfg).restrict Clean).Reachable s ∧ rings s = earlyRings ∧
    ¬ SwapQuiet s) ∧
    ∃ s, ((machine perEventCfg).restrict Clean).Reachable s ∧ rings s = leftBehindRings ∧
    ¬ HandedOver s.pipe := by
  have h₁ : (LTS.exec (fun s => St.step perEventCfg s) (idlePipeline .push none) early).map rings =
    some earlyRings := by decide +kernel
  have h₂ : (LTS.exec (fun s => St.step perEventCfg s) (idlePipeline .pull none) leftBehind).map rings =
    some leftBehindRings := by
    decide +kernel
  obtain ⟨s₁, hs₁, hv₁⟩ := map_eq_some_iff.mp h₁
  obtain ⟨s₂, hs₂, hv₂⟩ := map_eq_some_iff.mp h₂
  refine ⟨⟨s₁, ⟨idlePipeline .push none, early, idlePipeline_initial, LTS.run_restrict early_clean hs₁⟩,
    hv₁, fun hq => ?_⟩,
    s₂, ⟨idlePipeline .pull none, leftBehind, idlePipeline_initial, LTS.run_restrict leftBehind_clean hs₂⟩,
    hv₂, fun ho => ?_⟩
  · have hs : s₁.ctl.newProcessor = some 1 := congrArg Rings.slot hv₁
    have hr : s₁.pipe.srcRing = [[.plain 7 []]] := congrArg Rings.srcRing hv₁
    have he := (hq (congrArg Rings.proc hv₁) (by rw [hs]; rfl)).1; cases hr.symm.trans he
  · have ha := ho.processed (congrArg Rings.proc hv₂)
    have hre : s₂.pipe.returned = [[.plain 7 []]] := congrArg Rings.returned hv₂
    have hh : s₂.pipe.handled = [] := congrArg Rings.handled hv₂; grind

def inOrder : List (Lbl Nat) := [.call 0 (.upgrade (.startCanary 1 10)), .run (.proc false), .run .src,
    .run .src,
    .run (.batch (.ok [.plain 5 [], .plain 50 []])), .run .src, proc,
    .run (.processed (.ok [.plain 50]) (.ok [.plain 5])),
    proc, .run .sink, .call 1 (.drainAndSwap (.processor 2)), .run .src, .run .src, proc, proc, proc, proc,
    proc,
    .callStep 1, .callStep 1, proc]

def inOrderRings : Rings := ⟨.taking, some 2, [], [], [[.plain 5 [], .plain 50 []]],
    [⟨[.plain 5 [], .plain 50 []], [.plain 50 []], [.plain 5 []], 0, some 1, [.plain 50, .plain 5]⟩]⟩

lemma inOrder_allowed :
    LTS.Along (fun s => St.step perEventCfg s) (fun s l => Clean s l ∧ Drained s l)
      (idlePipeline .push none) inOrder := by
  refine ⟨⟨rfl, trivial⟩, _, rfl, ⟨rfl, nofun⟩, _, rfl, ⟨rfl, trivial⟩, _, rfl, ⟨rfl, trivial⟩, _, rfl,
    ⟨rfl, trivial⟩, _, rfl, ⟨rfl, trivial⟩, _, rfl, ⟨rfl, nofun⟩, _, rfl,
    ⟨⟨⟨_, rfl⟩, _, rfl⟩, trivial⟩, _, rfl, ⟨rfl, nofun⟩, _, rfl, ⟨rfl, nofun⟩, _, rfl, ⟨rfl, trivial⟩, _, rfl,
    ⟨rfl, trivial⟩, _, rfl, ⟨rfl, trivial⟩, _, rfl, ⟨rfl, nofun⟩, _, rfl, ⟨rfl, nofun⟩, _, rfl, ⟨rfl, ?_⟩, _,
    rfl,
    ⟨rfl, nofun⟩, _, rfl, ⟨rfl, nofun⟩, _, rfl, ⟨rfl, nofun, nofun⟩, _, rfl,
    ⟨rfl, fun _ _ => ⟨rfl, trivial, rfl⟩, nofun⟩, _, rfl, ⟨rfl, nofun⟩, _, rfl, trivial⟩
  exact fun _ _ => rfl

theorem hand_off_exact_in_order :
    ∃ s, ((machine perEventCfg).restrict fun s l => Clean s l ∧ Drained s l).Reachable s ∧
    rings s = inOrderRings ∧
      HandedOver s.pipe ∧ SwapQuiet s := by
  have h : (LTS.exec (fun s => St.step perEventCfg s) (idlePipeline .push none) inOrder).map rings =
    some inOrderRings := by decide +kernel
  obtain ⟨s, hs, hv⟩ := map_eq_some_iff.mp h
  have hr : ((machine perEventCfg).restrict fun s l => Clean s l ∧ Drained s l).Reachable s :=
    ⟨idlePipeline .push none, inOrder, idlePipeline_initial, LTS.run_restrict inOrder_allowed hs⟩
  exact ⟨s, hr, hv, hand_off_exact perEventCfg hr⟩

end Aeon.L3.HandOff
