import Aeon.L3Pipeline.Managed

/-!
# Credits across a sink swap

An output is counted when the sink reports it delivered, or at the flush after it was reported
pending (`crates/aeon-engine/src/pipeline.rs:1556-1900`, `2010-2028`). A swap keeps the pending ids.

* `sink_credits_safe`: with no output pending at a swap, the sink written to credits it;
* `swapped_sink_credits`: otherwise the new one does.
-/
namespace Aeon.L3.SinkSwap

open List Option Aeon.Core Aeon.Types Aeon.L3.Delivery Aeon.L3.SinkTask Aeon.L3.Runner Aeon.L3.Managed

variable {P : Type}

def idOf (t : Task) (tag : Nat) : Option Uuid := (t.received[tag]?).bind (·.out.sourceEventId)

structure CreditsSafe (k : SinkSide) : Prop where
  own : ∀ c ∈ k.credits, k.wroteTo[c.tag]? = some c.sink
  sent : k.task.metrics.outputsSent = k.credits.length
  ledger : ∀ l, k.task.ledger = some l → ∀ o ∈ k.task.received, ∀ id, o.out.sourceEventId = some id →
    id ∈ l.positions.map Prod.fst ∨ some id ∈ k.credits.map fun c => idOf k.task c.tag

def FlushedFirst (s : St P) : Lbl P → Prop
  | .run .sink => s.pipe.sink.phase = .swap → s.ctl.paused → s.ctl.newSink.isSome →
      s.pipe.sink.task.pendingIds = []
  | _ => True

structure Books (k : SinkSide) : Prop where
  safe : CreditsSafe k
  pending : ∀ tag ∈ k.pendingTags, k.wroteTo[tag]? = some k.inst
  pendingIds : k.task.pendingIds.map some = k.pendingTags.map (idOf k.task)
  tags : ∀ (n : Nat) (o : Tagged), k.task.received[n]? = some o → o.tag = n
  length : k.wroteTo.length = k.task.received.length
  outs : ∀ o ∈ k.task.pc.outs, o ∈ k.task.received ∧ k.wroteTo[o.tag]? = some k.inst
  idle : k.phase ≠ .loop → k.task.pc = .idle

section Lemmas

variable {ctx : Ctx} {tracker tracker' : Option AckSeqTracker} {t t' : Task} {l : SinkTask.Lbl}
  {effects : List Effect} {k k' : SinkSide}

variable {outs : List Tagged}

lemma named_ids (f : Nat → Outcome) (x : Outcome) (hid : ∀ o ∈ outs, idOf t o.tag = o.out.sourceEventId) :
    ((outs.filter fun o => f o.tag = x).filterMap (·.out.sourceEventId)).map some =
      (namedTags outs f x).map (idOf t) := by
  unfold namedTags
  induction outs with
  | nil => rfl
  | cons => grind

lemma mem_namedTags {tag : Nat} (h : tag ∈ namedTags outs f x) : ∃ o ∈ outs, o.tag = tag := by
  obtain ⟨o, ho, rfl⟩ := List.mem_map.mp h; grind

lemma mem_ids_foldl_track {id : Uuid} :
    ∀ l : DeliveryLedger, (id ∈ l.positions.map Prod.fst ∨ ∃ o ∈ outs, o.out.sourceEventId = some id) →
      id ∈ (outs.foldl track l).positions.map Prod.fst := by
  induction outs with
  | nil => exact fun l h => h.resolve_right fun ⟨o, ho, _⟩ => by cases ho
  | cons o outs ih =>
    intro l h; refine ih _ ?_
    have ht : id ∈ l.positions.map Prod.fst ∨ o.out.sourceEventId = some id →
        id ∈ (track l o).positions.map Prod.fst := by
      intro h; unfold track; split
      · rename_i id' hid
        by_cases hs : id = id'
        · exact List.mem_map.mpr ⟨_, DeliveryLedger.mem_positions_track.mpr (.inr rfl), hs.symm⟩
        · obtain ⟨x, hx, rfl⟩ := List.mem_map.mp (h.resolve_right fun he => hs (by
            rw [hid] at he; exact (Option.some.inj he).symm))
          exact List.mem_map.mpr ⟨x, DeliveryLedger.mem_positions_track.mpr (.inl ⟨hx, hs⟩), rfl⟩
      · rename_i hid
        grind
    grind

lemma mem_ids_markBatchAcked (failures : List (Uuid × String)) {l : DeliveryLedger} {ids : List Uuid}
    {id : Uuid} (h : id ∈ l.positions.map Prod.fst) (hid : id ∉ ids) :
    id ∈ (markAllFailed (l.markBatchAcked ids).1 failures).positions.map Prod.fst := by
  obtain ⟨x, hx, rfl⟩ := List.mem_map.mp h; rw [positions_markAllFailed]
  exact List.mem_map.mpr ⟨x, DeliveryLedger.mem_positions_markBatchAcked.mpr ⟨hx, hid⟩, rfl⟩

lemma step_ledger (h : SinkTask.step ctx tracker t l = some (t', tracker', effects))
    (hl : ∀ outs, l ≠ .pop outs) {ledger' : DeliveryLedger} (hle : t'.ledger = some ledger') :
    ∃ ledger, t.ledger = some ledger ∧ ∀ id ∈ ledger.positions.map Prod.fst,
      id ∈ ledger'.positions.map Prod.fst ∨ id ∈ t.sentIds l := by
  cases step_booked h with
  | same hs => exact ⟨ledger', hs ▸ hle, fun id hid => .inl hid⟩
  | pop => exact absurd rfl (hl _)
  | failed failures hfa =>
    rw [hfa] at hle; obtain ⟨ledger, hold, rfl⟩ := map_eq_some_iff.mp hle
    grind [positions_markAllFailed]
  | answered failures ha =>
    rw [ha] at hle; obtain ⟨ledger, hold, rfl⟩ := map_eq_some_iff.mp hle
    refine ⟨ledger, hold, fun id hid => ?_⟩
    exact or_iff_not_imp_right.mpr fun hn => mem_ids_markBatchAcked failures hid hn
  | flushed hf =>
    rw [hf] at hle; obtain ⟨ledger, hold, rfl⟩ := map_eq_some_iff.mp hle
    refine ⟨ledger, hold, fun id hid => ?_⟩
    exact or_iff_not_imp_right.mpr fun hn => mem_ids_markBatchAcked [] hid hn

def newCredits (k : SinkSide) : SinkTask.Lbl → List Credit
  | .answer (.ok f) => (namedTags k.task.pc.outs f .delivered).map (⟨·, k.inst, false⟩)
  | .flushed (.ok ()) _ => k.pendingTags.map (⟨·, k.inst, true⟩)
  | _ => []

lemma note_eq (k : SinkSide) (hl : ∀ outs, l ≠ .pop outs) :
    (k.note l).credits = k.credits ++ newCredits k l ∧ (k.note l).inst = k.inst ∧
      (k.note l).wroteTo = k.wroteTo ∧ (k.note l).phase = k.phase := by
  unfold SinkSide.note; split
  · exact absurd rfl (hl _)
  · split
    · rename_i hp
      simp [newCredits, hp, Pc.outs]
    · rename_i hp
      simp [newCredits, hp, Pc.outs]
    · rename_i hw hr
      have ho : k.task.pc.outs = [] := by
        cases hp : k.task.pc with
        | writing outs => exact absurd hp (hw outs)
        | retrying outs a b c => exact absurd hp (hr outs a b c)
        | _ => rfl
      simp [newCredits, ho, namedTags]
  · exact ⟨rfl, rfl, rfl, rfl⟩
  · rename_i ha hf
    simp [newCredits, append_nil]

section

variable (h : Books k)
include h

lemma idOf_eq (ho : o ∈ k.task.received) : idOf k.task o.tag = o.out.sourceEventId := by
  obtain ⟨n, hn⟩ := mem_iff_getElem?.mp ho; obtain rfl := h.tags n o hn; rw [idOf, hn]
  rfl

lemma newCredits_ids (l : SinkTask.Lbl) :
    (k.task.sentIds l).map some = (newCredits k l).map (fun c => idOf k.task c.tag) ∧
      ∀ c ∈ newCredits k l, k.wroteTo[c.tag]? = some c.sink := by
  have hn : ([] : List (Option Uuid)) = [] ∧ ∀ c ∈ ([] : List Credit), k.wroteTo[c.tag]? = some c.sink :=
    ⟨rfl, fun _ hc => absurd hc not_mem_nil⟩
  cases l with
  | answer r =>
    cases r with
    | error => exact hn
    | ok f =>
      refine ⟨?_, fun c hc => ?_⟩
      · rw [newCredits, List.map_map]
        exact named_ids f .delivered fun o ho => idOf_eq h (h.outs o ho).1
      · obtain ⟨tag, ht, rfl⟩ := List.mem_map.mp hc; obtain ⟨o, ho, rfl⟩ := mem_namedTags ht
        exact (h.outs o ho).2
  | flushed r =>
    cases r with
    | error => exact hn
    | ok =>
      refine ⟨?_, fun c hc => ?_⟩
      · rw [newCredits, List.map_map]; exact h.pendingIds
      · obtain ⟨tag, ht, rfl⟩ := List.mem_map.mp hc; exact h.pending tag ht
  | pop | gc | tick | abandoned => exact hn

lemma note_pending (hl : ∀ outs, l ≠ .pop outs) :
    (k.task.pendingAfter l).map some = (k.note l).pendingTags.map (idOf k.task) ∧
      ∀ tag ∈ (k.note l).pendingTags, k.wroteTo[tag]? = some k.inst := by
  have hs : (k.task.pendingIds).map some = k.pendingTags.map (idOf k.task) ∧
      ∀ tag ∈ k.pendingTags, k.wroteTo[tag]? = some k.inst := ⟨h.pendingIds, h.pending⟩
  cases l with
  | pop outs => exact absurd rfl (hl outs)
  | answer r =>
    cases r with
    | error => exact hs
    | ok f =>
      have hou := h.outs; simp only [SinkSide.note, Task.pendingAfter]
      cases hp : k.task.pc with
      | writing =>
        rw [hp, Pc.outs] at hou; refine ⟨?_, fun tag ht => ?_⟩
        · simp only [map_append, h.pendingIds]
          rw [← named_ids f .pending fun o ho => idOf_eq h (hou o ho).1]; rfl
        · rcases mem_append.mp ht with ht | ht
          · exact h.pending tag ht
          · obtain ⟨o, ho, rfl⟩ := mem_namedTags ht; exact (hou o ho).2
      | _ => exact hs
  | flushed r =>
    cases r with
    | error => exact hs
    | ok => exact ⟨rfl, fun _ ht => absurd ht not_mem_nil⟩
  | _ => exact hs

lemma Books.step (hph : k.phase = .loop) (hl : ∀ outs, l ≠ .pop outs) (ha : k.apply ctx l = some k') :
    Books k' := by
  obtain ⟨⟨t, tracker, effects⟩, ht, rfl⟩ := map_eq_some_iff.mp ha
  obtain ⟨hcr, his, hw, hp'⟩ := note_eq k hl; obtain ⟨hi, how⟩ := newCredits_ids h l
  obtain ⟨hp, hpe⟩ := note_pending h hl; obtain ⟨hs, haf⟩ := step_sent ht
  have hr := (step_booked ht).received hl
  have hio : idOf t = idOf k.task := by funext tag; rw [idOf, idOf, hr]
  refine ⟨⟨fun c hc => ?_, ?_, fun ledger' hle o ho id hid => ?_⟩, ?_, ?_, ?_, ?_, ?_, ?_⟩
  · rw [hw]; rw [hcr] at hc; rcases mem_append.mp hc with hc | hc
    · exact h.safe.own c hc
    · exact how c hc
  · have hln := congrArg List.length hi; simp only [length_map] at hln
    rw [hs, h.safe.sent, hcr, length_append, hln]
  · rw [hr] at ho; rw [hcr, hio, map_append, ← hi]
    obtain ⟨ledger, hold, hk⟩ := step_ledger ht hl hle
    rcases h.safe.ledger ledger hold o ho id hid with hin | hin
    · grind
    grind
  · grind
  · grind
  · rw [hr]; exact h.tags
  · rw [hw, hr]; exact h.length
  · intro o ho; rw [hw, his, hr]; rcases step_outs ht with ⟨outs, rfl⟩ | hsu
    · exact absurd rfl (hl outs)
    · exact h.outs o (hsu o ho)
  grind

lemma Books.pop (hp : k.phase = .loop) {outs : List Output} (ha : k.apply ctx (.pop outs) = some k') :
    Books k' := by
  obtain ⟨⟨t, tracker, effects⟩, ht, rfl⟩ := map_eq_some_iff.mp ha
  cases step_cases ht; have hle := length_number k.task.received.length outs
  have hi : ∀ tag, (idOf k.task tag).isSome ∨ k.wroteTo[tag]?.isSome →
      idOf (k.task.onPop outs) tag = idOf k.task tag ∧
        (k.wroteTo ++ outs.map fun _ => k.inst)[tag]? = k.wroteTo[tag]? := by
    intro tag hs
    have hlt : tag < k.task.received.length := by by_contra hge; grind [idOf, h.length]
    refine ⟨?_, getElem?_append_left (by rw [h.length]; exact hlt)⟩; rw [idOf, idOf]
    exact congrArg (Option.bind · _) (getElem?_append_left hlt)
  have hw : ∀ {tag : Nat} {sink : Option Nat}, k.wroteTo[tag]? = some sink →
      (k.wroteTo ++ outs.map fun _ => k.inst)[tag]? = some sink :=
    fun hs => ((hi _ (.inr (by rw [hs]; rfl))).2).trans hs
  refine ⟨⟨fun c hc => hw (h.safe.own c hc), h.safe.sent, fun ledger' hl o ho id hid => ?_⟩,
    fun tag hta => hw (h.pending tag hta), ?_, fun n o ho => ?_, ?_, fun o ho => ?_, ?_⟩
  · obtain ⟨ledger, hold, rfl⟩ := map_eq_some_iff.mp hl
    have hcr : ∀ x ∈ k.credits.map (fun c => idOf k.task c.tag),
        x ∈ k.credits.map fun c => idOf (k.task.onPop outs) c.tag := by
      intro x hx; obtain ⟨c, hc, rfl⟩ := List.mem_map.mp hx
      have hs : k.wroteTo[c.tag]?.isSome := by rw [h.safe.own c hc]; rfl
      exact List.mem_map.mpr ⟨c, hc, (hi c.tag (.inr hs)).1⟩
    rcases mem_append.mp ho with ho | ho
    · rcases h.safe.ledger ledger hold o ho id hid with hin | hin
      · exact .inl (mem_ids_foldl_track ledger (.inl hin))
      · exact .inr (hcr _ hin)
    · exact .inl (mem_ids_foldl_track ledger (.inr ⟨o, ho, hid⟩))
  · rw [show (k.task.onPop outs).pendingIds = k.task.pendingIds from rfl, h.pendingIds]
    refine map_congr_left fun tag hta => ?_
    have hs : k.wroteTo[tag]?.isSome := by rw [h.pending tag hta]; rfl
    grind
  · rcases Nat.lt_or_ge n k.task.received.length with hlt | hge
    · rw [show (k.task.onPop outs).received[n]? = k.task.received[n]? from getElem?_append_left hlt] at ho
      exact h.tags n o ho
    · rw [show (k.task.onPop outs).received[n]? =
        (number k.task.received.length outs)[n - k.task.received.length]?
        from getElem?_append_right hge] at ho
      have hta := tag_of_number ho; omega
  · simp [SinkSide.note, Task.onPop, h.length, hle]
  · have ho : o ∈ number k.task.received.length outs := ho
    refine ⟨mem_append_right _ ho, ?_⟩; obtain ⟨n, hn⟩ := mem_iff_getElem?.mp ho
    have hta := tag_of_number hn; have hlt : n < outs.length := by grind
    rw [hta, ← h.length]; simp [SinkSide.note, hlt]
  · exact fun hne => absurd hp hne

lemma Books.onTask (hs : k.onTask ctx l = some k') : Books k' := by
  unfold SinkSide.onTask at hs; split at hs
  · cases hs
  · cases hs
  · have h' : Books { k with phase := .loop } :=
      ⟨⟨h.safe.own, h.safe.sent, h.safe.ledger⟩, h.pending, h.pendingIds, h.tags, h.length, h.outs, nofun⟩
    exact h'.step rfl (fun _ hl => by cases hl) hs
  · rename_i hpo _ hp
    split_ifs at hs; exact h.step hp (fun outs hl => hpo outs hl) hs
  · cases hs

end

end Lemmas

section Runs

variable {cfg : Cfg} {s s' : St P}

lemma Books.onSink {p p' : Pipe P} (h : Books p.sink) (hs : p.onSink cfg = some p') : Books p'.sink := by
  unfold Pipe.onSink at hs; split at hs
  · rename_i hp
    split_ifs at hs with hi; split at hs
    · cases hs
      exact ⟨⟨h.safe.own, h.safe.sent, h.safe.ledger⟩, h.pending, h.pendingIds, h.tags, h.length,
        h.outs, fun _ => hi⟩
    · obtain ⟨k, hk, rfl⟩ := map_eq_some_iff.mp hs; exact h.pop hp hk
  · rename_i hp
    have hi := h.idle (by rw [hp]; exact nofun); split_ifs at hs
    · obtain ⟨k, hk, rfl⟩ := map_eq_some_iff.mp hs
      have h' : Books { p.sink with phase := .loop } :=
        ⟨⟨h.safe.own, h.safe.sent, h.safe.ledger⟩, h.pending, h.pendingIds, h.tags, h.length, h.outs, nofun⟩
      exact h'.step rfl (fun _ hl => by cases hl) hk
    · cases hs
      exact ⟨⟨h.safe.own, h.safe.sent, h.safe.ledger⟩, h.pending, h.pendingIds, h.tags, h.length,
        h.outs, fun _ => hi⟩
  · cases hs

lemma Books.sinkSwap (h : Books s.pipe.sink) (hp : s.pipe.sink.phase = .swap)
    (hf : s.ctl.paused → s.ctl.newSink.isSome → s.pipe.sink.task.pendingIds = []) :
    Books s.sinkSwap.pipe.sink := by
  have hi := h.idle (by rw [hp]; exact nofun)
  have hs : Books { s.pipe.sink with phase := .tick } :=
    ⟨⟨h.safe.own, h.safe.sent, h.safe.ledger⟩, h.pending, h.pendingIds, h.tags, h.length, h.outs, fun _ => hi⟩
  unfold St.sinkSwap; split
  · rename_i c hsl
    split_ifs with hpa
    · have hn : s.pipe.sink.pendingTags = [] := by have hid := h.pendingIds; simp_all
      refine ⟨⟨h.safe.own, h.safe.sent, h.safe.ledger⟩, fun tag ht => ?_, h.pendingIds, h.tags, h.length,
        fun o ho => ?_, fun _ => hi⟩
      · grind
      · have ho : o ∈ s.pipe.sink.task.pc.outs := ho; rw [hi] at ho; cases ho
    · exact hs
  · exact hs

lemma procStep_sink {locked : Bool} (h : s.procStep cfg locked = some s') : s'.pipe.sink = s.pipe.sink := by
  unfold St.procStep at h; split at h
  · split_ifs at h <;> cases h
    · rfl
    · rfl
    · unfold St.takeUpgrade; split
      · rfl
      · rename_i a _
        cases a <;> rfl
  · cases h; unfold Pipe.popSrc; split <;> rfl
  · cases h; unfold Pipe.pushSink; split_ifs <;> rfl
  · cases h; rfl
  · cases h; rfl
  · grind
  · cases h; rfl
  · split at h <;> cases h <;> rfl
  · cases h

lemma srcStep_sink (h : s.srcStep cfg = some s') : s'.pipe.sink = s.pipe.sink := by
  unfold St.srcStep at h; split at h
  · cases h; rfl
  · split_ifs at h
    · split at h <;> cases h <;> rfl
    · cases h; rfl
  · cases h; unfold Pipe.pushSrc; split_ifs <;> rfl
  · cases h

lemma onProcessed_sink (s : St P) (baseline canary : Except String (List Output)) (batch : List Event) :
    (s.onProcessed baseline canary batch).sink = s.pipe.sink := by
  have ha : ∀ r, (s.pipe.onAnswer s.current r batch).sink = s.pipe.sink := by intro r; cases r <;> rfl
  unfold St.onProcessed; split
  · exact ha baseline
  · simp only; split <;> rfl

lemma Books.machineStep (h : Books s.pipe.sink) (hf : FlushedFirst s l) (hs : s.step cfg l = some s') :
    Books s'.pipe.sink := by
  cases l with
  | call | callStep => obtain ⟨_, -, rfl⟩ := map_eq_some_iff.mp hs; exact h
  | run l =>
    cases l with
    | shutdown => cases hs; exact h
    | gate => obtain ⟨_, -, rfl⟩ := map_eq_some_iff.mp hs; exact h
    | pressure => cases hs; exact h
    | src => rwa [srcStep_sink hs]
    | batch r =>
      simp only [St.step, St.runStep] at hs; split_ifs at hs; cases hs
      match r with
      | .error _ | .ok [] | .ok (_ :: _) => exact h
    | proc => rwa [procStep_sink hs]
    | processed => grind [St.step, St.runStep, onProcessed_sink]
    | sink =>
      simp only [St.step, St.runStep] at hs; split at hs
      · rename_i hph
        cases hs; exact h.sinkSwap hph (hf hph)
      · obtain ⟨p, hp, rfl⟩ := map_eq_some_iff.mp hs; exact h.onSink hp
    | sinkTask => obtain ⟨k, hk, rfl⟩ := map_eq_some_iff.mp hs; exact h.onTask hk

lemma Books.initial (h : Initial cfg s) : Books s.pipe.sink := by
  obtain ⟨-, ⟨ledger, tracker, hs⟩, -⟩ := h.pipe; rw [hs]
  exact ⟨⟨nofun, rfl, fun _ _ => nofun⟩, nofun, rfl, nofun, rfl, nofun, nofun⟩

end Runs

theorem sink_credits_safe (cfg : Cfg) {s : St P} (h : ((machine cfg).restrict FlushedFirst).Reachable s) :
    CreditsSafe s.pipe.sink := by
  have hin : ((machine (P := P) cfg).restrict FlushedFirst).Inductive fun s => Books s.pipe.sink :=
    ⟨fun _ hi => Books.initial hi, fun _ _ _ hiv hst => hiv.machineStep hst.1 hst.2⟩
  exact (hin.reachable h).safe

abbrev proc : Lbl Nat := .run (.proc true)

abbrev sinkTask (l : SinkTask.Lbl) : Lbl Nat := .run (.sinkTask l)

def written : List (Lbl Nat) := [.run .src, .run .src, .run (.batch (.ok [.plain 7 []])), .run .src, proc,
    proc,
    .run (.processed (.ok [Output.withEventIdentity { payload := [] } (.plain 7 [])]) (.ok [])), proc,
    .run .sink,
    sinkTask (.answer (.ok fun _ => .pending)), sinkTask .gc]

def swapped : List (Lbl Nat) :=
  [.call 0 (.drainAndSwap .sink), .run .src, .run .src, proc, proc, proc, proc, proc, .callStep 0,
    .callStep 0,
    .run .sink, .run .sink, .run .sink]

def flushed : List (Lbl Nat) := [sinkTask (.tick true 0), sinkTask (.flushed (.ok ()) 0)]

structure SinkBooks where
  inst : Option Nat
  wroteTo : List (Option Nat)
  credits : List Credit
  outputsSent : Nat
  entries : List Uuid
  deriving DecidableEq

def sinkBooks (s : St Nat) : SinkBooks :=
  let k := s.pipe.sink
  ⟨k.inst, k.wroteTo, k.credits, k.task.metrics.outputsSent, k.task.ledger.elim [] fun l =>
    l.positions.map Prod.fst⟩

def swappedBooks : SinkBooks := ⟨some 0, [none], [⟨0, some 0, true⟩], 1, []⟩

theorem swapped_sink_credits :
    ∃ s, (machine unorderedCfg).Reachable s ∧ sinkBooks s = swappedBooks ∧ ¬ CreditsSafe s.pipe.sink := by
  have h : (LTS.exec (fun s => St.step unorderedCfg s) (idlePipeline .push (some {}))
      (written ++ [sinkTask (.tick false 0)] ++ swapped ++ flushed)).map
      sinkBooks = some swappedBooks := by decide +kernel
  obtain ⟨s, hs, hv⟩ := map_eq_some_iff.mp h
  refine ⟨s, ⟨_, _, idlePipeline_initial, LTS.run_of_exec hs⟩, hv, fun hsa => ?_⟩
  have hc : s.pipe.sink.credits = [⟨0, some 0, true⟩] := congrArg SinkBooks.credits hv
  have hw : s.pipe.sink.wroteTo = [none] := congrArg SinkBooks.wroteTo hv
  have ho := hsa.own ⟨0, some 0, true⟩ (by rw [hc]; exact mem_singleton_self _)
  rw [hw] at ho; cases ho

instance (s : St Nat) (l : Lbl Nat) : Decidable (FlushedFirst s l) := by
  unfold FlushedFirst; split <;> infer_instance

theorem sink_credits_safe_flushed : ∃ s, ((machine unorderedCfg).restrict FlushedFirst).Reachable s ∧
      sinkBooks s = ⟨some 0, [none], [⟨0, none, true⟩], 1, []⟩ ∧ CreditsSafe s.pipe.sink := by
  have hi : Initial unorderedCfg (idlePipeline .push (some {})) := idlePipeline_initial
  exact LTS.exists_restrict hi (written ++ flushed ++ swapped) (by decide +kernel) fun _ =>
    sink_credits_safe unorderedCfg

end Aeon.L3.SinkSwap
