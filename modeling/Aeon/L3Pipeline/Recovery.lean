import Aeon.L2Store.CrashRecovery
import Aeon.L3Pipeline.Runner

/-!
# Restarting a pipeline over its L2 store

`run_buffered` started again over its L2 root (`crates/aeon-engine/src/pipeline.rs:1914-1948`). The
recovery plan goes to the source alone; nothing reads the store.

* `replayed_iff`: uncovered events are processed again iff the wrapped source emits them again;
* `replay_never_happens`: a source that does not.
-/
namespace Aeon.L3.Recovery

open List Option Aeon.Core Aeon.Types Aeon.L2.Body Aeon.L2.Checkpoint Aeon.L3.Runner

structure L2 where
  dirs : PartitionId → Dir := fun _ => []
  stores : PartitionId → Option Store := fun _ => none

structure Appended where
  index : Nat
  event : Event
  seq : Nat
  deriving DecidableEq

section Source

variable (C : Codec Event) (segmentBytes : Nat) (mode : DurabilityMode)

/-- mirrors eo2.rs:88-120 -/
def L2.openStore (l2 : L2) (p : PartitionId) : Except String Store :=
  match l2.stores p with
  | some store => .ok store
  | none => Store.openDir C segmentBytes (l2.dirs p)

def L2.setStore (l2 : L2) (p : PartitionId) (store : Store) : L2 :=
  { l2 with stores := Function.update l2.stores p (some store) }

/-- mirrors eo2.rs:231-251 -/
def L2.appendAll (l2 : L2) : List (Event × Nat) → L2 × List Appended × Except String Unit
  | [] => (l2, [], .ok ())
  | (e, i) :: rest =>
    match l2.openStore C segmentBytes e.partition with
    | .error msg => (l2, [], .error msg)
    | .ok store =>
      match store.append C e with
      | (store, .error msg) => (l2.setStore e.partition store, [], .error msg)
      | (store, .ok seq) =>
        let (l2, done, res) := L2.appendAll (l2.setStore e.partition store) rest
        (l2, ⟨i, e, seq⟩ :: done, res)

def stamp (done : List Appended) (e : Event) (i : Nat) : Event :=
  match done.find? (·.index = i) with
  | some a => { e with l2Seq := some a.seq }
  | none => e

/-- mirrors eo2.rs:213-257 -/
def L2.onBatch (l2 : L2) (kind : SourceKind) (order : List PartitionId) (batch : List Event) :
    L2 × List Appended × Except String (List Event) :=
  if mode = .none ∨ kind = .pull ∨ batch = [] then (l2, [], .ok batch)
  else
    let grouped := order.flatMap fun p => batch.zipIdx.filter (·.1.partition = p)
    match l2.appendAll C segmentBytes grouped with
    | (l2, done, .error msg) => (l2, done, .error msg)
    | (l2, done, .ok ()) => (l2, done, .ok (batch.zipIdx.map fun x => stamp done x.1 x.2))

end Source

structure St (P : Type) where
  pipe : Pipe P
  l2 : L2 := {}
  emitted : List (List Event) := []
  appended : List Appended := []

inductive Lbl
  | next (order : List PartitionId) (r : Except String (List Event))
  | run (l : Runner.Lbl)

section Machine

variable {P : Type} (C : Codec Event) (segmentBytes : Nat) (mode : DurabilityMode) (cfg : Cfg) (p : P)

def step (s : St P) : Lbl → Option (St P)
  | .next _ (.error msg) =>
    (s.pipe.step cfg p (.batch (.error msg))).map fun pipe => { s with pipe := pipe }
  | .next order (.ok batch) =>
    if order.Perm (batch.map Event.partition).dedup then
      let (l2, done, res) := s.l2.onBatch C segmentBytes mode s.pipe.kind order batch
      (s.pipe.step cfg p (.batch res)).map fun pipe =>
        { pipe := pipe
          l2 := l2
          emitted := s.emitted ++ [batch]
          appended := s.appended ++ done }
    else none
  | .run (.batch _) => none
  | .run l => (s.pipe.step cfg p l).map fun pipe => { s with pipe := pipe }

structure Fresh (plan : Option RecoveryPlan) (s : St P) : Prop where
  starts : Starts cfg plan s.pipe
  stores : ∀ q, s.l2.stores q = none
  emitted : s.emitted = []
  appended : s.appended = []

def machine (plan : Option RecoveryPlan) : LTS (St P) Lbl :=
  .ofFn (Fresh cfg plan) (step C segmentBytes mode cfg p)

end Machine

section Replay

variable {P : Type}

def Uncovered (last : Option CheckpointRecord) (seq : Nat) : Prop := ∀ r, last = some r →
    r.perSinkAckSeq = ∅ ∨ ∃ sink ack, r.perSinkAckSeq.lookup sink = some ack ∧ ack < seq

def Handed (s : St P) (e : Event) : Prop := ∃ h ∈ s.pipe.handled, ∃ e' ∈ h.events, e'.id = e.id

def Emitted (s : St P) (e : Event) : Prop := ∃ batch ∈ s.emitted, ∃ e' ∈ batch, e'.id = e.id

def Replayed (before : St P) (last : Option CheckpointRecord) (s : St P) : Prop :=
  ∀ a ∈ before.appended, Uncovered last a.seq → Handed s a.event

def Reemitted (before : St P) (last : Option CheckpointRecord) (s : St P) : Prop :=
  ∀ a ∈ before.appended, Uncovered last a.seq → Emitted s a.event

structure Drained (s : St P) : Prop where
  src : s.pipe.src = .finished
  proc : s.pipe.proc = .finished
  ring : s.pipe.srcRing = []

end Replay

section Flow

variable {P : Type} {C : Codec Event} {segmentBytes : Nat} {mode : DurabilityMode} {cfg : Cfg} {p : P}

lemma stamp_id (done : List Appended) (e : Event) (i : Nat) : (stamp done e i).id = e.id := by
  unfold stamp; split <;> rfl

def ids (batch : List Event) : List Uuid := batch.map Event.id

lemma onBatch_ids {l2 l2' : L2} {kind : SourceKind} {order : List PartitionId} {batch out : List Event}
    {done : List Appended} (h : l2.onBatch C segmentBytes mode kind order batch = (l2', done, .ok out)) :
    ids out = ids batch := by
  unfold L2.onBatch at h; split_ifs at h with hp
  · cases h; rfl
  · simp only at h; generalize l2.appendAll C segmentBytes _ = res at h
    obtain ⟨l2₁, done₁, r⟩ := res
    cases r with
    | error => cases h
    | ok =>
      cases h; rw [ids, List.map_map, ids]
      conv_rhs => rw [← zipIdx_map_fst 0 batch, List.map_map]
      refine map_congr_left fun x _ => ?_; exact stamp_id done x.1 x.2

def Flow (s : Pipe P) : Prop :=
  ∃ lost, s.returned = s.handled.map Handled.events ++ (lost ++ (s.proc.input ++ (s.srcRing ++ s.src.held))) ∧
    ((∀ e, s.proc ≠ .failed e) → lost = [])

variable {s s' : Pipe P}

structure Follows (s s' : Pipe P) : Prop where
  flow : Flow s'
  returned : s'.returned = s.returned
  failed : ∀ msg, s.src = .failed msg → s'.src = .failed msg

lemma Flow.srcStep (h : Flow s) (hs : s.srcStep cfg = some s') : Follows s s' := by
  obtain ⟨lost, hin, hl⟩ := h; unfold Pipe.srcStep at hs
  cases hsr : s.src <;> simp only [hsr, reduceCtorEq, Option.some.injEq] at hs <;> subst hs <;>
    refine ⟨⟨lost, ?_, ?_⟩, ?_, by simp [hsr]⟩
  all_goals (try unfold Pipe.pushSrc); split_ifs <;> simp_all [Pipe.pull, SrcPc.held]

lemma Flow.procStep (h : Flow s) (hs : s.procStep cfg = some s') : Follows s s' := by
  obtain ⟨lost, hin, hl⟩ := h; unfold Pipe.procStep at hs
  have hm : ∀ pc, s.proc.input = [] → pc.input = [] → (∀ e, s.proc ≠ .failed e) →
      Follows s { s with proc := pc } := by
    intro pc hold hn hli; refine ⟨⟨[], ?_, fun _ => rfl⟩, rfl, fun _ hf => hf⟩
    simp only [hin, hold, hn, hl hli]
  cases hp : s.proc <;> simp only [hp, reduceCtorEq, Option.some.injEq] at hs <;> subst hs
  case popping =>
    unfold Pipe.popSrc; split
    · exact hm _ (by rw [hp]; rfl) rfl (by simp [hp])
    · rename_i batch rest hr
      refine ⟨⟨[], ?_, fun _ => rfl⟩, rfl, fun _ hf => hf⟩
      simp [hin, hp, hr, ProcPc.input, hl (by simp [hp])]
  case pushing outs =>
    unfold Pipe.pushSink; split_ifs
    · exact ⟨(hm .top (by rw [hp]; rfl) rfl (by simp [hp])).flow, rfl, fun _ hf => hf⟩
    · exact ⟨⟨lost, hin, hl⟩, rfl, fun _ hf => hf⟩
  all_goals exact hm _ (by rw [hp]; rfl) (by first | rfl | (split_ifs <;> rfl)) (by simp [hp])

lemma Flow.onAnswer (h : Flow s) {batch : List Event} (hp : s.proc = .processing batch)
    (r : Except String (List Output)) :
    Follows s (s.onAnswer p r batch) := by
  obtain ⟨lost, hin, hl⟩ := h; have hn : lost = [] := hl (by simp [hp])
  cases r with
  | error e =>
    refine ⟨⟨[batch], ?_, fun hli => absurd rfl (hli e)⟩, rfl, fun _ hf => hf⟩
    simp [Pipe.onAnswer, hin, hp, hn, ProcPc.input]
  | ok =>
    refine ⟨⟨[], ?_, fun _ => rfl⟩, rfl, fun _ hf => hf⟩
    simp [Pipe.onAnswer, Pipe.onProcessed, hin, hp, hn, ProcPc.input]

lemma Flow.step (h : Flow s) (hl : ∀ r, l ≠ .batch r) (hs : s.step cfg p l = some s') : Follows s s' := by
  cases l with
  | shutdown | pressure b => cases hs; exact ⟨h, rfl, fun _ hf => hf⟩
  | gate g | sinkTask l => obtain ⟨_, -, rfl⟩ := map_eq_some_iff.mp hs; exact ⟨h, rfl, fun _ hf => hf⟩
  | src => exact h.srcStep hs
  | batch r => exact absurd rfl (hl r)
  | proc locked => exact h.procStep hs
  | processed baseline canary =>
    simp only [Pipe.step] at hs
    cases hp : s.proc with simp only [hp, reduceCtorEq] at hs
    | processing batch => cases hs; exact h.onAnswer hp baseline
  | sink =>
    simp only [Pipe.step] at hs; split at hs
    · cases hs; exact ⟨h, rfl, fun _ hf => hf⟩
    · obtain ⟨k, ring, rfl, -⟩ := Pipe.onSink_eq cfg hs; exact ⟨h, rfl, fun _ hf => hf⟩

lemma Flow.batch (h : Flow s) (hs : s.step cfg p (.batch r) = some s') :
    Flow s' ∧ ((∃ msg, r = .error msg ∧ s'.src = .failed msg ∧ s'.returned = s.returned) ∨
      ∃ out, r = .ok out ∧ s'.returned.flatten = s.returned.flatten ++ out) := by
  obtain ⟨lost, hin, hl⟩ := h
  simp only [Pipe.step, ite_none_right_eq_some, Option.some.injEq] at hs
  obtain ⟨hsr, rfl⟩ := hs
  cases r with
  | error msg =>
    refine ⟨⟨lost, ?_, hl⟩, .inl ⟨msg, rfl, rfl, rfl⟩⟩
    simp [Pipe.onBatch, hin, hsr, SrcPc.held]
  | ok out =>
    cases out with
    | nil =>
      refine ⟨⟨lost, ?_, hl⟩, .inr ⟨[], rfl, by simp [Pipe.onBatch]⟩⟩
      simp only [Pipe.onBatch, hin, hsr]; split_ifs <;> rfl
    | cons e es =>
      refine ⟨⟨lost, ?_, hl⟩, .inr ⟨e :: es, rfl, by simp [Pipe.onBatch]⟩⟩
      simp [Pipe.onBatch, hin, hsr, SrcPc.held]

end Flow

section Main

variable {P : Type} {C : Codec Event} {segmentBytes : Nat} {mode : DurabilityMode} {cfg : Cfg} {p : P}
  {plan : Option RecoveryPlan} {s s' : St P} {e : Event}

structure Inv (s : St P) : Prop where
  flow : Flow s.pipe
  given : ∀ id ∈ ids s.pipe.returned.flatten, id ∈ ids s.emitted.flatten
  all : (∀ msg, s.pipe.src ≠ .failed msg) → ids s.pipe.returned.flatten = ids s.emitted.flatten

lemma Inv.step {l : Lbl} (h : Inv s) (hs : step C segmentBytes mode cfg p s l = some s') : Inv s' := by
  cases l with
  | next order r =>
    cases r with
    | error =>
      obtain ⟨pipe, hp, rfl⟩ := map_eq_some_iff.mp hs
      obtain ⟨hfl, ⟨msg', -, hfa, hr⟩ | ⟨out, ho, -⟩⟩ := h.flow.batch hp
      · refine ⟨hfl, ?_, fun hli => absurd hfa (hli msg')⟩; rw [hr]; exact h.given
      · cases ho
    | ok batch =>
      simp only [Recovery.step, ite_none_right_eq_some] at hs; obtain ⟨-, hs⟩ := hs
      generalize hres : s.l2.onBatch C segmentBytes mode s.pipe.kind order batch = res at hs
      obtain ⟨l2, done, res⟩ := res; obtain ⟨pipe, hp, rfl⟩ := map_eq_some_iff.mp hs
      obtain ⟨hfl, ⟨msg', -, hfa, hr⟩ | ⟨out, ho, hr⟩⟩ := h.flow.batch hp
      · refine ⟨hfl, ?_, fun hli => absurd hfa (hli msg')⟩; intro id hid; rw [hr] at hid
        rw [flatten_append, ids, map_append]
        exact mem_append_left _ (h.given id hid)
      · subst ho; have hi := onBatch_ids hres
        have hn : ids pipe.returned.flatten = ids s.pipe.returned.flatten ++ ids batch := by grind [ids]
        have he : ids (s.emitted ++ [batch]).flatten = ids s.emitted.flatten ++ ids batch := by simp [ids]
        have hli : ∀ msg, s.pipe.src ≠ .failed msg := by simp_all [Pipe.step]
        have hsa := hn.trans ((congrArg (· ++ ids batch) (h.all hli)).trans he.symm)
        exact ⟨hfl, fun id hid => hsa ▸ hid, fun _ => hsa⟩
  | run l =>
    have hl : ∀ r, l ≠ .batch r := by rintro r rfl; cases hs
    have hs' : (s.pipe.step cfg p l).map (fun pipe => { s with pipe := pipe }) = some s' := by
      cases l <;> first | exact hs | exact absurd rfl (hl _)
    obtain ⟨pipe, hp, rfl⟩ := map_eq_some_iff.mp hs'; have hf := h.flow.step hl hp
    refine ⟨hf.flow, ?_, fun hli => ?_⟩
    · rw [hf.returned]; exact h.given
    · rw [hf.returned]; exact h.all fun msg hm => hli msg (hf.failed msg hm)

lemma Fresh.inv (h : Fresh cfg plan s) : Inv s := by
  obtain ⟨hs, hp, hri, -⟩ := h.starts.tasks; obtain ⟨hr, hh, -⟩ := h.starts.history
  refine ⟨⟨[], ?_, fun _ => rfl⟩, ?_, fun _ => ?_⟩
  · rw [hr, hh, hp, hri, hs]; rfl
  · rw [hr]; exact fun id hid => absurd hid not_mem_nil
  · rw [hr, h.emitted]

lemma Inv.run (hs : Fresh cfg plan s) (h : (machine C segmentBytes mode cfg p plan).Run s ls s') : Inv s' :=
  h.induct (I := Inv) (fun _ _ _ hi hst => hi.step hst) hs.inv

lemma mem_ids {batches : List (List Event)} : e.id ∈ ids batches.flatten ↔
    ∃ batch ∈ batches, ∃ e' ∈ batch, e'.id = e.id := by simp [ids, List.mem_map]

lemma Inv.emitted (h : Inv s) (hh : Handed s e) : Emitted s e := by
  obtain ⟨k, hk, e', he', hid⟩ := hh; obtain ⟨lost, hin, -⟩ := h.flow
  refine mem_ids.mp (h.given e.id (mem_ids.mpr ⟨k.events, ?_, e', he', hid⟩)); grind

lemma Inv.handed (h : Inv s) (hd : Drained s) (he : Emitted s e) : Handed s e := by
  obtain ⟨lost, hin, hl⟩ := h.flow; have hn : lost = [] := hl (by simp [hd.proc])
  have hr : s.pipe.returned = s.pipe.handled.map Handled.events := by
    rw [hin, hn, hd.proc, hd.ring, hd.src]; simp [ProcPc.input, SrcPc.held]
  have ha := h.all (by simp [hd.src])
  obtain ⟨batch, hb, e', he', hid⟩ := mem_ids.mp (ha ▸ mem_ids.mpr he); rw [hr] at hb
  obtain ⟨k, hk, rfl⟩ := List.mem_map.mp hb; exact ⟨k, hk, e', he', hid⟩

theorem replayed_iff {ls : List Lbl} (before : St P) (last : Option CheckpointRecord) (hs : Fresh cfg plan s)
    (hru : (machine C segmentBytes mode cfg p plan).Run s ls s') (hd : Drained s') :
    Replayed before last s' ↔ Reemitted before last s' := by
  have hi := Inv.run hs hru
  exact ⟨fun hr a ha hu => hi.emitted (hr a ha hu), fun hr a ha hu => hi.handed hd (hr a ha hu)⟩

end Main

def webhookEvent : Event := { Event.plain 7 [42] with source := "webhook" }

def codec : Codec Event where
  encode e := binCodec.encode e.payload
  decode b := (binCodec.decode b).map fun payload => { webhookEvent with payload := payload }
  crc32 := binCodec.crc32

def process (dirs : PartitionId → Dir) : St Unit where
  pipe := { kind := .push, plan := some (.fromLast none), sink := { task := { ledger := none } } }
  l2 := { dirs := dirs }

lemma process_fresh (dirs : PartitionId → Dir) : Fresh perEventCfg (some (.fromLast none))
    (process dirs) where
  starts := ⟨⟨rfl, rfl, rfl, rfl⟩, ⟨none, none, rfl⟩, rfl, rfl, rfl, rfl⟩
  stores _ := rfl
  emitted := rfl
  appended := rfl

def crashed : List Lbl := [.run .src, .run .src, .next [0] (.ok [webhookEvent])]

def silent : List Lbl :=
  [.run .src, .run .src, .next [] (.ok []), .run .src, .run .src, .next [] (.ok []), .run .shutdown,
    .run .src, .run (.proc true)]

def redelivered : List Lbl :=
  [.run .src, .run .src, .next [0] (.ok [webhookEvent]), .run .src, .run (.proc true), .run (.proc true),
    .run (.processed (.ok []) (.ok [])), .run (.proc true), .run .shutdown, .run .src, .run (.proc true)]

abbrev perEvent : LTS (St Unit) Lbl := machine codec 0 .perEvent perEventCfg () (some (.fromLast none))

def segment : Dir := [(0, header ++ frame codec 0 [0xC4, 1, 42])]

def onDisk (p : PartitionId) : Dir := if p = 0 then segment else []

lemma crashed_run : ∃ s, perEvent.Run (process fun _ => []) crashed s ∧ s.appended = [⟨0, webhookEvent, 0⟩] ∧
    (s.l2.stores 0).map Store.dir = some (onDisk 0) := by exact LTS.exists_run (by decide +kernel)

structure Ending where
  src : SrcPc
  proc : ProcPc
  ring : List (List Event)
  emitted : List (List Event)
  deriving DecidableEq

def ending (s : St Unit) : Ending := ⟨s.pipe.src, s.pipe.proc, s.pipe.srcRing, s.emitted⟩

lemma drained_of_ending {emitted : List (List Event)} (h : ending s = ⟨.finished, .finished, [], emitted⟩) :
    Drained s :=
  ⟨congrArg Ending.src h, congrArg Ending.proc h, congrArg Ending.ring h⟩

lemma uncovered_none (seq : Nat) : Uncovered none seq := by intro r hr; cases hr

theorem replay_never_happens : ∃ before, perEvent.Run (process fun _ => []) crashed before ∧
      before.appended = [⟨0, webhookEvent, 0⟩] ∧ (before.l2.stores 0).map Store.dir = some (onDisk 0) ∧
      (∀ ls s, perEvent.Run (process onDisk) ls s → s.emitted.flatten = [] → ¬ Replayed before none s) ∧
      ∃ s, perEvent.Run (process onDisk) silent s ∧ Drained s ∧ s.emitted.flatten = [] := by
  obtain ⟨before, hb, ha, hd⟩ := crashed_run
  refine ⟨before, hb, ha, hd, fun ls s hru hn hr => ?_, ?_⟩
  · have hh := hr ⟨0, webhookEvent, 0⟩ (by rw [ha]; exact mem_cons_self) (uncovered_none 0)
    have hm := mem_ids.mpr ((Inv.run (process_fresh onDisk) hru).emitted hh); rw [hn] at hm
    exact absurd hm not_mem_nil
  · have h : (LTS.exec (step codec 0 .perEvent perEventCfg ()) (process onDisk) silent).map ending =
        some ⟨.finished, .finished, [], [[], []]⟩ := by decide +kernel
    obtain ⟨s, hs, hv⟩ := map_eq_some_iff.mp h
    have he : s.emitted = [[], []] := congrArg Ending.emitted hv
    exact ⟨s, LTS.run_of_exec hs, drained_of_ending hv, by rw [he]; rfl⟩

theorem replayed_redelivered :
    ∃ before s, before.appended = [⟨0, webhookEvent, 0⟩] ∧ perEvent.Run (process onDisk) redelivered s ∧
      Drained s ∧ Replayed before none s := by
  obtain ⟨before, -, hap, -⟩ := crashed_run
  have h : (LTS.exec (step codec 0 .perEvent perEventCfg ()) (process onDisk) redelivered).map ending =
      some ⟨.finished, .finished, [], [[webhookEvent]]⟩ := by decide +kernel
  obtain ⟨s, hs, hv⟩ := map_eq_some_iff.mp h
  have hr : perEvent.Run (process onDisk) redelivered s := LTS.run_of_exec hs
  have hd := drained_of_ending hv
  refine ⟨before, s, hap, hr, hd, (replayed_iff before none (process_fresh onDisk) hr hd).mpr fun a ha _ =>
    ?_⟩
  have he : s.emitted = [[webhookEvent]] := congrArg Ending.emitted hv; rw [hap] at ha
  obtain rfl := mem_singleton.mp ha
  exact ⟨[webhookEvent], by rw [he]; exact mem_cons_self, webhookEvent, mem_cons_self, rfl⟩

end Aeon.L3.Recovery
