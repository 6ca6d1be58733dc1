import Aeon.Core.Buckets
import Aeon.L3Transport.Routing

/-!
# Replay after a reconnect

`ReplayOrchestrator` of `transport/session.rs`: drained batches are stashed in buckets, taken by a
later session of the same identity, or expired by a sweep. A step is one operation on a map.

* `replay_safe`: no drained batch is lost or doubled, and when batches come back under their own
  key, in order;
* `replay_fails`: three runs in which they do not.
-/
namespace Aeon.L3.Replay

open List Option Aeon.Core Aeon.Types Aeon.L3.Session Aeon.L3.Routing

/-- mirrors session.rs:263 -/
abbrev ReplayKey := String × String × PartitionId

structure Host where
  pipelineName : String
  replayWindow : Nat
  handshake : HandshakeConfig := {}

/-- mirrors session.rs:368-372 -/
def partitionOf (events : List Event) : PartitionId := (events.head?.map (·.partition)).getD 0

/-- mirrors session.rs:373-378 -/
def pipelineOf (assignments : List PipelineAssignment) (partition : PartitionId) : String :=
  ((assignments.find? fun a => a.partitions.contains partition).map (·.name)).getD ""

/-- mirrors session.rs:379 -/
def stashKey (session : AwppSession) (batch : InflightBatch) : ReplayKey :=
  (session.fingerprint, pipelineOf session.pipelineAssignments (partitionOf batch.events),
    partitionOf batch.events)

def ownKey (host : Host) (session : AwppSession) (batch : InflightBatch) : ReplayKey :=
  (session.fingerprint, host.pipelineName, partitionOf batch.events)

structure Drained where
  session : Nat
  own : ReplayKey
  batch : InflightBatch
  deriving DecidableEq

def Drained.id (d : Drained) : Nat × Nat := (d.session, d.batch.batchId)

structure Failure where
  item : Drained
  deadline : Nat
  failedAt : Nat
  error : String

inductive Phase
  | live
  | stashing (expiresAt : Nat) (todo : List Drained)

def Phase.todo : Phase → List Drained
  | live => []
  | stashing _ todo => todo

structure Conn where
  session : AwppSession
  phase : Phase := .live
  replaying : List InflightBatch := []

def Conn.withInflight (c : Conn) (b : BatchInflight) : Conn :=
  { c with session := { c.session with batchInflight := b } }

structure Orchestrator where
  now : Nat := 0
  buckets : Buckets ReplayKey Drained := []
  sweeping : List ReplayKey := []
  drained : List Drained := []
  returned : List (ReplayKey × List Drained) := []
  failed : List Failure := []

structure St where
  conns : List Conn := []
  orch : Orchestrator := {}
  next : Nat := 0
  forwards : List (Nat × Nat) := []

inductive Lbl
  | connect (identity : ProcessorIdentity) (reg : Register) (assignments : List PipelineAssignment)
    (sessionId : String)
  | call (i : Nat) (events : List Event)
  | complete (i batchId : Nat)
  | disconnect (i : Nat)
  | push (i : Nat)
  | close (i : Nat)
  | take (i : Nat) (pipeline : String) (partition : PartitionId)
  | resubmit (i : Nat)
  | tick (d : Nat)
  | collect
  | sweep

namespace Orchestrator

variable (o : Orchestrator)

/-- mirrors session.rs:335-339, 408-414 -/
def fail (bk : Bucket Drained) (rest : Buckets ReplayKey Drained) : Orchestrator := { o with
    buckets := rest
    failed := o.failed ++ bk.items.map fun d =>
      ⟨d, bk.deadline, o.now, "TR-1 replay window expired before processor reconnected"⟩ }

/-- mirrors session.rs:320-324 -/
def expired : List ReplayKey := (o.buckets.filter (·.2.deadline ≤ o.now)).map Prod.fst

/-- mirrors session.rs:325-341 -/
def sweep (k : ReplayKey) (ks : List ReplayKey) : Orchestrator :=
  match o.buckets.pop k with
  | none => { o with sweeping := ks }
  | some (bk, rest) => { o.fail bk rest with sweeping := ks }

/-- mirrors session.rs:400-417 -/
def take (k : ReplayKey) : Orchestrator × Option (List Drained) :=
  match o.buckets.pop k with
  | none => (o, none)
  | some (bk, rest) =>
    if bk.deadline ≤ o.now then (o.fail bk rest, none)
    else ({ o with buckets := rest, returned := o.returned ++ [(k, bk.items)] }, some bk.items)

end Orchestrator

section Machine

variable (host : Host)

def drain (i : Nat) (session : AwppSession) : BatchInflight × List Drained :=
  ((session.batchInflight.drainForReplay).1,
    (session.batchInflight.drainForReplay).2.map fun b => ⟨i, ownKey host session b, b⟩)

/-- mirrors session.rs:364-390, websocket_host.rs:165-232, 237-270, 287-345, 594-659, webtransport_host.rs:494-520, 552-580 -/
def step (s : St) : Lbl → Option St
  | .connect identity reg assignments sessionId =>
    some { s with conns := s.conns ++ [{ session := accept host.handshake identity reg assignments sessionId
      }] }
  | .call i events =>
    match s.conns[i]? with
    | some c =>
      if events ≠ [] ∧ (host.pipelineName, partitionOf events) ∈ keysOf c.session.pipelineAssignments then
        (c.session.batchInflight.startBatch ⟨s.next, events⟩).map fun r =>
          { s with conns := s.conns.set i (c.withInflight r.1), next := s.next + 1 }
      else none
    | none => none
  | .complete i batchId =>
    match s.conns[i]? with
    | some c =>
      some { s with conns := s.conns.set i (c.withInflight (c.session.batchInflight.completeBatch batchId).1)
        }
    | none => none
  | .disconnect i =>
    match s.conns[i]? with
    | some ⟨session, .live, replaying⟩ =>
      let (b, todo) := drain host i session
      some { s with
        conns := s.conns.set i
          ⟨{ session with batchInflight := b }, .stashing (s.orch.now + host.replayWindow) todo, replaying⟩
        orch := { s.orch with drained := s.orch.drained ++ todo } }
    | _ => none
  | .push i =>
    match s.conns[i]? with
    | some ⟨session, .stashing expiresAt (d :: todo), replaying⟩ =>
      some { s with
        conns := s.conns.set i ⟨session, .stashing expiresAt todo, replaying⟩
        orch := { s.orch with buckets := s.orch.buckets.push (stashKey session d.batch) d expiresAt } }
    | _ => none
  | .close i =>
    match s.conns[i]? with
    | some ⟨session, .stashing expiresAt [], replaying⟩ =>
      some { s with
        conns := s.conns.set i
          (Conn.withInflight ⟨session, .stashing expiresAt [], replaying⟩ session.batchInflight.cancelAll.1) }
    | _ => none
  | .take i pipeline partition =>
    match s.conns[i]? with
    | some ⟨session, .live, replaying⟩ =>
      let (o, batches) := s.orch.take (session.fingerprint, pipeline, partition)
      some { s with
        conns := s.conns.set i ⟨session, .live, replaying ++ (batches.getD []).map (·.batch)⟩
        orch := o }
    | _ => none
  | .resubmit i =>
    match s.conns[i]? with
    | some ⟨session, phase, b :: replaying⟩ =>
      (session.batchInflight.startBatch ⟨s.next, b.events⟩).map fun r =>
        { s with
          conns := s.conns.set i (Conn.withInflight ⟨session, phase, replaying⟩ r.1)
          next := s.next + 1
          forwards := s.forwards ++ [(s.next, b.responder)] }
    | _ => none
  | .tick d => some { s with orch := { s.orch with now := s.orch.now + d } }
  | .collect =>
    if s.orch.sweeping = [] then some { s with orch := { s.orch with sweeping := s.orch.expired } } else none
  | .sweep =>
    match s.orch.sweeping with
    | k :: ks => some { s with orch := s.orch.sweep k ks }
    | [] => none

def machine : LTS St Lbl := .ofFn (· = {}) (step host)

def St.stashes (s : St) : Lbl → Option (AwppSession × Drained)
  | .push i =>
    match s.conns[i]? with
    | some ⟨session, .stashing _ (d :: _), _⟩ => some (session, d)
    | _ => none
  | _ => none

def Careful (s : St) (l : Lbl) : Prop := ∀ sd ∈ s.stashes l,
    pipelineOf sd.1.pipelineAssignments (partitionOf sd.2.batch.events) = host.pipelineName ∧
    (∀ kb ∈ s.orch.buckets, kb.1 = stashKey sd.1 sd.2.batch → ∀ d ∈ kb.2.items, d.session = sd.2.session) ∧
    stashKey sd.1 sd.2.batch ∉ s.orch.sweeping
  deriving Decidable

end Machine

def St.transit (s : St) : List Drained := s.conns.flatMap (·.phase.todo)

structure Conserved (s : St) : Prop where
  once : (s.orch.drained.map Drained.id).Nodup
  kept : (s.transit ++ (s.orch.buckets.items ++ (s.orch.returned.flatMap Prod.snd ++
    s.orch.failed.map Failure.item))).Perm s.orch.drained

structure Delivered (s : St) : Prop where
  own : ∀ r ∈ s.orch.returned, ∀ d ∈ r.2, d.own = r.1
  ascending : ∀ r ∈ s.orch.returned, r.2.Pairwise (·.batch.batchId < ·.batch.batchId)
  expired : ∀ f ∈ s.orch.failed, f.deadline ≤ f.failedAt
  found : ∀ d ∈ s.orch.buckets.items, ∃ bk rest, s.orch.buckets.pop d.own = some (bk, rest) ∧ d ∈ bk.items

structure SameTask (c c' : Conn) : Prop where
  phase : c'.phase = c.phase
  fingerprint : c'.session.fingerprint = c.session.fingerprint
  assignments : c'.session.pipelineAssignments = c.session.pipelineAssignments

inductive Moves (host : Host) (s : St) : Lbl → St → Prop
  | connect {l : Lbl} {s' : St} {c : Conn} (hconns : s'.conns = s.conns ++ [c]) (ho : s'.orch = s.orch)
      (hlive : c.phase = .live) : Moves host s l s'
  | keep {l : Lbl} {s' : St} {i : Nat} {c c' : Conn} (hc : s.conns[i]? = some c)
      (hconns : s'.conns = s.conns.set i c') (ho : s'.orch = s.orch) (hsame : SameTask c c') :
        Moves host s l s'
  | disconnect {l : Lbl} {s' : St} {i : Nat} {c c' : Conn} {expiresAt : Nat} (hc : s.conns[i]? = some c)
      (hconns : s'.conns = s.conns.set i c')
      (ho : s'.orch = { s.orch with drained := s.orch.drained ++ (drain host i c.session).2 })
      (hlive : c.phase = .live) (hphase : c'.phase = .stashing expiresAt (drain host i c.session).2)
      (hfp : c'.session.fingerprint = c.session.fingerprint) : Moves host s l s'
  | push {s' : St} {i : Nat} {c c' : Conn} {expiresAt : Nat} {d : Drained} {todo : List Drained}
      (hc : s.conns[i]? = some c) (hconns : s'.conns = s.conns.set i c')
      (ho : s'.orch = { s.orch with buckets := s.orch.buckets.push (stashKey c.session d.batch) d expiresAt })
      (hphase : c.phase = .stashing expiresAt (d :: todo)) (hphase' : c'.phase = .stashing expiresAt todo)
      (hsession : c'.session = c.session) : Moves host s (.push i) s'
  | take {l : Lbl} {s' : St} {i : Nat} {c c' : Conn} {k : ReplayKey} {bk : Bucket Drained}
      {rest : Buckets ReplayKey Drained} (hc : s.conns[i]? = some c) (hconns : s'.conns = s.conns.set i c')
      (ho : s'.orch = { s.orch with buckets := rest, returned := s.orch.returned ++ [(k, bk.items)] })
      (hpop : s.orch.buckets.pop k = some (bk, rest)) (hsame : SameTask c c') : Moves host s l s'
  | expire {l : Lbl} {s' : St} {k : ReplayKey} {bk : Bucket Drained} {rest : Buckets ReplayKey Drained}
      {ks : List ReplayKey} (hpop : s.orch.buckets.pop k = some (bk, rest))
      (hdue : bk.deadline ≤ s.orch.now ∨ k ∈ s.orch.sweeping) (hks : ks ⊆ s.orch.sweeping)
      (hconns : s'.conns = s.conns) (ho : s'.orch = { s.orch.fail bk rest with sweeping := ks }) :
      Moves host s l s'
  | collect {l : Lbl} {s' : St} (hconns : s'.conns = s.conns)
      (ho : s'.orch = { s.orch with sweeping := s.orch.expired }) : Moves host s l s'
  | idle {l : Lbl} {s' : St} {now : Nat} {ks : List ReplayKey} (hnow : s.orch.now ≤ now)
      (hks : ks ⊆ s.orch.sweeping) (hconns : s'.conns = s.conns)
      (ho : s'.orch = { s.orch with now := now, sweeping := ks }) : Moves host s l s'

lemma moves_of_step {host : Host} (h : step host s l = some s') : Moves host s l s' := by
  cases l <;> simp only [step] at h <;> (try split at h) <;> (try cases h)
  · exact .connect rfl rfl rfl
  next c hc =>
    split_ifs at h; obtain ⟨r, -, rfl⟩ := map_eq_some_iff.mp h
    exact .keep hc rfl rfl ⟨rfl, rfl, rfl⟩
  next c hc => exact .keep hc rfl rfl ⟨rfl, rfl, rfl⟩
  next hc => exact .disconnect hc rfl rfl rfl rfl rfl
  next hc => exact .push hc rfl rfl rfl rfl rfl
  next hc => exact .keep hc rfl rfl ⟨rfl, rfl, rfl⟩
  next pipeline partition _ session replaying hc =>
    cases hp : s.orch.buckets.pop (session.fingerprint, pipeline, partition) with
    | none => exact .keep hc rfl (by simp only [Orchestrator.take, hp]) ⟨rfl, rfl, rfl⟩
    | some r =>
      by_cases hd : r.1.deadline ≤ s.orch.now
      · -- nothing is returned, and the session is as before
        obtain ⟨hi, hci⟩ := List.getElem?_eq_some_iff.mp hc
        refine .expire hp (.inl hd) (List.Subset.refl _) ?_ ?_ <;>
          simp [Orchestrator.take, hp, hd, ← hci, Orchestrator.fail]
      · exact .take hc rfl (by simp [Orchestrator.take, hp, hd]) hp ⟨rfl, rfl, rfl⟩
  next hc =>
    obtain ⟨r, -, rfl⟩ := map_eq_some_iff.mp h
    exact .keep hc rfl rfl ⟨rfl, rfl, rfl⟩
  next d => exact .idle (Nat.le_add_right _ d) (List.Subset.refl _) rfl rfl
  · exact .collect rfl rfl
  next k ks hks =>
    have hs : ks ⊆ s.orch.sweeping := hks ▸ subset_cons_self k ks
    cases hp : s.orch.buckets.pop k with
    | none => exact .idle (Nat.le_refl _) hs rfl (by simp only [Orchestrator.sweep, hp])
    | some => exact .expire hp (.inr (by grind)) hs rfl (by simp only [Orchestrator.sweep, hp])

section Drain

variable {host : Host} {i : Nat} {session : AwppSession} {d : Drained}

lemma mem_drain (h : d ∈ (drain host i session).2) : d.session = i ∧ d.own = ownKey host session d.batch := by
  obtain ⟨b, -, rfl⟩ := List.mem_map.mp h; exact ⟨rfl, rfl⟩

lemma drain_ascending : (drain host i session).2.Pairwise (·.batch.batchId < ·.batch.batchId) := by
  simp only [drain, BatchInflight.drainForReplay, pairwise_map]
  exact session.batchInflight.pending.sorted

lemma nodup_drain : ((drain host i session).2.map Drained.id).Nodup := by
  rw [List.Nodup, pairwise_map]; refine drain_ascending.imp fun {a b} hlt heq => ?_
  have : a.batch.batchId = b.batch.batchId := congrArg Prod.snd heq; omega

end Drain

def Gone (s : St) (i : Nat) : Prop := ∃ c, s.conns[i]? = some c ∧ c.phase ≠ .live

structure Books (s : St) : Prop extends Conserved s where
  gone : ∀ d ∈ s.orch.drained, Gone s d.session
  keys : s.orch.buckets.keys.Nodup

section Books

variable {host : Host} {s s' : St} {l : Lbl} {i j : Nat} {c c' : Conn}

lemma getElem?_set_conn (hc : s.conns[i]? = some c) (hco : s'.conns = s.conns.set i c') (j : Nat) :
    s'.conns[j]? = if i = j then some c' else s.conns[j]? := by grind

lemma Gone.set (h : Gone s j) (hc : s.conns[i]? = some c) (hco : s'.conns = s.conns.set i c')
    (hp : c.phase ≠ .live → c'.phase ≠ .live) : Gone s' j := by grind [Gone]

lemma kept_iff : (s.transit ++ (s.orch.buckets.items ++ (s.orch.returned.flatMap Prod.snd ++
      s.orch.failed.map Failure.item))).Perm s.orch.drained ↔
    ∀ d, s.transit.count d + (s.orch.buckets.items.count d + ((s.orch.returned.flatMap Prod.snd).count d +
      (s.orch.failed.map Failure.item).count d)) = s.orch.drained.count d := by grind

lemma transit_set (hc : s.conns[i]? = some c) (hco : s'.conns = s.conns.set i c') (d : Drained) :
    s'.transit.count d + c.phase.todo.count d = s.transit.count d + c'.phase.todo.count d := by
  rw [St.transit, hco]; exact count_flatMap_set _ d hc

lemma transit_same (hc : s.conns[i]? = some c) (hco : s'.conns = s.conns.set i c') (hs : SameTask c c')
    (d : Drained) : s'.transit.count d = s.transit.count d := by
  have := transit_set hc hco d; rw [hs.phase] at this; omega

lemma Books.start : Books {} where
  once := nodup_nil
  kept := List.Perm.refl _
  gone := by simp
  keys := nodup_nil

lemma Books.quiet (h : Books s) (hp : (s'.orch.buckets, s'.orch.returned, s'.orch.failed, s'.orch.drained) =
      (s.orch.buckets, s.orch.returned, s.orch.failed, s.orch.drained))
    (ht : ∀ d, s'.transit.count d = s.transit.count d) (hg : ∀ j, Gone s j → Gone s' j) : Books s' := by
  simp only [Prod.mk.injEq] at hp; obtain ⟨hb, hr, hf, hdr⟩ := hp
  refine ⟨⟨hdr ▸ h.once, kept_iff.mpr fun d => ?_⟩, fun d hd => hg _ (h.gone d (hdr ▸ hd)), hb ▸ h.keys⟩
  rw [ht, hb, hr, hf, hdr]; exact kept_iff.mp h.kept d

lemma Books.step (h : Books s) (hs : Moves host s l s') : Books s' := by
  have hk := kept_iff.mp h.kept
  cases hs with
  | @connect _ _ c hco ho =>
    refine h.quiet (by rw [ho]) (by grind [St.transit, Phase.todo]) fun j ⟨t, ht, hg⟩ => ⟨t, ?_, hg⟩
    grind
  | keep hc hco ho hsa =>
    refine h.quiet (by rw [ho]) (transit_same hc hco hsa) fun j hj => hj.set hc hco fun hne => ?_
    rwa [hsa.phase]
  | @disconnect _ _ i c c' expiresAt hc hco ho hl hp =>
    have hn : ∀ d ∈ (drain host i c.session).2, d.session = i := fun d hd => (mem_drain hd).1
    have htr := transit_set hc hco; simp only [hl, hp, Phase.todo, count_nil] at htr
    refine ⟨⟨?_, kept_iff.mpr fun d => by grind⟩, ?_, by rw [ho]; exact h.keys⟩ <;> rw [ho]
    · -- the session was live, so none of its batches had been drained
      rw [map_append]
      refine nodup_append'.mpr ⟨h.once, nodup_drain, fun x hx hx' => ?_⟩
      obtain ⟨d, hd, rfl⟩ := List.mem_map.mp hx
      obtain ⟨d', hd', hid⟩ := List.mem_map.mp hx'; obtain ⟨t, ht, hg⟩ := h.gone d hd
      have hi : d.session = i := (congrArg Prod.fst hid).symm.trans (hn d' hd'); grind
    · intro d hd; rcases mem_append.mp hd with hd | hd
      · exact (h.gone d hd).set hc hco fun hne => absurd hl hne
      · rw [hn d hd]; exact ⟨c', by rw [getElem?_set_conn hc hco, if_pos rfl], by grind⟩
  | @push _ i c c' expiresAt d₀ todo hc hco ho hp hp' =>
    have htr := transit_set hc hco
    have hit := (Buckets.items_push (m := s.orch.buckets) (k := stashKey c.session d₀.batch) (b := d₀)
      (d := expiresAt)).count_eq
    simp only [hp, hp', Phase.todo, count_cons] at htr hit
    refine ⟨⟨by rw [ho]; exact h.once, kept_iff.mpr fun d => ?_⟩, ?_,
      by rw [ho]; exact Buckets.nodup_push h.keys⟩ <;>
      simp only [ho]
    · grind
    · exact fun d hd => (h.gone d hd).set hc hco fun _ => by grind
  | @take _ _ i c c' k bk rest hc hco ho hpo hsa =>
    have hit := (Buckets.items_pop hpo).count_eq; have htr := transit_same hc hco hsa
    refine ⟨⟨by rw [ho]; exact h.once, kept_iff.mpr fun d => by grind⟩, ?_,
      by rw [ho]; exact Buckets.nodup_pop hpo h.keys⟩
    rw [ho]; exact fun d hd => (h.gone d hd).set hc hco fun hne => by rwa [hsa.phase]
  | @expire _ _ k bk rest ks hpo hdu hks hco ho =>
    have hit := (Buckets.items_pop hpo).count_eq
    have hf : (s.orch.fail bk rest).failed.map Failure.item =
        s.orch.failed.map Failure.item ++ bk.items := by
      simp [Orchestrator.fail, Function.comp_def]
    refine ⟨⟨by rw [ho]; exact h.once, kept_iff.mpr fun d => ?_⟩, ?_,
      by rw [ho]; exact Buckets.nodup_pop hpo h.keys⟩
    · simp only [ho, St.transit, hco, hf, count_append] at hit ⊢
      grind [St.transit, Orchestrator.fail]
    · rw [ho]; exact fun d hd => by rw [Gone, hco]; exact h.gone d hd
  | collect hco ho | idle _ _ hco ho =>
    exact h.quiet (by rw [ho]) (fun d => by rw [St.transit, hco]; rfl) fun j hj => by rwa [Gone, hco]

lemma Books.mem_drained (h : Books s) (hkb : kb ∈ s.orch.buckets) (hd : d ∈ kb.2.items) :
    d ∈ s.orch.drained := by
  refine h.kept.subset (mem_append_right _ (mem_append_left _ ?_))
  exact mem_flatMap.mpr ⟨kb, hkb, hd⟩

end Books

structure Filed (o : Orchestrator) (kb : ReplayKey × Bucket Drained) : Prop where
  own : ∀ d ∈ kb.2.items, d.own = kb.1
  ascending : kb.2.items.Pairwise (·.batch.batchId < ·.batch.batchId)
  due : kb.1 ∈ o.sweeping → kb.2.deadline ≤ o.now

structure Queued (host : Host) (buckets : Buckets ReplayKey Drained) (i : Nat) (c : Conn) : Prop where
  mine : ∀ d ∈ c.phase.todo, d.session = i ∧ d.own = ownKey host c.session d.batch
  ascending : c.phase.todo.Pairwise (·.batch.batchId < ·.batch.batchId)
  later : ∀ kb ∈ buckets, ∀ x ∈ kb.2.items, x.session = i →
    ∀ d ∈ c.phase.todo, x.batch.batchId < d.batch.batchId

structure Ordered (host : Host) (s : St) : Prop where
  queued : ∀ (i : Nat) c, s.conns[i]? = some c → Queued host s.orch.buckets i c
  filed : ∀ kb ∈ s.orch.buckets, Filed s.orch kb
  own : ∀ r ∈ s.orch.returned, ∀ d ∈ r.2, d.own = r.1
  ascending : ∀ r ∈ s.orch.returned, r.2.Pairwise (·.batch.batchId < ·.batch.batchId)
  expired : ∀ f ∈ s.orch.failed, f.deadline ≤ f.failedAt

section Ordered

variable {host : Host} {s s' : St} {l : Lbl} {i : Nat} {c c' : Conn} {o o' : Orchestrator}
  {buckets buckets' : Buckets ReplayKey Drained} {kb : ReplayKey × Bucket Drained}

lemma Queued.of_live (h : c.phase = .live) : Queued host buckets i c := by
  constructor <;> simp [h, Phase.todo]

lemma Queued.mono (h : Queued host buckets i c) (hsu : buckets' ⊆ buckets) (hs : SameTask c c') :
    Queued host buckets' i c' where
  mine := by rw [hs.phase]; simp only [ownKey, hs.fingerprint]; exact h.mine
  ascending := by rw [hs.phase]; exact h.ascending
  later := by rw [hs.phase]; exact fun kb hkb => h.later kb (hsu hkb)

lemma Filed.mono (h : Filed o kb) (hs : o'.sweeping ⊆ o.sweeping) (hn : o.now ≤ o'.now) : Filed o' kb :=
  ⟨h.own, h.ascending, fun hm => (h.due (hs hm)).trans hn⟩

lemma SameTask.refl (c : Conn) : SameTask c c := ⟨rfl, rfl, rfl⟩

lemma queued_set (hc : s.conns[i]? = some c) (hco : s'.conns = s.conns.set i c')
    (h : ∀ (j : Nat) t, s.conns[j]? = some t → Queued host buckets j t) (hi : Queued host buckets' i c')
    (ho : ∀ j t, j ≠ i → Queued host buckets j t → Queued host buckets' j t) :
    ∀ (j : Nat) t, s'.conns[j]? = some t → Queued host buckets' j t := by grind

lemma Ordered.start : Ordered host {} where
  queued := by simp
  filed := by simp
  own := by simp
  ascending := by simp
  expired := by simp

lemma Ordered.quiet (h : Ordered host s)
    (hp : (s'.orch.returned, s'.orch.failed) = (s.orch.returned, s.orch.failed))
    (hq : ∀ (j : Nat) t, s'.conns[j]? = some t → Queued host s'.orch.buckets j t)
    (hfi : ∀ kb ∈ s'.orch.buckets, Filed s'.orch kb) : Ordered host s' := by
  obtain ⟨hr, hf⟩ := Prod.mk.inj hp
  exact ⟨hq, hfi, hr ▸ h.own, hr ▸ h.ascending, hf ▸ h.expired⟩

lemma Ordered.push {expiresAt : Nat} {todo : List Drained} (h : Ordered host s)
    (hca : Careful host s (.push i)) (hc : s.conns[i]? = some c) (hco : s'.conns = s.conns.set i c')
    (ho : s'.orch = { s.orch with buckets := s.orch.buckets.push (stashKey c.session d.batch) d expiresAt })
    (hp : c.phase = .stashing expiresAt (d :: todo)) (hp' : c'.phase = .stashing expiresAt todo)
    (hs : c'.session = c.session) : Ordered host s' := by
  have hst : s.stashes (.push i) = some (c.session, d) := by
    obtain ⟨session, phase, replaying⟩ := c; cases hp; simp only [St.stashes, hc]
  obtain ⟨hpi, hb, hsw⟩ := hca _ hst; have hq := h.queued i c hc
  have hm : d.session = i ∧ d.own = ownKey host c.session d.batch := hq.mine d (by simp [hp, Phase.todo])
  have hk : stashKey c.session d.batch = ownKey host c.session d.batch := by simp only [stashKey, ownKey, hpi]
  have ha : (d :: todo).Pairwise (·.batch.batchId < ·.batch.batchId) := by
    simpa only [hp, Phase.todo] using hq.ascending
  have hf : ∀ kb ∈ s'.orch.buckets, ∀ x ∈ kb.2.items, x = d ∨ ∃ kb' ∈ s.orch.buckets, x ∈ kb'.2.items := by
    intro kb hkb x hx; rw [ho] at hkb
    rcases Buckets.mem_push hkb with hkb | ⟨old, rfl, hold⟩
    · exact .inr ⟨kb, hkb, hx⟩
    grind
  refine h.quiet (by rw [ho]) ?_ ?_
  · refine queued_set hc hco h.queued ⟨?_, ?_, ?_⟩ fun j t hj hqj => ⟨hqj.mine, hqj.ascending, ?_⟩
    · rw [hp', hs]; intro x hx
      exact hq.mine x (by rw [hp]; exact mem_cons_of_mem _ hx)
    · rw [hp']; exact ha.of_cons
    · rw [hp']; intro kb hkb x hx hxi y hy; rcases hf kb hkb x hx with rfl | ⟨kb', hkb', hx⟩
      · exact (pairwise_cons.mp ha).1 y hy
      · exact hq.later kb' hkb' x hx hxi y (by rw [hp]; exact mem_cons_of_mem _ hy)
    · intro kb hkb x hx hxj y hy; rcases hf kb hkb x hx with rfl | ⟨kb', hkb', hx⟩
      · omega
      · exact hqj.later kb' hkb' x hx hxj y hy
  · intro kb hkb; rw [ho] at hkb ⊢; rcases Buckets.mem_push hkb with hkb | ⟨old, rfl, hold⟩
    · exact ⟨(h.filed kb hkb).own, (h.filed kb hkb).ascending, (h.filed kb hkb).due⟩
    · -- what was there before, if anything
      have hpr : (∀ x ∈ old, x.own = stashKey c.session d.batch ∧ x.batch.batchId < d.batch.batchId) ∧
          old.Pairwise (·.batch.batchId < ·.batch.batchId) := by
        obtain rfl | ⟨e, he⟩ := hold
        · exact ⟨by simp, .nil⟩
        · refine ⟨fun x hx => ⟨(h.filed _ he).own x hx, ?_⟩, (h.filed _ he).ascending⟩
          have hxi : x.session = i := (hb _ he rfl x hx).trans hm.1
          exact hq.later _ he x hx hxi d (by simp [hp, Phase.todo])
      refine ⟨fun x hx => ?_, ?_, fun hme => absurd hme hsw⟩
      · grind
      grind

lemma Ordered.step (h : Ordered host s) (hb : Books s) (hca : Careful host s l) (hs : Moves host s l s') :
    Ordered host s' := by
  cases hs with
  | @connect _ _ c hco ho hl =>
    refine h.quiet (by rw [ho]) (fun j t ht => ?_) (ho ▸ h.filed); rw [ho]
    rw [hco, getElem?_append] at ht; split_ifs at ht
    · exact h.queued j t ht
    · have : t = c := by simpa using mem_of_getElem? ht
      exact .of_live (this ▸ hl)
  | keep hc hco ho hsa =>
    refine h.quiet (by rw [ho]) ?_ (ho ▸ h.filed); rw [ho]
    exact queued_set hc hco h.queued ((h.queued _ _ hc).mono (List.Subset.refl _) hsa) fun _ _ _ hq => hq
  | @disconnect _ _ i c c' expiresAt hc hco ho hl hp hfp =>
    have hn : ∀ kb ∈ s.orch.buckets, ∀ x ∈ kb.2.items, x.session ≠ i := by
      rintro kb hkb x hx rfl; obtain ⟨t, ht, hg⟩ := hb.gone x (hb.mem_drained hkb hx); grind
    refine h.quiet (by rw [ho]) ?_ ?_
    all_goals rw [ho]
    · refine queued_set hc hco h.queued ⟨?_, ?_, ?_⟩ fun _ _ _ hq => hq
      · rw [hp]; intro d hd; obtain ⟨hi, how⟩ := mem_drain hd
        exact ⟨hi, by rw [how, ownKey, ownKey, hfp]⟩
      · rw [hp]; exact drain_ascending
      · exact fun kb hkb x hx hxi => absurd hxi (hn kb hkb x hx)
    · exact fun kb hkb => (h.filed kb hkb).mono (List.Subset.refl _) (Nat.le_refl _)
  | push hc hco ho hp hp' hse => exact h.push hca hc hco ho hp hp' hse
  | @take _ _ i c c' k bk rest hc hco ho hpo hsa =>
    have hsu : rest ⊆ s.orch.buckets := (Buckets.sublist_of_pop hpo).subset
    have hfi := h.filed _ (Buckets.mem_of_pop hpo); refine ⟨?_, ?_, ?_, ?_, ?_⟩
    all_goals rw [ho]
    · exact queued_set hc hco h.queued ((h.queued _ _ hc).mono hsu hsa) fun j t _ hq => hq.mono hsu (.refl t)
    · exact fun kb hkb => (h.filed kb (hsu hkb)).mono (List.Subset.refl _) (Nat.le_refl _)
    · intro r hr; rcases mem_append.mp hr with hr | hr
      · exact h.own r hr
      · rw [mem_singleton.mp hr]; exact hfi.own
    · intro r hr; rcases mem_append.mp hr with hr | hr
      · exact h.ascending r hr
      · rw [mem_singleton.mp hr]; exact hfi.ascending
    · exact h.expired
  | @expire _ _ k bk rest ks hpo hdu hks hco ho =>
    have hsu : rest ⊆ s.orch.buckets := (Buckets.sublist_of_pop hpo).subset
    have hov : bk.deadline ≤ s.orch.now := hdu.elim id (h.filed _ (Buckets.mem_of_pop hpo)).due
    refine ⟨?_, ?_, ?_, ?_, ?_⟩
    all_goals rw [ho]
    · rw [hco]; exact fun j t ht => (h.queued j t ht).mono hsu (.refl t)
    · exact fun kb hkb => (h.filed kb (hsu hkb)).mono hks (Nat.le_refl _)
    · exact h.own
    · exact h.ascending
    · intro f hf; rcases mem_append.mp hf with hf | hf
      · exact h.expired f hf
      grind
  | collect hco ho =>
    refine h.quiet (by rw [ho]) ?_ ?_
    all_goals rw [ho]
    · rw [hco]; exact h.queued
    · -- one bucket per key: the bucket under a listed key is the one that was looked at
      intro kb hkb; refine ⟨(h.filed kb hkb).own, (h.filed kb hkb).ascending, fun hm => ?_⟩
      obtain ⟨kb', hkb', heq⟩ := List.mem_map.mp hm
      obtain ⟨hin, hdu⟩ := mem_filter.mp hkb'
      simp_all [inj_on_of_nodup_map hb.keys hin hkb heq]
  | idle hno hks hco ho =>
    refine h.quiet (by rw [ho]) ?_ ?_
    all_goals rw [ho]
    · rw [hco]; exact h.queued
    · exact fun kb hkb => (h.filed kb hkb).mono hks hno

lemma Ordered.delivered (h : Ordered host s) (hb : Books s) : Delivered s := by
  refine ⟨h.own, h.ascending, h.expired, fun d hd => ?_⟩
  obtain ⟨⟨k, bk⟩, hkb, hd⟩ := mem_flatMap.mp hd
  obtain ⟨rest, hp⟩ := Buckets.pop_of_mem hb.keys hkb; rw [(h.filed _ hkb).own d hd]
  exact ⟨bk, rest, hp, hd⟩

end Ordered

theorem replay_safe (host : Host) : (∀ s, (machine host).Reachable s → Conserved s) ∧
    (∀ s, ((machine host).restrict (Careful host)).Reachable s → Delivered s) := by
  constructor
  · intro s hs
    have hi : (machine host).Inductive Books :=
      ⟨fun s hs => hs ▸ .start, fun s l s' h hst => h.step (moves_of_step hst)⟩
    exact (hi.reachable hs).toConserved
  · intro s hs
    have hi : ((machine host).restrict (Careful host)).Inductive fun s => Books s ∧ Ordered host s :=
      ⟨fun s hs => hs ▸ ⟨.start, .start⟩, fun s l s' h hst =>
        ⟨h.1.step (moves_of_step hst.2), h.2.step h.1 hst.1 (moves_of_step hst.2)⟩⟩
    obtain ⟨hb, ho⟩ := hi.reachable hs; exact ho.delivered hb

def identity : ProcessorIdentity :=
  { publicKey := "k", fingerprint := "f", processorName := "p", allowedPipelines := .allMatchingPipelines,
    maxInstances := 2 }

def connect (assignments : List PipelineAssignment) : Lbl :=
  .connect identity ⟨"p", "1", "k", "", .msgPack, []⟩ assignments "s"

def hostB : Host := { pipelineName := "b", replayWindow := 30 }

def twoPipelines : List Lbl := [connect [⟨"a", [0], 100⟩, ⟨"b", [0], 100⟩], .call 0 [.plain 0 []],
    .disconnect 0, .push 0,
    connect [⟨"a", [0], 100⟩, ⟨"b", [0], 100⟩], .take 1 "a" 0]

def twoSessions : List Lbl :=
  [connect [⟨"b", [0], 100⟩], .call 0 [.plain 0 []], .call 0 [.plain 0 []], .complete 0 1,
    connect [⟨"b", [0], 100⟩],
    .call 1 [.plain 0 []], .disconnect 0, .push 0, .disconnect 1, .push 1, connect [⟨"b", [0], 100⟩],
    .take 2 "b" 0]

def staleSweep : List Lbl :=
  [connect [⟨"b", [0], 100⟩], connect [⟨"b", [0], 100⟩], .call 0 [.plain 0 []], .call 1 [.plain 0 []],
    .disconnect 0, .push 0,
    .tick 30, .collect, .disconnect 1, .push 1, .sweep]

def reconnect : List Lbl :=
  [connect [⟨"b", [0], 100⟩], .call 0 [.plain 0 []], .call 0 [.plain 0 []], .disconnect 0, .push 0, .push 0,
    connect [⟨"b", [0], 100⟩], .take 1 "b" 0]

theorem replay_fails : (∃ s, (machine hostB).Run {} twoPipelines s ∧
      ∃ r ∈ s.orch.returned, ∃ d ∈ r.2, d.own = ("f", "b", 0) ∧ r.1 = ("f", "a", 0)) ∧
    (∃ s, (machine hostB).Run {} twoSessions s ∧ ∃ r ∈ s.orch.returned, r.2.map (·.batch.batchId) = [2, 1]) ∧
    (∃ s, (machine hostB).Run {} staleSweep s ∧ ∃ f ∈ s.orch.failed, f.failedAt = 30 ∧ f.deadline = 60) := by
  refine ⟨?_, ?_, ?_⟩
  · exact LTS.exists_run (by decide +kernel)
  · exact LTS.exists_run (by decide +kernel)
  · exact LTS.exists_run (by decide +kernel)

theorem replay_safe_reconnect : ∃ s, ((machine hostB).restrict (Careful hostB)).Reachable s ∧
      s.orch.returned.map (fun r => (r.1, r.2.map (·.batch.batchId))) = [(("f", "b", 0), [1, 2])] ∧
      Conserved s ∧ Delivered s := by
  have h : (LTS.exec (fun s l => if Careful hostB s l then step hostB s l else none) {} reconnect).map
      (·.orch.returned.map fun r => (r.1, r.2.map (·.batch.batchId))) = some [(("f", "b", 0), [1, 2])] := by
    decide +kernel
  obtain ⟨s, hs, hv⟩ := map_eq_some_iff.mp h
  have hr : ((machine hostB).restrict (Careful hostB)).Run {} reconnect s := LTS.run_restrict_of_exec hs
  exact ⟨s, ⟨_, _, rfl, hr⟩, hv, (replay_safe hostB).1 s ⟨_, _, rfl, hr.of_restrict⟩,
    (replay_safe hostB).2 s ⟨_, _, rfl, hr⟩⟩

end Aeon.L3.Replay
