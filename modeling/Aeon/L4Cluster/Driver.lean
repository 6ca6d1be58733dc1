import Aeon.L2Store.Transfer
import Aeon.L4Cluster.StateMachine

/-!
# The partition transfer driver of a target node

`PartitionTransferDriver::drive_one` (`crates/aeon-cluster/src/partition_driver.rs`) on one node,
with the client of the segment stream and the installer. A drive waits for one answer after the
other (`Ev`), which may be anything.

* `drive_recoverable`: when a failed drive is aborted and leaves the installer free;
* `drive_gets_stuck`: an unreachable source, and a stream that breaks off.
-/
namespace Aeon.L4.Driver

open Option Function Aeon.Core Aeon.L2.Body Aeon.L2.Transfer Aeon.L4.Cluster

/-- mirrors crates/aeon-types/src/error.rs:9-64 -/
inductive AeonError
  | connection (message : String) (retryable : Bool)
  | serialization (message : String)
  | state (message : String)
  | cluster (message : String)
  deriving DecidableEq

def AeonError.display : AeonError → String
  | .connection message _ => "connection error: " ++ message
  | .serialization message => "serialization error: " ++ message
  | .state message => "state error: " ++ message
  | .cluster message => "cluster error: " ++ message

/-- mirrors framing.rs:11-64 -/
inductive MessageType
  | partitionTransferManifestFrame
  | partitionTransferChunkFrame
  | partitionTransferEndFrame
  | other (name : String)
  deriving DecidableEq

def MessageType.debug : MessageType → String
  | .partitionTransferManifestFrame => "PartitionTransferManifestFrame"
  | .partitionTransferChunkFrame => "PartitionTransferChunkFrame"
  | .partitionTransferEndFrame => "PartitionTransferEndFrame"
  | .other name => name

/-- mirrors types.rs:248-252 -/
structure PartitionTransferEnd where
  success : Bool
  message : String

/-- mirrors types.rs:16-19 -/
structure NodeAddress where
  host : String
  port : UInt16
  deriving DecidableEq

def NodeAddress.display (a : NodeAddress) : String := a.host ++ ":" ++ toString a.port.toNat

structure Wire where
  manifest : Bytes → Except String SegmentManifest
  chunk : Bytes → Except String SegmentChunk
  endFrame : Bytes → Except String PartitionTransferEnd
  crc32 : Bytes → UInt32

/-- mirrors transfer.rs:17-35 -/
inductive TransferState
  | idle
  | bulkSync (source target : NodeId) (progress total : UInt64)
  | cutover (source target : NodeId)
  | complete (newOwner : NodeId)
  | aborted (revertedTo : NodeId) (reason : String)

def TransferState.debug : TransferState → String
  | .idle => "Idle"
  | .bulkSync source target progress total => "BulkSync \x7b source: " ++ toString source.toNat ++
      ", target: " ++ toString target.toNat ++ ", progress: " ++ toString progress.toNat ++
      ", total: " ++ toString total.toNat ++ " \x7d"
  | .cutover source target => "Cutover \x7b source: " ++ toString source.toNat ++ ", target: " ++
      toString target.toNat ++ " \x7d"
  | .complete newOwner => "Complete \x7b new_owner: " ++ toString newOwner.toNat ++ " \x7d"
  | .aborted revertedTo reason => "Aborted \x7b reverted_to: " ++ toString revertedTo.toNat ++
      ", reason: " ++ reason.quote ++ " \x7d"

/-- mirrors transfer.rs:44-48 -/
structure TransferTracker where
  partition : PartitionId
  state : TransferState := .idle

def TransferTracker.cannot (t : TransferTracker) (what : String) : String :=
  "cannot " ++ what ++ ": partition " ++ debugPartition t.partition ++ " is in state " ++ t.state.debug

/-- mirrors transfer.rs:59-75 -/
def TransferTracker.begin (t : TransferTracker) (source target : NodeId) :
    Except String TransferTracker :=
  match t.state with
  | .idle => .ok { t with state := .bulkSync source target 0 0 }
  | _ => .error (t.cannot "begin transfer")

/-- mirrors transfer.rs:78-92 -/
def TransferTracker.beginCutover (t : TransferTracker) : Except String TransferTracker :=
  match t.state with
  | .bulkSync source target _ _ => .ok { t with state := .cutover source target }
  | _ => .error (t.cannot "cutover")

/-- mirrors transfer.rs:95-107 -/
def TransferTracker.complete (t : TransferTracker) : Except String (TransferTracker × NodeId) :=
  match t.state with
  | .cutover _ target => .ok ({ t with state := .complete target }, target)
  | _ => .error (t.cannot "complete")

/-- mirrors transfer.rs:110-125 -/
def TransferTracker.abort (t : TransferTracker) (reason : String) :
    Except String (TransferTracker × NodeId) :=
  match t.state with
  | .bulkSync source _ _ _ => .ok ({ t with state := .aborted source reason }, source)
  | .cutover source _ => .ok ({ t with state := .aborted source reason }, source)
  | _ => .error (t.cannot "abort")

inductive Phase
  | resolving
  | connecting (addr : NodeAddress)
  | opening
  | requesting
  | manifest
  | receiving
  | poh
  | cutover
  | completing
  | aborting (e : AeonError)
  deriving DecidableEq

structure Drive where
  source : NodeId
  target : NodeId
  tracker : TransferTracker
  phase : Phase := .resolving
  proposals : List ClusterRequest := []

inductive Ev
  | resolved (addr : Option NodeAddress)
  | connected (r : Except AeonError Unit)
  | opened (r : Except String Unit)
  | requested (r : Except AeonError Unit)
  | frame (r : Except AeonError (MessageType × Bytes)) (io : Option AeonError)
  | poh (r : Except AeonError Bytes) (install : Except AeonError Unit)
  | cutover (r : Except AeonError Unit)
  | completed (r : Except AeonError ClusterResponse)
  | aborted (r : Except AeonError ClusterResponse)

inductive Outcome
  | running (d : Drive)
  | returned (d : Drive) (result : Except AeonError Unit)

/-- mirrors partition_driver.rs:474-505 -/
def Drive.abortWithReason (d : Drive) (e : AeonError) (reason : String) : Drive := { d with
    tracker := match d.tracker.abort reason with
      | .ok (t, _) => t
      | .error _ => d.tracker
    proposals := d.proposals ++ [.abortTransfer d.tracker.partition d.source]
    phase := .aborting e }

def stateError {α : Type} : Except String α → Except AeonError α
  | .ok a => .ok a
  | .error e => .error (.state e)

/-- mirrors partition_transfer.rs:109-124 -/
def onManifest (W : Wire) (i : L2SegmentInstaller) (io : Option AeonError)
    (r : Except AeonError (MessageType × Bytes)) : Except AeonError L2SegmentInstaller := do
  let (mt, payload) ← r
  if mt ≠ .partitionTransferManifestFrame then
    .error (.connection ("partition-transfer: expected manifest frame, got " ++ mt.debug) false)
  else
    match W.manifest payload with
    | .error e => .error (.serialization ("deserialize SegmentManifest: " ++ e))
    | .ok manifest =>
      match io with
      | some e => .error e
      | none => stateError (i.begin manifest)

/-- mirrors partition_transfer.rs:127-156 -/
def onFrame (W : Wire) (i : L2SegmentInstaller) (io : Option AeonError)
    (r : Except AeonError (MessageType × Bytes)) : Except AeonError Bool × L2SegmentInstaller :=
  match r with
  | .error e => (.error e, i)
  | .ok (.partitionTransferChunkFrame, payload) =>
    match W.chunk payload with
    | .error e => (.error (.serialization ("deserialize SegmentChunk: " ++ e)), i)
    | .ok c =>
      match io with
      | some e => (.error e, i)
      | none =>
        let (res, i) := i.applyChunk W.crc32 c
        ((stateError res).map fun _ => false, i)
  | .ok (.partitionTransferEndFrame, payload) =>
    match W.endFrame payload with
    | .error e => (.error (.serialization ("deserialize PartitionTransferEnd: " ++ e)), i)
    | .ok fin =>
      let (res, i') := i.finish fin.success
      match io, fin.success with
      | some e, false => ((stateError res).bind fun _ => .error e, { i' with dir := i.dir })
      | _, _ => ((stateError res).map fun _ => true, i')
  | .ok (mt, _) =>
    (.error (.connection ("partition-transfer: unexpected frame " ++ mt.debug ++ " in chunk stream") false),
      i)

/-- mirrors partition_driver.rs:264-426 -/
def Drive.step (W : Wire) (d : Drive) (i : L2SegmentInstaller) : Ev → Option (Outcome × L2SegmentInstaller)
  | .resolved addr =>
    if d.phase = .resolving then
      match addr with
      | none => some (.returned d (.error (.state
          ("partition-driver: no membership entry for node_id=" ++ toString d.source.toNat))), i)
      | some addr => some (.running { d with phase := .connecting addr }, i)
    else none
  | .connected r =>
    match d.phase, r with
    | .connecting addr, .error e => some (.returned d (.error (.cluster
        ("partition-driver: connect to source " ++ toString d.source.toNat ++ "@" ++ addr.display ++
          ": " ++ e.display))), i)
    | .connecting _, .ok () =>
      match d.tracker.begin d.source d.target with
      | .error e => some (.returned d (.error (.state ("partition-driver: tracker.begin: " ++ e))), i)
      | .ok t => some (.running { d with tracker := t, phase := .opening }, i)
    | _, _ => none
  | .opened r =>
    if d.phase = .opening then
      match r with
      | .error e =>
        let err := AeonError.connection ("partition-transfer: open_bi: " ++ e) true
        some (.running (d.abortWithReason err ("bulk sync failed: " ++ err.display)), i)
      | .ok () => some (.running { d with phase := .requesting }, i)
    else none
  | .requested r =>
    if d.phase = .requesting then
      match r with
      | .error e => some (.running (d.abortWithReason e ("bulk sync failed: " ++ e.display)), i)
      | .ok () => some (.running { d with phase := .manifest }, i)
    else none
  | .frame r io =>
    match d.phase with
    | .manifest =>
      match onManifest W i io r with
      | .error e => some (.running (d.abortWithReason e ("bulk sync failed: " ++ e.display)), i)
      | .ok i => some (.running { d with phase := .receiving }, i)
    | .receiving =>
      match onFrame W i io r with
      | (.error e, i) => some (.running (d.abortWithReason e ("bulk sync failed: " ++ e.display)), i)
      | (.ok false, i) => some (.running d, i)
      | (.ok true, i) =>
        match d.tracker.beginCutover with
        | .error e =>
          some (.returned d (.error (.state ("partition-driver: tracker.begin_cutover: " ++ e))), i)
        | .ok t => some (.running { d with tracker := t, phase := .poh }, i)
    | _ => none
  | .poh r install =>
    if d.phase = .poh then
      match r with
      | .error e =>
        some (.running (d.abortWithReason e ("poh-chain transfer failed: " ++ e.display)), i)
      | .ok bytes =>
        match bytes, install with
        | _ :: _, .error e =>
          some (.running (d.abortWithReason e ("poh-chain install failed: " ++ e.display)), i)
        | _, _ => some (.running { d with phase := .cutover }, i)
    else none
  | .cutover r =>
    if d.phase = .cutover then
      match r with
      | .error e =>
        some (.running (d.abortWithReason e ("cutover handshake failed: " ++ e.display)), i)
      | .ok () =>
        some (.running { d with
          phase := .completing
          proposals := d.proposals ++ [.completeTransfer d.tracker.partition d.target] }, i)
    else none
  | .completed r =>
    if d.phase = .completing then
      match r with
      | .ok .ok =>
        some (.returned { d with tracker := match d.tracker.complete with
          | .ok (t, _) => t
          | .error _ => d.tracker } (.ok ()), i)
      | .ok (.error msg) =>
        some (.running (d.abortWithReason (.cluster ("partition-driver: CompleteTransfer rejected: " ++ msg))
          ("CompleteTransfer rejected by state-machine: " ++ msg)), i)
      | .ok (.registry _) =>
        some (.running (d.abortWithReason
          (.state "partition-driver: unexpected Registry response to CompleteTransfer")
          "unexpected Registry response to CompleteTransfer"), i)
      | .error e =>
        let msg := "CompleteTransfer propose failed: " ++ e.display
        some (.running (d.abortWithReason (.cluster ("partition-driver: " ++ msg)) msg), i)
    else none
  | .aborted _ =>
    match d.phase with
    | .aborting e => some (.returned d (.error e), i)
    | _ => none

structure Returned where
  partition : PartitionId
  source : NodeId
  result : Except AeonError Unit
  proposals : List ClusterRequest
  installer : L2SegmentInstaller

structure St where
  cluster : ClusterSnapshot
  myId : NodeId
  installers : PartitionId → L2SegmentInstaller
  drives : PartitionId → Option Drive := fun _ => none
  returned : List Returned := []

inductive Lbl
  | commit (o : Orders) (r : ClusterRequest)
  | drive (p : PartitionId) (source target : NodeId)
  | await (p : PartitionId) (ev : Ev)

/-- mirrors partition_driver.rs:227-262 -/
def St.driveOne (s : St) (p : PartitionId) (source target : NodeId) : St :=
  if target ≠ s.myId then
    { s with returned := ⟨p, source, .error (.state ("partition-driver: drive_one called on node " ++
        toString s.myId.toNat ++ " for transfer target " ++ toString target.toNat)), [],
        s.installers p⟩ :: s.returned }
  else if (s.drives p).isSome then
    { s with returned := ⟨p, source, .error (.state
        ("partition-driver: transfer already in flight for partition " ++ toString p.toNat)), [],
        s.installers p⟩ :: s.returned }
  else { s with drives := update s.drives p (some ⟨source, target, { partition := p }, .resolving, []⟩) }

def St.afterStep (s : St) (p : PartitionId) : Outcome × L2SegmentInstaller → St
  | (.running d, i) =>
    { s with
      drives := update s.drives p (some d)
      installers := update s.installers p i }
  | (.returned d result, i) =>
    { s with
      drives := update s.drives p none
      installers := update s.installers p i
      returned := ⟨p, d.source, result, d.proposals, i⟩ :: s.returned }

def step (W : Wire) (s : St) : Lbl → Option St
  | .commit o r =>
    if o.Valid s.cluster r then (applyRequest o s.cluster r).map fun (c, _) => { s with cluster := c }
    else none
  | .drive p source target => some (s.driveOne p source target)
  | .await p ev =>
    match s.drives p with
    | none => none
    | some d => (d.step W (s.installers p) ev).map (s.afterStep p)

def machine (W : Wire) : LTS St Lbl :=
  .ofFn (fun s => (∀ p, (s.installers p).writer = none) ∧ (∀ p, s.drives p = none) ∧ s.returned = []) (step W)

def Accepts (i : L2SegmentInstaller) : Prop := ∀ manifest, ∃ i', i.begin manifest = .ok i'

structure Recoverable (s : St) : Prop where
  failed : ∀ r ∈ s.returned, ∀ e, r.result = .error e →
    .abortTransfer r.partition r.source ∈ r.proposals ∧ Accepts r.installer
  notStuck : ∀ p source, s.cluster.partitionTable.lookup p = some (.transferring source s.myId) →
    s.drives p = none → Accepts (s.installers p)

abbrev Takes (crc32 : Bytes → UInt32) (w : SegmentWriter) (d : Dir) (c : SegmentChunk) : Prop :=
  ∃ entry ∈ w.manifest.find? (·.startSeq = c.startSeq), w.finalized c.startSeq = none ∧
    c.offset + c.data.length ≤ (w.openFor d entry).1.expectedBytes ∧
    (c.isLast = true → max (w.openFor d entry).1.bytesReceived (c.offset + c.data.length) =
        (w.openFor d entry).1.expectedBytes ∧
      crc32 ((fileAt (writeAt (w.openFor d entry).2 c.startSeq c.offset c.data)
        entry.startSeq).getD []) = entry.crc32)

abbrev Delivered (W : Wire) (i : L2SegmentInstaller) (io : Option AeonError)
    (r : Except AeonError (MessageType × Bytes)) : Prop :=
  ∃ f ∈ r.toOption, (f.1 = .partitionTransferChunkFrame ∧ io = none ∧
      ∃ c ∈ (W.chunk f.2).toOption, ∃ w ∈ i.writer, Takes W.crc32 w i.dir c) ∨
    f.1 = .partitionTransferEndFrame ∧ (W.endFrame f.2).isOk = true

def EvAllowed (W : Wire) (phase : Phase) (i : L2SegmentInstaller) : Ev → Prop
  | .resolved addr => addr.isSome = true
  | .connected r => r.isOk = true
  | .frame r io => phase = .receiving → Delivered W i io r
  | _ => True

instance (W : Wire) (phase : Phase) (i : L2SegmentInstaller) (ev : Ev) :
    Decidable (EvAllowed W phase i ev) := by
  cases ev <;> dsimp only [EvAllowed] <;> infer_instance

def Allowed (W : Wire) (s : St) : Lbl → Prop
  | .commit _ _ => True
  | .drive p _ target => target = s.myId ∧ (s.drives p).isNone = true
  | .await p ev => ∀ d ∈ s.drives p, EvAllowed W d.phase (s.installers p) ev

instance (W : Wire) (s : St) (l : Lbl) : Decidable (Allowed W s l) := by
  cases l <;> dsimp only [Allowed] <;> infer_instance

section Drive

variable {W : Wire} {d d' : Drive} {i i' : L2SegmentInstaller} {ev : Ev}

def TrackerAt (t : TransferTracker) : Phase → Prop
  | .resolving | .connecting _ => t.state = .idle
  | .opening | .requesting | .manifest | .receiving =>
    ∃ source target n m, t.state = .bulkSync source target n m
  | _ => True

structure Drive.Ok (p : PartitionId) (d : Drive) (i : L2SegmentInstaller) : Prop where
  partition : d.tracker.partition = p
  tracker : TrackerAt d.tracker d.phase
  aborting : ∀ e, d.phase = .aborting e → .abortTransfer p d.source ∈ d.proposals
  writer : i.writer ≠ none → d.phase = .receiving

structure Drive.Left (p : PartitionId) (d : Drive) (result : Except AeonError Unit)
    (i : L2SegmentInstaller) : Prop where
  aborted : ∀ e, result = .error e → .abortTransfer p d.source ∈ d.proposals
  writer : i.writer = none

lemma accepts_iff : Accepts i ↔ i.writer = none := by
  constructor
  · intro h; obtain ⟨i', hi'⟩ := h []; unfold L2SegmentInstaller.begin at hi'
    grind
  · intro hw manifest; simp [L2SegmentInstaller.begin, hw]

lemma abort_partition (t : TransferTracker) (reason : String) :
    (match t.abort reason with | .ok (t', _) => t' | .error _ => t).partition = t.partition := by
  unfold TransferTracker.abort; cases t.state <;> rfl

lemma Drive.Ok.abort (h : d.Ok p i) (e : AeonError) (reason : String) (hw : i'.writer = none) :
    (d.abortWithReason e reason).Ok p i' where
  partition := (abort_partition d.tracker reason).trans h.partition
  tracker := trivial
  aborting := by intro _ _; simp [Drive.abortWithReason, h.partition]
  writer hne := absurd hw hne

lemma applyChunk_of_takes {crc32 : Bytes → UInt32} (h : Takes crc32 w t c) :
    (w.applyChunk crc32 t c).1 = .ok () := by
  obtain ⟨entry, he, hf, hle, hl⟩ := h; unfold SegmentWriter.applyChunk
  simp only [mem_def.mp he, hf, isSome_none, Bool.false_eq_true, if_false]
  rw [if_neg (Nat.not_lt.mpr hle)]; unfold SegmentWriter.writeChunk; split_ifs with hc
  · simp_all [SegmentWriter.finalize, ne_eq, not_true_eq_false]
  · rfl

lemma finish_writer (success : Bool) : (i.finish success).2.writer = none := by
  grind [L2SegmentInstaller.finish]

lemma onFrame_delivered (h : Delivered W i io r) :
    (onFrame W i io r).1 = .ok false ∨ (onFrame W i io r).2.writer = none := by
  obtain ⟨⟨mt, payload⟩, hr, ⟨rfl, rfl, c, hc, w, hw, ht⟩ | ⟨rfl, hok⟩⟩ := h
  · left
    cases r with
    | error => cases hr
    | ok f =>
      obtain rfl : f = _ := Option.some.inj hr
      cases hd : W.chunk payload with
      | error => rw [hd] at hc; cases hc
      | ok c' =>
        rw [hd] at hc; obtain rfl : c' = c := Option.some.inj hc
        have ha := applyChunk_of_takes ht
        simp only [onFrame, hd, L2SegmentInstaller.applyChunk, mem_def.mp hw, ha, stateError]
        rfl
  · right
    cases r with
    | error => cases hr
    | ok f =>
      obtain rfl : f = _ := Option.some.inj hr
      cases hd : W.endFrame payload with
      | error => rw [hd] at hok; cases hok
      | ok fin => have hg := finish_writer (i := i) fin.success; simp only [onFrame, hd]; grind

lemma Drive.Ok.writer_none (h : d.Ok p i) (hp : d.phase ≠ .receiving) : i.writer = none := by
  by_contra hne; exact hp (h.writer hne)

lemma Drive.Ok.goto (h : d.Ok p i) (hw : i.writer = none) {phase : Phase} (ht : TrackerAt d.tracker phase)
    (hph : ∀ e, phase ≠ .aborting e) :
    Drive.Ok p { d with phase := phase } i where
  partition := h.partition
  tracker := ht
  aborting e he := absurd he (hph e)
  writer hne := absurd hw hne

def Outcome.Fine (p : PartitionId) (i : L2SegmentInstaller) : Outcome → Prop
  | .running d => d.Ok p i
  | .returned d result => d.Left p result i

lemma Drive.Ok.frame (h : d.Ok p i) (ha : EvAllowed W d.phase i (.frame r io))
    (hs : d.step W i (.frame r io) = some (o, i')) : o.Fine p i' := by
  have ht := h.tracker; simp only [Drive.step] at hs
  cases hp : d.phase with
  | manifest =>
    rw [hp] at ht; have hw := h.writer_none (by rw [hp]; exact Phase.noConfusion)
    cases hm : onManifest W i io r with
    | error =>
      simp only [hp, hm, Option.some.injEq, Prod.mk.injEq] at hs; obtain ⟨rfl, rfl⟩ := hs
      exact h.abort _ _ hw
    | ok =>
      simp only [hp, hm, Option.some.injEq, Prod.mk.injEq] at hs; obtain ⟨rfl, rfl⟩ := hs
      exact ⟨h.partition, ht, fun e he => (Phase.noConfusion he), fun _ => rfl⟩
  | receiving =>
    rw [hp] at ht; have hf := onFrame_delivered (ha hp)
    generalize hres : onFrame W i io r = res at hf hs; obtain ⟨res, j⟩ := res
    simp only [hp] at hs
    cases res with
    | error => have hw : j.writer = none := hf.resolve_left (by simp); cases hs; exact h.abort _ _ hw
    | ok last =>
      cases last with
      | false => cases hs; exact ⟨h.partition, by rw [hp]; exact ht, h.aborting, fun _ => hp⟩
      | true =>
        have hw : j.writer = none := hf.resolve_left (by simp)
        obtain ⟨source, target, n, m, hb⟩ := ht
        have hc : d.tracker.beginCutover = .ok { d.tracker with state := .cutover source target } := by
          simp only [TransferTracker.beginCutover, hb]
        simp only [hc, Option.some.injEq, Prod.mk.injEq] at hs; obtain ⟨rfl, rfl⟩ := hs
        exact ⟨h.partition, trivial, fun e he => (Phase.noConfusion he), fun hne => absurd hw hne⟩
  | _ => simp only [hp, reduceCtorEq] at hs

lemma Drive.Ok.step (h : d.Ok p i) (ha : EvAllowed W d.phase i ev) (hs : d.step W i ev = some (o, i')) :
    o.Fine p i' := by
  have ht := h.tracker
  cases ev with try simp only [Drive.step, ite_none_right_eq_some] at hs
  | resolved addr =>
    obtain ⟨hp, hs⟩ := hs; have hw := h.writer_none (by simp [hp])
    cases addr with
    | none => cases ha
    | some => cases hs; exact h.goto hw (by rwa [hp] at ht) nofun
  | connected r =>
    cases hp : d.phase with simp only [hp, reduceCtorEq] at hs ht
    | connecting addr =>
      have hw := h.writer_none (by simp [hp])
      cases r with
      | error => cases ha
      | ok =>
        have hb : d.tracker.begin d.source d.target =
            .ok { d.tracker with state := .bulkSync d.source d.target 0 0 } := by
          have hi : d.tracker.state = .idle := ht; simp only [TransferTracker.begin, hi]
        simp only [hb, Option.some.injEq, Prod.mk.injEq] at hs; obtain ⟨rfl, rfl⟩ := hs
        exact ⟨h.partition, ⟨_, _, _, _, rfl⟩, nofun, fun hne => absurd hw hne⟩
  | opened r | requested r =>
    obtain ⟨hp, hs⟩ := hs; have hw := h.writer_none (by simp [hp]); cases r <;> cases hs
    · exact h.abort _ _ hw
    · exact h.goto hw (by rwa [hp] at ht) nofun
  | frame r io => exact h.frame ha hs
  | poh r install =>
    obtain ⟨hp, hs⟩ := hs; have hw := h.writer_none (by simp [hp])
    rcases r with e | _ | ⟨b, bytes⟩
    · cases hs; exact h.abort _ _ hw
    · cases hs; exact h.goto hw trivial nofun
    · cases install <;> cases hs
      · exact h.abort _ _ hw
      · exact h.goto hw trivial nofun
  | cutover r =>
    obtain ⟨hp, hs⟩ := hs; have hw := h.writer_none (by simp [hp]); cases r <;> cases hs
    · exact h.abort _ _ hw
    · exact ⟨h.partition, trivial, nofun, fun hne => absurd hw hne⟩
  | completed r =>
    obtain ⟨hp, hs⟩ := hs; have hw := h.writer_none (by simp [hp])
    rcases r with e | (_ | msg | bytes) <;> cases hs
    · exact h.abort _ _ hw
    · exact ⟨by simp, hw⟩
    all_goals exact h.abort _ _ hw
  | aborted r =>
    cases hp : d.phase with simp only [hp, reduceCtorEq] at hs
    | aborting e => cases hs; exact ⟨fun _ _ => h.aborting e hp, h.writer_none (by simp [hp])⟩

end Drive

section Node

variable {W : Wire} {s s' : St}

structure Inv (s : St) : Prop where
  drives : ∀ p d, s.drives p = some d → d.Ok p (s.installers p)
  free : ∀ p, s.drives p = none → (s.installers p).writer = none
  returned : ∀ r ∈ s.returned, (∀ e, r.result = .error e →
    .abortTransfer r.partition r.source ∈ r.proposals) ∧ r.installer.writer = none

lemma Inv.recoverable (h : Inv s) : Recoverable s where
  failed r hr e he := ⟨(h.returned r hr).1 e he, accepts_iff.mpr (h.returned r hr).2⟩
  notStuck p _ _ hd := accepts_iff.mpr (h.free p hd)

lemma Inv.afterStep (h : Inv s) (ho : o.Fine p i) : Inv (s.afterStep p (o, i)) := by
  have hdr : ∀ q d, q ≠ p → s.drives q = some d → d.Ok q (update s.installers p i q) := by
    intro q d hq hd; rw [update_of_ne hq]; exact h.drives q d hd
  have hf : ∀ q, q ≠ p → s.drives q = none → (update s.installers p i q).writer = none := by
    intro q hq hd; rw [update_of_ne hq]; exact h.free q hd
  cases o with
  | running =>
    refine ⟨fun q d' hd' => ?_, fun q hq => ?_, h.returned⟩ <;> simp only [St.afterStep] at *
    · by_cases hqp : q = p
      · subst hqp; rw [update_self] at hd' ⊢; cases hd'
        exact ho
      grind
    grind
  | returned =>
    refine ⟨fun q d' hd' => ?_, fun q hq => ?_, fun r hr => ?_⟩ <;> simp only [St.afterStep] at *
    · grind
    · by_cases hqp : q = p
      · rw [hqp, update_self]; exact ho.writer
      grind
    · rcases List.mem_cons.mp hr with rfl | hr
      · exact ⟨ho.aborted, ho.writer⟩
      · exact h.returned r hr

lemma Inv.driveOne {source target : NodeId} (h : Inv s) (ht : target = s.myId) (hp : s.drives p = none) :
    Inv (s.driveOne p source target) := by
  have hc : s.driveOne p source target = { s with
      drives := update s.drives p (some ⟨source, target, { partition := p }, .resolving, []⟩) } := by
    simp [St.driveOne, ht, hp]
  rw [hc]; refine ⟨fun q d hd => ?_, fun q hq => ?_, h.returned⟩ <;> simp only at *
  · by_cases hqp : q = p
    · subst hqp; rw [update_self] at hd; cases hd
      exact ⟨rfl, rfl, fun e he => (Phase.noConfusion he), fun hne => absurd (h.free q hp) hne⟩
    · rw [update_of_ne hqp] at hd; exact h.drives q d hd
  · by_cases hqp : q = p
    · grind
    · rw [update_of_ne hqp] at hq; exact h.free q hq

lemma Inv.step (h : Inv s) (ha : Allowed W s l) (hs : step W s l = some s') : Inv s' := by
  cases l with
  | commit =>
    simp only [Driver.step, ite_none_right_eq_some] at hs; obtain ⟨-, hs⟩ := hs
    obtain ⟨c, -, rfl⟩ := map_eq_some_iff.mp hs; exact ⟨h.drives, h.free, h.returned⟩
  | drive => cases hs; exact h.driveOne ha.1 (isNone_iff_eq_none.mp ha.2)
  | await p =>
    simp only [Driver.step] at hs
    cases hd : s.drives p with
    | none => simp only [hd, reduceCtorEq] at hs
    | some d =>
      simp only [hd] at hs; obtain ⟨⟨o, i⟩, hst, rfl⟩ := map_eq_some_iff.mp hs
      exact h.afterStep ((h.drives p d hd).step (ha d hd) hst)

/-- **Failed transfers are recoverable**, in every run whose steps all meet `Allowed`. -/
theorem drive_recoverable (h : ((machine W).restrict (Allowed W)).Reachable s) : Recoverable s := by
  have hin : ((machine W).restrict (Allowed W)).Inductive Inv := by
    refine ⟨fun s hs => ?_, fun s l s' hi hst => hi.step hst.1 hst.2⟩
    obtain ⟨hw, hdr, hre⟩ := hs; refine ⟨fun p d hd => ?_, fun p _ => hw p, fun r hr => ?_⟩
    · grind
    grind
  exact (hin.reachable h).recoverable

end Node

def emptyWire : Wire := ⟨fun _ => .ok [], fun _ => .error "no chunk", fun _ => .ok ⟨true, ""⟩, crc32⟩

def node : St where
  cluster := { partitionTable := (∅ : PartitionTable).insert 0 (.owned 1) }
  myId := 2
  installers p := { pipeline := "orders", partition := p }

def sourceAddress : NodeAddress := ⟨"node-1", 4470⟩

def upToManifest : List Lbl :=
  [.commit ⟨[⟨0, .owned 1⟩], []⟩ (.beginTransfer 0 1 2), .drive 0 1 2,
    .await 0 (.resolved (some sourceAddress)),
    .await 0 (.connected (.ok ())), .await 0 (.opened (.ok ())), .await 0 (.requested (.ok ())),
    .await 0 (.frame (.ok (.partitionTransferManifestFrame, [])) none)]

def unresolved : List Lbl :=
  [.commit ⟨[⟨0, .owned 1⟩], []⟩ (.beginTransfer 0 1 2), .drive 0 1 2, .await 0 (.resolved none)]

def brokenStream : List Lbl := upToManifest ++
    [.await 0 (.frame (.error (.connection "failed to read frame header: connection lost" true)) none),
      .await 0 (.aborted (.ok .ok)), .commit ⟨[⟨0, .transferring 1 2⟩], []⟩ (.abortTransfer 0 1),
      .commit ⟨[⟨0, .owned 1⟩], []⟩ (.beginTransfer 0 1 2)]

def noPoh : List Lbl := upToManifest ++ [.await 0 (.frame (.ok (.partitionTransferEndFrame, [])) none),
      .await 0 (.poh (.error (.connection "poh-transfer: open_bi: lost" true)) (.ok ())),
      .await 0 (.aborted (.ok .ok)), .commit ⟨[⟨0, .transferring 1 2⟩], []⟩ (.abortTransfer 0 1),
      .commit ⟨[⟨0, .owned 1⟩], []⟩ (.beginTransfer 0 1 2)]

structure PartitionZero where
  myId : NodeId
  entry : Option PartitionOwnership
  driven : Bool
  writer : Bool
  failed : List (Bool × List ClusterRequest)
  deriving DecidableEq

def partitionZero (s : St) : PartitionZero :=
  ⟨s.myId, s.cluster.partitionTable.lookup 0, (s.drives 0).isSome, (s.installers 0).writer.isSome,
    s.returned.map fun r => (r.result.isOk, r.proposals)⟩

lemma node_init : (machine emptyWire).init node := ⟨fun _ => rfl, fun _ => rfl, rfl⟩

theorem drive_gets_stuck : (∃ s, (machine emptyWire).Reachable s ∧
      partitionZero s = ⟨2, some (.transferring 1 2), false, false, [(false, [])]⟩ ∧ ¬ Recoverable s) ∧
    ∃ s, (machine emptyWire).Reachable s ∧
      partitionZero s = ⟨2, some (.transferring 1 2), false, true, [(false, [.abortTransfer 0 1])]⟩ ∧
      ¬ Recoverable s := by
  have h₁ : (LTS.exec (step emptyWire) node unresolved).map partitionZero =
      some ⟨2, some (.transferring 1 2), false, false, [(false, [])]⟩ := by decide +kernel
  have h₂ : (LTS.exec (step emptyWire) node brokenStream).map partitionZero =
      some ⟨2, some (.transferring 1 2), false, true, [(false, [.abortTransfer 0 1])]⟩ := by decide +kernel
  obtain ⟨s₁, hs₁, hv₁⟩ := map_eq_some_iff.mp h₁
  obtain ⟨s₂, hs₂, hv₂⟩ := map_eq_some_iff.mp h₂
  refine ⟨⟨s₁, ⟨_, _, node_init, LTS.run_of_exec hs₁⟩, hv₁, fun hr => ?_⟩,
    s₂, ⟨_, _, node_init, LTS.run_of_exec hs₂⟩, hv₂, fun hr => ?_⟩
  · have hl : s₁.returned.map (fun r => (r.result.isOk, r.proposals)) = [(false, [])] :=
      congrArg PartitionZero.failed hv₁
    obtain ⟨r, rs, hm, hro, -⟩ := List.map_eq_cons_iff.mp hl
    obtain ⟨hre, hp⟩ : r.result.isOk = false ∧ r.proposals = [] := by simpa using hro
    cases hr' : r.result with
    | ok => rw [hr'] at hre; cases hre
    | error e => have hf := (hr.failed r (by rw [hm]; exact List.mem_cons_self) e hr').1; grind
  · have he : s₂.cluster.partitionTable.lookup 0 = some (.transferring 1 s₂.myId) := by
      have hid : s₂.myId = 2 := congrArg PartitionZero.myId hv₂; rw [hid]
      exact congrArg PartitionZero.entry hv₂
    have hd : (s₂.drives 0).isSome = false := congrArg PartitionZero.driven hv₂
    have hw := accepts_iff.mp (hr.notStuck 0 1 he (by simpa using hd))
    have hs : (s₂.installers 0).writer.isSome = true := congrArg PartitionZero.writer hv₂; grind

theorem drive_recovers_poh : ∃ s, ((machine emptyWire).restrict (Allowed emptyWire)).Reachable s ∧
      partitionZero s = ⟨2, some (.transferring 1 2), false, false, [(false, [.abortTransfer 0 1])]⟩ ∧
      Recoverable s := by
  exact LTS.exists_restrict node_init noPoh (by decide +kernel) fun _ => drive_recoverable

end Aeon.L4.Driver
