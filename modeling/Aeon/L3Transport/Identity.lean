import Aeon.L3Transport.Session

/-!
# Event identity of outputs

An output names its event by id, partition, offset and `l2_seq`. The outputs of a guest are made by
`deserialize_outputs` (`crates/aeon-wasm/src/processor.rs`), those of T3 and T4 by a response frame.

* `carries_identity_iff`: when an output carries its event's identity;
* `identity_lost`: an event with an offset, and the client's envelope.
-/
namespace Aeon.L3.Identity

open List Aeon.Core Aeon.Types Aeon.L3.BatchWire Aeon.L3.Session

def Carries (e : Event) (o : FullOutput) : Prop := o.toOutput.withEventIdentity e = o.toOutput

def PerEvent {α : Type} (R : Event → α → Prop) (events : List Event) (groups : List (List α)) : Prop :=
  ∀ (i : Nat) g, groups[i]? = some g → ∀ o ∈ g, ∃ e, events[i]? = some e ∧ R e o

lemma carries_iff : Carries e o ↔ o.sourceEventId = some e.id ∧ o.sourcePartition = some e.partition ∧
      o.sourceOffset = e.sourceOffset ∧ o.l2Seq = e.l2Seq := by
  obtain ⟨⟨payload, id, partition, offset, l2Seq⟩, destination, key, headers⟩ := o
  simp only [Carries, Output.withEventIdentity, Output.mk.injEq, true_and]; grind

section Wasm

structure Host where
  lossy : Bytes → String
  reserve : Nat → Bool

/-- mirrors processor.rs:111-146 -/
def serializeEvent (e : Event) : Bytes := (leBytes 16 e.id.toNat).reverse ++ leBytes 8
    (e.timestamp % 2 ^ 64).toNat ++
    fieldBytes (utf8Bytes e.source) ++ leBytes 2 e.partition.toNat ++ leBytes 4 e.metadata.length ++
    e.metadata.flatMap (fun kv => fieldBytes (utf8Bytes kv.1) ++ fieldBytes (utf8Bytes kv.2)) ++
    fieldBytes e.payload

def readU32 : Reader String Nat := Reader.le 4 "truncated output: expected u32"

def readField : Reader String Bytes :=
  Reader.field "truncated output: expected u32" "truncated output: expected bytes"

variable (lossy : Bytes → String)

def readHeader : Reader String (String × String) := do
  let hk ← readField
  let hv ← readField
  return (lossy hk, lossy hv)

def readKey : Reader String (Option Bytes) := do
  let hasKey ← Reader.le 1 "truncated output: expected has_key"
  if hasKey ≠ 0 then some <$> readField else pure none

/-- mirrors processor.rs:178-226 -/
def readOutput (source : Event) : Reader String FullOutput := do
  let destination ← readField
  let key ← readKey
  let payload ← readField
  let headerCount ← readU32
  let headers ← (readHeader lossy).many headerCount
  return {
    destination := lossy destination
    key := key
    payload := payload
    headers := headers
    sourceEventId := some source.id
    sourcePartition := some source.partition
    sourceOffset := none
    l2Seq := source.l2Seq }

def readOutputs (source : Event) : Reader String (List FullOutput) := do
  let outputCount ← readU32
  (readOutput lossy source).many outputCount

variable (H : Host)

/-- mirrors processor.rs:148-230 -/
def deserializeOutputs (data : Bytes) (source : Event) : Option (Except String (List FullOutput)) :=
  if 4 ≤ data.length ∧ H.reserve (leVal (data.take 4)) = false then none
  else some ((readOutputs H.lossy source data).map Prod.fst)

structure Guest (G : Type) where
  call : G → Bytes → Except String Bytes × G

variable {G : Type} (P : Guest G)

/-- mirrors processor.rs:63-98 -/
def process (g : G) (event : Event) : Option (Except String (List FullOutput)) × G :=
  match P.call g (serializeEvent event) with
  | (.error msg, g) => (some (.error msg), g)
  | (.ok result, g) => (deserializeOutputs H result event, g)

/-- mirrors processor.rs:100-107 -/
def processBatch : G → List Event → Option (Except String (List FullOutput)) × G
  | g, [] => (some (.ok []), g)
  | g, event :: events =>
    match process H P g event with
    | (some (.ok outs), g) =>
      match processBatch g events with
      | (some (.ok rest), g) => (some (.ok (outs ++ rest)), g)
      | failed => failed
    | failed => failed

def processEach : G → List Event → Option (List (List FullOutput))
  | _, [] => some []
  | g, event :: events =>
    match process H P g event with
    | (some (.ok outs), g) => (processEach g events).map (outs :: ·)
    | _ => none

variable {H P} {g : G} {event : Event} {events : List Event}

lemma processEach_of_processBatch {outs : List FullOutput}
    (h : (processBatch H P g events).1 = some (.ok outs)) :
    ∃ groups, processEach H P g events = some groups ∧ outs = groups.flatten := by
  induction events generalizing g outs with
  | nil => cases h; exact ⟨[], rfl, rfl⟩
  | cons event events ih =>
    rw [processBatch] at h; rw [processEach]
    rcases hp : process H P g event with ⟨_ | _ | first, g₁⟩
    · simp only [hp] at h; cases h
    · simp only [hp] at h; cases h
    · rcases hb : processBatch H P g₁ events with ⟨_ | _ | rest, g₂⟩
      · simp only [hp, hb] at h; cases h
      · simp only [hp, hb] at h; cases h
      · simp only [hp, hb] at h; cases h
        obtain ⟨groups, hg, rfl⟩ := ih (congrArg Prod.fst hb)
        exact ⟨first :: groups, by simp [hg], rfl⟩

structure Made (e : Event) (o : FullOutput) : Prop where
  id : o.sourceEventId = some e.id
  partition : o.sourcePartition = some e.partition
  offset : o.sourceOffset = none
  l2Seq : o.l2Seq = e.l2Seq

lemma Made.carries_iff (h : Made e o) : Carries e o ↔ e.sourceOffset = none := by
  rw [Identity.carries_iff, h.offset]
  exact ⟨fun hc => hc.2.2.1.symm, fun hn => ⟨h.id, h.partition, hn.symm, h.l2Seq⟩⟩

lemma yields_readOutput {lossy : Bytes → String} (e : Event) : Yields (readOutput lossy e) (Made e) := by
  unfold readOutput
  refine Yields.bind fun _ => Yields.bind fun _ => Yields.bind fun _ => Yields.bind fun _ =>
    Yields.bind fun _ => Yields.pure ?_
  exact ⟨rfl, rfl, rfl, rfl⟩

lemma made_of_deserialize {data : Bytes} {outs : List FullOutput}
    (h : deserializeOutputs H data event = some (.ok outs)) : ∀ o ∈ outs, Made event o := by
  have hre : Yields (readOutputs H.lossy event) fun outs => ∀ o ∈ outs, Made event o :=
    Yields.bind fun n => (yields_readOutput event).many n
  unfold deserializeOutputs at h; split_ifs at h
  cases hr : readOutputs H.lossy event data with
  | error => rw [hr] at h; cases h
  | ok r => rw [hr] at h; cases h; exact hre data r.1 r.2 hr

lemma made_of_process {outs : List FullOutput} (h : (process H P g event).1 = some (.ok outs)) :
    ∀ o ∈ outs, Made event o := by
  unfold process at h; rcases hc : P.call g (serializeEvent event) with ⟨_ | result, g₁⟩
  · rw [hc] at h; cases h
  · rw [hc] at h; exact made_of_deserialize h

variable {groups : List (List FullOutput)}

lemma made_of_processEach (h : processEach H P g events = some groups) :
    List.Forall₂ (fun e outs => ∀ o ∈ outs, Made e o) events groups := by
  induction events generalizing g groups with
  | nil => cases h; exact .nil
  | cons event events ih =>
    rw [processEach] at h; rcases hp : process H P g event with ⟨_ | _ | outs, g₁⟩
    · rw [hp] at h; cases h
    · rw [hp] at h; cases h
    · rw [hp] at h; obtain ⟨rest, hr, rfl⟩ := Option.map_eq_some_iff.mp h
      exact .cons (made_of_process (by rw [hp])) (ih hr)

def NoOffset (events : List Event) (groups : List (List FullOutput)) : Prop :=
  ∀ (i : Nat) e g, events[i]? = some e → groups[i]? = some g → g ≠ [] → e.sourceOffset = none

lemma perEvent_carries_iff (h : List.Forall₂ (fun e outs => ∀ o ∈ outs, Made e o) events groups) :
    PerEvent Carries events groups ↔ NoOffset events groups := by
  have hm : ∀ {i : Nat} {e g}, events[i]? = some e → groups[i]? = some g → ∀ o ∈ g, Made e o := by
    intro i e g he hg; obtain ⟨hi, rfl⟩ := List.getElem?_eq_some_iff.mp he
    obtain ⟨hj, rfl⟩ := List.getElem?_eq_some_iff.mp hg; exact h.get hi hj
  constructor
  · intro hc i e g he hg hne; obtain ⟨o, ho⟩ := exists_mem_of_ne_nil g hne
    obtain ⟨e', he', hca⟩ := hc i g hg o ho
    obtain rfl : e = e' := Option.some.inj (he.symm.trans he')
    exact (hm he hg o ho).carries_iff.mp hca
  · intro hno i g hg o ho; obtain ⟨hj, -⟩ := List.getElem?_eq_some_iff.mp hg
    have hi : i < events.length := by rw [h.length_eq]; exact hj
    have he : events[i]? = some events[i] := getElem?_eq_getElem hi
    refine ⟨events[i], he, (hm he hg o ho).carries_iff.mpr ?_⟩
    exact hno i _ g he hg (ne_nil_of_mem ho)

end Wasm

section Network

variable (S : Serde) (codec : TransportCodec)

def frameOutputs (tier : Tier) (data : Bytes) : Except String (List (List WireOutput)) := do
  let parsed ← deserializeBatchResponse (← tier.batchData data)
  parsed.outputsPerEvent.mapM (List.mapM (S.decodeOutput codec))

structure Stamped (e : Event) (w : WireOutput) : Prop where
  id : w.sourceEventId = some e.id
  partition : w.sourcePartition = some e.partition
  offset : w.sourceOffset = e.sourceOffset
  l2Seq : w.l2Seq = e.l2Seq

variable {S codec}

lemma carries_toOutput_iff : Carries e w.toOutput ↔ Stamped e w := by
  rw [carries_iff]
  exact ⟨fun h => ⟨h.1, h.2.1, h.2.2.1, h.2.2.2⟩, fun h => ⟨h.id, h.partition, h.offset, h.l2Seq⟩⟩

lemma perEvent_toOutput_iff {events : List Event} {wire : List (List WireOutput)} :
    PerEvent Carries events (wire.map (List.map WireOutput.toOutput)) ↔ PerEvent Stamped events wire := by
  constructor
  · intro h i g hg w hw
    have hm : (wire.map (List.map WireOutput.toOutput))[i]? = some (g.map WireOutput.toOutput) := by
      rw [getElem?_map, hg]; rfl
    obtain ⟨e, he, hc⟩ := h i _ hm w.toOutput (List.mem_map_of_mem hw)
    exact ⟨e, he, carries_toOutput_iff.mp hc⟩
  · intro h i g hg o ho; rw [getElem?_map] at hg
    obtain ⟨g', hg', rfl⟩ := Option.map_eq_some_iff.mp hg
    obtain ⟨w, hw, rfl⟩ := List.mem_map.mp ho; obtain ⟨e, he, hs⟩ := h i g' hg' w hw
    exact ⟨e, he, carries_toOutput_iff.mpr hs⟩

lemma mapM_map_ok {α β γ : Type} {f : α → Except String β} {h : β → γ} (l : List α) :
    (l.mapM fun a => (f a).map h) = (l.mapM f).map (List.map h) := by
  induction l with
  | nil => rfl
  | cons a l ih =>
    rw [mapM_cons, mapM_cons, ih]; rcases f a with _ | b
    · rfl
    · rcases l.mapM f with _ | bs
      · rfl
      · rfl

lemma decodeBatchResponse_eq (data : Bytes) : decodeBatchResponse S codec data = do
      let parsed ← deserializeBatchResponse data
      let wire ← parsed.outputsPerEvent.mapM (List.mapM (S.decodeOutput codec))
      return ⟨parsed.batchId, wire.map (List.map WireOutput.toOutput), parsed.signature⟩ := by
  have hg : (fun group : List Bytes => group.mapM (decodeOutput S codec)) = fun group =>
      (group.mapM (S.decodeOutput codec)).map (List.map WireOutput.toOutput) :=
    funext fun group => mapM_map_ok group
  rw [decodeBatchResponse, hg]; rcases deserializeBatchResponse data with _ | parsed
  · rfl
  · simp only [bind, Except.bind]; rw [mapM_map_ok]
    rcases parsed.outputsPerEvent.mapM (List.mapM (S.decodeOutput codec)) with _ | wire
    · rfl
    · rfl

lemma frameOutputs_of_handle {tier : Tier} {data : Bytes} {slot : PendingSlot} {outcome : Outcome}
    (h : handleDataFrame S codec tier b data = .ok (b', some (slot, outcome))) :
    ∃ wire, frameOutputs S codec tier data = .ok wire ∧
      outcome = .ok (wire.map (List.map WireOutput.toOutput)).flatten := by
  obtain ⟨batch, hb, h⟩ := bind_eq_ok.mp h; rw [decodeBatchResponse_eq] at h
  obtain ⟨decoded, hd, h⟩ := bind_eq_ok.mp h; obtain ⟨parsed, hp, hd⟩ := bind_eq_ok.mp hd
  obtain ⟨wire, hw, hd⟩ := bind_eq_ok.mp hd; cases hd
  simp only [pure, Except.pure, Except.ok.injEq, Prod.mk.injEq] at h
  obtain ⟨s, -, hs⟩ := Option.map_eq_some_iff.mp h.2
  refine ⟨wire, ?_, (congrArg Prod.snd hs).symm⟩; rw [frameOutputs, hb]
  show (deserializeBatchResponse batch >>= fun parsed => _) = _; rw [hp]; exact hw

end Network

theorem carries_identity_iff (H : Host) (S : Serde) :
    (∀ (G : Type) (P : Guest G) (g : G) (events : List Event) (outs : List FullOutput),
      (processBatch H P g events).1 = some (.ok outs) →
        ∃ groups, processEach H P g events = some groups ∧ outs = groups.flatten ∧
          (PerEvent Carries events groups ↔ NoOffset events groups)) ∧
    (∀ (codec : TransportCodec) (tier : Tier) (b b' : BatchInflight) (data : Bytes) (slot : PendingSlot)
      (outs : List FullOutput),
      handleDataFrame S codec tier b data = .ok (b', some (slot, .ok outs)) →
        ∃ wire, frameOutputs S codec tier data = .ok wire ∧
        outs = (wire.map (List.map WireOutput.toOutput)).flatten ∧
          (PerEvent Carries slot.events (wire.map (List.map WireOutput.toOutput)) ↔
            PerEvent Stamped slot.events wire)) := by
  constructor
  · intro G P g events outs h; obtain ⟨groups, he, ho⟩ := processEach_of_processBatch h
    exact ⟨groups, he, ho, perEvent_carries_iff (made_of_processEach he)⟩
  · intro codec tier b b' data slot outs h
    obtain ⟨wire, hw, ho⟩ := frameOutputs_of_handle h
    exact ⟨wire, hw, Except.ok.inj ho, perEvent_toOutput_iff⟩

/-- mirrors crates/aeon-processor-client/src/lib.rs:133-146 -/
structure ProcessOutput where
  destination : String
  key : Option Bytes := none
  payload : Bytes
  headers : List (String × String) := []

def ProcessOutput.toWire (o : ProcessOutput) : WireOutput where
  destination := o.destination
  key := o.key
  payload := o.payload
  headers := o.headers

def offsetEvent (offset : Option Int) : Event :=
  { Event.plain 7 [1] with partition := 3, sourceOffset := offset }

def oneOutput : Guest Unit where
  call _ _ := (.ok (leBytes 4 1 ++ fieldBytes [111, 117, 116] ++ [0] ++ fieldBytes [1] ++ leBytes 4 0), ())

def host : Host := ⟨fun b => (fromUtf8 b).getD "", fun n => n ≤ 1000⟩

def made (offset : Option Int) : FullOutput :=
  { destination := "out", payload := [1], sourceEventId := some 7, sourcePartition := some 3,
    sourceOffset := offset }

lemma process_oneOutput (offset : Option Int) :
    (processBatch host oneOutput () [offsetEvent offset]).1 = some (.ok [made none]) := rfl

def respond : Tier → Bytes → Bytes
  | .webTransport, batch => batch
  | .webSocket, batch => buildWsDataFrame "p" 3 batch

lemma batchData_respond (tier : Tier) {batch : Bytes} (hne : batch ≠ [])
    (h : batch.length ≤ 16 * 1024 * 1024) :
    tier.batchData (respond tier batch) = .ok batch := by
  cases tier with
  | webTransport => exact if_neg (Nat.not_lt.mpr h)
  | webSocket =>
    obtain ⟨offset, hp, hd⟩ := parse_buildWsDataFrame "p" (by decide +kernel) 3 hne
    simp_all [Tier.batchData, respond]

def waiting (e : Event) : BatchInflight := ⟨2, SortedMap.empty.insert 1 ⟨0, [e]⟩, 0⟩

lemma waiting_get (e : Event) : (waiting e).pending.get? 1 = some ⟨0, [e]⟩ := rfl

def response (b : Bytes) : Bytes := serializeBatchResponse 1 [[b]] (List.replicate 64 0)

lemma deserialize_response (hb : b.length ≤ 1024) :
    deserializeBatchResponse (response b) = .ok ⟨1, [[b]], List.replicate 64 0⟩ := by
  refine deserialize_serializeBatchResponse (by decide) (Nat.one_lt_two_pow (by decide)) ?_ length_replicate
  intro g hg; obtain rfl := mem_singleton.mp hg
  refine ⟨Nat.one_lt_two_pow (by decide), fun x hx => ?_⟩; grind

lemma batchData_response (tier : Tier) (hb : b.length ≤ 1024) :
    tier.batchData (respond tier (response b)) = .ok (response b) := by
  have hl : (response b).length = 88 + b.length := by
    simp only [response, serializeBatchResponse, signedBytes, responseBody, groupBytes, fieldBytes,
      length_append, length_leBytes, length_crcBytes, length_replicate, flatMap_cons,
      flatMap_nil, length_nil]
    omega
  exact batchData_respond tier (ne_nil_of_length_pos (by omega)) (by omega)

section Response

variable {S : Serde} {codec : TransportCodec} {o : WireOutput} {b : Bytes}

lemma frameOutputs_response (tier : Tier) (hd : S.decodeOutput codec b = .ok o) (hb : b.length ≤ 1024) :
    frameOutputs S codec tier (respond tier (response b)) = .ok [[o]] := by
  rw [frameOutputs, batchData_response tier hb]
  simp only [bind, Except.bind, deserialize_response hb, mapM_cons, mapM_nil, hd, pure, Except.pure]

lemma handle_response (tier : Tier) {inflight : BatchInflight} {slot : PendingSlot}
    (hp : inflight.pending.get? 1 = some slot) (hd : S.decodeOutput codec b = .ok o) (hb : b.length ≤ 1024) :
    handleDataFrame S codec tier inflight (respond tier (response b)) =
      .ok ((inflight.completeBatch 1).1, some (slot, .ok [o.toOutput])) := by
  simp [decodeBatchResponse_eq, deserialize_response hb, bind, Except.bind, mapM_cons, mapM_nil,
    hd, pure, Except.pure, map_cons, map_nil, handleDataFrame, batchData_response tier hb,
    BatchInflight.completeBatch, hp]

end Response

theorem identity_lost : (∃ outs, (processBatch host oneOutput () [offsetEvent (some 5)]).1 = some (.ok outs) ∧
      ∃ o ∈ outs, o.sourceOffset = none ∧ ¬ Carries (offsetEvent (some 5)) o) ∧
    (∀ (S : Serde) (codec : TransportCodec) (tier : Tier) (o : ProcessOutput) (b : Bytes),
      S.decodeOutput codec b = .ok o.toWire → b.length ≤ 1024 →
        ∃ b' o', handleDataFrame S codec tier (waiting (offsetEvent none)) (respond tier (response b)) =
            .ok (b', some (⟨0, [offsetEvent none]⟩, .ok [o'])) ∧
          o'.sourceEventId = none ∧ ¬ Carries (offsetEvent none) o') := by
  refine ⟨⟨_, process_oneOutput (some 5), made none, mem_cons_self, rfl, ?_⟩, ?_⟩
  · rw [carries_iff]; rintro ⟨-, -, h, -⟩; cases h
  · intro S codec tier o b hd hb
    refine ⟨_, _, handle_response tier (waiting_get (offsetEvent none)) hd hb, rfl, ?_⟩
    rw [carries_iff]; rintro ⟨h, -⟩; cases h

def stamped : WireOutput := ⟨"out", none, [1], [], some 7, some 3, some 5, none⟩

theorem carries_identity_stamped : (∃ groups, processEach host oneOutput () [offsetEvent none] = some groups ∧
      PerEvent Carries [offsetEvent none] groups) ∧
    (∃ (S : Serde) (wire : List (List WireOutput)),
      frameOutputs S .json .webSocket (respond .webSocket (response [1])) = .ok wire ∧
      PerEvent Carries [offsetEvent (some 5)] (wire.map (List.map WireOutput.toOutput))) := by
  constructor
  · obtain ⟨groups, hgr, -, hi⟩ :=
      (carries_identity_iff host ⟨fun _ _ => .ok [], fun _ _ => .ok stamped⟩).1 Unit oneOutput
        () [offsetEvent none] _ (process_oneOutput none)
    refine ⟨groups, hgr, hi.mpr fun i e g he _ _ => ?_⟩
    obtain rfl := mem_singleton.mp (mem_of_getElem? he); rfl
  · let S : Serde := ⟨fun _ _ => .ok [], fun _ _ => .ok stamped⟩
    have hd : S.decodeOutput .json [1] = .ok stamped := rfl
    obtain ⟨wire, hw, -, hi⟩ := (carries_identity_iff host S).2 .json .webSocket _ _ _ _ _
      (handle_response .webSocket (waiting_get (offsetEvent (some 5))) hd (by decide))
    refine ⟨S, wire, hw, hi.mpr ?_⟩
    rw [frameOutputs_response .webSocket hd (by decide)] at hw; cases hw; intro i g hg o ho
    cases i with
    | zero =>
      cases hg; obtain rfl := mem_singleton.mp ho
      exact ⟨offsetEvent (some 5), rfl, rfl, rfl, rfl, rfl⟩
    | succ => cases hg

end Aeon.L3.Identity
