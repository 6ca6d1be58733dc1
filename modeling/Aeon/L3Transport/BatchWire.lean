import Aeon.Core.Cursor
import Aeon.L1Types.Event

/-!
# The batch wire format of T3 and T4 processors

`crates/aeon-engine/src/batch_wire.rs`, the routing header of `transport/websocket_host.rs` and the
envelopes of `aeon-types/src/transport_codec.rs`. The bytes of an envelope are the codec's
(`Serde`).

* `deserialize_serializeBatchRequest`, `deserialize_serializeBatchResponse`,
  `parse_buildWsDataFrame`: what was put into a frame is read back.
-/
namespace Aeon.L3.BatchWire

open List Aeon.Core Aeon.Types

/-- mirrors transport_codec.rs:19-28 -/
inductive TransportCodec
  | msgPack
  | json

/-- mirrors event.rs:60-87 -/
structure FullOutput extends Output where
  destination : String
  key : Option Bytes := none
  headers : List (String × String) := []
  deriving DecidableEq

/-- mirrors transport_codec.rs:74-98 -/
structure WireOutput where
  destination : String
  key : Option Bytes := none
  payload : Bytes
  headers : List (String × String) := []
  sourceEventId : Option Uuid := none
  sourcePartition : Option PartitionId := none
  sourceOffset : Option Int := none
  l2Seq : Option Nat := none

/-- mirrors transport_codec.rs:162-184 -/
def WireOutput.toOutput (w : WireOutput) : FullOutput where
  destination := w.destination
  key := w.key
  payload := w.payload
  headers := w.headers
  sourceEventId := w.sourceEventId
  sourcePartition := w.sourcePartition
  sourceOffset := w.sourceOffset
  l2Seq := w.l2Seq

structure Serde where
  encodeEvent : TransportCodec → Event → Except String Bytes
  decodeOutput : TransportCodec → Bytes → Except String WireOutput

/-- `{:#x}` -/
def hex (n : Nat) : String := "0x" ++ String.ofList (Nat.toDigits 16 n)

def crcBytes (buf : Bytes) : Bytes := leBytes 4 (crc32 buf).toNat

def verifyCrc (payload stored : Bytes) : Except String Unit :=
  if leVal stored ≠ (crc32 payload).toNat then
    .error ("CRC32 mismatch: expected " ++ hex (leVal stored) ++ ", got " ++ hex (crc32 payload).toNat)
  else .ok ()

/-- mirrors batch_wire.rs:44-50 -/
structure BatchRequest where
  batchId : Nat
  events : List Bytes

def requestBody (r : BatchRequest) : Bytes :=
  leBytes 8 r.batchId ++ (leBytes 4 r.events.length ++ r.events.flatMap fieldBytes)

/-- mirrors batch_wire.rs:19-42 -/
def serializeBatchRequest (batchId : Nat) (events : List Bytes) : Bytes :=
  let buf := requestBody ⟨batchId, events⟩
  buf ++ crcBytes buf

def readBatchRequest : Reader String BatchRequest := do
  let batchId ← Reader.le 8 "invalid batch_id"
  let count ← Reader.le 4 "invalid event_count"
  let events ← (Reader.field "unexpected end of batch request" "event data exceeds buffer").many count
  return ⟨batchId, events⟩

/-- mirrors batch_wire.rs:52-107 -/
def deserializeBatchRequest (data : Bytes) : Except String BatchRequest :=
  if data.length < 16 then .error "batch request too short"
  else do
    let payload := data.take (data.length - 4)
    verifyCrc payload (data.drop (data.length - 4))
    let r ← readBatchRequest payload
    return r.1

/-- mirrors batch_wire.rs:149-158 -/
structure BatchResponse where
  batchId : Nat
  outputsPerEvent : List (List Bytes)
  signature : Bytes

def groupBytes (outputs : List Bytes) : Bytes := leBytes 4 outputs.length ++ outputs.flatMap fieldBytes

def responseBody (batchId : Nat) (outputsPerEvent : List (List Bytes)) : Bytes :=
  leBytes 8 batchId ++ (leBytes 4 outputsPerEvent.length ++ outputsPerEvent.flatMap groupBytes)

def signedBytes (batchId : Nat) (outputsPerEvent : List (List Bytes)) : Bytes :=
  let buf := responseBody batchId outputsPerEvent
  buf ++ crcBytes buf

/-- mirrors batch_wire.rs:116-147 -/
def serializeBatchResponse (batchId : Nat) (outputsPerEvent : List (List Bytes)) (signature : Bytes) :
    Bytes :=
  signedBytes batchId outputsPerEvent ++ signature

def readGroup : Reader String (List Bytes) := do
  let count ← Reader.le 4 "unexpected end of batch response"
  (Reader.field "unexpected end of output data" "output data exceeds buffer").many count

def readBatchResponse : Reader String (Nat × List (List Bytes)) := do
  let batchId ← Reader.le 8 "invalid batch_id"
  let count ← Reader.le 4 "invalid event_count"
  let groups ← readGroup.many count
  return (batchId, groups)

/-- mirrors batch_wire.rs:160-234 -/
def deserializeBatchResponse (data : Bytes) : Except String BatchResponse :=
  if data.length < 80 then .error "batch response too short"
  else do
    let signature := data.drop (data.length - 64)
    let crcOffset := data.length - 64 - 4
    let payload := data.take crcOffset
    verifyCrc payload ((data.drop crcOffset).take 4)
    let r ← readBatchResponse payload
    return ⟨r.1.1, r.1.2, signature⟩

section Codec

variable (S : Serde) (codec : TransportCodec)

/-- mirrors batch_wire.rs:238-249 -/
def encodeBatchRequest (batchId : Nat) (events : List Event) : Except String Bytes := do
  let encoded ← events.mapM (S.encodeEvent codec)
  return serializeBatchRequest batchId encoded

/-- mirrors transport_codec.rs:234-243 -/
def decodeOutput (b : Bytes) : Except String FullOutput := do
  let wire ← S.decodeOutput codec b
  return wire.toOutput

/-- mirrors batch_wire.rs:281-289 -/
structure DecodedBatchResponse where
  batchId : Nat
  outputsPerEvent : List (List FullOutput)
  signature : Bytes

/-- mirrors batch_wire.rs:291-306 -/
def decodeBatchResponse (data : Bytes) : Except String DecodedBatchResponse := do
  let parsed ← deserializeBatchResponse data
  let groups ← parsed.outputsPerEvent.mapM fun group => group.mapM (decodeOutput S codec)
  return ⟨parsed.batchId, groups, parsed.signature⟩

end Codec

def utf8Bytes (s : String) : Bytes := s.toUTF8.data.toList

def fromUtf8 (b : Bytes) : Option String := String.fromUTF8? ⟨b.toArray⟩

/-- mirrors websocket_host.rs:553-564 -/
def buildWsDataFrame (pipelineName : String) (partition : PartitionId) (batchWireData : Bytes) : Bytes :=
  fieldBytes (utf8Bytes pipelineName) ++ (leBytes 2 partition.toNat ++ batchWireData)

/-- mirrors websocket_host.rs:566-580 -/
def parseWsRoutingHeader (data : Bytes) : Except String (String × PartitionId × Nat) :=
  if data.length < 7 then .error "T4 data frame too short"
  else
    let nameLen := leVal (data.take 4)
    if data.length < 4 + nameLen + 2 then .error "T4 data frame name truncated"
    else
      match fromUtf8 ((data.drop 4).take nameLen) with
      | none => .error "T4 invalid pipeline name"
      | some name =>
        .ok (name, UInt16.ofNat (leVal ((data.drop (4 + nameLen)).take 2)), 4 + nameLen + 2)

lemma fromUtf8_utf8Bytes (s : String) : fromUtf8 (utf8Bytes s) = some s := by
  rw [fromUtf8, utf8Bytes, Array.toArray_toList]; exact dif_pos s.isValidUTF8

def Fits (fields : List Bytes) : Prop := fields.length < 2 ^ 32 ∧ ∀ b ∈ fields, b.length < 2 ^ 32

lemma verifyCrc_crcBytes (buf : Bytes) : verifyCrc buf (crcBytes buf) = .ok () := by
  have hv : leVal (crcBytes buf) = (crc32 buf).toNat := leVal_leBytes (crc32 buf).toNat_lt
  simp [verifyCrc, hv]

lemma length_crcBytes (buf : Bytes) : (crcBytes buf).length = 4 := length_leBytes 4 _

lemma reads_fields {fields : List Bytes} (h : Fits fields) (noLength short : String) :
    Reads ((Reader.field noLength short).many fields.length) (fields.flatMap fieldBytes) fields :=
  Reads.many fun b hb => Reads.field (h.2 b hb) noLength short

lemma reads_batchRequest (hid : r.batchId < 2 ^ 64) (h : Fits r.events) :
    Reads readBatchRequest (requestBody r) r := by
  refine (Reads.le hid _).bind ((Reads.le h.1 _).bind ?_)
  have := (reads_fields h "unexpected end of batch request" "event data exceeds buffer").bind
    (f := fun events => pure (BatchRequest.mk r.batchId events)) (Reads.pure r)
  rwa [append_nil] at this

lemma deserializeBatchRequest_append {payload crc : Bytes} (hp : 12 ≤ payload.length) (hc : crc.length = 4) :
    deserializeBatchRequest (payload ++ crc) = do
      verifyCrc payload crc
      let r ← readBatchRequest payload
      return r.1 := by
  have hl : (payload ++ crc).length = payload.length + 4 := by rw [length_append, hc]
  rw [deserializeBatchRequest, if_neg (by omega)]; simp_all

variable {batchId : Nat}

lemma deserialize_serializeBatchRequest {events : List Bytes} (hid : batchId < 2 ^ 64) (h : Fits events) :
    deserializeBatchRequest (serializeBatchRequest batchId events) = .ok ⟨batchId, events⟩ := by
  have hr : readBatchRequest (requestBody ⟨batchId, events⟩) = .ok (⟨batchId, events⟩, []) := by
    simpa using reads_batchRequest (r := ⟨batchId, events⟩) hid h []
  have hm : 12 ≤ (requestBody ⟨batchId, events⟩).length := by
    simp only [requestBody, length_append, length_leBytes]; omega
  rw [serializeBatchRequest, deserializeBatchRequest_append hm (length_crcBytes _), verifyCrc_crcBytes]
  simp only [bind, Except.bind, hr]; rfl

variable {groups : List (List Bytes)}

lemma reads_batchResponse (hid : batchId < 2 ^ 64) (hc : groups.length < 2 ^ 32) (h : ∀ g ∈ groups, Fits g) :
    Reads readBatchResponse (responseBody batchId groups) (batchId, groups) := by
  have hgr : ∀ g ∈ groups, Reads readGroup (groupBytes g) g :=
    fun g hg => (Reads.le (h g hg).1 _).bind (reads_fields (h g hg) _ _)
  refine (Reads.le hid _).bind ((Reads.le hc _).bind ?_)
  have := (Reads.many hgr).bind (f := fun groups => pure (batchId, groups)) (Reads.pure (batchId, groups))
  rwa [append_nil] at this

lemma deserializeBatchResponse_append {payload crc signature : Bytes} (hp : 12 ≤ payload.length)
    (hc : crc.length = 4) (hs : signature.length = 64) :
    deserializeBatchResponse (payload ++ crc ++ signature) = do
      verifyCrc payload crc
      let r ← readBatchResponse payload
      return ⟨r.1.1, r.1.2, signature⟩ := by
  have hl : (payload ++ crc ++ signature).length = (payload ++ crc).length + 64 := by rw [length_append, hs]
  have hcu : (payload ++ crc).length = payload.length + 4 := by rw [length_append, hc]
  have hcr : ((payload ++ crc ++ signature).drop payload.length).take 4 = crc := by grind
  have hpa : (payload ++ crc ++ signature).take payload.length = payload := by simp
  have hsi : (payload ++ crc ++ signature).drop (payload.length + 4) = signature := drop_left' hcu
  rw [deserializeBatchResponse, if_neg (by omega)]; simp_all

lemma deserialize_serializeBatchResponse {signature : Bytes} (hid : batchId < 2 ^ 64)
    (hc : groups.length < 2 ^ 32) (h : ∀ g ∈ groups, Fits g) (hs : signature.length = 64) :
    deserializeBatchResponse (serializeBatchResponse batchId groups signature) =
      .ok ⟨batchId, groups, signature⟩ := by
  have hr : readBatchResponse (responseBody batchId groups) = .ok ((batchId, groups), []) := by
    simpa using reads_batchResponse hid hc h []
  have hm : 12 ≤ (responseBody batchId groups).length := by
    simp only [responseBody, length_append, length_leBytes]; omega
  rw [serializeBatchResponse, signedBytes,
    deserializeBatchResponse_append hm (length_crcBytes _) hs, verifyCrc_crcBytes]
  simp only [bind, Except.bind, hr]; rfl

lemma wsDataFrame_parts (pipelineName : String) (h : (utf8Bytes pipelineName).length < 2 ^ 32)
    (partition : PartitionId) (batch : Bytes) :
    let frame := buildWsDataFrame pipelineName partition batch
    let n := (utf8Bytes pipelineName).length
    frame.length = 4 + n + 2 + batch.length ∧ leVal (frame.take 4) = n ∧
      (frame.drop 4).take n = utf8Bytes pipelineName ∧
      UInt16.ofNat (leVal ((frame.drop (4 + n)).take 2)) = partition ∧ frame.drop (4 + n + 2) = batch := by
  intro frame n
  have hf : frame = leBytes 4 n ++ (utf8Bytes pipelineName ++ (leBytes 2 partition.toNat ++ batch)) := by rfl
  have hr : frame.drop 4 = utf8Bytes pipelineName ++ (leBytes 2 partition.toNat ++ batch) := by rfl
  have hp : frame.drop (4 + n) = leBytes 2 partition.toNat ++ batch := by rw [← drop_drop, hr, drop_left]
  refine ⟨?_, ?_, ?_, ?_, ?_⟩
  · rw [hf]; simp only [length_append, length_leBytes]; omega
  · grind [length_leBytes, leVal_leBytes]
  · rw [hr, take_left]
  · rw [hp, take_left' (length_leBytes 2 _), leVal_leBytes partition.toNat_lt, UInt16.ofNat_toNat]
  · rw [← drop_drop, hp, drop_left' (length_leBytes 2 _)]

lemma parse_buildWsDataFrame (pipelineName : String) (h : (utf8Bytes pipelineName).length < 2 ^ 32)
    (partition : PartitionId) {batch : Bytes} (hne : batch ≠ []) :
    ∃ offset, parseWsRoutingHeader (buildWsDataFrame pipelineName partition batch) =
        .ok (pipelineName, partition, offset) ∧
      (buildWsDataFrame pipelineName partition batch).drop offset = batch := by
  obtain ⟨hl, hn, hna, hp, hb⟩ := wsDataFrame_parts pipelineName h partition batch
  grind [parseWsRoutingHeader, fromUtf8_utf8Bytes]

end Aeon.L3.BatchWire
