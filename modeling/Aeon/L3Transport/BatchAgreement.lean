import Aeon.L3Transport.Identity

/-!
# The engine and the processor client speak one batch format

`crates/aeon-processor-client/src/wire.rs` is written apart from the engine's `batch_wire.rs` and
`websocket_host.rs`.

* `batch_wire_agrees`: what one side encodes the other decodes, if the codec does so for one event
  and one output.
-/
namespace Aeon.L3.BatchAgreement

open List Aeon.Core Aeon.Types Aeon.L3.BatchWire Aeon.L3.Identity

/-- mirrors crates/aeon-processor-client/src/lib.rs:106-130 -/
structure ProcessEvent where
  id : Uuid
  timestamp : Int
  source : String
  partition : PartitionId
  metadata : List (String × String)
  payload : Bytes
  sourceOffset : Option Int

structure ClientSerde where
  decodeEvent : TransportCodec → Bytes → Except String ProcessEvent
  encodeOutput : TransportCodec → ProcessOutput → Except String Bytes

structure SigningKey where
  sign : Bytes → Bytes
  length_sign : ∀ data, (sign data).length = 64

/-- `{:#X}` -/
def hexUpper (n : Nat) : String := "0x" ++ (String.ofList (Nat.toDigits 16 n)).toUpper

/-- mirrors transport_codec.rs:30-37 -/
def codecName : TransportCodec → String
  | .msgPack => "msgpack"
  | .json => "json"

def codecOf (name : String) : TransportCodec × String :=
  if name = "json" then (.json, "JSON") else (.msgPack, "MsgPack")

section Client

variable (C : ClientSerde)

def readEvent (codec : String) : Reader String ProcessEvent := do
  let bytes ← Reader.field "Truncated event in batch" "Event data exceeds batch boundary"
  (C.decodeEvent (codecOf codec).1 bytes).mapError ((codecOf codec).2 ++ " decode event: " ++ ·)

/-- mirrors wire.rs:138-189 -/
def decodeBatchRequest (data : Bytes) (codec : String) : Except String (Nat × List ProcessEvent) :=
  if data.length < 16 then .error "Batch request too short"
  else do
    let batchId := leVal (data.take 8)
    let eventCount := leVal ((data.drop 8).take 4)
    let crcOffset := data.length - 4
    let stored := leVal (data.drop crcOffset)
    let computed := (crc32 (data.take crcOffset)).toNat
    if stored ≠ computed then
      .error ("CRC32 mismatch: stored=" ++ hexUpper stored ++ ", computed=" ++ hexUpper computed)
    else
      let r ← (readEvent C codec).many eventCount ((data.take crcOffset).drop 12)
      return (batchId, r.1)

def encodeOutput (codec : String) (o : ProcessOutput) : Except String Bytes :=
  (C.encodeOutput (codecOf codec).1 o).mapError ((codecOf codec).2 ++ " encode output: " ++ ·)

/-- mirrors wire.rs:195-238 -/
def encodeBatchResponse (key : SigningKey) (batchId : Nat) (outputs : List (List ProcessOutput))
    (codec : String) (batchSigning : Bool) :
    Except String Bytes := do
  let encoded ← outputs.mapM fun group => group.mapM (encodeOutput C codec)
  let buf := signedBytes batchId encoded
  return buf ++ if batchSigning then key.sign buf else List.replicate 64 0

end Client

/-- mirrors wire.rs:243-263 -/
def parseDataFrame (data : Bytes) : Except String (String × PartitionId × Bytes) :=
  if data.length < 6 then .error "Data frame too short"
  else
    let nameLen := leVal (data.take 4)
    if data.length < 4 + nameLen + 2 then .error "Data frame truncated"
    else
      match fromUtf8 ((data.drop 4).take nameLen) with
      | none => .error "Invalid pipeline name UTF-8"
      | some name =>
        .ok (name, UInt16.ofNat (leVal ((data.drop (4 + nameLen)).take 2)), data.drop (4 + nameLen + 2))

/-- mirrors wire.rs:268-276 -/
def buildDataFrame (pipeline : String) (partition : PartitionId) (responseData : Bytes) : Bytes :=
  buildWsDataFrame pipeline partition responseData

lemma codecOf_codecName (codec : TransportCodec) : (codecOf (codecName codec)).1 = codec := by
  cases codec <;> rfl

variable {C : ClientSerde} {codec : TransportCodec}

lemma reads_event (hb : b.length < 2 ^ 32) (h : C.decodeEvent codec b = .ok e) :
    Reads (readEvent C (codecName codec)) (fieldBytes b) e := by
  intro rest
  have hf := Reads.field (ε := String) hb "Truncated event in batch" "Event data exceeds batch boundary" rest
  simp only [readEvent, codecOf_codecName, h, bind, StateT.bind, Except.bind, hf]; rfl

lemma reads_events {evs : List ProcessEvent} (hb : ∀ b ∈ bs, b.length < 2 ^ 32)
    (h : List.Forall₂ (fun b e => C.decodeEvent codec b = .ok e) bs evs) :
    Reads ((readEvent C (codecName codec)).many bs.length) (bs.flatMap fieldBytes) evs := by
  induction h with
  | nil => exact Reads.pure []
  | @cons b e bs evs h _ ih =>
    have hr := ih fun x hx => hb x (mem_cons_of_mem _ hx)
    have hc := hr.bind (f := fun es => pure (e :: es)) (Reads.pure (e :: evs))
    rw [append_nil] at hc; exact (reads_event (hb b mem_cons_self) h).bind hc

lemma decode_serializeBatchRequest {batchId : Nat} {evs : List ProcessEvent} (hid : batchId < 2 ^ 64)
    (hf : Fits bs) (h : List.Forall₂ (fun b e => C.decodeEvent codec b = .ok e) bs evs) :
    decodeBatchRequest C (serializeBatchRequest batchId bs) (codecName codec) = .ok (batchId, evs) := by
  have hr : (readEvent C (codecName codec)).many bs.length (bs.flatMap fieldBytes) = .ok (evs, []) := by
    simpa using reads_events hf.2 h []
  let body := requestBody ⟨batchId, bs⟩
  have hb : body = leBytes 8 batchId ++ (leBytes 4 bs.length ++ bs.flatMap fieldBytes) := rfl
  have hm : 12 ≤ body.length := by simp only [hb, length_append, length_leBytes]; omega
  have hl : (body ++ crcBytes body).length - 4 = body.length := by
    rw [length_append, length_crcBytes, Nat.add_sub_cancel]
  have hcr : leVal (crcBytes body) = (crc32 body).toNat := leVal_leBytes (crc32 body).toNat_lt
  have hi : (body ++ crcBytes body).take 8 = leBytes 8 batchId := by rfl
  have hc : ((body ++ crcBytes body).drop 8).take 4 = leBytes 4 bs.length := by rfl
  have hfi : body.drop 12 = bs.flatMap fieldBytes := by rfl
  show decodeBatchRequest C (body ++ crcBytes body) _ = _
  rw [decodeBatchRequest, if_neg (by rw [length_append, length_crcBytes]; omega)]
  simp only [hl, hi, hc, leVal_leBytes (w := 8) hid, leVal_leBytes (w := 4) hf.1, take_left,
    drop_left, hcr, ne_eq, not_true, if_false, hfi, hr]
  rfl

lemma mapM_ok {α β : Type} {f : α → Except String β} {as : List α} {bs : List β}
    (h : List.Forall₂ (fun a b => f a = .ok b) as bs) : as.mapM f = .ok bs := by
  induction h with
  | nil => rfl
  | cons h _ ih => rw [mapM_cons, h, ih]; rfl

def Carried (C : ClientSerde) (S : Serde) (codec : TransportCodec) (o : ProcessOutput) (b : Bytes) : Prop :=
  C.encodeOutput codec o = .ok b ∧ S.decodeOutput codec b = .ok o.toWire

lemma encoded_of_carried {S : Serde} {outputs : List (List ProcessOutput)} {groups : List (List Bytes)}
    (h : List.Forall₂ (List.Forall₂ (Carried C S codec)) outputs groups) :
    outputs.mapM (fun group => group.mapM (encodeOutput C (codecName codec))) = .ok groups ∧
    groups.mapM (fun group => group.mapM (decodeOutput S codec)) =
      .ok (outputs.map (List.map fun o => o.toWire.toOutput)) := by
  constructor
  · refine mapM_ok (h.imp fun group bs hg => mapM_ok (hg.imp fun o b ho => ?_))
    simp [encodeOutput, codecOf_codecName, ho.1]; rfl
  · refine mapM_ok (forall₂_map_right_iff.mpr (h.flip.imp fun bs group hg =>
      mapM_ok (forall₂_map_right_iff.mpr (hg.flip.imp fun b o ho => ?_))))
    rw [decodeOutput, ho.2]; rfl

lemma parse_buildDataFrame (name : String) (h : (utf8Bytes name).length < 2 ^ 32) (partition : PartitionId)
    (batch : Bytes) :
    parseDataFrame (buildWsDataFrame name partition batch) = .ok (name, partition, batch) := by
  obtain ⟨hl, hn, hna, hp, hb⟩ := wsDataFrame_parts name h partition batch
  rw [parseDataFrame, if_neg (by omega), hn, if_neg (by omega), hna, hp, fromUtf8_utf8Bytes, hb]

/-- **Batch wire agreement.** -/
theorem batch_wire_agrees (C : ClientSerde) (S : Serde) (key : SigningKey) (codec : TransportCodec)
    {batchId : Nat} (hid : batchId < 2 ^ 64) :
    (∀ events, Fits events → deserializeBatchRequest (serializeBatchRequest batchId events) = .ok
      ⟨batchId, events⟩) ∧
    (∀ events evs, Fits events → List.Forall₂ (fun b e => C.decodeEvent codec b = .ok e) events evs →
      decodeBatchRequest C (serializeBatchRequest batchId events) (codecName codec) = .ok (batchId, evs)) ∧
    (∀ outputs groups batchSigning, groups.length < 2 ^ 32 → (∀ g ∈ groups, Fits g) →
      List.Forall₂ (List.Forall₂ (Carried C S codec)) outputs groups →
      ∃ data signature, data ≠ [] ∧
        encodeBatchResponse C key batchId outputs (codecName codec) batchSigning = .ok data ∧
        deserializeBatchResponse data = .ok ⟨batchId, groups, signature⟩ ∧
        decodeBatchResponse S codec data =
          .ok ⟨batchId, outputs.map (List.map fun o => o.toWire.toOutput), signature⟩) ∧
    ∀ name partition batch, (utf8Bytes name).length < 2 ^ 32 →
      parseDataFrame (buildWsDataFrame name partition batch) = .ok (name, partition, batch) ∧
      (batch ≠ [] → ∃ offset,
        parseWsRoutingHeader (buildDataFrame name partition batch) = .ok (name, partition, offset) ∧
        (buildDataFrame name partition batch).drop offset = batch) := by
  refine ⟨fun events h => deserialize_serializeBatchRequest hid h,
    fun events evs hf h => decode_serializeBatchRequest hid hf h, ?_, fun name partition batch h =>
    ⟨parse_buildDataFrame name h partition batch, fun hne => parse_buildWsDataFrame name h partition hne⟩⟩
  intro outputs groups batchSigning hc hfi h; obtain ⟨he, hde⟩ := encoded_of_carried h
  let buf := signedBytes batchId groups
  let signature := if batchSigning then key.sign buf else List.replicate 64 0
  have hs : signature.length = 64 := by
    cases batchSigning
    · exact length_replicate
    · exact key.length_sign buf
  have hd : deserializeBatchResponse (buf ++ signature) = .ok ⟨batchId, groups, signature⟩ :=
    deserialize_serializeBatchResponse hid hc hfi hs
  refine ⟨buf ++ signature, signature, ne_nil_of_length_pos (by rw [length_append]; omega), ?_, hd, ?_⟩
  · rw [encodeBatchResponse, he]; rfl
  · simp only [decodeBatchResponse, hd, bind, Except.bind, hde]; rfl

def orders (n : UInt8) : ProcessEvent := ⟨BitVec.ofNat 128 n.toNat, 0, "orders", 3, [("trace", "1")], [n],
    some 5⟩

def invoice (n : UInt8) : ProcessOutput := ⟨"invoices", none, [n], [("trace", "1")]⟩

def byteClient : ClientSerde where
  decodeEvent _ b := b.head?.elim (.error "empty") fun n => .ok (orders n)
  encodeOutput _ o := .ok o.payload

def byteEngine : Serde where
  encodeEvent _ e := .ok e.payload
  decodeOutput _ b := b.head?.elim (.error "empty") fun n => .ok (invoice n).toWire

def ones : SigningKey := ⟨fun _ => List.replicate 64 1, fun _ => length_replicate⟩

theorem batch_wire_agrees_exchange :
    decodeBatchRequest byteClient (serializeBatchRequest 5 [[1], [2]]) "json" = .ok
      (5, [orders 1, orders 2]) ∧
    ∃ data signature offset,
      encodeBatchResponse byteClient ones 5 [[invoice 7, invoice 8], [invoice 9]] "json" true = .ok data ∧
      parseWsRoutingHeader (buildDataFrame "billing" 3 data) = .ok ("billing", 3, offset) ∧
      decodeBatchResponse byteEngine .json ((buildDataFrame "billing" 3 data).drop offset) =
        .ok ⟨5, [[(invoice 7).toWire.toOutput, (invoice 8).toWire.toOutput], [(invoice 9).toWire.toOutput]],
          signature⟩ := by
  obtain ⟨-, hreq, hresp, hframe⟩ := batch_wire_agrees byteClient byteEngine ones .json
    (show 5 < 2 ^ 64 by decide)
  refine ⟨hreq [[1], [2]] [orders 1, orders 2] ⟨by decide, by decide⟩ (.cons rfl (.cons rfl .nil)), ?_⟩
  obtain ⟨data, signature, hne, hen, -, hde⟩ :=
    hresp [[invoice 7, invoice 8], [invoice 9]] [[[7], [8]], [[9]]] true
    (by decide) (by simp [Fits]) (.cons (.cons ⟨rfl, rfl⟩ (.cons ⟨rfl, rfl⟩ .nil))
      (.cons (.cons ⟨rfl, rfl⟩ .nil) .nil))
  obtain ⟨offset, hof, hdr⟩ := (hframe "billing" 3 data (by decide)).2 hne
  exact ⟨data, signature, offset, hen, hof, by rw [hdr]; exact hde⟩

end Aeon.L3.BatchAgreement
