import Aeon.Core.SortedMap
import Aeon.L3Transport.BatchWire

/-!
# AWPP sessions

`crates/aeon-engine/src/transport/session.rs` and `processor_auth.rs`: what both network hosts build
on. A response frame resolves the batch it names. Senders are numbered; Base64, hex and Ed25519 are
parameters (`Auth`).
-/
namespace Aeon.L3.Session

open Aeon.Core Aeon.Types Aeon.L3.BatchWire

/-- mirrors processor_identity.rs:61-80 -/
inductive PipelineScope
  | allMatchingPipelines
  | named (names : List String)
  deriving DecidableEq

def PipelineScope.allows (s : PipelineScope) (pipelineName : String) : Bool :=
  match s with
  | .allMatchingPipelines => true
  | .named names => names.any (· == pipelineName)

/-- mirrors processor_identity.rs:15-36 -/
structure ProcessorIdentity where
  publicKey : String
  fingerprint : String
  processorName : String
  allowedPipelines : PipelineScope
  maxInstances : UInt32
  revokedAt : Option Int := none
  deriving DecidableEq

def ProcessorIdentity.isActive (i : ProcessorIdentity) : Bool := i.revokedAt.isNone

/-- mirrors awpp.rs:127-139 -/
inductive RejectCode
  | authFailed
  | keyRevoked
  | keyNotFound
  | pipelineNotAuthorized
  | maxInstancesReached

structure Rejected where
  code : RejectCode
  message : String

/-- mirrors processor_auth.rs:132-168 -/
def checkAuthorization (identity : ProcessorIdentity) (requestedPipelines : List String)
    (currentConnections : UInt32) : Except Rejected Unit :=
  if ¬ identity.isActive then
    .error ⟨.keyRevoked, "identity " ++ identity.fingerprint ++ " is revoked"⟩
  else
    match requestedPipelines.find? fun p => !identity.allowedPipelines.allows p with
    | some pipeline =>
      .error ⟨.pipelineNotAuthorized, "pipeline '" ++ pipeline ++ "' not authorized for identity " ++
        identity.fingerprint⟩
    | none =>
      if identity.maxInstances ≤ currentConnections then
        .error ⟨.maxInstancesReached, "max instances (" ++ toString identity.maxInstances ++
          ") reached for identity " ++ identity.fingerprint⟩
      else .ok ()

lemma lt_of_checkAuthorization {identity : ProcessorIdentity} {requested : List String} {current : UInt32}
    (h : checkAuthorization identity requested current = .ok ()) : current < identity.maxInstances := by
  grind [checkAuthorization]

structure Auth where
  Key : Type
  base64 : String → Except String Bytes
  hexDecode : String → Except String Bytes
  keyOfBytes : Bytes → Except String Key
  verify : Key → Bytes → Bytes → Bool

section Verify

variable (A : Auth)

def stripTag (s tag : String) : Option String :=
  if tag.toList <+: s.toList then some (String.ofList (s.toList.drop tag.toList.length)) else none

/-- mirrors processor_auth.rs:34-57 -/
def decodePublicKey (publicKey : String) : Except String Bytes :=
  match stripTag publicKey "ed25519:" with
  | none => .error "public key must start with 'ed25519:'"
  | some rest => do
    let bytes ← A.base64 rest
    if bytes.length ≠ 32 then
      .error ("ED25519 public key must be 32 bytes, got " ++ toString bytes.length)
    else .ok bytes

/-- mirrors processor_auth.rs:68-100 -/
def verifyChallenge (identity : ProcessorIdentity) (nonceHex signatureHex : String) :
    Except String Bool := do
  let key ← A.keyOfBytes (← decodePublicKey A identity.publicKey)
  let nonce ← A.hexDecode nonceHex
  let signature ← A.hexDecode signatureHex
  if signature.length ≠ 64 then
    .error ("signature must be 64 bytes, got " ++ toString signature.length)
  else .ok (A.verify key nonce signature)

/-- mirrors processor_auth.rs:102-126 -/
def verifyBatchSignature (publicKey : String) (batchPayload signature : Bytes) : Except String Bool := do
  let key ← A.keyOfBytes (← decodePublicKey A publicKey)
  if signature.length ≠ 64 then
    .error ("batch signature must be 64 bytes, got " ++ toString signature.length)
  else .ok (A.verify key batchPayload signature)

end Verify

abbrev Outcome := Except String (List FullOutput)

/-- mirrors session.rs:98-102 -/
structure PendingSlot where
  responder : Nat
  events : List Event

/-- mirrors session.rs:113-117 -/
structure BatchInflight where
  nextId : Nat := 1
  pending : SortedMap Nat PendingSlot := .empty
  permits : Nat

/-- mirrors session.rs:246-251 -/
structure InflightBatch where
  batchId : Nat
  events : List Event
  responder : Nat
  deriving DecidableEq

namespace BatchInflight

/-- mirrors session.rs:125-132 -/
def withCapacity (maxInflight : Nat) : BatchInflight := { permits := max maxInflight 1 }

variable (b : BatchInflight)

/-- mirrors session.rs:146-166 -/
def startBatch (slot : PendingSlot) : Option (BatchInflight × Nat) :=
  if b.permits = 0 then none
  else some (⟨b.nextId + 1, b.pending.insert b.nextId slot, b.permits - 1⟩, b.nextId)

/-- mirrors session.rs:173-180 -/
def completeBatch (batchId : Nat) : BatchInflight × Option PendingSlot :=
  match b.pending.get? batchId with
  | some slot => ({ b with pending := b.pending.erase batchId, permits := b.permits + 1 }, some slot)
  | none => (b, none)

/-- mirrors session.rs:201-208 -/
def cancelAll : BatchInflight × List PendingSlot :=
  ({ b with pending := .empty, permits := b.permits + b.pending.toList.length },
    b.pending.toList.map Prod.snd)

/-- mirrors session.rs:222-237 -/
def drainForReplay : BatchInflight × List InflightBatch := ({ b with pending := .empty },
    b.pending.toList.map fun p => ⟨p.1, p.2.events, p.2.responder⟩)

end BatchInflight

inductive Tier
  | webTransport
  | webSocket

/-- mirrors webtransport_host.rs:668-686, websocket_host.rs:535-536 -/
def Tier.batchData : Tier → Bytes → Except String Bytes
  | .webTransport, frame =>
    if 16 * 1024 * 1024 < frame.length then
      .error ("T3 data frame too large: " ++ toString frame.length ++ " bytes")
    else .ok frame
  | .webSocket, frame => do
    let (_, _, offset) ← parseWsRoutingHeader frame
    return frame.drop offset

section Frames

variable (S : Serde) (codec : TransportCodec)

def handleDataFrame (tier : Tier) (b : BatchInflight) (data : Bytes) :
    Except String (BatchInflight × Option (PendingSlot × Outcome)) := do
  let batch ← tier.batchData data
  let decoded ← decodeBatchResponse S codec batch
  let (b, slot) := b.completeBatch decoded.batchId
  return (b, slot.map fun s => (s, .ok decoded.outputsPerEvent.flatten))

/-- mirrors websocket_host.rs:531-546 -/
def handleWsDataFrame := handleDataFrame S codec .webSocket

/-- mirrors webtransport_host.rs:660-710 -/
def wtDataStreamReader := handleDataFrame S codec .webTransport

end Frames

/-- mirrors awpp.rs:90-98 -/
structure PipelineAssignment where
  name : String
  partitions : List PartitionId
  batchSize : Nat

/-- mirrors awpp.rs:46-80 -/
structure Register where
  name : String
  version : String
  publicKey : String
  challengeSignature : String
  transportCodec : TransportCodec := .msgPack
  requestedPipelines : List String := []

/-- mirrors session.rs:557-582 -/
structure HandshakeConfig where
  batchSigning : Bool := true
  pipelineCodec : Option TransportCodec := none
  maxInflightBatches : Nat := 1024

/-- mirrors session.rs:455-485 -/
structure AwppSession where
  sessionId : String
  fingerprint : String
  processorName : String
  processorVersion : String
  codec : TransportCodec
  pipelineAssignments : List PipelineAssignment
  batchSigning : Bool
  batchInflight : BatchInflight

/-- mirrors session.rs:664-704 -/
def accept (config : HandshakeConfig) (identity : ProcessorIdentity) (reg : Register)
    (assignments : List PipelineAssignment) (sessionId : String) : AwppSession where
  sessionId := sessionId
  fingerprint := identity.fingerprint
  processorName := reg.name
  processorVersion := reg.version
  codec := config.pipelineCodec.getD reg.transportCodec
  pipelineAssignments := assignments
  batchSigning := config.batchSigning
  batchInflight := .withCapacity config.maxInflightBatches

end Aeon.L3.Session
