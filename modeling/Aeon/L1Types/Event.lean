import Aeon.Core.RecordLog

/-!
# Envelopes and delivery types

`crates/aeon-types/src/event.rs`, `delivery.rs`, `durability.rs`. Latency timestamps and the routing
fields of an output are left out: the engine only passes them on.
-/
namespace Aeon.Types

open Aeon.Core

abbrev Uuid := BitVec 128

instance lawfulBEqUuid : LawfulBEq Uuid := instLawfulBEq

/-- mirrors partition.rs:9-26 -/
abbrev PartitionId := UInt16

/-- mirrors event.rs:23-47 -/
structure Event where
  id : Uuid
  timestamp : Int
  source : String
  partition : PartitionId
  metadata : List (String × String)
  payload : Bytes
  sourceOffset : Option Int
  l2Seq : Option Nat
  deriving DecidableEq

def Event.plain (id : Uuid) (payload : Bytes) : Event := ⟨id, 0, "source", 0, [], payload, none, none⟩

/-- mirrors event.rs:60-87 -/
structure Output where
  payload : Bytes
  sourceEventId : Option Uuid := none
  sourcePartition : Option PartitionId := none
  sourceOffset : Option Int := none
  l2Seq : Option Nat := none
  deriving DecidableEq

def Output.plain (id : Uuid) : Output := { payload := [], sourceEventId := some id }

/-- mirrors event.rs:174-181 -/
def Output.withEventIdentity (o : Output) (e : Event) : Output := { o with
    sourceEventId := some e.id
    sourcePartition := some e.partition
    sourceOffset := e.sourceOffset
    l2Seq := e.l2Seq }

/-- mirrors traits.rs:38-57 -/
inductive SourceKind
  | pull
  | push
  | poll
  deriving DecidableEq

/-- mirrors delivery.rs:21-56 -/
inductive DeliveryStrategy
  | perEvent
  | orderedBatch
  | unorderedBatch

/-- mirrors delivery.rs:63-68 -/
def DeliveryStrategy.isBlocking : DeliveryStrategy → Bool
  | perEvent | orderedBatch => true
  | unorderedBatch => false

/-- mirrors delivery.rs:90-110 -/
inductive BatchFailurePolicy
  | retryFailed
  | failBatch
  | skipToDlq
  deriving DecidableEq

/-- mirrors delivery.rs:115-125 -/
structure BatchResult where
  delivered : List Uuid := []
  pending : List Uuid := []
  failed : List (Uuid × String) := []

/-- mirrors durability.rs:22-39 -/
inductive DurabilityMode
  | none
  | unorderedBatch
  | orderedBatch
  | perEvent
  deriving DecidableEq

end Aeon.Types
