import Aeon.L1Types.PohResume
import Aeon.L1Types.Uuid
import Aeon.L1Types.MerkleProof
import Aeon.L1Types.PohCheckpoint
import Aeon.L1Types.MountainLayout
import Aeon.L1Types.Kek
import Aeon.L1Types.InboundAuth
import Aeon.L2Store.Fallback
import Aeon.L2Store.CheckpointRing
import Aeon.L2Store.Corruption
import Aeon.L2Store.Reassembly
import Aeon.L2Store.SegmentInstall
import Aeon.L2Store.Tiered
import Aeon.L2Store.Windows
import Aeon.L2Store.TieredCalls
import Aeon.L2Store.StateCrash
import Aeon.L2Store.StateCalls
import Aeon.L2Store.PrefixScan
import Aeon.L3Pipeline.CheckpointIsolation
import Aeon.L3Pipeline.BatchFailures
import Aeon.L3Pipeline.CheckpointCounters
import Aeon.L3Pipeline.AckProgress
import Aeon.L3Pipeline.GateDrain
import Aeon.L3Pipeline.StateTransfer
import Aeon.L3Pipeline.HandOff
import Aeon.L3Pipeline.SinkSwap
import Aeon.L3Pipeline.ManagedRefines
import Aeon.L3Pipeline.Recovery
import Aeon.L3Pipeline.Dag
import Aeon.L3Pipeline.TopologyRunners
import Aeon.L3Pipeline.Supervisor
import Aeon.L3Pipeline.ContentHash
import Aeon.L3Pipeline.DeadLetter
import Aeon.L3Connectors.RedisSource
import Aeon.L3Transport.BatchCanonical
import Aeon.L3Transport.BatchAgreement
import Aeon.L3Transport.Inflight
import Aeon.L3Transport.Signing
import Aeon.L3Transport.IdentityStore
import Aeon.L3Transport.Replay
import Aeon.L3Transport.WasmHost
import Aeon.L3Transport.PushBuffer
import Aeon.L4Cluster.RebalanceExact
import Aeon.L4Cluster.RebalancePlan
import Aeon.L4Cluster.Anchors
import Aeon.L4Cluster.Ownership
import Aeon.L4Cluster.Handover
import Aeon.L4Cluster.GateRelease
import Aeon.L4Cluster.Driver
import Aeon.L4Cluster.SourceAssignment
import Aeon.L4Cluster.Applier
import Aeon.L4Cluster.UpgradeApi
import Aeon.L4Cluster.SnapshotStore
import Aeon.L4Cluster.SnapshotInstall
import Aeon.L4Cluster.Artifacts
import Aeon.L4Cluster.History
import Aeon.L4Cluster.Framing
import Aeon.L4Cluster.Throttle
import Aeon.L4Cluster.Erasure
import Aeon.L2Store.AtRest
import Aeon.L2Store.BodyModel
import Aeon.L3Pipeline.Capacity
