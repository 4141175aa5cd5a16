import WorldChain.Machine.Run
import WorldChain.Machine.Threads
import WorldChain.Lib.BigEndian
import WorldChain.Lib.Ledger
import WorldChain.Lib.Outline
import WorldChain.Dispute.Types
import WorldChain.Dispute.LibProof
import WorldChain.Dispute.Vault
import WorldChain.Dispute.VaultAccounting
import WorldChain.Dispute.Game
import WorldChain.Dispute.GameCredits
import WorldChain.Dispute.GameInvariant
import WorldChain.Dispute.World
import WorldChain.Dispute.WorldSteps
import WorldChain.Dispute.Settlement
import WorldChain.Dispute.WorldVault
import WorldChain.Dispute.Resolution
import WorldChain.Dispute.Lanes
import WorldChain.Dispute.Doom
import WorldChain.Dispute.Retries
import WorldChain.Dispute.Lineage
import WorldChain.Dispute.Liveness
import WorldChain.Dispute.Opening
import WorldChain.Dispute.Encodings
import WorldChain.Lib.Reorder
import WorldChain.Lib.Duplex
import WorldChain.Lib.Table
import WorldChain.Lib.Tiling
import WorldChain.Lib.Rlp
import WorldChain.Lib.Codec
import WorldChain.Lib.Delimited
import WorldChain.Lib.Saturating
import WorldChain.Lib.Signed
import WorldChain.Lib.Bisect
import WorldChain.Lib.Recent
import WorldChain.Lib.Checks
import WorldChain.Lib.BitField
import WorldChain.Lib.ByteMemory
import WorldChain.Lib.OrderedMap
import WorldChain.P2P.Publish
import WorldChain.P2P.Stream
import WorldChain.P2P.BlockEpoch
import WorldChain.P2P.Events
import WorldChain.P2P.Handover
import WorldChain.P2P.PublishingStatus
import WorldChain.P2P.Coordination
import WorldChain.P2P.Fanout
import WorldChain.P2P.FanoutSteps
import WorldChain.P2P.FanoutBounds
import WorldChain.P2P.FanoutLink
import WorldChain.P2P.ActivePublishers
import WorldChain.P2P.Connections
import WorldChain.P2P.Observed
import WorldChain.P2P.FixedScore
import WorldChain.P2P.LiveStream
import WorldChain.Primitives.Payload
import WorldChain.Primitives.Frame
import WorldChain.Primitives.Readers
import WorldChain.Primitives.Relay
import WorldChain.Primitives.Flashblocks
import WorldChain.Primitives.PostState
import WorldChain.Evm.Bal
import WorldChain.Evm.Reverts
import WorldChain.Evm.WitnessCollector
import WorldChain.Builder.BestTransactions
import WorldChain.Builder.Reservation
import WorldChain.Builder.Flashblocks
import WorldChain.Validator.ExecutionStrategy
import WorldChain.Validator.Coordinator
import WorldChain.Validator.PendingBlock
import WorldChain.Payload.Job
import WorldChain.Challenger.Tick
import WorldChain.Challenger.Search
import WorldChain.Challenger.Schedule
import WorldChain.Proposer.Lineage
import WorldChain.Proposer.Scan
import WorldChain.Proposer.Acceptance
import WorldChain.Proposer.BondManager
import WorldChain.Proposer.Stability
import WorldChain.Sp1.Planner
import WorldChain.Sp1.Aggregation
import WorldChain.Sp1.Ranges
import WorldChain.ProverService.Store
import WorldChain.ProverService.Steps
import WorldChain.ProverService.Leases
import WorldChain.ProverService.Statuses
import WorldChain.ProverService.Submission
import WorldChain.ProverService.Retries
import WorldChain.Defender.Defense
import WorldChain.Defender.Lanes
import WorldChain.Defender.Ticks
import WorldChain.Pbh.ExternalNullifier
import WorldChain.Pbh.EntryPoint
import WorldChain.Pbh.Validator
import WorldChain.Pbh.RootProvider
import WorldChain.Pbh.SafeModule
import WorldChain.Fees.FeeEscrow
import WorldChain.Measured.ForkSchedule
import WorldChain.Rpc.Inspector
import WorldChain.Rpc.Transfers
import WorldChain.Rpc.Failure
