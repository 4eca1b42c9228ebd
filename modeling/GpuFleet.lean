import GpuFleet.Core.Types
import GpuFleet.Lib.Run
import GpuFleet.Observation.Model
import GpuFleet.Observation.Pipeline
import GpuFleet.Fleet.Store
import GpuFleet.Fleet.Operations
import GpuFleet.Lib.OrderedMap
import GpuFleet.Fleet.Ingest
import GpuFleet.Fleet.Atomicity
import GpuFleet.Fleet.Replay
import GpuFleet.Fleet.EligibilitySafety
import GpuFleet.Fleet.Loss
import GpuFleet.Lib.Tenure
import GpuFleet.Fleet.Authority
import GpuFleet.Fleet.Supersession
import GpuFleet.Observation.Codec
import GpuFleet.Protocol.AdminPayload
import GpuFleet.Protocol.Message
import GpuFleet.Fleet.SnapshotCodec
import GpuFleet.Persistence.Store
import GpuFleet.Coordinator.Dispatch
import GpuFleet.Fleet.Disappearance
import GpuFleet.Coordinator.Replies
import GpuFleet.Coordinator.StaleEnvelope
import GpuFleet.Fleet.Fences
import GpuFleet.Fleet.Freshness
import GpuFleet.Fleet.Isolation
import GpuFleet.Fleet.Dominance
import GpuFleet.Core.RoundTrip
import GpuFleet.Fleet.DeviceQuarantine
import GpuFleet.Lib.Incremental
import GpuFleet.Protocol.Framing
import GpuFleet.Protocol.FrameStream
import GpuFleet.Fleet.SnapshotRoundTrip
import GpuFleet.Fleet.WireBounds
import GpuFleet.Fleet.Bounds
import GpuFleet.Coordinator.Recovery
import GpuFleet.Coordinator.Calls
import GpuFleet.Coordinator.Connections
import GpuFleet.Fleet.SignsOfLife
import GpuFleet.Coordinator.LossVerdicts
import GpuFleet.Core.Delimited
import GpuFleet.Protocol.Codec
import GpuFleet.Fleet.WireDelimited
import GpuFleet.Fleet.ObservationRoundTrip
import GpuFleet.Persistence.Digest
import GpuFleet.Persistence.Cycles
import GpuFleet.Fleet.WireLayout
import GpuFleet.Fleet.ChangeLog
import GpuFleet.Fleet.Currency
import GpuFleet.Persistence.Load
import GpuFleet.Coordinator.Restarts
import GpuFleet.Agent.Agent
import GpuFleet.Agent.Reregistration
import GpuFleet.Lib.Footprint
import GpuFleet.Fleet.Accounting
import GpuFleet.Fleet.Commutation
import GpuFleet.Fleet.Explanations
import GpuFleet.Fleet.Ownership
import GpuFleet.Fleet.FenceRoundTrips
import GpuFleet.Observation.Dating
import GpuFleet.Observation.Policy
import GpuFleet.Fleet.Leftovers
import GpuFleet.Coordinator.Startup
import GpuFleet.Persistence.Replacement
import GpuFleet.Lib.ShiftRegister
import GpuFleet.Persistence.Corruption
import GpuFleet.Protocol.PayloadRoundTrips
import GpuFleet.Agent.AnnouncedKeys
import GpuFleet.Fleet.RegistrationPaths
import GpuFleet.Fleet.Batches
import GpuFleet.Fleet.BatchOrder
import GpuFleet.Fleet.BatchKeys
import GpuFleet.Fleet.SnapshotSize
import GpuFleet.Coordinator.ReplySize
import GpuFleet.Coordinator.Handler
import GpuFleet.Coordinator.ConnectionEnds
import GpuFleet.Agent.ProbeFailures
import GpuFleet.Device.CanonicalKeys
import GpuFleet.Observation.Overlooked
import GpuFleet.Agent.BootIds
import GpuFleet.Agent.Backends
import GpuFleet.Lib.Channel
import GpuFleet.Lib.Sections
import GpuFleet.Coordinator.Sections
import GpuFleet.Lib.Failing
import GpuFleet.Transport.Stream
import GpuFleet.Coordinator.Deliverable
import GpuFleet.Coordinator.Conversation
import GpuFleet.Protocol.Await
import GpuFleet.Tools.Request
import GpuFleet.Tools.Admin
import GpuFleet.Agent.Loop
import GpuFleet.Agent.Link
import GpuFleet.Lib.Handles
import GpuFleet.Transport.Sockets
import GpuFleet.Lib.Single
import GpuFleet.Device.CudaValidation
import GpuFleet.Agent.CudaProbe
import GpuFleet.Lib.Progress
import GpuFleet.Coordinator.Lifecycle
import GpuFleet.Coordinator.Detector
import GpuFleet.Coordinator.Interleaving
