import GpuFleet.Agent.Agent
import GpuFleet.Coordinator.Dispatch
import GpuFleet.Fleet.ObservationRoundTrip

/-!
# What an agent publishes

`publish_snapshot` of `agent/agent.cpp`, with `normalize_observation` of
`observation/pipeline.hpp`, over an arbitrary `DeviceBackend`.  The loop goes
over the devices that the backend enumerates, and a device whose probe fails
is left out of the batch.  If the batch is empty then nothing is sent.
-/

namespace GpuFleet

/-! ## The backend -/

/-- `EnumeratedDevice`. -/
structure EnumeratedDevice where
  ordinal : Int32 := -1
  identity : DeviceIdentity := {}
  present : Bool := false
  deriving DecidableEq, Repr

/-- `DeviceProbe`. -/
structure DeviceProbe where
  identity : DeviceIdentity := {}
  enumerated : Bool := false
  present : Bool := false
  driverRuntimeOk : Bool := false
  cudaInitOk : Bool := false
  totalMemory : UInt64 := 0
  usedMemory : UInt64 := 0
  freeMemory : UInt64 := 0
  temperatureC : Option DoubleBits := none
  powerW : Option DoubleBits := none
  memoryAllocOk : Bool := false
  h2dOk : Bool := false
  kernelExecOk : Bool := false
  syncOk : Bool := false
  d2hOk : Bool := false
  verifyOk : Bool := false
  coreValidationOk : Bool := false
  validationDetail : ByteString := []
  capabilities : List Capability := []
  deriving DecidableEq, Repr

/-- The two methods of a `DeviceBackend` that the agent calls. -/
structure DeviceBackend where
  enumerate : Result (List EnumeratedDevice)
  probe : EnumeratedDevice → Result DeviceProbe

/-! ## Normalisation -/

/-- `ObservationMetadata`, with the defaults of the source. -/
structure ObservationMetadata where
  deviceId : DeviceId := {}
  observationGeneration : ObservationGeneration := {}
  healthGeneration : HealthGeneration := {}
  observedAt : Timestamp := kInvalidTimestamp
  sourceWorkerBoot : WorkerBootId := {}
  sourceWorker : WorkerId := {}
  sourceNode : NodeId := {}
  epoch : CoordinatorEpoch := {}
  deviceGeneration : DeviceGeneration := {}

/-- `normalize_observation`. -/
def normalizeObservation (probe : DeviceProbe) (about : ObservationMetadata) :
    DeviceObservation where
  deviceId := about.deviceId
  observationGeneration := about.observationGeneration
  observedAt := about.observedAt
  sourceWorkerBoot := about.sourceWorkerBoot
  sourceWorker := about.sourceWorker
  sourceNode := about.sourceNode
  epoch := about.epoch
  deviceGeneration := about.deviceGeneration
  healthGeneration := about.healthGeneration
  identity := probe.identity
  enumerated := probe.enumerated
  present := probe.present
  driverRuntimeOk := probe.driverRuntimeOk
  cudaInitOk := probe.cudaInitOk
  totalMemory := probe.totalMemory
  usedMemory := probe.usedMemory
  freeMemory := probe.freeMemory
  temperatureC := probe.temperatureC
  powerW := probe.powerW
  capabilities := probe.capabilities
  coreValidationOk := probe.coreValidationOk
  validationDetail := probe.validationDetail
  memoryAllocOk := probe.memoryAllocOk
  h2dOk := probe.h2dOk
  kernelExecOk := probe.kernelExecOk
  syncOk := probe.syncOk
  d2hOk := probe.d2hOk
  verifyOk := probe.verifyOk
  health := if probe.present then .unknown else .offline

namespace WorkerAgent

/-- The state of an agent that its publications depend on. -/
structure Publisher extends WorkerAgent where
  obsGen : ObservationGeneration := ⟨1⟩
  healthGen : HealthGeneration := ⟨1⟩
  deviceGen : DeviceGeneration := ⟨1⟩

namespace Publisher

/-- The metadata of one device. -/
def metadata (a : Publisher) (d : EnumeratedDevice) (now : Timestamp) : ObservationMetadata where
  deviceId := ⟨(d.ordinal + 1).toInt64.toUInt64⟩
  observationGeneration := a.obsGen
  healthGeneration := a.healthGen
  observedAt := now
  sourceWorkerBoot := a.opts.boot
  sourceWorker := a.opts.worker
  sourceNode := a.opts.node
  epoch := a.lastKnownEpoch
  deviceGeneration := a.deviceGen

/-- The loop body over the enumerated devices: `continue` after a failed
probe. -/
def observe (a : Publisher) (backend : DeviceBackend) (now : Timestamp) (d : EnumeratedDevice) :
    Option DeviceObservation :=
  match backend.probe d with
  | .error _ => none
  | .ok probe =>
    some { normalizeObservation probe (a.metadata d now) with epoch := a.lastKnownEpoch }

/-- The batch of `publish_snapshot`.  `clock i` is what `now_millis` answers
for the device at the place `i`. -/
def batch (a : Publisher) (backend : DeviceBackend) (clock : Nat → Timestamp) :
    List DeviceObservation :=
  match backend.enumerate with
  | .error _ => []
  | .ok ev => ev.zipIdx.filterMap fun e => a.observe backend (clock e.2) e.1

/-- `publish_snapshot`: the agent after it, and the message that it sends. -/
def publishSnapshot (a : Publisher) (backend : DeviceBackend) (clock : Nat → Timestamp) :
    Publisher × Option Message :=
  let batch := a.batch backend clock
  if batch.isEmpty then (a, none)
  else
    ({ a with obsGen := a.obsGen.next, deviceGen := a.deviceGen.next },
      some {
        type := .deviceSnapshot
        worker := a.opts.worker
        workerBoot := a.opts.boot
        epoch := a.lastKnownEpoch
        payload := encodeObservationBatch batch })

/-- The observations of a batch are those of the probes that succeeded. -/
theorem mem_batch {a : Publisher} {backend : DeviceBackend} {clock : Nat → Timestamp}
    {o : DeviceObservation} (h : o ∈ a.batch backend clock) :
    ∃ ev d probe, backend.enumerate = .ok ev ∧ d ∈ ev ∧ backend.probe d = .ok probe ∧
      o.identity = probe.identity := by
  unfold batch at h
  cases hev : backend.enumerate with
  | error err =>
    rw [hev] at h
    cases h
  | ok ev =>
    rw [hev] at h
    obtain ⟨⟨d, i⟩, hd, ho⟩ := List.mem_filterMap.mp h
    unfold observe at ho
    cases hprobe : backend.probe d with
    | error err =>
      rw [hprobe] at ho
      cases ho
    | ok probe =>
      rw [hprobe] at ho
      obtain rfl := Option.some.inj ho
      exact ⟨ev, d, probe, rfl, List.fst_mem_of_mem_zipIdx hd, hprobe, rfl⟩

end Publisher

end WorkerAgent

end GpuFleet
