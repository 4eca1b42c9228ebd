import GpuFleet.Device.Identity
import GpuFleet.Device.Eligibility

/-!
# Observations and canonical device state

`capability/capability.hpp` and `observation/observation.hpp`.  A
`DeviceObservation` is one report about a device by a worker incarnation.
A `DeviceState` is the view that the coordinator keeps of it.
-/

namespace GpuFleet

/-- `Capability`. -/
structure Capability where
  id : CapabilityId := {}
  name : ByteString := []
  kind : CapabilityKind := .unknown
  value : ByteString := []
  description : ByteString := []
  deriving DecidableEq, Repr

/-- Administrative drain state. -/
inductive DrainState
  | active | draining | drained
  | undeclared (v : UInt8) (h : 3 ≤ v.toNat)
  deriving DecidableEq, Repr

/-- `to_string(DrainState)`. -/
def DrainState.toText : DrainState → ByteString
  | .active => text "ACTIVE"
  | .draining => text "DRAINING"
  | .drained => text "DRAINED"
  | .undeclared _ _ => text "ACTIVE"

/-- The value of the enumerator. -/
def DrainState.toByte : DrainState → UInt8
  | .active => 0
  | .draining => 1
  | .drained => 2
  | .undeclared v _ => v

/-- The enumerators, by their values. -/
def DrainState.declared : Fin 3 → DrainState
  | 0 => .active
  | 1 => .draining
  | 2 => .drained

/-- `static_cast<DrainState>`. -/
def DrainState.ofByte (b : UInt8) : DrainState :=
  if h : b.toNat < 3 then .declared ⟨b.toNat, h⟩ else .undeclared b (Nat.le_of_not_lt h)

@[simp] theorem DrainState.ofByte_toByte (d : DrainState) : ofByte d.toByte = d := by
  cases d with
  | undeclared v h => exact dif_neg (Nat.not_lt.mpr h)
  | _ => rfl

/-- `QuarantineRecord`. -/
structure QuarantineRecord where
  reason : ByteString := []
  source : ByteString := []
  generation : DeviceGeneration := {}
  atTime : Timestamp := kInvalidTimestamp
  deviceId : DeviceId := {}
  authority : CoordinatorEpoch := {}
  deriving DecidableEq, Repr

/-- `DeviceObservation`, with the defaults of the source. -/
structure DeviceObservation where
  deviceId : DeviceId := {}
  observationGeneration : ObservationGeneration := {}
  healthGeneration : HealthGeneration := {}
  observedAt : Timestamp := kInvalidTimestamp
  sourceWorkerBoot : WorkerBootId := {}
  sourceWorker : WorkerId := {}
  sourceNode : NodeId := {}
  epoch : CoordinatorEpoch := {}
  deviceGeneration : DeviceGeneration := {}
  identity : DeviceIdentity := {}
  health : HealthState := .unknown
  healthExplanation : ByteString := []
  totalMemory : UInt64 := 0
  usedMemory : UInt64 := 0
  freeMemory : UInt64 := 0
  temperatureC : Option DoubleBits := none
  powerW : Option DoubleBits := none
  capabilities : List Capability := []
  coreValidationOk : Bool := false
  validationDetail : ByteString := []
  enumerated : Bool := false
  present : Bool := true
  driverRuntimeOk : Bool := false
  cudaInitOk : Bool := false
  memoryAllocOk : Bool := false
  h2dOk : Bool := false
  kernelExecOk : Bool := false
  syncOk : Bool := false
  d2hOk : Bool := false
  verifyOk : Bool := false
  deriving DecidableEq, Repr

/-- `DeviceState`, with the defaults of the source. -/
structure DeviceState where
  deviceId : DeviceId := {}
  generation : DeviceGeneration := {}
  identity : DeviceIdentity := {}
  present : Bool := false
  health : HealthState := .unknown
  healthExplanation : ByteString := []
  eligibility : EligibilityState := .unknown
  eligibilityReasons : List EligibilityReason := []
  drain : DrainState := .active
  quarantined : Bool := false
  quarantine : QuarantineRecord := {}
  totalMemory : UInt64 := 0
  usedMemory : UInt64 := 0
  freeMemory : UInt64 := 0
  temperatureC : Option DoubleBits := none
  powerW : Option DoubleBits := none
  capabilities : List Capability := []
  coreValidationOk : Bool := false
  validationDetail : ByteString := []
  lastObservedAt : Timestamp := kInvalidTimestamp
  lastValidatedAt : Timestamp := kInvalidTimestamp
  lastAuthoritativeAt : Timestamp := kInvalidTimestamp
  observationGeneration : ObservationGeneration := {}
  healthGeneration : HealthGeneration := {}
  sourceWorkerBoot : WorkerBootId := {}
  observationFresh : Bool := false
  deriving DecidableEq, Repr

/-- The verdict on a device with its reasons. -/
def DeviceState.verdict (d : DeviceState) : EligibilityResult :=
  ⟨d.eligibility, d.eligibilityReasons⟩

/-- No fence is up. -/
structure DeviceState.Unfenced (d : DeviceState) : Prop where
  drain : d.drain = .active
  quarantined : d.quarantined = false

end GpuFleet
