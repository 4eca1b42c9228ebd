import GpuFleet.Fleet.Store
import GpuFleet.Lib.Run

/-!
# Runs of the store

`Op` is a call of a mutating method of `FleetStateStore` with its arguments,
`exec` performs it, and a run is a list of calls on an empty store.  The
mutex makes every concurrent use of a store such a list.
-/

namespace GpuFleet

/-- A call of a method that can change the store. -/
inductive Op
  | rollEpoch (ne : CoordinatorEpoch)
  | registerWorker (reg : Registration) (now : Timestamp)
  | restore (snap : StateSnapshot)
  | markWorkerLost (w : WorkerId) (now : Timestamp)
  | ingestSnapshot (worker : WorkerId) (obs : List DeviceObservation)
      (policy : ObservationPolicy) (now : Timestamp)
  | heartbeat (worker : WorkerId) (boot : WorkerBootId) (epoch : CoordinatorEpoch)
      (now : Timestamp) (hg : HealthGeneration)
  | setDrain (w : WorkerId) (identity : ByteString) (d : DrainState) (now : Timestamp)
  | setQuarantine (w : WorkerId) (identity : ByteString) (q : QuarantineRecord)
      (now : Timestamp)
  | clearQuarantine (w : WorkerId) (identity : ByteString) (epoch : CoordinatorEpoch)
      (now : Timestamp)

/-- The call is a recovery. -/
def Op.IsRestore : Op → Prop
  | .restore _ => True
  | _ => False

/-- The call brings a batch of observations. -/
def Op.IsIngest : Op → Prop
  | .ingestSnapshot .. => True
  | _ => False

/-- The call marks a worker lost. -/
def Op.IsLoss : Op → Prop
  | .markWorkerLost .. => True
  | _ => False

/-- The call is about the epoch or about one device. -/
def Op.IsAdministrative : Op → Prop
  | .rollEpoch _ | .setDrain .. | .setQuarantine .. | .clearQuarantine .. => True
  | _ => False

/-- An outcome without the value of a successful call. -/
def Outcome.void {α : Type} (out : Outcome α) : Outcome Unit where
  store := out.store
  result := out.result.map (fun _ => ())
  logged := out.logged
  applied := out.applied

namespace FleetStateStore

/-- A store that was just constructed. -/
def empty (coord : CoordinatorId) (initialEpoch : CoordinatorEpoch) : FleetStateStore where
  coord := coord
  epoch := initialEpoch

/-- Perform a call. -/
def exec (s : FleetStateStore) : Op → Outcome Unit
  | .rollEpoch ne => s.rollEpoch ne
  | .registerWorker reg now => (s.registerWorker reg now).void
  | .restore snap => s.restore snap
  | .markWorkerLost w now => s.markWorkerLost w now
  | .ingestSnapshot worker obs policy now => (s.ingestSnapshot worker obs policy now).void
  | .heartbeat worker boot epoch now hg => s.heartbeat worker boot epoch now hg
  | .setDrain w identity d now => s.setDrain w identity d now
  | .setQuarantine w identity q now => s.setQuarantine w identity q now
  | .clearQuarantine w identity epoch now => s.clearQuarantine w identity epoch now

/-- The state after a call. -/
def step (s : FleetStateStore) (op : Op) : FleetStateStore := (s.exec op).store

/-- The state after a list of calls. -/
def run (s : FleetStateStore) (ops : List Op) : FleetStateStore := Run.run step s ops

/-- The calls of a run, each with the state it was made in. -/
def history (s : FleetStateStore) (ops : List Op) : List (FleetStateStore × Op) :=
  Run.history step s ops

/-- The observations that the calls of a history applied, in order. -/
def applicationsOf (past : List (FleetStateStore × Op)) : List Application :=
  past.flatMap fun call => (call.1.exec call.2).applied

@[simp] theorem applicationsOf_nil : applicationsOf [] = [] := rfl

@[simp] theorem applicationsOf_concat (past : List (FleetStateStore × Op)) (s : FleetStateStore)
    (op : Op) :
    applicationsOf (past ++ [(s, op)]) = applicationsOf past ++ (s.exec op).applied := by
  simp [applicationsOf]

/-- The boot id in the record of a worker. -/
def recordedBoot (s : FleetStateStore) (w : WorkerId) : Option WorkerBootId :=
  s.workers[w]?.map WorkerRecord.boot

end FleetStateStore

/-! ## Sample calls

The fixtures of the concrete runs in this development, as in the tests of the
store: registrations and observations in epoch 1, and one device that passes
every check. -/

/-- A registration in epoch 1. -/
def sampleRegistration (worker boot generation : UInt64)
    (devices : List ByteString := []) : Registration where
  node := ⟨1⟩
  worker := ⟨worker⟩
  workerBoot := ⟨boot⟩
  protocolVersion := ⟨1⟩
  registrationGeneration := ⟨generation⟩
  epoch := ⟨1⟩
  enumeratedDevices := devices

/-- A device. -/
def sampleIdentity : DeviceIdentity where
  vendor := .nvidia
  uuid := ⟨text "GPU-0"⟩

/-- An observation that passes every check. -/
def sampleObservation (worker boot generation : UInt64) : DeviceObservation where
  deviceId := ⟨1⟩
  observationGeneration := ⟨generation⟩
  observedAt := 5000
  sourceWorkerBoot := ⟨boot⟩
  sourceWorker := ⟨worker⟩
  epoch := ⟨1⟩
  identity := sampleIdentity
  coreValidationOk := true
  enumerated := true
  driverRuntimeOk := true
  cudaInitOk := true
  memoryAllocOk := true
  h2dOk := true
  kernelExecOk := true
  syncOk := true
  d2hOk := true
  verifyOk := true

/-- The key under which the sample device is filed. -/
def sampleKey : ByteString := canonicalDeviceIdentity sampleIdentity

/-- A device with another UUID. -/
def sampleDevice (uuid : String) : DeviceIdentity := { sampleIdentity with uuid := ⟨text uuid⟩ }

/-- The report of a device with another UUID. -/
def sampleObservationOf (uuid : String) (worker boot generation : UInt64) : DeviceObservation :=
  { sampleObservation worker boot generation with identity := sampleDevice uuid }

/-- The store that the concrete runs start from. -/
def sampleStore : FleetStateStore := .empty ⟨1⟩ ⟨1⟩

/-- A worker registers and reports the sample device. -/
def sampleReport : List Op :=
  [.registerWorker (sampleRegistration 1 10 1) 1000,
    .ingestSnapshot ⟨1⟩ [sampleObservation 1 10 1] {} 5000]

/-- Two workers register, the first one reports two devices twice, and the second
one a device of its own in between. -/
def sampleFleet : List Op :=
  [.registerWorker (sampleRegistration 1 10 1) 1000,
    .registerWorker (sampleRegistration 2 20 1) 1000,
    .ingestSnapshot ⟨1⟩ [sampleObservationOf "A" 1 10 1, sampleObservationOf "B" 1 10 1] {} 5000,
    .ingestSnapshot ⟨2⟩ [sampleObservationOf "C" 2 20 1] {} 5000,
    .ingestSnapshot ⟨1⟩ [sampleObservationOf "A" 1 10 2, sampleObservationOf "B" 1 10 2] {} 6000]

theorem sampleFleet_not_isRestore : ∀ op ∈ sampleFleet, ¬op.IsRestore := by
  simp [sampleFleet, Op.IsRestore]

/-- Two workers register, and the first one reports the sample device after
the second one did. -/
def sampleSharedReport : List Op :=
  [.registerWorker (sampleRegistration 1 10 1) 1000,
    .registerWorker (sampleRegistration 2 20 1) 1000,
    .ingestSnapshot ⟨2⟩ [sampleObservation 2 20 1] {} 5000,
    .ingestSnapshot ⟨1⟩ [sampleObservation 1 10 5] {} 5000]

end GpuFleet
