import GpuFleet.Fleet.Registration
import GpuFleet.Observation.Pipeline

/-!
# The fleet state store

`fleet/fleet_state.hpp`.  Every public method of `FleetStateStore` takes the
mutex for its whole body, so a method is a function on the state.

A method that returns early does not undo what it did before, so the state
after a call is there on an error branch as well.  `Outcome` holds it next
to the `return` statement that was executed, and it holds two traces that
the source does not keep: the change records the call appended to the log
and the observations it applied to a device.  The log itself forgets
(`kMaxChangeLog`), and a device record keeps the last observation only.

The loop body of `ingest_snapshot` is cut in two.  `gate` decides from the
observation and the generations on file whether the observation is applied,
skipped or refused.  `commit` is the rest of the body.
-/

namespace GpuFleet

/-! ## Records -/

/-- `NodeRecord`. -/
structure NodeRecord where
  node : NodeId := {}
  generation : NodeGeneration := {}
  firstSeen : Timestamp := kInvalidTimestamp
  deriving DecidableEq, Repr

/-- `WorkerRecord`, with the defaults of the source. -/
structure WorkerRecord where
  worker : WorkerId := {}
  boot : WorkerBootId := {}
  registrationGeneration : RegistrationGeneration := {}
  node : NodeId := {}
  agent : AgentId := {}
  agentVersion : SemanticVersion := {}
  protocolVersion : ProtocolVersion := {}
  osPlatform : ByteString := []
  driverVersion : DriverVersion := {}
  deviceIdentities : List ByteString := []
  supportedCapabilities : List ByteString := []
  registeredAt : Timestamp := kInvalidTimestamp
  lastHeartbeat : Timestamp := kInvalidTimestamp
  registeredEpoch : CoordinatorEpoch := {}
  alive : Bool := true
  fenced : Bool := false
  lost : Bool := false
  deriving DecidableEq, Repr

/-- `Accounting`. -/
structure Accounting where
  registeredWorkers : UInt64 := 0
  liveWorkers : UInt64 := 0
  staleWorkers : UInt64 := 0
  devices : UInt64 := 0
  eligibleDevices : UInt64 := 0
  degradedDevices : UInt64 := 0
  quarantinedDevices : UInt64 := 0
  drainedDevices : UInt64 := 0
  activeRegistrations : UInt64 := 0
  acceptedObservations : UInt64 := 0
  deriving DecidableEq, Repr

/-- `StateSnapshot`. -/
structure StateSnapshot where
  coordinator : CoordinatorId := {}
  epoch : CoordinatorEpoch := {}
  fleetGeneration : FleetGeneration := {}
  nodeGeneration : NodeGeneration := {}
  nodes : Map NodeId NodeRecord := ∅
  workers : Map WorkerId WorkerRecord := ∅
  devices : Map ByteString DeviceState := ∅
  changeLog : List ChangeRecord := []
  accounting : Accounting := {}

/-- The members of `FleetStateStore` other than the mutex, with the
initialisers of the class. -/
structure FleetStateStore where
  coord : CoordinatorId
  epoch : CoordinatorEpoch := {}
  fleetGen : FleetGeneration := ⟨1⟩
  nodeGen : NodeGeneration := ⟨1⟩
  nodes : Map NodeId NodeRecord := ∅
  workers : Map WorkerId WorkerRecord := ∅
  devices : Map ByteString DeviceState := ∅
  changeLog : List ChangeRecord := []
  acceptedObservations : UInt64 := 0

/-- One observation that `ingest_snapshot` applied: the key it was filed
under and what the pipeline made of it. -/
structure Application where
  key : ByteString
  obs : DeviceObservation
  outcome : AppliedObservation

/-- What a call leaves behind. -/
structure Outcome (α : Type) where
  /-- The store after the call, on every branch. -/
  store : FleetStateStore
  /-- The `return` statement: a value, or an `error_result`. -/
  result : Except Error α
  /-- The records that the call appended to the change log, in order. -/
  logged : List ChangeRecord := []
  /-- The observations that the call applied, in order. -/
  applied : List Application := []

/-- The call took an `error_result` branch. -/
def Outcome.Failed {α : Type} (out : Outcome α) : Prop := ∃ err, out.result = .error err

/-! ## The change log -/

/-- `kMaxChangeLog`, the length at which the change log drops its oldest record. -/
def kMaxChangeLog : Nat := 10000

/-- `push_back`, then `erase(begin())` when the log is over its bound. -/
def pushChange (log : List ChangeRecord) (c : ChangeRecord) : List ChangeRecord :=
  let log := log ++ [c]
  if log.length > kMaxChangeLog then log.tail else log

/-- Several records, one after the other. -/
def pushChanges (log : List ChangeRecord) (cs : List ChangeRecord) : List ChangeRecord :=
  cs.foldl pushChange log

theorem pushChanges_append (log cs cs' : List ChangeRecord) :
    pushChanges log (cs ++ cs') = pushChanges (pushChanges log cs) cs' :=
  List.foldl_append

namespace FleetStateStore

/-! ## Epoch and registration -/

/-- `roll_epoch`. -/
def rollEpoch (s : FleetStateStore) (ne : CoordinatorEpoch) : Outcome Unit :=
  if ne ≤ s.epoch then
    { store := s, result := .error (errorResult .stale "epoch roll must be strictly forward") }
  else
    { store := { s with epoch := ne, fleetGen := s.fleetGen.next }, result := .ok () }

/-- The record that `register_worker` builds for a new or superseding
incarnation. -/
def newWorkerRecord (reg : Registration) (now : Timestamp) : WorkerRecord where
  worker := reg.worker
  boot := reg.workerBoot
  registrationGeneration := reg.registrationGeneration
  node := reg.node
  agent := ⟨reg.worker.value + 1⟩
  agentVersion := reg.agentVersion
  protocolVersion := reg.protocolVersion
  osPlatform := reg.osPlatform
  driverVersion := reg.driverVersion
  supportedCapabilities := reg.supportedCapabilities
  registeredAt := now
  lastHeartbeat := now
  registeredEpoch := reg.epoch
  alive := true
  deviceIdentities := reg.enumeratedDevices

/-- The end of `register_worker`, for a new worker and for a superseding
incarnation: the record and the node. -/
def installWorker (s : FleetStateStore) (reg : Registration) (now : Timestamp) :
    Outcome RegistrationId where
  store := { s with
    workers := s.workers.insert reg.worker (newWorkerRecord reg now)
    nodes := s.nodes.insertIfNew reg.node ⟨reg.node, ⟨1⟩, now⟩ }
  result := .ok ⟨reg.registrationGeneration.value + 1⟩

/-- `register_worker`. -/
def registerWorker (s : FleetStateStore) (reg : Registration) (now : Timestamp) :
    Outcome RegistrationId :=
  if reg.epoch ≠ s.epoch then
    { store := s
      result := .error {
        code := .stale
        message := text "registration epoch stale (" ++ decimal reg.epoch.value.toNat
          ++ text " != " ++ decimal s.epoch.value.toNat ++ text ")" } }
  else if reg.protocolVersion.value = 0 then
    { store := s, result := .error (errorResult .protocolMismatch "zero protocol version") }
  else match s.workers[reg.worker]? with
  | none => installWorker s reg now
  | some wr =>
    if wr.boot = reg.workerBoot then
      if reg.registrationGeneration ≤ wr.registrationGeneration then
        { store := s, result := .error (errorResult .stale "stale registration generation") }
      else
        { store := { s with
            workers := s.workers.insert reg.worker { wr with
              registrationGeneration := reg.registrationGeneration
              lastHeartbeat := now
              alive := true
              lost := false
              deviceIdentities := reg.enumeratedDevices } }
          result := .ok ⟨reg.registrationGeneration.value + 1⟩ }
    else if !wr.fenced && !wr.lost && wr.alive then
      { store := s
        result := .error
          (errorResult .duplicate "duplicate registration identity already active") }
    else installWorker s reg now

/-! ## Recovery and loss -/

/-- The loop body of `restore`. -/
def restoreDevice (d : DeviceState) : DeviceState :=
  let d := { d with observationFresh := false }
  if d.quarantined then { d with eligibility := .quarantined }
  else if d.drain ≠ .active then { d with eligibility := .draining }
  else { d with eligibility := .stale, eligibilityReasons := [.staleObservation] }

/-- `restore`. -/
def restore (_ : FleetStateStore) (snap : StateSnapshot) : Outcome Unit where
  store := {
    coord := snap.coordinator
    epoch := snap.epoch
    fleetGen := snap.fleetGeneration
    nodeGen := snap.nodeGeneration
    nodes := snap.nodes
    workers := snap.workers
    devices := snap.devices.map (fun _ d => restoreDevice d)
    changeLog := snap.changeLog
    acceptedObservations := 0 }
  result := .ok ()

/-- The loop body of `mark_worker_lost`, for a device that is on file. -/
def loseDevice (d : DeviceState) : DeviceState :=
  let d := { d with observationFresh := false }
  if d.present then
    { d with
      present := false
      health := .lost
      eligibility := .ineligible
      eligibilityReasons := [.workerRestart] }
  else d

/-- `mark_worker_lost`. -/
def markWorkerLost (s : FleetStateStore) (w : WorkerId) (_now : Timestamp) : Outcome Unit :=
  match s.workers[w]? with
  | none => { store := s, result := .ok () }
  | some wr =>
    { store := { s with
        workers := s.workers.insert w { wr with lost := true, alive := false, fenced := true }
        devices := wr.deviceIdentities.foldl (fun m key => m.modify key loseDevice) s.devices }
      result := .ok () }

end FleetStateStore

/-! ## Ingest -/

/-- What the gates read of the record of a device: the incarnation that
reported it last and the generations of that report. -/
structure Stamp where
  sourceWorkerBoot : WorkerBootId
  observationGeneration : ObservationGeneration
  generation : DeviceGeneration
  healthGeneration : HealthGeneration
  deriving DecidableEq

/-- The stamp of the record of a device. -/
def DeviceState.stamp (d : DeviceState) : Stamp :=
  ⟨d.sourceWorkerBoot, d.observationGeneration, d.generation, d.healthGeneration⟩

/-- The stamp that an observation brings. -/
def DeviceObservation.stamp (o : DeviceObservation) : Stamp :=
  ⟨o.sourceWorkerBoot, o.observationGeneration, o.deviceGeneration, o.healthGeneration⟩

/-- The key under which `ingest_snapshot` files an observation. -/
def DeviceObservation.key (o : DeviceObservation) : ByteString :=
  canonicalDeviceIdentity o.identity

/-- How the checks of the ingest loop end: the body goes on, `continue`, or
`return error_result`. -/
inductive Verdict
  | pass
  | skip
  | refuse (err : Error)
  deriving DecidableEq

/-- The checks of the ingest loop, in order.  `prior` is what is on file for
the key of the observation. -/
def gate (epoch : CoordinatorEpoch) (worker : WorkerId) (boot : WorkerBootId)
    (prior : Option Stamp) (o : DeviceObservation) : Verdict :=
  if o.epoch ≠ epoch then
    .refuse (errorResult .stale "stale coordinator epoch in observation")
  else if o.sourceWorkerBoot ≠ boot then
    .refuse (errorResult .stale "stale worker boot id in observation")
  else if o.sourceWorker ≠ worker then
    .refuse (errorResult .identityMismatch "observation worker identity mismatch")
  else match prior with
  | none => .pass
  | some p =>
    if o.sourceWorkerBoot = p.sourceWorkerBoot then
      if o.observationGeneration ≤ p.observationGeneration then .skip
      else if o.deviceGeneration < p.generation then
        .refuse (errorResult .invalidGeneration "stale device generation")
      else if o.healthGeneration < p.healthGeneration then
        .refuse (errorResult .invalidGeneration "stale health generation")
      else .pass
    else .pass

/-- The local variables of the ingest loop, with the two traces. -/
structure IngestState where
  store : FleetStateStore
  seenKeys : List ByteString := []
  last : AppliedObservation := {}
  logged : List ChangeRecord := []
  applied : List Application := []

namespace FleetStateStore

/-- What the pipeline makes of an observation that passed the gates. -/
def applyTo (s : FleetStateStore) (o : DeviceObservation) (policy : ObservationPolicy)
    (now : Timestamp) : AppliedObservation :=
  let applied := applyObservation (s.devices[o.key]?.getD {}) o policy now s.epoch
  { applied with state := { applied.state with healthGeneration := o.healthGeneration } }

/-- The store after the loop body has run on an observation that passed the
gates. -/
def commit (s : FleetStateStore) (worker : WorkerId) (o : DeviceObservation)
    (policy : ObservationPolicy) (now : Timestamp) : FleetStateStore :=
  let applied := s.applyTo o policy now
  { s with
    devices := s.devices.insert o.key applied.state
    changeLog := pushChanges s.changeLog applied.changes
    workers :=
      if s.devices.contains o.key then s.workers
      else s.workers.modify worker
        (fun wr => { wr with deviceIdentities := wr.deviceIdentities ++ [o.key] })
    acceptedObservations := s.acceptedObservations + 1 }

end FleetStateStore

/-- The loop body on an observation that passed the gates, with the local
variables. -/
def IngestState.commit (st : IngestState) (worker : WorkerId) (o : DeviceObservation)
    (policy : ObservationPolicy) (now : Timestamp) : IngestState :=
  let applied := st.store.applyTo o policy now
  { store := st.store.commit worker o policy now
    seenKeys := o.key :: st.seenKeys
    last := applied
    logged := st.logged ++ applied.changes
    applied := st.applied ++ [⟨o.key, o, applied⟩] }

namespace FleetStateStore

/-- What is on file for a device key. -/
def stampOf (s : FleetStateStore) (key : ByteString) : Option Stamp :=
  s.devices[key]?.map DeviceState.stamp

/-- The loop over the observations.  An error leaves what was committed
before it. -/
def ingestLoop (worker : WorkerId) (boot : WorkerBootId) (policy : ObservationPolicy)
    (now : Timestamp) : List DeviceObservation → IngestState → IngestState × Except Error Unit
  | [], st => (st, .ok ())
  | o :: rest, st =>
    match gate st.store.epoch worker boot (st.store.stampOf o.key) o with
    | .refuse err => (st, .error err)
    | .skip => ingestLoop worker boot policy now rest st
    | .pass => ingestLoop worker boot policy now rest (st.commit worker o policy now)

/-- The record of a device that its worker no longer reports. -/
def disappearedRecord (d : DeviceState) (epoch : CoordinatorEpoch) (now : Timestamp) :
    ChangeRecord :=
  ⟨.deviceDisappeared, d.deviceId, now, d.generation, epoch,
    text "device no longer reported by worker", text "present", text "absent"⟩

/-- The state of a device that its worker no longer reports. -/
def disappearDevice (d : DeviceState) : DeviceState :=
  { d with
    present := false
    observationFresh := false
    health := .lost
    eligibility := .ineligible
    eligibilityReasons := [.deviceDisappearance] }

/-- The store after the disappearance loop has found the device `d` on file
under a key that the batch did not bring. -/
def markDisappeared (s : FleetStateStore) (key : ByteString) (d : DeviceState)
    (now : Timestamp) : FleetStateStore :=
  { s with
    devices := s.devices.insert key (disappearDevice d)
    changeLog := pushChange s.changeLog (disappearedRecord d s.epoch now) }

/-- The body of the disappearance loop. -/
def disappear (seen : List ByteString) (now : Timestamp) (st : IngestState) (key : ByteString) :
    IngestState :=
  if key ∈ seen then st
  else match st.store.devices[key]? with
  | none => st
  | some d =>
    { st with
      store := st.store.markDisappeared key d now
      logged := st.logged ++ [disappearedRecord d st.store.epoch now] }

/-- The end of `ingest_snapshot`: `wr.last_heartbeat = now; wr.alive = true;`. -/
def touchWorker (s : FleetStateStore) (worker : WorkerId) (now : Timestamp) : FleetStateStore :=
  { s with
    workers := s.workers.modify worker (fun wr => { wr with lastHeartbeat := now, alive := true }) }

/-- `ingest_snapshot` after the loop over the observations.  The list of
owned keys is read here, when the loop may have extended it. -/
def finishIngest (st : IngestState) (worker : WorkerId) (now : Timestamp) :
    Outcome AppliedObservation :=
  let owned := (st.store.workers[worker]?.map WorkerRecord.deviceIdentities).getD []
  let st := owned.foldl (disappear st.seenKeys now) st
  { store := st.store.touchWorker worker now
    result := .ok st.last
    logged := st.logged
    applied := st.applied }

/-- `ingest_snapshot`. -/
def ingestSnapshot (s : FleetStateStore) (worker : WorkerId) (obs : List DeviceObservation)
    (policy : ObservationPolicy) (now : Timestamp) : Outcome AppliedObservation :=
  match s.workers[worker]? with
  | none => { store := s, result := .error (errorResult .notFound "unregistered worker") }
  | some wr =>
    if wr.lost || wr.fenced then
      { store := s, result := .error (errorResult .notAuthoritative "worker is fenced/lost") }
    else match ingestLoop worker wr.boot policy now obs { store := s } with
    | (st, .error err) =>
      { store := st.store, result := .error err, logged := st.logged, applied := st.applied }
    | (st, .ok ()) => finishIngest st worker now

/-! ## Heartbeat and administration -/

/-- `heartbeat`. -/
def heartbeat (s : FleetStateStore) (worker : WorkerId) (boot : WorkerBootId)
    (epoch : CoordinatorEpoch) (now : Timestamp) (_hg : HealthGeneration) : Outcome Unit :=
  if epoch ≠ s.epoch then
    { store := s, result := .error (errorResult .stale "stale heartbeat epoch") }
  else match s.workers[worker]? with
  | none => { store := s, result := .error (errorResult .notFound "unregistered worker") }
  | some wr =>
    if wr.boot ≠ boot then
      { store := s, result := .error (errorResult .stale "stale heartbeat boot id") }
    else
      { store := { s with
          workers := s.workers.insert worker
            { wr with lastHeartbeat := now, alive := true, lost := false } }
        result := .ok () }

/-- `recompute_device_eligibility`. -/
def recomputeDeviceEligibility (d : DeviceState) : DeviceState :=
  let elig := evaluateEligibility {
    health := d.health
    observationFresh := d.observationFresh
    observedGeneration := d.generation
    currentGeneration := d.generation
    drainActive := decide (d.drain ≠ .active)
    quarantine := d.quarantined
    devicePresent := d.present
    cudaAvailable := d.coreValidationOk && d.present
    availableMemory := d.freeMemory
    requiredMemory := 0 }
  { d with eligibility := elig.state, eligibilityReasons := elig.reasons }

/-- `set_drain`. -/
def setDrain (s : FleetStateStore) (_w : WorkerId) (identity : ByteString) (d : DrainState)
    (now : Timestamp) : Outcome Unit :=
  match s.devices[identity]? with
  | none => { store := s, result := .error (errorResult .notFound "device not found") }
  | some dev =>
    if dev.drain = d then { store := s, result := .ok () }
    else
      let kind : ChangeKind :=
        if d.toByte ≥ DrainState.draining.toByte then .drainInitiated else .drainCompleted
      let cr : ChangeRecord := ⟨kind, dev.deviceId, now, dev.generation, s.epoch,
        text "drain state changed", dev.drain.toText, d.toText⟩
      { store := { s with
          devices := s.devices.insert identity (recomputeDeviceEligibility { dev with drain := d })
          changeLog := pushChange s.changeLog cr }
        result := .ok ()
        logged := [cr] }

/-- `set_quarantine`. -/
def setQuarantine (s : FleetStateStore) (_w : WorkerId) (identity : ByteString)
    (q : QuarantineRecord) (now : Timestamp) : Outcome Unit :=
  match s.devices[identity]? with
  | none => { store := s, result := .error (errorResult .notFound "device not found") }
  | some dev =>
    if q.generation < dev.generation then
      { store := s
        result := .error (errorResult .invalidGeneration "stale quarantine generation") }
    else
      let devices := s.devices.insert identity
        (recomputeDeviceEligibility { dev with quarantined := true, quarantine := q })
      if dev.quarantined then { store := { s with devices := devices }, result := .ok () }
      else
        let cr : ChangeRecord := ⟨.quarantineApplied, dev.deviceId, now, dev.generation, s.epoch,
          q.reason, text "false", text "true"⟩
        { store := { s with devices := devices, changeLog := pushChange s.changeLog cr }
          result := .ok ()
          logged := [cr] }

/-- `clear_quarantine`. -/
def clearQuarantine (s : FleetStateStore) (_w : WorkerId) (identity : ByteString)
    (epoch : CoordinatorEpoch) (now : Timestamp) : Outcome Unit :=
  if epoch ≠ s.epoch then
    { store := s, result := .error (errorResult .stale "stale epoch in clear") }
  else match s.devices[identity]? with
  | none => { store := s, result := .error (errorResult .notFound "device not found") }
  | some dev =>
    if !dev.quarantined then
      { store := s, result := .error (errorResult .notFound "device not quarantined") }
    else
      let cr : ChangeRecord := ⟨.quarantineCleared, dev.deviceId, now, dev.generation, s.epoch,
        text "quarantine cleared", text "true", text "false"⟩
      { store := { s with
          devices := s.devices.insert identity
            (recomputeDeviceEligibility { dev with quarantined := false, quarantine := {} })
          changeLog := pushChange s.changeLog cr }
        result := .ok ()
        logged := [cr] }

/-! ## Reading -/

/-- The body of the first loop of `recompute_accounting_locked`. -/
def countWorker (a : Accounting) (wr : WorkerRecord) : Accounting :=
  let live := wr.alive && !wr.lost && !wr.fenced
  { a with
    registeredWorkers := a.registeredWorkers + 1
    liveWorkers := if live then a.liveWorkers + 1 else a.liveWorkers
    staleWorkers :=
      if wr.lost || wr.fenced || !wr.alive then a.staleWorkers + 1 else a.staleWorkers
    activeRegistrations :=
      if live then a.activeRegistrations + 1 else a.activeRegistrations }

/-- The body of the second loop of `recompute_accounting_locked`. -/
def countDevice (a : Accounting) (d : DeviceState) : Accounting :=
  let a := { a with devices := a.devices + 1 }
  match d.eligibility with
  | .eligible => { a with eligibleDevices := a.eligibleDevices + 1 }
  | .degradedEligible => { a with degradedDevices := a.degradedDevices + 1 }
  | .quarantined => { a with quarantinedDevices := a.quarantinedDevices + 1 }
  | .draining => { a with drainedDevices := a.drainedDevices + 1 }
  | _ => a

/-- `recompute_accounting_locked`. -/
def accounting (s : FleetStateStore) : Accounting :=
  let a := s.workers.foldl (fun a _ wr => countWorker a wr) {}
  let a := s.devices.foldl (fun a _ d => countDevice a d) a
  { a with acceptedObservations := s.acceptedObservations }

/-- `snapshot`. -/
def snapshot (s : FleetStateStore) : StateSnapshot where
  coordinator := s.coord
  epoch := s.epoch
  fleetGeneration := s.fleetGen
  nodeGeneration := s.nodeGen
  nodes := s.nodes
  workers := s.workers
  devices := s.devices
  changeLog := s.changeLog
  accounting := s.accounting

end FleetStateStore

end GpuFleet
