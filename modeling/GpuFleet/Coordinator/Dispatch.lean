import GpuFleet.Fleet.Operations
import GpuFleet.Persistence.Store
import GpuFleet.Protocol.AdminPayload
import GpuFleet.Protocol.Message

/-!
# The coordinator

`Coordinator::dispatch` of `coordinator/coordinator.cpp`, with `save_state`
and `respond_ack`.  A dispatch is one step: it answers with the message that
goes to `send_message`, and it leaves the coordinator with a new store or a
new state file.

A handler tests the `Result` of the store method it calls.  For a method
that returns `Result<void>` that is a `ResultVoid`, and `answerVoid` is what
all of those handlers do with it.  `Dispatched` holds, next to the reply,
the `return` statement that the method executed, which is not on the wire.

A run of the coordinator is a list of events: messages, in any order and
from any number of connections, losses that a closing connection or the
liveness loop reports, and recoveries from a state file.
-/

namespace GpuFleet

/-- `Coordinator::Options`, without the listening address. -/
structure Options where
  stateFile : ByteString := []
  coordinatorId : CoordinatorId := ⟨1⟩
  initialEpoch : CoordinatorEpoch := ⟨1⟩
  heartbeatTimeoutMs : DurationMs := 5000

/-- The members of `Coordinator` that a dispatch reads and writes, and the
file system. -/
structure Coordinator where
  opts : Options
  store : FleetStateStore
  disk : Disk

/-- What a dispatch leaves behind. -/
structure Dispatched where
  coordinator : Coordinator
  /-- The message that is sent back. -/
  reply : Message
  /-- The `return` statement of the store method or of the save, when the
  handler gets as far as calling it. -/
  verdict : Option (Except Error Unit) := none
  /-- The records that the call appended to the change log. -/
  logged : List ChangeRecord := []

namespace Coordinator

/-! ## Replies -/

/-- `respond_ack`. -/
def respondAck (c : Coordinator) (req : Message) (ok : Bool) (reason : ByteString) : Message where
  type := if ok then .ack else .error
  ok := ok
  reason := reason
  requestId := req.requestId
  epoch := c.store.epoch
  workerBoot := req.workerBoot
  worker := req.worker

/-- A payload that does not decode is answered without a call. -/
def malformed (c : Coordinator) (msg : Message) (reason : ByteString) : Dispatched where
  coordinator := c
  reply := c.respondAck msg false reason

/-- `if (!r.ok()) { respond_ack(false, r.error().message); return; }
respond_ack(true, "");` for a `Result<void>`. -/
def respondVoid (c : Coordinator) (msg : Message) (returned : Except Error Unit) : Message :=
  let r := ResultVoid.ofReturn returned
  if !r.ok then c.respondAck msg false r.error.message else c.respondAck msg true []

/-- A handler around a store method that returns `Result<void>`. -/
def answerVoid (c : Coordinator) (msg : Message) (out : Outcome Unit) : Dispatched :=
  let c := { c with store := out.store }
  { coordinator := c
    reply := c.respondVoid msg out.result
    verdict := some out.result
    logged := out.logged }

/-! ## Handlers -/

/-- The REGISTER handler. -/
def handleRegister (c : Coordinator) (now : Timestamp) (msg : Message) : Dispatched :=
  match decodeRegistration msg.payload with
  | .error err => c.malformed msg (text "malformed registration: " ++ err.message)
  | .ok reg =>
    let out := c.store.registerWorker reg now
    let c := { c with store := out.store }
    match out.result with
    | .error err =>
      { coordinator := c
        reply := c.respondAck msg false (text "registration rejected: " ++ err.message)
        verdict := some (.error err) }
    | .ok _ =>
      { coordinator := c
        reply := {
          type := .registerAck
          requestId := msg.requestId
          workerBoot := reg.workerBoot
          worker := reg.worker
          epoch := c.store.epoch
          ok := true
          payload := ByteWriter.u64 reg.registrationGeneration.value
            ++ ByteWriter.u64 c.store.epoch.value }
        verdict := some (.ok ()) }

/-- The handler of DEVICE_SNAPSHOT, HEALTH_REPORT and CAPABILITY_REPORT. -/
def handleReport (c : Coordinator) (now : Timestamp) (msg : Message) : Dispatched :=
  match decodeObservationBatch msg.payload with
  | .error _ => c.malformed msg (text "malformed observation batch")
  | .ok obs =>
    let out := c.store.ingestSnapshot msg.worker obs {} now
    let c := { c with store := out.store }
    { coordinator := c
      reply := match out.result with
        | .error err => c.respondAck msg false err.message
        | .ok _ => c.respondAck msg true []
      verdict := some (out.result.map fun _ => ())
      logged := out.logged }

/-- The HEARTBEAT handler. -/
def handleHeartbeat (c : Coordinator) (now : Timestamp) (msg : Message) : Dispatched :=
  if !msg.workerBoot.isZero || !msg.worker.isZero then
    c.answerVoid msg (c.store.heartbeat msg.worker msg.workerBoot msg.epoch now msg.healthGen)
  else { coordinator := c, reply := c.respondAck msg true [] }

/-- The worker that a handler passes along with a device: the first one in
key order, other than worker 0, whose record lists the device. -/
def ownerOf (s : FleetStateStore) (identity : ByteString) : WorkerId :=
  ((s.workers.toList.find? fun entry =>
    decide (identity ∈ entry.2.deviceIdentities) && !entry.1.isZero).map Prod.fst).getD {}

/-- The handler of DRAIN and UNDRAIN. -/
def handleDrain (c : Coordinator) (now : Timestamp) (msg : Message) : Dispatched :=
  match decodeDrainTarget msg.payload with
  | .error _ => c.malformed msg (text "malformed drain target")
  | .ok t =>
    c.answerVoid msg (c.store.setDrain (ownerOf c.store t.identity) t.identity t.level now)

/-- The record that the QUARANTINE handler builds. -/
def quarantineRecord (c : Coordinator) (q : QuarantineTarget) (now : Timestamp) :
    QuarantineRecord where
  reason := q.reason
  source := q.source
  generation := q.generation
  atTime := now
  authority := c.store.epoch

/-- The QUARANTINE handler. -/
def handleQuarantine (c : Coordinator) (now : Timestamp) (msg : Message) : Dispatched :=
  match decodeQuarantine msg.payload with
  | .error _ => c.malformed msg (text "malformed quarantine")
  | .ok q =>
    c.answerVoid msg (c.store.setQuarantine (ownerOf c.store q.identity) q.identity
      (c.quarantineRecord q now) now)

/-- The CLEAR_QUARANTINE handler. -/
def handleClearQuarantine (c : Coordinator) (now : Timestamp) (msg : Message) : Dispatched :=
  match decodeIdentityTarget msg.payload with
  | .error _ => c.malformed msg (text "malformed clear target")
  | .ok identity => c.answerVoid msg (c.store.clearQuarantine {} identity c.store.epoch now)

/-- `save_state`. -/
def saveState (c : Coordinator) (io : FileOutcomes) : SaveRun :=
  if c.opts.stateFile.isEmpty then
    ⟨[], .error (errorResult .unsupported "no state_file configured")⟩
  else saveSnapshot c.disk c.opts.stateFile c.store.snapshot io

/-- The SAVE handler. -/
def handleSave (c : Coordinator) (io : FileOutcomes) (msg : Message) : Dispatched :=
  let run := c.saveState io
  let c := { c with disk := run.disk c.disk }
  { coordinator := c, reply := c.respondVoid msg run.result, verdict := some run.result }

/-- `dispatch`.  `now` is the reading of the clock at its start, and `io` is
what the file system does if the message is a SAVE. -/
def dispatch (c : Coordinator) (now : Timestamp) (io : FileOutcomes) (msg : Message) :
    Dispatched :=
  match msg.type with
  | .hello =>
    { coordinator := c
      reply := {
        type := .ack
        epoch := c.store.epoch
        coordinator := c.opts.coordinatorId
        requestId := msg.requestId
        ok := true } }
  | .register => c.handleRegister now msg
  | .heartbeat => c.handleHeartbeat now msg
  | .deviceSnapshot | .healthReport | .capabilityReport => c.handleReport now msg
  | .snapshotRequest =>
    { coordinator := c
      reply := {
        type := .snapshotResponse
        requestId := msg.requestId
        epoch := c.store.epoch
        payload := encodeSnapshot c.store.snapshot
        ok := true } }
  | .drain | .undrain => c.handleDrain now msg
  | .quarantine => c.handleQuarantine now msg
  | .clearQuarantine => c.handleClearQuarantine now msg
  | .epochRoll => c.answerVoid msg (c.store.rollEpoch msg.epoch)
  | .save => c.handleSave io msg
  | .ack | .error | .registerAck | .snapshotResponse =>
    c.malformed msg (text "unexpected message type")

/-! ## Runs -/

/-- A step of the coordinator process. -/
inductive Event
  | message (now : Timestamp) (io : FileOutcomes) (msg : Message)
  /-- The end of `handle_connection`, or a timeout in `liveness_loop`. -/
  | workerLost (w : WorkerId) (now : Timestamp)
  /-- The `restore` of `load_state`, for whatever the state file held. -/
  | recover (snap : StateSnapshot)

/-- A message, a reported loss or a recovery. -/
def step (c : Coordinator) : Event → Coordinator
  | .message now io msg => (c.dispatch now io msg).coordinator
  | .workerLost w now => { c with store := (c.store.markWorkerLost w now).store }
  | .recover snap => { c with store := (c.store.restore snap).store }

/-- A coordinator that was just constructed. -/
def create (opts : Options) (disk : Disk) : Coordinator where
  opts := opts
  store := .empty opts.coordinatorId opts.initialEpoch
  disk := disk

/-- Messages, losses and recoveries, one after the other. -/
def run (c : Coordinator) (events : List Event) : Coordinator := Run.run step c events

/-- A worker registers and reports the sample device. -/
def sampleSession : List Event :=
  [.message 1000 {} { type := .register, payload := encodeRegistration (sampleRegistration 1 10 1) },
    .message 5000 {}
      { type := .deviceSnapshot
        epoch := ⟨1⟩
        workerBoot := ⟨10⟩
        worker := ⟨1⟩
        payload := encodeObservationBatch [sampleObservation 1 10 1] }]

end Coordinator

end GpuFleet
