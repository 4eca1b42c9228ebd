import GpuFleet.Coordinator.Calls
import GpuFleet.Coordinator.Deliverable
import GpuFleet.Lib.Sections

/-!
# The critical sections of a dispatch

Every method of the store takes its lock once, and `dispatch` calls several of
them, with other threads in between.  The handler of SNAPSHOT_REQUEST takes the
snapshot and then reads the epoch, the handler of CLEAR_QUARANTINE reads the
epoch and then makes its call, and `respond_ack` reads the epoch in all cases.

`dispatchSections` is the dispatch as a program of such sections, in the order
of the source.  `finish_dispatchSections` says that `Coordinator.dispatch` is
what they come to if nothing happens in between.  Whatever happens, the reply
is one to the message (`every_dispatchSections`), and one of the sections at
most changes the store (`once_dispatchSections`).
-/

namespace GpuFleet

/-- What a thread does under the lock of the store: it reads, or it makes a call
that can change the store. -/
inductive Section
  | look
  | call (op : Op)

namespace Section

/-- The store after the section. -/
def apply : Section → FleetStateStore → FleetStateStore
  | .look, s => s
  | .call op, s => s.step op

/-- The section only reads. -/
def IsLook : Section → Prop
  | .look => True
  | .call _ => False

/-- The section reads, or it makes a call that marks no worker lost. -/
def Lossless : Section → Prop
  | .look => True
  | .call op => ¬op.IsLoss

theorem IsLook.lossless {a : Section} (h : a.IsLook) : a.Lossless := by
  cases a with
  | look => trivial
  | call op => cases h

theorem apply_of_isLook {a : Section} (h : a.IsLook) (s : FleetStateStore) : a.apply s = s := by
  cases a with
  | look => rfl
  | call op => cases h

end Section

/-- What is left of a dispatch, up to the message that goes to `send_message`. -/
abbrev Sections := Script FleetStateStore Section Message

/-- All sections read but one, maybe, and its call marks no worker lost. -/
def Sections.CallsOnce (script : Sections) : Prop :=
  script.Once Section.IsLook Section.Lossless

namespace Coordinator

/-! ## Handlers -/

/-- `respond_ack`. -/
def ackSections (req : Message) (ok : Bool) (reason : ByteString) : Sections :=
  .access .look fun s => .done {
    type := if ok then .ack else .error
    ok := ok
    reason := reason
    requestId := req.requestId
    epoch := s.epoch
    workerBoot := req.workerBoot
    worker := req.worker }

/-- `respond_ack` on a `Result<void>`. -/
def voidSections (msg : Message) (returned : Except Error Unit) : Sections :=
  let r := ResultVoid.ofReturn returned
  if !r.ok then ackSections msg false r.error.message else ackSections msg true []

/-- A call of a store method that returns `Result<void>`, and its answer. -/
def callSections (msg : Message) (op : Op) : Sections :=
  .access (.call op) fun s => voidSections msg (s.exec op).result

/-- The REGISTER handler. -/
def registerSections (now : Timestamp) (msg : Message) : Sections :=
  match decodeRegistration msg.payload with
  | .error err => ackSections msg false (text "malformed registration: " ++ err.message)
  | .ok reg =>
    .access (.call (.registerWorker reg now)) fun s =>
      match (s.registerWorker reg now).result with
      | .error err => ackSections msg false (text "registration rejected: " ++ err.message)
      | .ok _ =>
        .access .look fun s =>
          let epoch := s.epoch
          .access .look fun s => .done {
            type := .registerAck
            requestId := msg.requestId
            workerBoot := reg.workerBoot
            worker := reg.worker
            epoch := epoch
            ok := true
            payload := ByteWriter.u64 reg.registrationGeneration.value
              ++ ByteWriter.u64 s.epoch.value }

/-- The handler of DEVICE_SNAPSHOT, HEALTH_REPORT and CAPABILITY_REPORT. -/
def reportSections (now : Timestamp) (msg : Message) : Sections :=
  match decodeObservationBatch msg.payload with
  | .error _ => ackSections msg false (text "malformed observation batch")
  | .ok obs =>
    .access (.call (.ingestSnapshot msg.worker obs {} now)) fun s =>
      match (s.ingestSnapshot msg.worker obs {} now).result with
      | .error err => ackSections msg false err.message
      | .ok _ => ackSections msg true []

/-- The HEARTBEAT handler. -/
def heartbeatSections (now : Timestamp) (msg : Message) : Sections :=
  if !msg.workerBoot.isZero || !msg.worker.isZero then
    callSections msg (.heartbeat msg.worker msg.workerBoot msg.epoch now msg.healthGen)
  else ackSections msg true []

/-- The handler of DRAIN and UNDRAIN.  The owner is looked up in a snapshot. -/
def drainSections (now : Timestamp) (msg : Message) : Sections :=
  match decodeDrainTarget msg.payload with
  | .error _ => ackSections msg false (text "malformed drain target")
  | .ok t =>
    .access .look fun s =>
      callSections msg (.setDrain (ownerOf s t.identity) t.identity t.level now)

/-- The QUARANTINE handler. -/
def quarantineSections (now : Timestamp) (msg : Message) : Sections :=
  match decodeQuarantine msg.payload with
  | .error _ => ackSections msg false (text "malformed quarantine")
  | .ok q =>
    .access .look fun s =>
      let owner := ownerOf s q.identity
      .access .look fun s => callSections msg (.setQuarantine owner q.identity {
        reason := q.reason
        source := q.source
        generation := q.generation
        atTime := now
        authority := s.epoch } now)

/-- The CLEAR_QUARANTINE handler. -/
def clearQuarantineSections (now : Timestamp) (msg : Message) : Sections :=
  match decodeIdentityTarget msg.payload with
  | .error _ => ackSections msg false (text "malformed clear target")
  | .ok identity =>
    .access .look fun s => callSections msg (.clearQuarantine {} identity s.epoch now)

/-- The SAVE handler.  What `save_snapshot` returns does not depend on the disk. -/
def saveSections (opts : Options) (io : FileOutcomes) (msg : Message) : Sections :=
  if opts.stateFile.isEmpty then
    voidSections msg (.error (errorResult .unsupported "no state_file configured"))
  else
    .access .look fun s =>
      voidSections msg (saveSnapshot (fun _ => none) opts.stateFile s.snapshot io).result

/-- `dispatch`. -/
def dispatchSections (opts : Options) (now : Timestamp) (io : FileOutcomes) (msg : Message) :
    Sections :=
  match msg.type with
  | .hello =>
    .access .look fun s => .done {
      type := .ack
      epoch := s.epoch
      coordinator := opts.coordinatorId
      requestId := msg.requestId
      ok := true }
  | .register => registerSections now msg
  | .heartbeat => heartbeatSections now msg
  | .deviceSnapshot | .healthReport | .capabilityReport => reportSections now msg
  | .snapshotRequest =>
    .access .look fun s =>
      let snap := s.snapshot
      .access .look fun s => .done {
        type := .snapshotResponse
        requestId := msg.requestId
        epoch := s.epoch
        payload := encodeSnapshot snap
        ok := true }
  | .drain | .undrain => drainSections now msg
  | .quarantine => quarantineSections now msg
  | .clearQuarantine => clearQuarantineSections now msg
  | .epochRoll => callSections msg (.rollEpoch msg.epoch)
  | .save => saveSections opts io msg
  | .ack | .error | .registerAck | .snapshotResponse =>
    ackSections msg false (text "unexpected message type")

/-! ## Without interruption -/

theorem finish_voidSections (c : Coordinator) (msg : Message) (returned : Except Error Unit) :
    (voidSections msg returned).finish Section.apply c.store
      = (c.store, c.respondVoid msg returned) := by
  unfold voidSections respondVoid
  dsimp only
  split
  · rfl
  · rfl

theorem finish_callSections (c : Coordinator) (msg : Message) (op : Op) :
    (callSections msg op).finish Section.apply c.store
      = ((c.answerVoid msg (c.store.exec op)).coordinator.store,
        (c.answerVoid msg (c.store.exec op)).reply) :=
  finish_voidSections { c with store := (c.store.exec op).store } msg (c.store.exec op).result

theorem finish_registerSections (c : Coordinator) (now : Timestamp) (msg : Message) :
    (registerSections now msg).finish Section.apply c.store
      = ((c.handleRegister now msg).coordinator.store, (c.handleRegister now msg).reply) := by
  unfold registerSections handleRegister
  cases decodeRegistration msg.payload with
  | error err => rfl
  | ok reg =>
    dsimp only [Script.finish]
    cases (c.store.registerWorker reg now).result with
    | error err => rfl
    | ok id => rfl

theorem finish_reportSections (c : Coordinator) (now : Timestamp) (msg : Message) :
    (reportSections now msg).finish Section.apply c.store
      = ((c.handleReport now msg).coordinator.store, (c.handleReport now msg).reply) := by
  unfold reportSections handleReport
  cases decodeObservationBatch msg.payload with
  | error err => rfl
  | ok obs =>
    dsimp only [Script.finish]
    cases (c.store.ingestSnapshot msg.worker obs {} now).result with
    | error err => rfl
    | ok applied => rfl

theorem finish_heartbeatSections (c : Coordinator) (now : Timestamp) (msg : Message) :
    (heartbeatSections now msg).finish Section.apply c.store
      = ((c.handleHeartbeat now msg).coordinator.store, (c.handleHeartbeat now msg).reply) := by
  unfold heartbeatSections handleHeartbeat
  split
  · exact finish_callSections c msg _
  · rfl

theorem finish_drainSections (c : Coordinator) (now : Timestamp) (msg : Message) :
    (drainSections now msg).finish Section.apply c.store
      = ((c.handleDrain now msg).coordinator.store, (c.handleDrain now msg).reply) := by
  unfold drainSections handleDrain
  cases decodeDrainTarget msg.payload with
  | error err => rfl
  | ok t => exact finish_callSections c msg _

theorem finish_quarantineSections (c : Coordinator) (now : Timestamp) (msg : Message) :
    (quarantineSections now msg).finish Section.apply c.store
      = ((c.handleQuarantine now msg).coordinator.store, (c.handleQuarantine now msg).reply) := by
  unfold quarantineSections handleQuarantine
  cases decodeQuarantine msg.payload with
  | error err => rfl
  | ok q => exact finish_callSections c msg _

theorem finish_clearQuarantineSections (c : Coordinator) (now : Timestamp) (msg : Message) :
    (clearQuarantineSections now msg).finish Section.apply c.store
      = ((c.handleClearQuarantine now msg).coordinator.store,
        (c.handleClearQuarantine now msg).reply) := by
  unfold clearQuarantineSections handleClearQuarantine
  cases decodeIdentityTarget msg.payload with
  | error err => rfl
  | ok identity => exact finish_callSections c msg _

/-- What `save_snapshot` returns depends on how its calls end, whatever is on the
disk. -/
theorem result_saveSnapshot (disk disk' : Disk) (path : ByteString) (s : StateSnapshot)
    (io : FileOutcomes) :
    (saveSnapshot disk path s io).result = (saveSnapshot disk' path s io).result := by
  have hreplace : ∀ disk disk' : Disk, ∀ tmp,
      (replaceFile disk tmp path io).result = (replaceFile disk' tmp path io).result := by
    intro disk disk' tmp
    unfold replaceFile
    dsimp only
    split_ifs <;> rfl
  unfold saveSnapshot
  dsimp only
  by_cases hopen : (!io.opened) = true
  · rw [if_pos hopen, if_pos hopen]
  · rw [if_neg hopen, if_neg hopen]
    split
    · rfl
    · exact hreplace _ _ _

theorem finish_saveSections (c : Coordinator) (io : FileOutcomes) (msg : Message) :
    (saveSections c.opts io msg).finish Section.apply c.store
      = ((c.handleSave io msg).coordinator.store, (c.handleSave io msg).reply) := by
  unfold saveSections handleSave saveState
  split
  · exact finish_voidSections c msg _
  · rw [Script.finish, Section.apply, result_saveSnapshot (fun _ => none) c.disk]
    exact finish_voidSections c msg _

/-- The coordinator with another store. -/
def withStore (c : Coordinator) (s : FleetStateStore) : Coordinator := { c with store := s }

/-- If nothing happens between its sections, a dispatch is what it comes to. -/
theorem finish_dispatchSections (c : Coordinator) (now : Timestamp) (io : FileOutcomes)
    (msg : Message) :
    (dispatchSections c.opts now io msg).finish Section.apply c.store
      = ((c.dispatch now io msg).coordinator.store, (c.dispatch now io msg).reply) := by
  unfold dispatchSections dispatch
  cases msg.type with
  | register => exact c.finish_registerSections now msg
  | heartbeat => exact c.finish_heartbeatSections now msg
  | deviceSnapshot => exact c.finish_reportSections now msg
  | healthReport => exact c.finish_reportSections now msg
  | capabilityReport => exact c.finish_reportSections now msg
  | drain => exact c.finish_drainSections now msg
  | undrain => exact c.finish_drainSections now msg
  | quarantine => exact c.finish_quarantineSections now msg
  | clearQuarantine => exact c.finish_clearQuarantineSections now msg
  | epochRoll => exact c.finish_callSections msg (.rollEpoch msg.epoch)
  | save => exact c.finish_saveSections io msg
  | _ => rfl

/-! ## With anything in between -/

/-- What is known of a reply to a message. -/
structure ReplyTo (msg reply : Message) : Prop where
  answers : reply.Answers msg
  acked : reply.type = .registerAck → msg.type = .register

section Replies

variable {msg : Message}

theorem every_ackSections (msg : Message) (ok : Bool) {reason : ByteString}
    (h : reason.length ≤ 256) : (ackSections msg ok reason).Every (ReplyTo msg) := by
  intro s
  refine ⟨⟨rfl, ?_, h, fun _ => Nat.zero_le 16⟩, ?_⟩
  · cases ok <;> simp [replyTypes]
  · cases ok <;> exact fun h => MessageType.noConfusion h

theorem every_voidSections (msg : Message) (returned : Except Error Unit) :
    (voidSections msg returned).Every (ReplyTo msg) := by
  unfold voidSections
  simp only [ResultVoid.ofReturn_ok, Bool.not_true, Bool.false_eq_true, if_false]
  exact every_ackSections msg true (by decide)

theorem every_callSections (msg : Message) (op : Op) :
    (callSections msg op).Every (ReplyTo msg) :=
  fun s => every_voidSections msg (s.exec op).result

theorem every_registerSections (now : Timestamp) (htype : msg.type = .register) :
    (registerSections now msg).Every (ReplyTo msg) := by
  have hmalformed : (text "malformed registration: ").length = 24 := by decide
  have hrejected : (text "registration rejected: ").length = 23 := by decide
  unfold registerSections
  split
  · next err hdecode =>
    have hbrief := brief_of_decode fails_registration hdecode
    unfold Error.Brief at hbrief
    apply every_ackSections
    rw [List.length_append]
    omega
  · next reg hdecode =>
    intro s
    dsimp only
    split
    · next err hresult =>
      have hbrief := FleetStateStore.brief_registerWorker hresult
      unfold Error.Brief at hbrief
      apply every_ackSections
      rw [List.length_append]
      omega
    · intro s' s''
      exact ⟨⟨rfl, by simp [replyTypes], Nat.zero_le 256, fun _ => by simp⟩, fun _ => htype⟩

theorem every_reportSections (now : Timestamp) (msg : Message) :
    (reportSections now msg).Every (ReplyTo msg) := by
  unfold reportSections
  split
  · exact every_ackSections msg false (by decide)
  · intro s
    dsimp only
    split
    · next err hresult =>
      have hbrief := FleetStateStore.brief_ingestSnapshot hresult
      unfold Error.Brief at hbrief
      apply every_ackSections
      omega
    · exact every_ackSections msg true (by decide)

theorem every_drainSections (now : Timestamp) (msg : Message) :
    (drainSections now msg).Every (ReplyTo msg) := by
  unfold drainSections
  split
  · exact every_ackSections msg false (by decide)
  · exact fun s => every_callSections msg _

end Replies

/-- However the sections of a dispatch are interrupted, its result is a reply to the
message. -/
theorem every_dispatchSections (opts : Options) (now : Timestamp) (io : FileOutcomes)
    (msg : Message) : (dispatchSections opts now io msg).Every (ReplyTo msg) := by
  unfold dispatchSections
  split
  · intro s
    exact ⟨⟨rfl, by simp [replyTypes], Nat.zero_le 256, fun _ => Nat.zero_le 16⟩,
      fun h => MessageType.noConfusion h⟩
  · next htype => exact every_registerSections now htype
  · unfold heartbeatSections
    split
    · exact every_callSections msg _
    · exact every_ackSections msg true (by decide)
  · exact every_reportSections now msg
  · exact every_reportSections now msg
  · exact every_reportSections now msg
  · next htype =>
    intro s s'
    exact ⟨⟨rfl, by simp [replyTypes], Nat.zero_le 256, fun hother => absurd htype hother⟩,
      fun h => MessageType.noConfusion h⟩
  · exact every_drainSections now msg
  · exact every_drainSections now msg
  · unfold quarantineSections
    split
    · exact every_ackSections msg false (by decide)
    · exact fun s s' => every_callSections msg _
  · unfold clearQuarantineSections
    split
    · exact every_ackSections msg false (by decide)
    · exact fun s => every_callSections msg _
  · exact every_callSections msg _
  · unfold saveSections
    split
    · exact every_voidSections msg _
    · exact fun s => every_voidSections msg _
  · exact every_ackSections msg false (by decide)
  · exact every_ackSections msg false (by decide)
  · exact every_ackSections msg false (by decide)
  · exact every_ackSections msg false (by decide)

/-! ## Changes of the store -/

theorem only_ackSections (msg : Message) (ok : Bool) (reason : ByteString) :
    (ackSections msg ok reason).Only Section.IsLook :=
  ⟨trivial, fun _ => trivial⟩

theorem only_voidSections (msg : Message) (returned : Except Error Unit) :
    (voidSections msg returned).Only Section.IsLook := by
  unfold voidSections
  dsimp only
  split
  · exact only_ackSections msg false _
  · exact only_ackSections msg true _

theorem once_ackSections (msg : Message) (ok : Bool) (reason : ByteString) :
    (ackSections msg ok reason).CallsOnce :=
  (only_ackSections msg ok reason).once fun _ => Section.IsLook.lossless

theorem once_voidSections (msg : Message) (returned : Except Error Unit) :
    (voidSections msg returned).CallsOnce :=
  (only_voidSections msg returned).once fun _ => Section.IsLook.lossless

theorem once_callSections (msg : Message) {op : Op} (h : ¬op.IsLoss) :
    (callSections msg op).CallsOnce :=
  Or.inr ⟨h, fun s => only_voidSections msg (s.exec op).result⟩

/-- A section that looks at the store, and then one that may change it. -/
theorem once_look {next : FleetStateStore → Sections} (h : ∀ s, (next s).CallsOnce) :
    Sections.CallsOnce (.access .look next) :=
  Or.inl ⟨trivial, h⟩

theorem once_registerSections (now : Timestamp) (msg : Message) :
    (registerSections now msg).CallsOnce := by
  unfold registerSections
  split
  · exact once_ackSections msg false _
  · refine Or.inr ⟨fun h => h, fun s => ?_⟩
    dsimp only
    split
    · exact only_ackSections msg false _
    · exact ⟨trivial, fun s => ⟨trivial, fun _ => trivial⟩⟩

theorem once_reportSections (now : Timestamp) (msg : Message) :
    (reportSections now msg).CallsOnce := by
  unfold reportSections
  split
  · exact once_ackSections msg false _
  · refine Or.inr ⟨fun h => h, fun s => ?_⟩
    dsimp only
    split
    · exact only_ackSections msg false _
    · exact only_ackSections msg true _

theorem once_drainSections (now : Timestamp) (msg : Message) :
    (drainSections now msg).CallsOnce := by
  unfold drainSections
  split
  · exact once_ackSections msg false _
  · exact once_look fun s => once_callSections msg fun h => h

/-- A dispatch makes at most one call that can change the store, and none that marks a
worker lost. -/
theorem once_dispatchSections (opts : Options) (now : Timestamp) (io : FileOutcomes)
    (msg : Message) : (dispatchSections opts now io msg).CallsOnce := by
  unfold dispatchSections
  split
  · exact once_look fun s => trivial
  · exact once_registerSections now msg
  · unfold heartbeatSections
    split
    · exact once_callSections msg fun h => h
    · exact once_ackSections msg true _
  · exact once_reportSections now msg
  · exact once_reportSections now msg
  · exact once_reportSections now msg
  · exact once_look fun s => once_look fun s => trivial
  · exact once_drainSections now msg
  · exact once_drainSections now msg
  · unfold quarantineSections
    split
    · exact once_ackSections msg false _
    · exact once_look fun s => once_look fun s => once_callSections msg fun h => h
  · unfold clearQuarantineSections
    split
    · exact once_ackSections msg false _
    · exact once_look fun s => once_callSections msg fun h => h
  · exact once_callSections msg fun h => h
  · unfold saveSections
    split
    · exact once_voidSections msg _
    · exact once_look fun s => once_voidSections msg _
  · exact once_ackSections msg false _
  · exact once_ackSections msg false _
  · exact once_ackSections msg false _
  · exact once_ackSections msg false _

end Coordinator

end GpuFleet
