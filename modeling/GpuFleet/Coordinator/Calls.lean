import GpuFleet.Coordinator.Dispatch

/-!
# The store calls of the coordinator

A step of the coordinator makes at most one call that can change the store.
`call` names it, with the arguments that the handler decoded from the message,
and `step_store` says that the store after the step is what the call leaves.
So a fact about every call is a fact about every step of the coordinator.
-/

namespace GpuFleet

namespace Coordinator

open FleetStateStore

/-- The call that a message leads to. -/
def callOf (c : Coordinator) (now : Timestamp) (msg : Message) : Option Op :=
  match msg.type with
  | .register =>
    match decodeRegistration msg.payload with
    | .error _ => none
    | .ok reg => some (.registerWorker reg now)
  | .heartbeat =>
    if !msg.workerBoot.isZero || !msg.worker.isZero then
      some (.heartbeat msg.worker msg.workerBoot msg.epoch now msg.healthGen)
    else none
  | .deviceSnapshot | .healthReport | .capabilityReport =>
    match decodeObservationBatch msg.payload with
    | .error _ => none
    | .ok obs => some (.ingestSnapshot msg.worker obs {} now)
  | .drain | .undrain =>
    match decodeDrainTarget msg.payload with
    | .error _ => none
    | .ok t => some (.setDrain (ownerOf c.store t.identity) t.identity t.level now)
  | .quarantine =>
    match decodeQuarantine msg.payload with
    | .error _ => none
    | .ok q => some (.setQuarantine (ownerOf c.store q.identity) q.identity
        (c.quarantineRecord q now) now)
  | .clearQuarantine =>
    match decodeIdentityTarget msg.payload with
    | .error _ => none
    | .ok identity => some (.clearQuarantine {} identity c.store.epoch now)
  | .epochRoll => some (.rollEpoch msg.epoch)
  | _ => none

/-- The call of a step. -/
def call (c : Coordinator) : Event → Option Op
  | .message now _ msg => c.callOf now msg
  | .workerLost w now => some (.markWorkerLost w now)
  | .recover snap => some (.restore snap)

/-- The store after a call that may not be made. -/
def perform (s : FleetStateStore) : Option Op → FleetStateStore
  | none => s
  | some op => s.step op

/-! ## The store after a step -/

theorem handleRegister_store (c : Coordinator) (now : Timestamp) (msg : Message)
    (htype : msg.type = .register) :
    (c.handleRegister now msg).coordinator.store = perform c.store (c.callOf now msg) := by
  simp only [callOf, htype, handleRegister]
  cases decodeRegistration msg.payload with
  | error err => rfl
  | ok reg =>
    simp only
    split
    · rfl
    · rfl

theorem handleReport_store (c : Coordinator) (now : Timestamp) (msg : Message)
    (htype : msg.type = .deviceSnapshot ∨ msg.type = .healthReport ∨
      msg.type = .capabilityReport) :
    (c.handleReport now msg).coordinator.store = perform c.store (c.callOf now msg) := by
  have hcall : c.callOf now msg = match decodeObservationBatch msg.payload with
      | .error _ => none
      | .ok obs => some (.ingestSnapshot msg.worker obs {} now) := by
    rcases htype with htype | htype | htype <;> simp only [callOf, htype]
  rw [hcall, handleReport]
  cases decodeObservationBatch msg.payload with
  | error err => rfl
  | ok obs => rfl

theorem handleHeartbeat_store (c : Coordinator) (now : Timestamp) (msg : Message)
    (htype : msg.type = .heartbeat) :
    (c.handleHeartbeat now msg).coordinator.store = perform c.store (c.callOf now msg) := by
  simp only [callOf, htype, handleHeartbeat]
  split
  · rfl
  · rfl

theorem handleDrain_store (c : Coordinator) (now : Timestamp) (msg : Message)
    (htype : msg.type = .drain ∨ msg.type = .undrain) :
    (c.handleDrain now msg).coordinator.store = perform c.store (c.callOf now msg) := by
  have hcall : c.callOf now msg = match decodeDrainTarget msg.payload with
      | .error _ => none
      | .ok t => some (.setDrain (ownerOf c.store t.identity) t.identity t.level now) := by
    rcases htype with htype | htype <;> simp only [callOf, htype]
  rw [hcall, handleDrain]
  cases decodeDrainTarget msg.payload with
  | error err => rfl
  | ok t => rfl

theorem handleQuarantine_store (c : Coordinator) (now : Timestamp) (msg : Message)
    (htype : msg.type = .quarantine) :
    (c.handleQuarantine now msg).coordinator.store = perform c.store (c.callOf now msg) := by
  simp only [callOf, htype, handleQuarantine]
  cases decodeQuarantine msg.payload with
  | error err => rfl
  | ok q => rfl

theorem handleClearQuarantine_store (c : Coordinator) (now : Timestamp) (msg : Message)
    (htype : msg.type = .clearQuarantine) :
    (c.handleClearQuarantine now msg).coordinator.store
      = perform c.store (c.callOf now msg) := by
  simp only [callOf, htype, handleClearQuarantine]
  cases decodeIdentityTarget msg.payload with
  | error err => rfl
  | ok identity => rfl

theorem dispatch_store (c : Coordinator) (now : Timestamp) (io : FileOutcomes) (msg : Message) :
    (c.dispatch now io msg).coordinator.store = perform c.store (c.callOf now msg) := by
  unfold dispatch
  cases htype : msg.type with
  | register => exact c.handleRegister_store now msg htype
  | heartbeat => exact c.handleHeartbeat_store now msg htype
  | deviceSnapshot => exact c.handleReport_store now msg (Or.inl htype)
  | healthReport => exact c.handleReport_store now msg (Or.inr (Or.inl htype))
  | capabilityReport => exact c.handleReport_store now msg (Or.inr (Or.inr htype))
  | drain => exact c.handleDrain_store now msg (Or.inl htype)
  | undrain => exact c.handleDrain_store now msg (Or.inr htype)
  | quarantine => exact c.handleQuarantine_store now msg htype
  | clearQuarantine => exact c.handleClearQuarantine_store now msg htype
  | epochRoll =>
    simp only [callOf, htype]
    rfl
  | _ =>
    simp only [callOf, htype]
    rfl

theorem step_store (c : Coordinator) (e : Event) :
    (c.step e).store = perform c.store (c.call e) := by
  cases e with
  | message now io msg => exact c.dispatch_store now io msg
  | workerLost w now => rfl
  | recover snap => rfl

/-! ## Which calls a message makes -/

/-- Only a REGISTER registers, and with the decoded payload. -/
theorem callOf_registerWorker {c : Coordinator} {now now' : Timestamp} {msg : Message}
    {reg : Registration} (h : c.callOf now msg = some (.registerWorker reg now')) :
    msg.type = .register ∧ decodeRegistration msg.payload = .ok reg ∧ now' = now := by
  unfold callOf at h
  split at h
  · next htype =>
    cases hreg : decodeRegistration msg.payload with
    | error err =>
      rw [hreg] at h
      cases h
    | ok reg' =>
      rw [hreg] at h
      cases h
      exact ⟨htype, rfl, rfl⟩
  all_goals
    repeat' split at h
    all_goals cases h

/-- No message restores a snapshot. -/
theorem callOf_not_isRestore {c : Coordinator} {now : Timestamp} {msg : Message} {op : Op}
    (h : c.callOf now msg = some op) : ¬op.IsRestore := by
  intro hop
  unfold callOf at h
  repeat' split at h
  all_goals
    cases h
    try exact hop

/-- No message marks a worker lost. -/
theorem callOf_not_markWorkerLost (c : Coordinator) (now : Timestamp) (msg : Message)
    (w : WorkerId) (now' : Timestamp) : c.callOf now msg ≠ some (.markWorkerLost w now') := by
  intro h
  unfold callOf at h
  repeat' split at h
  all_goals cases h

end Coordinator

end GpuFleet
