import GpuFleet.Core.Types

/-!
# Control messages

`protocol/message.hpp`.  A message is an envelope, which names the parties
and their generations, and a payload.  `decode_message` admits the declared
types only, so the type has one constructor for each of them.
-/

namespace GpuFleet

/-- `MessageType`. -/
inductive MessageType
  | hello | register | registerAck | heartbeat | deviceSnapshot | healthReport
  | capabilityReport | drain | undrain | quarantine | clearQuarantine
  | snapshotRequest | snapshotResponse | ack | error | epochRoll | save
  deriving DecidableEq, Repr

/-- The value of the enumerator. -/
def MessageType.toByte : MessageType → UInt8
  | .hello => 1
  | .register => 2
  | .registerAck => 3
  | .heartbeat => 4
  | .deviceSnapshot => 5
  | .healthReport => 6
  | .capabilityReport => 7
  | .drain => 8
  | .undrain => 9
  | .quarantine => 10
  | .clearQuarantine => 11
  | .snapshotRequest => 12
  | .snapshotResponse => 13
  | .ack => 14
  | .error => 15
  | .epochRoll => 16
  | .save => 17

/-- The declared types, in the order of their bytes. -/
def MessageType.declared : List MessageType :=
  [.hello, .register, .registerAck, .heartbeat, .deviceSnapshot, .healthReport,
    .capabilityReport, .drain, .undrain, .quarantine, .clearQuarantine, .snapshotRequest,
    .snapshotResponse, .ack, .error, .epochRoll, .save]

/-- `valid_message_type`. -/
def validMessageType (v : UInt8) : Bool :=
  decide (v ≥ MessageType.hello.toByte) && decide (v ≤ MessageType.save.toByte)

/-- `static_cast<MessageType>` of a byte that `valid_message_type` admits.
Every caller makes that check first. -/
def MessageType.ofByte (b : UInt8) : MessageType := declared.getD (b.toNat - 1) .hello

theorem MessageType.valid_toByte (t : MessageType) : validMessageType t.toByte = true := by
  cases t <;> rfl

@[simp] theorem MessageType.ofByte_toByte (t : MessageType) : ofByte t.toByte = t := by
  cases t <;> rfl

theorem MessageType.toByte_ofByte {b : UInt8} (h : validMessageType b = true) :
    (ofByte b).toByte = b := by
  have hdeclared : ∀ i < 17, (declared.getD i .hello).toByte.toNat = i + 1 := by decide
  simp only [validMessageType, Bool.and_eq_true, decide_eq_true_eq, toByte, ge_iff_le,
    UInt8.le_iff_toNat_le, UInt8.reduceToNat] at h
  apply UInt8.toNat_inj.mp
  rw [ofByte, hdeclared _ (by omega)]
  exact Nat.sub_add_cancel h.1

/-- `Message`, with the defaults of the source. -/
structure Message where
  type : MessageType := .hello
  coordinator : CoordinatorId := {}
  epoch : CoordinatorEpoch := {}
  workerBoot : WorkerBootId := {}
  worker : WorkerId := {}
  node : NodeId := {}
  agent : AgentId := {}
  regGen : RegistrationGeneration := {}
  obsGen : ObservationGeneration := {}
  healthGen : HealthGeneration := {}
  deviceGen : DeviceGeneration := {}
  capGen : CapabilityGeneration := {}
  requestId : UInt64 := 0
  ok : Bool := true
  reason : ByteString := []
  payload : ByteString := []
  deriving DecidableEq, Repr

end GpuFleet
