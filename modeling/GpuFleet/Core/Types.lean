import Mathlib.Data.Nat.Basic
import Mathlib.Order.Lattice
import Mathlib.Tactic.Common

/-!
# Primitive types of the runtime

`core/result.hpp`, `core/strong.hpp`, `core/clock.hpp`, `types/ids.hpp`,
`types/generations.hpp` and `types/versions.hpp`.

* A `std::string` is a byte string.  The wire codecs put arbitrary bytes
  into every text field, so `ByteString` is a list of bytes and not a
  `String`.  `text` is a string literal of the source.
* `StrongId` and `Generation` are the two class templates.  The tag is an
  index of the Lean type, so that a worker id is no more a boot id here
  than it is in the source.
* A `std::map` is `Std.ExtTreeMap`: iteration is in key order, and two maps
  with the same entries are equal.
* `Result<T>` is `Except Error T`.  `Result<void>` is a hand-written
  specialisation with a flag of its own, and `ResultVoid` keeps that flag.
-/

namespace GpuFleet

/-! ## Byte strings -/

/-- The bytes of a `std::string`. -/
abbrev ByteString := List UInt8

instance : LawfulBEq ByteString := inferInstance

/-- A string literal of the source.  All of them are ASCII. -/
def text (s : String) : ByteString :=
  s.toList.map (fun c => UInt8.ofNat c.toNat)

/-- The length of a literal, by its characters. -/
theorem length_text_le {l : List Char} {n : Nat} (h : l.length ≤ n) :
    (text (String.ofList l)).length ≤ n := by
  rw [text, List.length_map, String.toList_ofList]
  exact h

/-- `std::to_string` of an unsigned integer. -/
def decimal (n : Nat) : ByteString :=
  (Nat.toDigits 10 n).map (fun c => UInt8.ofNat c.toNat)

/-- The bits of a `double`.  The runtime stores and ships temperature and
power readings and never computes with them. -/
abbrev DoubleBits := UInt64

/-! ## Status and result -/

/-- `Status`, in the order of the source. -/
inductive Status
  | ok | corrupt | truncated | outOfBounds | invalidEnum | invalidGeneration
  | protocolMismatch | versionMismatch | duplicate | unknownMessage
  | malformed | stale | notAuthoritative | notFound | alreadyExists
  | quarantined | drained | unsupported | io | identityMismatch
  | capacityExceeded | rejected | internal
  deriving DecidableEq, Repr

/-- `Error`: a code and a message. -/
structure Error where
  code : Status := .internal
  message : ByteString := []
  deriving DecidableEq, Repr

/-- `error_result`. -/
def errorResult (code : Status) (msg : String) : Error :=
  { code := code, message := text msg }

/-- `Result<T>`, for a `T` other than `void`. -/
abbrev Result (α : Type) := Except Error α

/-- `Result<void>`. -/
structure ResultVoid where
  hasError : Bool := false
  error : Error := {}
  deriving DecidableEq, Repr

/-- `Result<void>(Error)`.  The constructor initialises `error_` and leaves
`has_error_` at its default member initialiser. -/
def ResultVoid.ofError (err : Error) : ResultVoid := { error := err }

/-- `Result<void>::ok`. -/
def ResultVoid.ok (r : ResultVoid) : Bool := !r.hasError

/-- What a caller of a `Result<void>` function receives, given the `return`
statement that was executed. -/
def ResultVoid.ofReturn : Except Error Unit → ResultVoid
  | .ok () => {}
  | .error err => .ofError err

/-- A `Result<void>` reports success whatever statement it was returned
from. -/
@[simp] theorem ResultVoid.ofReturn_ok (r : Except Error Unit) :
    (ResultVoid.ofReturn r).ok = true := by
  cases r <;> rfl

/-! ## Strong identifiers and generations -/

/-- The tags of `types/ids.hpp` that the modelled code uses. -/
inductive IdTag
  | node | worker | workerBoot | device | capability | registration
  | coordinator | agent
  deriving DecidableEq

/-- `StrongId<Tag>`. -/
structure StrongId (tag : IdTag) where
  value : UInt64 := 0
  deriving DecidableEq, Repr

/-- `StrongId::is_zero`. -/
def StrongId.isZero {tag : IdTag} (i : StrongId tag) : Bool := i.value == 0

/-- `StrongId::operator<` and its companions compare the values. -/
instance {tag : IdTag} : LinearOrder (StrongId tag) :=
  LinearOrder.lift' (fun i => i.value.toNat) (by
    rintro ⟨a⟩ ⟨b⟩ h
    exact congrArg StrongId.mk (UInt64.toNat_inj.mp h))

instance {tag : IdTag} : Std.LawfulEqOrd (StrongId tag) where
  eq_of_compare h := compare_eq_iff_eq.mp h

instance {tag : IdTag} : Std.TransOrd (StrongId tag) := inferInstance

/-- The tags of `types/generations.hpp` that the modelled code uses. -/
inductive GenerationTag
  | coordinatorEpoch | fleet | node | device | observation | capability
  | health | registration
  deriving DecidableEq

/-- `Generation<Tag>`. -/
structure Generation (tag : GenerationTag) where
  value : UInt64 := 0
  deriving DecidableEq, Repr

/-- `Generation::operator<` and its companions compare the values. -/
instance {tag : GenerationTag} : LinearOrder (Generation tag) :=
  LinearOrder.lift' (fun g => g.value.toNat) (by
    rintro ⟨a⟩ ⟨b⟩ h
    exact congrArg Generation.mk (UInt64.toNat_inj.mp h))

/-- `Generation::next`, which wraps at the top of the representation. -/
def Generation.next {tag : GenerationTag} (g : Generation tag) : Generation tag :=
  { value := g.value + 1 }

/-- `NodeId`. -/
abbrev NodeId := StrongId .node
/-- `WorkerId`. -/
abbrev WorkerId := StrongId .worker
/-- `WorkerBootId`, one for each launch of an agent. -/
abbrev WorkerBootId := StrongId .workerBoot
/-- `DeviceId`. -/
abbrev DeviceId := StrongId .device
/-- `CapabilityId`. -/
abbrev CapabilityId := StrongId .capability
/-- `RegistrationId`. -/
abbrev RegistrationId := StrongId .registration
/-- `CoordinatorId`. -/
abbrev CoordinatorId := StrongId .coordinator
/-- `AgentId`. -/
abbrev AgentId := StrongId .agent

/-- `CoordinatorEpoch`. -/
abbrev CoordinatorEpoch := Generation .coordinatorEpoch
/-- `FleetGeneration`. -/
abbrev FleetGeneration := Generation .fleet
/-- `NodeGeneration`. -/
abbrev NodeGeneration := Generation .node
/-- `DeviceGeneration`. -/
abbrev DeviceGeneration := Generation .device
/-- `ObservationGeneration`. -/
abbrev ObservationGeneration := Generation .observation
/-- `CapabilityGeneration`. -/
abbrev CapabilityGeneration := Generation .capability
/-- `HealthGeneration`. -/
abbrev HealthGeneration := Generation .health
/-- `RegistrationGeneration`. -/
abbrev RegistrationGeneration := Generation .registration

/-! ## Time and versions -/

/-- Milliseconds since the Unix epoch, a signed 64-bit value. -/
abbrev Timestamp := Int64

/-- A length of time in milliseconds, a signed 64-bit value. -/
abbrev DurationMs := Int64

/-- `kInvalidTimestamp`, which stands for no time at all. -/
def kInvalidTimestamp : Timestamp := 0

/-- `SemanticVersion`, the payload of `AgentVersion`. -/
structure SemanticVersion where
  major : UInt32 := 0
  minor : UInt32 := 0
  patch : UInt32 := 0
  deriving DecidableEq, Repr

/-- `ProtocolVersion`. -/
structure ProtocolVersion where
  value : UInt32 := 0
  deriving DecidableEq, Repr

/-- `DriverVersion`, a free text. -/
structure DriverVersion where
  text : ByteString := []
  deriving DecidableEq, Repr

/-- `RuntimeVersion`. -/
structure RuntimeVersion where
  major : UInt32 := 0
  minor : UInt32 := 0
  deriving DecidableEq, Repr

/-! ## Ordered maps -/

/-- A `std::map`. -/
abbrev Map (κ ν : Type) [Ord κ] := Std.ExtTreeMap κ ν

end GpuFleet
