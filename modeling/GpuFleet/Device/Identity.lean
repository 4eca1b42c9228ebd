import GpuFleet.Core.Types

/-!
# Device identity

`identity/device_identity.hpp`, and the kinds of `capability/capability.hpp`.
A `DeviceIdentity` is the durable identity of a device, and
`canonicalDeviceIdentity` is the string under which the coordinator files it.

The enumerations of the runtime have `std::uint8_t` as their underlying
type, and the decoders cast a byte to them without a check.  Each of them
is therefore an inductive type with one constructor for every declared
enumerator and one more, `undeclared`, for the values in between.  The
proof that `undeclared` carries keeps the two apart.
-/

namespace GpuFleet

/-! ## The parts of an identity -/

/-- The lower-case hexadecimal digits of `n`, padded with zeros on the left
to `width` places: the `%0*x` conversion. -/
def hexPadded (width n : Nat) : ByteString :=
  let digits := (Nat.toDigits 16 n).map (fun c => UInt8.ofNat c.toNat)
  List.replicate (width - digits.length) 48 ++ digits

/-- `PciAddress`. -/
structure PciAddress where
  domain : UInt32 := 0
  bus : UInt16 := 0
  device : UInt16 := 0
  function : UInt16 := 0
  deriving DecidableEq, Repr

/-- `PciAddress::to_string`.  The longest output has 23 characters, so the
32-byte buffer never cuts it. -/
def PciAddress.toText (p : PciAddress) : ByteString :=
  hexPadded 4 p.domain.toNat ++ text ":" ++ hexPadded 2 p.bus.toNat ++ text ":"
    ++ hexPadded 2 p.device.toNat ++ text "." ++ hexPadded 1 p.function.toNat

/-- `DeviceUuid`. -/
structure DeviceUuid where
  value : ByteString := []
  deriving DecidableEq, Repr

/-- `ComputeCapability`. -/
structure ComputeCapability where
  major : UInt32 := 0
  minor : UInt32 := 0
  deriving DecidableEq, Repr

/-- `ComputeCapability::to_string`. -/
def ComputeCapability.toText (c : ComputeCapability) : ByteString :=
  decimal c.major.toNat ++ text "." ++ decimal c.minor.toNat

/-- `ComputeCapability::operator<`. -/
def ComputeCapability.less (a b : ComputeCapability) : Bool :=
  if a.major ≠ b.major then decide (a.major < b.major) else decide (a.minor < b.minor)

/-- `ComputeCapability::operator>=`. -/
def ComputeCapability.atLeast (a b : ComputeCapability) : Bool := !a.less b

/-- `AcceleratorVendor`, with the values that a cast can bring in. -/
inductive AcceleratorVendor
  | unknown | nvidia | amd | intel
  | undeclared (v : UInt8) (h : 4 ≤ v.toNat)
  deriving DecidableEq, Repr

/-- `to_string(AcceleratorVendor)`. -/
def AcceleratorVendor.toText : AcceleratorVendor → ByteString
  | .nvidia => text "nvidia"
  | .amd => text "amd"
  | .intel => text "intel"
  | .unknown | .undeclared _ _ => text "unknown"

/-- The value of the enumerator. -/
def AcceleratorVendor.toByte : AcceleratorVendor → UInt8
  | .unknown => 0
  | .nvidia => 1
  | .amd => 2
  | .intel => 3
  | .undeclared v _ => v

/-- The enumerators, by their values. -/
def AcceleratorVendor.declared : Fin 4 → AcceleratorVendor
  | 0 => .unknown
  | 1 => .nvidia
  | 2 => .amd
  | 3 => .intel

/-- `static_cast<AcceleratorVendor>`. -/
def AcceleratorVendor.ofByte (b : UInt8) : AcceleratorVendor :=
  if h : b.toNat < 4 then .declared ⟨b.toNat, h⟩ else .undeclared b (Nat.le_of_not_lt h)

@[simp] theorem AcceleratorVendor.ofByte_toByte (a : AcceleratorVendor) : ofByte a.toByte = a := by
  cases a with
  | undeclared v h => exact dif_neg (Nat.not_lt.mpr h)
  | _ => rfl

/-- The vendor is one of the enumerators. -/
def AcceleratorVendor.isDeclared : AcceleratorVendor → Bool
  | .undeclared _ _ => false
  | _ => true

/-- `MigPartition`. -/
structure MigPartition where
  gpuInstanceId : UInt32 := 0
  computeInstanceId : UInt32 := 0
  deriving DecidableEq, Repr

/-! ## The identity and its canonical form -/

/-- `DeviceIdentity`.  Its `operator==` compares every field, so it is
equality here. -/
structure DeviceIdentity where
  vendor : AcceleratorVendor := .unknown
  vendorName : ByteString := []
  uuid : DeviceUuid := {}
  pci : PciAddress := {}
  architecture : ByteString := []
  computeCapability : ComputeCapability := {}
  totalPhysicalMemory : UInt64 := 0
  numaNode : Int32 := -1
  driverVersion : DriverVersion := {}
  runtimeVersion : RuntimeVersion := {}
  mig : MigPartition := {}
  parentDevice : Option DeviceId := none
  deriving DecidableEq, Repr

/-- `canonical_device_identity`. -/
def canonicalDeviceIdentity (d : DeviceIdentity) : ByteString :=
  d.vendor.toText ++ text "|" ++ d.vendorName ++ text "|" ++ d.uuid.value
    ++ text "|" ++ d.pci.toText ++ text "|" ++ d.architecture ++ text "|"
    ++ d.computeCapability.toText ++ text "|"
    ++ decimal d.totalPhysicalMemory.toNat ++ text "|" ++ d.driverVersion.text

example :
    canonicalDeviceIdentity { vendor := .nvidia, pci := { bus := 0x1a } }
      = text "nvidia|||0000:1a:00.0||0.0|0|" := by
  decide

/-! ## Kinds of capabilities -/

/-- `CapabilityKind`, with the values that a cast can bring in. -/
inductive CapabilityKind
  | unknown | discovered | validated | inferred
  | undeclared (v : UInt8) (h : 4 ≤ v.toNat)
  deriving DecidableEq, Repr

/-- The value of the enumerator. -/
def CapabilityKind.toByte : CapabilityKind → UInt8
  | .unknown => 0
  | .discovered => 1
  | .validated => 2
  | .inferred => 3
  | .undeclared v _ => v

/-- The enumerators, by their values. -/
def CapabilityKind.declared : Fin 4 → CapabilityKind
  | 0 => .unknown
  | 1 => .discovered
  | 2 => .validated
  | 3 => .inferred

/-- `static_cast<CapabilityKind>`. -/
def CapabilityKind.ofByte (b : UInt8) : CapabilityKind :=
  if h : b.toNat < 4 then .declared ⟨b.toNat, h⟩ else .undeclared b (Nat.le_of_not_lt h)

@[simp] theorem CapabilityKind.ofByte_toByte (k : CapabilityKind) : ofByte k.toByte = k := by
  cases k with
  | undeclared v h => exact dif_neg (Nat.not_lt.mpr h)
  | _ => rfl

end GpuFleet
