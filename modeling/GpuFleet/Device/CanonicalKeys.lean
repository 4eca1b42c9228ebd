import GpuFleet.Device.Identity
import GpuFleet.Lib.Rendering
import Mathlib.Algebra.Group.Nat.Defs

/-!
# What a canonical key says

`canonicalDeviceIdentity` joins eight fields with bars.  Four of them are free
text.  When there is no bar in these, the key can be taken apart again, and
the numbers in it, padded or not, can be read back
(`canonicalDeviceIdentity_eq_iff`).
-/

namespace GpuFleet

open Rendering

/-- The fields that the stable identity of a device is anchored on.  NUMA
node, runtime version, MIG partition and parent are not among them. -/
structure SameStableIdentity (a b : DeviceIdentity) : Prop where
  vendor : a.vendor = b.vendor
  vendorName : a.vendorName = b.vendorName
  uuid : a.uuid = b.uuid
  pci : a.pci = b.pci
  architecture : a.architecture = b.architecture
  computeCapability : a.computeCapability = b.computeCapability
  totalPhysicalMemory : a.totalPhysicalMemory = b.totalPhysicalMemory
  driverVersion : a.driverVersion = b.driverVersion

theorem SameStableIdentity.canonical {a b : DeviceIdentity} (h : SameStableIdentity a b) :
    canonicalDeviceIdentity a = canonicalDeviceIdentity b := by
  unfold canonicalDeviceIdentity
  rw [h.vendor, h.vendorName, h.uuid, h.pci, h.architecture, h.computeCapability,
    h.totalPhysicalMemory, h.driverVersion]

/-- The vendor is a declared one, and the texts have no bar in them. -/
structure DeviceIdentity.Plain (d : DeviceIdentity) : Prop where
  vendor : d.vendor.isDeclared = true
  vendorName : 124 ∉ d.vendorName
  uuid : 124 ∉ d.uuid.value
  architecture : 124 ∉ d.architecture
  driverVersion : 124 ∉ d.driverVersion.text

/-! ## Numbers -/

/-- The digit of a hexadecimal symbol. -/
def digitValue (symbol : UInt8) : Nat :=
  if symbol.toNat < 58 then symbol.toNat - 48 else symbol.toNat - 87

/-- The symbol of a digit. -/
def digitSymbol (c : Char) : UInt8 := UInt8.ofNat c.toNat

theorem digitValue_digitSymbol : ∀ d < 16, digitValue (digitSymbol d.digitChar) = d := by
  decide

/-- `:`, `.` and `|`. -/
def separators : List UInt8 := [58, 46, 124]

theorem digitSymbol_not_mem : ∀ d < 16, digitSymbol d.digitChar ∉ separators := by
  decide

theorem decimal_inj {m n : Nat} : decimal m = decimal n ↔ m = n := by
  constructor
  · intro h
    have hval : ∀ d < 10, digitValue (digitSymbol d.digitChar) = d := fun d hd =>
      digitValue_digitSymbol d (by omega)
    exact @padded_inj _ digitSymbol digitValue 10 (by decide) hval 0 0 m n h
  · intro h
    rw [h]

/-- Numbers that are wider than the padding have no padding. -/
theorem hexPadded_inj {width m n : Nat} : hexPadded width m = hexPadded width n ↔ m = n := by
  constructor
  · intro h
    exact @padded_inj _ digitSymbol digitValue 16 (by decide) digitValue_digitSymbol _ _ m n h
  · intro h
    rw [h]

theorem not_mem_numeral {sep : UInt8} (hsep : sep ∈ separators) {b : Nat} (hb : 1 < b)
    (hb' : b ≤ 16) (n : Nat) : sep ∉ (Nat.toDigits b n).map digitSymbol := by
  intro hmem
  obtain ⟨c, hc, rfl⟩ := List.mem_map.mp hmem
  obtain ⟨d, hd, rfl⟩ := exists_digit_of_mem_toDigits hb hc
  exact digitSymbol_not_mem d (hd.trans_le hb') hsep

theorem not_mem_decimal {sep : UInt8} (hsep : sep ∈ separators) (n : Nat) : sep ∉ decimal n :=
  not_mem_numeral hsep (by decide) (by decide) n

theorem not_mem_hexPadded {sep : UInt8} (hsep : sep ∈ separators) (width n : Nat) :
    sep ∉ hexPadded width n := by
  intro hmem
  rcases List.mem_append.mp hmem with hmem | hmem
  · obtain ⟨-, rfl⟩ := List.mem_replicate.mp hmem
    exact absurd hsep (by decide)
  · exact not_mem_numeral hsep (by decide) (by decide) n hmem

/-! ## The fields -/

theorem AcceleratorVendor.toText_inj {a b : AcceleratorVendor} (ha : a.isDeclared = true)
    (hb : b.isDeclared = true) : a.toText = b.toText ↔ a = b := by
  constructor
  · intro h
    cases a <;> cases b <;> first | rfl | exact absurd ha Bool.false_ne_true |
      exact absurd hb Bool.false_ne_true | exact absurd h (by decide)
  · intro h
    rw [h]

theorem AcceleratorVendor.bar_not_mem (a : AcceleratorVendor) : 124 ∉ a.toText := by
  cases a with
  | undeclared v h =>
    show 124 ∉ text "unknown"
    decide
  | _ => decide

theorem PciAddress.toText_eq (p : PciAddress) :
    p.toText = hexPadded 4 p.domain.toNat ++ 58 :: (hexPadded 2 p.bus.toNat ++ 58 ::
      (hexPadded 2 p.device.toNat ++ 46 :: hexPadded 1 p.function.toNat)) := by
  simp only [toText, List.append_assoc]
  rfl

theorem PciAddress.toText_inj {p q : PciAddress} : p.toText = q.toText ↔ p = q := by
  have hcolon : ∀ width n, 58 ∉ hexPadded width n := not_mem_hexPadded (by decide)
  have hpoint : ∀ width n, 46 ∉ hexPadded width n := not_mem_hexPadded (by decide)
  rw [toText_eq, toText_eq, append_sep_inj (hcolon 4 _) (hcolon 4 _),
    append_sep_inj (hcolon 2 _) (hcolon 2 _), append_sep_inj (hpoint 2 _) (hpoint 2 _),
    hexPadded_inj, hexPadded_inj, hexPadded_inj, hexPadded_inj, UInt32.toNat_inj,
    UInt16.toNat_inj, UInt16.toNat_inj, UInt16.toNat_inj]
  cases p
  cases q
  rw [PciAddress.mk.injEq]

theorem PciAddress.bar_not_mem (p : PciAddress) : 124 ∉ p.toText := by
  have hhex : ∀ width n, 124 ∉ hexPadded width n := not_mem_hexPadded (by decide)
  rw [toText_eq]
  simp only [List.mem_append, List.mem_cons, hhex, not_or, not_false_eq_true, true_and, and_true]
  decide

theorem length_hexPadded_le {width n k : Nat} (hk : 0 < k) (hwidth : width ≤ k) (hn : n < 16 ^ k) :
    (hexPadded width n).length ≤ k := by
  have hdigits := (Nat.length_toDigits_le_iff (by decide) hk).mpr hn
  unfold hexPadded
  rw [List.length_append, List.length_replicate, List.length_map]
  omega

/-- The buffer of 32 bytes does not cut a PCI address. -/
theorem PciAddress.length_toText_lt (p : PciAddress) : p.toText.length < 32 := by
  have hdomain : (hexPadded 4 p.domain.toNat).length ≤ 8 :=
    length_hexPadded_le (by decide) (by decide) p.domain.toNat_lt
  have hbus : (hexPadded 2 p.bus.toNat).length ≤ 4 :=
    length_hexPadded_le (by decide) (by decide) p.bus.toNat_lt
  have hdevice : (hexPadded 2 p.device.toNat).length ≤ 4 :=
    length_hexPadded_le (by decide) (by decide) p.device.toNat_lt
  have hfunction : (hexPadded 1 p.function.toNat).length ≤ 4 :=
    length_hexPadded_le (by decide) (by decide) p.function.toNat_lt
  rw [toText_eq]
  simp only [List.length_append, List.length_cons]
  omega

theorem ComputeCapability.toText_inj {c e : ComputeCapability} : c.toText = e.toText ↔ c = e := by
  have hpoint : ∀ n, 46 ∉ decimal n := not_mem_decimal (by decide)
  have htext : ∀ c : ComputeCapability,
      c.toText = decimal c.major.toNat ++ 46 :: decimal c.minor.toNat := by
    intro c
    simp only [toText, List.append_assoc]
    rfl
  rw [htext, htext, append_sep_inj (hpoint _) (hpoint _), decimal_inj, decimal_inj,
    UInt32.toNat_inj, UInt32.toNat_inj]
  cases c
  cases e
  rw [ComputeCapability.mk.injEq]

theorem ComputeCapability.bar_not_mem (c : ComputeCapability) : 124 ∉ c.toText := by
  have hdecimal : ∀ n, 124 ∉ decimal n := not_mem_decimal (by decide)
  have hpoint : (124 : UInt8) ∉ text "." := by decide
  simp only [toText, List.mem_append, hdecimal, hpoint, or_self, not_false_eq_true]

/-! ## The key -/

/-- What `canonical_device_identity` joins. -/
def DeviceIdentity.canonicalFields (d : DeviceIdentity) : List ByteString :=
  [d.vendor.toText, d.vendorName, d.uuid.value, d.pci.toText, d.architecture,
    d.computeCapability.toText, decimal d.totalPhysicalMemory.toNat, d.driverVersion.text]

theorem canonicalDeviceIdentity_eq (d : DeviceIdentity) :
    canonicalDeviceIdentity d = [124].intercalate d.canonicalFields := by
  unfold canonicalDeviceIdentity DeviceIdentity.canonicalFields
  simp only [List.intercalate_cons_cons, List.intercalate_singleton, List.append_assoc]
  rfl

theorem DeviceIdentity.Plain.bar_not_mem {d : DeviceIdentity} (h : d.Plain) :
    ∀ field ∈ d.canonicalFields, 124 ∉ field := by
  have hmemory : 124 ∉ decimal d.totalPhysicalMemory.toNat := not_mem_decimal (by decide) _
  simp only [canonicalFields, List.forall_mem_cons]
  exact ⟨d.vendor.bar_not_mem, h.vendorName, h.uuid, d.pci.bar_not_mem, h.architecture,
    d.computeCapability.bar_not_mem, hmemory, h.driverVersion, List.forall_mem_nil _⟩

/-- The fields of a key are those of the identity. -/
theorem SameStableIdentity.of_fields {a b : DeviceIdentity} (ha : a.Plain) (hb : b.Plain)
    (h : a.canonicalFields = b.canonicalFields) : SameStableIdentity a b := by
  simp only [DeviceIdentity.canonicalFields, List.cons.injEq, decimal_inj, UInt64.toNat_inj,
    PciAddress.toText_inj, ComputeCapability.toText_inj,
    AcceleratorVendor.toText_inj ha.vendor hb.vendor] at h
  obtain ⟨hvendor, hname, huuid, hpci, harchitecture, hcc, hmemory, hdriver, -⟩ := h
  exact ⟨hvendor, hname, congrArg DeviceUuid.mk huuid, hpci, harchitecture, hcc, hmemory,
    congrArg DriverVersion.mk hdriver⟩

theorem SameStableIdentity.of_canonical {a b : DeviceIdentity} (ha : a.Plain) (hb : b.Plain)
    (h : canonicalDeviceIdentity a = canonicalDeviceIdentity b) : SameStableIdentity a b := by
  rw [canonicalDeviceIdentity_eq, canonicalDeviceIdentity_eq,
    intercalate_inj ha.bar_not_mem hb.bar_not_mem (List.cons_ne_nil _ _)
      (List.cons_ne_nil _ _)] at h
  exact .of_fields ha hb h

/-- Plain devices have a key each exactly when no two of them agree in the
fields of a key. -/
theorem canonicalKeys_nodup_iff {ds : List DeviceIdentity} (h : ∀ d ∈ ds, d.Plain) :
    (ds.map canonicalDeviceIdentity).Nodup ↔
      ds.Pairwise fun a b => ¬SameStableIdentity a b := by
  rw [List.Nodup, List.pairwise_map]
  apply List.Pairwise.iff_of_mem
  intro a b ha hb
  constructor
  · exact fun hne hsame => hne hsame.canonical
  · exact fun hne hkey => hne (.of_canonical (h a ha) (h b hb) hkey)

/-- The keys of two devices are the same exactly when the devices agree in the
fields that a key is made of. -/
theorem canonicalDeviceIdentity_eq_iff {a b : DeviceIdentity} (ha : a.Plain) (hb : b.Plain) :
    canonicalDeviceIdentity a = canonicalDeviceIdentity b ↔ SameStableIdentity a b :=
  ⟨.of_canonical ha hb, SameStableIdentity.canonical⟩

theorem canonicalDeviceIdentity_eq_iff_slots :
    canonicalDeviceIdentity { vendor := .nvidia, pci := { bus := 0x1a } }
        = canonicalDeviceIdentity { vendor := .nvidia, pci := { bus := 0x1, device := 0xa } } ↔
      SameStableIdentity { vendor := .nvidia, pci := { bus := 0x1a } }
        { vendor := .nvidia, pci := { bus := 0x1, device := 0xa } } :=
  canonicalDeviceIdentity_eq_iff ⟨rfl, by decide, by decide, by decide, by decide⟩
    ⟨rfl, by decide, by decide, by decide, by decide⟩

end GpuFleet
