import GpuFleet.Agent.Publishing
import GpuFleet.Device.CanonicalKeys

/-!
# The backends

`device/synthetic_backend.cpp` and the enumeration of `cuda/cuda_backend.cpp`.
The texts that the two put in an identity have no bar in them
(`SyntheticDeviceBackend.plain`, `CudaRuntime.plain`), so their devices are
filed under different keys as long as their identities differ in a field of
the key.

A publication takes its keys from the enumeration, one for each probe that
succeeds (`keys_sublist`).
-/

namespace GpuFleet

/-- The keys under which `enumerate` finds devices. -/
def DeviceBackend.enumeratedKeys (backend : DeviceBackend) : List ByteString :=
  match backend.enumerate with
  | .error _ => []
  | .ok ev => ev.map fun d => canonicalDeviceIdentity d.identity

/-- A probe reports the identity that was enumerated. -/
def DeviceBackend.Faithful (backend : DeviceBackend) : Prop :=
  ∀ d probe, backend.probe d = .ok probe → probe.identity = d.identity

/-! ## The synthetic backend -/

/-- `SyntheticDeviceBackend`.  There is at least one device. -/
structure SyntheticDeviceBackend where
  count : UInt64
  memoryBytes : UInt64
  counted : count ≠ 0

namespace SyntheticDeviceBackend

/-- The constructor of `SyntheticDeviceBackend`. -/
def construct (count : UInt64 := 1) (memoryBytes : UInt64 := 24 * 1024 * 1024 * 1024) :
    SyntheticDeviceBackend where
  count := if count = 0 then 1 else count
  memoryBytes := memoryBytes
  counted := by
    split
    · decide
    · assumption

/-- `identity_for`. -/
def identityFor (idx : Nat) (mem : UInt64) : ByteString :=
  text "synthetic:" ++ decimal idx ++ text ":" ++ decimal mem.toNat

/-- The body of the loop of `enumerate`, for device `i`. -/
def identity (b : SyntheticDeviceBackend) (i : Nat) : DeviceIdentity where
  vendor := .nvidia
  vendorName := text "synthetic"
  uuid := ⟨identityFor i b.memoryBytes⟩
  architecture := text "synthetic"
  computeCapability := ⟨12, 0⟩
  totalPhysicalMemory := b.memoryBytes
  driverVersion := ⟨text "synthetic"⟩

/-- `SyntheticDeviceBackend::enumerate`. -/
def enumerate (b : SyntheticDeviceBackend) : Result (List EnumeratedDevice) :=
  .ok ((List.range b.count.toNat).map fun i => {
    ordinal := Int32.ofNat i
    present := true
    identity := b.identity i })

/-- `SyntheticDeviceBackend::probe`. -/
def probe (b : SyntheticDeviceBackend) (device : EnumeratedDevice) : Result DeviceProbe :=
  .ok {
    enumerated := true
    present := true
    driverRuntimeOk := true
    cudaInitOk := true
    identity := device.identity
    totalMemory := b.memoryBytes
    usedMemory := 0
    freeMemory := b.memoryBytes
    memoryAllocOk := true
    h2dOk := true
    kernelExecOk := true
    syncOk := true
    d2hOk := true
    verifyOk := true
    coreValidationOk := true
    validationDetail := text "synthetic validation OK (no physical accelerator involved)"
    capabilities := [
      { id := ⟨1⟩
        name := text "vendor"
        kind := .inferred
        value := text "synthetic"
        description := text "synthetic vendor (not physical hardware)" },
      { id := ⟨2⟩
        name := text "kernel_execution"
        kind := .validated
        value := text "true"
        description := text "synthetic kernel execution (no physical accelerator involved)" }] }

/-- The backend as the agent sees it. -/
def toBackend (b : SyntheticDeviceBackend) : DeviceBackend where
  enumerate := b.enumerate
  probe := b.probe

theorem bar_not_mem_synthetic : 124 ∉ text "synthetic" := by decide

theorem plain (b : SyntheticDeviceBackend) (i : Nat) : (b.identity i).Plain where
  vendor := rfl
  vendorName := bar_not_mem_synthetic
  uuid := by
    have hdecimal : ∀ n, 124 ∉ decimal n := not_mem_decimal (by decide)
    have hprefix : (124 : UInt8) ∉ text "synthetic:" := by decide
    have hcolon : (124 : UInt8) ∉ text ":" := by decide
    show 124 ∉ identityFor i b.memoryBytes
    simp only [identityFor, List.mem_append, hdecimal, hprefix, hcolon, or_self,
      not_false_eq_true]
  architecture := bar_not_mem_synthetic
  driverVersion := bar_not_mem_synthetic

theorem enumerate_plain {b : SyntheticDeviceBackend} {ev : List EnumeratedDevice}
    (h : b.enumerate = .ok ev) : ∀ d ∈ ev, d.identity.Plain := by
  obtain rfl := Except.ok.inj h
  intro d hd
  obtain ⟨i, -, rfl⟩ := List.mem_map.mp hd
  exact b.plain i

/-- The UUID tells the devices apart. -/
theorem identityFor_inj {i j : Nat} {mem : UInt64} :
    identityFor i mem = identityFor j mem ↔ i = j := by
  rw [identityFor, identityFor, List.append_left_inj, List.append_left_inj,
    List.append_right_inj, decimal_inj]

theorem toBackend_faithful (b : SyntheticDeviceBackend) : b.toBackend.Faithful := by
  intro d probe hprobe
  obtain rfl := Except.ok.inj hprobe
  rfl

/-- The devices of a synthetic fleet have different keys. -/
theorem keys_nodup (b : SyntheticDeviceBackend) : b.toBackend.enumeratedKeys.Nodup := by
  show (((List.range b.count.toNat).map _).map _).Nodup
  rw [List.map_map]
  refine List.Nodup.map ?_ List.nodup_range
  intro i j hkey
  have hsame := SameStableIdentity.of_canonical (b.plain i) (b.plain j) hkey
  exact identityFor_inj.mp (congrArg DeviceUuid.value hsame.uuid)

end SyntheticDeviceBackend

/-! ## The CUDA backend -/

/-- The fields of `cudaDeviceProp` that are read. -/
structure CudaDeviceProp where
  pciDomainID : Int32
  pciBusID : Int32
  pciDeviceID : Int32
  major : Int32
  minor : Int32
  totalGlobalMem : UInt64

/-- What the calls of the CUDA runtime answer: the number of devices or the
text of an error, the properties of a device unless the call fails, and the
two versions, as they are when the device is introspected. -/
structure CudaRuntime where
  deviceCount : Except ByteString Int32
  deviceProperties : Nat → Option CudaDeviceProp
  driverVersion : Nat → Int32
  runtimeVersion : Nat → Int32

/-- `arch_for`. -/
def archFor (major : UInt32) : ByteString :=
  if 12 ≤ major then text "blackwell"
  else if major = 9 then text "hopper"
  else if major = 8 then text "ampere"
  else if major = 7 then text "volta"
  else if major = 6 then text "pascal"
  else text "cuda"

/-- `std::to_string` of an `int`. -/
def decimalInt (v : Int32) : ByteString :=
  if v < 0 then text "-" ++ decimal v.toInt.natAbs else decimal v.toInt.natAbs

/-- `runtime_major`. -/
def runtimeMajor (v : Int32) : UInt32 := (v / 1000).toUInt32

/-- `runtime_minor`. -/
def runtimeMinor (v : Int32) : UInt32 := ((v / 10) % 100).toUInt32

namespace CudaRuntime

/-- The body of the loop of `CudaDeviceBackend::enumerate`, for one device. -/
def identity (rt : CudaRuntime) (ord : Nat) (prop : CudaDeviceProp) : DeviceIdentity where
  vendor := .nvidia
  vendorName := text "NVIDIA"
  pci := {
    domain := prop.pciDomainID.toUInt32
    bus := prop.pciBusID.toInt16.toUInt16
    device := prop.pciDeviceID.toInt16.toUInt16
    function := 0 }
  architecture := archFor prop.major.toUInt32
  computeCapability := ⟨prop.major.toUInt32, prop.minor.toUInt32⟩
  totalPhysicalMemory := prop.totalGlobalMem
  numaNode := -1
  driverVersion := ⟨decimalInt (rt.driverVersion ord)⟩
  runtimeVersion := ⟨runtimeMajor (rt.runtimeVersion ord), runtimeMinor (rt.runtimeVersion ord)⟩

/-- `CudaDeviceBackend::enumerate`.  A device that cannot be introspected is
skipped. -/
def enumerate (rt : CudaRuntime) : Result (List EnumeratedDevice) :=
  match rt.deviceCount with
  | .error why =>
    .error { code := .unsupported, message := text "cudaGetDeviceCount failed: " ++ why }
  | .ok count =>
    .ok ((List.range count.toInt.toNat).filterMap fun ord =>
      (rt.deviceProperties ord).map fun prop => {
        ordinal := Int32.ofNat ord
        present := true
        identity := rt.identity ord prop })

end CudaRuntime

theorem bar_not_mem_archFor (major : UInt32) : 124 ∉ archFor major := by
  unfold archFor
  split_ifs <;> decide

theorem bar_not_mem_decimalInt (v : Int32) : 124 ∉ decimalInt v := by
  have hdecimal : 124 ∉ decimal v.toInt.natAbs := not_mem_decimal (by decide) _
  have hminus : (124 : UInt8) ∉ text "-" := by decide
  unfold decimalInt
  split
  · exact fun h => (List.mem_append.mp h).elim hminus hdecimal
  · exact hdecimal

theorem CudaRuntime.plain (rt : CudaRuntime) (ord : Nat) (prop : CudaDeviceProp) :
    (rt.identity ord prop).Plain where
  vendor := rfl
  vendorName := by
    show 124 ∉ text "NVIDIA"
    decide
  uuid := List.not_mem_nil
  architecture := bar_not_mem_archFor _
  driverVersion := bar_not_mem_decimalInt _

theorem CudaRuntime.enumerate_plain {rt : CudaRuntime} {ev : List EnumeratedDevice}
    (h : rt.enumerate = .ok ev) : ∀ d ∈ ev, d.identity.Plain := by
  unfold enumerate at h
  cases hcount : rt.deviceCount with
  | error why =>
    rw [hcount] at h
    cases h
  | ok count =>
    rw [hcount] at h
    obtain rfl := Except.ok.inj h
    intro d hd
    obtain ⟨ord, -, hord⟩ := List.mem_filterMap.mp hd
    obtain ⟨prop, -, rfl⟩ := Option.map_eq_some_iff.mp hord
    exact rt.plain ord prop

/-- CUDA devices that do not share a PCI address do not share a key. -/
theorem CudaRuntime.keys_nodup {rt : CudaRuntime} {ev : List EnumeratedDevice}
    (h : rt.enumerate = .ok ev)
    (hpci : ev.Pairwise fun d d' => d.identity.pci ≠ d'.identity.pci) :
    (ev.map fun d => canonicalDeviceIdentity d.identity).Nodup := by
  have hplain : ∀ identity ∈ ev.map EnumeratedDevice.identity, identity.Plain := by
    intro identity hidentity
    obtain ⟨d, hd, rfl⟩ := List.mem_map.mp hidentity
    exact enumerate_plain h d hd
  have hkeys := (canonicalKeys_nodup_iff hplain).mpr
    (List.pairwise_map.mpr (hpci.imp fun hne hsame => hne hsame.pci))
  rwa [List.map_map] at hkeys

/-! ## What is published -/

theorem filterMap_sublist_map {α β : Type} {f : α → Option β} {g : α → β}
    (h : ∀ x, f x = none ∨ f x = some (g x)) (xs : List α) :
    (xs.filterMap f).Sublist (xs.map g) := by
  induction xs with
  | nil => exact List.Sublist.slnil
  | cons x xs ih =>
    rw [List.map_cons]
    rcases h x with hx | hx
    · rw [List.filterMap_cons_none hx]
      exact ih.cons _
    · rw [List.filterMap_cons_some hx]
      exact ih.cons_cons _

namespace WorkerAgent.Publisher

/-- What is known of one device, if its probe succeeds. -/
theorem observe_key (a : Publisher) {backend : DeviceBackend} (h : backend.Faithful)
    (now : Timestamp) (d : EnumeratedDevice) :
    (a.observe backend now d).map DeviceObservation.key = none ∨
      (a.observe backend now d).map DeviceObservation.key
        = some (canonicalDeviceIdentity d.identity) := by
  unfold observe
  cases hprobe : backend.probe d with
  | error err => exact Or.inl rfl
  | ok probe =>
    right
    show some (canonicalDeviceIdentity probe.identity) = _
    rw [h d probe hprobe]

/-- The keys of a batch are those of the enumeration, without the devices
whose probe fails. -/
theorem keys_sublist (a : Publisher) {backend : DeviceBackend} (h : backend.Faithful)
    (clock : Nat → Timestamp) :
    ((a.batch backend clock).map DeviceObservation.key).Sublist backend.enumeratedKeys := by
  unfold batch DeviceBackend.enumeratedKeys
  cases backend.enumerate with
  | error err => exact List.Sublist.slnil
  | ok ev =>
    have hkeys : ev.zipIdx.map (fun e => canonicalDeviceIdentity e.1.identity)
        = ev.map fun d => canonicalDeviceIdentity d.identity := by
      calc ev.zipIdx.map (fun e => canonicalDeviceIdentity e.1.identity)
          = (ev.zipIdx.map Prod.fst).map (fun d => canonicalDeviceIdentity d.identity) := by
            rw [List.map_map]
            rfl
        _ = ev.map (fun d => canonicalDeviceIdentity d.identity) := by
            rw [List.zipIdx_map_fst]
    dsimp only
    rw [List.map_filterMap, ← hkeys]
    exact filterMap_sublist_map (fun e => a.observe_key h (clock e.2) e.1) ev.zipIdx

/-- An agent with a synthetic backend publishes no two devices with one key. -/
theorem synthetic_keys_nodup (a : Publisher) (b : SyntheticDeviceBackend)
    (clock : Nat → Timestamp) :
    ((a.batch b.toBackend clock).map DeviceObservation.key).Nodup :=
  b.keys_nodup.sublist (a.keys_sublist b.toBackend_faithful clock)

end WorkerAgent.Publisher

end GpuFleet
