import GpuFleet.Agent.Backends
import GpuFleet.Device.CudaValidation
import GpuFleet.Fleet.EligibilitySafety
import GpuFleet.Observation.Policy

/-!
# What a CUDA probe is worth

`probe` of `cuda/cuda_backend.cpp`, and what becomes of its result in the
agent, in the pipeline and in the store.

The health of a CUDA device rests on the first part of the validation: it is
healthy exactly when the evidence is fresh, every call up to the copy back
succeeded, and every element that came back matches the reference or is a NaN.
It is admitted exactly when, in addition, no fence is up and the policy lets it
through (`cuda_healthy_iff`).  That the buffers could not be freed or that the
memory did not come back does not count, and the capabilities call the kernel
validated in any case.  `cuda_eligible_validated` is about whole runs of the
store.
-/

namespace GpuFleet

open Handles (Owned)
open FleetStateStore

/-- What the calls of one probe answer: the error of `cudaSetDevice`, whether
the context could be created, the two versions and the memory if these calls
succeed, and the calls of the validation. -/
structure CudaProbeAnswers where
  setDevice : Option ByteString
  contextOk : Bool
  driverVersion : Option Int32
  runtimeVersion : Option Int32
  memInfo : Option (UInt64 × UInt64)
  validation : CudaAnswers

namespace CudaDeviceBackend

/-- `make_cap`. -/
def makeCap (id : UInt64) (name : String) (kind : CapabilityKind) (value : ByteString)
    (desc : String) : Capability where
  id := ⟨id⟩
  name := text name
  kind := kind
  value := value
  description := text desc

/-- "true" or "false". -/
def boolText (b : Bool) : ByteString := if b then text "true" else text "false"

/-- The capabilities of a probe. -/
def capabilities (identity : DeviceIdentity) (free total : UInt64) (rv : Int32) :
    List Capability :=
  [makeCap 1 "vendor" .discovered (text "nvidia") "vendor reported by CUDA",
    makeCap 2 "architecture" .discovered identity.architecture
      "architecture from compute capability",
    makeCap 3 "compute_capability" .discovered identity.computeCapability.toText
      "compute capability",
    makeCap 4 "total_memory" .discovered (decimal total.toNat) "total physical memory bytes",
    makeCap 5 "usable_memory" .discovered (decimal free.toNat) "free memory bytes at probe",
    makeCap 6 "cuda_available" .discovered (text "true") "CUDA runtime initialized",
    makeCap 7 "runtime" .discovered
      (decimal (runtimeMajor rv).toNat ++ text "." ++ decimal (runtimeMinor rv).toNat)
      "CUDA runtime version",
    makeCap 8 "dtypes" .discovered (text "fp32") "validated dtype (fp32)",
    makeCap 9 "tensor_cores" .inferred
      (boolText (decide (7 ≤ identity.computeCapability.major)))
      "tensor cores inferred from compute capability",
    makeCap 10 "unified_addressing" .discovered
      (boolText (decide (6 ≤ identity.computeCapability.major)))
      "unified addressing (historical, discovered)",
    makeCap 11 "graphs" .inferred (text "true") "CUDA graphs inferred for CUDA >= 10",
    makeCap 12 "cooperative_launch" .unknown (text "unknown") "not queried via CUDA runtime",
    makeCap 13 "kernel_execution" .validated (text "true")
      "a real CUDA kernel executed and synchronized",
    makeCap 14 "memory_roundtrip" .validated (text "true")
      "H2D + D2H round-trip verified against CPU reference",
    makeCap 15 "driver" .discovered identity.driverVersion.text "CUDA driver version",
    makeCap 16 "numa" .unknown (text "unknown") "NUMA node not surfaced by CUDA runtime"]

/-- `CudaDeviceBackend::probe`.  The runtime version is asked for only after the
driver version. -/
def probe (log : DeviceLog) (os : CudaProbeAnswers) (device : EnumeratedDevice) :
    DeviceLog × Result DeviceProbe :=
  match os.setDevice with
  | some why =>
    (log, .error { code := .unsupported, message := text "cudaSetDevice failed: " ++ why })
  | none =>
  if !os.contextOk then
    (log, .error (errorResult .unsupported "CUDA context initialization failed"))
  else
  let versionsOk := os.driverVersion.isSome && os.runtimeVersion.isSome
  let rv := if os.driverVersion.isSome then os.runtimeVersion.getD 0 else 0
  match os.memInfo with
  | none => (log, .error (errorResult .unsupported "cudaMemGetInfo failed"))
  | some (free, total) =>
  let (log, v) := runCudaValidation log os.validation
  (log, .ok {
    enumerated := true
    present := true
    cudaInitOk := true
    driverRuntimeOk := versionsOk
    totalMemory := total
    freeMemory := free
    usedMemory := total - free
    identity := device.identity
    coreValidationOk := v.ok
    validationDetail := v.detail
    memoryAllocOk := v.allocOk
    h2dOk := v.h2dOk
    kernelExecOk := v.kernelOk
    syncOk := v.syncOk
    d2hOk := v.d2hOk
    verifyOk := v.verifyOk
    capabilities := capabilities device.identity free total rv })

/-- The backend as the agent sees it. -/
def toBackend (rt : CudaRuntime) (log : DeviceLog) (os : EnumeratedDevice → CudaProbeAnswers) :
    DeviceBackend where
  enumerate := rt.enumerate
  probe := fun d => (probe log (os d) d).2

end CudaDeviceBackend

/-! ## From the calls to the verdict -/

/-- Both versions were read, every call of the validation up to the copy back
succeeded, and every element that came back passes the test. -/
structure CudaProbeAnswers.Sound (os : CudaProbeAnswers) (log : DeviceLog) : Prop where
  driverVersion : os.driverVersion.isSome = true
  runtimeVersion : os.runtimeVersion.isSome = true
  validation : os.validation.Passed log

/-- The observation is what an agent makes of a CUDA probe. -/
def DeviceObservation.Reports (o : DeviceObservation) (log : DeviceLog) (os : CudaProbeAnswers) :
    Prop :=
  ∃ (a : WorkerAgent.Publisher) (rt : CudaRuntime) (answers : EnumeratedDevice → CudaProbeAnswers)
    (d : EnumeratedDevice) (now : Timestamp), answers d = os ∧
    a.observe (CudaDeviceBackend.toBackend rt log answers) now d = some o

section Verdict

variable {log : DeviceLog} {held : List DevicePtr} {os : CudaProbeAnswers}
  {o : DeviceObservation}

theorem CudaValidationResult.core_eq_true {r : CudaValidationResult} :
    r.core = true ↔ r.allocOk = true ∧ r.kernelOk = true ∧ r.syncOk = true ∧ r.d2hOk = true ∧
      r.verifyOk = true := by
  simp [core, and_assoc]

/-- What a probe that succeeds has found. -/
theorem CudaDeviceBackend.probe_ok {device : EnumeratedDevice} {p : DeviceProbe}
    (h : (probe log os device).2 = .ok p) :
    p.present = true ∧ p.cudaInitOk = true ∧
      (p.driverRuntimeOk = true ↔
        os.driverVersion.isSome = true ∧ os.runtimeVersion.isSome = true) ∧
      ((p.memoryAllocOk = true ∧ p.kernelExecOk = true ∧ p.syncOk = true ∧ p.d2hOk = true ∧
          p.verifyOk = true) ↔ (runCudaValidation log os.validation).2.core = true) ∧
      p.coreValidationOk = (runCudaValidation log os.validation).2.ok ∧
      ∃ free total rv, p.capabilities = capabilities p.identity free total rv := by
  unfold probe at h
  cases hset : os.setDevice with
  | some why =>
    rw [hset] at h
    cases h
  | none =>
    rw [hset] at h
    dsimp only at h
    split at h
    · cases h
    · cases hinfo : os.memInfo with
      | none =>
        rw [hinfo] at h
        cases h
      | some info =>
        rw [hinfo] at h
        obtain rfl := Except.ok.inj h
        refine ⟨rfl, rfl, ?_, CudaValidationResult.core_eq_true.symm, rfl, _, _, _, rfl⟩
        exact Bool.and_eq_true_iff

/-- The agent adds no evidence, and drops none. -/
theorem DeviceObservation.Reports.operational_iff (ho : Owned log held) (h : o.Reports log os) :
    o.Operational ↔ os.Sound log := by
  obtain ⟨a, rt, answers, d, now, hos, hobserve⟩ := h
  unfold WorkerAgent.Publisher.observe at hobserve
  cases hprobe : (CudaDeviceBackend.toBackend rt log answers).probe d with
  | error err =>
    rw [hprobe] at hobserve
    cases hobserve
  | ok p =>
    rw [hprobe] at hobserve
    obtain rfl := Option.some.inj hobserve
    have hp : (CudaDeviceBackend.probe log os d).2 = .ok p := by
      rw [← hos]
      exact hprobe
    obtain ⟨hpresent, hinit, hversions, hcore, -⟩ := CudaDeviceBackend.probe_ok hp
    have hpassed := (runCudaValidation_exit ho os.validation).core_iff
    constructor
    · intro h
      obtain ⟨hdriver, hruntime⟩ := hversions.mp h.driverRuntimeOk
      exact ⟨hdriver, hruntime, hpassed.mp (hcore.mp
        ⟨h.memoryAllocOk, h.kernelExecOk, h.syncOk, h.d2hOk, h.verifyOk⟩)⟩
    · intro h
      obtain ⟨halloc, hkernel, hsync, hd2h, hverify⟩ := hcore.mpr (hpassed.mpr h.validation)
      exact ⟨hpresent, hversions.mpr ⟨h.driverVersion, h.runtimeVersion⟩, hinit, halloc, hkernel,
        hsync, hd2h, hverify⟩

/-- The capabilities of a report do not depend on the validation. -/
theorem DeviceObservation.Reports.capabilities (h : o.Reports log os) :
    ∃ free total rv,
      o.capabilities = CudaDeviceBackend.capabilities o.identity free total rv := by
  obtain ⟨a, rt, answers, d, now, rfl, hobserve⟩ := h
  unfold WorkerAgent.Publisher.observe at hobserve
  cases hprobe : (CudaDeviceBackend.toBackend rt log answers).probe d with
  | error err =>
    rw [hprobe] at hobserve
    cases hobserve
  | ok p =>
    rw [hprobe] at hobserve
    obtain rfl := Option.some.inj hobserve
    exact (CudaDeviceBackend.probe_ok hprobe).2.2.2.2.2

/-- What the code asks of an observation for a policy. -/
structure ObservationPolicy.Gates (policy : ObservationPolicy) (o : DeviceObservation) :
    Prop where
  architecture : policy.requiredArchitecture = [] ∨
    o.identity.architecture = policy.requiredArchitecture
  computeCapability : o.identity.computeCapability = {} ∨
    policy.requiredComputeCapability = {} ∨
    o.identity.computeCapability.atLeast policy.requiredComputeCapability = true
  totalMemory : policy.requiredMemory ≤ o.totalMemory
  freeMemory : policy.requiredMemory ≤ o.freeMemory
  capabilities : policy.requiredCapabilities = []

/-- The observation, if the validation had said something else on the whole
sequence and on the memory. -/
def DeviceObservation.judged (o : DeviceObservation) (ok : Bool) (detail : ByteString) :
    DeviceObservation :=
  { o with coreValidationOk := ok, validationDetail := detail }

section Apply

variable {prior : DeviceState} {policy : ObservationPolicy} {now : Timestamp}
  {epoch : CoordinatorEpoch}

/-- Fresh evidence of every kind, and nothing less, makes a healthy device. -/
theorem healthy_iff_operational :
    (applyObservation prior o policy now epoch).state.health = .healthy ↔
      observationIsFresh prior o policy now = true ∧ o.Operational := by
  constructor
  · intro hhealthy
    exact applyObservation_operational (Or.inl hhealthy)
  · rintro ⟨hfresh, hoperational⟩
    exact appliedHealth_of_evidence hfresh hoperational

theorem admits_iff_operational :
    (applyObservation prior o policy now epoch).state.eligibility.Admits ↔
      prior.Unfenced ∧ observationIsFresh prior o policy now = true ∧ o.Operational ∧
        policy.Gates o := by
  rw [applyObservation_admits_iff]
  constructor
  · rintro ⟨hpast, hnone⟩
    exact ⟨hpast.unfenced, hpast.fresh, hpast.evidence, hpast.architecture,
      hpast.computeCapability, hpast.totalMemory, hpast.freeMemory, hnone⟩
  · rintro ⟨hunfenced, hfresh, hoperational, hgates⟩
    exact ⟨⟨hunfenced, hfresh, hoperational, hgates.architecture, hgates.computeCapability,
      hgates.totalMemory, hgates.freeMemory⟩, hgates.capabilities⟩

end Apply

theorem operational_judged (ok : Bool) (detail : ByteString) :
    (o.judged ok detail).Operational ↔ o.Operational :=
  ⟨fun h => ⟨h.1, h.2, h.3, h.4, h.5, h.6, h.7, h.8⟩,
    fun h => ⟨h.1, h.2, h.3, h.4, h.5, h.6, h.7, h.8⟩⟩

theorem gates_judged (policy : ObservationPolicy) (ok : Bool) (detail : ByteString) :
    policy.Gates (o.judged ok detail) ↔ policy.Gates o :=
  ⟨fun h => ⟨h.1, h.2, h.3, h.4, h.5⟩, fun h => ⟨h.1, h.2, h.3, h.4, h.5⟩⟩

/-- What one application makes of a CUDA probe.  The device is healthy exactly
when the evidence is fresh, both versions were read and the validation passed
up to the comparison.  It is admitted exactly when, in addition, it is neither
drained nor quarantined and the policy lets it through.  What the validation
says on the freeing of the buffers and on the memory makes no difference to
either.  In each case the capabilities of the device say that a kernel was
executed and verified. -/
theorem cuda_healthy_iff (ho : Owned log held) (h : o.Reports log os) (prior : DeviceState)
    (policy : ObservationPolicy) (now : Timestamp) (epoch : CoordinatorEpoch) :
    ((applyObservation prior o policy now epoch).state.health = .healthy ↔
        observationIsFresh prior o policy now = true ∧ os.Sound log) ∧
      ((applyObservation prior o policy now epoch).state.eligibility.Admits ↔
        prior.Unfenced ∧ observationIsFresh prior o policy now = true ∧ os.Sound log ∧
          policy.Gates o) ∧
      (∀ ok detail,
        ((applyObservation prior (o.judged ok detail) policy now epoch).state.health = .healthy ↔
          (applyObservation prior o policy now epoch).state.health = .healthy) ∧
        ((applyObservation prior (o.judged ok detail) policy now epoch).state.eligibility.Admits ↔
          (applyObservation prior o policy now epoch).state.eligibility.Admits)) ∧
      ∀ name ∈ [text "kernel_execution", text "memory_roundtrip"],
        ∃ c ∈ (applyObservation prior o policy now epoch).state.capabilities,
          c.name = name ∧ c.kind = .validated ∧ c.value = text "true" := by
  have hsound := h.operational_iff ho
  refine ⟨?_, ?_, fun ok detail => ⟨?_, ?_⟩, ?_⟩
  · rw [healthy_iff_operational, hsound]
  · rw [admits_iff_operational, hsound]
  · rw [healthy_iff_operational, healthy_iff_operational, operational_judged]
    rfl
  · rw [admits_iff_operational, admits_iff_operational, operational_judged, gates_judged]
    rfl
  · intro name hname
    obtain ⟨free, total, rv, hcaps⟩ := h.capabilities
    have hstate : (applyObservation prior o policy now epoch).state.capabilities
        = CudaDeviceBackend.capabilities o.identity free total rv := hcaps
    rw [hstate]
    rcases List.mem_cons.mp hname with rfl | hname
    · exact ⟨_, List.mem_of_getElem? (i := 12) rfl, rfl, rfl, rfl⟩
    · obtain rfl := List.mem_singleton.mp hname
      exact ⟨_, List.mem_of_getElem? (i := 13) rfl, rfl, rfl, rfl⟩

end Verdict

/-! ## In a run of the store -/

/-- In every state of every run, recoveries included: if a device is eligible,
degraded or not, and the last report about it came from a CUDA probe, then the
report was fresh, the probe read both versions, the calls of its validation up
to the copy back succeeded, and every element that came back matches the
reference or is a NaN. -/
theorem cuda_eligible_validated (coord : CoordinatorId) (epoch : CoordinatorEpoch)
    (ops : List Op) (key : ByteString) (d : DeviceState)
    (hd : ((empty coord epoch).run ops).devices[key]? = some d)
    (hadmits : d.eligibility.Admits) :
    LastApplied (applicationsOf ((empty coord epoch).history ops)) key fun a =>
      a.outcome.fresh = true ∧
        ∀ (log : DeviceLog) (held : List DevicePtr) (os : CudaProbeAnswers), Owned log held →
          a.obs.Reports log os → os.Sound log := by
  have hsafe := storeSafe_run coord epoch ops key d hd
  have hcleared := hsafe.cleared hadmits
  obtain ⟨before, a, after, happs, ⟨hkey, hfresh, hoperational⟩, hlater⟩ :=
    hsafe.evidence hcleared.observationFresh
  refine ⟨before, a, after, happs, ⟨hkey, hfresh, ?_⟩, hlater⟩
  intro log held os ho hreports
  exact (hreports.operational_iff ho).mp (hoperational hcleared.health)

/-! ## A device that keeps some memory -/

/-- The validation is the one of a device that keeps 17 MiB and returns a NaN. -/
def sampleProbeAnswers : CudaProbeAnswers where
  setDevice := none
  contextOk := true
  driverVersion := some 12040
  runtimeVersion := some 12040
  memInfo := some (1024 * 1024 * 1024, 2048 * 1024 * 1024)
  validation := sampleCudaAnswers

/-- One device, on a runtime of version 12.4. -/
def sampleCudaRuntime : CudaRuntime where
  deviceCount := .ok 1
  deviceProperties := fun _ => none
  driverVersion := fun _ => 12040
  runtimeVersion := fun _ => 12040

/-- The device as it is enumerated. -/
def sampleCudaDevice : EnumeratedDevice where
  ordinal := 0
  identity := sampleIdentity
  present := true

/-- An agent that is registered in epoch 1. -/
def sampleCudaAgent : WorkerAgent.Publisher where
  opts := { worker := ⟨1⟩, boot := ⟨10⟩ }
  lastKnownEpoch := ⟨1⟩

/-- What the agent reports, with what the validation has to say. -/
def sampleReportWith (verified ok : Bool) (detail : ByteString) : DeviceObservation where
  deviceId := ⟨1⟩
  observationGeneration := ⟨1⟩
  healthGeneration := ⟨1⟩
  observedAt := 5000
  sourceWorkerBoot := ⟨10⟩
  sourceWorker := ⟨1⟩
  sourceNode := ⟨1⟩
  epoch := ⟨1⟩
  deviceGeneration := ⟨1⟩
  identity := sampleIdentity
  totalMemory := 2048 * 1024 * 1024
  usedMemory := 1024 * 1024 * 1024
  freeMemory := 1024 * 1024 * 1024
  capabilities := CudaDeviceBackend.capabilities sampleIdentity (1024 * 1024 * 1024)
    (2048 * 1024 * 1024) 12040
  coreValidationOk := ok
  validationDetail := detail
  enumerated := true
  driverRuntimeOk := true
  cudaInitOk := true
  memoryAllocOk := true
  h2dOk := true
  kernelExecOk := true
  syncOk := true
  d2hOk := true
  verifyOk := verified

/-- The report of the probe. -/
def sampleCudaReport : DeviceObservation := sampleReportWith true false []

-- The loop over the elements is not run.
attribute [local irreducible] firstMismatch in
/-- What the agent makes of the probe, in terms of the loop. -/
theorem observe_sampleCudaDevice :
    sampleCudaAgent.observe
        (CudaDeviceBackend.toBackend sampleCudaRuntime [] fun _ => sampleProbeAnswers) 5000
        sampleCudaDevice
      = some (sampleReportWith (firstMismatch sampleCudaAnswers.hostOut 0 kElements).isNone
          (runCudaValidation [] sampleCudaAnswers).2.ok
          (runCudaValidation [] sampleCudaAnswers).2.detail) :=
  rfl

theorem sampleCudaReport_reports : sampleCudaReport.Reports [] sampleProbeAnswers := by
  refine ⟨sampleCudaAgent, sampleCudaRuntime, fun _ => sampleProbeAnswers, sampleCudaDevice, 5000,
    rfl, ?_⟩
  have hexit := runCudaValidation_exit Owned.nil sampleCudaAnswers
  have hverified : firstMismatch sampleCudaAnswers.hostOut 0 kElements = none :=
    (CudaAnswers.passed_iff sampleCudaAnswers_passed.toRan).mp sampleCudaAnswers_passed
  have hok : (runCudaValidation [] sampleCudaAnswers).2.ok = false :=
    Bool.eq_false_iff.mpr fun h => sampleCudaAnswers_not_restored (hexit.ok_iff.mp h).2
  have hdetail : (runCudaValidation [] sampleCudaAnswers).2.detail = [] :=
    hexit.detail_iff.mpr
      ⟨sampleCudaAnswers_passed, rfl, ⟨_, rfl⟩, sampleCudaAnswers_not_restored⟩
  rw [observe_sampleCudaDevice, hverified, hok, hdetail]
  rfl

/-- The worker registers and reports the probe. -/
def sampleCudaRun : List Op :=
  [.registerWorker (sampleRegistration 1 10 1) 1000,
    .ingestSnapshot ⟨1⟩ [sampleCudaReport] {} 5000]

/-- The memory is not back and one element is a NaN, and the device is healthy
and admitted all the same. -/
theorem sampleCuda_healthy :
    sampleCudaReport.coreValidationOk = false ∧
      (applyObservation {} sampleCudaReport {} 5000 ⟨1⟩).state.health = .healthy ∧
      (applyObservation {} sampleCudaReport {} 5000 ⟨1⟩).state.eligibility.Admits := by
  have hsound : sampleProbeAnswers.Sound [] := ⟨rfl, rfl, sampleCudaAnswers_passed⟩
  obtain ⟨hhealthy, hadmits, -⟩ :=
    cuda_healthy_iff Owned.nil sampleCudaReport_reports {} {} 5000 ⟨1⟩
  refine ⟨rfl, hhealthy.mpr ⟨by decide, hsound⟩, hadmits.mpr ⟨⟨rfl, rfl⟩, by decide, hsound, ?_⟩⟩
  exact ⟨Or.inl rfl, Or.inr (Or.inl rfl), by decide, by decide, rfl⟩

set_option maxRecDepth 4000 in
theorem sampleCuda_eligible :
    ∃ d, (sampleStore.run sampleCudaRun).devices[sampleKey]? = some d ∧ d.eligibility.Admits ∧
      LastApplied (applicationsOf (sampleStore.history sampleCudaRun)) sampleKey fun a =>
        a.outcome.fresh = true ∧
          ∀ (log : DeviceLog) (held : List DevicePtr) (os : CudaProbeAnswers), Owned log held →
            a.obs.Reports log os → os.Sound log :=
  ⟨_, rfl, Or.inl rfl,
    cuda_eligible_validated ⟨1⟩ ⟨1⟩ sampleCudaRun sampleKey _ rfl (Or.inl rfl)⟩

end GpuFleet
