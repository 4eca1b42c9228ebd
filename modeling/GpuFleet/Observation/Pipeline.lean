import GpuFleet.Observation.Change

/-!
# The observation pipeline

`observation/pipeline.hpp`, from a normalised observation to the new
authoritative state of a device.  `applyObservation` is pure: the caller
supplies the clock value and the epoch.

The lemmas at the end are what the store proofs use instead of the
definition: the fields that an application takes over from the observation
or keeps from the prior state, and what an operational health state
(`applyObservation_operational`) and an admitting verdict
(`applyObservation_admits`) say about the observation.
-/

namespace GpuFleet

/-- `ObservationPolicy`, with the defaults of the source. -/
structure ObservationPolicy where
  freshnessThresholdMs : DurationMs := 24 * 60 * 60 * 1000
  requiredArchitecture : ByteString := []
  requiredComputeCapability : ComputeCapability := {}
  requiredMemory : UInt64 := 0
  requireCoreValidation : Bool := true
  requiredCapabilities : List ByteString := []

/-- `health_signals_from_probe`. -/
def healthSignalsFromProbe (probe : DeviceObservation) (wasKnown observationStale : Bool) :
    HealthSignals where
  enumerated := probe.enumerated
  devicePresent := probe.present
  wasKnown := wasKnown
  driverRuntimeOk := probe.driverRuntimeOk
  cudaInitOk := probe.cudaInitOk
  memoryAllocOk := probe.memoryAllocOk
  kernelExecOk := probe.kernelExecOk
  syncOk := probe.syncOk
  memRoundtripOk := probe.d2hOk && probe.verifyOk
  fatalError := false
  consecutiveFailures := if probe.coreValidationOk then 0 else 1
  observationStale := observationStale
  lastValidationOk := probe.coreValidationOk

/-- `AppliedObservation`. -/
structure AppliedObservation where
  state : DeviceState := {}
  changes : List ChangeRecord := []
  eligibility : EligibilityResult := {}
  fresh : Bool := false
  accepted : Bool := false

/-- The `fresh` flag of `apply_observation`.  The subtraction is the one of
the source, on signed 64-bit values. -/
def observationIsFresh (prior : DeviceState) (norm : DeviceObservation)
    (policy : ObservationPolicy) (now : Timestamp) : Bool :=
  decide (norm.observedAt ≠ kInvalidTimestamp) &&
    decide (now - norm.observedAt ≤ policy.freshnessThresholdMs) &&
    (decide (prior.lastObservedAt ≤ norm.observedAt) ||
      decide (prior.lastObservedAt = kInvalidTimestamp))

/-- `ei.architecture_match`. -/
def architectureMatch (identity : DeviceIdentity) (policy : ObservationPolicy) : Bool :=
  let named := policy.requiredArchitecture.isEmpty ||
    decide (identity.architecture = policy.requiredArchitecture)
  if identity.computeCapability ≠ {} ∧ policy.requiredComputeCapability ≠ {} then
    named && identity.computeCapability.atLeast policy.requiredComputeCapability
  else named

/-- The loop over `policy.required_capabilities`, which starts from
`matched` and stops at the first requirement that no capability meets. -/
def capabilityMatch (caps : List Capability) (matched : Bool) : List ByteString → Bool
  | [] => matched
  | req :: rest =>
    if caps.any (fun c => decide (c.name = req) && decide (c.kind ≠ .unknown)) then
      capabilityMatch caps matched rest
    else false

/-- The candidate state of `apply_observation` before its eligibility is
known. -/
def candidateState (prior : DeviceState) (norm : DeviceObservation) (fresh : Bool)
    (health : HealthResult) : DeviceState where
  deviceId := norm.deviceId
  generation := norm.deviceGeneration
  identity := norm.identity
  present := norm.present
  health := health.state
  healthExplanation := health.explanation
  totalMemory := norm.totalMemory
  usedMemory := norm.usedMemory
  freeMemory := norm.freeMemory
  temperatureC := norm.temperatureC
  powerW := norm.powerW
  capabilities := norm.capabilities
  coreValidationOk := norm.coreValidationOk
  validationDetail := norm.validationDetail
  lastObservedAt := norm.observedAt
  lastValidatedAt := if norm.coreValidationOk then norm.observedAt else prior.lastValidatedAt
  observationGeneration := norm.observationGeneration
  sourceWorkerBoot := norm.sourceWorkerBoot
  observationFresh := fresh
  drain := prior.drain
  quarantined := prior.quarantined
  quarantine := prior.quarantine

/-- The `EligibilityInput` that `apply_observation` fills. -/
def eligibilityInput (cand : DeviceState) (norm : DeviceObservation)
    (policy : ObservationPolicy) (fresh : Bool) : EligibilityInput where
  health := cand.health
  observationFresh := fresh
  observedGeneration := cand.generation
  currentGeneration := cand.generation
  architectureMatch := architectureMatch cand.identity policy
  sufficientMemory := decide (policy.requiredMemory ≤ cand.totalMemory)
  driverMatch := true
  cudaAvailable := norm.driverRuntimeOk && norm.cudaInitOk
  capabilityMatch := capabilityMatch cand.capabilities policy.requiredCapabilities.isEmpty
    policy.requiredCapabilities
  drainActive := decide (cand.drain ≠ .active)
  quarantine := cand.quarantined
  workerAlive := true
  devicePresent := cand.present
  requiredMemory := policy.requiredMemory
  availableMemory := cand.freeMemory

/-- `apply_observation`. -/
def applyObservation (prior : DeviceState) (norm : DeviceObservation)
    (policy : ObservationPolicy) (now : Timestamp) (epoch : CoordinatorEpoch) :
    AppliedObservation :=
  let fresh := observationIsFresh prior norm policy now
  let hs := healthSignalsFromProbe norm prior.present (!fresh)
  let hs := if !norm.present then { hs with devicePresent := false } else hs
  let health := evaluateHealth hs
  let cand := candidateState prior norm fresh health
  let elig := evaluateEligibility (eligibilityInput cand norm policy fresh)
  let authoritative := fresh && decide (elig.state ≠ .stale) &&
    decide (elig.state ≠ .quarantined) && decide (elig.state ≠ .draining)
  let cand := { cand with
    eligibility := elig.state
    eligibilityReasons := elig.reasons
    lastAuthoritativeAt := if authoritative then now else prior.lastAuthoritativeAt }
  { state := cand
    changes := diffDeviceState prior cand norm.observedAt cand.generation epoch
    eligibility := elig
    fresh := fresh
    accepted := true }

/-! ## What an application does to a device -/

/-- The evidence that a healthy verdict rests on: the observation reports the
device present and every operational check passed. -/
structure DeviceObservation.Operational (o : DeviceObservation) : Prop where
  present : o.present = true
  driverRuntimeOk : o.driverRuntimeOk = true
  cudaInitOk : o.cudaInitOk = true
  memoryAllocOk : o.memoryAllocOk = true
  kernelExecOk : o.kernelExecOk = true
  syncOk : o.syncOk = true
  d2hOk : o.d2hOk = true
  verifyOk : o.verifyOk = true

section Apply

variable {prior : DeviceState} {norm : DeviceObservation} {policy : ObservationPolicy}
  {now : Timestamp} {epoch : CoordinatorEpoch}

/-- A health state that admits work rests on fresh evidence with every
operational check passed. -/
theorem applyObservation_operational
    (h : (applyObservation prior norm policy now epoch).state.health.Operational) :
    (applyObservation prior norm policy now epoch).fresh = true ∧ norm.Operational := by
  obtain ⟨hpresent, hdriver, hcuda, hstale, hcore⟩ := evaluateHealth_operational h
  -- The signals with `devicePresent` cleared cannot be operational.
  by_cases hp : norm.present = true
  · rw [if_neg (by simp [hp])] at hdriver hcuda hstale hcore
    simp only [HealthSignals.coreOk, healthSignalsFromProbe, Bool.and_eq_true] at hcore
    obtain ⟨⟨⟨halloc, hkernel⟩, hsync⟩, hd2h, hverify⟩ := hcore
    refine ⟨?_, hp, hdriver, hcuda, halloc, hkernel, hsync, hd2h, hverify⟩
    have hfresh : observationIsFresh prior norm policy now = true := by
      simpa [healthSignalsFromProbe] using hstale
    exact hfresh
  · rw [if_pos (by simpa using hp)] at hpresent
    simp at hpresent

/-- An admitting verdict: no fence, fresh evidence, a present device and an
operational health state. -/
theorem applyObservation_admits
    (h : (applyObservation prior norm policy now epoch).state.eligibility.Admits) :
    prior.quarantined = false ∧ prior.drain = .active ∧
      (applyObservation prior norm policy now epoch).fresh = true ∧ norm.present = true ∧
      (applyObservation prior norm policy now epoch).state.health.Operational := by
  obtain ⟨hq, hd, hf, hp, hh⟩ := evaluateEligibility_admits h
  exact ⟨hq, by simpa [eligibilityInput, candidateState] using hd, hf, hp, hh⟩

end Apply

end GpuFleet
