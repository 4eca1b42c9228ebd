import GpuFleet.Observation.Pipeline

/-!
# The policy of an ingest

`ObservationPolicy` names what a device has to meet before work is placed on it,
and `apply_observation` turns it into gates.  Three of the gates are not what the
policy says:

* nothing reads `require_core_validation`,
* a device that reports no compute capability passes every required one,
* the search for the required capabilities starts from "matched" only where
  nothing is required, and never sets the flag, so a policy that requires any
  capability admits no device.

`applyObservation_admits_iff` says what the code admits, and the results on the
gates of the policy (`policy_sound_iff`, `capabilities_decided_iff`) follow from
it.
-/

namespace GpuFleet

/-! ## The gates of the policy -/

/-- The capability is advertised, and not as unknown. -/
def DeviceObservation.Advertises (o : DeviceObservation) (name : ByteString) : Prop :=
  ∃ c ∈ o.capabilities, c.name = name ∧ c.kind ≠ .unknown

/-- The observation passes every gate of the policy. -/
structure ObservationPolicy.Met (policy : ObservationPolicy) (o : DeviceObservation) : Prop where
  architecture : policy.requiredArchitecture ≠ [] →
    o.identity.architecture = policy.requiredArchitecture
  computeCapability : policy.requiredComputeCapability ≠ {} →
    o.identity.computeCapability.atLeast policy.requiredComputeCapability = true
  totalMemory : policy.requiredMemory ≤ o.totalMemory
  freeMemory : policy.requiredMemory ≤ o.freeMemory
  capabilities : ∀ req ∈ policy.requiredCapabilities, o.Advertises req
  validation : policy.requireCoreValidation = true → o.coreValidationOk = true

/-- The inputs pass every check of `apply_observation` other than the one for
capabilities. -/
structure Unhindered (prior : DeviceState) (norm : DeviceObservation)
    (policy : ObservationPolicy) (now : Timestamp) : Prop where
  unfenced : prior.Unfenced
  fresh : observationIsFresh prior norm policy now = true
  evidence : norm.Operational
  architecture : policy.requiredArchitecture = [] ∨
    norm.identity.architecture = policy.requiredArchitecture
  computeCapability : norm.identity.computeCapability = {} ∨
    policy.requiredComputeCapability = {} ∨
    norm.identity.computeCapability.atLeast policy.requiredComputeCapability = true
  totalMemory : policy.requiredMemory ≤ norm.totalMemory
  freeMemory : policy.requiredMemory ≤ norm.freeMemory

theorem architectureMatch_iff (identity : DeviceIdentity) (policy : ObservationPolicy) :
    architectureMatch identity policy = true ↔
      (policy.requiredArchitecture = [] ∨
          identity.architecture = policy.requiredArchitecture) ∧
        (identity.computeCapability = {} ∨ policy.requiredComputeCapability = {} ∨
          identity.computeCapability.atLeast policy.requiredComputeCapability = true) := by
  unfold architectureMatch
  by_cases hzero : identity.computeCapability ≠ {} ∧ policy.requiredComputeCapability ≠ {}
  · obtain ⟨hdevice, hrequired⟩ := hzero
    simp [hdevice, hrequired]
  · rw [if_neg hzero]
    have hescape : identity.computeCapability = {} ∨ policy.requiredComputeCapability = {} := by
      by_contra hne
      rw [not_or] at hne
      exact hzero hne
    simp [← or_assoc, hescape]

/-- A loop that starts from "not matched" ends there. -/
theorem capabilityMatch_false (caps : List Capability) (reqs : List ByteString) :
    capabilityMatch caps false reqs = false := by
  induction reqs with
  | nil => rfl
  | cons req rest ih =>
    rw [capabilityMatch, ih, ite_self]

/-- The check for capabilities passes exactly where none is required. -/
theorem capabilityMatch_iff (caps : List Capability) (reqs : List ByteString) :
    capabilityMatch caps reqs.isEmpty reqs = true ↔ reqs = [] := by
  cases reqs with
  | nil => exact iff_of_true rfl rfl
  | cons req rest =>
    rw [List.isEmpty_cons, capabilityMatch_false]
    simp

/-- Full evidence makes a healthy device. -/
theorem evaluateHealth_of_evidence {o : DeviceObservation} (h : o.Operational) (known : Bool) :
    (evaluateHealth (healthSignalsFromProbe o known false)).state = .healthy := by
  cases hv : o.coreValidationOk <;>
    simp [evaluateHealth, healthSignalsFromProbe, HealthSignals.coreOk, hv, h.present,
      h.driverRuntimeOk, h.cudaInitOk, h.memoryAllocOk, h.kernelExecOk, h.syncOk, h.d2hOk,
      h.verifyOk]

/-! ## What the code admits -/

section Apply

variable {prior : DeviceState} {norm : DeviceObservation} {policy : ObservationPolicy}
  {now : Timestamp} {epoch : CoordinatorEpoch}

/-- The health that an application gives to a device. -/
def appliedHealth (prior : DeviceState) (norm : DeviceObservation) (policy : ObservationPolicy)
    (now : Timestamp) : HealthState :=
  (applyObservation prior norm policy now {}).state.health

/-- Where no fence is up, the verdict is a cascade over the observation and the
policy. -/
theorem applyObservation_open (h : prior.Unfenced) :
    (applyObservation prior norm policy now epoch).state.verdict =
      if observationIsFresh prior norm policy now = false then ⟨.stale, [.staleObservation]⟩
      else if norm.present = false then ⟨.ineligible, [.deviceDisappearance]⟩
      else if (norm.driverRuntimeOk && norm.cudaInitOk) = false then
        ⟨.ineligible, [.cudaUnavailable]⟩
      else if architectureMatch norm.identity policy = false then
        ⟨.ineligible, [.architectureMismatch]⟩
      else if decide (policy.requiredMemory ≤ norm.totalMemory) = false ∨
          norm.freeMemory < policy.requiredMemory then
        ⟨.ineligible, [.insufficientMemory]⟩
      else if capabilityMatch norm.capabilities policy.requiredCapabilities.isEmpty
          policy.requiredCapabilities = false then
        ⟨.ineligible, [.capabilityMismatch]⟩
      else eligibilityFromHealth (appliedHealth prior norm policy now) := by
  have hverdict : (applyObservation prior norm policy now epoch).state.verdict
      = evaluateEligibility (eligibilityInput (candidateState prior norm _ _) norm policy _) := rfl
  rw [hverdict, evaluateEligibility_open
    ⟨h.quarantined, decide_eq_false (not_not.mpr h.drain), rfl, rfl, rfl, rfl⟩]
  rfl

/-- The signals of a device that is present are those of the probe. -/
theorem appliedHealth_of_present (h : norm.present = true) :
    appliedHealth prior norm policy now = (evaluateHealth (healthSignalsFromProbe norm
      prior.present (!observationIsFresh prior norm policy now))).state := by
  have hhealth : appliedHealth prior norm policy now = (evaluateHealth
      (if !norm.present then
        { healthSignalsFromProbe norm prior.present (!observationIsFresh prior norm policy now) with
          devicePresent := false }
      else healthSignalsFromProbe norm prior.present
        (!observationIsFresh prior norm policy now))).state := rfl
  rw [hhealth, if_neg (by simp [h])]

/-- Fresh evidence of every kind makes a healthy device. -/
theorem appliedHealth_of_evidence (hfresh : observationIsFresh prior norm policy now = true)
    (h : norm.Operational) : appliedHealth prior norm policy now = .healthy := by
  rw [appliedHealth_of_present h.present, hfresh]
  exact evaluateHealth_of_evidence h prior.present

/-- Past the other checks, the one for capabilities decides. -/
theorem applyObservation_unhindered (h : Unhindered prior norm policy now)
    (epoch : CoordinatorEpoch) :
    (applyObservation prior norm policy now epoch).state.verdict =
      if policy.requiredCapabilities = [] then ⟨.eligible, []⟩
      else ⟨.ineligible, [.capabilityMismatch]⟩ := by
  have harch := (architectureMatch_iff norm.identity policy).mpr
    ⟨h.architecture, h.computeCapability⟩
  have hmemory : ¬(decide (policy.requiredMemory ≤ norm.totalMemory) = false ∨
      norm.freeMemory < policy.requiredMemory) := by
    rw [not_or, UInt64.not_lt]
    exact ⟨by simp [h.totalMemory], h.freeMemory⟩
  rw [applyObservation_open h.unfenced, if_neg (by simp [h.fresh]),
    if_neg (by simp [h.evidence.present]),
    if_neg (by simp [h.evidence.driverRuntimeOk, h.evidence.cudaInitOk]),
    if_neg (by simp [harch]), if_neg hmemory, appliedHealth_of_evidence h.fresh h.evidence]
  by_cases hnone : policy.requiredCapabilities = []
  · rw [if_pos hnone, if_neg (by simp [(capabilityMatch_iff _ _).mpr hnone])]
    rfl
  · have hmismatch := mt (capabilityMatch_iff norm.capabilities _).mp hnone
    rw [if_neg hnone, if_pos (Bool.eq_false_iff.mpr hmismatch)]

/-- What `apply_observation` admits. -/
theorem applyObservation_admits_iff :
    (applyObservation prior norm policy now epoch).state.eligibility.Admits ↔
      Unhindered prior norm policy now ∧ policy.requiredCapabilities = [] := by
  constructor
  · intro h
    obtain ⟨hquarantined, hdrain, hfresh, _, hhealth⟩ := applyObservation_admits h
    have hunfenced : prior.Unfenced := ⟨hdrain, hquarantined⟩
    let P : EligibilityResult → Prop := fun r => r.state.Admits
    have hcascade : P (applyObservation prior norm policy now epoch).state.verdict := h
    rw [applyObservation_open hunfenced] at hcascade
    obtain ⟨_, hcascade⟩ := pass_gate hcascade (by decide)
    obtain ⟨_, hcascade⟩ := pass_gate hcascade (by decide)
    obtain ⟨_, hcascade⟩ := pass_gate hcascade (by decide)
    obtain ⟨harch, hcascade⟩ := pass_gate hcascade (by decide)
    obtain ⟨hmemory, hcascade⟩ := pass_gate hcascade (by decide)
    obtain ⟨hcaps, _⟩ := pass_gate hcascade (by decide)
    rw [Bool.not_eq_false, architectureMatch_iff] at harch
    rw [Bool.not_eq_false, capabilityMatch_iff] at hcaps
    rw [not_or, UInt64.not_lt] at hmemory
    exact ⟨⟨hunfenced, hfresh, (applyObservation_operational hhealth).2, harch.1, harch.2,
      by simpa using hmemory.1, hmemory.2⟩, hcaps⟩
  · rintro ⟨h, hnone⟩
    have hverdict := applyObservation_unhindered h epoch
    rw [if_pos hnone] at hverdict
    exact Or.inl (congrArg EligibilityResult.state hverdict)

end Apply

/-! ## Soundness -/

/-- No compute capability is at least a required one. -/
theorem atLeast_zero_iff {required : ComputeCapability} :
    ComputeCapability.atLeast {} required = true ↔ required = {} := by
  obtain ⟨major, minor⟩ := required
  simp only [ComputeCapability.atLeast, ComputeCapability.less, Bool.not_eq_true',
    ComputeCapability.mk.injEq]
  by_cases hmajor : major = 0
  · subst hmajor
    simp
  · have hne : (0 : UInt32) ≠ major := fun h => hmajor h.symm
    rw [if_pos hne, decide_eq_false_iff_not, UInt32.not_lt, UInt32.le_zero_iff]
    exact iff_of_false hmajor fun h => hmajor h.1

/-- A verdict that admits work keeps the policy exactly when, on inputs that
pass the checks of the code, the device reports a compute capability if one is
required, and its core validation passed if that is required. -/
theorem policy_sound_iff (prior : DeviceState) (norm : DeviceObservation)
    (policy : ObservationPolicy) (now : Timestamp) (epoch : CoordinatorEpoch) :
    ((applyObservation prior norm policy now epoch).state.eligibility.Admits →
        policy.Met norm) ↔
      (Unhindered prior norm policy now → policy.requiredCapabilities = [] →
        (policy.requiredComputeCapability = {} ∨ norm.identity.computeCapability ≠ {}) ∧
          (policy.requireCoreValidation = true → norm.coreValidationOk = true)) := by
  rw [applyObservation_admits_iff]
  constructor
  · intro h hpast hnone
    have hmet := h ⟨hpast, hnone⟩
    refine ⟨?_, hmet.validation⟩
    rw [or_iff_not_imp_left]
    intro hrequired hzero
    have hleast := hmet.computeCapability hrequired
    rw [hzero, atLeast_zero_iff] at hleast
    exact hrequired hleast
  · rintro h ⟨hpast, hnone⟩
    obtain ⟨hreports, hvalid⟩ := h hpast hnone
    refine ⟨hpast.architecture.resolve_left, fun hrequired => ?_, hpast.totalMemory,
      hpast.freeMemory, fun req hreq => ?_, hvalid⟩
    · have hdevice := hreports.resolve_left hrequired
      exact (hpast.computeCapability.resolve_left hdevice).resolve_left hrequired
    · rw [hnone] at hreq
      cases hreq

/-- An observation with all health evidence, and with nothing else. -/
def plainObservation : DeviceObservation where
  observedAt := 5000
  driverRuntimeOk := true
  cudaInitOk := true
  memoryAllocOk := true
  kernelExecOk := true
  syncOk := true
  d2hOk := true
  verifyOk := true

/-- A device whose core validation failed is admitted where the policy requires
it, and so is a device without a compute capability where 9.0 is required. -/
theorem policy_not_sound :
    ¬((applyObservation {} plainObservation {} 5000 {}).state.eligibility.Admits →
        ObservationPolicy.Met {} plainObservation) ∧
      ¬((applyObservation {} { plainObservation with coreValidationOk := true }
            { requiredComputeCapability := ⟨9, 0⟩ } 5000 {}).state.eligibility.Admits →
          ObservationPolicy.Met { requiredComputeCapability := ⟨9, 0⟩ }
            { plainObservation with coreValidationOk := true }) := by
  constructor
  · intro h
    have hvalid := (h (by decide)).validation rfl
    revert hvalid
    decide
  · intro h
    have hleast := (h (by decide)).computeCapability (by decide)
    revert hleast
    decide

/-! ## Required capabilities -/

/-- A device is refused for its capabilities exactly when it lacks a required
one, and is eligible otherwise. -/
structure CapabilitiesDecided (prior : DeviceState) (norm : DeviceObservation)
    (policy : ObservationPolicy) (now : Timestamp) (epoch : CoordinatorEpoch) : Prop where
  refused : (applyObservation prior norm policy now epoch).state.verdict
      = ⟨.ineligible, [.capabilityMismatch]⟩ ↔
    ∃ req ∈ policy.requiredCapabilities, ¬norm.Advertises req
  admitted : (∀ req ∈ policy.requiredCapabilities, norm.Advertises req) →
    (applyObservation prior norm policy now epoch).state.eligibility = .eligible

/-- Past the other checks, the capabilities are decided as required exactly when
none is required or one is lacking. -/
theorem capabilities_decided_iff {prior : DeviceState} {norm : DeviceObservation}
    {policy : ObservationPolicy} {now : Timestamp} (h : Unhindered prior norm policy now)
    (epoch : CoordinatorEpoch) :
    CapabilitiesDecided prior norm policy now epoch ↔
      policy.requiredCapabilities = [] ∨
        ∃ req ∈ policy.requiredCapabilities, ¬norm.Advertises req := by
  have hverdict := applyObservation_unhindered h epoch
  have hstate : (applyObservation prior norm policy now epoch).state.eligibility
      = (applyObservation prior norm policy now epoch).state.verdict.state := rfl
  by_cases hnone : policy.requiredCapabilities = []
  · rw [if_pos hnone] at hverdict
    refine iff_of_true ⟨?_, fun _ => ?_⟩ (Or.inl hnone)
    · rw [hverdict, hnone]
      exact iff_of_false (by decide) (by simp)
    · rw [hstate, hverdict]
  · rw [if_neg hnone] at hverdict
    constructor
    · intro hdecided
      exact Or.inr (hdecided.refused.mp hverdict)
    · intro hlacks
      have hlacking := hlacks.resolve_left hnone
      refine ⟨iff_of_true hverdict hlacking, fun hall => ?_⟩
      obtain ⟨req, hreq, hnot⟩ := hlacking
      exact absurd (hall req hreq) hnot

/-- A device that lacks the one required capability. -/
theorem lacking_decided :
    CapabilitiesDecided {} plainObservation { requiredCapabilities := [text "graphs"] } 5000
      {} := by
  refine (capabilities_decided_iff ?_ {}).mpr (Or.inr ⟨text "graphs", by simp, ?_⟩)
  · exact ⟨⟨rfl, rfl⟩, by decide, ⟨rfl, rfl, rfl, rfl, rfl, rfl, rfl, rfl⟩, Or.inl rfl,
      Or.inl rfl, by decide, by decide⟩
  · rintro ⟨c, hc, _⟩
    cases hc

/-- A device that has the one required capability, validated, is refused. -/
theorem advertised_refused :
    ¬CapabilitiesDecided {}
      { plainObservation with
        capabilities := [{ name := text "graphs", kind := .validated }] }
      { requiredCapabilities := [text "graphs"] } 5000 {} := by
  intro h
  obtain ⟨req, hreq, hnot⟩ := h.refused.mp (by decide)
  obtain rfl := List.mem_singleton.mp hreq
  exact hnot ⟨_, List.mem_singleton_self _, rfl, by decide⟩

end GpuFleet
