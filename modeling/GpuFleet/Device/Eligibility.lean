import GpuFleet.Device.Health

/-!
# Execution eligibility and its evaluation

`eligibility/eligibility.hpp` and `eligibility/eligibility_evaluator.hpp`.
`evaluateEligibility_admits` reads the cascade backwards: a verdict that
admits work means that no fence applies, that the evidence is fresh, that the
device is present and that its health is operational.
-/

namespace GpuFleet

/-- `EligibilityState`, with the values that a cast can bring in. -/
inductive EligibilityState
  | unknown | eligible | degradedEligible | ineligible | draining | stale
  | quarantined
  | undeclared (v : UInt8) (h : 7 ≤ v.toNat)
  deriving DecidableEq, Repr

/-- `to_string(EligibilityState)`. -/
def EligibilityState.toText : EligibilityState → ByteString
  | .eligible => text "ELIGIBLE"
  | .degradedEligible => text "DEGRADED_ELIGIBLE"
  | .ineligible => text "INELIGIBLE"
  | .draining => text "DRAINING"
  | .stale => text "STALE"
  | .quarantined => text "QUARANTINED"
  | .unknown | .undeclared _ _ => text "UNKNOWN"

/-- The value of the enumerator. -/
def EligibilityState.toByte : EligibilityState → UInt8
  | .unknown => 0
  | .eligible => 1
  | .degradedEligible => 2
  | .ineligible => 3
  | .draining => 4
  | .stale => 5
  | .quarantined => 6
  | .undeclared v _ => v

/-- The enumerators, by their values. -/
def EligibilityState.declared : Fin 7 → EligibilityState
  | 0 => .unknown
  | 1 => .eligible
  | 2 => .degradedEligible
  | 3 => .ineligible
  | 4 => .draining
  | 5 => .stale
  | 6 => .quarantined

/-- `static_cast<EligibilityState>`. -/
def EligibilityState.ofByte (b : UInt8) : EligibilityState :=
  if h : b.toNat < 7 then .declared ⟨b.toNat, h⟩ else .undeclared b (Nat.le_of_not_lt h)

@[simp] theorem EligibilityState.ofByte_toByte (e : EligibilityState) : ofByte e.toByte = e := by
  cases e with
  | undeclared v h => exact dif_neg (Nat.not_lt.mpr h)
  | _ => rfl

/-- The two verdicts that admit work. -/
def EligibilityState.Admits (e : EligibilityState) : Prop :=
  e = .eligible ∨ e = .degradedEligible

instance (e : EligibilityState) : Decidable e.Admits :=
  inferInstanceAs (Decidable (_ ∨ _))

/-- `EligibilityReason`, with the values that a cast can bring in. -/
inductive EligibilityReason
  | none | staleObservation | architectureMismatch | insufficientMemory
  | driverMismatch | cudaUnavailable | healthFailure | drainPolicy
  | generationMismatch | workerRestart | deviceDisappearance | quarantine
  | capabilityMismatch | unknown
  | undeclared (v : UInt8) (h : 14 ≤ v.toNat)
  deriving DecidableEq, Repr

/-- The value of the enumerator. -/
def EligibilityReason.toByte : EligibilityReason → UInt8
  | .none => 0
  | .staleObservation => 1
  | .architectureMismatch => 2
  | .insufficientMemory => 3
  | .driverMismatch => 4
  | .cudaUnavailable => 5
  | .healthFailure => 6
  | .drainPolicy => 7
  | .generationMismatch => 8
  | .workerRestart => 9
  | .deviceDisappearance => 10
  | .quarantine => 11
  | .capabilityMismatch => 12
  | .unknown => 13
  | .undeclared v _ => v

/-- The enumerators, by their values. -/
def EligibilityReason.declared : Fin 14 → EligibilityReason
  | 0 => .none
  | 1 => .staleObservation
  | 2 => .architectureMismatch
  | 3 => .insufficientMemory
  | 4 => .driverMismatch
  | 5 => .cudaUnavailable
  | 6 => .healthFailure
  | 7 => .drainPolicy
  | 8 => .generationMismatch
  | 9 => .workerRestart
  | 10 => .deviceDisappearance
  | 11 => .quarantine
  | 12 => .capabilityMismatch
  | 13 => .unknown

/-- `static_cast<EligibilityReason>`. -/
def EligibilityReason.ofByte (b : UInt8) : EligibilityReason :=
  if h : b.toNat < 14 then .declared ⟨b.toNat, h⟩ else .undeclared b (Nat.le_of_not_lt h)

@[simp] theorem EligibilityReason.ofByte_toByte (r : EligibilityReason) :
    ofByte r.toByte = r := by
  cases r with
  | undeclared v h => exact dif_neg (Nat.not_lt.mpr h)
  | _ => rfl

/-- `EligibilityResult`: the verdict and its reasons. -/
structure EligibilityResult where
  state : EligibilityState := .unknown
  reasons : List EligibilityReason := []
  deriving DecidableEq, Repr

/-- `EligibilityInput`, with the defaults of the source. -/
structure EligibilityInput where
  health : HealthState := .unknown
  observationFresh : Bool := false
  observedGeneration : DeviceGeneration := {}
  currentGeneration : DeviceGeneration := {}
  architectureMatch : Bool := true
  sufficientMemory : Bool := true
  driverMatch : Bool := true
  cudaAvailable : Bool := false
  capabilityMatch : Bool := true
  drainActive : Bool := false
  quarantine : Bool := false
  workerAlive : Bool := true
  devicePresent : Bool := true
  workerRestarted : Bool := false
  requiredMemory : UInt64 := 0
  availableMemory : UInt64 := 0

/-- `baseline_eligibility`. -/
def baselineEligibility : HealthState → EligibilityState
  | .healthy => .eligible
  | .degraded => .degradedEligible
  | .draining => .draining
  | .drained => .draining
  | .quarantined => .quarantined
  | .offline => .ineligible
  | .lost => .ineligible
  | .recovering => .stale
  | .unhealthy => .ineligible
  | .unknown | .undeclared _ _ => .unknown

/-- The last stage of `evaluate_eligibility`: the switch over the baseline
of the health state. -/
def eligibilityFromHealth (h : HealthState) : EligibilityResult :=
  match baselineEligibility h with
  | .eligible => ⟨.eligible, []⟩
  | .degradedEligible => ⟨.degradedEligible, [.healthFailure]⟩
  | .stale => ⟨.stale, [.staleObservation]⟩
  | .quarantined => ⟨.quarantined, [.quarantine]⟩
  | .draining => ⟨.draining, [.drainPolicy]⟩
  | .ineligible | .unknown | .undeclared _ _ => ⟨.ineligible, [.healthFailure]⟩

/-- `evaluate_eligibility`.  The source fills one result step by step and
returns as soon as the state is final, so each branch here is one of its
returns. -/
def evaluateEligibility (i : EligibilityInput) : EligibilityResult :=
  if i.quarantine then ⟨.quarantined, [.quarantine]⟩
  else if i.drainActive then ⟨.draining, [.drainPolicy]⟩
  else if i.workerRestarted || !i.workerAlive then ⟨.stale, [.workerRestart]⟩
  else if i.observedGeneration ≠ i.currentGeneration then ⟨.stale, [.generationMismatch]⟩
  else if !i.observationFresh then ⟨.stale, [.staleObservation]⟩
  else if !i.devicePresent then ⟨.ineligible, [.deviceDisappearance]⟩
  else if !i.cudaAvailable then ⟨.ineligible, [.cudaUnavailable]⟩
  else if !i.driverMatch then ⟨.ineligible, [.driverMismatch]⟩
  else if !i.architectureMatch then ⟨.ineligible, [.architectureMismatch]⟩
  else if !i.sufficientMemory || decide (i.availableMemory < i.requiredMemory) then
    ⟨.ineligible, [.insufficientMemory]⟩
  else if !i.capabilityMatch then ⟨.ineligible, [.capabilityMismatch]⟩
  else eligibilityFromHealth i.health

/-- The health stage admits work only for an operational health state. -/
theorem eligibilityFromHealth_admits {h : HealthState}
    (ha : (eligibilityFromHealth h).state.Admits) : h.Operational := by
  cases h <;>
    first
    | exact Or.inl rfl
    | exact Or.inr rfl
    | (exfalso; rcases ha with ha | ha <;> exact EligibilityState.noConfusion ha)

/-- What an admitting verdict says about its input. -/
theorem evaluateEligibility_admits {i : EligibilityInput}
    (h : (evaluateEligibility i).state.Admits) :
    i.quarantine = false ∧ i.drainActive = false ∧ i.observationFresh = true ∧
      i.devicePresent = true ∧ i.health.Operational := by
  let P : EligibilityResult → Prop := fun r => r.state.Admits
  replace h : P (evaluateEligibility i) := h
  rw [evaluateEligibility] at h
  obtain ⟨hq, h⟩ := pass_gate h (by decide)
  obtain ⟨hd, h⟩ := pass_gate h (by decide)
  obtain ⟨_, h⟩ := pass_gate h (by decide)
  obtain ⟨_, h⟩ := pass_gate h (by decide)
  obtain ⟨hf, h⟩ := pass_gate h (by decide)
  obtain ⟨hp, h⟩ := pass_gate h (by decide)
  obtain ⟨_, h⟩ := pass_gate h (by decide)
  obtain ⟨_, h⟩ := pass_gate h (by decide)
  obtain ⟨_, h⟩ := pass_gate h (by decide)
  obtain ⟨_, h⟩ := pass_gate h (by decide)
  obtain ⟨_, h⟩ := pass_gate h (by decide)
  -- Only the last branch, which falls through to the health, can admit.
  exact ⟨by simpa using hq, by simpa using hd, by simpa using hf,
    by simpa using hp, eligibilityFromHealth_admits h⟩

/-- A verdict has at most one reason. -/
theorem evaluateEligibility_reasons (i : EligibilityInput) :
    (evaluateEligibility i).reasons.length ≤ 1 := by
  let P : EligibilityResult → Prop := fun r => r.reasons.length ≤ 1
  show P (evaluateEligibility i)
  rw [evaluateEligibility]
  repeat' refine through_gate (P := P) (by decide) ?_
  cases i.health with
  | undeclared v h => exact Nat.le_refl 1
  | _ => decide

/-! ## Fences -/

/-- Quarantine comes before everything else. -/
theorem evaluateEligibility_of_quarantine {i : EligibilityInput} (h : i.quarantine = true) :
    (evaluateEligibility i).state = .quarantined := by
  rw [evaluateEligibility, if_pos h]

/-- Drain comes right after it. -/
theorem evaluateEligibility_of_drain {i : EligibilityInput} (hq : i.quarantine = false)
    (hd : i.drainActive = true) : (evaluateEligibility i).state = .draining := by
  rw [evaluateEligibility, if_neg (by simp [hq]), if_pos hd]

/-- A verdict that names a fence comes from that fence, or from a health state
that names one and fresh evidence for it. -/
theorem evaluateEligibility_fenced {i : EligibilityInput}
    (h : (evaluateEligibility i).state = .quarantined ∨
      (evaluateEligibility i).state = .draining) :
    ((evaluateEligibility i).state = .quarantined ∧ i.quarantine = true) ∨
      ((evaluateEligibility i).state = .draining ∧ i.quarantine = false ∧
        i.drainActive = true) ∨
      (i.observationFresh = true ∧ i.health.Administrative) := by
  by_cases hq : i.quarantine = true
  · exact Or.inl ⟨evaluateEligibility_of_quarantine hq, hq⟩
  have hq' : i.quarantine = false := by simpa using hq
  by_cases hd : i.drainActive = true
  · exact Or.inr (Or.inl ⟨evaluateEligibility_of_drain hq' hd, hq', hd⟩)
  -- Both fences are down, so the verdict comes from the health stage.
  refine Or.inr (Or.inr ?_)
  let P : EligibilityResult → Prop := fun r => r.state = .quarantined ∨ r.state = .draining
  replace h : P (evaluateEligibility i) := h
  rw [evaluateEligibility, if_neg hq, if_neg hd] at h
  obtain ⟨_, h⟩ := pass_gate h (by decide)
  obtain ⟨_, h⟩ := pass_gate h (by decide)
  obtain ⟨hf, h⟩ := pass_gate h (by decide)
  obtain ⟨_, h⟩ := pass_gate h (by decide)
  obtain ⟨_, h⟩ := pass_gate h (by decide)
  obtain ⟨_, h⟩ := pass_gate h (by decide)
  obtain ⟨_, h⟩ := pass_gate h (by decide)
  obtain ⟨_, h⟩ := pass_gate h (by decide)
  obtain ⟨_, h⟩ := pass_gate h (by decide)
  refine ⟨by simpa using hf, ?_⟩
  cases hh : i.health with
  | draining => exact Or.inl rfl
  | drained => exact Or.inr (Or.inl rfl)
  | quarantined => exact Or.inr (Or.inr rfl)
  | _ =>
    rw [hh] at h
    rcases h with h | h <;> cases h

/-! ## Without a fence -/

/-- The input describes an unfenced device of a live worker. -/
structure EligibilityInput.Open (i : EligibilityInput) : Prop where
  quarantine : i.quarantine = false
  drainActive : i.drainActive = false
  workerRestarted : i.workerRestarted = false
  workerAlive : i.workerAlive = true
  generation : i.observedGeneration = i.currentGeneration
  driverMatch : i.driverMatch = true

/-- What is left of the cascade. -/
theorem evaluateEligibility_open {i : EligibilityInput} (h : i.Open) :
    evaluateEligibility i =
      if i.observationFresh = false then ⟨.stale, [.staleObservation]⟩
      else if i.devicePresent = false then ⟨.ineligible, [.deviceDisappearance]⟩
      else if i.cudaAvailable = false then ⟨.ineligible, [.cudaUnavailable]⟩
      else if i.architectureMatch = false then ⟨.ineligible, [.architectureMismatch]⟩
      else if i.sufficientMemory = false ∨ i.availableMemory < i.requiredMemory then
        ⟨.ineligible, [.insufficientMemory]⟩
      else if i.capabilityMatch = false then ⟨.ineligible, [.capabilityMismatch]⟩
      else eligibilityFromHealth i.health := by
  rw [evaluateEligibility]
  simp only [h.quarantine, h.drainActive, h.workerRestarted, h.workerAlive, h.generation,
    h.driverMatch, Bool.not_true, Bool.or_false, Bool.false_eq_true, if_false, ne_eq,
    not_true_eq_false, Bool.not_eq_true', Bool.or_eq_true, decide_eq_true_eq]

end GpuFleet
