import GpuFleet.Core.Types

/-!
# Health states and their evaluation

`health/health_state.hpp` and `health/health_evaluator.hpp`.
`evaluateHealth` is a cascade of gates over `HealthSignals`.  The one fact
that the rest of the development takes from it is
`evaluateHealth_operational`: a device is called healthy or degraded only
when every operational check was proven on current evidence.
-/

namespace GpuFleet

/-- `HealthState`, with the values that a cast can bring in. -/
inductive HealthState
  | unknown | healthy | degraded | unhealthy | draining | drained | offline
  | lost | recovering | quarantined
  | undeclared (v : UInt8) (h : 10 ≤ v.toNat)
  deriving DecidableEq, Repr

/-- `to_string(HealthState)`. -/
def HealthState.toText : HealthState → ByteString
  | .unknown => text "UNKNOWN"
  | .healthy => text "HEALTHY"
  | .degraded => text "DEGRADED"
  | .unhealthy => text "UNHEALTHY"
  | .draining => text "DRAINING"
  | .drained => text "DRAINED"
  | .offline => text "OFFLINE"
  | .lost => text "LOST"
  | .recovering => text "RECOVERING"
  | .quarantined => text "QUARANTINED"
  | .undeclared _ _ => text "UNKNOWN"

/-- The value of the enumerator. -/
def HealthState.toByte : HealthState → UInt8
  | .unknown => 0
  | .healthy => 1
  | .degraded => 2
  | .unhealthy => 3
  | .draining => 4
  | .drained => 5
  | .offline => 6
  | .lost => 7
  | .recovering => 8
  | .quarantined => 9
  | .undeclared v _ => v

/-- The enumerators, by their values. -/
def HealthState.declared : Fin 10 → HealthState
  | 0 => .unknown
  | 1 => .healthy
  | 2 => .degraded
  | 3 => .unhealthy
  | 4 => .draining
  | 5 => .drained
  | 6 => .offline
  | 7 => .lost
  | 8 => .recovering
  | 9 => .quarantined

/-- `static_cast<HealthState>`. -/
def HealthState.ofByte (b : UInt8) : HealthState :=
  if h : b.toNat < 10 then .declared ⟨b.toNat, h⟩ else .undeclared b (Nat.le_of_not_lt h)

@[simp] theorem HealthState.ofByte_toByte (s : HealthState) : ofByte s.toByte = s := by
  cases s with
  | undeclared v h => exact dif_neg (Nat.not_lt.mpr h)
  | _ => rfl

/-- `HealthSignals`, with the defaults of the source. -/
structure HealthSignals where
  enumerated : Bool := false
  devicePresent : Bool := true
  wasKnown : Bool := false
  driverRuntimeOk : Bool := false
  cudaInitOk : Bool := false
  memoryAllocOk : Bool := false
  kernelExecOk : Bool := false
  syncOk : Bool := false
  memRoundtripOk : Bool := false
  fatalError : Bool := false
  temperatureWithinLimits : Bool := true
  powerWithinLimits : Bool := true
  consecutiveFailures : UInt32 := 0
  observationStale : Bool := false
  explicitlyDrained : Bool := false
  inflightWorkRemaining : Bool := false
  quarantined : Bool := false
  lastValidationOk : Bool := false
  failureThreshold : UInt32 := 3

/-- `HealthResult`: the verdict and its explanation. -/
structure HealthResult where
  state : HealthState := .unknown
  explanation : ByteString := []

/-- `core_ok` of `evaluate_health`. -/
def HealthSignals.coreOk (s : HealthSignals) : Bool :=
  s.memoryAllocOk && s.kernelExecOk && s.syncOk && s.memRoundtripOk

/-- `evaluate_health`. -/
def evaluateHealth (s : HealthSignals) : HealthResult :=
  if s.quarantined then
    ⟨.quarantined, text "quarantined: administratively or automatically fenced; ineligible until validly cleared"⟩
  else if s.explicitlyDrained then
    if s.inflightWorkRemaining then
      ⟨.draining, text "draining: rejecting new eligibility, in-flight work still reported present"⟩
    else
      ⟨.drained, text "drained: rejecting new eligibility and awaiting drain completion"⟩
  else if !s.devicePresent then
    if !s.wasKnown then
      ⟨.offline, text "offline: device not enumerable and never previously observed"⟩
    else
      ⟨.lost, text "lost: device was present but has disappeared and is not enumerable"⟩
  else if s.fatalError then
    ⟨.unhealthy, text "unhealthy: fatal accelerator error recorded"⟩
  else if !s.driverRuntimeOk then
    ⟨.unhealthy, text "unhealthy: driver or runtime availability failed"⟩
  else if !s.cudaInitOk then
    ⟨.unhealthy, text "unhealthy: CUDA initialization failed"⟩
  else if s.consecutiveFailures ≥ s.failureThreshold then
    ⟨.unhealthy, text "unhealthy: repeated operation failures ("
      ++ decimal s.consecutiveFailures.toNat ++ text " consecutive)"⟩
  else if s.observationStale then
    ⟨.recovering, text "recovering: last evidence is stale and is not fresh enough to be authoritative"⟩
  else if !s.coreOk then
    if s.lastValidationOk then
      ⟨.recovering, text "recovering: core validation not currently proven; last validation was OK"⟩
    else
      ⟨.unhealthy, text "unhealthy: core device validation not proven"⟩
  else if !s.temperatureWithinLimits || !s.powerWithinLimits then
    ⟨.degraded, text "degraded: core validation passed but temperature or power is outside limits"⟩
  else
    ⟨.healthy, text "healthy: enumeration, driver/runtime, and core validation all proven"⟩

/-- A cascade stays in `P` when every verdict of it does. -/
theorem through_gate {α : Type} {P : α → Prop} {c : Prop} [Decidable c] {a b : α}
    (ha : P a) (hb : P b) : P (if c then a else b) :=
  iteInduction (fun _ => ha) fun _ => hb

/-- The explanation has at most 128 bytes. -/
def HealthResult.Brief (r : HealthResult) : Prop := r.explanation.length ≤ 128

theorem brief_text {state : HealthState} {l : List Char} (h : l.length ≤ 128) :
    HealthResult.Brief ⟨state, text (String.ofList l)⟩ :=
  length_text_le h

/-- The explanations are short.  The one with a number in it is given only at
the failure threshold. -/
theorem evaluateHealth_explanation {s : HealthSignals}
    (h : s.consecutiveFailures < s.failureThreshold) :
    (evaluateHealth s).explanation.length ≤ 128 := by
  have hbelow : ¬s.consecutiveFailures ≥ s.failureThreshold := UInt32.not_le.mpr h
  show (evaluateHealth s).Brief
  rw [evaluateHealth, if_neg hbelow]
  refine through_gate (brief_text (by decide)) ?_
  refine through_gate (through_gate (brief_text (by decide)) (brief_text (by decide))) ?_
  refine through_gate (through_gate (brief_text (by decide)) (brief_text (by decide))) ?_
  refine through_gate (brief_text (by decide)) ?_
  refine through_gate (brief_text (by decide)) ?_
  refine through_gate (brief_text (by decide)) ?_
  refine through_gate (brief_text (by decide)) ?_
  refine through_gate (through_gate (brief_text (by decide)) (brief_text (by decide))) ?_
  exact through_gate (brief_text (by decide)) (brief_text (by decide))

/-! ## Reading the cascade backwards -/

/-- A gate that would end in a verdict outside `P` was not taken. -/
theorem pass_gate {α : Type} {P : α → Prop} {c : Prop} [Decidable c] {a b : α}
    (h : P (if c then a else b)) (ha : ¬P a) : ¬c ∧ P b := by
  by_cases hc : c
  · rw [if_pos hc] at h
    exact absurd h ha
  · rw [if_neg hc] at h
    exact ⟨hc, h⟩

/-- A health state that the eligibility evaluation accepts. -/
def HealthState.Operational (h : HealthState) : Prop := h = .healthy ∨ h = .degraded

instance (h : HealthState) : Decidable h.Operational :=
  inferInstanceAs (Decidable (_ ∨ _))

/-- Healthy and degraded are the two outcomes below every other gate. -/
theorem evaluateHealth_operational {s : HealthSignals}
    (h : (evaluateHealth s).state.Operational) :
    s.devicePresent = true ∧ s.driverRuntimeOk = true ∧ s.cudaInitOk = true ∧
      s.observationStale = false ∧ s.coreOk = true := by
  let P : HealthResult → Prop := fun r => r.state.Operational
  replace h : P (evaluateHealth s) := h
  rw [evaluateHealth] at h
  obtain ⟨_, h⟩ := pass_gate h (by decide)
  obtain ⟨_, h⟩ := pass_gate h (by split <;> decide)
  obtain ⟨hpresent, h⟩ := pass_gate h (by split <;> decide)
  obtain ⟨_, h⟩ := pass_gate h (by decide)
  obtain ⟨hdriver, h⟩ := pass_gate h (by decide)
  obtain ⟨hcuda, h⟩ := pass_gate h (by decide)
  obtain ⟨_, h⟩ := pass_gate h (by rintro (h | h) <;> cases h)
  obtain ⟨hstale, h⟩ := pass_gate h (by decide)
  obtain ⟨hcore, _⟩ := pass_gate h (by split <;> decide)
  exact ⟨by simpa using hpresent, by simpa using hdriver, by simpa using hcuda,
    by simpa using hstale, by simpa using hcore⟩

/-- Lost is a verdict about devices that are not there. -/
theorem evaluateHealth_lost {s : HealthSignals} (h : (evaluateHealth s).state = .lost) :
    s.devicePresent = false := by
  by_contra hpresent
  have hgate : ¬(!s.devicePresent) = true := by simpa using hpresent
  let P : HealthResult → Prop := fun r => r.state ≠ .lost
  have hP : P (evaluateHealth s) := by
    rw [evaluateHealth, if_neg hgate]
    repeat' refine through_gate (P := P) ?_ ?_
    all_goals
      intro h
      cases h
  exact hP h

/-- A health state that names an administrative fence. -/
def HealthState.Administrative (h : HealthState) : Prop :=
  h = .draining ∨ h = .drained ∨ h = .quarantined

/-- Without a fence in the signals, the health state names none. -/
theorem evaluateHealth_not_administrative {s : HealthSignals} (hq : s.quarantined = false)
    (hd : s.explicitlyDrained = false) : ¬(evaluateHealth s).state.Administrative := by
  let P : HealthResult → Prop := fun r => ¬r.state.Administrative
  show P (evaluateHealth s)
  rw [evaluateHealth, if_neg (by simp [hq]), if_neg (by simp [hd])]
  repeat' refine through_gate (P := P) ?_ ?_
  all_goals
    intro h
    rcases h with h | h | h <;> cases h

end GpuFleet
