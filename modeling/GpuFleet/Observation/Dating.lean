import GpuFleet.Fleet.ObservationRoundTrip
import GpuFleet.Observation.Pipeline

/-!
# The age of an observation

`apply_observation` takes the time of an observation from the worker that sent
it and subtracts it from the clock.  Both are signed 64-bit numbers, and nothing
bounds the one that comes over the wire: a time far enough in the past takes the
subtraction out of range, and a time in the future has a negative age, which is
below every threshold.

`freshness_exact_iff` says for which times neither happens.
-/

namespace GpuFleet

/-- The age of an observation is computed without overflow, where it is
computed, and one that is called fresh has an age between zero and the
threshold.  The bounds are those of the integers. -/
structure FreshnessExact (prior : DeviceState) (norm : DeviceObservation)
    (policy : ObservationPolicy) (now : Timestamp) (epoch : CoordinatorEpoch) : Prop where
  inRange : norm.observedAt ≠ kInvalidTimestamp →
    -2 ^ 63 ≤ now.toInt - norm.observedAt.toInt ∧ now.toInt - norm.observedAt.toInt < 2 ^ 63
  fresh : (applyObservation prior norm policy now epoch).state.observationFresh = true →
    0 ≤ now.toInt - norm.observedAt.toInt ∧
      now.toInt - norm.observedAt.toInt ≤ policy.freshnessThresholdMs.toInt

/-- The time of the observation is less than 2^63 milliseconds behind the clock,
and not in the future, unless it is older than the last one on record. -/
structure WellDated (prior : DeviceState) (norm : DeviceObservation) (now : Timestamp) : Prop where
  recent : now.toInt - norm.observedAt.toInt < 2 ^ 63
  past : norm.observedAt ≤ now ∨
    (prior.lastObservedAt ≠ kInvalidTimestamp ∧ norm.observedAt < prior.lastObservedAt)

/-- A difference that is in range is computed. -/
theorem toInt_sub_of_inRange {a b : Int64} (hlow : -2 ^ 63 ≤ a.toInt - b.toInt)
    (hhigh : a.toInt - b.toInt < 2 ^ 63) : (a - b).toInt = a.toInt - b.toInt := by
  rw [Int64.toInt_sub, Int.bmod_eq_of_le]
  · omega
  · omega

/-- The clock is not negative, so no time is too far ahead of it. -/
theorem age_lower {now : Timestamp} (hnow : 0 ≤ now) (observedAt : Timestamp) :
    -2 ^ 63 ≤ now.toInt - observedAt.toInt := by
  have hzero : 0 ≤ now.toInt := by
    rw [Int64.le_iff_toInt_le] at hnow
    exact hnow
  have hbound := observedAt.toInt_lt
  omega

theorem observationFresh_iff (prior : DeviceState) (norm : DeviceObservation)
    (policy : ObservationPolicy) (now : Timestamp) (epoch : CoordinatorEpoch) :
    (applyObservation prior norm policy now epoch).state.observationFresh = true ↔
      norm.observedAt ≠ kInvalidTimestamp ∧
        now - norm.observedAt ≤ policy.freshnessThresholdMs ∧
        (prior.lastObservedAt ≤ norm.observedAt ∨ prior.lastObservedAt = kInvalidTimestamp) := by
  have hfresh : (applyObservation prior norm policy now epoch).state.observationFresh
      = observationIsFresh prior norm policy now := rfl
  rw [hfresh, observationIsFresh, Bool.and_eq_true, Bool.and_eq_true, Bool.or_eq_true,
    decide_eq_true_iff, decide_eq_true_iff, decide_eq_true_iff, decide_eq_true_iff, and_assoc]

/-- Where the clock and the threshold are not negative, the freshness of an
observation is exact exactly when the observation is well dated. -/
theorem freshness_exact_iff (prior : DeviceState) (norm : DeviceObservation)
    (policy : ObservationPolicy) (now : Timestamp) (epoch : CoordinatorEpoch) (hnow : 0 ≤ now)
    (hthreshold : 0 ≤ policy.freshnessThresholdMs) :
    FreshnessExact prior norm policy now epoch ↔ WellDated prior norm now := by
  have hlow := age_lower hnow norm.observedAt
  have hzero : kInvalidTimestamp.toInt = 0 := rfl
  rw [Int64.le_iff_toInt_le] at hnow hthreshold
  have hnow0 : 0 ≤ now.toInt := hnow
  have hthreshold0 : 0 ≤ policy.freshnessThresholdMs.toInt := hthreshold
  constructor
  · intro h
    have hrecent : now.toInt - norm.observedAt.toInt < 2 ^ 63 := by
      by_cases hnone : norm.observedAt = kInvalidTimestamp
      · have hbound := now.toInt_lt
        rw [hnone, hzero]
        omega
      · exact (h.inRange hnone).2
    refine ⟨hrecent, ?_⟩
    by_contra hfuture
    rw [not_or, Int64.not_le, not_and, Int64.not_lt] at hfuture
    obtain ⟨hahead, hlast⟩ := hfuture
    rw [Int64.lt_iff_toInt_lt] at hahead
    -- A time in the future passes every check, and its age is negative.
    have hfresh : (applyObservation prior norm policy now epoch).state.observationFresh = true := by
      rw [observationFresh_iff]
      refine ⟨fun hnone => ?_, ?_, ?_⟩
      · rw [hnone, hzero] at hahead
        omega
      · rw [Int64.le_iff_toInt_le, toInt_sub_of_inRange hlow hrecent]
        omega
      · by_cases hnever : prior.lastObservedAt = kInvalidTimestamp
        · exact Or.inr hnever
        · exact Or.inl (hlast hnever)
    have hage := (h.fresh hfresh).1
    omega
  · intro h
    refine ⟨fun _ => ⟨hlow, h.recent⟩, fun hfresh => ?_⟩
    obtain ⟨_, hage, hnewer⟩ := (observationFresh_iff prior norm policy now epoch).mp hfresh
    rw [Int64.le_iff_toInt_le, toInt_sub_of_inRange hlow h.recent] at hage
    refine ⟨?_, hage⟩
    rcases h.past with hpast | ⟨hsome, hold⟩
    · rw [Int64.le_iff_toInt_le] at hpast
      omega
    · rcases hnewer with hnewer | hnever
      · exact absurd hold (Int64.not_lt.mpr hnewer)
      · exact absurd hnever hsome

/-- An observation that is a second old. -/
theorem second_old_exact :
    FreshnessExact {} { observedAt := 5000 } {} 6000 {} :=
  (freshness_exact_iff {} { observedAt := 5000 } {} 6000 {} (by decide) (by decide)).mpr
    ⟨by decide, Or.inl (by decide)⟩

/-- The decoder admits every time. -/
theorem decode_observedAt (t : Timestamp) :
    decodeDeviceObservation (encodeDeviceObservation { observedAt := t })
      = .ok { observedAt := t } := by
  have hfits : DeviceObservation.FitsWire {} :=
    ⟨⟨by decide, by decide, by decide, by decide⟩, by decide⟩
  exact decode_readsAll (readsAll_encodeDeviceObservation
    ⟨⟨hfits.identity, hfits.capabilityCount, hfits.capabilities, hfits.validationDetail⟩,
      hfits.healthExplanation⟩)

/-- Two times that come over the wire: with the least one the subtraction
overflows, and the greatest one is fresh while the clock shows 10. -/
theorem wire_time_not_exact :
    (decodeDeviceObservation (encodeDeviceObservation { observedAt := Int64.minValue })
          = .ok { observedAt := Int64.minValue } ∧
        ¬FreshnessExact {} { observedAt := Int64.minValue } {} 10 {}) ∧
      (decodeDeviceObservation (encodeDeviceObservation { observedAt := Int64.maxValue })
          = .ok { observedAt := Int64.maxValue } ∧
        ¬FreshnessExact {} { observedAt := Int64.maxValue } {} 10 {}) := by
  refine ⟨⟨decode_observedAt _, fun h => ?_⟩, decode_observedAt _, fun h => ?_⟩
  · have hrange := (h.inRange (by decide)).2
    revert hrange
    decide
  · have hage := (h.fresh (by decide)).1
    revert hage
    decide

end GpuFleet
