import GpuFleet.Fleet.Bounds

/-!
# Fences that are put up and taken down

A device that is drained and made active again, or quarantined and cleared,
comes out of the recomputation of its eligibility.  The recomputation knows the
record only: it takes the validation for the driver and CUDA checks, and it
knows no policy.  It also knows no loss and no disappearance, which are written
over the verdict and not into the fields it reads.

`Standing` is what a run can make of the verdict of an unfenced device, and
`round_trips_neutral_iff` reads off it when the recomputation finds the same
verdict again.
-/

namespace GpuFleet

/-- The reasons that come from the evidence and the policy of an ingest. -/
def ingestReasons : List EligibilityReason :=
  [.cudaUnavailable, .architectureMismatch, .insufficientMemory, .capabilityMismatch]

/-- The verdicts that a run can give to a device without a fence. -/
structure DeviceState.Standing (d : DeviceState) : Prop where
  unheard : d.observationFresh = false →
    d.verdict = ⟨.stale, [.staleObservation]⟩ ∨ d.verdict = ⟨.ineligible, [.workerRestart]⟩ ∨
      d.verdict = ⟨.ineligible, [.deviceDisappearance]⟩
  absent : d.observationFresh = true → d.present = false →
    d.verdict = ⟨.ineligible, [.deviceDisappearance]⟩
  present : d.observationFresh = true → d.present = true →
    d.verdict = eligibilityFromHealth d.health ∨
      ∃ r ∈ ingestReasons, d.verdict = ⟨.ineligible, [r]⟩

theorem standing_of_unheard {d : DeviceState} (hf : d.observationFresh = false)
    (hverdict : d.verdict = ⟨.stale, [.staleObservation]⟩ ∨
      d.verdict = ⟨.ineligible, [.workerRestart]⟩ ∨
      d.verdict = ⟨.ineligible, [.deviceDisappearance]⟩) : d.Standing := by
  refine ⟨fun _ => hverdict, fun hfresh => ?_, fun hfresh => ?_⟩
  · cases hf.symm.trans hfresh
  · cases hf.symm.trans hfresh

/-- The verdict on the device is one that the recomputation arrives at again:
no loss and no disappearance is written over it, and where it rests on fresh
evidence of a present device, it blames CUDA exactly when the validation failed
and no other requirement of an ingest. -/
structure DeviceState.Settled (d : DeviceState) : Prop where
  unheard : d.observationFresh = false → d.eligibility = .stale
  validated : d.observationFresh = true → d.present = true → d.coreValidationOk = true →
    ∀ r ∈ ingestReasons, d.eligibilityReasons ≠ [r]
  unvalidated : d.observationFresh = true → d.present = true → d.coreValidationOk = false →
    d.eligibilityReasons = [.cudaUnavailable]

section Settled

variable {d : DeviceState}

theorem settled_unheard_iff (hf : d.observationFresh = false) :
    d.Settled ↔ d.eligibility = .stale := by
  constructor
  · intro h
    exact h.unheard hf
  · intro hstale
    refine ⟨fun _ => hstale, fun hfresh => ?_, fun hfresh => ?_⟩
    · cases hf.symm.trans hfresh
    · cases hf.symm.trans hfresh

theorem settled_absent (hf : d.observationFresh = true) (hp : d.present = false) :
    d.Settled := by
  refine ⟨fun hstale => ?_, fun _ hpresent => ?_, fun _ hpresent => ?_⟩
  · cases hf.symm.trans hstale
  · cases hp.symm.trans hpresent
  · cases hp.symm.trans hpresent

theorem settled_unvalidated_iff (hf : d.observationFresh = true) (hp : d.present = true)
    (hv : d.coreValidationOk = false) :
    d.Settled ↔ d.eligibilityReasons = [.cudaUnavailable] := by
  constructor
  · intro h
    exact h.unvalidated hf hp hv
  · intro hcuda
    refine ⟨fun hstale => ?_, fun _ _ hvalid => ?_, fun _ _ _ => hcuda⟩
    · cases hf.symm.trans hstale
    · cases hv.symm.trans hvalid

theorem settled_validated_iff (hf : d.observationFresh = true) (hp : d.present = true)
    (hv : d.coreValidationOk = true) :
    d.Settled ↔ ∀ r ∈ ingestReasons, d.eligibilityReasons ≠ [r] := by
  constructor
  · intro h
    exact h.validated hf hp hv
  · intro hnone
    refine ⟨fun hstale => ?_, fun _ _ _ => hnone, fun _ _ hinvalid => ?_⟩
    · cases hf.symm.trans hstale
    · cases hv.symm.trans hinvalid

end Settled

/-! ## The cascade without a fence -/

/-- The health stage gives none of the reasons of an ingest. -/
theorem eligibilityFromHealth_reasons (h : HealthState) :
    ∀ r ∈ ingestReasons, (eligibilityFromHealth h).reasons ≠ [r] := by
  cases h with
  | undeclared v hv =>
    show ∀ r ∈ ingestReasons, [EligibilityReason.healthFailure] ≠ [r]
    decide
  | _ => decide

section Cascade

variable {i : EligibilityInput}

/-- A device whose verdict the cascade gave has the standing of its fields. -/
theorem standing_of_evaluate {d : DeviceState} (h : i.Open)
    (hverdict : d.verdict = evaluateEligibility i)
    (hfresh : d.observationFresh = i.observationFresh)
    (hpresent : d.present = i.devicePresent) (hhealth : d.health = i.health) : d.Standing := by
  rw [evaluateEligibility_open h] at hverdict
  rw [← hfresh, ← hpresent, ← hhealth] at hverdict
  refine ⟨fun hf => ?_, fun hf hp => ?_, fun hf hp => ?_⟩
  · rw [if_pos hf] at hverdict
    exact Or.inl hverdict
  · rw [if_neg (by simp [hf]), if_pos hp] at hverdict
    exact hverdict
  · rw [if_neg (by simp [hf]), if_neg (by simp [hp])] at hverdict
    split at hverdict
    · exact Or.inr ⟨_, by simp [ingestReasons], hverdict⟩
    split at hverdict
    · exact Or.inr ⟨_, by simp [ingestReasons], hverdict⟩
    split at hverdict
    · exact Or.inr ⟨_, by simp [ingestReasons], hverdict⟩
    split at hverdict
    · exact Or.inr ⟨_, by simp [ingestReasons], hverdict⟩
    · exact Or.inl hverdict

end Cascade

namespace FleetStateStore

/-! ## What a run makes of an unfenced device -/

theorem standing_applyTo (s : FleetStateStore) (o : DeviceObservation)
    (policy : ObservationPolicy) (now : Timestamp)
    (h : (s.applyTo o policy now).state.Unfenced) : (s.applyTo o policy now).state.Standing := by
  refine standing_of_evaluate (d := (s.applyTo o policy now).state) ?_ rfl rfl rfl rfl
  have hdrain := h.drain
  refine ⟨h.quarantined, ?_, rfl, rfl, rfl, rfl⟩
  exact decide_eq_false (not_not.mpr hdrain)

theorem standing_recompute {d : DeviceState} (h : d.Unfenced) :
    (recomputeDeviceEligibility d).Standing := by
  refine standing_of_evaluate (d := recomputeDeviceEligibility d) ?_ rfl rfl rfl rfl
  exact ⟨h.quarantined, decide_eq_false (not_not.mpr h.drain), rfl, rfl, rfl, rfl⟩

theorem standing_lose {d : DeviceState} (h : d.Unfenced → d.Standing)
    (hopen : (loseDevice d).Unfenced) : (loseDevice d).Standing := by
  by_cases hp : d.present = true
  · have hlost : loseDevice d = { d with
        observationFresh := false
        present := false
        health := .lost
        eligibility := .ineligible
        eligibilityReasons := [.workerRestart] } := by simp [loseDevice, hp]
    rw [hlost]
    exact standing_of_unheard rfl (Or.inr (Or.inl rfl))
  · have hsame : loseDevice d = { d with observationFresh := false } := by simp [loseDevice, hp]
    rw [hsame] at hopen ⊢
    have hstanding := h ⟨hopen.drain, hopen.quarantined⟩
    refine standing_of_unheard rfl ?_
    cases hfresh : d.observationFresh with
    | false => exact hstanding.unheard hfresh
    | true => exact Or.inr (Or.inr (hstanding.absent hfresh (Bool.eq_false_iff.mpr hp)))

theorem standing_disappear (d : DeviceState) : (disappearDevice d).Standing :=
  standing_of_unheard rfl (Or.inr (Or.inr rfl))

theorem standing_restore {d : DeviceState} (h : (restoreDevice d).Unfenced) :
    (restoreDevice d).Standing := by
  have hfences := restoreDevice_fences d
  have hq : d.quarantined = false :=
    (congrArg Fences.quarantined hfences).symm.trans h.quarantined
  have hd : d.drain = .active := (congrArg Fences.drain hfences).symm.trans h.drain
  have hstale : restoreDevice d = { d with
      observationFresh := false
      eligibility := .stale
      eligibilityReasons := [.staleObservation] } := by simp [restoreDevice, hq, hd]
  rw [hstale]
  exact standing_of_unheard rfl (Or.inl rfl)

theorem standing_invariant :
    DeviceInvariant (fun _ => True) (fun _ d => d.Unfenced → d.Standing) where
  applied := fun s _ _ policy now _ o _ _ => standing_applyTo s o policy now
  lost := fun _ _ h => standing_lose h
  gone := fun _ d _ _ => standing_disappear d
  edited := fun _ _ _ _ _ hopen => standing_recompute ⟨hopen.drain, hopen.quarantined⟩
  restored := fun _ _ _ _ _ => standing_restore

/-! ## The recomputation -/

/-- What the recomputation makes of an unfenced device. -/
theorem recompute_verdict {d : DeviceState} (h : d.Unfenced) :
    (recomputeDeviceEligibility d).verdict =
      if d.observationFresh = false then ⟨.stale, [.staleObservation]⟩
      else if d.present = false then ⟨.ineligible, [.deviceDisappearance]⟩
      else if d.coreValidationOk = false then ⟨.ineligible, [.cudaUnavailable]⟩
      else eligibilityFromHealth d.health := by
  have hverdict : (recomputeDeviceEligibility d).verdict = evaluateEligibility _ := rfl
  rw [hverdict, evaluateEligibility_open ⟨h.quarantined,
    decide_eq_false (not_not.mpr h.drain), rfl, rfl, rfl, rfl⟩]
  have hmemory : ¬d.freeMemory < 0 := UInt64.not_lt_zero
  cases hp : d.present with
  | false => simp
  | true => simp [hmemory]

/-- The recomputation of an unfenced device looks at four fields. -/
theorem recompute_verdict_congr {d d' : DeviceState} (h : d.Unfenced) (h' : d'.Unfenced)
    (hfresh : d'.observationFresh = d.observationFresh) (hpresent : d'.present = d.present)
    (hvalid : d'.coreValidationOk = d.coreValidationOk) (hhealth : d'.health = d.health) :
    (recomputeDeviceEligibility d').verdict = (recomputeDeviceEligibility d).verdict := by
  rw [recompute_verdict h, recompute_verdict h', hfresh, hpresent, hvalid, hhealth]

/-- The recomputation gives a device of some standing the verdict it has exactly
when the device is settled. -/
theorem recompute_verdict_eq_iff {d : DeviceState} (hopen : d.Unfenced) (h : d.Standing) :
    (recomputeDeviceEligibility d).verdict = d.verdict ↔ d.Settled := by
  have hstate : d.eligibility = d.verdict.state := rfl
  have hreasons : d.eligibilityReasons = d.verdict.reasons := rfl
  rw [recompute_verdict hopen]
  cases hf : d.observationFresh with
  | false =>
    rw [if_pos rfl, settled_unheard_iff hf, hstate]
    constructor
    · intro hv
      rw [← hv]
    · intro hstale
      rcases h.unheard hf with hv | hv | hv
      · exact hv.symm
      · rw [hv] at hstale
        cases hstale
      · rw [hv] at hstale
        cases hstale
  | true =>
    rw [if_neg Bool.noConfusion]
    cases hp : d.present with
    | false =>
      rw [if_pos rfl]
      exact iff_of_true (h.absent hf hp).symm (settled_absent hf hp)
    | true =>
      rw [if_neg Bool.noConfusion]
      cases hv : d.coreValidationOk with
      | false =>
        rw [if_pos rfl, settled_unvalidated_iff hf hp hv, hreasons]
        constructor
        · intro hverdict
          rw [← hverdict]
        · intro hcuda
          rcases h.present hf hp with hverdict | ⟨r, _, hverdict⟩
          · rw [hverdict] at hcuda
            exact absurd hcuda (eligibilityFromHealth_reasons _ _ (by simp [ingestReasons]))
          · rw [hverdict] at hcuda
            have hr : r = .cudaUnavailable := (List.cons.inj hcuda).1
            rw [hverdict, hr]
      | true =>
        rw [if_neg Bool.noConfusion, settled_validated_iff hf hp hv, hreasons]
        constructor
        · intro hverdict
          rw [← hverdict]
          exact eligibilityFromHealth_reasons _
        · intro hnone
          rcases h.present hf hp with hverdict | ⟨r, hr, hverdict⟩
          · exact hverdict.symm
          · have hnot := hnone r hr
            rw [hverdict] at hnot
            exact absurd rfl hnot

/-! ## Round trips -/

/-- A change of the drain level writes the device and recomputes its verdict. -/
theorem setDrain_of_ne {s : FleetStateStore} {key : ByteString} {d : DeviceState}
    (hd : s.devices[key]? = some d) {level : DrainState} (hlevel : d.drain ≠ level)
    (w : WorkerId) (now : Timestamp) :
    (s.setDrain w key level now).result = .ok () ∧
      (s.setDrain w key level now).store.devices[key]?
        = some (recomputeDeviceEligibility { d with drain := level }) := by
  simp only [setDrain, hd, if_neg hlevel, OrderedMap.getElem?_insert_same, and_self]

theorem setQuarantine_of_le {s : FleetStateStore} {key : ByteString} {d : DeviceState}
    (hd : s.devices[key]? = some d) {q : QuarantineRecord} (hq : d.generation ≤ q.generation)
    (w : WorkerId) (now : Timestamp) :
    (s.setQuarantine w key q now).result = .ok () ∧
      (s.setQuarantine w key q now).store.epoch = s.epoch ∧
      (s.setQuarantine w key q now).store.devices[key]?
        = some (recomputeDeviceEligibility { d with quarantined := true, quarantine := q }) := by
  simp only [setQuarantine, hd, if_neg (not_lt.mpr hq)]
  split <;> simp only [OrderedMap.getElem?_insert_same, and_self]

theorem clearQuarantine_of_quarantined {s : FleetStateStore} {key : ByteString} {d : DeviceState}
    (hd : s.devices[key]? = some d) (hq : d.quarantined = true) (w : WorkerId)
    (now : Timestamp) :
    (s.clearQuarantine w key s.epoch now).result = .ok () ∧
      (s.clearQuarantine w key s.epoch now).store.devices[key]?
        = some (recomputeDeviceEligibility { d with quarantined := false, quarantine := {} }) := by
  simp only [clearQuarantine, hd, hq, ne_eq, not_true_eq_false, if_false, Bool.not_true,
    Bool.false_eq_true, OrderedMap.getElem?_insert_same, and_self]

/-- The device under the key has this verdict and these reasons. -/
def HasVerdict (s : FleetStateStore) (key : ByteString) (v : EligibilityResult) : Prop :=
  ∃ d, s.devices[key]? = some d ∧ d.verdict = v

/-- Putting a fence on the device and taking it off again leaves its verdict and
its reasons as they were, for both fences and whenever both calls are
accepted. -/
structure RoundTripsNeutral (s : FleetStateStore) (key : ByteString) (d : DeviceState) : Prop where
  drain : ∀ w now w' now',
    (s.setDrain w key .draining now).result = .ok () →
    ((s.setDrain w key .draining now).store.setDrain w' key .active now').result = .ok () →
    ((s.setDrain w key .draining now).store.setDrain w' key .active now').store.HasVerdict key
      d.verdict
  quarantine : ∀ w q now w' epoch now',
    (s.setQuarantine w key q now).result = .ok () →
    ((s.setQuarantine w key q now).store.clearQuarantine w' key epoch now').result = .ok () →
    ((s.setQuarantine w key q now).store.clearQuarantine w' key epoch now').store.HasVerdict key
      d.verdict

section Trips

variable {s : FleetStateStore} {key : ByteString} {d : DeviceState}

/-- A drain and the return to service end in the recomputation. -/
theorem drain_trip (hd : s.devices[key]? = some d) (hopen : d.Unfenced) (w w' : WorkerId)
    (now now' : Timestamp) :
    (s.setDrain w key .draining now).result = .ok () ∧
      ((s.setDrain w key .draining now).store.setDrain w' key .active now').result = .ok () ∧
      ((s.setDrain w key .draining now).store.setDrain w' key .active now').store.HasVerdict key
        (recomputeDeviceEligibility d).verdict := by
  have hactive : d.drain ≠ .draining := by
    rw [hopen.drain]
    decide
  obtain ⟨hok, hfile⟩ := setDrain_of_ne hd hactive w now
  have hdraining : (recomputeDeviceEligibility { d with drain := .draining }).drain
      ≠ .active := by
    show DrainState.draining ≠ .active
    decide
  obtain ⟨hok', hfile'⟩ := setDrain_of_ne hfile hdraining w' now'
  refine ⟨hok, hok', _, hfile', ?_⟩
  exact recompute_verdict_congr hopen ⟨rfl, hopen.quarantined⟩ rfl rfl rfl rfl

/-- A quarantine that is accepted and cleared ends in the recomputation. -/
theorem quarantine_trip (hd : s.devices[key]? = some d) (hopen : d.Unfenced)
    {q : QuarantineRecord} (hq : d.generation ≤ q.generation) (w w' : WorkerId)
    (now now' : Timestamp) :
    (s.setQuarantine w key q now).result = .ok () ∧
      ((s.setQuarantine w key q now).store.clearQuarantine w' key s.epoch now').result
        = .ok () ∧
      ((s.setQuarantine w key q now).store.clearQuarantine w' key s.epoch
        now').store.HasVerdict key (recomputeDeviceEligibility d).verdict := by
  obtain ⟨hok, hepoch, hfile⟩ := setQuarantine_of_le hd hq w now
  have hquarantined := clearQuarantine_of_quarantined hfile rfl w' now'
  rw [hepoch] at hquarantined
  obtain ⟨hok', hfile'⟩ := hquarantined
  refine ⟨hok, hok', _, hfile', ?_⟩
  exact recompute_verdict_congr hopen ⟨hopen.drain, rfl⟩ rfl rfl rfl rfl

theorem HasVerdict.unique {v v' : EligibilityResult} (h : s.HasVerdict key v)
    (h' : s.HasVerdict key v') : v = v' := by
  obtain ⟨d, hd, rfl⟩ := h
  obtain ⟨d', hd', rfl⟩ := h'
  rw [Option.some.inj (hd.symm.trans hd')]

end Trips

/-- In every reachable state, the administrative round trips of a device without
a fence are neutral exactly when the device is settled. -/
theorem round_trips_neutral_iff (coord : CoordinatorId) (epoch : CoordinatorEpoch)
    (ops : List Op) {key : ByteString} {d : DeviceState}
    (hd : ((empty coord epoch).run ops).devices[key]? = some d) (hopen : d.Unfenced) :
    ((empty coord epoch).run ops).RoundTripsNeutral key d ↔ d.Settled := by
  have hstanding := standing_invariant.run coord epoch ops (fun _ _ => trivial) key d hd hopen
  rw [← recompute_verdict_eq_iff hopen hstanding]
  generalize (empty coord epoch).run ops = s at hd
  constructor
  · intro h
    obtain ⟨hok, hok', hverdict⟩ := drain_trip hd hopen {} {} 0 0
    exact hverdict.unique (h.drain {} 0 {} 0 hok hok')
  · intro hsame
    refine ⟨fun w now w' now' _ _ => ?_, fun w q now w' epoch' now' hok hok' => ?_⟩
    · rw [← hsame]
      exact (drain_trip hd hopen w w' now now').2.2
    · -- Both calls were accepted, so the generation and the epoch are those they ask for.
      have hgen : d.generation ≤ q.generation := by
        rw [← not_lt]
        intro hlt
        simp only [setQuarantine, hd, if_pos hlt] at hok
        cases hok
      have hepoch : epoch' = s.epoch := by
        rw [← (setQuarantine_of_le hd hgen w now).2.1]
        by_contra hne
        simp only [clearQuarantine, if_pos hne] at hok'
        cases hok'
      rw [← hsame, hepoch]
      exact (quarantine_trip hd hopen hgen w w' now now').2.2

set_option maxRecDepth 4000 in
/-- An eligible device comes back eligible. -/
theorem sampleReport_round_trips :
    ∃ d, (sampleStore.run sampleReport).RoundTripsNeutral sampleKey d ∧
      d.eligibility = .eligible := by
  refine ⟨_, (round_trips_neutral_iff ⟨1⟩ ⟨1⟩ sampleReport rfl ⟨rfl, rfl⟩).mpr ?_, ?_⟩
  · exact ⟨by decide +kernel, by decide +kernel, by decide +kernel⟩
  · decide +kernel

set_option maxRecDepth 4000 in
/-- A device with too little memory for the policy of its ingest comes back
eligible. -/
theorem drained_back_to_eligible :
    ∃ d, (sampleStore.run [.registerWorker (sampleRegistration 1 10 1) 1000,
        .ingestSnapshot ⟨1⟩ [sampleObservation 1 10 1] { requiredMemory := 1 }
          5000]).devices[sampleKey]? = some d ∧ d.Unfenced ∧
      ¬(sampleStore.run [.registerWorker (sampleRegistration 1 10 1) 1000,
        .ingestSnapshot ⟨1⟩ [sampleObservation 1 10 1] { requiredMemory := 1 }
          5000]).RoundTripsNeutral sampleKey d := by
  refine ⟨_, rfl, ⟨rfl, rfl⟩, fun h => ?_⟩
  obtain ⟨d, hd, hverdict⟩ := h.drain {} 0 {} 0 rfl rfl
  obtain rfl := Option.some.inj hd
  revert hverdict
  decide +kernel

end FleetStateStore

end GpuFleet
