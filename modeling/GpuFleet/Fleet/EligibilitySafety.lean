import GpuFleet.Fleet.Effects

/-!
# Eligibility rests on evidence

A device that admits work is present, fresh, free of any administrative
fence and in an operational health state, and the observation behind its
record was fresh and passed every check.

Eligibility is written on three paths: by the pipeline, by the
recomputation after an administrative change, and by the direct assignments
of loss, disappearance and recovery.  `DeviceSafe` is the invariant that all
of them keep.  It speaks about the record and about the trace of the
observations that were applied, because a record does not keep the probe
results it was computed from.
-/

namespace GpuFleet

open Run

/-- The last observation applied to `key` satisfies `Q`. -/
def LastApplied (apps : List Application) (key : ByteString) (Q : Application → Prop) : Prop :=
  Since (fun a => a.key ≠ key) (fun a => a.key = key ∧ Q a) apps

/-- What an admitting record says about itself. -/
structure DeviceState.Cleared (d : DeviceState) : Prop where
  present : d.present = true
  observationFresh : d.observationFresh = true
  quarantined : d.quarantined = false
  drain : d.drain = .active
  health : d.health.Operational

/-- The invariant for one device. -/
structure DeviceSafe (apps : List Application) (key : ByteString) (d : DeviceState) : Prop where
  cleared : d.eligibility.Admits → d.Cleared
  evidence : d.observationFresh = true →
    LastApplied apps key fun a =>
      a.outcome.fresh = true ∧ (d.health.Operational → a.obs.Operational)

/-- The invariant for a store and the trace that led to it. -/
def StoreSafe (apps : List Application) (s : FleetStateStore) : Prop :=
  ∀ key d, s.devices[key]? = some d → DeviceSafe apps key d

/-! ## The paths that fence a device -/

/-- A record that is stale and does not admit work needs no evidence. -/
theorem deviceSafe_of_fenced {apps : List Application} {key : ByteString} {d : DeviceState}
    (hadmits : ¬d.eligibility.Admits) (hfresh : d.observationFresh = false) :
    DeviceSafe apps key d := by
  refine ⟨fun h => absurd h hadmits, fun h => ?_⟩
  rw [hfresh] at h
  cases h

theorem not_admits_ineligible : ¬EligibilityState.ineligible.Admits := by
  intro h
  rcases h with h | h <;> cases h

open FleetStateStore

theorem deviceSafe_disappear (apps : List Application) (key : ByteString) (d : DeviceState) :
    DeviceSafe apps key (disappearDevice d) :=
  deviceSafe_of_fenced not_admits_ineligible rfl

/-- Recovery leaves no device fresh and none admitting. -/
theorem deviceSafe_restore (apps : List Application) (key : ByteString) (d : DeviceState) :
    DeviceSafe apps key (restoreDevice d) := by
  unfold restoreDevice
  by_cases hq : d.quarantined = true
  · apply deviceSafe_of_fenced
    · simp [hq, EligibilityState.Admits]
    · simp [hq]
  · by_cases hd : d.drain = .active
    · apply deviceSafe_of_fenced
      · simp [hq, hd, EligibilityState.Admits]
      · simp [hq, hd]
    · apply deviceSafe_of_fenced
      · simp [hq, hd, EligibilityState.Admits]
      · simp [hq, hd]

/-- The loss of a worker fences a device that is present.  One that is not
present did not admit work before. -/
theorem deviceSafe_lose {apps : List Application} {key : ByteString} {d : DeviceState}
    (h : DeviceSafe apps key d) : DeviceSafe apps key (loseDevice d) := by
  unfold loseDevice
  by_cases hp : d.present = true
  · apply deviceSafe_of_fenced
    · simp [hp, EligibilityState.Admits]
    · simp [hp]
  · apply deviceSafe_of_fenced
    · simp only [hp]
      intro hadmits
      exact hp (h.cleared hadmits).present
    · simp [hp]

/-! ## The administrative path -/

/-- The recomputation cannot invent evidence: it reads the health and the
freshness that the last observation left. -/
theorem deviceSafe_recompute {apps : List Application} {key : ByteString}
    {d d' : DeviceState} (h : DeviceSafe apps key d) (hedit : AdminEdit d d') :
    DeviceSafe apps key (recomputeDeviceEligibility d') := by
  refine ⟨?_, ?_⟩
  · intro hadmits
    obtain ⟨hq, hdrain, hfresh, hpresent, hhealth⟩ := evaluateEligibility_admits hadmits
    refine ⟨hpresent, hfresh, hq, ?_, hhealth⟩
    simpa [recomputeDeviceEligibility] using hdrain
  · intro hfresh
    have hevidence := h.evidence (hedit.observationFresh.symm.trans hfresh)
    have hhealth : (recomputeDeviceEligibility d').health = d.health := hedit.health
    rw [hhealth]
    exact hevidence

/-! ## The pipeline -/

/-- A record that the pipeline wrote is safe, with the observation itself as
the evidence. -/
theorem deviceSafe_applyTo (apps : List Application) (s : FleetStateStore)
    (o : DeviceObservation) (policy : ObservationPolicy) (now : Timestamp) :
    DeviceSafe (apps ++ [⟨o.key, o, s.applyTo o policy now⟩]) o.key
      (s.applyTo o policy now).state := by
  refine ⟨?_, ?_⟩
  · intro hadmits
    have hadmits' : (applyObservation (s.devices[o.key]?.getD {}) o policy now
        s.epoch).state.eligibility.Admits := hadmits
    obtain ⟨hq, hdrain, hfresh, hpresent, hhealth⟩ := applyObservation_admits hadmits'
    exact ⟨hpresent, hfresh, hq, hdrain, hhealth⟩
  · intro hfresh
    refine Since.here ⟨rfl, hfresh, ?_⟩
    intro hhealth
    have hhealth' : (applyObservation (s.devices[o.key]?.getD {}) o policy now
        s.epoch).state.health.Operational := hhealth
    exact (applyObservation_operational hhealth').2

/-- The evidence for a device is not touched by an application to another
one. -/
theorem DeviceSafe.extend {apps : List Application} {key : ByteString} {d : DeviceState}
    (h : DeviceSafe apps key d) {a : Application} (hkey : a.key ≠ key) :
    DeviceSafe (apps ++ [a]) key d :=
  ⟨h.cleared, fun hfresh => (h.evidence hfresh).extend hkey⟩

/-! ## Calls and runs -/

theorem storeSafe_commit {apps : List Application} {s : FleetStateStore}
    (h : StoreSafe apps s) (worker : WorkerId) (o : DeviceObservation)
    (policy : ObservationPolicy) (now : Timestamp) :
    StoreSafe (apps ++ [⟨o.key, o, s.applyTo o policy now⟩])
      (s.commit worker o policy now) := by
  intro key d hd
  rw [commit_devices] at hd
  by_cases hkey : o.key = key
  · subst hkey
    rw [if_pos rfl] at hd
    cases hd
    exact deviceSafe_applyTo apps s o policy now
  · rw [if_neg hkey] at hd
    exact (h key d hd).extend hkey

theorem storeSafe_markDisappeared {apps : List Application} {s : FleetStateStore}
    (h : StoreSafe apps s) (gone : ByteString) (d : DeviceState) (now : Timestamp) :
    StoreSafe apps (s.markDisappeared gone d now) := by
  intro key d' hd'
  rw [markDisappeared_devices] at hd'
  by_cases hkey : gone = key
  · rw [if_pos hkey] at hd'
    cases hd'
    exact deviceSafe_disappear apps key d
  · rw [if_neg hkey] at hd'
    exact h key d' hd'

/-- A call that neither ingests nor restores. -/
theorem storeSafe_of_deviceEffect {apps : List Application} {s t : FleetStateStore}
    (h : StoreSafe apps s)
    (heffect : ∀ key : ByteString, DeviceEffect s.devices[key]? t.devices[key]?) : StoreSafe apps t := by
  intro key d hd
  have hkey := heffect key
  have hsafe := h key
  rw [hd] at hkey
  generalize s.devices[key]? = r at hkey hsafe
  cases hkey with
  | kept => exact hsafe d rfl
  | lost d₀ => exact deviceSafe_lose (hsafe d₀ rfl)
  | edited hedit => exact deviceSafe_recompute (hsafe _ rfl) hedit

/-- One call keeps the invariant. -/
theorem storeSafe_step {apps : List Application} {s : FleetStateStore} (h : StoreSafe apps s)
    (op : Op) : StoreSafe (apps ++ (s.exec op).applied) (s.step op) := by
  by_cases hingest : op.IsIngest
  · cases op with
    | ingestSnapshot worker obs policy now =>
      apply ingestSnapshot_invariant (P := fun t as => StoreSafe as t) apps h
      · intro wr before o st _ hsafe
        exact storeSafe_commit hsafe worker o policy now
      · intro t as key d hsafe _
        exact storeSafe_markDisappeared hsafe key d now
      · intro t as hsafe
        exact hsafe
    | _ => exact absurd hingest fun h => h
  · rw [exec_applied hingest, List.append_nil]
    by_cases hrestore : op.IsRestore
    · cases op with
      | restore snap =>
        intro key d hd
        obtain ⟨d₀, _, rfl⟩ := restored_device hd
        exact deviceSafe_restore apps key d₀
      | _ => exact absurd hrestore fun h => h
    · exact storeSafe_of_deviceEffect h (step_devices hingest hrestore)

/-- Every run keeps the invariant. -/
theorem storeSafe_run (coord : CoordinatorId) (epoch : CoordinatorEpoch) (ops : List Op) :
    StoreSafe (applicationsOf ((empty coord epoch).history ops))
      ((empty coord epoch).run ops) := by
  apply history_invariant (C := fun _ _ => True)
    (I := fun past s => StoreSafe (applicationsOf past) s)
  · intro key d hd
    simp [empty] at hd
  · intro past s op _ hsafe
    rw [applicationsOf_concat]
    exact storeSafe_step hsafe op
  · intro _ _ _ _
    trivial

/-- In every state of every run, recoveries included: a device that is
eligible, degraded or not, is present, fresh, not quarantined, not draining
and operational, and the last observation applied to it was fresh and
reported every check as passed. -/
theorem eligible_device_safe (coord : CoordinatorId) (epoch : CoordinatorEpoch) (ops : List Op)
    (key : ByteString) (d : DeviceState)
    (hd : ((empty coord epoch).run ops).devices[key]? = some d)
    (hadmits : d.eligibility = .eligible ∨ d.eligibility = .degradedEligible) :
    d.present = true ∧ d.observationFresh = true ∧ d.quarantined = false ∧
      d.drain = .active ∧ (d.health = .healthy ∨ d.health = .degraded) ∧
      LastApplied (applicationsOf ((empty coord epoch).history ops)) key fun a =>
        a.outcome.fresh = true ∧ a.obs.present = true ∧ a.obs.driverRuntimeOk = true ∧
          a.obs.cudaInitOk = true ∧ a.obs.memoryAllocOk = true ∧
          a.obs.kernelExecOk = true ∧ a.obs.syncOk = true ∧ a.obs.d2hOk = true ∧
          a.obs.verifyOk = true := by
  have hsafe := storeSafe_run coord epoch ops key d hd
  have hcleared := hsafe.cleared hadmits
  refine ⟨hcleared.present, hcleared.observationFresh, hcleared.quarantined, hcleared.drain,
    hcleared.health, ?_⟩
  obtain ⟨before, a, after, happs, ⟨hkey, hfresh, hoper⟩, hlater⟩ :=
    hsafe.evidence hcleared.observationFresh
  have ho := hoper hcleared.health
  exact ⟨before, a, after, happs, ⟨hkey, hfresh, ho.present, ho.driverRuntimeOk, ho.cudaInitOk,
    ho.memoryAllocOk, ho.kernelExecOk, ho.syncOk, ho.d2hOk, ho.verifyOk⟩, hlater⟩

set_option maxRecDepth 4000 in
/-- The sample device is eligible after its first observation. -/
theorem sample_device_safe :
    ∃ d, (sampleStore.run sampleReport).devices[sampleKey]? = some d ∧
      d.eligibility = .eligible ∧ d.present = true ∧ d.observationFresh = true ∧
      d.drain = .active := by
  refine ⟨_, rfl, rfl, ?_⟩
  obtain ⟨hpresent, hfresh, _, hdrain, _⟩ :=
    eligible_device_safe ⟨1⟩ ⟨1⟩ sampleReport sampleKey _ rfl (Or.inl rfl)
  exact ⟨hpresent, hfresh, hdrain⟩

end GpuFleet
