import GpuFleet.Fleet.Effects

/-!
# Verdicts and their reasons

Every verdict on a device comes with the reason for it.  The pipeline and the
recomputation take both from `evaluateEligibility`, and loss and disappearance
write both.  `restore` writes the verdict of a fence without its reason, so a
fenced device that was written off before the snapshot was taken comes back
with the fence as its verdict and with the loss as its reason.

`explained_throughout_iff` says that this is the only leak.
-/

namespace GpuFleet

/-! ## The pairing -/

/-- The reasons are those of the verdict. -/
structure Explains (reasons : List EligibilityReason) (verdict : EligibilityState) : Prop where
  eligible : reasons = [] ↔ verdict = .eligible
  quarantined : verdict = .quarantined → reasons = [.quarantine]
  draining : verdict = .draining → reasons = [.drainPolicy]
  stale : verdict = .stale → reasons = [.staleObservation] ∨ reasons = [.workerRestart] ∨
    reasons = [.generationMismatch]
  refused : verdict = .ineligible ∨ verdict = .degradedEligible →
    reasons.length = 1 ∧ .quarantine ∉ reasons ∧ .drainPolicy ∉ reasons ∧
      .staleObservation ∉ reasons

instance (reasons : List EligibilityReason) (verdict : EligibilityState) :
    Decidable (Explains reasons verdict) :=
  decidable_of_iff
    ((reasons = [] ↔ verdict = .eligible) ∧
      (verdict = .quarantined → reasons = [.quarantine]) ∧
      (verdict = .draining → reasons = [.drainPolicy]) ∧
      (verdict = .stale → reasons = [.staleObservation] ∨ reasons = [.workerRestart] ∨
        reasons = [.generationMismatch]) ∧
      (verdict = .ineligible ∨ verdict = .degradedEligible →
        reasons.length = 1 ∧ .quarantine ∉ reasons ∧ .drainPolicy ∉ reasons ∧
          .staleObservation ∉ reasons))
    ⟨fun ⟨he, hq, hd, hs, hr⟩ => ⟨he, hq, hd, hs, hr⟩, fun ⟨he, hq, hd, hs, hr⟩ =>
      ⟨he, hq, hd, hs, hr⟩⟩

/-- The reasons of a result go with its verdict. -/
def EligibilityResult.Explained (r : EligibilityResult) : Prop := Explains r.reasons r.state

instance (r : EligibilityResult) : Decidable r.Explained :=
  inferInstanceAs (Decidable (Explains _ _))

/-- The reasons on file for a device go with its verdict. -/
def DeviceState.Explained (d : DeviceState) : Prop :=
  Explains d.eligibilityReasons d.eligibility

instance (d : DeviceState) : Decidable d.Explained :=
  inferInstanceAs (Decidable (Explains _ _))

/-! ## The writers -/

theorem eligibilityFromHealth_explained (h : HealthState) :
    (eligibilityFromHealth h).Explained := by
  cases h with
  | undeclared v hv =>
    show Explains [.healthFailure] .ineligible
    decide
  | _ => decide

/-- Every exit of the cascade writes a verdict with its reason. -/
theorem evaluateEligibility_explained (i : EligibilityInput) :
    (evaluateEligibility i).Explained := by
  rw [evaluateEligibility]
  repeat' refine through_gate (P := EligibilityResult.Explained) (by decide) ?_
  exact eligibilityFromHealth_explained i.health

open FleetStateStore

theorem explained_applyTo (s : FleetStateStore) (o : DeviceObservation)
    (policy : ObservationPolicy) (now : Timestamp) : (s.applyTo o policy now).state.Explained :=
  evaluateEligibility_explained _

theorem explained_recompute (d : DeviceState) : (recomputeDeviceEligibility d).Explained :=
  evaluateEligibility_explained _

theorem explained_disappear (d : DeviceState) : (disappearDevice d).Explained := by
  show Explains [.deviceDisappearance] .ineligible
  decide

theorem explained_lose {d : DeviceState} (h : d.Explained) : (loseDevice d).Explained := by
  unfold loseDevice
  by_cases hp : d.present = true
  · simp only [hp, if_true]
    show Explains [.workerRestart] .ineligible
    decide
  · simp only [hp]
    exact h

/-! ## Recovery -/

/-- The reasons of a fenced device name the fence. -/
structure DeviceState.NamesFence (d : DeviceState) : Prop where
  quarantine : d.quarantined = true → d.eligibilityReasons = [.quarantine]
  drain : d.quarantined = false → d.drain ≠ .active → d.eligibilityReasons = [.drainPolicy]

theorem restoreDevice_eligibility (d : DeviceState) :
    (restoreDevice d).eligibility
      = if d.quarantined then .quarantined else if d.drain ≠ .active then .draining
        else .stale := by
  simp only [restoreDevice]
  split
  · rfl
  · split <;> rfl

theorem restoreDevice_eligibilityReasons (d : DeviceState) :
    (restoreDevice d).eligibilityReasons
      = if d.quarantined then d.eligibilityReasons
        else if d.drain ≠ .active then d.eligibilityReasons else [.staleObservation] := by
  simp only [restoreDevice]
  split
  · rfl
  · split <;> rfl

/-- Recovery explains its verdict exactly when the record it found did name
the fence. -/
theorem explained_restore_iff (d : DeviceState) :
    (restoreDevice d).Explained ↔ d.NamesFence := by
  unfold DeviceState.Explained
  rw [restoreDevice_eligibility, restoreDevice_eligibilityReasons]
  by_cases hq : d.quarantined = true
  · rw [if_pos hq, if_pos hq]
    constructor
    · intro h
      refine ⟨fun _ => h.quarantined rfl, fun hnot => ?_⟩
      cases hq.symm.trans hnot
    · intro h
      rw [h.quarantine hq]
      decide
  rw [if_neg hq, if_neg hq]
  by_cases hd : d.drain = .active
  · rw [if_neg (not_not.mpr hd), if_neg (not_not.mpr hd)]
    constructor
    · intro _
      exact ⟨fun hyes => absurd hyes hq, fun _ hne => absurd hd hne⟩
    · intro _
      decide
  · rw [if_pos hd, if_pos hd]
    constructor
    · intro h
      exact ⟨fun hyes => absurd hyes hq, fun _ _ => h.draining rfl⟩
    · intro h
      rw [h.drain (Bool.eq_false_iff.mpr hq) hd]
      decide

/-- A recovery finds the reason of every fence in its snapshot. -/
def Op.NamesFences : Op → Prop
  | .restore snap => ∀ (key : ByteString) d, snap.devices[key]? = some d → d.NamesFence
  | _ => True

namespace FleetStateStore

/-- The verdict on every device is explained. -/
def AllExplained (s : FleetStateStore) : Prop :=
  ∀ (key : ByteString) d, s.devices[key]? = some d → d.Explained

theorem explained_invariant : DeviceInvariant Op.NamesFences fun _ d => d.Explained where
  applied := fun s _ _ policy now _ o _ _ => explained_applyTo s o policy now
  lost := fun _ _ h => explained_lose h
  gone := fun _ d _ => explained_disappear d
  edited := fun _ _ d' _ _ => explained_recompute d'
  restored := fun _ hop key d hd => (explained_restore_iff d).mpr (hop key d hd)

/-- A recovery explains every verdict exactly when its snapshot names the
fences. -/
theorem allExplained_restore_iff (s : FleetStateStore) (snap : StateSnapshot) :
    (s.step (.restore snap)).AllExplained ↔ (Op.restore snap).NamesFences := by
  have hdevices : ∀ key : ByteString, (s.step (.restore snap)).devices[key]?
      = snap.devices[key]?.map restoreDevice := fun _ => Std.ExtTreeMap.getElem?_map
  constructor
  · intro h key d hd
    rw [← explained_restore_iff]
    apply h key
    rw [hdevices, hd, Option.map_some]
  · intro h key d hd
    rw [hdevices] at hd
    obtain ⟨d₀, hd₀, rfl⟩ := Option.map_eq_some_iff.mp hd
    exact (explained_restore_iff d₀).mpr (h key d₀ hd₀)

/-- The verdicts are explained all along a run exactly when every recovery of
the run finds the reasons of the fences in its snapshot. -/
theorem explained_throughout_iff (coord : CoordinatorId) (epoch : CoordinatorEpoch)
    (ops : List Op) :
    Run.Throughout step AllExplained (empty coord epoch) ops ↔ ∀ op ∈ ops, op.NamesFences := by
  constructor
  · intro h op hop
    obtain ⟨before, after, rfl⟩ := List.append_of_mem hop
    have hnext := h (before ++ [op]) after (by simp)
    rw [Run.run_concat] at hnext
    cases op with
    | restore snap => exact (allExplained_restore_iff _ snap).mp hnext
    | _ => trivial
  · intro h before after hops
    refine explained_invariant.run coord epoch before fun op hop => h op ?_
    rw [hops]
    exact List.mem_append_left after hop

/-- A quarantined device is lost with its worker, and the state is recovered
from its own snapshot. -/
def lostInQuarantine : List Op :=
  sampleReport ++
    [.setQuarantine ⟨1⟩ sampleKey {} 5500, .markWorkerLost ⟨1⟩ 6000]

set_option maxRecDepth 4000 in
/-- The device comes back as quarantined, with the restart of its worker as the
reason. -/
theorem recovered_fence_unexplained :
    ¬((sampleStore.run lostInQuarantine).step
      (.restore (sampleStore.run lostInQuarantine).snapshot)).AllExplained := by
  intro h
  have hquarantined := (h sampleKey _ rfl).quarantined rfl
  revert hquarantined
  decide +kernel

end FleetStateStore

end GpuFleet
