import GpuFleet.Fleet.Accounting
import GpuFleet.Fleet.Disappearance
import GpuFleet.Fleet.Fences
import GpuFleet.Fleet.Loss

/-!
# Fences and the eligibility that is reported

`evaluate_eligibility` puts quarantine before drain and drain before
everything else, and `restore` does the same by hand.  The loss of a worker
and the disappearance of a device write `INELIGIBLE` without looking at the
fences.  `fences_dominate_iff` says that these two writes are the only way
in which a run gets to a fenced device that is not reported as fenced.

The totals of `accounting` are counts of eligibility verdicts.  That they
count fences takes the other direction as well (`VerdictBacked`): a verdict
that names a fence is never given without one.
-/

namespace GpuFleet

open Run

/-- A fence is up. -/
def DeviceState.Fenced (d : DeviceState) : Prop := d.quarantined = true ∨ d.drain ≠ .active

/-- The eligibility of the device shows the dominant fence. -/
structure ShowsFence (d : DeviceState) : Prop where
  quarantined : d.quarantined = true → d.eligibility = .quarantined
  draining : d.quarantined = false → d.drain ≠ .active → d.eligibility = .draining

/-- An eligibility that names a fence has that fence behind it.  The health
of a fresh device is there for the recomputations, which read it. -/
structure VerdictBacked (d : DeviceState) : Prop where
  quarantined : d.eligibility = .quarantined → d.quarantined = true
  draining : d.eligibility = .draining → d.quarantined = false ∧ d.drain ≠ .active
  health : d.observationFresh = true → ¬d.health.Administrative

theorem showsFence_of_not_fenced {d : DeviceState} (h : ¬d.Fenced) : ShowsFence d := by
  obtain ⟨hq, hd⟩ := not_or.mp h
  exact ⟨fun h => absurd h hq, fun _ h => absurd h hd⟩

theorem not_showsFence_of_ineligible {d : DeviceState} (hfenced : d.Fenced)
    (helig : d.eligibility = .ineligible) : ¬ShowsFence d := by
  intro h
  by_cases hq : d.quarantined = true
  · have heq := h.quarantined hq
    rw [helig] at heq
    cases heq
  · have heq := h.draining (by simpa using hq) (hfenced.resolve_left hq)
    rw [helig] at heq
    cases heq

/-- The cascade puts the fences in front. -/
theorem showsFence_of_evaluate {d : DeviceState} {i : EligibilityInput}
    (hverdict : d.eligibility = (evaluateEligibility i).state)
    (hquarantine : i.quarantine = d.quarantined)
    (hdrain : i.drainActive = decide (d.drain ≠ .active)) : ShowsFence d := by
  constructor
  · intro hq
    rw [hverdict]
    exact evaluateEligibility_of_quarantine (hquarantine.trans hq)
  · intro hq hd
    rw [hverdict]
    exact evaluateEligibility_of_drain (hquarantine.trans hq) (hdrain.trans (decide_eq_true hd))

namespace FleetStateStore

/-! ## Writers of the eligibility -/

theorem showsFence_applyTo (s : FleetStateStore) (o : DeviceObservation)
    (policy : ObservationPolicy) (now : Timestamp) :
    ShowsFence (s.applyTo o policy now).state :=
  showsFence_of_evaluate rfl rfl rfl

theorem verdictBacked_applyTo (s : FleetStateStore) (o : DeviceObservation)
    (policy : ObservationPolicy) (now : Timestamp) :
    VerdictBacked (s.applyTo o policy now).state := by
  have hhealth : ¬(s.applyTo o policy now).state.health.Administrative := by
    apply evaluateHealth_not_administrative
    · split <;> rfl
    · split <;> rfl
  refine ⟨?_, ?_, fun _ => hhealth⟩
  · intro helig
    rcases evaluateEligibility_fenced (Or.inl helig) with ⟨_, hq⟩ | ⟨hd, _⟩ | ⟨_, hh⟩
    · exact hq
    · cases helig.symm.trans hd
    · exact absurd hh hhealth
  · intro helig
    rcases evaluateEligibility_fenced (Or.inr helig) with ⟨hq, _⟩ | ⟨_, hq, hd⟩ | ⟨_, hh⟩
    · cases helig.symm.trans hq
    · exact ⟨hq, of_decide_eq_true hd⟩
    · exact absurd hh hhealth

theorem showsFence_recompute (d : DeviceState) :
    ShowsFence (recomputeDeviceEligibility d) :=
  showsFence_of_evaluate rfl rfl rfl

theorem verdictBacked_recompute {d d' : DeviceState} (h : VerdictBacked d)
    (hedit : AdminEdit d d') : VerdictBacked (recomputeDeviceEligibility d') := by
  have hhealth : d'.observationFresh = true → ¬d'.health.Administrative := by
    rw [hedit.observationFresh, hedit.health]
    exact h.health
  refine ⟨?_, ?_, hhealth⟩
  · intro helig
    rcases evaluateEligibility_fenced (Or.inl helig) with ⟨_, hq⟩ | ⟨hd, _⟩ | ⟨hf, hh⟩
    · exact hq
    · cases helig.symm.trans hd
    · exact absurd hh (hhealth hf)
  · intro helig
    rcases evaluateEligibility_fenced (Or.inr helig) with ⟨hq, _⟩ | ⟨_, hq, hd⟩ | ⟨hf, hh⟩
    · cases helig.symm.trans hq
    · exact ⟨hq, of_decide_eq_true hd⟩
    · exact absurd hh (hhealth hf)

/-- Recovery assigns the dominant fence by hand. -/
theorem showsFence_restore (d : DeviceState) : ShowsFence (restoreDevice d) := by
  unfold restoreDevice
  by_cases hq : d.quarantined = true
  · constructor <;> simp [hq]
  · by_cases hd : d.drain = .active
    · constructor <;> simp [hq, hd]
    · constructor <;> simp [hq, hd]

theorem verdictBacked_restore (d : DeviceState) : VerdictBacked (restoreDevice d) := by
  have hfresh : (restoreDevice d).observationFresh = true →
      ¬(restoreDevice d).health.Administrative := by
    intro h
    rw [restoreDevice_observationFresh] at h
    cases h
  refine ⟨?_, ?_, hfresh⟩
  all_goals
    unfold restoreDevice
    by_cases hq : d.quarantined = true
    · simp [hq]
    · by_cases hd : d.drain = .active
      · simp [hq, hd]
      · simp [hq, hd]

/-- Loss overwrites the verdict of a device that is present and of no other. -/
theorem showsFence_lose_iff {d : DeviceState} (h : ShowsFence d) :
    ShowsFence (loseDevice d) ↔ (d.present = true → ¬d.Fenced) := by
  by_cases hp : d.present = true
  · have hlost : (loseDevice d).eligibility = .ineligible := by simp [loseDevice, hp]
    have hfences := loseDevice_fences d
    have hq : (loseDevice d).quarantined = d.quarantined := congrArg Fences.quarantined hfences
    have hd : (loseDevice d).drain = d.drain := congrArg Fences.drain hfences
    have hfenced : (loseDevice d).Fenced ↔ d.Fenced := by
      rw [DeviceState.Fenced, DeviceState.Fenced, hq, hd]
    constructor
    · intro hshows _ hf
      exact not_showsFence_of_ineligible (hfenced.mpr hf) hlost hshows
    · intro hnot
      exact showsFence_of_not_fenced fun hf => hnot hp (hfenced.mp hf)
  · refine ⟨fun _ h => absurd h hp, fun _ => ?_⟩
    have hsame : loseDevice d = { d with observationFresh := false } := by
      simp [loseDevice, hp]
    rw [hsame]
    exact ⟨h.quarantined, h.draining⟩

theorem verdictBacked_lose {d : DeviceState} (h : VerdictBacked d) :
    VerdictBacked (loseDevice d) := by
  have hfresh : (loseDevice d).observationFresh = true →
      ¬(loseDevice d).health.Administrative := by
    intro hf
    rw [loseDevice_observationFresh] at hf
    cases hf
  by_cases hp : d.present = true
  · have hlost : (loseDevice d).eligibility = .ineligible := by simp [loseDevice, hp]
    refine ⟨?_, ?_, hfresh⟩
    · intro helig
      cases hlost.symm.trans helig
    · intro helig
      cases hlost.symm.trans helig
  · have hsame : loseDevice d = { d with observationFresh := false } := by
      simp [loseDevice, hp]
    rw [hsame] at hfresh ⊢
    exact ⟨h.quarantined, h.draining, hfresh⟩

theorem showsFence_disappear_iff (d : DeviceState) :
    ShowsFence (disappearDevice d) ↔ ¬d.Fenced := by
  constructor
  · intro hshows hf
    exact not_showsFence_of_ineligible (d := disappearDevice d) hf rfl hshows
  · intro hnot
    exact showsFence_of_not_fenced (d := disappearDevice d) hnot

theorem verdictBacked_disappear (d : DeviceState) : VerdictBacked (disappearDevice d) := by
  refine ⟨?_, ?_, ?_⟩
  · intro helig
    cases helig
  · intro helig
    cases helig
  · intro hfresh
    cases hfresh

/-- No reachable state, recoveries included, has a verdict without a fence. -/
theorem verdictBacked_invariant :
    DeviceInvariant (fun _ => True) (fun _ d => VerdictBacked d) where
  applied := fun s _ _ policy now _ o _ _ => verdictBacked_applyTo s o policy now
  lost := fun _ _ h => verdictBacked_lose h
  gone := fun _ d _ => verdictBacked_disappear d
  edited := fun _ _ _ h hedit => verdictBacked_recompute h hedit
  restored := fun _ _ _ d _ => verdictBacked_restore d

/-! ## One call -/

/-- Every device on file shows its dominant fence. -/
def ShowsFences (s : FleetStateStore) : Prop :=
  ∀ (key : ByteString) (d : DeviceState), s.devices[key]? = some d → ShowsFence d

/-- The call does not write over the verdict of a fenced device: it neither
loses the worker of one that is present nor takes one for gone. -/
def SparesFenced (s : FleetStateStore) : Op → Prop
  | .markWorkerLost w _ =>
    ∀ wr, s.workers[w]? = some wr → ∀ key ∈ wr.deviceIdentities, ∀ d,
      s.devices[key]? = some d → d.present = true → ¬d.Fenced
  | .ingestSnapshot worker obs _ _ =>
    ∀ wr key, s.TakenForGone worker obs wr key → ∀ d, s.devices[key]? = some d → ¬d.Fenced
  | _ => True

theorem showsFences_markWorkerLost_iff {s : FleetStateStore} (h : s.ShowsFences)
    (w : WorkerId) (now : Timestamp) :
    (s.step (.markWorkerLost w now)).ShowsFences ↔ s.SparesFenced (.markWorkerLost w now) := by
  constructor
  · intro hshows wr hwr key hmem d hd
    have hd' : (s.step (.markWorkerLost w now)).devices[key]? = some (loseDevice d) := by
      rw [step, exec, markWorkerLost_getElem? hwr, if_pos hmem, hd, Option.map_some]
    exact (showsFence_lose_iff (h key d hd)).mp (hshows key _ hd')
  · intro hspares key d hd
    cases hwr : s.workers[w]? with
    | none =>
      rcases s.markWorkerLost_cases w now with ⟨_, hdone⟩ | ⟨wr, hwr', _⟩
      · rw [step, exec, hdone.store] at hd
        exact h key d hd
      · rw [hwr] at hwr'
        cases hwr'
    | some wr =>
      rw [step, exec, markWorkerLost_getElem? hwr] at hd
      by_cases hmem : key ∈ wr.deviceIdentities
      · rw [if_pos hmem] at hd
        obtain ⟨d₀, hd₀, rfl⟩ := Option.map_eq_some_iff.mp hd
        exact (showsFence_lose_iff (h key d₀ hd₀)).mpr (hspares wr hwr key hmem d₀ hd₀)
      · rw [if_neg hmem] at hd
        exact h key d hd

theorem showsFences_ingestSnapshot_iff {s : FleetStateStore} (h : s.ShowsFences)
    (worker : WorkerId) (obs : List DeviceObservation) (policy : ObservationPolicy)
    (now : Timestamp) :
    (s.step (.ingestSnapshot worker obs policy now)).ShowsFences ↔
      s.SparesFenced (.ingestSnapshot worker obs policy now) := by
  have hstep : (s.step (.ingestSnapshot worker obs policy now)).devices
      = (s.ingestSnapshot worker obs policy now).store.devices := rfl
  unfold ShowsFences
  rw [hstep]
  constructor
  · intro hshows wr key hgone d hd
    have hd' : (s.ingestSnapshot worker obs policy now).store.devices[key]?
        = some (disappearDevice d) := by
      rw [ingestSnapshot_gone hgone, hd, Option.map_some]
    exact (showsFence_disappear_iff d).mp (hshows key _ hd')
  · intro hspares key d hd
    rcases ingest_live_or_refused s worker with hdead | ⟨wr, hwr, hlost, hfenced⟩
    · cases hwr : s.workers[worker]? with
      | none =>
        rw [ingestSnapshot_unregistered hwr] at hd
        exact h key d hd
      | some wr =>
        rw [ingestSnapshot_dead hwr (hdead wr hwr)] at hd
        exact h key d hd
    by_cases hkey : Brings obs (verdicts s.epoch worker wr.boot s.stampOf obs) key
    · obtain ⟨d', hd', hshows⟩ := ingestSnapshot_brought (Q := ShowsFence) policy now
        hwr hlost hfenced hkey fun t o _ _ => t.showsFence_applyTo o policy now
      obtain rfl : d' = d := Option.some.inj (hd'.symm.trans hd)
      exact hshows
    · by_cases hgone : s.TakenForGone worker obs wr key
      · rw [ingestSnapshot_gone hgone] at hd
        obtain ⟨d₀, hd₀, rfl⟩ := Option.map_eq_some_iff.mp hd
        exact (showsFence_disappear_iff d₀).mpr (hspares wr key hgone d₀ hd₀)
      · rw [ingestSnapshot_kept hwr hkey hgone] at hd
        exact h key d hd

theorem showsFences_adminEffect {s : FleetStateStore} (h : s.ShowsFences)
    {identity : ByteString} {out : Outcome Unit} (heffect : AdminEffect s identity out) :
    out.store.ShowsFences := by
  rcases heffect with hdone | ⟨d, d', log, _, _, hdone⟩
  · rw [hdone.store]
    exact h
  · intro key d₀ hd₀
    rw [hdone.store] at hd₀
    simp only [OrderedMap.getElem?_insert] at hd₀
    split at hd₀
    · cases hd₀
      exact showsFence_recompute d'
    · exact h key d₀ hd₀

/-- A call keeps the verdicts in line with the fences exactly when it spares
the fenced devices. -/
theorem showsFences_step_iff {s : FleetStateStore} (h : s.ShowsFences) (op : Op) :
    (s.step op).ShowsFences ↔ s.SparesFenced op := by
  cases op with
  | rollEpoch ne =>
    refine iff_of_true ?_ trivial
    rcases s.rollEpoch_cases ne with ⟨_, hr⟩ | ⟨_, hdone⟩
    · rw [step, exec, hr.store]
      exact h
    · rw [step, exec, hdone.store]
      exact h
  | registerWorker reg now =>
    refine iff_of_true ?_ trivial
    intro key d hd
    rw [step, exec, Outcome.void, registerWorker_devices] at hd
    exact h key d hd
  | restore snap =>
    refine iff_of_true ?_ trivial
    intro key d hd
    obtain ⟨d₀, _, rfl⟩ := restored_device hd
    exact showsFence_restore d₀
  | markWorkerLost w now => exact showsFences_markWorkerLost_iff h w now
  | ingestSnapshot worker obs policy now =>
    exact showsFences_ingestSnapshot_iff h worker obs policy now
  | heartbeat worker boot epoch now hg =>
    refine iff_of_true ?_ trivial
    rcases s.heartbeat_cases worker boot epoch now hg with ⟨hr, _⟩ | ⟨_, _, _, _, hdone⟩
    · rw [step, exec, hr.store]
      exact h
    · rw [step, exec, hdone.store]
      exact h
  | setDrain w identity d now =>
    refine iff_of_true ?_ trivial
    rcases s.setDrain_cases w identity d now with ⟨_, hr⟩ | heffect
    · rw [step, exec, hr.store]
      exact h
    · exact showsFences_adminEffect h heffect
  | setQuarantine w identity q now =>
    refine iff_of_true ?_ trivial
    rcases s.setQuarantine_cases w identity q now with ⟨hr, _⟩ | heffect
    · rw [step, exec, hr.store]
      exact h
    · exact showsFences_adminEffect h heffect
  | clearQuarantine w identity epoch now =>
    refine iff_of_true ?_ trivial
    rcases s.clearQuarantine_cases w identity epoch now with ⟨hr, _⟩ | heffect
    · rw [step, exec, hr.store]
      exact h
    · exact showsFences_adminEffect h heffect

/-! ## Totals -/

/-- The totals of `accounting` are counts of verdicts. -/
theorem accounting_totals (s : FleetStateStore) :
    s.accounting.quarantinedDevices = UInt64.ofNat
        (s.devices.toList.countP fun e => decide (e.2.eligibility = .quarantined)) ∧
      s.accounting.drainedDevices = UInt64.ofNat
        (s.devices.toList.countP fun e => decide (e.2.eligibility = .draining)) := by
  rw [accounting_eq]
  exact ⟨rfl, rfl⟩

/-! ## Runs -/

/-- Every fenced device is reported as such, and the totals count the fences:
the quarantined devices, and the drained ones that are not quarantined. -/
structure FencesDominate (s : FleetStateStore) : Prop where
  quarantined : ∀ (key : ByteString) (d : DeviceState), s.devices[key]? = some d →
    d.quarantined = true → d.eligibility = .quarantined
  draining : ∀ (key : ByteString) (d : DeviceState), s.devices[key]? = some d →
    d.quarantined = false → d.drain ≠ .active → d.eligibility = .draining
  quarantinedDevices : s.accounting.quarantinedDevices
    = UInt64.ofNat (s.devices.toList.countP fun e => e.2.quarantined)
  drainedDevices : s.accounting.drainedDevices = UInt64.ofNat
    (s.devices.toList.countP fun e => !e.2.quarantined && decide (e.2.drain ≠ .active))

/-- Where no verdict is without a fence, the totals follow from the
verdicts. -/
theorem fencesDominate_iff_showsFences {s : FleetStateStore}
    (hbacked : ∀ (key : ByteString) d, s.devices[key]? = some d → VerdictBacked d) :
    s.FencesDominate ↔ s.ShowsFences := by
  constructor
  · intro h key d hd
    exact ⟨h.quarantined key d hd, h.draining key d hd⟩
  · intro h
    obtain ⟨hq, hd⟩ := s.accounting_totals
    refine ⟨fun key d hd => (h key d hd).quarantined, fun key d hd => (h key d hd).draining,
      ?_, ?_⟩
    · rw [hq]
      congr 1
      apply List.countP_congr
      rintro ⟨key, d⟩ hmem
      have hdev := Std.ExtTreeMap.mem_toList_iff_getElem?_eq_some.mp hmem
      rw [decide_eq_true_iff]
      exact ⟨(hbacked key d hdev).quarantined, (h key d hdev).quarantined⟩
    · rw [hd]
      congr 1
      apply List.countP_congr
      rintro ⟨key, d⟩ hmem
      have hdev := Std.ExtTreeMap.mem_toList_iff_getElem?_eq_some.mp hmem
      rw [decide_eq_true_iff, Bool.and_eq_true, Bool.not_eq_true', decide_eq_true_iff]
      constructor
      · exact (hbacked key d hdev).draining
      · rintro ⟨hq', hd'⟩
        exact (h key d hdev).draining hq' hd'

/-- In every state of a run the fences dominate exactly when no call of the
run loses the worker of a fenced device that is present, or takes a fenced
device for gone. -/
theorem fences_dominate_iff (coord : CoordinatorId) (epoch : CoordinatorEpoch)
    (ops : List Op) :
    Throughout step FencesDominate (empty coord epoch) ops ↔
      Always (fun _ call => call.1.SparesFenced call.2) ((empty coord epoch).history ops) := by
  apply throughout_iff_always
  · have hbacked := verdictBacked_invariant.run coord epoch [] (by simp)
    have hshows : (empty coord epoch).ShowsFences := by
      intro key d hd
      simp [empty] at hd
    exact (fencesDominate_iff_showsFences hbacked).mpr hshows
  · intro before op after _ hdominate
    have hbacked := verdictBacked_invariant.run coord epoch before fun _ _ => trivial
    have hbacked' := verdictBacked_invariant.step hbacked op trivial
    have hshows := (fencesDominate_iff_showsFences hbacked).mp hdominate
    exact (fencesDominate_iff_showsFences hbacked').trans (showsFences_step_iff hshows op)

set_option maxRecDepth 4000 in
/-- The loss of its worker makes a quarantined device look merely ineligible. -/
theorem lost_quarantine_not_shown :
    ¬Throughout step FencesDominate sampleStore
      (sampleReport ++ [.setQuarantine ⟨1⟩ sampleKey {} 6000, .markWorkerLost ⟨1⟩ 7000]) := by
  intro hthroughout
  have hlast := hthroughout _ [] (List.append_nil _).symm
  have hshown := hlast.quarantined sampleKey _ rfl rfl
  revert hshown
  decide

end FleetStateStore

end GpuFleet
