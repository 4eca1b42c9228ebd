import GpuFleet.Fleet.ChangeLog
import GpuFleet.Observation.Policy

/-!
# What an incarnation leaves behind

The gates of `ingest_snapshot` are scoped to an incarnation: "Only observations
from the SAME boot are gated against the prior state", so that a restarted worker
starts clean.  Further down `apply_observation` reads the prior record again,
whoever left it there:

* the drain and the quarantine, which are not the worker's,
* the presence, which only tells two health states of an absent device apart,
* the time of the last observation, which an observation must not precede in
  order to be fresh.

`take_alike_iff` says that the time is all that an old incarnation can do to a
batch of a new one, and when it does it.
-/

namespace GpuFleet

/-! ## What the pipeline reads of the prior record -/

/-- The time on record does not make the observation an old one. -/
def DeviceState.AcceptsTime (d : DeviceState) (o : DeviceObservation) : Prop :=
  d.lastObservedAt ≤ o.observedAt ∨ d.lastObservedAt = kInvalidTimestamp

/-- The fences of the two records are the same. -/
structure SameFences (d d' : DeviceState) : Prop where
  drain : d.drain = d'.drain
  quarantined : d.quarantined = d'.quarantined

/-- The two records have the same freshness, eligibility and reasons. -/
structure SameVerdict (d d' : DeviceState) : Prop where
  observationFresh : d.observationFresh = d'.observationFresh
  verdict : d.verdict = d'.verdict

/-- Whether a device was known is asked about an absent one only. -/
theorem evaluateHealth_of_present {s : HealthSignals} (h : s.devicePresent = true)
    (known : Bool) : evaluateHealth { s with wasKnown := known } = evaluateHealth s := by
  simp only [evaluateHealth, HealthSignals.coreOk, h, Bool.not_true, Bool.false_eq_true, if_false]
  rfl

/-- The health of an absent device has no say in its eligibility. -/
theorem evaluateEligibility_of_absent {i : EligibilityInput} (h : i.devicePresent = false)
    (health : HealthState) :
    evaluateEligibility { i with health := health } = evaluateEligibility i := by
  simp only [evaluateEligibility, h, Bool.not_false, if_true]

section Prior

variable {d d' : DeviceState} {o : DeviceObservation} {policy : ObservationPolicy}
  {now : Timestamp} {epoch : CoordinatorEpoch}

theorem observationIsFresh_eq_iff :
    observationIsFresh d o policy now = observationIsFresh d' o policy now ↔
      o.observedAt = kInvalidTimestamp ∨ policy.freshnessThresholdMs < now - o.observedAt ∨
        (d.AcceptsTime o ↔ d'.AcceptsTime o) := by
  rw [Bool.eq_iff_iff]
  simp only [observationIsFresh, DeviceState.AcceptsTime, Bool.and_eq_true, Bool.or_eq_true,
    decide_eq_true_eq]
  rw [and_congr_right_iff, and_imp, ← Int64.not_le]
  tauto

/-- The health of a present device does not depend on whether it was known. -/
theorem appliedHealth_congr (hpresent : o.present = true)
    (hfresh : observationIsFresh d o policy now = observationIsFresh d' o policy now) :
    appliedHealth d o policy now = appliedHealth d' o policy now := by
  have hknown := evaluateHealth_of_present (s := healthSignalsFromProbe o d'.present
    (!observationIsFresh d' o policy now)) hpresent d.present
  rw [appliedHealth_of_present hpresent, appliedHealth_of_present hpresent, hfresh]
  exact congrArg HealthResult.state hknown

/-- An observation makes the same of two records with the same fences if it is
fresh over both or over none. -/
theorem applyObservation_verdict_congr (hfences : SameFences d d')
    (hfresh : observationIsFresh d o policy now = observationIsFresh d' o policy now)
    (epoch : CoordinatorEpoch) :
    (applyObservation d o policy now epoch).state.verdict
      = (applyObservation d' o policy now epoch).state.verdict := by
  let input (drain : DrainState) (quarantined fresh : Bool) : EligibilityInput :=
    eligibilityInput (candidateState { drain := drain, quarantined := quarantined } o fresh {})
      o policy fresh
  have hverdict : ∀ prior, (applyObservation prior o policy now epoch).state.verdict
      = evaluateEligibility
        { input prior.drain prior.quarantined (observationIsFresh prior o policy now) with
          health := appliedHealth prior o policy now } := fun _ => rfl
  rw [hverdict, hverdict, hfences.drain, hfences.quarantined, hfresh]
  by_cases hpresent : o.present = true
  · rw [appliedHealth_congr hpresent hfresh]
  · have habsent : o.present = false := Bool.eq_false_iff.mpr hpresent
    exact (evaluateEligibility_of_absent habsent _).trans
      (evaluateEligibility_of_absent habsent _).symm

theorem observationIsFresh_congr (h : d.lastObservedAt = d'.lastObservedAt) :
    observationIsFresh d o policy now = observationIsFresh d' o policy now := by
  rw [observationIsFresh, observationIsFresh, h]

/-- One observation over two records. -/
theorem sameVerdict_advance_iff (hfences : SameFences d d') :
    SameVerdict (advance policy now epoch d o) (advance policy now epoch d' o) ↔
      observationIsFresh d o policy now = observationIsFresh d' o policy now := by
  constructor
  · intro h
    exact h.observationFresh
  · intro hfresh
    exact ⟨hfresh, applyObservation_verdict_congr hfences hfresh epoch⟩

/-- The second observation of a course finds the time of the first on record, over
whatever the first was applied to. -/
theorem sameVerdict_course {os : List DeviceObservation} (hfences : SameFences d d')
    (hmore : os ≠ []) :
    SameVerdict (course policy now epoch d (o :: os)) (course policy now epoch d' (o :: os)) := by
  induction os generalizing d d' o with
  | nil => exact absurd rfl hmore
  | cons x rest ih =>
    have hkept : SameFences (advance policy now epoch d o) (advance policy now epoch d' o) :=
      ⟨hfences.drain, hfences.quarantined⟩
    cases rest with
    | nil => exact (sameVerdict_advance_iff hkept).mpr (observationIsFresh_congr rfl)
    | cons y rest => exact ih hkept (List.cons_ne_nil y rest)

theorem sameVerdict_course_iff (os : List DeviceObservation) (hfences : SameFences d d') :
    SameVerdict (course policy now epoch d (o :: os)) (course policy now epoch d' (o :: os)) ↔
      os ≠ [] ∨ observationIsFresh d o policy now = observationIsFresh d' o policy now := by
  cases os with
  | nil =>
    rw [or_iff_right (not_not.mpr rfl)]
    exact sameVerdict_advance_iff hfences
  | cons x rest =>
    have hmore := List.cons_ne_nil x rest
    exact iff_of_true (sameVerdict_course hfences hmore) (Or.inl hmore)

end Prior

/-! ## What the gates make of it -/

namespace FleetStateStore

section Gates

variable {epoch : CoordinatorEpoch} {worker : WorkerId} {boot : WorkerBootId}
  {o : DeviceObservation} {rest : List DeviceObservation}

/-- To the gates, a record of another incarnation is no record. -/
theorem gate_of_superseded {p : Stamp} (hp : p.sourceWorkerBoot ≠ boot) :
    gate epoch worker boot (some p) o = gate epoch worker boot none o := by
  unfold gate
  split
  · rfl
  split
  · rfl
  next hboot =>
  split
  · rfl
  · have hother : o.sourceWorkerBoot ≠ p.sourceWorkerBoot := by
      rw [not_not.mp hboot]
      exact hp.symm
    simp only [if_neg hother]

theorem verdicts_congr {onFile onFile' : ByteString → Option Stamp}
    {obs : List DeviceObservation} (h : ∀ x ∈ obs, onFile x.key = onFile' x.key) :
    verdicts epoch worker boot onFile obs = verdicts epoch worker boot onFile' obs := by
  induction obs generalizing onFile onFile' with
  | nil => rfl
  | cons x rest ih =>
    rw [verdicts, verdicts, h x List.mem_cons_self]
    have hrest : ∀ y ∈ rest, onFile y.key = onFile' y.key :=
      fun y hy => h y (List.mem_cons_of_mem x hy)
    cases gate epoch worker boot (onFile' x.key) x with
    | refuse err => rfl
    | skip => exact congrArg _ (ih hrest)
    | pass =>
      refine congrArg _ (ih fun y hy => ?_)
      rw [hrest y hy]

/-- The verdicts on a batch of one device do not depend on a record that another
incarnation left. -/
theorem verdicts_of_superseded {onFile : ByteString → Option Stamp}
    (hrest : ∀ x ∈ rest, x.key = o.key)
    (hfile : ∀ p, onFile o.key = some p → p.sourceWorkerBoot ≠ boot) :
    verdicts epoch worker boot onFile (o :: rest)
      = verdicts epoch worker boot (fun _ => none) (o :: rest) := by
  have hgate : gate epoch worker boot (onFile o.key) o = gate epoch worker boot none o := by
    cases hp : onFile o.key with
    | none => rfl
    | some p => exact gate_of_superseded (hfile p hp)
  rw [verdicts, verdicts, hgate]
  cases hfirst : gate epoch worker boot none o with
  | refuse err => rfl
  | skip =>
    obtain ⟨_, _, _, p, hp, _⟩ := gate_skip hfirst
    cases hp
  | pass =>
    refine congrArg _ (verdicts_congr fun x hx => ?_)
    rw [if_pos (hrest x hx).symm, if_pos (hrest x hx).symm]

/-- Of an accepted batch, an observation of the device passes exactly when one is
newer than what the incarnation has on file. -/
theorem brings_iff_newer {onFile : ByteString → Option Stamp} {key : ByteString} {p : Stamp}
    (hrest : ∀ x ∈ rest, x.key = key) (hfile : onFile key = some p)
    (hboot : p.sourceWorkerBoot = boot)
    (haccepted : ¬Refuses (verdicts epoch worker boot onFile rest)) :
    Brings rest (verdicts epoch worker boot onFile rest) key ↔
      ∃ x ∈ rest, p.observationGeneration < x.observationGeneration := by
  induction rest with
  | nil => simp [Brings]
  | cons x rest ih =>
    have hkey := hrest x List.mem_cons_self
    rw [verdicts, hkey, hfile] at haccepted ⊢
    cases hg : gate epoch worker boot (some p) x with
    | refuse err =>
      rw [hg] at haccepted
      exact absurd ⟨err, List.mem_singleton_self _⟩ haccepted
    | skip =>
      rw [hg] at haccepted
      obtain ⟨_, _, _, q, hq, _, hle⟩ := gate_skip hg
      obtain rfl := Option.some.inj hq
      have haccepted' : ¬Refuses (verdicts epoch worker boot onFile rest) := by
        intro hrefuses
        obtain ⟨err, herr⟩ := hrefuses
        exact haccepted ⟨err, List.mem_cons_of_mem _ herr⟩
      have hlater := ih (fun y hy => hrest y (List.mem_cons_of_mem x hy)) haccepted'
      rw [brings_cons, hlater]
      simp [not_lt.mpr hle]
    | pass =>
      obtain ⟨_, _, _, hnewer⟩ := gate_pass hg
      refine iff_of_true (brings_cons.mpr (Or.inl ⟨rfl, hkey⟩)) ⟨x, List.mem_cons_self, ?_⟩
      exact hnewer p rfl hboot

/-- The first observation of an accepted batch passes, and its stamp is what the
rest of the batch finds on file. -/
theorem verdicts_cons_of_accepted
    (haccepted : ¬Refuses (verdicts epoch worker boot (fun _ => none) (o :: rest))) :
    o.sourceWorkerBoot = boot ∧ ∃ onFile, onFile o.key = some o.stamp ∧
      verdicts epoch worker boot (fun _ => none) (o :: rest)
        = .pass :: verdicts epoch worker boot onFile rest := by
  rw [verdicts] at haccepted ⊢
  cases hg : gate epoch worker boot none o with
  | refuse err =>
    rw [hg] at haccepted
    exact absurd ⟨err, List.mem_singleton_self _⟩ haccepted
  | skip =>
    obtain ⟨_, _, _, p, hp, _⟩ := gate_skip hg
    cases hp
  | pass =>
    let onFile (key : ByteString) : Option Stamp := if o.key = key then some o.stamp else none
    have hfile : onFile o.key = some o.stamp := if_pos rfl
    exact ⟨(gate_pass hg).2.1, onFile, hfile, rfl⟩

end Gates

/-! ## A new incarnation -/

/-- The store with the given record of a device.  Stores that differ in one
device on file are one store with two records of it. -/
def withDevice (s : FleetStateStore) (key : ByteString) (d : DeviceState) : FleetStateStore :=
  { s with devices := s.devices.insert key d }

/-- What incarnations other than the current one of the worker may have left in
a device: two records with the same identity, drain and quarantine. -/
structure Leftovers (s : FleetStateStore) (worker : WorkerId) (d₁ d₂ : DeviceState) : Prop where
  identity : d₁.identity = d₂.identity
  fences : SameFences d₁ d₂
  quarantine : d₁.quarantine = d₂.quarantine
  superseded : ∀ wr, s.workers[worker]? = some wr →
    d₁.sourceWorkerBoot ≠ wr.boot ∧ d₂.sourceWorkerBoot ≠ wr.boot

/-- The two stores take the batch alike: both reject it, or both accept it and
the device ends with the same freshness, eligibility and reasons. -/
structure TakeAlike (s t : FleetStateStore) (worker : WorkerId) (obs : List DeviceObservation)
    (policy : ObservationPolicy) (now : Timestamp) (key : ByteString) : Prop where
  failed : (s.ingestSnapshot worker obs policy now).Failed ↔
    (t.ingestSnapshot worker obs policy now).Failed
  device : ¬(s.ingestSnapshot worker obs policy now).Failed →
    ∃ d d', (s.ingestSnapshot worker obs policy now).store.devices[key]? = some d ∧
      (t.ingestSnapshot worker obs policy now).store.devices[key]? = some d' ∧ SameVerdict d d'

/-- The worker is not live, or the gates reject its batch also for a device that
is not on file. -/
def TurnsAway (s : FleetStateStore) (worker : WorkerId) (obs : List DeviceObservation) : Prop :=
  ∀ wr, s.workers[worker]? = some wr → wr.lost = true ∨ wr.fenced = true ∨
    Refuses (verdicts s.epoch worker wr.boot (fun _ => none) obs)

/-- Nothing comes of the times that the two records have: a later observation is
newer than the first, the first is undated or too old in itself, or both times
accept it or none does. -/
def TimesUnread (d₁ d₂ : DeviceState) (o : DeviceObservation) (rest : List DeviceObservation)
    (policy : ObservationPolicy) (now : Timestamp) : Prop :=
  (∃ x ∈ rest, o.observationGeneration < x.observationGeneration) ∨
    o.observedAt = kInvalidTimestamp ∨ policy.freshnessThresholdMs < now - o.observedAt ∨
    (d₁.AcceptsTime o ↔ d₂.AcceptsTime o)

section Ingest

variable {s : FleetStateStore} {worker : WorkerId} {wr : WorkerRecord} {d : DeviceState}
  {o : DeviceObservation} {rest : List DeviceObservation}

@[simp] theorem withDevice_epoch (s : FleetStateStore) (key : ByteString) (d : DeviceState) :
    (s.withDevice key d).epoch = s.epoch := rfl

theorem withDevice_stampOf (s : FleetStateStore) (key : ByteString) (d : DeviceState) :
    (s.withDevice key d).stampOf key = some d.stamp := by
  rw [stampOf, withDevice, OrderedMap.getElem?_insert, if_pos rfl, Option.map_some]

theorem withDevice_deviceAt (s : FleetStateStore) (key : ByteString) (d : DeviceState) :
    (s.withDevice key d).deviceAt key = d := by
  rw [deviceAt, withDevice, OrderedMap.getElem?_insert, if_pos rfl, Option.getD_some]

theorem withDevice_verdicts (hboot : d.sourceWorkerBoot ≠ wr.boot)
    (hrest : ∀ x ∈ rest, x.key = o.key) :
    verdicts s.epoch worker wr.boot (s.withDevice o.key d).stampOf (o :: rest)
      = verdicts s.epoch worker wr.boot (fun _ => none) (o :: rest) := by
  refine verdicts_of_superseded hrest fun p hp => ?_
  rw [withDevice_stampOf] at hp
  rw [← Option.some.inj hp]
  exact hboot

/-- The course of a device that a new incarnation reports: the first observation
of the batch, and those that pass after it.  The record on file has no part in
the choice. -/
theorem withDevice_course (policy : ObservationPolicy) (now : Timestamp)
    (hwr : s.workers[worker]? = some wr) (hlost : wr.lost = false) (hfenced : wr.fenced = false)
    (hrest : ∀ x ∈ rest, x.key = o.key)
    (haccepted : ¬Refuses (verdicts s.epoch worker wr.boot (fun _ => none) (o :: rest))) :
    ∃ os, (os ≠ [] ↔ ∃ x ∈ rest, o.observationGeneration < x.observationGeneration) ∧
      ∀ d : DeviceState, d.sourceWorkerBoot ≠ wr.boot →
        ((s.withDevice o.key d).ingestSnapshot worker (o :: rest) policy now).store.devices[o.key]?
          = some (course policy now s.epoch d (o :: os)) := by
  obtain ⟨hboot, onFile, hfile, hvs⟩ := verdicts_cons_of_accepted haccepted
  refine ⟨brought rest (verdicts s.epoch worker wr.boot onFile rest) o.key, ?_, ?_⟩
  · rw [Ne, brought_eq_nil_iff, not_not]
    refine brings_iff_newer hrest hfile hboot fun ⟨err, herr⟩ => haccepted ⟨err, ?_⟩
    rw [hvs]
    exact List.mem_cons_of_mem _ herr
  · intro d hd
    have hverdicts := (withDevice_verdicts hd hrest).trans hvs
    have hbrings : Brings (o :: rest)
        (verdicts s.epoch worker wr.boot (s.withDevice o.key d).stampOf (o :: rest)) o.key := by
      rw [hverdicts]
      exact brings_cons.mpr (Or.inl ⟨rfl, rfl⟩)
    obtain ⟨d', hd', _⟩ := ingestSnapshot_brought (Q := fun _ => True) policy now
      (s := s.withDevice o.key d) hwr hlost hfenced hbrings fun _ _ _ _ => trivial
    have hcourse := (ingest_course policy now (s := s.withDevice o.key d) hwr hlost hfenced
      (Or.inr fun hgone => hgone.missed hbrings)).1
    have hafter : ((s.withDevice o.key d).step
        (.ingestSnapshot worker (o :: rest) policy now)).deviceAt o.key = d' :=
      deviceAt_of_some hd'
    rw [hafter, withDevice_epoch, withDevice_deviceAt, hverdicts, brought_pass rfl] at hcourse
    rw [hd', hcourse]

theorem withDevice_failed_iff (policy : ObservationPolicy) (now : Timestamp)
    (hwr : s.workers[worker]? = some wr) (hlost : wr.lost = false) (hfenced : wr.fenced = false)
    (hboot : d.sourceWorkerBoot ≠ wr.boot) (hrest : ∀ x ∈ rest, x.key = o.key) :
    ((s.withDevice o.key d).ingestSnapshot worker (o :: rest) policy now).Failed ↔
      Refuses (verdicts s.epoch worker wr.boot (fun _ => none) (o :: rest)) := by
  have hfailed := ingestSnapshot_failed_iff (s := s.withDevice o.key d) (o :: rest) policy now hwr
    hlost hfenced
  rw [withDevice_epoch, withDevice_verdicts hboot hrest] at hfailed
  exact hfailed

end Ingest

/-- Two stores that differ in what superseded incarnations left in one device
take a batch of that device alike exactly when they turn it away or the times on
record are not read. -/
theorem take_alike_iff (s : FleetStateStore) {worker : WorkerId} {d₁ d₂ : DeviceState}
    {o : DeviceObservation} {rest : List DeviceObservation} (policy : ObservationPolicy)
    (now : Timestamp) (hleft : s.Leftovers worker d₁ d₂) (hrest : ∀ x ∈ rest, x.key = o.key) :
    TakeAlike (s.withDevice o.key d₁) (s.withDevice o.key d₂) worker (o :: rest) policy now o.key ↔
      s.TurnsAway worker (o :: rest) ∨ TimesUnread d₁ d₂ o rest policy now := by
  rcases ingest_live_or_refused s worker with hdead | ⟨wr, hwr, hlost, hfenced⟩
  · have hfailed : ∀ d,
        ((s.withDevice o.key d).ingestSnapshot worker (o :: rest) policy now).Failed :=
      fun d => (ingestSnapshot_refused (s := s.withDevice o.key d) _ policy now hdead).failed
    refine iff_of_true ⟨iff_of_true (hfailed d₁) (hfailed d₂), fun h => absurd (hfailed d₁) h⟩ ?_
    exact Or.inl fun wr hwr => (hdead wr hwr).imp_right Or.inl
  obtain ⟨hboot₁, hboot₂⟩ := hleft.superseded wr hwr
  have hfailed₁ := withDevice_failed_iff policy now hwr hlost hfenced hboot₁ hrest
  have hfailed₂ := withDevice_failed_iff policy now hwr hlost hfenced hboot₂ hrest
  by_cases haccepted : Refuses (verdicts s.epoch worker wr.boot (fun _ => none) (o :: rest))
  · refine iff_of_true ⟨hfailed₁.trans hfailed₂.symm, fun h => ?_⟩ (Or.inl fun wr' hwr' => ?_)
    · exact absurd (hfailed₁.mpr haccepted) h
    · rw [← Option.some.inj (hwr.symm.trans hwr')]
      exact Or.inr (Or.inr haccepted)
  · have hstays : ¬s.TurnsAway worker (o :: rest) := by
      intro haway
      rcases haway wr hwr with hflag | hflag | hrefused
      · cases hlost.symm.trans hflag
      · cases hfenced.symm.trans hflag
      · exact haccepted hrefused
    obtain ⟨os, hmore, hcourse⟩ := withDevice_course policy now hwr hlost hfenced hrest haccepted
    have halike : TakeAlike (s.withDevice o.key d₁) (s.withDevice o.key d₂) worker (o :: rest)
        policy now o.key ↔ SameVerdict (course policy now s.epoch d₁ (o :: os))
          (course policy now s.epoch d₂ (o :: os)) := by
      constructor
      · intro h
        obtain ⟨d, d', hd, hd', hsame⟩ := h.device fun h => haccepted (hfailed₁.mp h)
        rw [Option.some.inj ((hcourse d₁ hboot₁).symm.trans hd),
          Option.some.inj ((hcourse d₂ hboot₂).symm.trans hd')]
        exact hsame
      · intro hsame
        refine ⟨hfailed₁.trans hfailed₂.symm, fun _ => ?_⟩
        exact ⟨_, _, hcourse d₁ hboot₁, hcourse d₂ hboot₂, hsame⟩
    rw [halike, sameVerdict_course_iff os hleft.fences, hmore, observationIsFresh_eq_iff,
      or_iff_right hstays, TimesUnread]

/-- The worker reported the sample device, was lost and registers again. -/
def sampleRestarted : FleetStateStore :=
  sampleStore.run (sampleReport ++
    [.markWorkerLost ⟨1⟩ 6000, .registerWorker (sampleRegistration 1 20 1) 6000])

/-- What the first incarnation left of the device. -/
def sampleLeftover : DeviceState := sampleRestarted.deviceAt sampleKey

theorem sampleRestarted_superseded {d d' : DeviceState} (h : d.sourceWorkerBoot ≠ ⟨20⟩)
    (h' : d'.sourceWorkerBoot ≠ ⟨20⟩) (wr : WorkerRecord)
    (hwr : sampleRestarted.workers[(⟨1⟩ : WorkerId)]? = some wr) :
    d.sourceWorkerBoot ≠ wr.boot ∧ d'.sourceWorkerBoot ≠ wr.boot := by
  obtain rfl := Option.some.inj hwr
  exact ⟨h, h'⟩

set_option maxRecDepth 4000 in
/-- The leftover of a lost incarnation with high generations does no more than a
record without a time. -/
theorem untimed_leftover_alike :
    TakeAlike (sampleRestarted.withDevice sampleKey
        { sampleLeftover with observationGeneration := ⟨9⟩, healthGeneration := ⟨9⟩ })
      (sampleRestarted.withDevice sampleKey { identity := sampleIdentity })
      ⟨1⟩ [sampleObservation 1 20 1] {} 7000 sampleKey := by
  have hleft : sampleRestarted.Leftovers ⟨1⟩
      { sampleLeftover with observationGeneration := ⟨9⟩, healthGeneration := ⟨9⟩ }
      { identity := sampleIdentity } :=
    ⟨rfl, ⟨rfl, rfl⟩, rfl, sampleRestarted_superseded (by decide) (by decide)⟩
  have hkey : sampleKey = (sampleObservation 1 20 1).key := rfl
  rw [hkey]
  refine (take_alike_iff sampleRestarted {} 7000 hleft fun x hx => ?_).mpr ?_
  · cases hx
  · exact Or.inr (Or.inr (Or.inr (Or.inr (iff_of_true (Or.inl (by decide)) (Or.inr rfl)))))

set_option maxRecDepth 4000 in
/-- The same leftover with two times: an observation that is fresh over the one
is stale over the other. -/
theorem timed_leftovers_differ :
    sampleRestarted.Leftovers ⟨1⟩ sampleLeftover { sampleLeftover with lastObservedAt := 9000 } ∧
      ¬TakeAlike (sampleRestarted.withDevice sampleKey sampleLeftover)
        (sampleRestarted.withDevice sampleKey { sampleLeftover with lastObservedAt := 9000 })
        ⟨1⟩ [sampleObservation 1 20 1] {} 10000 sampleKey := by
  refine ⟨⟨rfl, ⟨rfl, rfl⟩, rfl, sampleRestarted_superseded (by decide) (by decide)⟩, ?_⟩
  intro halike
  have haccepted : ¬((sampleRestarted.withDevice sampleKey sampleLeftover).ingestSnapshot ⟨1⟩
      [sampleObservation 1 20 1] {} 10000).Failed := by
    rintro ⟨err, herr⟩
    cases herr
  obtain ⟨d, d', hd, hd', hsame⟩ := halike.device haccepted
  have hfresh := hsame.observationFresh
  obtain rfl := Option.some.inj hd
  obtain rfl := Option.some.inj hd'
  revert hfresh
  decide

end FleetStateStore

end GpuFleet
