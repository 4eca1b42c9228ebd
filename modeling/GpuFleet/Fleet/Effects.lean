import GpuFleet.Fleet.Ingest

/-!
# What a call can do

One inversion lemma for each method other than `ingest_snapshot`, which has
its own module.  Every lemma lists the ways a call can end, with the guard
that was passed and the state that results, so that an invariant proof is a
case analysis and does not unfold a method.

`Outcome.Refused` is the common first case: an `error_result` branch that
left the store alone.  `DeviceEffect` puts the methods together: what a call
that is neither an ingest nor a recovery can do to one device.
-/

namespace GpuFleet

/-- The call took an error branch and wrote nothing. -/
structure Outcome.Refused {α : Type} (out : Outcome α) (s : FleetStateStore) : Prop where
  failed : out.Failed
  store : out.store = s
  logged : out.logged = []
  applied : out.applied = []

/-- The call succeeded, left the store as given and applied no observation. -/
structure Outcome.Done {α : Type} (out : Outcome α) (s : FleetStateStore) : Prop where
  ok : ¬out.Failed
  store : out.store = s
  applied : out.applied = []

theorem Outcome.failed_error {α : Type} {s : FleetStateStore} {err : Error}
    {logged : List ChangeRecord} {applied : List Application} :
    (Outcome.Failed (α := α) ⟨s, .error err, logged, applied⟩) := ⟨err, rfl⟩

theorem Outcome.not_failed_ok {α : Type} {s : FleetStateStore} {v : α}
    {logged : List ChangeRecord} {applied : List Application} :
    ¬Outcome.Failed ⟨s, .ok v, logged, applied⟩ := by
  rintro ⟨err, h⟩
  cases h

@[simp] theorem Outcome.void_failed {α : Type} (out : Outcome α) :
    out.void.Failed ↔ out.Failed := by
  obtain ⟨store, result, logged, applied⟩ := out
  cases result with
  | error err => exact ⟨fun _ => ⟨err, rfl⟩, fun _ => ⟨err, rfl⟩⟩
  | ok v => exact ⟨fun h => absurd h not_failed_ok, fun h => absurd h not_failed_ok⟩

theorem Outcome.Refused.void {α : Type} {out : Outcome α} {s : FleetStateStore}
    (h : out.Refused s) : out.void.Refused s :=
  ⟨(Outcome.void_failed out).mpr h.failed, h.store, h.logged, h.applied⟩

theorem Outcome.Done.void {α : Type} {out : Outcome α} {s : FleetStateStore}
    (h : out.Done s) : out.void.Done s :=
  ⟨fun hfailed => h.ok ((Outcome.void_failed out).mp hfailed), h.store, h.applied⟩

namespace FleetStateStore

/-! ## Epoch -/

theorem rollEpoch_cases (s : FleetStateStore) (ne : CoordinatorEpoch) :
    (ne ≤ s.epoch ∧ (s.rollEpoch ne).Refused s) ∨
      (s.epoch < ne ∧
        (s.rollEpoch ne).Done { s with epoch := ne, fleetGen := s.fleetGen.next }) := by
  unfold rollEpoch
  split
  · next h => exact Or.inl ⟨h, Outcome.failed_error, rfl, rfl, rfl⟩
  · next h => exact Or.inr ⟨not_le.mp h, Outcome.not_failed_ok, rfl, rfl⟩

/-! ## Registration -/

/-- The guard of the two paths of `register_worker` that install a record:
the worker is new, or its record is of another incarnation that was fenced,
lost or found dead. -/
structure Installs (s : FleetStateStore) (reg : Registration) : Prop where
  epoch : reg.epoch = s.epoch
  protocol : reg.protocolVersion.value ≠ 0
  vacant : ∀ wr, s.workers[reg.worker]? = some wr →
    wr.boot ≠ reg.workerBoot ∧ (wr.fenced = true ∨ wr.lost = true ∨ wr.alive = false)

/-- The guard of the path that re-affirms the record `wr`. -/
structure Reaffirms (s : FleetStateStore) (reg : Registration) (wr : WorkerRecord) : Prop where
  epoch : reg.epoch = s.epoch
  record : s.workers[reg.worker]? = some wr
  boot : wr.boot = reg.workerBoot
  generation : wr.registrationGeneration < reg.registrationGeneration

/-- The record after a re-affirmation. -/
def reaffirmed (wr : WorkerRecord) (reg : Registration) (now : Timestamp) : WorkerRecord :=
  { wr with
    registrationGeneration := reg.registrationGeneration
    lastHeartbeat := now
    alive := true
    lost := false
    deviceIdentities := reg.enumeratedDevices }

theorem registerWorker_cases (s : FleetStateStore) (reg : Registration) (now : Timestamp) :
    ((s.registerWorker reg now).Refused s ∧ ¬s.Installs reg) ∨
      (∃ wr, s.Reaffirms reg wr ∧ ¬s.Installs reg ∧ (s.registerWorker reg now).Done
        { s with workers := s.workers.insert reg.worker (reaffirmed wr reg now) }) ∨
      (s.Installs reg ∧ (s.registerWorker reg now).Done (s.installWorker reg now).store) := by
  unfold registerWorker
  split
  · next h => exact Or.inl ⟨⟨Outcome.failed_error, rfl, rfl, rfl⟩, fun hi => h hi.epoch⟩
  next he =>
  split
  · next h => exact Or.inl ⟨⟨Outcome.failed_error, rfl, rfl, rfl⟩, fun hi => hi.protocol h⟩
  next hp =>
  split
  · next hnone =>
    refine Or.inr (Or.inr ⟨⟨not_not.mp he, hp, ?_⟩, Outcome.not_failed_ok, rfl, rfl⟩)
    intro wr hwr
    rw [hnone] at hwr
    cases hwr
  next wr hwr =>
  have hsame : ∀ hi : s.Installs reg, wr.boot ≠ reg.workerBoot := fun hi => (hi.vacant wr hwr).1
  split
  · next hb =>
    split
    · exact Or.inl ⟨⟨Outcome.failed_error, rfl, rfl, rfl⟩, fun hi => hsame hi hb⟩
    · next hg =>
      exact Or.inr (Or.inl ⟨wr, ⟨not_not.mp he, hwr, hb, not_le.mp hg⟩, fun hi => hsame hi hb,
        Outcome.not_failed_ok, rfl, rfl⟩)
  next hb =>
  split
  · next hactive =>
    refine Or.inl ⟨⟨Outcome.failed_error, rfl, rfl, rfl⟩, fun hi => ?_⟩
    simp only [Bool.and_eq_true, Bool.not_eq_true'] at hactive
    have := (hi.vacant wr hwr).2
    simp [hactive.1.1, hactive.1.2, hactive.2] at this
  · next hdead =>
    refine Or.inr (Or.inr ⟨⟨not_not.mp he, hp, ?_⟩, Outcome.not_failed_ok, rfl, rfl⟩)
    intro wr' hwr'
    obtain rfl : wr = wr' := Option.some.inj (hwr.symm.trans hwr')
    refine ⟨hb, ?_⟩
    cases hf : wr.fenced with
    | true => exact Or.inl rfl
    | false =>
      cases hl : wr.lost with
      | true => exact Or.inr (Or.inl rfl)
      | false =>
        refine Or.inr (Or.inr ?_)
        simpa [hf, hl] using hdead

/-! ## Loss -/

theorem markWorkerLost_cases (s : FleetStateStore) (w : WorkerId) (now : Timestamp) :
    (s.workers[w]? = none ∧ (s.markWorkerLost w now).Done s) ∨
      (∃ wr, s.workers[w]? = some wr ∧ (s.markWorkerLost w now).Done { s with
        workers := s.workers.insert w { wr with lost := true, alive := false, fenced := true }
        devices := wr.deviceIdentities.foldl (fun m key => m.modify key loseDevice)
          s.devices }) := by
  unfold markWorkerLost
  split
  · next h => exact Or.inl ⟨h, Outcome.not_failed_ok, rfl, rfl⟩
  · next wr h => exact Or.inr ⟨wr, h, Outcome.not_failed_ok, rfl, rfl⟩

/-! ## Heartbeat -/

theorem heartbeat_cases (s : FleetStateStore) (worker : WorkerId) (boot : WorkerBootId)
    (epoch : CoordinatorEpoch) (now : Timestamp) (hg : HealthGeneration) :
    ((s.heartbeat worker boot epoch now hg).Refused s ∧
        ¬(epoch = s.epoch ∧ s.recordedBoot worker = some boot)) ∨
      (∃ wr, epoch = s.epoch ∧ s.workers[worker]? = some wr ∧ wr.boot = boot ∧
        (s.heartbeat worker boot epoch now hg).Done { s with
          workers := s.workers.insert worker
            { wr with lastHeartbeat := now, alive := true, lost := false } }) := by
  unfold heartbeat
  split
  · next h => exact Or.inl ⟨⟨Outcome.failed_error, rfl, rfl, rfl⟩, fun hc => h hc.1⟩
  next he =>
  split
  · next hnone =>
    refine Or.inl ⟨⟨Outcome.failed_error, rfl, rfl, rfl⟩, fun hc => ?_⟩
    simp [recordedBoot, hnone] at hc
  next wr hwr =>
  split
  · next hb =>
    refine Or.inl ⟨⟨Outcome.failed_error, rfl, rfl, rfl⟩, fun hc => hb ?_⟩
    simpa [recordedBoot, hwr] using hc.2
  · next hb =>
    exact Or.inr ⟨wr, not_not.mp he, hwr, not_not.mp hb, Outcome.not_failed_ok, rfl, rfl⟩

/-! ## Administration -/

/-- `d'` is `d` with other administrative fields. -/
structure AdminEdit (d d' : DeviceState) : Prop where
  present : d'.present = d.present
  health : d'.health = d.health
  observationFresh : d'.observationFresh = d.observationFresh
  stamp : d'.stamp = d.stamp
  rest : d' = { d with
    drain := d'.drain, quarantined := d'.quarantined, quarantine := d'.quarantine }

/-- The effect of an administrative method that succeeds: nothing, or a new
eligibility for the device it names. -/
def AdminEffect (s : FleetStateStore) (identity : ByteString) (out : Outcome Unit) : Prop :=
  out.Done s ∨
    ∃ d d' log, s.devices[identity]? = some d ∧ AdminEdit d d' ∧ out.Done { s with
      devices := s.devices.insert identity (recomputeDeviceEligibility d')
      changeLog := log }

theorem setDrain_cases (s : FleetStateStore) (w : WorkerId) (identity : ByteString)
    (d : DrainState) (now : Timestamp) :
    (s.devices[identity]? = none ∧ (s.setDrain w identity d now).Refused s) ∨
      AdminEffect s identity (s.setDrain w identity d now) := by
  unfold setDrain
  split
  · next h => exact Or.inl ⟨h, Outcome.failed_error, rfl, rfl, rfl⟩
  next dev hdev =>
  split
  · exact Or.inr (Or.inl ⟨Outcome.not_failed_ok, rfl, rfl⟩)
  · exact Or.inr (Or.inr ⟨dev, { dev with drain := d }, _, hdev, ⟨rfl, rfl, rfl, rfl, rfl⟩,
      Outcome.not_failed_ok, rfl, rfl⟩)

theorem setQuarantine_cases (s : FleetStateStore) (w : WorkerId) (identity : ByteString)
    (q : QuarantineRecord) (now : Timestamp) :
    ((s.setQuarantine w identity q now).Refused s ∧
        ∀ d, s.devices[identity]? = some d → q.generation < d.generation) ∨
      AdminEffect s identity (s.setQuarantine w identity q now) := by
  unfold setQuarantine
  split
  · next h =>
    refine Or.inl ⟨⟨Outcome.failed_error, rfl, rfl, rfl⟩, fun d hd => ?_⟩
    rw [h] at hd
    cases hd
  next dev hdev =>
  split
  · next hg =>
    refine Or.inl ⟨⟨Outcome.failed_error, rfl, rfl, rfl⟩, fun d hd => ?_⟩
    rw [hdev] at hd
    cases hd
    exact hg
  · refine Or.inr (Or.inr ⟨dev, { dev with quarantined := true, quarantine := q }, ?_⟩)
    simp only
    split
    · exact ⟨_, hdev, ⟨rfl, rfl, rfl, rfl, rfl⟩, Outcome.not_failed_ok, rfl, rfl⟩
    · exact ⟨_, hdev, ⟨rfl, rfl, rfl, rfl, rfl⟩, Outcome.not_failed_ok, rfl, rfl⟩

theorem clearQuarantine_cases (s : FleetStateStore) (w : WorkerId) (identity : ByteString)
    (epoch : CoordinatorEpoch) (now : Timestamp) :
    ((s.clearQuarantine w identity epoch now).Refused s ∧
        ¬(epoch = s.epoch ∧ ∃ d, s.devices[identity]? = some d ∧ d.quarantined = true)) ∨
      AdminEffect s identity (s.clearQuarantine w identity epoch now) := by
  unfold clearQuarantine
  split
  · next h => exact Or.inl ⟨⟨Outcome.failed_error, rfl, rfl, rfl⟩, fun hc => h hc.1⟩
  split
  · next hnone =>
    refine Or.inl ⟨⟨Outcome.failed_error, rfl, rfl, rfl⟩, ?_⟩
    rintro ⟨_, d, hd, _⟩
    rw [hnone] at hd
    cases hd
  next dev hdev =>
  split
  · next hq =>
    refine Or.inl ⟨⟨Outcome.failed_error, rfl, rfl, rfl⟩, ?_⟩
    rintro ⟨_, d, hd, hdq⟩
    rw [hdev] at hd
    cases hd
    rw [hdq] at hq
    cases hq
  · exact Or.inr (Or.inr ⟨dev, { dev with quarantined := false, quarantine := {} }, _, hdev,
      ⟨rfl, rfl, rfl, rfl, rfl⟩, Outcome.not_failed_ok, rfl, rfl⟩)

/-! ## When a call succeeds -/

theorem heartbeat_ok_iff (s : FleetStateStore) (w : WorkerId) (boot : WorkerBootId)
    (epoch : CoordinatorEpoch) (now : Timestamp) (hg : HealthGeneration) :
    ¬(s.heartbeat w boot epoch now hg).Failed ↔
      epoch = s.epoch ∧ s.recordedBoot w = some boot := by
  rcases s.heartbeat_cases w boot epoch now hg with ⟨h, hnot⟩ | ⟨wr, hepoch, hwr, hboot, h⟩
  · exact ⟨fun hok => absurd h.failed hok, fun hc => absurd hc hnot⟩
  · refine ⟨fun _ => ⟨hepoch, ?_⟩, fun _ => h.ok⟩
    rw [recordedBoot, hwr, Option.map_some, hboot]

theorem rollEpoch_ok_iff (s : FleetStateStore) (ne : CoordinatorEpoch) :
    ¬(s.rollEpoch ne).Failed ↔ s.epoch < ne := by
  rcases s.rollEpoch_cases ne with ⟨hle, h⟩ | ⟨hlt, h⟩
  · exact ⟨fun hok => absurd h.failed hok, fun hlt => absurd hlt (not_lt.mpr hle)⟩
  · exact ⟨fun _ => hlt, fun _ => h.ok⟩

/-- A drain that succeeds leaves the device at the requested level. -/
theorem setDrain_ok_iff (s : FleetStateStore) (w : WorkerId) (identity : ByteString)
    (level : DrainState) (now : Timestamp) :
    (¬(s.setDrain w identity level now).Failed ∧
        ∃ d, (s.setDrain w identity level now).store.devices[identity]? = some d ∧
          d.drain = level) ↔
      ∃ d, s.devices[identity]? = some d := by
  unfold setDrain
  cases hd : s.devices[identity]? with
  | none =>
    refine ⟨fun h => absurd Outcome.failed_error h.1, fun h => ?_⟩
    obtain ⟨d, hd'⟩ := h
    cases hd'
  | some d =>
    refine ⟨fun _ => ⟨d, rfl⟩, fun _ => ?_⟩
    by_cases hlevel : d.drain = level
    · simp only [if_pos hlevel]
      exact ⟨Outcome.not_failed_ok, d, hd, hlevel⟩
    · simp only [if_neg hlevel, OrderedMap.getElem?_insert_same]
      exact ⟨Outcome.not_failed_ok, _, rfl, rfl⟩

/-- A quarantine that succeeds leaves the device quarantined. -/
theorem setQuarantine_ok_iff (s : FleetStateStore) (w : WorkerId) (identity : ByteString)
    (q : QuarantineRecord) (now : Timestamp) :
    (¬(s.setQuarantine w identity q now).Failed ∧
        ∃ d, (s.setQuarantine w identity q now).store.devices[identity]? = some d ∧
          d.quarantined = true) ↔
      ∃ d, s.devices[identity]? = some d ∧ d.generation ≤ q.generation := by
  unfold setQuarantine
  cases hd : s.devices[identity]? with
  | none =>
    refine ⟨fun h => absurd Outcome.failed_error h.1, fun h => ?_⟩
    obtain ⟨d, hd', _⟩ := h
    cases hd'
  | some d =>
    by_cases hgen : q.generation < d.generation
    · simp only [if_pos hgen]
      refine ⟨fun h => absurd Outcome.failed_error h.1, fun h => ?_⟩
      obtain ⟨d', hd', hle⟩ := h
      cases hd'
      exact absurd hgen (not_lt.mpr hle)
    · simp only [if_neg hgen]
      refine ⟨fun _ => ⟨d, rfl, not_lt.mp hgen⟩, fun _ => ?_⟩
      by_cases hq : d.quarantined = true
      · simp only [if_pos hq, OrderedMap.getElem?_insert_same]
        exact ⟨Outcome.not_failed_ok, _, rfl, rfl⟩
      · simp only [if_neg hq, OrderedMap.getElem?_insert_same]
        exact ⟨Outcome.not_failed_ok, _, rfl, rfl⟩

theorem clearQuarantine_ok_iff (s : FleetStateStore) (w : WorkerId) (identity : ByteString)
    (now : Timestamp) :
    ¬(s.clearQuarantine w identity s.epoch now).Failed ↔
      ∃ d, s.devices[identity]? = some d ∧ d.quarantined = true := by
  unfold clearQuarantine
  rw [if_neg (not_not.mpr rfl)]
  cases hd : s.devices[identity]? with
  | none =>
    refine ⟨fun h => absurd Outcome.failed_error h, fun h => ?_⟩
    obtain ⟨d, hd', _⟩ := h
    cases hd'
  | some d =>
    by_cases hq : d.quarantined = true
    · simp only [hq, Bool.not_true, Bool.false_eq_true, if_false]
      exact ⟨fun _ => ⟨d, rfl, hq⟩, fun _ => Outcome.not_failed_ok⟩
    · have hq' : (!d.quarantined) = true := by simpa using hq
      simp only [if_pos hq']
      refine ⟨fun h => absurd Outcome.failed_error h, fun h => ?_⟩
      obtain ⟨d', hd', hq''⟩ := h
      cases hd'
      exact absurd hq'' hq

/-! ## All of them -/

theorem adminEffect_done {s : FleetStateStore} {identity : ByteString} {out : Outcome Unit}
    (h : AdminEffect s identity out) : ∃ t, out.Done t := by
  rcases h with h | ⟨_, _, _, _, _, h⟩
  · exact ⟨_, h⟩
  · exact ⟨_, h⟩

/-- A call other than an ingest writes nothing or succeeds. -/
theorem exec_refused_or_done {s : FleetStateStore} {op : Op} (hingest : ¬op.IsIngest) :
    (s.exec op).Refused s ∨ ∃ t, (s.exec op).Done t := by
  cases op with
  | rollEpoch ne =>
    rcases s.rollEpoch_cases ne with ⟨_, h⟩ | ⟨_, h⟩
    · exact Or.inl h
    · exact Or.inr ⟨_, h⟩
  | registerWorker reg now =>
    rcases s.registerWorker_cases reg now with ⟨h, _⟩ | ⟨_, _, _, h⟩ | ⟨_, h⟩
    · exact Or.inl h.void
    · exact Or.inr ⟨_, h.void⟩
    · exact Or.inr ⟨_, h.void⟩
  | restore snap => exact Or.inr ⟨_, Outcome.not_failed_ok, rfl, rfl⟩
  | markWorkerLost w now =>
    rcases s.markWorkerLost_cases w now with ⟨_, h⟩ | ⟨_, _, h⟩
    · exact Or.inr ⟨_, h⟩
    · exact Or.inr ⟨_, h⟩
  | ingestSnapshot worker obs policy now => exact absurd trivial hingest
  | heartbeat worker boot epoch now hg =>
    rcases s.heartbeat_cases worker boot epoch now hg with ⟨h, _⟩ | ⟨_, _, _, _, h⟩
    · exact Or.inl h
    · exact Or.inr ⟨_, h⟩
  | setDrain w identity d now =>
    rcases s.setDrain_cases w identity d now with ⟨_, h⟩ | h
    · exact Or.inl h
    · exact Or.inr (adminEffect_done h)
  | setQuarantine w identity q now =>
    rcases s.setQuarantine_cases w identity q now with ⟨h, _⟩ | h
    · exact Or.inl h
    · exact Or.inr (adminEffect_done h)
  | clearQuarantine w identity epoch now =>
    rcases s.clearQuarantine_cases w identity epoch now with ⟨h, _⟩ | h
    · exact Or.inl h
    · exact Or.inr (adminEffect_done h)

/-- Only an ingest applies observations. -/
theorem exec_applied {s : FleetStateStore} {op : Op} (hingest : ¬op.IsIngest) :
    (s.exec op).applied = [] := by
  rcases exec_refused_or_done hingest (s := s) with h | ⟨_, h⟩
  · exact h.applied
  · exact h.applied

/-! ## One device -/

/-- What a call that neither ingests nor restores can make of the record of a
device. -/
inductive DeviceEffect : Option DeviceState → Option DeviceState → Prop
  | kept (r : Option DeviceState) : DeviceEffect r r
  | lost (d : DeviceState) : DeviceEffect (some d) (some (loseDevice d))
  | edited {d d' : DeviceState} (h : AdminEdit d d') :
      DeviceEffect (some d) (some (recomputeDeviceEligibility d'))

theorem loseDevice_idem (d : DeviceState) : loseDevice (loseDevice d) = loseDevice d := by
  unfold loseDevice
  by_cases h : d.present = true
  · simp [h]
  · simp [h]

theorem loseDevice_stamp (d : DeviceState) : (loseDevice d).stamp = d.stamp := by
  unfold loseDevice
  by_cases hp : d.present = true
  · simp [hp, DeviceState.stamp]
  · simp [hp, DeviceState.stamp]

theorem loseDevice_observationFresh (d : DeviceState) :
    (loseDevice d).observationFresh = false := by
  unfold loseDevice
  by_cases hp : d.present = true
  · simp [hp]
  · simp [hp]

theorem restoreDevice_observationFresh (d : DeviceState) :
    (restoreDevice d).observationFresh = false := by
  unfold restoreDevice
  by_cases hq : d.quarantined = true
  · simp [hq]
  · by_cases hd : d.drain = .active
    · simp [hq, hd]
    · simp [hq, hd]

theorem restore_devices (s : FleetStateStore) (snap : StateSnapshot) (key : ByteString) :
    (s.step (.restore snap)).devices[key]? = snap.devices[key]?.map restoreDevice :=
  Std.ExtTreeMap.getElem?_map

/-- A device of a recovered store was in the snapshot. -/
theorem restored_device {s : FleetStateStore} {snap : StateSnapshot} {key : ByteString}
    {d : DeviceState} (hd : (s.step (.restore snap)).devices[key]? = some d) :
    ∃ d₀, snap.devices[key]? = some d₀ ∧ restoreDevice d₀ = d := by
  rw [restore_devices] at hd
  exact Option.map_eq_some_iff.mp hd

theorem adminEffect_devices {s : FleetStateStore} {identity : ByteString} {out : Outcome Unit}
    (h : AdminEffect s identity out) (key : ByteString) :
    DeviceEffect s.devices[key]? out.store.devices[key]? := by
  rcases h with h | ⟨d, d', log, hd, hedit, h⟩
  · rw [h.store]
    exact .kept _
  · rw [h.store]
    simp only [OrderedMap.getElem?_insert]
    by_cases hkey : identity = key
    · subst hkey
      rw [if_pos rfl, hd]
      exact .edited hedit
    · rw [if_neg hkey]
      exact .kept _

theorem markWorkerLost_devices (s : FleetStateStore) (w : WorkerId) (now : Timestamp)
    (key : ByteString) :
    DeviceEffect s.devices[key]? (s.markWorkerLost w now).store.devices[key]? := by
  rcases s.markWorkerLost_cases w now with ⟨_, h⟩ | ⟨wr, _, h⟩
  · rw [h.store]
    exact .kept _
  · rw [h.store]
    simp only [OrderedMap.getElem?_foldl_modify loseDevice loseDevice_idem]
    split
    · cases s.devices[key]? with
      | none => exact .kept _
      | some d => exact .lost d
    · exact .kept _

theorem registerWorker_devices (s : FleetStateStore) (reg : Registration) (now : Timestamp) :
    (s.registerWorker reg now).store.devices = s.devices := by
  rcases s.registerWorker_cases reg now with ⟨h, _⟩ | ⟨_, _, _, h⟩ | ⟨_, h⟩
  · rw [h.store]
  · rw [h.store]
  · rw [h.store]
    rfl

theorem step_devices {s : FleetStateStore} {op : Op} (hingest : ¬op.IsIngest)
    (hrestore : ¬op.IsRestore) (key : ByteString) :
    DeviceEffect s.devices[key]? (s.step op).devices[key]? := by
  unfold step
  cases op with
  | rollEpoch ne =>
    rcases s.rollEpoch_cases ne with ⟨_, h⟩ | ⟨_, h⟩
    · rw [exec, h.store]
      exact .kept _
    · rw [exec, h.store]
      exact .kept _
  | registerWorker reg now =>
    rw [exec, Outcome.void, registerWorker_devices]
    exact .kept _
  | restore snap => exact absurd trivial hrestore
  | markWorkerLost w now => exact s.markWorkerLost_devices w now key
  | ingestSnapshot worker obs policy now => exact absurd trivial hingest
  | heartbeat worker boot epoch now hg =>
    rcases s.heartbeat_cases worker boot epoch now hg with ⟨h, _⟩ | ⟨_, _, _, _, h⟩
    · rw [exec, h.store]
      exact .kept _
    · rw [exec, h.store]
      exact .kept _
  | setDrain w identity d now =>
    rcases s.setDrain_cases w identity d now with ⟨_, h⟩ | h
    · rw [exec, h.store]
      exact .kept _
    · exact adminEffect_devices h key
  | setQuarantine w identity q now =>
    rcases s.setQuarantine_cases w identity q now with ⟨h, _⟩ | h
    · rw [exec, h.store]
      exact .kept _
    · exact adminEffect_devices h key
  | clearQuarantine w identity epoch now =>
    rcases s.clearQuarantine_cases w identity epoch now with ⟨h, _⟩ | h
    · rw [exec, h.store]
      exact .kept _
    · exact adminEffect_devices h key

/-- A call that neither ingests nor restores keeps what the gates read. -/
theorem step_stampOf {s : FleetStateStore} {op : Op} (hingest : ¬op.IsIngest)
    (hrestore : ¬op.IsRestore) (key : ByteString) :
    (s.step op).stampOf key = s.stampOf key := by
  have h := step_devices hingest hrestore (s := s) key
  unfold stampOf
  revert h
  generalize s.devices[key]? = r, (s.step op).devices[key]? = r'
  intro h
  cases h with
  | kept => rfl
  | lost d => exact congrArg some (loseDevice_stamp d)
  | edited hedit => exact congrArg some hedit.stamp

/-! ## Invariants of single devices -/

/-- A property of device states that every writer of the store establishes or
keeps, in the calls that `allowed` lets through. -/
structure DeviceInvariant (allowed : Op → Prop) (Q : ByteString → DeviceState → Prop) :
    Prop where
  applied : ∀ (s : FleetStateStore) worker obs policy now,
    allowed (.ingestSnapshot worker obs policy now) → ∀ o ∈ obs,
      (∀ d, s.devices[o.key]? = some d → Q o.key d) → Q o.key (s.applyTo o policy now).state
  lost : ∀ key d, Q key d → Q key (loseDevice d)
  gone : ∀ key d, Q key d → Q key (disappearDevice d)
  edited : ∀ key d d', Q key d → AdminEdit d d' → Q key (recomputeDeviceEligibility d')
  restored : ∀ snap, allowed (.restore snap) → ∀ (key : ByteString) d,
    snap.devices[key]? = some d → Q key (restoreDevice d)

theorem DeviceInvariant.step {allowed : Op → Prop} {Q : ByteString → DeviceState → Prop}
    (hQ : DeviceInvariant allowed Q) {s : FleetStateStore}
    (h : ∀ (key : ByteString) d, s.devices[key]? = some d → Q key d) (op : Op)
    (hop : allowed op) : ∀ (key : ByteString) d, (s.step op).devices[key]? = some d → Q key d := by
  by_cases hingest : op.IsIngest
  · cases op with
    | ingestSnapshot worker obs policy now =>
      apply ingestSnapshot_invariant
        (P := fun t _ => ∀ (key : ByteString) d, t.devices[key]? = some d → Q key d) [] h
      · intro wr before o st happlies hP key d hd
        rw [commit_devices] at hd
        by_cases hkey : o.key = key
        · subst hkey
          rw [if_pos rfl] at hd
          cases hd
          obtain ⟨after, hbatch⟩ := happlies.batch
          have ho : o ∈ obs := by
            rw [hbatch]
            simp
          exact hQ.applied st.store worker obs policy now hop o ho (hP o.key)
        · rw [if_neg hkey] at hd
          exact hP key d hd
      · intro t as gone d hP hgone key d' hd'
        rw [markDisappeared_devices] at hd'
        by_cases hkey : gone = key
        · subst hkey
          rw [if_pos rfl] at hd'
          cases hd'
          exact hQ.gone gone d (hP gone d hgone)
        · rw [if_neg hkey] at hd'
          exact hP key d' hd'
      · intro t as hP
        exact hP
    | _ => exact absurd hingest fun h => h
  by_cases hrestore : op.IsRestore
  · cases op with
    | restore snap =>
      intro key d hd
      obtain ⟨d₀, hd₀, rfl⟩ := restored_device hd
      exact hQ.restored snap hop key d₀ hd₀
    | _ => exact absurd hrestore fun h => h
  intro key d hd
  have heffect := step_devices hingest hrestore (s := s) key
  have hkey := h key
  rw [hd] at heffect
  generalize s.devices[key]? = r at heffect hkey
  cases heffect with
  | kept => exact hkey d rfl
  | lost d₀ => exact hQ.lost key d₀ (hkey d₀ rfl)
  | edited hedit => exact hQ.edited key _ _ (hkey _ rfl) hedit

/-- Every device of every reachable state has the property. -/
theorem DeviceInvariant.run {allowed : Op → Prop} {Q : ByteString → DeviceState → Prop}
    (hQ : DeviceInvariant allowed Q) (coord : CoordinatorId) (epoch : CoordinatorEpoch)
    (ops : List Op) (hops : ∀ op ∈ ops, allowed op) :
    ∀ (key : ByteString) d, ((empty coord epoch).run ops).devices[key]? = some d → Q key d := by
  induction ops using List.reverseRecOn with
  | nil =>
    intro key d hd
    simp [FleetStateStore.run, empty] at hd
  | append_singleton ops op ih =>
    rw [FleetStateStore.run, Run.run_concat]
    apply hQ.step
    · apply ih
      intro op' hop'
      exact hops op' (List.mem_append_left _ hop')
    · exact hops op (by simp)

/-! ## Calls that leave the workers alone -/

/-- The workers and the nodes are the same in both. -/
structure SameWorkers (s t : FleetStateStore) : Prop where
  workers : t.workers = s.workers
  nodes : t.nodes = s.nodes

theorem adminEffect_sameWorkers {s : FleetStateStore} {identity : ByteString}
    {out : Outcome Unit} (h : AdminEffect s identity out) : SameWorkers s out.store := by
  rcases h with h | ⟨_, _, _, _, _, h⟩
  · rw [h.store]
    exact ⟨rfl, rfl⟩
  · rw [h.store]
    exact ⟨rfl, rfl⟩

theorem step_sameWorkers (s : FleetStateStore) {op : Op} (hop : op.IsAdministrative) :
    SameWorkers s (s.step op) := by
  have hrefused : ∀ {out : Outcome Unit}, out.Refused s → SameWorkers s out.store := by
    intro out h
    rw [h.store]
    exact ⟨rfl, rfl⟩
  cases op with
  | rollEpoch ne =>
    rcases s.rollEpoch_cases ne with ⟨_, h⟩ | ⟨_, h⟩
    · exact hrefused h
    · rw [step, exec, h.store]
      exact ⟨rfl, rfl⟩
  | setDrain w identity d now =>
    rcases s.setDrain_cases w identity d now with ⟨_, h⟩ | h
    · exact hrefused h
    · exact adminEffect_sameWorkers h
  | setQuarantine w identity q now =>
    rcases s.setQuarantine_cases w identity q now with ⟨h, _⟩ | h
    · exact hrefused h
    · exact adminEffect_sameWorkers h
  | clearQuarantine w identity epoch now =>
    rcases s.clearQuarantine_cases w identity epoch now with ⟨h, _⟩ | h
    · exact hrefused h
    · exact adminEffect_sameWorkers h
  | _ => exact absurd hop fun h => h

/-- An ingest leaves the records of the other workers alone. -/
theorem ingestSnapshot_workers_of_ne {s : FleetStateStore} {worker w : WorkerId}
    {obs : List DeviceObservation} {policy : ObservationPolicy} {now : Timestamp}
    (hw : w ≠ worker) :
    (s.ingestSnapshot worker obs policy now).store.workers[w]? = s.workers[w]? := by
  apply ingestSnapshot_invariant (P := fun t _ => t.workers[w]? = s.workers[w]?) [] rfl
  · intro _ _ o st _ h
    exact (commit_others st.store o policy now hw).trans h
  · intro _ _ _ _ h _
    exact h
  · intro t _ h
    rw [← h, touchWorker, OrderedMap.getElem?_modify, if_neg hw.symm]

/-! ## The epoch of a store -/

theorem ingestSnapshot_epoch (s : FleetStateStore) (worker : WorkerId)
    (obs : List DeviceObservation) (policy : ObservationPolicy) (now : Timestamp) :
    (s.ingestSnapshot worker obs policy now).store.epoch = s.epoch := by
  apply ingestSnapshot_invariant (P := fun t _ => t.epoch = s.epoch) [] rfl
  · intro wr before o st _ h
    exact h
  · intro t as key d h _
    exact h
  · intro t as h
    exact h

theorem adminEffect_epoch {s : FleetStateStore} {identity : ByteString} {out : Outcome Unit}
    (h : AdminEffect s identity out) : out.store.epoch = s.epoch := by
  rcases h with h | ⟨_, _, _, _, _, h⟩
  · rw [h.store]
  · rw [h.store]

/-- A call other than a recovery keeps the epoch, or it rolls it forward. -/
theorem step_epoch (s : FleetStateStore) {op : Op} (hrestore : ¬op.IsRestore) :
    ((s.step op).epoch = s.epoch ∧ ∀ ne, op = .rollEpoch ne → ne ≤ s.epoch) ∨
      ∃ ne, op = .rollEpoch ne ∧ s.epoch < ne ∧ (s.step op).epoch = ne := by
  have hkept : ∀ {op : Op}, (s.step op).epoch = s.epoch → (∀ ne, op ≠ .rollEpoch ne) →
      ((s.step op).epoch = s.epoch ∧ ∀ ne, op = .rollEpoch ne → ne ≤ s.epoch) ∨
        ∃ ne, op = .rollEpoch ne ∧ s.epoch < ne ∧ (s.step op).epoch = ne := by
    intro op hepoch hop
    exact Or.inl ⟨hepoch, fun ne h => absurd h (hop ne)⟩
  cases op with
  | rollEpoch ne =>
    rcases s.rollEpoch_cases ne with ⟨hle, h⟩ | ⟨hlt, h⟩
    · refine Or.inl ⟨by rw [step, exec, h.store], ?_⟩
      intro ne' hne'
      cases hne'
      exact hle
    · exact Or.inr ⟨ne, rfl, hlt, by rw [step, exec, h.store]⟩
  | registerWorker reg now =>
    refine hkept ?_ fun _ h => by cases h
    rcases s.registerWorker_cases reg now with ⟨h, _⟩ | ⟨_, _, _, h⟩ | ⟨_, h⟩
    · rw [step, exec, Outcome.void, h.store]
    · rw [step, exec, Outcome.void, h.store]
    · rw [step, exec, Outcome.void, h.store]
      rfl
  | restore snap => exact absurd trivial hrestore
  | markWorkerLost w now =>
    refine hkept ?_ fun _ h => by cases h
    rcases s.markWorkerLost_cases w now with ⟨_, h⟩ | ⟨_, _, h⟩
    · rw [step, exec, h.store]
    · rw [step, exec, h.store]
  | ingestSnapshot worker obs policy now =>
    exact hkept (s.ingestSnapshot_epoch worker obs policy now) fun _ h => by cases h
  | heartbeat worker boot epoch now hg =>
    refine hkept ?_ fun _ h => by cases h
    rcases s.heartbeat_cases worker boot epoch now hg with ⟨h, _⟩ | ⟨_, _, _, _, h⟩
    · rw [step, exec, h.store]
    · rw [step, exec, h.store]
  | setDrain w identity d now =>
    refine hkept ?_ fun _ h => by cases h
    rcases s.setDrain_cases w identity d now with ⟨_, h⟩ | h
    · rw [step, exec, h.store]
    · exact adminEffect_epoch h
  | setQuarantine w identity q now =>
    refine hkept ?_ fun _ h => by cases h
    rcases s.setQuarantine_cases w identity q now with ⟨h, _⟩ | h
    · rw [step, exec, h.store]
    · exact adminEffect_epoch h
  | clearQuarantine w identity epoch now =>
    refine hkept ?_ fun _ h => by cases h
    rcases s.clearQuarantine_cases w identity epoch now with ⟨h, _⟩ | h
    · rw [step, exec, h.store]
    · exact adminEffect_epoch h

theorem epoch_le_step (s : FleetStateStore) {op : Op} (hrestore : ¬op.IsRestore) :
    s.epoch ≤ (s.step op).epoch := by
  rcases s.step_epoch hrestore with ⟨hkept, _⟩ | ⟨ne, _, hlt, hepoch⟩
  · exact hkept.ge
  · rw [hepoch]
    exact hlt.le

/-! ## Invariants of single workers -/

/-- A property of worker records that every writer of the store establishes or
keeps, in the calls that `allowed` lets through. -/
structure WorkerInvariant (allowed : Op → Prop) (Q : WorkerId → WorkerRecord → Prop) :
    Prop where
  installed : ∀ reg now, allowed (.registerWorker reg now) →
    Q reg.worker (newWorkerRecord reg now)
  reaffirmed : ∀ reg now wr, allowed (.registerWorker reg now) → Q reg.worker wr →
    Q reg.worker (reaffirmed wr reg now)
  lost : ∀ w wr, Q w wr → Q w { wr with lost := true, alive := false, fenced := true }
  heard : ∀ w wr now, Q w wr → Q w { wr with lastHeartbeat := now, alive := true, lost := false }
  listed : ∀ w wr key, Q w wr →
    Q w { wr with deviceIdentities := wr.deviceIdentities ++ [key] }
  touched : ∀ w wr now, Q w wr → Q w { wr with lastHeartbeat := now, alive := true }
  restored : ∀ snap, allowed (.restore snap) → ∀ (w : WorkerId) wr,
    snap.workers[w]? = some wr → Q w wr

/-- Every record of the map has the property. -/
def WorkersSatisfy (Q : WorkerId → WorkerRecord → Prop) (s : FleetStateStore) : Prop :=
  ∀ (w : WorkerId) (wr : WorkerRecord), s.workers[w]? = some wr → Q w wr

section Workers

variable {allowed : Op → Prop} {Q : WorkerId → WorkerRecord → Prop} {s t : FleetStateStore}

theorem WorkersSatisfy.insert (h : s.WorkersSatisfy Q) {w : WorkerId} {wr : WorkerRecord}
    (hwr : Q w wr) (ht : t.workers = s.workers.insert w wr) : t.WorkersSatisfy Q := by
  intro w' wr' hwr'
  rw [ht, OrderedMap.getElem?_insert] at hwr'
  by_cases hw : w = w'
  · subst hw
    rw [if_pos rfl] at hwr'
    cases hwr'
    exact hwr
  · rw [if_neg hw] at hwr'
    exact h w' wr' hwr'

theorem WorkersSatisfy.modify (h : s.WorkersSatisfy Q) {w : WorkerId}
    {f : WorkerRecord → WorkerRecord} (hf : ∀ wr, Q w wr → Q w (f wr))
    (ht : t.workers = s.workers.modify w f) : t.WorkersSatisfy Q := by
  intro w' wr' hwr'
  rw [ht, OrderedMap.getElem?_modify] at hwr'
  by_cases hw : w = w'
  · subst hw
    rw [if_pos rfl] at hwr'
    obtain ⟨wr, hwr, rfl⟩ := Option.map_eq_some_iff.mp hwr'
    exact hf wr (h w wr hwr)
  · rw [if_neg hw] at hwr'
    exact h w' wr' hwr'

theorem WorkersSatisfy.same (h : s.WorkersSatisfy Q) (ht : t.workers = s.workers) :
    t.WorkersSatisfy Q := by
  intro w wr hwr
  rw [ht] at hwr
  exact h w wr hwr

theorem WorkerInvariant.step (hQ : WorkerInvariant allowed Q) (h : s.WorkersSatisfy Q) (op : Op)
    (hop : allowed op) : (s.step op).WorkersSatisfy Q := by
  by_cases hadmin : op.IsAdministrative
  · exact h.same (s.step_sameWorkers hadmin).workers
  unfold FleetStateStore.step
  cases op with
  | registerWorker reg now =>
    rcases s.registerWorker_cases reg now with ⟨hdone, _⟩ | ⟨wr, hre, _, hdone⟩ | ⟨_, hdone⟩
    · exact h.same (congrArg workers hdone.store)
    · exact h.insert (hQ.reaffirmed reg now wr hop (h _ wr hre.record))
        (congrArg workers hdone.store)
    · exact h.insert (hQ.installed reg now hop) (congrArg workers hdone.store)
  | restore snap => exact hQ.restored snap hop
  | markWorkerLost w now =>
    rcases s.markWorkerLost_cases w now with ⟨_, hdone⟩ | ⟨wr, hwr, hdone⟩
    · exact h.same (congrArg workers hdone.store)
    · exact h.insert (hQ.lost w wr (h w wr hwr)) (congrArg workers hdone.store)
  | ingestSnapshot worker obs policy now =>
    apply ingestSnapshot_invariant (P := fun t _ => t.WorkersSatisfy Q) [] h
    · intro wr before o st _ hP
      by_cases hknown : st.store.devices.contains o.key = true
      · exact hP.same (if_pos hknown)
      · exact hP.modify (fun wr hwr => hQ.listed worker wr o.key hwr) (if_neg hknown)
    · intro t as key d hP _
      exact hP
    · intro t as hP
      exact hP.modify (fun wr hwr => hQ.touched worker wr now hwr) rfl
  | heartbeat worker boot epoch now hg =>
    rcases s.heartbeat_cases worker boot epoch now hg with ⟨hdone, _⟩ | ⟨wr, _, hwr, _, hdone⟩
    · exact h.same (congrArg workers hdone.store)
    · exact h.insert (hQ.heard worker wr now (h worker wr hwr)) (congrArg workers hdone.store)
  | _ => exact absurd trivial hadmin

end Workers

end FleetStateStore

end GpuFleet
