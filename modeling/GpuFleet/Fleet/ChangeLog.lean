import GpuFleet.Fleet.Atomicity
import GpuFleet.Fleet.Dominance
import GpuFleet.Observation.Axes

/-!
# The change log and the changes

`Told` says that the records of a call tell what the call did to every
device.  A record carries a device id, which is the word of the worker that
reported the device, so `story` files the records of a call under the key of
the device they were written for.  `map_snd_story` and `step_changeLog` say
that it is what the call appends to the log, and `carriesId_story` that the id
in a record is the one of its device.

`mark_worker_lost` writes no record, the administrative calls write none
about the eligibility they recompute, and the disappearance loop writes one
about the presence and none about the health.  `Recorded` is what is left:
`told_iff_recorded` proves that a call of a reachable store is told exactly
in these cases.
-/

namespace GpuFleet

/-! ## The records of a call, by device -/

/-- The records that were written for a device. -/
def recordsFor (key : ByteString) (story : List (ByteString × ChangeRecord)) :
    List ChangeRecord :=
  (story.filter fun e => decide (e.1 = key)).map Prod.snd

@[simp] theorem recordsFor_append (key : ByteString)
    (st st' : List (ByteString × ChangeRecord)) :
    recordsFor key (st ++ st') = recordsFor key st ++ recordsFor key st' := by
  simp [recordsFor]

/-- Records that were all written for one device. -/
theorem recordsFor_map (key : ByteString) (identity : ByteString) (rs : List ChangeRecord) :
    recordsFor key (rs.map fun r => (identity, r)) = if identity = key then rs else [] := by
  unfold recordsFor
  rw [List.filter_map, List.map_map]
  by_cases h : identity = key
  · simp [h, Function.comp_def]
  · simp [h, Function.comp_def]

/-- The records of the applications of an ingest. -/
def applicationStory (apps : List Application) : List (ByteString × ChangeRecord) :=
  apps.flatMap fun a => a.outcome.changes.map fun r => (a.key, r)

theorem applicationStory_concat (apps : List Application) (a : Application) :
    applicationStory (apps ++ [a])
      = applicationStory apps ++ a.outcome.changes.map fun r => (a.key, r) := by
  simp [applicationStory]

namespace FleetStateStore

/-- The records of the disappearance loop. -/
def goneStory (s : FleetStateStore) (keys : List ByteString) (now : Timestamp) :
    List (ByteString × ChangeRecord) :=
  keys.filterMap fun key =>
    s.devices[key]?.map fun d => (key, disappearedRecord d s.epoch now)

/-- The records of an ingest. -/
def ingestStory (s : FleetStateStore) (worker : WorkerId) (obs : List DeviceObservation)
    (policy : ObservationPolicy) (now : Timestamp) : List (ByteString × ChangeRecord) :=
  match s.workers[worker]? with
  | none => []
  | some wr =>
    if wr.lost || wr.fenced then []
    else match ingestLoop worker wr.boot policy now obs { store := s } with
    | (st, .error _) => applicationStory st.applied
    | (st, .ok ()) =>
      applicationStory st.applied ++ st.store.goneStory (goneKeys st worker) now

/-- The records of a call, each with the device it was written for. -/
def story (s : FleetStateStore) : Op → List (ByteString × ChangeRecord)
  | .ingestSnapshot worker obs policy now => s.ingestStory worker obs policy now
  | .setDrain w identity d now =>
    (s.setDrain w identity d now).logged.map fun r => (identity, r)
  | .setQuarantine w identity q now =>
    (s.setQuarantine w identity q now).logged.map fun r => (identity, r)
  | .clearQuarantine w identity epoch now =>
    (s.clearQuarantine w identity epoch now).logged.map fun r => (identity, r)
  | _ => []

/-- The state of a device.  A device that is not on file is in the state that
`ingest_snapshot` compares its first observation with. -/
def deviceAt (s : FleetStateStore) (key : ByteString) : DeviceState :=
  s.devices[key]?.getD {}

/-- The records of the call tell what it did to every device. -/
def Told (s : FleetStateStore) (op : Op) : Prop :=
  ∀ key, Tells (s.deviceAt key) ((s.step op).deviceAt key) (recordsFor key (s.story op))

theorem deviceAt_of_some {s : FleetStateStore} {key : ByteString} {d : DeviceState}
    (h : s.devices[key]? = some d) : s.deviceAt key = d := by
  rw [deviceAt, h, Option.getD_some]

/-- A call that writes nothing about any device. -/
theorem told_of_same {s : FleetStateStore} {op : Op} (hstory : s.story op = [])
    (hdevices : (s.step op).devices = s.devices) : s.Told op := by
  intro key
  rw [hstory, deviceAt, deviceAt, hdevices]
  exact tells_self _

/-! ## The log of an ingest -/

theorem map_snd_goneStory (s : FleetStateStore) (keys : List ByteString) (now : Timestamp) :
    (s.goneStory keys now).map Prod.snd = s.goneRecords keys now := by
  rw [goneStory, goneRecords, List.map_filterMap]
  apply List.filterMap_congr
  intro key _
  rw [Option.map_map]
  rfl

theorem ingestLoop_logged (worker : WorkerId) (boot : WorkerBootId) (policy : ObservationPolicy)
    (now : Timestamp) (obs : List DeviceObservation) (s : FleetStateStore) :
    (applicationStory (ingestLoop worker boot policy now obs { store := s }).1.applied).map Prod.snd
      = (ingestLoop worker boot policy now obs { store := s }).1.logged := by
  apply ingestLoop_invariant
    (P := fun st => (applicationStory st.applied).map Prod.snd = st.logged)
  · intro _ o _ st _ _ _ hP
    rw [IngestState.commit, applicationStory_concat, List.map_append, hP, List.map_map]
    simp [Function.comp_def]
  · rfl

section Ends

variable {s : FleetStateStore} {worker : WorkerId} {obs : List DeviceObservation}
  {policy : ObservationPolicy} {now : Timestamp}

theorem ingestStory_dead
    (hdead : ∀ wr, s.workers[worker]? = some wr → wr.lost = true ∨ wr.fenced = true) :
    s.ingestStory worker obs policy now = [] := by
  unfold ingestStory
  split
  · rfl
  next wr hwr =>
  have hflag : (wr.lost || wr.fenced) = true := by simpa using hdead wr hwr
  rw [if_pos hflag]

theorem ingestStory_live {wr : WorkerRecord} (hwr : s.workers[worker]? = some wr)
    (hlost : wr.lost = false) (hfenced : wr.fenced = false) :
    s.ingestStory worker obs policy now
      = match ingestLoop worker wr.boot policy now obs { store := s } with
        | (st, .error _) => applicationStory st.applied
        | (st, .ok ()) =>
          applicationStory st.applied ++ st.store.goneStory (goneKeys st worker) now := by
  have hflag : ¬(wr.lost || wr.fenced) = true := by
    simp [hlost, hfenced]
  rw [ingestStory, hwr]
  exact if_neg hflag

end Ends

theorem map_snd_ingestStory (s : FleetStateStore) (worker : WorkerId)
    (obs : List DeviceObservation) (policy : ObservationPolicy) (now : Timestamp) :
    (s.ingestStory worker obs policy now).map Prod.snd
      = (s.ingestSnapshot worker obs policy now).logged := by
  rcases ingest_live_or_refused s worker with hdead | ⟨wr, hwr, hlost, hfenced⟩
  · rw [ingestStory_dead hdead, (ingestSnapshot_refused obs policy now hdead).logged]
    rfl
  rw [ingestStory_live hwr hlost hfenced, ingestSnapshot_live hwr hlost hfenced]
  have hloop := ingestLoop_logged worker wr.boot policy now obs s
  generalize ingestLoop worker wr.boot policy now obs { store := s } = out at hloop
  obtain ⟨st, res⟩ := out
  cases res with
  | error err => exact hloop
  | ok _ =>
    simp only [List.map_append, map_snd_goneStory, finishIngest_eq]
    rw [← hloop]

theorem ingestSnapshot_pushed (s : FleetStateStore) (worker : WorkerId)
    (obs : List DeviceObservation) (policy : ObservationPolicy) (now : Timestamp) :
    (s.ingestSnapshot worker obs policy now).store.changeLog
      = pushChanges s.changeLog (s.ingestSnapshot worker obs policy now).logged := by
  rcases ingest_live_or_refused s worker with hdead | ⟨wr, hwr, hlost, hfenced⟩
  · have hrefused := ingestSnapshot_refused obs policy now hdead
    rw [hrefused.store, hrefused.logged]
    rfl
  have hloop : (ingestLoop worker wr.boot policy now obs { store := s }).1.store.changeLog
      = pushChanges s.changeLog
        (ingestLoop worker wr.boot policy now obs { store := s }).1.logged := by
    apply ingestLoop_invariant
      (P := fun st => st.store.changeLog = pushChanges s.changeLog st.logged)
    · intro _ o _ st _ _ _ hP
      simp only [IngestState.commit, commit, hP, pushChanges_append]
    · rfl
  rcases ingestSnapshot_ends hwr hlost hfenced with ⟨err, -, hingest⟩ | ⟨-, hingest⟩
  · rw [hingest]
    exact hloop
  · rw [hingest]
    simp only [finishIngest_eq, touchWorker, markGone, hloop, pushChanges_append]

/-! ## The log of a call -/

/-- The log of a call, filed by device. -/
theorem map_snd_story (s : FleetStateStore) (op : Op) :
    (s.story op).map Prod.snd = (s.exec op).logged := by
  cases op with
  | ingestSnapshot worker obs policy now => exact s.map_snd_ingestStory worker obs policy now
  | setDrain w identity d now => simp [story, exec, Function.comp_def]
  | setQuarantine w identity q now => simp [story, exec, Function.comp_def]
  | clearQuarantine w identity epoch now => simp [story, exec, Function.comp_def]
  | rollEpoch ne =>
    simp only [story, exec, rollEpoch]
    split <;> rfl
  | registerWorker reg now =>
    simp only [story, exec, Outcome.void, registerWorker]
    repeat' split
    all_goals rfl
  | restore snap => rfl
  | markWorkerLost w now =>
    simp only [story, exec, markWorkerLost]
    split <;> rfl
  | heartbeat worker boot epoch now hg =>
    simp only [story, exec, heartbeat]
    repeat' split
    all_goals rfl

/-- The records of a call are what it appends to the change log. -/
theorem step_changeLog (s : FleetStateStore) {op : Op} (hrestore : ¬op.IsRestore) :
    (s.step op).changeLog = pushChanges s.changeLog (s.exec op).logged := by
  unfold step
  cases op with
  | ingestSnapshot worker obs policy now =>
    exact s.ingestSnapshot_pushed worker obs policy now
  | restore snap => exact absurd trivial hrestore
  | rollEpoch ne =>
    simp only [exec, rollEpoch]
    split <;> rfl
  | registerWorker reg now =>
    simp only [exec, Outcome.void, registerWorker]
    repeat' split
    all_goals rfl
  | markWorkerLost w now =>
    simp only [exec, markWorkerLost]
    split <;> rfl
  | heartbeat worker boot epoch now hg =>
    simp only [exec, heartbeat]
    repeat' split
    all_goals rfl
  | setDrain w identity d now =>
    simp only [exec, setDrain]
    repeat' split
    all_goals rfl
  | setQuarantine w identity q now =>
    simp only [exec, setQuarantine]
    repeat' split
    all_goals rfl
  | clearQuarantine w identity epoch now =>
    simp only [exec, clearQuarantine]
    repeat' split
    all_goals rfl

/-! ## The ids of the records -/

/-- The record carries the id of the device that it is filed under: the one that
the observation it was written for gave, or the one on file after the call. -/
def CarriesId (s : FleetStateStore) (op : Op) (e : ByteString × ChangeRecord) : Prop :=
  (∃ a ∈ (s.exec op).applied, a.key = e.1 ∧ e.2.deviceId = a.obs.deviceId) ∨
    ∃ d, (s.step op).devices[e.1]? = some d ∧ e.2.deviceId = d.deviceId

/-- What the loop records for an observation carries its id. -/
theorem carriesId_applications {s : FleetStateStore} {worker : WorkerId}
    {obs : List DeviceObservation} {policy : ObservationPolicy} {now : Timestamp} :
    ∀ e ∈ applicationStory (s.ingestSnapshot worker obs policy now).applied,
      s.CarriesId (.ingestSnapshot worker obs policy now) e := by
  intro e he
  obtain ⟨a, ha, hrecord⟩ := List.mem_flatMap.mp he
  obtain ⟨r, hr, rfl⟩ := List.mem_map.mp hrecord
  obtain ⟨wr, before, st, -, hsame⟩ := applies_of_mem_applied ha
  refine Or.inl ⟨a, ha, rfl, ?_⟩
  rw [hsame] at hr
  exact diffDeviceState_deviceId _ _ _ _ _ r hr

/-- What the disappearance loop records is about a device that stays on file. -/
theorem carriesId_gone {st : IngestState} {worker : WorkerId} {now : Timestamp}
    {e : ByteString × ChangeRecord}
    (he : e ∈ st.store.goneStory (goneKeys st worker) now) :
    ∃ d, (finishIngest st worker now).store.devices[e.1]? = some d ∧ e.2.deviceId = d.deviceId := by
  obtain ⟨key, hkey, hsome⟩ := List.mem_filterMap.mp he
  obtain ⟨d, hd, rfl⟩ := Option.map_eq_some_iff.mp hsome
  refine ⟨disappearDevice d, ?_, rfl⟩
  rw [finishIngest_devices, if_pos hkey, hd]
  rfl

theorem carriesId_ingest (s : FleetStateStore) (worker : WorkerId)
    (obs : List DeviceObservation) (policy : ObservationPolicy) (now : Timestamp) :
    ∀ e ∈ s.ingestStory worker obs policy now,
      s.CarriesId (.ingestSnapshot worker obs policy now) e := by
  intro e he
  rcases ingest_live_or_refused s worker with hdead | ⟨wr, hwr, hlost, hfenced⟩
  · rw [ingestStory_dead hdead] at he
    cases he
  have happlied : e ∈ applicationStory
      (ingestLoop worker wr.boot policy now obs { store := s }).1.applied →
      s.CarriesId (.ingestSnapshot worker obs policy now) e := by
    intro hloop
    rw [← ingestSnapshot_applied hwr hlost hfenced] at hloop
    exact carriesId_applications e hloop
  have hlive : s.ingestSnapshot worker obs policy now = _ :=
    ingestSnapshot_live hwr hlost hfenced
  rw [ingestStory_live hwr hlost hfenced] at he
  generalize ingestLoop worker wr.boot policy now obs { store := s } = out at he happlied hlive
  obtain ⟨st, res⟩ := out
  cases res with
  | error err => exact happlied he
  | ok _ =>
    rcases List.mem_append.mp he with he | he
    · exact happlied he
    · refine Or.inr ?_
      rw [step, exec, Outcome.void, hlive]
      exact carriesId_gone he

/-- The records of an administrative call are about the device that it names. -/
theorem carriesId_admin {s : FleetStateStore} {op : Op} {identity : ByteString}
    {out : Outcome Unit} (hstep : s.step op = out.store)
    (h : ∀ r ∈ out.logged, ∃ d, out.store.devices[identity]? = some d ∧
      r.deviceId = d.deviceId) :
    ∀ e ∈ out.logged.map fun r => (identity, r), s.CarriesId op e := by
  intro e he
  obtain ⟨r, hr, rfl⟩ := List.mem_map.mp he
  refine Or.inr ?_
  rw [hstep]
  exact h r hr

/-- Every record of a call carries the id of the device it was written for. -/
theorem carriesId_story (s : FleetStateStore) (op : Op) : ∀ e ∈ s.story op, s.CarriesId op e := by
  cases op with
  | ingestSnapshot worker obs policy now => exact s.carriesId_ingest worker obs policy now
  | setDrain w identity level now =>
    refine carriesId_admin rfl ?_
    unfold setDrain
    split
    · exact List.forall_mem_nil _
    · split
      · exact List.forall_mem_nil _
      · exact List.forall_mem_singleton.mpr ⟨_, OrderedMap.getElem?_insert_same _ _ _, rfl⟩
  | setQuarantine w identity q now =>
    refine carriesId_admin rfl ?_
    unfold setQuarantine
    dsimp only
    repeat' split
    · exact List.forall_mem_nil _
    · exact List.forall_mem_nil _
    · exact List.forall_mem_nil _
    · exact List.forall_mem_singleton.mpr ⟨_, OrderedMap.getElem?_insert_same _ _ _, rfl⟩
  | clearQuarantine w identity epoch now =>
    refine carriesId_admin rfl ?_
    unfold clearQuarantine
    repeat' split
    · exact List.forall_mem_nil _
    · exact List.forall_mem_nil _
    · exact List.forall_mem_nil _
    · exact List.forall_mem_singleton.mpr ⟨_, OrderedMap.getElem?_insert_same _ _ _, rfl⟩
  | _ => exact List.forall_mem_nil _

/-! ## Ingest -/

/-- The observations of a device that pass the gates. -/
def brought (obs : List DeviceObservation) (vs : List Verdict) (key : ByteString) :
    List DeviceObservation :=
  ((obs.zip vs).filter fun p => decide (p.2 = .pass ∧ p.1.key = key)).map Prod.fst

theorem brought_eq_nil_iff {obs : List DeviceObservation} {vs : List Verdict}
    {key : ByteString} : brought obs vs key = [] ↔ ¬Brings obs vs key := by
  unfold brought
  rw [List.map_eq_nil_iff, List.filter_eq_nil_iff]
  constructor
  · rintro h ⟨o, ho, hkey⟩
    exact h ⟨o, .pass⟩ ho (decide_eq_true ⟨rfl, hkey⟩)
  · intro h p hp hpass
    have hpass := of_decide_eq_true hpass
    refine h ⟨p.1, ?_, hpass.2⟩
    rw [← hpass.1]
    exact hp

theorem brought_pass {o : DeviceObservation} {key : ByteString} (hkey : o.key = key)
    (rest : List DeviceObservation) (vs : List Verdict) :
    brought (o :: rest) (.pass :: vs) key = o :: brought rest vs key := by
  simp [brought, hkey]

theorem brought_other {o : DeviceObservation} {v : Verdict} {key : ByteString}
    (h : v = .pass → o.key ≠ key) (rest : List DeviceObservation) (vs : List Verdict) :
    brought (o :: rest) (v :: vs) key = brought rest vs key := by
  have hdropped : ¬(v = .pass ∧ o.key = key) := fun ⟨hpass, hkey⟩ => h hpass hkey
  simp [brought, hdropped]

theorem length_brought_le (obs : List DeviceObservation) (vs : List Verdict)
    (key : ByteString) : (brought obs vs key).length ≤ obs.length := by
  have hfilter := List.length_filter_le
    (fun p : DeviceObservation × Verdict => decide (p.2 = .pass ∧ p.1.key = key)) (obs.zip vs)
  rw [List.length_zip] at hfilter
  rw [brought, List.length_map]
  exact hfilter.trans (Nat.min_le_left _ _)

/-- What the loop does to a device and what it records about it: the course of
the observations that pass. -/
theorem ingestLoop_course (worker : WorkerId) (boot : WorkerBootId)
    (policy : ObservationPolicy) (now : Timestamp) (key : ByteString)
    (obs : List DeviceObservation) (st : IngestState) :
    (ingestLoop worker boot policy now obs st).1.store.deviceAt key
        = course policy now st.store.epoch (st.store.deviceAt key)
          (brought obs (verdicts st.store.epoch worker boot st.store.stampOf obs) key) ∧
      recordsFor key (applicationStory (ingestLoop worker boot policy now obs st).1.applied)
        = recordsFor key (applicationStory st.applied)
          ++ courseRecords policy now st.store.epoch (st.store.deviceAt key)
            (brought obs (verdicts st.store.epoch worker boot st.store.stampOf obs) key) := by
  induction obs generalizing st with
  | nil => exact ⟨rfl, (List.append_nil _).symm⟩
  | cons o rest ih =>
    rw [ingestLoop, verdicts]
    cases gate st.store.epoch worker boot (st.store.stampOf o.key) o with
    | refuse err =>
      have hnone : brought (o :: rest) [.refuse err] key = [] := by simp [brought]
      simp only [hnone]
      exact ⟨rfl, (List.append_nil _).symm⟩
    | skip =>
      have hskip : Verdict.skip = .pass → o.key ≠ key := fun h => by cases h
      simp only [brought_other hskip]
      exact ih st
    | pass =>
      have hrest := ih (st.commit worker o policy now)
      rw [stampOf_commit, epoch_commit] at hrest
      have hrecords : recordsFor key (applicationStory (st.commit worker o policy now).applied)
          = recordsFor key (applicationStory st.applied) ++ if o.key = key then
              (applyObservation (st.store.deviceAt o.key) o policy now st.store.epoch).changes
            else [] := by
        rw [IngestState.commit, applicationStory_concat, recordsFor_append, recordsFor_map]
        rfl
      by_cases hkey : o.key = key
      · have hdevice : (st.commit worker o policy now).store.deviceAt key
            = advance policy now st.store.epoch (st.store.deviceAt key) o := by
          rw [IngestState.commit, deviceAt, commit_devices, if_pos hkey, Option.getD_some,
            ← hkey]
          rfl
        rw [if_pos hkey, hkey] at hrecords
        rw [hdevice, hrecords] at hrest
        simp only [brought_pass hkey]
        refine ⟨hrest.1, hrest.2.trans ?_⟩
        rw [List.append_assoc]
        rfl
      · have hdevice : (st.commit worker o policy now).store.deviceAt key
            = st.store.deviceAt key := by
          rw [IngestState.commit, deviceAt, commit_devices, if_neg hkey]
          rfl
        rw [if_neg hkey, List.append_nil] at hrecords
        rw [hdevice, hrecords] at hrest
        simp only [brought_other fun _ => hkey]
        exact hrest

/-- The disappearance loop writes a record each time it comes to the key. -/
theorem recordsFor_goneStory {s : FleetStateStore} {key : ByteString} {d : DeviceState}
    (hd : s.devices[key]? = some d) (keys : List ByteString) (now : Timestamp) :
    recordsFor key (s.goneStory keys now)
      = List.replicate (keys.count key) (disappearedRecord d s.epoch now) := by
  induction keys with
  | nil => rfl
  | cons key' rest ih =>
    have hcons : s.goneStory (key' :: rest) now
        = (s.devices[key']?.map fun d => (key', disappearedRecord d s.epoch now)).toList
          ++ s.goneStory rest now := by
      cases h : s.devices[key']? <;> simp [goneStory, h]
    rw [hcons, recordsFor_append, ih]
    by_cases hkey : key' = key
    · rw [hkey, hd, List.count_cons_self, List.replicate_succ]
      simp [recordsFor]
    · rw [List.count_cons_of_ne hkey]
      cases s.devices[key']? <;> simp [recordsFor, hkey]

/-- The disappearance loop writes nothing about other devices. -/
theorem recordsFor_goneStory_of_not_mem {s : FleetStateStore} {key : ByteString}
    {keys : List ByteString} (h : key ∉ keys ∨ s.devices[key]? = none) (now : Timestamp) :
    recordsFor key (s.goneStory keys now) = [] := by
  unfold recordsFor
  rw [List.map_eq_nil_iff, List.filter_eq_nil_iff]
  intro e he hkey
  obtain ⟨key', hmem, hsome⟩ := List.mem_filterMap.mp he
  obtain ⟨d, hd, rfl⟩ := Option.map_eq_some_iff.mp hsome
  obtain rfl : key' = key := of_decide_eq_true hkey
  rcases h with h | h
  · exact h hmem
  · rw [h] at hd
    cases hd

/-! ## Reachable devices -/

/-- What the verdict `INELIGIBLE` says about a fenced device and about one
that is present and lost: a fenced device that does not show its fence was
written off, and nothing was heard of it since. -/
structure Accounted (d : DeviceState) : Prop where
  fenced : d.Fenced →
    ShowsFence d ∨ (d.eligibility = .ineligible ∧ d.observationFresh = false)
  lost : d.present = true → d.health = .lost →
    d.observationFresh = false ∧ d.eligibility ≠ .ineligible

/-- Without fresh evidence a recomputation ends in a fence or in `STALE`. -/
theorem recompute_not_ineligible {d : DeviceState} (h : d.observationFresh = false) :
    (recomputeDeviceEligibility d).eligibility ≠ .ineligible := by
  have hstale : (!d.observationFresh) = true := by rw [h]; rfl
  simp only [recomputeDeviceEligibility, evaluateEligibility]
  by_cases hq : d.quarantined = true
  · simp [hq]
  · by_cases hd : d.drain = .active
    · simp [hq, hd, hstale]
    · simp [hq, hd]

theorem accounted_applyTo (s : FleetStateStore) (o : DeviceObservation)
    (policy : ObservationPolicy) (now : Timestamp) :
    Accounted (s.applyTo o policy now).state := by
  refine ⟨fun _ => Or.inl (showsFence_applyTo s o policy now), ?_⟩
  intro hpresent hlost
  have hpresent : o.present = true := hpresent
  have habsent := evaluateHealth_lost hlost
  rw [if_neg (by simp [hpresent])] at habsent
  cases habsent.symm.trans hpresent

theorem accounted_lose {d : DeviceState} (h : Accounted d) : Accounted (loseDevice d) := by
  have hfresh := loseDevice_observationFresh d
  by_cases hp : d.present = true
  · have hgone : (loseDevice d).present = false := by simp [loseDevice, hp]
    have helig : (loseDevice d).eligibility = .ineligible := by simp [loseDevice, hp]
    refine ⟨fun _ => Or.inr ⟨helig, hfresh⟩, ?_⟩
    intro hpresent
    cases hgone.symm.trans hpresent
  · have hsame : loseDevice d = { d with observationFresh := false } := by simp [loseDevice, hp]
    rw [hsame]
    refine ⟨?_, fun hpresent => absurd hpresent hp⟩
    intro hfenced
    rcases h.fenced hfenced with hshows | ⟨helig, _⟩
    · exact Or.inl ⟨hshows.quarantined, hshows.draining⟩
    · exact Or.inr ⟨helig, rfl⟩

theorem accounted_recompute {d d' : DeviceState} (h : Accounted d) (hedit : AdminEdit d d') :
    Accounted (recomputeDeviceEligibility d') := by
  refine ⟨fun _ => Or.inl (showsFence_recompute d'), ?_⟩
  intro hpresent hlost
  have hpresent : d'.present = true := hpresent
  have hlost : d'.health = .lost := hlost
  rw [hedit.present] at hpresent
  rw [hedit.health] at hlost
  have hstale : d'.observationFresh = false := by
    rw [hedit.observationFresh]
    exact (h.lost hpresent hlost).1
  exact ⟨hstale, recompute_not_ineligible hstale⟩

theorem accounted_restore (d : DeviceState) : Accounted (restoreDevice d) := by
  refine ⟨fun _ => Or.inl (showsFence_restore d), ?_⟩
  intro _ _
  refine ⟨restoreDevice_observationFresh d, ?_⟩
  unfold restoreDevice
  by_cases hq : d.quarantined = true
  · simp [hq]
  · by_cases hd : d.drain = .active
    · simp [hq, hd]
    · simp [hq, hd]

theorem accounted_invariant : DeviceInvariant (fun _ => True) (fun _ d => Accounted d) where
  applied := fun s _ _ policy now _ o _ _ => accounted_applyTo s o policy now
  lost := fun _ _ h => accounted_lose h
  gone := fun _ d _ => ⟨fun _ => Or.inr ⟨rfl, rfl⟩, fun hpresent => by cases hpresent⟩
  edited := fun _ _ _ h hedit => accounted_recompute h hedit
  restored := fun _ _ _ d _ => accounted_restore d

/-- What a call may rely on about the devices on file. -/
def DevicesAccounted (s : FleetStateStore) : Prop :=
  ∀ (key : ByteString) (d : DeviceState), s.devices[key]? = some d →
    Accounted d ∧ VerdictBacked d

theorem devicesAccounted_run (coord : CoordinatorId) (epoch : CoordinatorEpoch)
    (ops : List Op) : ((empty coord epoch).run ops).DevicesAccounted := by
  intro key d hd
  have haccounted := accounted_invariant.run coord epoch ops (fun _ _ => trivial) key d hd
  have hbacked := verdictBacked_invariant.run coord epoch ops (fun _ _ => trivial) key d hd
  exact ⟨haccounted, hbacked⟩

/-! ## When a call is told -/

/-- The call leaves no change untold and records none that did not happen:

* the worker that is lost has no device that is present,
* the batch turns no axis of a device twice and leaves out no device on file,
* the drain level is there already, or a fence covers the change,
* the quarantine is refused or shown already,
* there is no quarantine to clear. -/
def Recorded (s : FleetStateStore) : Op → Prop
  | .markWorkerLost w _ =>
    ∀ wr, s.workers[w]? = some wr → ∀ key ∈ wr.deviceIdentities, ∀ d,
      s.devices[key]? = some d → d.present = false
  | .ingestSnapshot worker obs policy now =>
    ∀ wr, s.workers[worker]? = some wr → wr.lost = false → wr.fenced = false →
      (∀ key a, turns policy now s.epoch a (s.deviceAt key)
        (brought obs (verdicts s.epoch worker wr.boot s.stampOf obs) key) ≤ 1) ∧
      ∀ key d, s.devices[key]? = some d → ¬s.TakenForGone worker obs wr key
  | .setDrain _ identity level _ =>
    ∀ d, s.devices[identity]? = some d →
      d.drain = level ∨ d.eligibility = .quarantined ∨
        (level ≠ .active ∧ d.eligibility = .draining)
  | .setQuarantine _ identity q _ =>
    ∀ d, s.devices[identity]? = some d →
      q.generation < d.generation ∨ d.eligibility = .quarantined
  | .clearQuarantine _ identity epoch _ =>
    epoch = s.epoch → ∀ d, s.devices[identity]? = some d → d.quarantined = false
  | _ => True

/-! ## Loss -/

theorem told_markWorkerLost_iff (s : FleetStateStore) (w : WorkerId) (now : Timestamp) :
    s.Told (.markWorkerLost w now) ↔ s.Recorded (.markWorkerLost w now) := by
  constructor
  · intro htold wr hwr key hmem d hd
    by_contra hpresent
    have hpresent : d.present = true := by simpa using hpresent
    have hd' : (s.step (.markWorkerLost w now)).devices[key]? = some (loseDevice d) := by
      rw [step, exec, markWorkerLost_getElem? hwr, if_pos hmem, hd, Option.map_some]
    have htells := htold key
    rw [deviceAt_of_some hd, deviceAt_of_some hd'] at htells
    refine not_tells_of_untold (a := .presence) ?_ rfl htells
    have hgone : (loseDevice d).present = false := by simp [loseDevice, hpresent]
    rw [Axis.Same, hpresent, hgone]
    exact Bool.noConfusion
  · intro hrecorded key
    cases hwr : s.workers[w]? with
    | none =>
      have hsame : (s.step (.markWorkerLost w now)).deviceAt key = s.deviceAt key := by
        rw [step, exec, markWorkerLost, hwr]
      rw [hsame]
      exact tells_self _
    | some wr =>
      have hdevice : (s.step (.markWorkerLost w now)).deviceAt key
          = if key ∈ wr.deviceIdentities then (s.devices[key]?.map loseDevice).getD {}
            else s.deviceAt key := by
        rw [step, exec, deviceAt, markWorkerLost_getElem? hwr]
        split <;> rfl
      rw [hdevice]
      by_cases hmem : key ∈ wr.deviceIdentities
      · rw [if_pos hmem, deviceAt]
        cases hd : s.devices[key]? with
        | none => exact tells_self _
        | some d =>
          -- Loss marks an absent device as stale and leaves the axes alone.
          have habsent := hrecorded wr hwr key hmem d hd
          have hstale : loseDevice d = { d with observationFresh := false } := by
            simp [loseDevice, habsent]
          rw [Option.map_some, Option.getD_some, Option.getD_some, hstale]
          intro a
          refine Or.inl ⟨?_, rfl⟩
          cases a <;> rfl
      · rw [if_neg hmem]
        exact tells_self _

/-! ## Administration -/

/-- A call that is refused or has nothing to do. -/
theorem told_of_quiet {s : FleetStateStore} {op : Op} {identity : ByteString}
    {out : Outcome Unit} (hexec : s.exec op = out)
    (hstory : s.story op = out.logged.map fun r => (identity, r)) (hstore : out.store = s)
    (hlogged : out.logged = []) : s.Told op := by
  apply told_of_same
  · rw [hstory, hlogged]
    rfl
  · rw [step, hexec, hstore]

/-- A call that writes one device. -/
theorem told_insert_iff {s : FleetStateStore} {op : Op} {identity : ByteString}
    {d d' : DeviceState} {records : List ChangeRecord} (hd : s.devices[identity]? = some d)
    (hdevices : (s.step op).devices = s.devices.insert identity d')
    (hstory : s.story op = records.map fun r => (identity, r)) :
    s.Told op ↔ Tells d d' records := by
  have hafter : ∀ key, (s.step op).deviceAt key
      = if identity = key then d' else s.deviceAt key := by
    intro key
    rw [deviceAt, hdevices, OrderedMap.getElem?_insert]
    split <;> rfl
  constructor
  · intro htold
    have htells := htold identity
    rw [hafter, hstory, recordsFor_map, if_pos rfl, if_pos rfl, deviceAt_of_some hd] at htells
    exact htells
  · intro htells key
    rw [hafter, hstory, recordsFor_map]
    by_cases hkey : identity = key
    · rw [if_pos hkey, if_pos hkey, ← hkey, deviceAt_of_some hd]
      exact htells
    · rw [if_neg hkey, if_neg hkey]
      exact tells_self _

/-- The administrative calls tell what they do to the fences.  They tell the
whole story when the verdict stays. -/
theorem tells_admin_iff {d d' : DeviceState} {records : List ChangeRecord}
    (hpresent : d.present = d'.present) (hhealth : d.health = d'.health)
    (hsilent : ∀ r ∈ records, r.kind.axis = some .drain ∨ r.kind.axis = some .quarantine)
    (hdrain : TellsOn .drain d d' records) (hquarantine : TellsOn .quarantine d d' records) :
    Tells d d' records ↔ d.eligibility = d'.eligibility := by
  have hnone : ∀ a, a ≠ Axis.drain → a ≠ .quarantine → a.recordsOf records = [] := by
    intro a hd hq
    rw [Axis.recordsOf, List.filter_eq_nil_iff]
    intro r hr hkind
    have hkind := of_decide_eq_true hkind
    rcases hsilent r hr with h | h
    · exact hd (Option.some.inj (hkind.symm.trans h))
    · exact hq (Option.some.inj (hkind.symm.trans h))
  constructor
  · intro htells
    by_contra hdiffer
    exact not_tells_of_untold (a := .eligibility) hdiffer (hnone _ (by decide) (by decide)) htells
  · intro hsame a
    cases a with
    | presence => exact Or.inl ⟨hpresent, hnone _ (by decide) (by decide)⟩
    | health => exact Or.inl ⟨hhealth, hnone _ (by decide) (by decide)⟩
    | eligibility => exact Or.inl ⟨hsame, hnone _ (by decide) (by decide)⟩
    | drain => exact hdrain
    | quarantine => exact hquarantine

/-- The verdict of a device whose drain level changes. -/
theorem recompute_drain_iff {d : DeviceState} (haccounted : Accounted d)
    (hbacked : VerdictBacked d) {level : DrainState} (hlevel : d.drain ≠ level) :
    d.eligibility = (recomputeDeviceEligibility { d with drain := level }).eligibility ↔
      d.eligibility = .quarantined ∨ (level ≠ .active ∧ d.eligibility = .draining) := by
  have hshows := showsFence_recompute { d with drain := level }
  have hedit : AdminEdit d { d with drain := level } := ⟨rfl, rfl, rfl, rfl, rfl⟩
  have hbacked' := verdictBacked_recompute hbacked hedit
  by_cases hq : d.quarantined = true
  · have hnew := hshows.quarantined hq
    rw [hnew]
    refine ⟨Or.inl, fun h => h.resolve_right ?_⟩
    rintro ⟨_, hdraining⟩
    have hclear := (hbacked.draining hdraining).1
    rw [hq] at hclear
    cases hclear
  · have hq' : d.quarantined = false := by simpa using hq
    have hnot : d.eligibility ≠ .quarantined := fun h => hq (hbacked.quarantined h)
    by_cases hactive : level = .active
    · -- The fence comes down, and its verdict with it.
      have hfenced : d.Fenced := Or.inr (hactive ▸ hlevel)
      refine ⟨fun hsame => ?_, fun h => ?_⟩
      · rcases haccounted.fenced hfenced with hfence | ⟨helig, hstale⟩
        · have hdraining := hfence.draining hq' (hactive ▸ hlevel)
          have hdrain := (hbacked'.draining (hsame.symm.trans hdraining)).2
          exact absurd hactive hdrain
        · have hnew := recompute_not_ineligible (d := { d with drain := level }) hstale
          exact absurd (hsame.symm.trans helig) hnew
      · rcases h with h | ⟨h, _⟩
        · exact absurd h hnot
        · exact absurd hactive h
    · have hnew := hshows.draining hq' hactive
      rw [hnew]
      exact ⟨fun h => Or.inr ⟨hactive, h⟩, fun h => (h.resolve_left hnot).2⟩

/-- An administrative method that does not know the device. -/
theorem told_of_unknown {s : FleetStateStore} {op : Op} {identity : ByteString}
    {P : DeviceState → Prop} (hd : s.devices[identity]? = none) (htold : s.Told op) :
    s.Told op ↔ ∀ d, s.devices[identity]? = some d → P d := by
  refine ⟨fun _ d hd' => ?_, fun _ => htold⟩
  cases hd.symm.trans hd'

/-- A change of the drain state is told if the eligibility stays. -/
theorem told_drain_changed_iff {s : FleetStateStore} {identity : ByteString} {d : DeviceState}
    (hd : s.devices[identity]? = some d) (w : WorkerId) {level : DrainState}
    (hlevel : d.drain ≠ level) (now : Timestamp) :
    s.Told (.setDrain w identity level now) ↔
      d.eligibility = (recomputeDeviceEligibility { d with drain := level }).eligibility := by
  have hdevices : (s.step (.setDrain w identity level now)).devices
      = s.devices.insert identity (recomputeDeviceEligibility { d with drain := level }) := by
    rw [step, exec, setDrain, hd]
    simp only [if_neg hlevel]
  obtain ⟨r, hlogged, hkind⟩ : ∃ r, (s.setDrain w identity level now).logged = [r] ∧
      (r.kind = .drainInitiated ∨ r.kind = .drainCompleted) := by
    rw [setDrain, hd]
    simp only [if_neg hlevel]
    refine ⟨_, rfl, ?_⟩
    split
    · exact Or.inl rfl
    · exact Or.inr rfl
  have hstory : s.story (.setDrain w identity level now)
      = [r].map fun r => (identity, r) := by
    rw [story, hlogged]
  have haxis : r.kind.axis = some .drain := by
    rcases hkind with hkind | hkind
    · rw [hkind]
      rfl
    · rw [hkind]
      rfl
  have hdrain : TellsOn .drain d (recomputeDeviceEligibility { d with drain := level }) [r] := by
    refine Or.inr ⟨hlevel, r, ?_, hkind⟩
    rw [Axis.recordsOf_singleton, if_pos haxis]
  have hquarantine : TellsOn .quarantine d
      (recomputeDeviceEligibility { d with drain := level }) [r] := by
    refine Or.inl ⟨rfl, ?_⟩
    rw [Axis.recordsOf_singleton, haxis, if_neg (by decide)]
  have hsilent : ∀ r' ∈ [r], r'.kind.axis = some .drain ∨ r'.kind.axis = some .quarantine :=
    List.forall_mem_singleton.mpr (Or.inl haxis)
  rw [told_insert_iff hd hdevices hstory]
  exact tells_admin_iff rfl rfl hsilent hdrain hquarantine

theorem told_setDrain_iff {s : FleetStateStore} (h : s.DevicesAccounted) (w : WorkerId)
    (identity : ByteString) (level : DrainState) (now : Timestamp) :
    s.Told (.setDrain w identity level now) ↔ s.Recorded (.setDrain w identity level now) := by
  cases hd : s.devices[identity]? with
  | none =>
    have hout : s.setDrain w identity level now
        = { store := s, result := .error (errorResult .notFound "device not found") } := by
      rw [setDrain, hd]
    exact told_of_unknown hd
      (told_of_quiet rfl rfl (congrArg Outcome.store hout) (congrArg Outcome.logged hout))
  | some d =>
    have hrecorded : s.Recorded (.setDrain w identity level now) ↔
        d.drain = level ∨ d.eligibility = .quarantined ∨
          (level ≠ .active ∧ d.eligibility = .draining) := by
      simp only [Recorded, hd, Option.some.injEq, forall_eq']
    rw [hrecorded]
    by_cases hlevel : d.drain = level
    · have hout : s.setDrain w identity level now = { store := s, result := .ok () } := by
        rw [setDrain, hd]
        exact if_pos hlevel
      have htold : s.Told (.setDrain w identity level now) :=
        told_of_quiet rfl rfl (congrArg Outcome.store hout) (congrArg Outcome.logged hout)
      exact ⟨fun _ => Or.inl hlevel, fun _ => htold⟩
    · obtain ⟨haccounted, hbacked⟩ := h identity d hd
      rw [told_drain_changed_iff hd w hlevel now, recompute_drain_iff haccounted hbacked hlevel]
      exact ⟨Or.inr, fun h => h.resolve_left hlevel⟩

section SetQuarantine

variable {s : FleetStateStore} {identity : ByteString} {d : DeviceState} {q : QuarantineRecord}

/-- No record is due for a quarantine that was there before. -/
theorem told_quarantine_again_iff (hd : s.devices[identity]? = some d) (w : WorkerId)
    (hgen : ¬ q.generation < d.generation) (hq : d.quarantined = true) (now : Timestamp) :
    s.Told (.setQuarantine w identity q now) ↔ d.eligibility = (recomputeDeviceEligibility
      { d with quarantined := true, quarantine := q }).eligibility := by
  have hout : s.setQuarantine w identity q now
      = { store := { s with
            devices := s.devices.insert identity (recomputeDeviceEligibility
              { d with quarantined := true, quarantine := q }) }
          result := .ok () } := by
    rw [setQuarantine, hd]
    simp only [if_neg hgen, if_pos hq]
  have hstory : s.story (.setQuarantine w identity q now)
      = ([] : List ChangeRecord).map fun r => (identity, r) := by
    rw [story, hout]
  have hdevices : (s.step (.setQuarantine w identity q now)).devices
      = s.devices.insert identity (recomputeDeviceEligibility
        { d with quarantined := true, quarantine := q }) := by
    rw [step, exec, hout]
  rw [told_insert_iff hd hdevices hstory]
  refine tells_admin_iff rfl rfl (List.forall_mem_nil _) (Or.inl ⟨rfl, rfl⟩) ?_
  exact Or.inl ⟨hq, rfl⟩

/-- A new quarantine has its record. -/
theorem told_quarantine_applied_iff (hd : s.devices[identity]? = some d) (w : WorkerId)
    (hgen : ¬ q.generation < d.generation) (hq : ¬ d.quarantined = true) (now : Timestamp) :
    s.Told (.setQuarantine w identity q now) ↔ d.eligibility = (recomputeDeviceEligibility
      { d with quarantined := true, quarantine := q }).eligibility := by
  obtain ⟨r, hlogged, hkind⟩ : ∃ r, (s.setQuarantine w identity q now).logged = [r] ∧
      r.kind = .quarantineApplied := by
    rw [setQuarantine, hd]
    simp only [if_neg hgen, if_neg hq]
    exact ⟨_, rfl, rfl⟩
  have hstory : s.story (.setQuarantine w identity q now)
      = [r].map fun r => (identity, r) := by
    rw [story, hlogged]
  have hdevices : (s.step (.setQuarantine w identity q now)).devices
      = s.devices.insert identity (recomputeDeviceEligibility
        { d with quarantined := true, quarantine := q }) := by
    rw [step, exec, setQuarantine, hd]
    simp only [if_neg hgen, if_neg hq]
  have haxis : r.kind.axis = some .quarantine := by
    rw [hkind]
    rfl
  rw [told_insert_iff hd hdevices hstory]
  refine tells_admin_iff rfl rfl (List.forall_mem_singleton.mpr (Or.inr haxis))
    (Or.inl ⟨rfl, ?_⟩) (Or.inr ⟨hq, r, ?_, hkind⟩)
  · rw [Axis.recordsOf_singleton, haxis, if_neg (by decide)]
  · rw [Axis.recordsOf_singleton, if_pos haxis]

end SetQuarantine

theorem told_setQuarantine_iff (s : FleetStateStore) (w : WorkerId) (identity : ByteString)
    (q : QuarantineRecord) (now : Timestamp) :
    s.Told (.setQuarantine w identity q now) ↔
      s.Recorded (.setQuarantine w identity q now) := by
  cases hd : s.devices[identity]? with
  | none =>
    have hout : s.setQuarantine w identity q now
        = { store := s, result := .error (errorResult .notFound "device not found") } := by
      rw [setQuarantine, hd]
    exact told_of_unknown hd
      (told_of_quiet rfl rfl (congrArg Outcome.store hout) (congrArg Outcome.logged hout))
  | some d =>
    have hrecorded : s.Recorded (.setQuarantine w identity q now) ↔
        q.generation < d.generation ∨ d.eligibility = .quarantined := by
      simp only [Recorded, hd, Option.some.injEq, forall_eq']
    rw [hrecorded]
    by_cases hgen : q.generation < d.generation
    · have hout : s.setQuarantine w identity q now
          = { store := s
              result := .error (errorResult .invalidGeneration "stale quarantine generation") } := by
        rw [setQuarantine, hd]
        exact if_pos hgen
      have htold : s.Told (.setQuarantine w identity q now) :=
        told_of_quiet rfl rfl (congrArg Outcome.store hout) (congrArg Outcome.logged hout)
      exact ⟨fun _ => Or.inl hgen, fun _ => htold⟩
    have hverdict : d.eligibility = (recomputeDeviceEligibility
        { d with quarantined := true, quarantine := q }).eligibility ↔
          q.generation < d.generation ∨ d.eligibility = .quarantined := by
      rw [(showsFence_recompute { d with quarantined := true, quarantine := q }).quarantined rfl]
      exact ⟨Or.inr, fun h => h.resolve_left hgen⟩
    rw [← hverdict]
    by_cases hq : d.quarantined = true
    · exact told_quarantine_again_iff hd w hgen hq now
    · exact told_quarantine_applied_iff hd w hgen hq now

/-- The verdict of a device whose quarantine is cleared. -/
theorem recompute_clear_ne {d : DeviceState} (haccounted : Accounted d)
    (hbacked : VerdictBacked d) (hq : d.quarantined = true) :
    d.eligibility ≠ (recomputeDeviceEligibility
      { d with quarantined := false, quarantine := {} }).eligibility := by
  intro hsame
  rcases haccounted.fenced (Or.inl hq) with hshows | ⟨helig, hstale⟩
  · have hedit : AdminEdit d { d with quarantined := false, quarantine := {} } :=
      ⟨rfl, rfl, rfl, rfl, rfl⟩
    have hbacked' := verdictBacked_recompute hbacked hedit
    have hstill : false = true := hbacked'.quarantined (hsame.symm.trans (hshows.quarantined hq))
    cases hstill
  · have hnew := recompute_not_ineligible
      (d := { d with quarantined := false, quarantine := {} }) hstale
    exact hnew (hsame.symm.trans helig)

/-- There is nothing to clear. -/
theorem clearQuarantine_refused {s : FleetStateStore} {identity : ByteString}
    {epoch : CoordinatorEpoch}
    (h : ¬(epoch = s.epoch ∧ ∃ d, s.devices[identity]? = some d ∧ d.quarantined = true))
    (w : WorkerId) (now : Timestamp) : (s.clearQuarantine w identity epoch now).Refused s := by
  unfold clearQuarantine
  split
  · exact ⟨Outcome.failed_error, rfl, rfl, rfl⟩
  next hepoch =>
  split
  · exact ⟨Outcome.failed_error, rfl, rfl, rfl⟩
  next d hd =>
  split
  · exact ⟨Outcome.failed_error, rfl, rfl, rfl⟩
  · next hq => exact absurd ⟨not_not.mp hepoch, d, hd, by simpa using hq⟩ h

theorem told_clearQuarantine_iff {s : FleetStateStore} (h : s.DevicesAccounted) (w : WorkerId)
    (identity : ByteString) (epoch : CoordinatorEpoch) (now : Timestamp) :
    s.Told (.clearQuarantine w identity epoch now) ↔
      s.Recorded (.clearQuarantine w identity epoch now) := by
  by_cases hcleared : epoch = s.epoch ∧ ∃ d, s.devices[identity]? = some d ∧ d.quarantined = true
  · obtain ⟨hepoch, d, hd, hq⟩ := hcleared
    have hnot : ¬s.Recorded (.clearQuarantine w identity epoch now) := by
      intro hrecorded
      have hclear := hrecorded hepoch d hd
      rw [hq] at hclear
      cases hclear
    obtain ⟨r, hlogged, hkind⟩ : ∃ r, (s.clearQuarantine w identity epoch now).logged = [r] ∧
        r.kind = .quarantineCleared := by
      rw [clearQuarantine, if_neg (not_not.mpr hepoch), hd]
      simp only [hq, Bool.not_true, Bool.false_eq_true, if_false]
      exact ⟨_, rfl, rfl⟩
    have hdevices : (s.step (.clearQuarantine w identity epoch now)).devices
        = s.devices.insert identity (recomputeDeviceEligibility
          { d with quarantined := false, quarantine := {} }) := by
      rw [step, exec, clearQuarantine, if_neg (not_not.mpr hepoch), hd]
      simp only [hq, Bool.not_true, Bool.false_eq_true, if_false]
    have hstory : s.story (.clearQuarantine w identity epoch now)
        = [r].map fun r => (identity, r) := by
      rw [story, hlogged]
    obtain ⟨haccounted, hbacked⟩ := h identity d hd
    refine ⟨fun htold => ?_, fun hrecorded => absurd hrecorded hnot⟩
    -- The one record is about the quarantine; the verdict changes as well.
    refine absurd ((told_insert_iff hd hdevices hstory).mp htold) ?_
    apply not_tells_of_untold (a := .eligibility) (recompute_clear_ne haccounted hbacked hq)
    rw [Axis.recordsOf_singleton, hkind]
    exact if_neg (by decide)
  · have hrefused := clearQuarantine_refused hcleared w now
    have htold : s.Told (.clearQuarantine w identity epoch now) :=
      told_of_quiet rfl rfl hrefused.store hrefused.logged
    refine ⟨fun _ hepoch d hd => ?_, fun _ => htold⟩
    by_contra hq
    exact hcleared ⟨hepoch, d, hd, by simpa using hq⟩

/-! ## Ingest, all in all -/

section Live

variable {s : FleetStateStore} {worker : WorkerId} {obs : List DeviceObservation}
  {wr : WorkerRecord} {key : ByteString} (policy : ObservationPolicy) (now : Timestamp)

/-- A device that the ingest does not take for gone goes through the course of
its observations. -/
theorem ingest_course (hwr : s.workers[worker]? = some wr) (hlost : wr.lost = false)
    (hfenced : wr.fenced = false)
    (hkept : s.devices[key]? = none ∨ ¬s.TakenForGone worker obs wr key) :
    (s.step (.ingestSnapshot worker obs policy now)).deviceAt key
        = course policy now s.epoch (s.deviceAt key)
          (brought obs (verdicts s.epoch worker wr.boot s.stampOf obs) key) ∧
      recordsFor key (s.ingestStory worker obs policy now)
        = courseRecords policy now s.epoch (s.deviceAt key)
          (brought obs (verdicts s.epoch worker wr.boot s.stampOf obs) key) := by
  have hloop := ingestLoop_course worker wr.boot policy now key obs { store := s }
  have hok := ingestLoop_ok_iff worker wr.boot policy now obs { store := s }
  have hseen := mem_ingestLoop_seenKeys worker wr.boot policy now obs { store := s } key
  have hmissed := fun h : ¬Brings obs (verdicts s.epoch worker wr.boot s.stampOf obs) key =>
    ingestLoop_missed policy now hwr h
  rw [step, exec, Outcome.void, ingestSnapshot_live hwr hlost hfenced,
    ingestStory_live hwr hlost hfenced]
  generalize ingestLoop worker wr.boot policy now obs { store := s } = out
    at hloop hok hseen hmissed
  obtain ⟨st, res⟩ := out
  cases res with
  | error err => exact hloop
  | ok _ =>
    -- The disappearance loop does not come to the device, or does not find it.
    have hgone : key ∉ goneKeys st worker ∨ st.store.devices[key]? = none := by
      by_cases hbrings : Brings obs (verdicts s.epoch worker wr.boot s.stampOf obs) key
      · refine Or.inl fun hmem => ?_
        rw [goneKeys, List.mem_filter] at hmem
        have hnot := of_decide_eq_true hmem.2
        exact hnot (hseen.mpr (Or.inr hbrings))
      · obtain ⟨hsame, hlisted⟩ := hmissed hbrings
        rcases hkept with hnone | hkept
        · exact Or.inr (hsame.trans hnone)
        · refine Or.inl fun hmem => hkept ?_
          exact ⟨hwr, hlost, hfenced, hok.mp rfl, hlisted.mp hmem, hbrings⟩
    have hdevice : (finishIngest st worker now).store.deviceAt key = st.store.deviceAt key := by
      rw [deviceAt, finishIngest_devices, deviceAt]
      rcases hgone with hgone | hgone
      · rw [if_neg hgone]
      · rw [hgone]
        split <;> rfl
    refine ⟨hdevice.trans hloop.1, ?_⟩
    simp only [recordsFor_append, recordsFor_goneStory_of_not_mem hgone, List.append_nil]
    exact hloop.2

/-- The records about a device that the ingest takes for gone: one for each
time that the record of the worker lists it. -/
theorem recordsFor_gone (h : s.TakenForGone worker obs wr key) {d : DeviceState}
    (hd : s.devices[key]? = some d) :
    ∃ n, recordsFor key (s.ingestStory worker obs policy now)
      = List.replicate (n + 1) (disappearedRecord d s.epoch now) := by
  have hloop := ingestLoop_course worker wr.boot policy now key obs { store := s }
  have hok := ingestLoop_ok_iff worker wr.boot policy now obs { store := s }
  have hepoch := ingestLoop_epoch worker wr.boot policy now obs { store := s }
  obtain ⟨hsame, hlisted⟩ := ingestLoop_missed policy now h.record h.missed
  rw [ingestStory_live h.record h.lost h.fenced]
  generalize ingestLoop worker wr.boot policy now obs { store := s } = out
    at hloop hok hepoch hsame hlisted
  obtain ⟨st, res⟩ := out
  obtain rfl : res = .ok () := hok.mpr h.accepted
  have hnone : recordsFor key (applicationStory st.applied) = [] := by
    rw [hloop.2, brought_eq_nil_iff.mpr h.missed]
    rfl
  have hcount := List.count_pos_iff.mpr (hlisted.mpr h.listed)
  refine ⟨(goneKeys st worker).count key - 1, ?_⟩
  simp only [recordsFor_append, hnone, List.nil_append, recordsFor_goneStory (hsame.trans hd)]
  rw [show st.store.epoch = s.epoch from hepoch, Nat.sub_add_cancel hcount]

/-- A device that the ingest takes for gone is not told: its records are about
the presence alone. -/
theorem not_told_of_gone (h : s.TakenForGone worker obs wr key) {d : DeviceState}
    (hd : s.devices[key]? = some d) (haccounted : Accounted d) :
    ¬s.Told (.ingestSnapshot worker obs policy now) := by
  intro htold
  have hafter : (s.step (.ingestSnapshot worker obs policy now)).deviceAt key
      = disappearDevice d := by
    apply deviceAt_of_some
    rw [step, exec, Outcome.void, ingestSnapshot_gone h, hd, Option.map_some]
  obtain ⟨n, hrecords⟩ := recordsFor_gone policy now h hd
  have htells := htold key
  rw [deviceAt_of_some hd, hafter, story, hrecords] at htells
  have hsilent : ∀ a, a ≠ Axis.presence →
      a.recordsOf (List.replicate (n + 1) (disappearedRecord d s.epoch now)) = [] := by
    intro a ha
    rw [Axis.recordsOf, List.filter_eq_nil_iff]
    intro r hr hkind
    rw [List.eq_of_mem_replicate hr] at hkind
    exact ha (Option.some.inj (of_decide_eq_true hkind).symm)
  have hhealth : d.health = .lost := by
    by_contra hdiffer
    refine not_tells_of_untold (a := .health) ?_ (hsilent _ (by decide)) htells
    exact hdiffer
  have helig : d.eligibility = .ineligible := by
    by_contra hdiffer
    refine not_tells_of_untold (a := .eligibility) ?_ (hsilent _ (by decide)) htells
    exact hdiffer
  have hpresent : d.present = true := by
    rcases htells .presence with ⟨_, hnone⟩ | ⟨hdiffer, _⟩
    · rw [Axis.recordsOf, List.filter_eq_nil_iff] at hnone
      have hkind := hnone (disappearedRecord d s.epoch now) (by simp)
      exact absurd rfl hkind
    · exact Bool.of_not_eq_false hdiffer
  exact (haccounted.lost hpresent hhealth).2 helig

end Live

theorem told_ingestSnapshot_iff {s : FleetStateStore} (h : s.DevicesAccounted)
    (worker : WorkerId) (obs : List DeviceObservation) (policy : ObservationPolicy)
    (now : Timestamp) :
    s.Told (.ingestSnapshot worker obs policy now) ↔
      s.Recorded (.ingestSnapshot worker obs policy now) := by
  rcases ingest_live_or_refused s worker with hdead | ⟨wr, hwr, hlost, hfenced⟩
  · have hstore := (ingestSnapshot_refused obs policy now hdead).store
    have htold : s.Told (.ingestSnapshot worker obs policy now) := by
      apply told_of_same
      · exact ingestStory_dead hdead
      · rw [step, exec, Outcome.void, hstore]
    refine ⟨fun _ wr hwr hlost hfenced => ?_, fun _ => htold⟩
    rcases hdead wr hwr with hflag | hflag
    · cases hlost.symm.trans hflag
    · cases hfenced.symm.trans hflag
  constructor
  · intro htold wr' hwr' hlost' hfenced'
    have hkept : ∀ key d, s.devices[key]? = some d → ¬s.TakenForGone worker obs wr' key := by
      intro key d hd hgone
      exact not_told_of_gone policy now hgone hd (h key d hd).1 htold
    refine ⟨fun key => ?_, hkept⟩
    have hnot : s.devices[key]? = none ∨ ¬s.TakenForGone worker obs wr' key := by
      cases hd : s.devices[key]? with
      | none => exact Or.inl rfl
      | some d => exact Or.inr (hkept key d hd)
    obtain ⟨hafter, hrecords⟩ := ingest_course policy now hwr' hlost' hfenced' hnot
    have htells := htold key
    rw [hafter, story, hrecords] at htells
    exact (tells_course_iff _ _).mp htells
  · intro hrecorded key
    obtain ⟨hturns, hkept⟩ := hrecorded wr hwr hlost hfenced
    have hnot : s.devices[key]? = none ∨ ¬s.TakenForGone worker obs wr key := by
      cases hd : s.devices[key]? with
      | none => exact Or.inl rfl
      | some d => exact Or.inr (hkept key d hd)
    obtain ⟨hafter, hrecords⟩ := ingest_course policy now hwr hlost hfenced hnot
    rw [hafter, story, hrecords]
    exact (tells_course_iff _ _).mpr (hturns key)

/-! ## All of them -/

theorem told_iff_recorded {s : FleetStateStore} (h : s.DevicesAccounted) {op : Op}
    (hrestore : ¬op.IsRestore) : s.Told op ↔ s.Recorded op := by
  cases op with
  | rollEpoch ne =>
    refine ⟨fun _ => trivial, fun _ => told_of_same rfl ?_⟩
    rcases s.rollEpoch_cases ne with ⟨_, hdone⟩ | ⟨_, hdone⟩
    · rw [step, exec, hdone.store]
    · rw [step, exec, hdone.store]
  | registerWorker reg now =>
    refine ⟨fun _ => trivial, fun _ => told_of_same rfl ?_⟩
    exact s.registerWorker_devices reg now
  | restore snap => exact absurd trivial hrestore
  | markWorkerLost w now => exact s.told_markWorkerLost_iff w now
  | ingestSnapshot worker obs policy now => exact told_ingestSnapshot_iff h worker obs policy now
  | heartbeat worker boot epoch now hg =>
    refine ⟨fun _ => trivial, fun _ => told_of_same rfl ?_⟩
    rcases s.heartbeat_cases worker boot epoch now hg with ⟨hdone, _⟩ | ⟨_, _, _, _, hdone⟩
    · rw [step, exec, hdone.store]
    · rw [step, exec, hdone.store]
  | setDrain w identity level now => exact told_setDrain_iff h w identity level now
  | setQuarantine w identity q now => exact s.told_setQuarantine_iff w identity q now
  | clearQuarantine w identity epoch now =>
    exact told_clearQuarantine_iff h w identity epoch now

/-- In every reachable state and for every call but a recovery: the records of
the call, each filed under the device it was written for and carrying the id of
this device, are what the call appends to the change log, and they tell what
the call did to every device exactly when `Recorded` holds. -/
theorem change_log_tells_iff (coord : CoordinatorId) (epoch : CoordinatorEpoch)
    (ops : List Op) (op : Op) (hrestore : ¬op.IsRestore) :
    (((empty coord epoch).run ops).step op).changeLog
        = pushChanges ((empty coord epoch).run ops).changeLog
          ((((empty coord epoch).run ops).story op).map Prod.snd) ∧
      (∀ e ∈ ((empty coord epoch).run ops).story op,
        ((empty coord epoch).run ops).CarriesId op e) ∧
      (((empty coord epoch).run ops).Told op ↔ ((empty coord epoch).run ops).Recorded op) := by
  refine ⟨?_, carriesId_story _ op,
    told_iff_recorded (devicesAccounted_run coord epoch ops) hrestore⟩
  rw [map_snd_story]
  exact step_changeLog _ hrestore

set_option maxRecDepth 4000 in
/-- The first report of a device is told. -/
theorem first_report_told :
    (sampleStore.run [.registerWorker (sampleRegistration 1 10 1) 1000]).Told
      (.ingestSnapshot ⟨1⟩ [sampleObservation 1 10 1] {} 5000) := by
  refine (change_log_tells_iff ⟨1⟩ ⟨1⟩ [.registerWorker (sampleRegistration 1 10 1) 1000]
    (.ingestSnapshot ⟨1⟩ [sampleObservation 1 10 1] {} 5000) fun h => h).2.2.mpr ?_
  intro wr _ _ _
  refine ⟨fun key a => ?_, fun key d hd => ?_⟩
  · exact (turns_le_length a _ _).trans (length_brought_le _ _ key)
  · have hnone : (∅ : Map ByteString DeviceState)[key]? = none := Std.ExtTreeMap.getElem?_empty
    cases hnone.symm.trans hd

set_option maxRecDepth 4000 in
/-- The loss of the worker takes its device away, and the log is silent. -/
theorem loss_not_told :
    ¬(sampleStore.run sampleReport).Told (.markWorkerLost ⟨1⟩ 6000) := by
  intro htold
  rcases htold sampleKey .presence with ⟨hsame, _⟩ | ⟨_, r, hr, _⟩
  · revert hsame
    decide
  · cases hr

end FleetStateStore

end GpuFleet
