import GpuFleet.Fleet.Commutation

/-!
# Batches with one observation for each key

When no two observations of a batch have the same key, no observation meets
what another one of the batch has put on file.  So the gates and the pipeline
may as well look at the store from before the ingest.  `Absorbed` is what the
loop does then, field by field, and the order of the batch shows only in the
lists that it extends.

`ingestLoop_absorbs` is the result about the loop.
-/

namespace GpuFleet

namespace FleetStateStore

/-- The observations that pass the gates of the store as it is. -/
def passing (s : FleetStateStore) (worker : WorkerId) (boot : WorkerBootId)
    (obs : List DeviceObservation) : List DeviceObservation :=
  obs.filter fun o => gate s.epoch worker boot (s.stampOf o.key) o = .pass

/-- The keys of the observations that are not on file. -/
def newKeys (s : FleetStateStore) (os : List DeviceObservation) : List ByteString :=
  (os.filter fun o => !s.devices.contains o.key).map DeviceObservation.key

/-- The records that the pipeline writes for the observations. -/
def changesOf (s : FleetStateStore) (policy : ObservationPolicy) (now : Timestamp)
    (os : List DeviceObservation) : List ChangeRecord :=
  os.flatMap fun o => (s.applyTo o policy now).changes

/-- The parts of a store that no ingest writes. -/
structure SameHeader (s t : FleetStateStore) : Prop where
  coord : t.coord = s.coord
  epoch : t.epoch = s.epoch
  fleetGen : t.fleetGen = s.fleetGen
  nodeGen : t.nodeGen = s.nodeGen
  nodes : t.nodes = s.nodes

theorem SameHeader.trans {s t u : FleetStateStore} (h : SameHeader s t) (h' : SameHeader t u) :
    SameHeader s u where
  coord := h'.coord.trans h.coord
  epoch := h'.epoch.trans h.epoch
  fleetGen := h'.fleetGen.trans h.fleetGen
  nodeGen := h'.nodeGen.trans h.nodeGen
  nodes := h'.nodes.trans h.nodes

theorem SameHeader.symm {s t : FleetStateStore} (h : SameHeader s t) : SameHeader t s where
  coord := h.coord.symm
  epoch := h.epoch.symm
  fleetGen := h.fleetGen.symm
  nodeGen := h.nodeGen.symm
  nodes := h.nodes.symm

/-- The loop has committed the observations, each of them to the store that it
started from. -/
structure Absorbed (worker : WorkerId) (policy : ObservationPolicy) (now : Timestamp)
    (os : List DeviceObservation) (st st' : IngestState) : Prop where
  header : SameHeader st.store st'.store
  brought : ∀ o ∈ os, st'.store.devices[o.key]? = some (st.store.applyTo o policy now).state
  kept : ∀ key, (∀ o ∈ os, o.key ≠ key) → st'.store.devices[key]? = st.store.devices[key]?
  changeLog : st'.store.changeLog
    = pushChanges st.store.changeLog (st.store.changesOf policy now os)
  accepted : st'.store.acceptedObservations
    = st.store.acceptedObservations + UInt64.ofNat os.length
  record : st'.store.workers[worker]? = st.store.workers[worker]?.map fun wr =>
    { wr with deviceIdentities := wr.deviceIdentities ++ st.store.newKeys os }
  others : ∀ w ≠ worker, st'.store.workers[w]? = st.store.workers[w]?
  seen : ∀ key, key ∈ st'.seenKeys ↔ key ∈ st.seenKeys ∨ ∃ o ∈ os, o.key = key

/-! ## One commit -/

section Commit

variable {worker : WorkerId} {boot : WorkerBootId} {policy : ObservationPolicy}
  {now : Timestamp} {st st' : IngestState} {o : DeviceObservation} {os : List DeviceObservation}

/-- A commit does not change what the loop reads for another key. -/
theorem applyTo_commit_of_ne {o' : DeviceObservation} (h : o.key ≠ o'.key) :
    (st.commit worker o policy now).store.applyTo o' policy now
      = st.store.applyTo o' policy now := by
  unfold applyTo
  rw [IngestState.commit, commit_devices, if_neg h]
  rfl

theorem gate_commit_of_ne {o' : DeviceObservation} (h : o.key ≠ o'.key) :
    gate (st.commit worker o policy now).store.epoch worker boot
        ((st.commit worker o policy now).store.stampOf o'.key) o'
      = gate st.store.epoch worker boot (st.store.stampOf o'.key) o' := by
  rw [epoch_commit, stampOf_commit]
  simp only [if_neg h]

theorem contains_commit_of_ne {key : ByteString} (h : o.key ≠ key) :
    (st.commit worker o policy now).store.devices.contains key
      = st.store.devices.contains key := by
  have hlookup : (st.commit worker o policy now).store.devices[key]? = st.store.devices[key]? := by
    rw [IngestState.commit, commit_devices, if_neg h]
  rw [Std.ExtTreeMap.contains_eq_isSome_getElem?, Std.ExtTreeMap.contains_eq_isSome_getElem?,
    hlookup]

theorem passing_commit (h : ∀ o' ∈ os, o.key ≠ o'.key) :
    (st.commit worker o policy now).store.passing worker boot os
      = st.store.passing worker boot os := by
  apply List.filter_congr
  intro o' ho'
  rw [gate_commit_of_ne (h o' ho')]

theorem changesOf_commit (h : ∀ o' ∈ os, o.key ≠ o'.key) :
    (st.commit worker o policy now).store.changesOf policy now os
      = st.store.changesOf policy now os := by
  apply List.flatMap_congr
  intro o' ho'
  rw [applyTo_commit_of_ne (h o' ho')]

theorem newKeys_commit (h : ∀ o' ∈ os, o.key ≠ o'.key) :
    (st.commit worker o policy now).store.newKeys os = st.store.newKeys os := by
  unfold newKeys
  congr 1
  apply List.filter_congr
  intro o' ho'
  rw [contains_commit_of_ne (h o' ho')]

theorem newKeys_cons (s : FleetStateStore) (o : DeviceObservation) (os : List DeviceObservation) :
    s.newKeys (o :: os)
      = (if s.devices.contains o.key then [] else [o.key]) ++ s.newKeys os := by
  cases hknown : s.devices.contains o.key with
  | true => simp [newKeys, hknown]
  | false => simp [newKeys, hknown]

/-! ## The loop -/

theorem key_ne_of_not_mem {key : ByteString} (h : key ∉ os.map DeviceObservation.key) :
    ∀ o' ∈ os, key ≠ o'.key := by
  intro o' ho' heq
  apply h
  rw [heq]
  exact List.mem_map_of_mem ho'

theorem Absorbed.nil (st : IngestState) : Absorbed worker policy now [] st st where
  header := ⟨rfl, rfl, rfl, rfl, rfl⟩
  brought := fun o ho => by cases ho
  kept := fun _ _ => rfl
  changeLog := rfl
  accepted := by simp
  record := by simp [newKeys]
  others := fun _ _ => rfl
  seen := by simp

/-- The observations after a commit find the store as it was before, as far as
they look at it. -/
theorem Absorbed.cons (hkeys : ∀ o' ∈ os, o.key ≠ o'.key)
    (h : Absorbed worker policy now os (st.commit worker o policy now) st') :
    Absorbed worker policy now (o :: os) st st' where
  header := by
    have hcommit : SameHeader st.store (st.commit worker o policy now).store :=
      ⟨rfl, rfl, rfl, rfl, rfl⟩
    exact hcommit.trans h.header
  brought := by
    intro o' ho'
    rcases List.mem_cons.mp ho' with rfl | ho'
    · rw [h.kept o'.key fun o'' ho'' => (hkeys o'' ho'').symm, IngestState.commit, commit_devices,
        if_pos rfl]
    · rw [h.brought o' ho', applyTo_commit_of_ne (hkeys o' ho')]
  kept := by
    intro key hkey
    rw [h.kept key fun o' ho' => hkey o' (List.mem_cons_of_mem o ho'), IngestState.commit,
      commit_devices, if_neg (hkey o List.mem_cons_self)]
  changeLog := by
    have hchanges : st.store.changesOf policy now (o :: os)
        = (st.store.applyTo o policy now).changes ++ st.store.changesOf policy now os :=
      List.flatMap_cons
    rw [h.changeLog, changesOf_commit hkeys, hchanges, pushChanges_append]
    rfl
  accepted := by
    rw [h.accepted, List.length_cons, UInt64.ofNat_add]
    simp only [IngestState.commit, FleetStateStore.commit]
    ac_rfl
  record := by
    rw [h.record, newKeys_commit hkeys, newKeys_cons, IngestState.commit, commit_record,
      Option.map_map]
    simp only [Function.comp_def, List.append_assoc]
  others := by
    intro w hw
    rw [h.others w hw]
    exact commit_others st.store o policy now hw
  seen := by
    intro key
    rw [h.seen, IngestState.commit, List.mem_cons, eq_comm]
    simp only [List.mem_cons, exists_eq_or_imp]
    exact or_assoc.trans or_left_comm

/-- The gates refuse none of the observations, each looked at by itself. -/
def Unrefused (s : FleetStateStore) (worker : WorkerId) (boot : WorkerBootId)
    (obs : List DeviceObservation) : Prop :=
  ∀ o ∈ obs, ∀ err, gate s.epoch worker boot (s.stampOf o.key) o ≠ .refuse err

theorem unrefused_commit (h : ∀ o' ∈ os, o.key ≠ o'.key) :
    (st.commit worker o policy now).store.Unrefused worker boot os ↔
      st.store.Unrefused worker boot os := by
  apply forall₂_congr
  intro o' ho'
  rw [gate_commit_of_ne (h o' ho')]

/-- The loop gets through a batch of different keys exactly when no observation
of it is refused by itself. -/
theorem ingestLoop_ok_iff_unrefused {obs : List DeviceObservation} (st : IngestState)
    (hkeys : (obs.map DeviceObservation.key).Nodup) :
    (ingestLoop worker boot policy now obs st).2 = .ok () ↔
      st.store.Unrefused worker boot obs := by
  induction obs generalizing st with
  | nil => exact iff_of_true rfl fun o ho => by cases ho
  | cons o obs ih =>
    obtain ⟨hfirst, hrest⟩ := List.nodup_cons.mp hkeys
    have hne : ∀ o' ∈ obs, o.key ≠ o'.key := key_ne_of_not_mem hfirst
    have hcons : st.store.Unrefused worker boot (o :: obs) ↔
        (∀ err, gate st.store.epoch worker boot (st.store.stampOf o.key) o ≠ .refuse err) ∧
          st.store.Unrefused worker boot obs := List.forall_mem_cons
    rw [hcons, ingestLoop]
    cases hgate : gate st.store.epoch worker boot (st.store.stampOf o.key) o with
    | refuse err => exact iff_of_false (fun h => by cases h) fun h => h.1 err rfl
    | skip =>
      have hnot : ∀ err, Verdict.skip ≠ .refuse err := fun err h => by cases h
      rw [and_iff_right hnot]
      exact ih st hrest
    | pass =>
      have hnot : ∀ err, Verdict.pass ≠ .refuse err := fun err h => by cases h
      rw [and_iff_right hnot, ← unrefused_commit hne]
      exact ih _ hrest

/-- What the loop does to such a batch. -/
theorem ingestLoop_absorbs {obs : List DeviceObservation} (st : IngestState)
    (hkeys : (obs.map DeviceObservation.key).Nodup) (h : st.store.Unrefused worker boot obs) :
    Absorbed worker policy now (st.store.passing worker boot obs) st
      (ingestLoop worker boot policy now obs st).1 := by
  induction obs generalizing st with
  | nil => exact .nil st
  | cons o obs ih =>
    obtain ⟨hfirst, hrest⟩ := List.nodup_cons.mp hkeys
    have hne : ∀ o' ∈ obs, o.key ≠ o'.key := key_ne_of_not_mem hfirst
    obtain ⟨hnot, hunrefused⟩ := List.forall_mem_cons.mp h
    rw [ingestLoop]
    cases hgate : gate st.store.epoch worker boot (st.store.stampOf o.key) o with
    | refuse err => exact absurd hgate (hnot err)
    | skip =>
      have hpassing : st.store.passing worker boot (o :: obs)
          = st.store.passing worker boot obs := by
        rw [passing, List.filter_cons_of_neg (by simp [hgate])]
        rfl
      rw [hpassing]
      exact ih st hrest hunrefused
    | pass =>
      have hpassing : st.store.passing worker boot (o :: obs)
          = o :: st.store.passing worker boot obs := by
        rw [passing, List.filter_cons_of_pos (by simp [hgate])]
        rfl
      have hcommitted := ih (st.commit worker o policy now) hrest
        ((unrefused_commit hne).mpr hunrefused)
      rw [passing_commit hne] at hcommitted
      rw [hpassing]
      exact .cons (fun o' ho' => hne o' (List.mem_of_mem_filter ho')) hcommitted

end Commit

/-! ## The whole ingest -/

section Ingest

variable {s s' : FleetStateStore} {worker : WorkerId} {wr : WorkerRecord}
  {policy : ObservationPolicy} {now : Timestamp} {os obs : List DeviceObservation}

/-- The keys on the record of the worker that no observation has. -/
def missingKeys (wr : WorkerRecord) (os : List DeviceObservation) : List ByteString :=
  wr.deviceIdentities.filter fun key => key ∉ os.map DeviceObservation.key

/-- The store after an ingest that committed the observations, in terms of the
store from before. -/
structure Ingested (worker : WorkerId) (wr : WorkerRecord) (policy : ObservationPolicy)
    (now : Timestamp) (os : List DeviceObservation) (s s' : FleetStateStore) : Prop where
  header : SameHeader s s'
  brought : ∀ o ∈ os, s'.devices[o.key]? = some (s.applyTo o policy now).state
  kept : ∀ key ∉ os.map DeviceObservation.key, s'.devices[key]?
    = if key ∈ wr.deviceIdentities then s.devices[key]?.map disappearDevice else s.devices[key]?
  changeLog : s'.changeLog = pushChanges s.changeLog
    (s.changesOf policy now os ++ s.goneRecords (missingKeys wr os) now)
  accepted : s'.acceptedObservations = s.acceptedObservations + UInt64.ofNat os.length
  record : s'.workers[worker]? = some { wr with
    deviceIdentities := wr.deviceIdentities ++ s.newKeys os
    lastHeartbeat := now
    alive := true }
  others : ∀ w ≠ worker, s'.workers[w]? = s.workers[w]?

theorem mem_newKeys {key : ByteString} (h : key ∈ s.newKeys os) :
    key ∈ os.map DeviceObservation.key := by
  obtain ⟨o, ho, rfl⟩ := List.mem_map.mp h
  exact List.mem_map_of_mem (List.mem_of_mem_filter ho)

/-- The disappearance loop goes through the keys of the record that no
observation had. -/
theorem Absorbed.goneKeys {st : IngestState}
    (h : Absorbed worker policy now os { store := s } st) (hwr : s.workers[worker]? = some wr) :
    goneKeys st worker = missingKeys wr os := by
  have hseen : ∀ key, key ∈ st.seenKeys ↔ key ∈ os.map DeviceObservation.key := by
    intro key
    rw [h.seen, List.mem_map]
    exact or_iff_right (List.not_mem_nil)
  have hnew : (s.newKeys os).filter (fun key => key ∉ os.map DeviceObservation.key) = [] := by
    apply List.filter_eq_nil_iff.mpr
    intro key hkey
    simp only [mem_newKeys hkey, not_true_eq_false, decide_false, Bool.false_eq_true,
      not_false_eq_true]
  rw [FleetStateStore.goneKeys, h.record, hwr, Option.map_some, Option.map_some, Option.getD_some]
  simp only [hseen]
  rw [List.filter_append, hnew, List.append_nil]
  rfl

/-- A device that no observation brought has the record from before. -/
theorem Absorbed.goneRecords {st : IngestState}
    (h : Absorbed worker policy now os { store := s } st) :
    st.store.goneRecords (missingKeys wr os) now = s.goneRecords (missingKeys wr os) now := by
  apply List.filterMap_congr
  intro key hkey
  have hnot : ∀ o ∈ os, o.key ≠ key := by
    have hmissing := (List.mem_filter.mp hkey).2
    simpa using hmissing
  have hdevice : st.store.devices[key]? = s.devices[key]? := h.kept key hnot
  have hepoch : st.store.epoch = s.epoch := h.header.epoch
  rw [hdevice, hepoch]

theorem Absorbed.finish {st : IngestState}
    (h : Absorbed worker policy now os { store := s } st) (hwr : s.workers[worker]? = some wr) :
    Ingested worker wr policy now os s (finishIngest st worker now).store := by
  have hgone := h.goneKeys hwr
  have hstore : (finishIngest st worker now).store
      = (st.store.markGone (missingKeys wr os) now).touchWorker worker now := by
    rw [finishIngest_eq, hgone]
  have hdevices := finishIngest_devices st worker now
  rw [hgone] at hdevices
  refine ⟨?_, ?_, ?_, ?_, ?_, ?_, ?_⟩
  · rw [hstore]
    exact h.header.trans ⟨rfl, rfl, rfl, rfl, rfl⟩
  · intro o ho
    have hbrought : o.key ∉ missingKeys wr os := by
      intro hmem
      have hmissing := (List.mem_filter.mp hmem).2
      simp only [decide_eq_true_eq] at hmissing
      exact hmissing (List.mem_map_of_mem ho)
    rw [hdevices, if_neg hbrought]
    exact h.brought o ho
  · intro key hkey
    have hkept : st.store.devices[key]? = s.devices[key]? := by
      apply h.kept
      intro o ho
      exact (key_ne_of_not_mem hkey o ho).symm
    have hmissing : key ∈ missingKeys wr os ↔ key ∈ wr.deviceIdentities := by
      rw [missingKeys, List.mem_filter]
      exact and_iff_left (by simpa using hkey)
    rw [hdevices, hkept]
    simp only [hmissing]
  · rw [hstore]
    show pushChanges st.store.changeLog (st.store.goneRecords (missingKeys wr os) now) = _
    rw [h.changeLog, h.goneRecords, ← pushChanges_append]
  · rw [hstore]
    exact h.accepted
  · rw [finishIngest_workers, OrderedMap.getElem?_modify_same, h.record]
    simp only [hwr, Option.map_some]
  · intro w hw
    rw [finishIngest_workers, OrderedMap.getElem?_modify, if_neg hw.symm]
    exact h.others w hw

/-- The ingest of a live worker accepts a batch of different keys exactly when
no observation of it is refused by itself. -/
theorem ingestSnapshot_accepts_iff (hwr : s.workers[worker]? = some wr) (hlost : wr.lost = false)
    (hfenced : wr.fenced = false) (hkeys : (obs.map DeviceObservation.key).Nodup) :
    ¬(s.ingestSnapshot worker obs policy now).Failed ↔ s.Unrefused worker wr.boot obs := by
  have hok : (ingestLoop worker wr.boot policy now obs { store := s }).2 = .ok () ↔
      s.Unrefused worker wr.boot obs := ingestLoop_ok_iff_unrefused { store := s } hkeys
  rw [← hok]
  rcases ingestSnapshot_ends hwr hlost hfenced with ⟨err, hfails, hingest⟩ | ⟨hends, hingest⟩
  · rw [hingest]
    exact iff_of_false (not_not.mpr Outcome.failed_error) fun h => by cases hfails.symm.trans h
  · rw [hingest]
    exact iff_of_true Outcome.not_failed_ok hends

theorem ingestSnapshot_ingested (hwr : s.workers[worker]? = some wr) (hlost : wr.lost = false)
    (hfenced : wr.fenced = false) (hkeys : (obs.map DeviceObservation.key).Nodup)
    (h : s.Unrefused worker wr.boot obs) :
    Ingested worker wr policy now (s.passing worker wr.boot obs) s
      (s.ingestSnapshot worker obs policy now).store := by
  have hok : (ingestLoop worker wr.boot policy now obs { store := s }).2 = .ok () :=
    (ingestLoop_ok_iff_unrefused { store := s } hkeys).mpr h
  have habsorbed : Absorbed worker policy now (s.passing worker wr.boot obs) { store := s }
      (ingestLoop worker wr.boot policy now obs { store := s }).1 :=
    ingestLoop_absorbs { store := s } hkeys h
  rcases ingestSnapshot_ends hwr hlost hfenced with ⟨err, hfails, -⟩ | ⟨-, hingest⟩
  · cases hfails.symm.trans hok
  · rw [hingest]
    exact habsorbed.finish hwr

end Ingest

end FleetStateStore

end GpuFleet
