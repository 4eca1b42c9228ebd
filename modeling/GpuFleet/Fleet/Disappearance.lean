import GpuFleet.Fleet.Ingest

/-!
# The disappearance loop, and ingests that do nothing

After the loop over the observations, `ingest_snapshot` goes through the
devices that the record of the worker lists and takes those that the batch
did not bring for gone.  `disappear_foldl` is that loop in closed form: one
`modify` for each key and one record for each device that is on file.

`TakenForGone` is the condition for one device, in terms of the gates alone:
`ingestSnapshot_gone` and `ingestSnapshot_kept` say what becomes of a device
that the ingest applies nothing to, and `ingestSnapshot_brought` says it of
the others.

`ingestSnapshot_eq_self_iff` then says when the ingest of a live worker
leaves the store exactly as it was.
-/

namespace GpuFleet

namespace FleetStateStore

/-! ## The loop in closed form -/

/-- The records of the devices that are on file under the given keys. -/
def goneRecords (s : FleetStateStore) (keys : List ByteString) (now : Timestamp) :
    List ChangeRecord :=
  keys.filterMap fun key => s.devices[key]?.map fun d => disappearedRecord d s.epoch now

/-- The store after the given devices are taken for gone. -/
def markGone (s : FleetStateStore) (keys : List ByteString) (now : Timestamp) :
    FleetStateStore :=
  { s with
    devices := keys.foldl (fun m key => m.modify key disappearDevice) s.devices
    changeLog := pushChanges s.changeLog (s.goneRecords keys now) }

theorem disappearDevice_idem (d : DeviceState) :
    disappearDevice (disappearDevice d) = disappearDevice d := rfl

/-- The record of a device reads what the loop does not write. -/
theorem goneRecords_markDisappeared {s : FleetStateStore} {key : ByteString} {d : DeviceState}
    (hd : s.devices[key]? = some d) (keys : List ByteString) (now : Timestamp) :
    (s.markDisappeared key d now).goneRecords keys now = s.goneRecords keys now := by
  unfold goneRecords
  apply List.filterMap_congr
  intro a _
  rw [markDisappeared_devices, markDisappeared_epoch]
  by_cases ha : key = a
  · subst ha
    rw [if_pos rfl, hd]
    rfl
  · rw [if_neg ha]

/-- A key that is not on file costs nothing. -/
theorem markGone_cons_of_none {s : FleetStateStore} {key : ByteString}
    (hd : s.devices[key]? = none) (keys : List ByteString) (now : Timestamp) :
    s.markGone (key :: keys) now = s.markGone keys now := by
  have hmodify : s.devices.modify key disappearDevice = s.devices := by
    apply OrderedMap.modify_eq_self
    intro d hd'
    rw [hd] at hd'
    cases hd'
  have hrecords : s.goneRecords (key :: keys) now = s.goneRecords keys now := by
    simp [goneRecords, hd]
  rw [markGone, markGone, List.foldl_cons, hmodify, hrecords]

theorem goneRecords_cons {s : FleetStateStore} {key : ByteString} {d : DeviceState}
    (hd : s.devices[key]? = some d) (keys : List ByteString) (now : Timestamp) :
    s.goneRecords (key :: keys) now = disappearedRecord d s.epoch now :: s.goneRecords keys now := by
  simp [goneRecords, hd]

/-- A key that is on file is marked first. -/
theorem markGone_cons_of_some {s : FleetStateStore} {key : ByteString} {d : DeviceState}
    (hd : s.devices[key]? = some d) (keys : List ByteString) (now : Timestamp) :
    s.markGone (key :: keys) now = (s.markDisappeared key d now).markGone keys now := by
  have hdevices : (s.markDisappeared key d now).devices
      = s.devices.modify key disappearDevice := OrderedMap.insert_eq_modify hd disappearDevice
  rw [markGone, markGone, hdevices, goneRecords_markDisappeared hd, goneRecords_cons hd]
  rfl

/-- The disappearance loop in closed form. -/
theorem disappear_foldl (seen : List ByteString) (now : Timestamp) (keys : List ByteString)
    (st : IngestState) :
    keys.foldl (disappear seen now) st =
      { st with
        store := st.store.markGone (keys.filter fun key => key ∉ seen) now
        logged := st.logged
          ++ st.store.goneRecords (keys.filter fun key => key ∉ seen) now } := by
  induction keys generalizing st with
  | nil => simp [markGone, goneRecords, pushChanges]
  | cons key rest ih =>
    rw [List.foldl_cons, ih]
    by_cases hseen : key ∈ seen
    · have hsame : disappear seen now st key = st := by
        rw [disappear, if_pos hseen]
      have hfilter : (key :: rest).filter (fun key => key ∉ seen)
          = rest.filter fun key => key ∉ seen := by
        simp [hseen]
      rw [hsame, hfilter]
    · have hfilter : (key :: rest).filter (fun key => key ∉ seen)
          = key :: rest.filter fun key => key ∉ seen := by
        simp [hseen]
      rw [hfilter]
      cases hd : st.store.devices[key]? with
      | none =>
        have hsame : disappear seen now st key = st := by
          rw [disappear, if_neg hseen, hd]
        have hrecords : ∀ keys, st.store.goneRecords (key :: keys) now
            = st.store.goneRecords keys now := by
          intro keys
          simp [goneRecords, hd]
        rw [hsame, markGone_cons_of_none hd, hrecords]
      | some d =>
        have hmarked : disappear seen now st key =
            { st with
              store := st.store.markDisappeared key d now
              logged := st.logged ++ [disappearedRecord d st.store.epoch now] } := by
          rw [disappear, if_neg hseen, hd]
        rw [hmarked, markGone_cons_of_some hd, goneRecords_cons hd]
        simp only [goneRecords_markDisappeared hd, List.append_assoc, List.singleton_append]

/-- The keys that the disappearance loop goes through for a worker. -/
def goneKeys (st : IngestState) (worker : WorkerId) : List ByteString :=
  ((st.store.workers[worker]?.map WorkerRecord.deviceIdentities).getD []).filter
    fun key => key ∉ st.seenKeys

/-- The end of an ingest in closed form. -/
theorem finishIngest_eq (st : IngestState) (worker : WorkerId) (now : Timestamp) :
    finishIngest st worker now =
      { store := (st.store.markGone (goneKeys st worker) now).touchWorker worker now
        result := .ok st.last
        logged := st.logged ++ st.store.goneRecords (goneKeys st worker) now
        applied := st.applied } := by
  unfold finishIngest goneKeys
  simp only [disappear_foldl]

@[simp] theorem goneKeys_start {s : FleetStateStore} {worker : WorkerId} {wr : WorkerRecord}
    (hwr : s.workers[worker]? = some wr) :
    goneKeys { store := s } worker = wr.deviceIdentities := by
  simp [goneKeys, hwr]

theorem goneRecords_eq_nil_iff (s : FleetStateStore) (keys : List ByteString)
    (now : Timestamp) :
    s.goneRecords keys now = [] ↔ ∀ key ∈ keys, s.devices[key]? = none := by
  simp [goneRecords]

/-- The end of an ingest keeps what the gates read. -/
theorem finishIngest_stampOf (st : IngestState) (worker : WorkerId) (now : Timestamp)
    (key : ByteString) :
    (finishIngest st worker now).store.stampOf key = st.store.stampOf key := by
  unfold finishIngest
  apply disappear_invariant (P := fun t => t.store.stampOf key = st.store.stampOf key) _ rfl
  intro t gone d hsame _ _ hd
  rw [← hsame]
  exact t.store.markDisappeared_stampOf now hd key

/-! ## One device -/

section Device

variable {s : FleetStateStore} {worker : WorkerId} {wr : WorkerRecord}
  {obs : List DeviceObservation} {policy : ObservationPolicy} {now : Timestamp}
  {key : ByteString}

/-- The ingest of a live worker takes the device for gone: no observation of
the batch is refused, the record of the worker lists the device, and no
observation of it passes. -/
structure TakenForGone (s : FleetStateStore) (worker : WorkerId)
    (obs : List DeviceObservation) (wr : WorkerRecord) (key : ByteString) : Prop where
  record : s.workers[worker]? = some wr
  lost : wr.lost = false
  fenced : wr.fenced = false
  accepted : ¬Refuses (verdicts s.epoch worker wr.boot s.stampOf obs)
  listed : key ∈ wr.deviceIdentities
  missed : ¬Brings obs (verdicts s.epoch worker wr.boot s.stampOf obs) key

/-- The state of the loop at a device that the gates let no observation of
pass. -/
theorem ingestLoop_missed (policy : ObservationPolicy) (now : Timestamp)
    (hwr : s.workers[worker]? = some wr)
    (hkey : ¬Brings obs (verdicts s.epoch worker wr.boot s.stampOf obs) key) :
    (ingestLoop worker wr.boot policy now obs { store := s }).1.store.devices[key]?
        = s.devices[key]? ∧
      (key ∈ goneKeys (ingestLoop worker wr.boot policy now obs { store := s }).1 worker ↔
        key ∈ wr.deviceIdentities) := by
  have hseen : key ∉ (ingestLoop worker wr.boot policy now obs { store := s }).1.seenKeys := by
    intro hmem
    rcases (mem_ingestLoop_seenKeys worker wr.boot policy now obs { store := s } key).mp hmem
      with h | h
    · cases h
    · exact hkey h
  obtain ⟨wr', hwr', hlisted⟩ := ingestLoop_listed hwr wr.boot policy now obs
  refine ⟨ingestLoop_devices_of_not_seen hseen, ?_⟩
  rw [goneKeys, hwr', Option.map_some, Option.getD_some, List.mem_filter, hlisted key hseen]
  simp [hseen]

theorem finishIngest_devices (st : IngestState) (worker : WorkerId) (now : Timestamp)
    (key : ByteString) :
    (finishIngest st worker now).store.devices[key]?
      = if key ∈ goneKeys st worker then st.store.devices[key]?.map disappearDevice
        else st.store.devices[key]? := by
  have hfold := OrderedMap.getElem?_foldl_modify (m := st.store.devices) disappearDevice
    disappearDevice_idem (goneKeys st worker) key
  rw [finishIngest_eq]
  by_cases hmem : key ∈ goneKeys st worker
  · rw [if_pos hmem] at hfold ⊢
    exact hfold
  · rw [if_neg hmem] at hfold ⊢
    exact hfold

theorem ingestSnapshot_gone (h : s.TakenForGone worker obs wr key) :
    (s.ingestSnapshot worker obs policy now).store.devices[key]?
      = s.devices[key]?.map disappearDevice := by
  obtain ⟨hsame, hgone⟩ := ingestLoop_missed policy now h.record h.missed
  have hok := (ingestLoop_ok_iff worker wr.boot policy now obs { store := s }).mpr h.accepted
  rcases ingestSnapshot_ends h.record h.lost h.fenced with ⟨err, hfails, -⟩ | ⟨-, hingest⟩
  · cases hfails.symm.trans hok
  · rw [hingest, finishIngest_devices, if_pos (hgone.mpr h.listed), hsame]

/-- An ingest keeps every other device that it applies nothing to. -/
theorem ingestSnapshot_kept (hwr : s.workers[worker]? = some wr)
    (hkey : ¬Brings obs (verdicts s.epoch worker wr.boot s.stampOf obs) key)
    (h : ¬s.TakenForGone worker obs wr key) :
    (s.ingestSnapshot worker obs policy now).store.devices[key]? = s.devices[key]? := by
  by_cases hdead : wr.lost = true ∨ wr.fenced = true
  · rw [ingestSnapshot_dead hwr hdead]
  rw [not_or, Bool.not_eq_true, Bool.not_eq_true] at hdead
  obtain ⟨hlost, hfenced⟩ := hdead
  obtain ⟨hsame, hgone⟩ := ingestLoop_missed policy now hwr hkey
  have hok := ingestLoop_ok_iff worker wr.boot policy now obs { store := s }
  rcases ingestSnapshot_ends hwr hlost hfenced with ⟨err, -, hingest⟩ | ⟨hends, hingest⟩
  · rw [hingest]
    exact hsame
  · have hnot : key ∉ goneKeys (ingestLoop worker wr.boot policy now obs { store := s }).1
        worker := by
      intro hmem
      exact h ⟨hwr, hlost, hfenced, hok.mp hends, hgone.mp hmem, hkey⟩
    rw [hingest, finishIngest_devices, if_neg hnot, hsame]

/-- An ingest leaves a device that it applies an observation to in a state
that the pipeline computed. -/
theorem ingestSnapshot_brought {Q : DeviceState → Prop} (policy : ObservationPolicy)
    (now : Timestamp) (hwr : s.workers[worker]? = some wr)
    (hlost : wr.lost = false) (hfenced : wr.fenced = false)
    (hkey : Brings obs (verdicts s.epoch worker wr.boot s.stampOf obs) key)
    (hQ : ∀ t o, o ∈ obs → o.key = key → Q (applyTo t o policy now).state) :
    ∃ d, (s.ingestSnapshot worker obs policy now).store.devices[key]? = some d ∧ Q d := by
  have hseen : key ∈ (ingestLoop worker wr.boot policy now obs { store := s }).1.seenKeys :=
    (mem_ingestLoop_seenKeys worker wr.boot policy now obs { store := s } key).mpr (Or.inr hkey)
  have hloop : key ∈ (ingestLoop worker wr.boot policy now obs { store := s }).1.seenKeys →
      ∃ d, (ingestLoop worker wr.boot policy now obs { store := s }).1.store.devices[key]?
        = some d ∧ Q d := by
    apply ingestLoop_invariant
      (P := fun st => key ∈ st.seenKeys → ∃ d, st.store.devices[key]? = some d ∧ Q d)
    · intro before o after st hobs _ _ hP hmem
      rw [IngestState.commit, commit_devices]
      by_cases ho : o.key = key
      · rw [if_pos ho]
        have hin : o ∈ obs := by
          rw [hobs]
          simp
        exact ⟨_, rfl, hQ st.store o hin ho⟩
      · rw [if_neg ho]
        rw [IngestState.commit, List.mem_cons] at hmem
        exact hP (hmem.resolve_left fun h => ho h.symm)
    · intro hmem
      cases hmem
  replace hloop := hloop hseen
  rcases ingestSnapshot_ends hwr hlost hfenced with ⟨err, -, hingest⟩ | ⟨-, hingest⟩
  · rw [hingest]
    exact hloop
  · have hnot : key ∉ goneKeys (ingestLoop worker wr.boot policy now obs { store := s }).1
        worker := by
      rw [goneKeys, List.mem_filter]
      simp [hseen]
    rw [hingest, finishIngest_devices, if_neg hnot]
    exact hloop

end Device

/-! ## Ingests that do nothing -/

/-- What the end of an ingest would write is there already: the devices of
the worker are marked as gone, their records do not show in the log, and
the sign of life is of this moment. -/
structure QuietEnd (s : FleetStateStore) (wr : WorkerRecord) (now : Timestamp) : Prop where
  gone : ∀ key ∈ wr.deviceIdentities, ∀ d, s.devices[key]? = some d → disappearDevice d = d
  log : pushChanges s.changeLog (s.goneRecords wr.deviceIdentities now) = s.changeLog
  lastHeartbeat : wr.lastHeartbeat = now
  alive : wr.alive = true

theorem touchWorker_workers_eq_iff {s : FleetStateStore} {worker : WorkerId}
    {wr : WorkerRecord} (hwr : s.workers[worker]? = some wr) (now : Timestamp) :
    (s.touchWorker worker now).workers = s.workers ↔
      wr.lastHeartbeat = now ∧ wr.alive = true := by
  unfold touchWorker
  simp only [OrderedMap.modify_eq_self_iff, hwr, Option.some.injEq]
  constructor
  · intro h
    have hfix := h wr rfl
    exact ⟨(congrArg WorkerRecord.lastHeartbeat hfix).symm,
      (congrArg WorkerRecord.alive hfix).symm⟩
  · rintro ⟨hbeat, halive⟩ _ rfl
    rw [← hbeat, ← halive]

/-- The end of an ingest, when nothing was applied. -/
theorem finishIngest_eq_self_iff {s : FleetStateStore} {worker : WorkerId} {wr : WorkerRecord}
    (hwr : s.workers[worker]? = some wr) (now : Timestamp) :
    (finishIngest { store := s } worker now).store = s ↔ s.QuietEnd wr now := by
  rw [finishIngest_eq, goneKeys_start hwr]
  have hdevices := OrderedMap.foldl_modify_eq_self_iff (m := s.devices) disappearDevice
    disappearDevice_idem wr.deviceIdentities
  have hworkers := touchWorker_workers_eq_iff hwr now
  constructor
  · intro h
    have hworkers' := congrArg workers h
    have hdevices' := congrArg devices h
    have hlog := congrArg changeLog h
    have hbeat := hworkers.mp hworkers'
    exact ⟨hdevices.mp hdevices', hlog, hbeat.1, hbeat.2⟩
  · intro h
    have hgone := hdevices.mpr h.gone
    have hbeat := hworkers.mpr ⟨h.lastHeartbeat, h.alive⟩
    have hmark : s.markGone wr.deviceIdentities now = s := by
      rw [markGone, hgone, h.log]
    show (s.markGone wr.deviceIdentities now).touchWorker worker now = s
    rw [hmark]
    calc s.touchWorker worker now
        = { s with workers := (s.touchWorker worker now).workers } := rfl
      _ = s := by rw [hbeat]

section Live

variable {s : FleetStateStore} {worker : WorkerId} {wr : WorkerRecord}
  {obs : List DeviceObservation} {policy : ObservationPolicy} {now : Timestamp}

/-- An ingest that applies an observation changes the store, also when it
returns an error afterwards. -/
theorem ingestSnapshot_ne_of_pass (hwr : s.workers[worker]? = some wr)
    (hlost : wr.lost = false) (hfenced : wr.fenced = false)
    (hpass : Verdict.pass ∈ verdicts s.epoch worker wr.boot s.stampOf obs) :
    (s.ingestSnapshot worker obs policy now).store ≠ s := by
  obtain ⟨key, hkey⟩ := ingestLoop_stampOf_ne
    (ingestLoop_applied_ne_nil worker wr.boot policy now obs { store := s } hpass)
  intro hsame
  apply hkey
  rcases ingestSnapshot_ends hwr hlost hfenced with ⟨err, -, hingest⟩ | ⟨-, hingest⟩
  · rw [hingest] at hsame
    exact congrArg (fun t => t.stampOf key) hsame
  · rw [hingest] at hsame
    rw [← finishIngest_stampOf _ worker now key]
    exact congrArg (fun t => t.stampOf key) hsame

/-- The ingest of a live worker leaves the store exactly as it was if and
only if no observation passes the gates and either one is refused or the
end of the ingest finds everything written already. -/
theorem ingestSnapshot_eq_self_iff (hwr : s.workers[worker]? = some wr)
    (hlost : wr.lost = false) (hfenced : wr.fenced = false) :
    (s.ingestSnapshot worker obs policy now).store = s ↔
      Verdict.pass ∉ verdicts s.epoch worker wr.boot s.stampOf obs ∧
        (Refuses (verdicts s.epoch worker wr.boot s.stampOf obs) ∨ s.QuietEnd wr now) := by
  by_cases hpass : Verdict.pass ∈ verdicts s.epoch worker wr.boot s.stampOf obs
  · constructor
    · intro hsame
      exact absurd hsame (ingestSnapshot_ne_of_pass hwr hlost hfenced hpass)
    · intro h
      exact absurd hpass h.1
  have hself := ingestLoop_eq_self worker wr.boot policy now obs { store := s } hpass
  have hok := ingestLoop_ok_iff worker wr.boot policy now obs { store := s }
  rcases ingestSnapshot_ends hwr hlost hfenced with ⟨err, hfails, hingest⟩ | ⟨hends, hingest⟩
  · have hrefuses : Refuses (verdicts s.epoch worker wr.boot s.stampOf obs) := by
      by_contra hnot
      cases hfails.symm.trans (hok.mpr hnot)
    rw [hingest, hself]
    exact ⟨fun _ => ⟨hpass, Or.inl hrefuses⟩, fun _ => rfl⟩
  · have hnot : ¬Refuses (verdicts s.epoch worker wr.boot s.stampOf obs) := hok.mp hends
    rw [hingest, hself]
    simp only [finishIngest_eq_self_iff hwr now, hpass, hnot, not_false_eq_true, true_and,
      false_or]

end Live

end FleetStateStore

end GpuFleet
