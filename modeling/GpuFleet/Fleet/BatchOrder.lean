import GpuFleet.Fleet.Batches

/-!
# The order of a batch

An ingest that accepts a batch with one observation for each key accepts the
batch in any other order too.  The order shows in the list of the worker's
devices and in the change log, and there only as an order.
-/

namespace GpuFleet

namespace FleetStateStore

/-- The stores are the same up to the order of the devices of the worker and,
while the change log is below its bound, of the change records. -/
structure SameUpToOrder (worker : WorkerId) (s t : FleetStateStore) : Prop where
  header : SameHeader s t
  devices : t.devices = s.devices
  accepted : t.acceptedObservations = s.acceptedObservations
  record : ∃ wr keys, s.workers[worker]? = some wr ∧
    t.workers[worker]? = some { wr with deviceIdentities := keys } ∧
    keys.Perm wr.deviceIdentities
  others : ∀ w ≠ worker, t.workers[w]? = s.workers[w]?
  changeLog : s.changeLog.length < kMaxChangeLog → t.changeLog.Perm s.changeLog

section Order

variable {s t t' : FleetStateStore} {worker : WorkerId} {boot : WorkerBootId}
  {wr : WorkerRecord} {policy : ObservationPolicy} {now : Timestamp}
  {os os' obs obs' : List DeviceObservation}

theorem Unrefused.perm (h : s.Unrefused worker boot obs) (hperm : obs.Perm obs') :
    s.Unrefused worker boot obs' :=
  fun o ho => h o (hperm.mem_iff.mpr ho)

theorem passing_perm (s : FleetStateStore) (worker : WorkerId) (boot : WorkerBootId)
    (hperm : obs.Perm obs') :
    (s.passing worker boot obs).Perm (s.passing worker boot obs') :=
  hperm.filter _

theorem newKeys_perm (s : FleetStateStore) (hperm : os.Perm os') :
    (s.newKeys os).Perm (s.newKeys os') :=
  (hperm.filter _).map _

theorem changesOf_perm (s : FleetStateStore) (policy : ObservationPolicy) (now : Timestamp)
    (hperm : os.Perm os') : (s.changesOf policy now os).Perm (s.changesOf policy now os') :=
  hperm.flatMap_right _

/-- The keys that are missed keep the order of the record. -/
theorem missingKeys_perm (wr : WorkerRecord) (hperm : os.Perm os') :
    missingKeys wr os = missingKeys wr os' := by
  have hkeys : ∀ key, key ∈ os.map DeviceObservation.key ↔ key ∈ os'.map DeviceObservation.key :=
    fun key => (hperm.map _).mem_iff
  simp only [missingKeys, hkeys]

/-- The same records in another order leave the same log in another order, if
the log does not overflow. -/
theorem pushChanges_congr_perm {log cs cs' : List ChangeRecord} (hperm : cs.Perm cs')
    (h : (pushChanges log cs).length < kMaxChangeLog) :
    (pushChanges log cs').Perm (pushChanges log cs) := by
  have hall := pushChanges_of_lt h
  rw [hall, List.length_append, hperm.length_eq] at h
  rw [hall, pushChanges_of_le h.le]
  exact hperm.symm.append_left log

theorem Ingested.perm (h : Ingested worker wr policy now os s t)
    (h' : Ingested worker wr policy now os' s t') (hperm : os.Perm os') :
    SameUpToOrder worker t t' := by
  refine ⟨h.header.symm.trans h'.header, ?_, ?_, ?_, ?_, ?_⟩
  · apply Std.ExtTreeMap.ext_getElem?
    intro key
    by_cases hkey : key ∈ os.map DeviceObservation.key
    · obtain ⟨o, ho, rfl⟩ := List.mem_map.mp hkey
      rw [h.brought o ho, h'.brought o (hperm.mem_iff.mp ho)]
    · have hkey' : key ∉ os'.map DeviceObservation.key := fun hmem =>
        hkey ((hperm.map _).mem_iff.mpr hmem)
      rw [h.kept key hkey, h'.kept key hkey']
  · rw [h.accepted, h'.accepted, hperm.length_eq]
  · refine ⟨_, _, h.record, h'.record, ?_⟩
    exact (newKeys_perm s hperm).symm.append_left wr.deviceIdentities
  · intro w hw
    rw [h.others w hw, h'.others w hw]
  · intro hroom
    rw [h.changeLog] at hroom ⊢
    rw [h'.changeLog, ← missingKeys_perm wr hperm]
    exact pushChanges_congr_perm ((changesOf_perm s policy now hperm).append_right _) hroom

end Order

/-- In every reachable state, a batch of different keys that is accepted is
accepted in any other order, with the same effect up to the order. -/
theorem ingest_order_irrelevant (coord : CoordinatorId) (epoch : CoordinatorEpoch)
    (ops : List Op) (worker : WorkerId) (obs obs' : List DeviceObservation)
    (policy : ObservationPolicy) (now : Timestamp)
    (hok : ¬(((empty coord epoch).run ops).ingestSnapshot worker obs policy now).Failed)
    (hkeys : (obs.map DeviceObservation.key).Nodup) (hperm : obs.Perm obs') :
    ¬(((empty coord epoch).run ops).ingestSnapshot worker obs' policy now).Failed ∧
      SameUpToOrder worker (((empty coord epoch).run ops).ingestSnapshot worker obs policy now).store
        (((empty coord epoch).run ops).ingestSnapshot worker obs' policy now).store := by
  generalize (empty coord epoch).run ops = s at hok ⊢
  have hkeys' : (obs'.map DeviceObservation.key).Nodup := (hperm.map _).nodup_iff.mp hkeys
  rcases ingest_live_or_refused s worker with hdead | ⟨wr, hwr, hlost, hfenced⟩
  · -- a worker that is not live gets no batch accepted
    exfalso
    apply hok
    cases hwr : s.workers[worker]? with
    | none => exact ⟨_, by rw [ingestSnapshot_unregistered hwr]⟩
    | some wr => exact ⟨_, by rw [ingestSnapshot_dead hwr (hdead wr hwr)]⟩
  · have hunrefused := (ingestSnapshot_accepts_iff hwr hlost hfenced hkeys).mp hok
    have hunrefused' := hunrefused.perm hperm
    refine ⟨(ingestSnapshot_accepts_iff hwr hlost hfenced hkeys').mpr hunrefused', ?_⟩
    exact (ingestSnapshot_ingested hwr hlost hfenced hkeys hunrefused).perm
      (ingestSnapshot_ingested hwr hlost hfenced hkeys' hunrefused')
      (passing_perm s worker wr.boot hperm)

/-- Two devices, reported in either order. -/
theorem sampleReport_order_irrelevant :
    SameUpToOrder ⟨1⟩
      ((sampleStore.run [.registerWorker (sampleRegistration 1 10 1) 1000]).ingestSnapshot ⟨1⟩
        [sampleObservation 1 10 1,
          { sampleObservation 1 10 1 with identity := { uuid := ⟨text "GPU-1"⟩ } }] {} 5000).store
      ((sampleStore.run [.registerWorker (sampleRegistration 1 10 1) 1000]).ingestSnapshot ⟨1⟩
        [{ sampleObservation 1 10 1 with identity := { uuid := ⟨text "GPU-1"⟩ } },
          sampleObservation 1 10 1] {} 5000).store := by
  have hok : ¬((sampleStore.run
      [.registerWorker (sampleRegistration 1 10 1) 1000]).ingestSnapshot ⟨1⟩
        [sampleObservation 1 10 1,
          { sampleObservation 1 10 1 with identity := { uuid := ⟨text "GPU-1"⟩ } }] {}
        5000).Failed := by
    have hresult : ((sampleStore.run
        [.registerWorker (sampleRegistration 1 10 1) 1000]).ingestSnapshot ⟨1⟩
          [sampleObservation 1 10 1,
            { sampleObservation 1 10 1 with identity := { uuid := ⟨text "GPU-1"⟩ } }] {}
          5000).result.isOk = true := by decide +kernel
    rintro ⟨err, herr⟩
    rw [herr] at hresult
    cases hresult
  exact (ingest_order_irrelevant ⟨1⟩ ⟨1⟩ _ ⟨1⟩ _ _ {} 5000 hok (by decide) (.swap _ _ [])).2

end FleetStateStore

end GpuFleet
