import GpuFleet.Fleet.EligibilitySafety

/-!
# The loss of a worker

`mark_worker_lost` fences the devices that the record of the worker lists.
The list is what registration brought, plus the keys that were new to the
store when the worker reported them.  A device that another worker had
reported first, or that a later registration did not repeat, is not in it.
`lost_worker_fenced_iff` says that those are the only devices that escape.
-/

namespace GpuFleet

open FleetStateStore

namespace FleetStateStore

/-- No device that the incarnation reported last is fresh or admits work. -/
def IncarnationFenced (s : FleetStateStore) (boot : WorkerBootId) : Prop :=
  ∀ (key : ByteString) (d : DeviceState), s.devices[key]? = some d → d.sourceWorkerBoot = boot →
    d.observationFresh = false ∧ ¬d.eligibility.Admits

/-- The record of the worker lists every device that is fresh from a report
of its incarnation. -/
def ListsFresh (s : FleetStateStore) (wr : WorkerRecord) : Prop :=
  ∀ (key : ByteString) (d : DeviceState), s.devices[key]? = some d → d.sourceWorkerBoot = wr.boot →
    d.observationFresh = true → key ∈ wr.deviceIdentities

/-- The devices after the loss of a registered worker. -/
theorem markWorkerLost_getElem? {s : FleetStateStore} {w : WorkerId} {wr : WorkerRecord}
    (hwr : s.workers[w]? = some wr) (now : Timestamp) (key : ByteString) :
    (s.markWorkerLost w now).store.devices[key]?
      = if key ∈ wr.deviceIdentities then s.devices[key]?.map loseDevice
        else s.devices[key]? := by
  have hfold := OrderedMap.getElem?_foldl_modify (m := s.devices) loseDevice loseDevice_idem
    wr.deviceIdentities key
  rw [markWorkerLost, hwr]
  by_cases hmem : key ∈ wr.deviceIdentities
  · rw [if_pos hmem] at hfold ⊢
    exact hfold
  · rw [if_neg hmem] at hfold ⊢
    exact hfold

end FleetStateStore

/-- A safe record that is not fresh does not admit work. -/
theorem DeviceSafe.not_admits {apps : List Application} {key : ByteString} {d : DeviceState}
    (h : DeviceSafe apps key d) (hstale : d.observationFresh = false) :
    ¬d.eligibility.Admits := by
  intro hadmits
  have hfresh := (h.cleared hadmits).observationFresh
  rw [hstale] at hfresh
  cases hfresh

/-- In every reachable state, the loss of a registered worker fences every
device that its incarnation reported last exactly when the record of the
worker lists those of them that are fresh. -/
theorem lost_worker_fenced_iff (coord : CoordinatorId) (epoch : CoordinatorEpoch)
    (ops : List Op) (w : WorkerId) (wr : WorkerRecord) (now : Timestamp)
    (hwr : ((empty coord epoch).run ops).workers[w]? = some wr) :
    (((empty coord epoch).run ops).step (.markWorkerLost w now)).IncarnationFenced wr.boot ↔
      ((empty coord epoch).run ops).ListsFresh wr := by
  have hsafe := storeSafe_run coord epoch ops
  generalize (empty coord epoch).run ops = s at hwr hsafe
  constructor
  · intro hfenced key d hd hboot hfresh
    by_contra hmem
    have hd' : (s.step (.markWorkerLost w now)).devices[key]? = some d := by
      rw [step, exec, markWorkerLost_getElem? hwr, if_neg hmem, hd]
    have hstale := (hfenced key d hd' hboot).1
    rw [hfresh] at hstale
    cases hstale
  · intro hlists key d hd hboot
    rw [step, exec, markWorkerLost_getElem? hwr] at hd
    by_cases hmem : key ∈ wr.deviceIdentities
    · rw [if_pos hmem] at hd
      obtain ⟨d₀, hd₀, rfl⟩ := Option.map_eq_some_iff.mp hd
      have hstale := loseDevice_observationFresh d₀
      exact ⟨hstale, (deviceSafe_lose (hsafe key d₀ hd₀)).not_admits hstale⟩
    · rw [if_neg hmem] at hd
      have hstale : d.observationFresh = false := by
        by_contra hfresh
        exact hmem (hlists key d hd hboot (by simpa using hfresh))
      exact ⟨hstale, (hsafe key d hd).not_admits hstale⟩

set_option maxRecDepth 4000 in
/-- The only reporter of a device takes it along. -/
theorem lost_sole_reporter_fenced :
    ((sampleStore.run sampleReport).step (.markWorkerLost ⟨1⟩ 6000)).IncarnationFenced ⟨10⟩ := by
  refine (lost_worker_fenced_iff ⟨1⟩ ⟨1⟩ sampleReport ⟨1⟩ _ 6000 rfl).mpr ?_
  intro key d hd _ _
  by_cases hkey : sampleKey = key
  · rw [← hkey]
    exact List.mem_singleton.mpr rfl
  · -- The store holds the sample device and nothing else.
    have hnone := OrderedMap.getElem?_insert_of_ne (m := (∅ : Map ByteString DeviceState)) hkey
    rw [Std.ExtTreeMap.getElem?_empty] at hnone
    cases (hnone _).symm.trans hd

set_option maxRecDepth 4000 in
/-- A device that another worker reported first stays eligible when the
worker that reports it now is lost. -/
theorem lost_second_reporter_not_fenced :
    ∃ wr, (sampleStore.run sampleSharedReport).workers[(⟨1⟩ : WorkerId)]? = some wr ∧
      ¬((sampleStore.run sampleSharedReport).step
        (.markWorkerLost ⟨1⟩ 6000)).IncarnationFenced wr.boot := by
  refine ⟨_, rfl, ?_⟩
  intro hfenced
  have hadmits := (hfenced sampleKey _ rfl rfl).2
  exact hadmits (Or.inl rfl)

end GpuFleet
