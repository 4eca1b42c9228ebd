import GpuFleet.Fleet.Batches
import Mathlib.Data.List.Nodup

/-!
# Devices that share a key

Two identities are different when any of their fields is, but the key of a
device is made of eight of them.  The NUMA node, the runtime version, the MIG
partition and the parent device are not among these.  A batch that names two
devices with one key leaves one entry for both.
-/

namespace GpuFleet

/-- What a device entry takes over from an observation: the identity, the
memory and the capabilities. -/
structure DeviceReport where
  identity : DeviceIdentity
  totalMemory : UInt64
  usedMemory : UInt64
  freeMemory : UInt64
  capabilities : List Capability
  deriving DecidableEq

/-- What the entry of a device says. -/
def DeviceState.report (d : DeviceState) : DeviceReport :=
  ⟨d.identity, d.totalMemory, d.usedMemory, d.freeMemory, d.capabilities⟩

/-- What an observation says. -/
def DeviceObservation.report (o : DeviceObservation) : DeviceReport :=
  ⟨o.identity, o.totalMemory, o.usedMemory, o.freeMemory, o.capabilities⟩

namespace FleetStateStore

theorem applyTo_report (s : FleetStateStore) (o : DeviceObservation) (policy : ObservationPolicy)
    (now : Timestamp) : (s.applyTo o policy now).state.report = o.report := rfl

/-- A live worker reports devices to a store that has none: every observation
is authentic, and no two of them name the same identity. -/
structure FirstBatch (s : FleetStateStore) (worker : WorkerId) (wr : WorkerRecord)
    (obs : List DeviceObservation) : Prop where
  devices : s.devices = ∅
  record : s.workers[worker]? = some wr
  lost : wr.lost = false
  fenced : wr.fenced = false
  authentic : ∀ o ∈ obs, o.epoch = s.epoch ∧ o.sourceWorkerBoot = wr.boot ∧
    o.sourceWorker = worker
  distinct : (obs.map DeviceObservation.identity).Nodup

/-- The ingest succeeds and leaves one entry for each observation, in some
order, with what it reports. -/
def KeepsAll (out : Outcome AppliedObservation) (obs : List DeviceObservation) : Prop :=
  ¬out.Failed ∧
    (out.store.devices.toList.map fun e => e.2.report).Perm (obs.map DeviceObservation.report)

section FirstBatch

variable {s : FleetStateStore} {worker : WorkerId} {wr : WorkerRecord}
  {obs : List DeviceObservation} {policy : ObservationPolicy} {now : Timestamp}

theorem FirstBatch.lookup (h : s.FirstBatch worker wr obs) (key : ByteString) :
    s.devices[key]? = none := by
  rw [h.devices]
  exact Std.ExtTreeMap.getElem?_empty

/-- Every observation passes, looked at by itself. -/
theorem FirstBatch.gate (h : s.FirstBatch worker wr obs) {o : DeviceObservation} (ho : o ∈ obs) :
    gate s.epoch worker wr.boot (s.stampOf o.key) o = .pass := by
  obtain ⟨hepoch, hboot, hworker⟩ := h.authentic o ho
  have hstamp : s.stampOf o.key = none := by
    rw [stampOf, h.lookup, Option.map_none]
  rw [hstamp, GpuFleet.gate, if_neg (not_not.mpr hepoch), if_neg (not_not.mpr hboot),
    if_neg (not_not.mpr hworker)]

theorem FirstBatch.passing (h : s.FirstBatch worker wr obs) :
    s.passing worker wr.boot obs = obs := by
  apply List.filter_eq_self.mpr
  intro o ho
  rw [h.gate ho]
  rfl

theorem FirstBatch.unrefused (h : s.FirstBatch worker wr obs) :
    s.Unrefused worker wr.boot obs := by
  intro o ho err hrefuse
  rw [h.gate ho] at hrefuse
  cases hrefuse

/-- Afterwards only keys of the batch are on file. -/
theorem FirstBatch.mem_keys (h : s.FirstBatch worker wr obs) {key : ByteString} {d : DeviceState}
    (hd : (s.ingestSnapshot worker obs policy now).store.devices[key]? = some d) :
    key ∈ obs.map DeviceObservation.key := by
  by_contra hkey
  have hnot : ¬Brings obs (verdicts s.epoch worker wr.boot s.stampOf obs) key := by
    rintro ⟨o, ho, rfl⟩
    exact hkey (List.mem_map_of_mem (List.of_mem_zip ho).1)
  by_cases hgone : s.TakenForGone worker obs wr key
  · rw [ingestSnapshot_gone hgone, h.lookup] at hd
    cases hd
  · rw [ingestSnapshot_kept h.record hnot hgone, h.lookup] at hd
    cases hd

/-- One entry for each observation takes one key for each observation. -/
theorem FirstBatch.nodup_of_keepsAll (h : s.FirstBatch worker wr obs)
    (hkeeps : KeepsAll (s.ingestSnapshot worker obs policy now) obs) :
    (obs.map DeviceObservation.key).Nodup := by
  have hnodup : ((s.ingestSnapshot worker obs policy now).store.devices.toList.map
      Prod.fst).Nodup := by
    rw [List.Nodup, List.pairwise_map]
    exact (Std.ExtTreeMap.distinct_keys_toList).imp fun hne heq =>
      hne (Std.LawfulEqOrd.compare_eq_iff_eq.mpr heq)
  have hsub : (s.ingestSnapshot worker obs policy now).store.devices.toList.map Prod.fst
      ⊆ obs.map DeviceObservation.key := by
    intro key hkey
    obtain ⟨⟨key, d⟩, he, rfl⟩ := List.mem_map.mp hkey
    exact h.mem_keys (OrderedMap.mem_toList.mp he)
  have hlength := hkeeps.2.length_eq
  rw [List.length_map, List.length_map] at hlength
  have hperm := (List.subperm_of_subset hnodup hsub).perm_of_length_le (by
    rw [List.length_map, List.length_map, hlength])
  exact hperm.nodup_iff.mp hnodup

/-- With one key for each observation, the entries are those that the pipeline
makes of the observations. -/
theorem FirstBatch.toList_perm (h : s.FirstBatch worker wr obs)
    (hkeys : (obs.map DeviceObservation.key).Nodup) :
    (s.ingestSnapshot worker obs policy now).store.devices.toList.Perm
      (obs.map fun o => (o.key, (s.applyTo o policy now).state)) := by
  have hingested : Ingested worker wr policy now (s.passing worker wr.boot obs) s
      (s.ingestSnapshot worker obs policy now).store :=
    ingestSnapshot_ingested h.record h.lost h.fenced hkeys h.unrefused
  rw [h.passing] at hingested
  have hnodup : (obs.map fun o => (o.key, (s.applyTo o policy now).state)).Nodup := by
    apply List.Nodup.of_map Prod.fst
    rw [List.map_map]
    exact hkeys
  rw [List.perm_ext_iff_of_nodup (OrderedMap.nodup_toList _) hnodup]
  rintro ⟨key, d⟩
  rw [OrderedMap.mem_toList, List.mem_map]
  constructor
  · intro hd
    obtain ⟨o, ho, rfl⟩ := List.mem_map.mp (h.mem_keys hd)
    rw [hingested.brought o ho] at hd
    exact ⟨o, ho, Prod.ext rfl (Option.some.inj hd)⟩
  · rintro ⟨o, ho, heq⟩
    obtain ⟨rfl, rfl⟩ := Prod.mk.inj heq
    exact hingested.brought o ho

theorem FirstBatch.keepsAll_of_nodup (h : s.FirstBatch worker wr obs)
    (hkeys : (obs.map DeviceObservation.key).Nodup) :
    KeepsAll (s.ingestSnapshot worker obs policy now) obs := by
  refine ⟨(ingestSnapshot_accepts_iff h.record h.lost h.fenced hkeys).mpr h.unrefused, ?_⟩
  have hentries : (s.ingestSnapshot worker obs policy now).store.devices.toList.Perm
      (obs.map fun o => (o.key, (s.applyTo o policy now).state)) := h.toList_perm hkeys
  have hsame : ((fun e => e.2.report) ∘ fun o : DeviceObservation =>
      (o.key, (s.applyTo o policy now).state)) = DeviceObservation.report :=
    funext fun o => s.applyTo_report o policy now
  have hreports := hentries.map fun e => e.2.report
  rw [List.map_map, hsame] at hreports
  exact hreports

end FirstBatch

/-- A batch of different identities is kept as a whole exactly when no two of
them have the same key. -/
theorem keepsAll_iff {s : FleetStateStore} {worker : WorkerId} {wr : WorkerRecord}
    {obs : List DeviceObservation} (h : s.FirstBatch worker wr obs) (policy : ObservationPolicy)
    (now : Timestamp) :
    KeepsAll (s.ingestSnapshot worker obs policy now) obs ↔
      (obs.map DeviceObservation.key).Nodup :=
  ⟨h.nodup_of_keepsAll, h.keepsAll_of_nodup⟩

/-- A store with a registered worker and without devices. -/
def sampleRegistered : FleetStateStore :=
  (sampleStore.installWorker (sampleRegistration 1 10 1) 1000).store

/-- The report of a MIG partition of the sample device. -/
def samplePartition (gpuInstance : UInt32) : DeviceObservation :=
  { sampleObservation 1 10 1 with
    identity := { sampleIdentity with mig := { gpuInstanceId := gpuInstance } } }

theorem sampleRegistered_firstBatch {obs : List DeviceObservation}
    (hauthentic : ∀ o ∈ obs, o.epoch = ⟨1⟩ ∧ o.sourceWorkerBoot = ⟨10⟩ ∧ o.sourceWorker = ⟨1⟩)
    (hdistinct : (obs.map DeviceObservation.identity).Nodup) :
    sampleRegistered.FirstBatch ⟨1⟩ (newWorkerRecord (sampleRegistration 1 10 1) 1000) obs where
  devices := rfl
  record := Std.ExtTreeMap.getElem?_insert_self
  lost := rfl
  fenced := rfl
  authentic := hauthentic
  distinct := hdistinct

/-- Two boards are both kept. -/
theorem sampleBoards_kept :
    KeepsAll (sampleRegistered.ingestSnapshot ⟨1⟩
        [sampleObservationOf "A" 1 10 1, sampleObservationOf "B" 1 10 1] {} 5000)
      [sampleObservationOf "A" 1 10 1, sampleObservationOf "B" 1 10 1] :=
  (keepsAll_iff (sampleRegistered_firstBatch (by decide) (by decide)) {} 5000).mpr
    (by decide +kernel)

/-- Two partitions of one board: one of them is lost. -/
theorem samplePartitions_not_kept :
    sampleRegistered.FirstBatch ⟨1⟩ (newWorkerRecord (sampleRegistration 1 10 1) 1000)
        [samplePartition 1, samplePartition 2] ∧
      ¬KeepsAll (sampleRegistered.ingestSnapshot ⟨1⟩ [samplePartition 1, samplePartition 2] {} 5000)
        [samplePartition 1, samplePartition 2] := by
  have hfirst : sampleRegistered.FirstBatch ⟨1⟩
      (newWorkerRecord (sampleRegistration 1 10 1) 1000) [samplePartition 1, samplePartition 2] :=
    sampleRegistered_firstBatch (by decide) (by decide)
  refine ⟨hfirst, fun hkeeps => ?_⟩
  have hnodup := hfirst.nodup_of_keepsAll hkeeps
  revert hnodup
  decide +kernel

end FleetStateStore

end GpuFleet
