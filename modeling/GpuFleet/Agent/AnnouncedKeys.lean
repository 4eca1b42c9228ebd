import GpuFleet.Agent.Agent
import GpuFleet.Fleet.Effects
import Mathlib.Data.List.TakeDrop

/-!
# The keys of announced devices

An agent announces its devices by their keys, and `encode_registration` cuts a
key at 256 bytes.  The store files an observation under the whole key.  The
texts of an identity may be longer than that together, and then the record of
the worker lists a key under which nothing is ever filed.
-/

namespace GpuFleet

open FleetStateStore

/-- The store accepts the registration of the agent, and this is the record
that the worker has then. -/
def WorkerAgent.Announces (a : WorkerAgent) (found : Enumeration) (s : FleetStateStore)
    (now : Timestamp) (wr : WorkerRecord) : Prop :=
  ∃ reg, decodeRegistration (a.register found).payload = .ok reg ∧
    ¬(s.registerWorker reg now).Failed ∧
    (s.registerWorker reg now).store.workers[reg.worker]? = some wr

/-- Every accepted registration leaves the keys that it brought. -/
theorem registerWorker_deviceIdentities {s : FleetStateStore} {reg : Registration}
    {now : Timestamp} {wr : WorkerRecord} (hok : ¬(s.registerWorker reg now).Failed)
    (hwr : (s.registerWorker reg now).store.workers[reg.worker]? = some wr) :
    wr.deviceIdentities = reg.enumeratedDevices := by
  rcases registerWorker_cases s reg now with ⟨hrefused, -⟩ | ⟨wr₀, -, -, hdone⟩ | ⟨-, hdone⟩
  · exact absurd hrefused.failed hok
  · rw [hdone.store] at hwr
    have hrecord : reaffirmed wr₀ reg now = wr := by
      simpa [Std.ExtTreeMap.getElem?_insert_self] using hwr
    rw [← hrecord, reaffirmed]
  · rw [hdone.store] at hwr
    have hrecord : newWorkerRecord reg now = wr := by
      simpa [installWorker, Std.ExtTreeMap.getElem?_insert_self] using hwr
    rw [← hrecord, newWorkerRecord]

/-- The keys that the store is told are cut. -/
theorem WorkerAgent.Announces.deviceIdentities {a : WorkerAgent} {found : Enumeration}
    {s : FleetStateStore} {now : Timestamp} {wr : WorkerRecord} (h : a.Announces found s now wr) :
    wr.deviceIdentities = found.identities.map fun d => (canonicalDeviceIdentity d).take 256 := by
  obtain ⟨reg, hdecode, hok, hwr⟩ := h
  have hkeys : (a.registration found).cut.enumeratedDevices
      = (found.identities.map canonicalDeviceIdentity).map fun key => key.take 256 := by rfl
  rw [registerWorker_deviceIdentities hok hwr, decode_register hdecode, hkeys]
  simp only [List.map_map, Function.comp_def]

/-- An ingest files an observation under the key of its identity. -/
theorem applied_key {s : FleetStateStore} {w : WorkerId} {obs : List DeviceObservation}
    {policy : ObservationPolicy} {now : Timestamp} {app : Application}
    (h : app ∈ (s.ingestSnapshot w obs policy now).applied) :
    app.key = canonicalDeviceIdentity app.obs.identity := by
  obtain ⟨wr, before, st, -, happ⟩ := applies_of_mem_applied h
  rw [happ]
  rfl

/-- The key that is announced for a device is the one under which its
observations are filed exactly when it has at most 256 bytes. -/
theorem announcedKey_eq_iff {a : WorkerAgent} {found : WorkerAgent.Enumeration}
    {s t : FleetStateStore} {now : Timestamp} {wr : WorkerRecord}
    (h : a.Announces found s now wr) {i : Nat} {d : DeviceIdentity}
    (hd : found.identities[i]? = some d) {w : WorkerId} {obs : List DeviceObservation}
    {policy : ObservationPolicy} {later : Timestamp} {app : Application}
    (happ : app ∈ (t.ingestSnapshot w obs policy later).applied) (hid : app.obs.identity = d) :
    wr.deviceIdentities[i]? = some app.key ↔ (canonicalDeviceIdentity d).length ≤ 256 := by
  rw [h.deviceIdentities, List.getElem?_map, hd, applied_key happ, hid, Option.map_some,
    Option.some.injEq]
  exact List.take_eq_self_iff _

/-! ## Two devices -/

/-- An agent that registers in epoch 1. -/
def sampleAgent : WorkerAgent where
  opts := { worker := ⟨1⟩, boot := ⟨10⟩ }
  lastKnownEpoch := ⟨1⟩

/-- A device whose texts are as long as an observation may have them. -/
def sampleVerboseIdentity : DeviceIdentity where
  vendor := .nvidia
  vendorName := List.replicate 128 65
  uuid := ⟨List.replicate 128 66⟩
  architecture := List.replicate 64 67
  driverVersion := ⟨List.replicate 128 68⟩

/-- One device. -/
def sampleEnumeration (d : DeviceIdentity) : WorkerAgent.Enumeration where
  identities := [d]
  count := Nat.one_lt_two_pow (by decide)

/-- What the registration of one device arrives as. -/
def sampleAnnounced (d : DeviceIdentity) : Registration :=
  (sampleAgent.registration (sampleEnumeration d)).cut

theorem sampleAgent_announces (d : DeviceIdentity) :
    sampleAgent.Announces (sampleEnumeration d) sampleStore 1000
      (newWorkerRecord (sampleAnnounced d) 1000) := by
  have hdecode : decodeRegistration (sampleAgent.register (sampleEnumeration d)).payload
      = .ok (sampleAnnounced d) :=
    decode_encodeRegistration (Nat.le_of_ble_eq_true rfl) (Nat.le_of_ble_eq_true rfl)
  have hinstalls : sampleStore.Installs (sampleAnnounced d) := by
    refine ⟨rfl, fun hzero => absurd (congrArg UInt32.toNat hzero) (Nat.succ_ne_zero 0), ?_⟩
    intro wr hwr
    cases hwr
  rcases registerWorker_cases sampleStore (sampleAnnounced d) 1000 with
    ⟨-, hnot⟩ | ⟨_, -, hnot, -⟩ | ⟨-, hdone⟩
  · exact absurd hinstalls hnot
  · exact absurd hinstalls hnot
  · refine ⟨_, hdecode, hdone.ok, ?_⟩
    rw [hdone.store]
    exact Std.ExtTreeMap.getElem?_insert_self

/-- The report of one device to the store that has its registration. -/
def sampleReported (d : DeviceIdentity) : Outcome AppliedObservation :=
  (sampleStore.installWorker (sampleAnnounced d) 1000).store.ingestSnapshot ⟨1⟩
    [{ sampleObservation 1 10 1 with identity := d }] {} 5000

theorem sampleReported_applied (d : DeviceIdentity) :
    ∃ app ∈ (sampleReported d).applied, app.obs.identity = d := by
  have happlies : (sampleStore.installWorker (sampleAnnounced d) 1000).store.Applies ⟨1⟩
      [{ sampleObservation 1 10 1 with identity := d }] {} 5000
      (newWorkerRecord (sampleAnnounced d) 1000) [] { sampleObservation 1 10 1 with identity := d }
      { store := (sampleStore.installWorker (sampleAnnounced d) 1000).store } :=
    ⟨Std.ExtTreeMap.getElem?_insert_self, rfl, rfl, ⟨[], rfl⟩, rfl, rfl⟩
  exact ⟨_, happlies.mem_applied, rfl⟩

/-- A short key that is announced as it is. -/
theorem announcedKey_eq_iff_sample :
    ∃ app ∈ (sampleReported sampleIdentity).applied, app.obs.identity = sampleIdentity ∧
      ((newWorkerRecord (sampleAnnounced sampleIdentity) 1000).deviceIdentities[0]? = some app.key ↔
        (canonicalDeviceIdentity sampleIdentity).length ≤ 256) := by
  obtain ⟨app, happ, hid⟩ := sampleReported_applied sampleIdentity
  exact ⟨app, happ, hid, announcedKey_eq_iff (sampleAgent_announces sampleIdentity) rfl happ hid⟩

/-- A device that is announced under another key than the one under which its
observation is filed. -/
theorem announcedKey_ne : sampleVerboseIdentity.Fits ∧
    sampleAgent.Announces (sampleEnumeration sampleVerboseIdentity) sampleStore 1000
      (newWorkerRecord (sampleAnnounced sampleVerboseIdentity) 1000) ∧
    ∃ app ∈ (sampleReported sampleVerboseIdentity).applied,
      app.obs.identity = sampleVerboseIdentity ∧
      (newWorkerRecord (sampleAnnounced sampleVerboseIdentity) 1000).deviceIdentities[0]?
        ≠ some app.key := by
  obtain ⟨app, happ, hid⟩ := sampleReported_applied sampleVerboseIdentity
  have hannounces := sampleAgent_announces sampleVerboseIdentity
  refine ⟨by decide +kernel, hannounces, app, happ, hid, ?_⟩
  rw [hannounces.deviceIdentities, applied_key happ, hid]
  decide +kernel

end GpuFleet
