import GpuFleet.Fleet.Effects

/-!
# What a registration leaves on record

`register_worker` builds a record on two of its paths, and on the third one it
updates the record that is there.  The update leaves out the node, the
versions, the platform, the driver, the capabilities and the epoch of the
registration.  So the three paths agree exactly when a re-affirmation says in
these fields what is on record already.
-/

namespace GpuFleet

/-- The record says what the registration says in the fields that a
re-affirmation does not write. -/
structure WorkerRecord.Describes (wr : WorkerRecord) (reg : Registration) : Prop where
  node : wr.node = reg.node
  agentVersion : wr.agentVersion = reg.agentVersion
  protocolVersion : wr.protocolVersion = reg.protocolVersion
  osPlatform : wr.osPlatform = reg.osPlatform
  driverVersion : wr.driverVersion = reg.driverVersion
  supportedCapabilities : wr.supportedCapabilities = reg.supportedCapabilities
  registeredEpoch : wr.registeredEpoch = reg.epoch

/-- The record says what the registration says. -/
structure WorkerRecord.Carries (wr : WorkerRecord) (reg : Registration) : Prop
    extends wr.Describes reg where
  boot : wr.boot = reg.workerBoot
  registrationGeneration : wr.registrationGeneration = reg.registrationGeneration
  deviceIdentities : wr.deviceIdentities = reg.enumeratedDevices

namespace FleetStateStore

/-- The store has the registration on record, in its current epoch, and knows
its node. -/
structure OnRecord (s : FleetStateStore) (reg : Registration) : Prop where
  record : ∃ wr, s.workers[reg.worker]? = some wr ∧ wr.Carries reg
  epoch : reg.epoch = s.epoch
  node : reg.node ∈ s.nodes

/-- Where the incarnation is on record already, its record describes it as the
registration does and its node is known. -/
def Redescribed (s : FleetStateStore) (reg : Registration) : Prop :=
  ∀ wr, s.workers[reg.worker]? = some wr → wr.boot = reg.workerBoot →
    wr.Describes reg ∧ reg.node ∈ s.nodes

/-- Both paths that build a record write the whole registration down. -/
theorem onRecord_installWorker {s : FleetStateStore} {reg : Registration}
    (h : reg.epoch = s.epoch) (now : Timestamp) : (s.installWorker reg now).store.OnRecord reg where
  record := ⟨newWorkerRecord reg now, Std.ExtTreeMap.getElem?_insert_self,
    ⟨rfl, rfl, rfl, rfl, rfl, rfl, rfl⟩, rfl, rfl, rfl⟩
  epoch := h
  node := Std.ExtTreeMap.mem_insertIfNew_self

/-- A re-affirmation writes down the generation and the devices. -/
theorem reaffirmed_carries_iff {wr : WorkerRecord} {reg : Registration} (now : Timestamp)
    (hboot : wr.boot = reg.workerBoot) : (reaffirmed wr reg now).Carries reg ↔ wr.Describes reg := by
  constructor
  · rintro ⟨⟨hnode, hagent, hprotocol, hplatform, hdriver, hcapabilities, hepoch⟩, -, -, -⟩
    exact ⟨hnode, hagent, hprotocol, hplatform, hdriver, hcapabilities, hepoch⟩
  · rintro ⟨hnode, hagent, hprotocol, hplatform, hdriver, hcapabilities, hepoch⟩
    exact ⟨⟨hnode, hagent, hprotocol, hplatform, hdriver, hcapabilities, hepoch⟩, hboot, rfl, rfl⟩

theorem onRecord_reaffirmed_iff {s : FleetStateStore} {reg : Registration} {wr : WorkerRecord}
    (h : s.Reaffirms reg wr) (now : Timestamp) :
    FleetStateStore.OnRecord
        { s with workers := s.workers.insert reg.worker (reaffirmed wr reg now) } reg ↔
      wr.Describes reg ∧ reg.node ∈ s.nodes := by
  constructor
  · rintro ⟨⟨wr', hwr', hcarries⟩, -, hnode⟩
    rw [Std.ExtTreeMap.getElem?_insert_self] at hwr'
    rw [← Option.some.inj hwr', reaffirmed_carries_iff now h.boot] at hcarries
    exact ⟨hcarries, hnode⟩
  · rintro ⟨hdescribes, hnode⟩
    refine ⟨⟨_, Std.ExtTreeMap.getElem?_insert_self, ?_⟩, h.epoch, hnode⟩
    exact (reaffirmed_carries_iff now h.boot).mpr hdescribes

/-- In every reachable state, an accepted registration is on record afterwards
exactly when it describes the incarnation as it is described already, or the
incarnation is a new one. -/
theorem registration_onRecord_iff (coord : CoordinatorId) (epoch : CoordinatorEpoch)
    (ops : List Op) (reg : Registration) (now : Timestamp)
    (hok : ¬(((empty coord epoch).run ops).registerWorker reg now).Failed) :
    (((empty coord epoch).run ops).registerWorker reg now).store.OnRecord reg ↔
      ((empty coord epoch).run ops).Redescribed reg := by
  generalize (empty coord epoch).run ops = s at hok ⊢
  rcases registerWorker_cases s reg now with ⟨hrefused, -⟩ | ⟨wr, haffirms, -, hdone⟩ |
    ⟨hinstalls, hdone⟩
  · exact absurd hrefused.failed hok
  · rw [hdone.store, onRecord_reaffirmed_iff haffirms]
    constructor
    · intro h wr' hwr' _
      obtain rfl : wr = wr' := Option.some.inj (haffirms.record.symm.trans hwr')
      exact h
    · intro h
      exact h wr haffirms.record haffirms.boot
  · rw [hdone.store]
    refine iff_of_true (onRecord_installWorker hinstalls.epoch now) ?_
    intro wr hwr hboot
    exact absurd hboot (hinstalls.vacant wr hwr).1

/-- A worker that registers for the first time. -/
theorem first_registration_onRecord :
    ((sampleStore.run []).registerWorker (sampleRegistration 1 10 1) 1000).store.OnRecord
        (sampleRegistration 1 10 1) ↔
      (sampleStore.run []).Redescribed (sampleRegistration 1 10 1) := by
  have hok : ¬((sampleStore.run []).registerWorker (sampleRegistration 1 10 1) 1000).Failed := by
    rintro ⟨err, herr⟩
    cases herr
  exact registration_onRecord_iff ⟨1⟩ ⟨1⟩ [] _ 1000 hok

/-- A worker that registers again in the next epoch, with a new driver: the
record keeps the old epoch and the old driver. -/
theorem reregistration_not_onRecord :
    ¬((sampleStore.run [.registerWorker (sampleRegistration 1 10 1) 1000,
        .rollEpoch ⟨2⟩]).registerWorker
          { sampleRegistration 1 10 2 with epoch := ⟨2⟩, driverVersion := ⟨text "550"⟩ } 2000).Failed ∧
    ¬((sampleStore.run [.registerWorker (sampleRegistration 1 10 1) 1000,
        .rollEpoch ⟨2⟩]).registerWorker
          { sampleRegistration 1 10 2 with epoch := ⟨2⟩, driverVersion := ⟨text "550"⟩ }
          2000).store.OnRecord
        { sampleRegistration 1 10 2 with epoch := ⟨2⟩, driverVersion := ⟨text "550"⟩ } := by
  refine ⟨?_, ?_⟩
  · rintro ⟨err, herr⟩
    cases herr
  · rintro ⟨⟨wr, hwr, hcarries⟩, -, -⟩
    have hepoch := hcarries.registeredEpoch
    have hrecord := congrArg (Option.map WorkerRecord.registeredEpoch) hwr
    rw [Option.map_some, hepoch] at hrecord
    revert hrecord
    decide +kernel

end FleetStateStore

end GpuFleet
