import GpuFleet.Fleet.Fences
import GpuFleet.Fleet.WireBounds

/-!
# What the store keeps within the snapshot format

The arguments of a call that come off the wire are within the bounds of their
decoder (`Op.Fits`).  Most of what the store makes of them is then within the
bounds of the snapshot format as well, in every state of every run: that is
`Bounded`.

The store enforces no bound of its own apart from the length of the change
log.  What `Bounded` leaves open is what it composes or lets grow: the keys of
the devices, the lists of devices of the workers, the values in the change
records, and the number of entries of the three maps.  `Recoverable` says that
these are within the format too, and `snapshot_fits_iff` that nothing else is
in question.
-/

namespace GpuFleet

/-- The texts of a quarantine are within the bounds of the snapshot format. -/
structure QuarantineRecord.Fits (q : QuarantineRecord) : Prop where
  reason : q.reason.length ≤ 512
  source : q.source.length ≤ 128

/-- The arguments of the call are within the bounds of the decoder that they
come from. -/
def Op.Fits : Op → Prop
  | .registerWorker reg _ => reg.Fits
  | .ingestSnapshot _ obs _ _ => ∀ o ∈ obs, o.Fits
  | .setQuarantine _ _ q _ => q.Fits
  | .restore snap => snap.Fits
  | _ => True

namespace FleetStateStore

/-! ## Nodes -/

/-- Every node is filed under its own id. -/
def NodesFiled (s : FleetStateStore) : Prop :=
  ∀ (n : NodeId) (r : NodeRecord), s.nodes[n]? = some r → r.node = n

theorem NodesFiled.same {s t : FleetStateStore} (h : s.NodesFiled) (ht : t.nodes = s.nodes) :
    t.NodesFiled := by
  intro n r hr
  rw [ht] at hr
  exact h n r hr

theorem NodesFiled.install {s : FleetStateStore} (h : s.NodesFiled) (reg : Registration)
    (now : Timestamp) : (s.installWorker reg now).store.NodesFiled := by
  intro n r hr
  cases hknown : s.nodes[reg.node]? with
  | some r₀ =>
    have hsame : (s.installWorker reg now).store.nodes = s.nodes :=
      OrderedMap.insertIfNew_eq_self hknown _
    rw [hsame] at hr
    exact h n r hr
  | none =>
    have hnew : (s.installWorker reg now).store.nodes
        = s.nodes.insert reg.node ⟨reg.node, ⟨1⟩, now⟩ :=
      OrderedMap.insertIfNew_eq_insert hknown _
    rw [hnew, OrderedMap.getElem?_insert] at hr
    by_cases hn : reg.node = n
    · rw [if_pos hn] at hr
      cases hr
      exact hn
    · rw [if_neg hn] at hr
      exact h n r hr

theorem ingestSnapshot_nodes (s : FleetStateStore) (worker : WorkerId)
    (obs : List DeviceObservation) (policy : ObservationPolicy) (now : Timestamp) :
    (s.ingestSnapshot worker obs policy now).store.nodes = s.nodes := by
  apply ingestSnapshot_invariant (P := fun t _ => t.nodes = s.nodes) [] rfl
  · intro _ _ _ _ _ h
    exact h
  · intro _ _ _ _ h _
    exact h
  · intro _ _ h
    exact h

/-- Only a registration that installs a record, or a recovery, changes the
nodes. -/
theorem step_nodes (s : FleetStateStore) {op : Op} (hrestore : ¬op.IsRestore) :
    (s.step op).nodes = s.nodes ∨
      ∃ reg now, (s.step op).nodes = (s.installWorker reg now).store.nodes := by
  by_cases hadmin : op.IsAdministrative
  · exact Or.inl (s.step_sameWorkers hadmin).nodes
  unfold FleetStateStore.step
  cases op with
  | registerWorker reg now =>
    rcases s.registerWorker_cases reg now with ⟨h, _⟩ | ⟨wr, _, _, h⟩ | ⟨_, h⟩
    · exact Or.inl (by rw [exec, Outcome.void, h.store])
    · exact Or.inl (by rw [exec, Outcome.void, h.store])
    · exact Or.inr ⟨reg, now, by rw [exec, Outcome.void, h.store]⟩
  | restore snap => exact absurd trivial hrestore
  | markWorkerLost w now =>
    rcases s.markWorkerLost_cases w now with ⟨_, h⟩ | ⟨_, _, h⟩
    · exact Or.inl (by rw [exec, h.store])
    · exact Or.inl (by rw [exec, h.store])
  | ingestSnapshot worker obs policy now =>
    exact Or.inl (s.ingestSnapshot_nodes worker obs policy now)
  | heartbeat worker boot epoch now hg =>
    rcases s.heartbeat_cases worker boot epoch now hg with ⟨h, _⟩ | ⟨_, _, _, _, h⟩
    · exact Or.inl (by rw [exec, h.store])
    · exact Or.inl (by rw [exec, h.store])
  | _ => exact absurd trivial hadmin

theorem NodesFiled.step {s : FleetStateStore} (h : s.NodesFiled) {op : Op} (hop : op.Fits) :
    (s.step op).NodesFiled := by
  by_cases hrestore : op.IsRestore
  · cases op with
    | restore snap =>
      intro n r hr
      exact hop.nodeKeys (n, r) (OrderedMap.mem_toList.mpr hr)
    | _ => exact absurd hrestore fun hr => hr
  rcases s.step_nodes hrestore with hsame | ⟨reg, now, hsame⟩
  · exact h.same hsame
  · exact (h.install reg now).same hsame

/-! ## Workers -/

/-- A worker record is filed under its own id and is within the format, up to
the list of its devices, which every new device extends. -/
structure WorkerBounded (w : WorkerId) (wr : WorkerRecord) : Prop where
  filed : wr.worker = w
  osPlatform : wr.osPlatform.length ≤ 128
  driverVersion : wr.driverVersion.text.length ≤ 128
  capabilityCount : wr.supportedCapabilities.length ≤ 4096
  capabilities : ∀ x ∈ wr.supportedCapabilities, x.length ≤ 128

theorem workerBounded_invariant : WorkerInvariant Op.Fits WorkerBounded where
  installed _ _ hop :=
    ⟨rfl, hop.osPlatform, hop.driverVersion, hop.capabilityCount, hop.capabilities⟩
  reaffirmed _ _ _ _ h :=
    ⟨h.filed, h.osPlatform, h.driverVersion, h.capabilityCount, h.capabilities⟩
  lost _ _ h := ⟨h.filed, h.osPlatform, h.driverVersion, h.capabilityCount, h.capabilities⟩
  heard _ _ _ h := ⟨h.filed, h.osPlatform, h.driverVersion, h.capabilityCount, h.capabilities⟩
  listed _ _ _ h := ⟨h.filed, h.osPlatform, h.driverVersion, h.capabilityCount, h.capabilities⟩
  touched _ _ _ h := ⟨h.filed, h.osPlatform, h.driverVersion, h.capabilityCount, h.capabilities⟩
  restored snap hop w wr hwr := by
    have hmem : (w, wr) ∈ snap.workers.toList := OrderedMap.mem_toList.mpr hwr
    have hfits := hop.workers (w, wr) hmem
    exact ⟨hop.workerKeys (w, wr) hmem, hfits.osPlatform, hfits.driverVersion,
      hfits.capabilityCount, hfits.capabilities⟩

/-! ## Devices -/

/-- What a report fills in of a device state is within the format. -/
structure ReportBounded (d : DeviceState) : Prop where
  identity : d.identity.Fits
  healthExplanation : d.healthExplanation.length ≤ 4096
  eligibilityReasons : d.eligibilityReasons.length ≤ 32
  capabilityCount : d.capabilities.length ≤ 4096
  capabilities : ∀ c ∈ d.capabilities, c.Fits
  validationDetail : d.validationDetail.length ≤ 4096

theorem ReportBounded.ofFits {d : DeviceState} (h : d.Fits) : ReportBounded d :=
  ⟨h.identity, h.healthExplanation, h.eligibilityReasons, h.capabilityCount, h.capabilities,
    h.validationDetail⟩

/-- One failed probe counts as one failure, which is below the threshold, so
the explanation has no number in it. -/
theorem healthSignalsFromProbe_failures (o : DeviceObservation) (known stale : Bool) :
    (healthSignalsFromProbe o known stale).consecutiveFailures
      < (healthSignalsFromProbe o known stale).failureThreshold := by
  simp only [healthSignalsFromProbe]
  cases o.coreValidationOk with
  | true => decide
  | false => decide

theorem ReportBounded.applied {o : DeviceObservation} (h : o.Fits) (s : FleetStateStore)
    (policy : ObservationPolicy) (now : Timestamp) :
    ReportBounded (s.applyTo o policy now).state := by
  have hshort : (s.applyTo o policy now).state.healthExplanation.length ≤ 128 := by
    have hfailures := healthSignalsFromProbe_failures o (s.devices[o.key]?.getD {}).present
      (!observationIsFresh (s.devices[o.key]?.getD {}) o policy now)
    apply evaluateHealth_explanation
    split
    · exact hfailures
    · exact hfailures
  have hone : (s.applyTo o policy now).state.eligibilityReasons.length ≤ 1 :=
    evaluateEligibility_reasons _
  exact ⟨h.identity, hshort.trans (by decide), hone.trans (by decide), h.capabilityCount,
    h.capabilities, h.validationDetail⟩

theorem ReportBounded.lost {d : DeviceState} (h : ReportBounded d) :
    ReportBounded (loseDevice d) := by
  unfold loseDevice
  by_cases hp : d.present = true
  · simp only [if_pos hp]
    exact ⟨h.identity, h.healthExplanation, Nat.le_of_ble_eq_true rfl, h.capabilityCount,
      h.capabilities, h.validationDetail⟩
  · simp only [if_neg hp]
    exact ⟨h.identity, h.healthExplanation, h.eligibilityReasons, h.capabilityCount,
      h.capabilities, h.validationDetail⟩

theorem ReportBounded.restored {d : DeviceState} (h : ReportBounded d) :
    ReportBounded (restoreDevice d) := by
  unfold restoreDevice
  by_cases hq : d.quarantined = true
  · simp only [if_pos hq]
    exact ⟨h.identity, h.healthExplanation, h.eligibilityReasons, h.capabilityCount,
      h.capabilities, h.validationDetail⟩
  simp only [if_neg hq]
  by_cases hd : d.drain ≠ .active
  · simp only [if_pos hd]
    exact ⟨h.identity, h.healthExplanation, h.eligibilityReasons, h.capabilityCount,
      h.capabilities, h.validationDetail⟩
  · simp only [if_neg hd]
    exact ⟨h.identity, h.healthExplanation, Nat.le_of_ble_eq_true rfl, h.capabilityCount,
      h.capabilities, h.validationDetail⟩

theorem reportBounded_invariant : DeviceInvariant Op.Fits fun _ d => ReportBounded d where
  applied s worker obs policy now hop o ho _ := ReportBounded.applied (hop o ho) s policy now
  lost _ _ h := h.lost
  gone _ _ h := ⟨h.identity, h.healthExplanation, Nat.le_of_ble_eq_true rfl, h.capabilityCount,
    h.capabilities, h.validationDetail⟩
  edited _ d d' h hedit := by
    have hone : (recomputeDeviceEligibility d').eligibilityReasons.length ≤ 1 :=
      evaluateEligibility_reasons _
    rw [hedit.rest] at hone ⊢
    exact ⟨h.identity, h.healthExplanation, hone.trans (by decide), h.capabilityCount,
      h.capabilities, h.validationDetail⟩
  restored snap hop key d hd :=
    (ReportBounded.ofFits (hop.devices (key, d) (OrderedMap.mem_toList.mpr hd))).restored

/-! ## Quarantines -/

/-- The quarantine records are within the format. -/
def QuarantinesBounded (s : FleetStateStore) : Prop :=
  ∀ key f, s.fencesOf key = some f → f.quarantine.Fits

theorem restoreDevice_fences (d : DeviceState) : (restoreDevice d).fences = d.fences := by
  unfold restoreDevice
  by_cases hq : d.quarantined = true
  · simp [hq, DeviceState.fences]
  · by_cases hd : d.drain = .active
    · simp [hq, hd, DeviceState.fences]
    · simp [hq, hd, DeviceState.fences]

theorem QuarantinesBounded.step {s : FleetStateStore} (h : s.QuarantinesBounded) {op : Op}
    (hop : op.Fits) : (s.step op).QuarantinesBounded := by
  intro key f hf
  by_cases hrestore : op.IsRestore
  · cases op with
    | restore snap =>
      obtain ⟨d', hd', rfl⟩ := Option.map_eq_some_iff.mp hf
      obtain ⟨d, hd, rfl⟩ := restored_device hd'
      have hfits := hop.devices (key, d) (OrderedMap.mem_toList.mpr hd)
      rw [restoreDevice_fences]
      exact ⟨hfits.reason, hfits.source⟩
    | _ => exact absurd hrestore fun hr => hr
  cases step_fences hrestore (s := s) key with
  | untouched heffect =>
    rw [hf] at heffect
    have hkey := h key
    generalize s.fencesOf key = r at heffect hkey
    cases heffect with
    | kept => exact hkey f rfl
    | appeared => exact ⟨Nat.zero_le 512, Nat.zero_le 128⟩
  | drained w level now f₀ _ hbefore hafter =>
    rw [hf] at hafter
    cases hafter
    exact h key f₀ hbefore
  | quarantined w q now f₀ heq _ hafter =>
    rw [hf] at hafter
    cases hafter
    rw [heq] at hop
    exact hop
  | cleared w now f₀ _ _ _ hafter =>
    rw [hf] at hafter
    cases hafter
    exact ⟨Nat.zero_le 512, Nat.zero_le 128⟩

/-! ## The change log -/

/-- The log is within the limit of the format, and so are the explanations in
it. -/
structure LogBounded (log : List ChangeRecord) : Prop where
  length : log.length ≤ 200000
  details : ∀ c ∈ log, c.detail.length ≤ 512

theorem LogBounded.push {log : List ChangeRecord} (h : LogBounded log) {c : ChangeRecord}
    (hc : c.detail.length ≤ 512) : LogBounded (pushChange log c) := by
  have hdetails : ∀ c' ∈ log ++ [c], c'.detail.length ≤ 512 := by
    rw [List.forall_mem_append]
    exact ⟨h.details, List.forall_mem_singleton.mpr hc⟩
  have hlength : (log ++ [c]).length = log.length + 1 := by simp
  unfold pushChange
  by_cases hfull : (log ++ [c]).length > kMaxChangeLog
  · simp only [if_pos hfull]
    refine ⟨?_, fun c' hc' => hdetails c' (List.mem_of_mem_tail hc')⟩
    rw [List.length_tail, hlength]
    exact h.length
  · simp only [if_neg hfull]
    exact ⟨(Nat.le_of_not_lt hfull).trans (by decide), hdetails⟩

theorem LogBounded.pushAll {cs : List ChangeRecord} (hcs : ∀ c ∈ cs, c.detail.length ≤ 512)
    {log : List ChangeRecord} (h : LogBounded log) : LogBounded (pushChanges log cs) := by
  induction cs generalizing log with
  | nil => exact h
  | cons c cs ih =>
    rw [List.forall_mem_cons] at hcs
    exact ih hcs.2 (h.push hcs.1)

theorem setDrain_changeLog (s : FleetStateStore) (w : WorkerId) (identity : ByteString)
    (d : DrainState) (now : Timestamp) (h : LogBounded s.changeLog) :
    LogBounded (s.setDrain w identity d now).store.changeLog := by
  unfold setDrain
  split
  · exact h
  split
  · exact h
  · exact h.push (Nat.le_of_ble_eq_true rfl)

theorem setQuarantine_changeLog (s : FleetStateStore) (w : WorkerId) (identity : ByteString)
    {q : QuarantineRecord} (now : Timestamp) (hq : q.Fits) (h : LogBounded s.changeLog) :
    LogBounded (s.setQuarantine w identity q now).store.changeLog := by
  unfold setQuarantine
  split
  · exact h
  split
  · exact h
  dsimp only
  split
  · exact h
  · exact h.push hq.reason

theorem clearQuarantine_changeLog (s : FleetStateStore) (w : WorkerId) (identity : ByteString)
    (epoch : CoordinatorEpoch) (now : Timestamp) (h : LogBounded s.changeLog) :
    LogBounded (s.clearQuarantine w identity epoch now).store.changeLog := by
  unfold clearQuarantine
  split
  · exact h
  split
  · exact h
  split
  · exact h
  · exact h.push (Nat.le_of_ble_eq_true rfl)

theorem ingestSnapshot_changeLog (s : FleetStateStore) (worker : WorkerId)
    (obs : List DeviceObservation) (policy : ObservationPolicy) (now : Timestamp)
    (h : LogBounded s.changeLog) :
    LogBounded (s.ingestSnapshot worker obs policy now).store.changeLog := by
  apply ingestSnapshot_invariant (P := fun t _ => LogBounded t.changeLog) [] h
  · intro wr before o st _ hlog
    exact hlog.pushAll (diffDeviceState_detail _ _ _ _ _)
  · intro t as key d hlog _
    exact hlog.push (Nat.le_of_ble_eq_true rfl)
  · intro t as hlog
    exact hlog

theorem LogBounded.step {s : FleetStateStore} (h : LogBounded s.changeLog) {op : Op}
    (hop : op.Fits) : LogBounded (s.step op).changeLog := by
  unfold FleetStateStore.step
  cases op with
  | rollEpoch ne =>
    rcases s.rollEpoch_cases ne with ⟨_, hdone⟩ | ⟨_, hdone⟩
    · rw [exec, hdone.store]
      exact h
    · rw [exec, hdone.store]
      exact h
  | registerWorker reg now =>
    rcases s.registerWorker_cases reg now with ⟨hdone, _⟩ | ⟨_, _, _, hdone⟩ | ⟨_, hdone⟩
    · rw [exec, Outcome.void, hdone.store]
      exact h
    · rw [exec, Outcome.void, hdone.store]
      exact h
    · rw [exec, Outcome.void, hdone.store]
      exact h
  | restore snap => exact ⟨hop.changeCount, fun c hc => (hop.changes c hc).detail⟩
  | markWorkerLost w now =>
    rcases s.markWorkerLost_cases w now with ⟨_, hdone⟩ | ⟨_, _, hdone⟩
    · rw [exec, hdone.store]
      exact h
    · rw [exec, hdone.store]
      exact h
  | ingestSnapshot worker obs policy now =>
    exact s.ingestSnapshot_changeLog worker obs policy now h
  | heartbeat worker boot epoch now hg =>
    rcases s.heartbeat_cases worker boot epoch now hg with ⟨hdone, _⟩ | ⟨_, _, _, _, hdone⟩
    · rw [exec, hdone.store]
      exact h
    · rw [exec, hdone.store]
      exact h
  | setDrain w identity d now => exact s.setDrain_changeLog w identity d now h
  | setQuarantine w identity q now => exact s.setQuarantine_changeLog w identity now hop h
  | clearQuarantine w identity epoch now =>
    exact s.clearQuarantine_changeLog w identity epoch now h

/-! ## All of it -/

/-- What holds of every state that is reached by calls with arguments that
fit. -/
structure Bounded (s : FleetStateStore) : Prop where
  nodes : s.NodesFiled
  workers : s.WorkersSatisfy WorkerBounded
  devices : ∀ (key : ByteString) d, s.devices[key]? = some d → ReportBounded d
  quarantines : s.QuarantinesBounded
  log : LogBounded s.changeLog

theorem bounded_empty (coord : CoordinatorId) (epoch : CoordinatorEpoch) :
    (empty coord epoch).Bounded where
  nodes n r hr := by simp [empty] at hr
  workers w wr hwr := by simp [empty] at hwr
  devices key d hd := by simp [empty] at hd
  quarantines key f hf := by simp [empty, fencesOf] at hf
  log := ⟨Nat.zero_le _, fun c hc => absurd hc List.not_mem_nil⟩

theorem Bounded.step {s : FleetStateStore} (h : s.Bounded) {op : Op} (hop : op.Fits) :
    (s.step op).Bounded where
  nodes := h.nodes.step hop
  workers := workerBounded_invariant.step h.workers op hop
  devices := reportBounded_invariant.step h.devices op hop
  quarantines := h.quarantines.step hop
  log := h.log.step hop

/-- What the store composes or lets grow without a bound is within the
format. -/
@[mk_iff]
structure Recoverable (s : FleetStateStore) : Prop where
  nodeCount : s.nodes.size ≤ 100000
  workerCount : s.workers.size ≤ 100000
  deviceCount : s.devices.size ≤ 100000
  deviceKeys : ∀ e ∈ s.devices.toList, e.1.length ≤ 256
  ownedCount : ∀ e ∈ s.workers.toList, e.2.deviceIdentities.length ≤ 4096
  ownedKeys : ∀ e ∈ s.workers.toList, ∀ x ∈ e.2.deviceIdentities, x.length ≤ 256
  changeValues : ∀ c ∈ s.changeLog, c.fromValue.length ≤ 128 ∧ c.toValue.length ≤ 128

instance (s : FleetStateStore) : Decidable s.Recoverable :=
  decidable_of_iff' _ (recoverable_iff s)

theorem Bounded.workerFits {s : FleetStateStore} (h : s.Bounded) (hr : s.Recoverable) :
    ∀ e ∈ s.workers.toList, e.2.worker = e.1 ∧ e.2.Fits := by
  intro e he
  have hw := h.workers e.1 e.2 (OrderedMap.mem_toList.mp he)
  exact ⟨hw.filed, hw.osPlatform, hw.driverVersion, hr.ownedCount e he, hr.ownedKeys e he,
    hw.capabilityCount, hw.capabilities⟩

theorem Bounded.deviceFits {s : FleetStateStore} (h : s.Bounded) :
    ∀ e ∈ s.devices.toList, e.2.Fits := by
  intro e he
  have hget := OrderedMap.mem_toList.mp he
  have hd := h.devices e.1 e.2 hget
  have hq := h.quarantines e.1 e.2.fences (fencesOf_of_some hget)
  exact ⟨hd.identity, hd.healthExplanation, hd.eligibilityReasons, hq.reason, hq.source,
    hd.capabilityCount, hd.capabilities, hd.validationDetail⟩

theorem Bounded.snapshot_fits_iff {s : FleetStateStore} (h : s.Bounded) :
    s.snapshot.Fits ↔ s.Recoverable := by
  constructor
  · intro hfits
    exact {
      nodeCount := hfits.nodeCount
      workerCount := hfits.workerCount
      deviceCount := hfits.deviceCount
      deviceKeys := hfits.deviceKeys
      ownedCount := fun e he => (hfits.workers e he).identityCount
      ownedKeys := fun e he => (hfits.workers e he).identities
      changeValues := fun c hc => ⟨(hfits.changes c hc).fromValue, (hfits.changes c hc).toValue⟩ }
  · intro hr
    exact {
      nodeCount := hr.nodeCount
      nodeKeys := fun e he => h.nodes e.1 e.2 (OrderedMap.mem_toList.mp he)
      workerCount := hr.workerCount
      workerKeys := fun e he => (h.workerFits hr e he).1
      workers := fun e he => (h.workerFits hr e he).2
      deviceCount := hr.deviceCount
      deviceKeys := hr.deviceKeys
      devices := h.deviceFits
      changeCount := h.log.length
      changes := fun c hc =>
        ⟨h.log.details c hc, (hr.changeValues c hc).1, (hr.changeValues c hc).2⟩ }

end FleetStateStore

end GpuFleet
