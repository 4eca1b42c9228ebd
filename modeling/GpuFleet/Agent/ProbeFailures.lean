import GpuFleet.Agent.Publishing
import GpuFleet.Fleet.ChangeLog

/-!
# Failed probes

The agent leaves a device whose probe failed out of the batch, and the store
takes a device of the worker that is not in the batch for gone.  So a failed
probe is a disappearance, unless nothing is sent at all because every probe
failed, or the gates refuse the batch.
-/

namespace GpuFleet

open FleetStateStore

/-- The probe of an enumerated device fails, and no other probe reports the
same device. -/
structure DeviceBackend.ProbeFails (backend : DeviceBackend) (d : EnumeratedDevice) : Prop where
  enumerated : ∃ ev, backend.enumerate = .ok ev ∧ d ∈ ev
  failed : ∃ err, backend.probe d = .error err
  unreported : ∀ ev d' probe, backend.enumerate = .ok ev → d' ∈ ev →
    backend.probe d' = .ok probe →
    canonicalDeviceIdentity probe.identity ≠ canonicalDeviceIdentity d.identity

/-- What a published batch comes to for a device: its state afterwards, and
the records that were written for it. -/
structure DeviceOutcome where
  state : Option DeviceState
  records : List ChangeRecord
  deriving DecidableEq

namespace FleetStateStore

/-- The store ingests a batch of a worker, if one was sent. -/
def outcomeFor (s : FleetStateStore) (worker : WorkerId) (batch : List DeviceObservation)
    (policy : ObservationPolicy) (now : Timestamp) (key : ByteString) : DeviceOutcome :=
  if batch.isEmpty then ⟨s.devices[key]?, []⟩
  else ⟨(s.ingestSnapshot worker batch policy now).store.devices[key]?,
    recordsFor key (s.ingestStory worker batch policy now)⟩

/-- The device did not disappear: there is no record that it did, and it is
present if it was present. -/
structure StaysFor (s : FleetStateStore) (key : ByteString) (out : DeviceOutcome) : Prop where
  records : ∀ r ∈ out.records, r.kind ≠ .deviceDisappeared
  present : ∀ d, s.devices[key]? = some d → d.present = true →
    ∃ d', out.state = some d' ∧ d'.present = true

/-- A batch that does not bring a device does not touch it either: it is empty
and not sent, the gates refuse an observation of it, or the device is not on
file. -/
def Spares (s : FleetStateStore) (worker : WorkerId) (boot : WorkerBootId)
    (batch : List DeviceObservation) (key : ByteString) : Prop :=
  batch = [] ∨ Refuses (verdicts s.epoch worker boot s.stampOf batch) ∨ s.devices[key]? = none

/-! ## A device that a batch does not bring -/

section Device

variable {s : FleetStateStore} {worker : WorkerId} {wr : WorkerRecord}
  {batch : List DeviceObservation} {key : ByteString}

theorem not_brings_of_no_key (hkey : ∀ o ∈ batch, o.key ≠ key) (vs : List Verdict) :
    ¬Brings batch vs key := by
  rintro ⟨o, ho, hokey⟩
  exact hkey o (List.of_mem_zip ho).1 hokey

/-- A batch that spares the device leaves its state and writes no record. -/
theorem outcomeFor_of_spares (hwr : s.workers[worker]? = some wr) (hlost : wr.lost = false)
    (hfenced : wr.fenced = false) (hkey : ∀ o ∈ batch, o.key ≠ key)
    (h : s.Spares worker wr.boot batch key) (policy : ObservationPolicy) (now : Timestamp) :
    s.outcomeFor worker batch policy now key = ⟨s.devices[key]?, []⟩ := by
  by_cases hempty : batch = []
  · rw [hempty]
    rfl
  have hmissed := not_brings_of_no_key hkey (verdicts s.epoch worker wr.boot s.stampOf batch)
  have hkept : s.devices[key]? = none ∨ ¬s.TakenForGone worker batch wr key := by
    rcases h with h | h | h
    · exact absurd h hempty
    · exact Or.inr fun hgone => hgone.accepted h
    · exact Or.inl h
  have hstate : (s.ingestSnapshot worker batch policy now).store.devices[key]?
      = s.devices[key]? := by
    by_cases hgone : s.TakenForGone worker batch wr key
    · have hnone := hkept.resolve_right fun hnot => hnot hgone
      rw [ingestSnapshot_gone hgone, hnone]
      rfl
    · exact ingestSnapshot_kept hwr hmissed hgone
  have hrecords : recordsFor key (s.ingestStory worker batch policy now) = [] := by
    rw [(ingest_course policy now hwr hlost hfenced hkept).2, brought_eq_nil_iff.mpr hmissed]
    rfl
  rw [outcomeFor, if_neg (by simpa using hempty), hstate, hrecords]

/-- Any other batch takes the device for gone. -/
theorem outcomeFor_of_not_spares (hwr : s.workers[worker]? = some wr) (hlost : wr.lost = false)
    (hfenced : wr.fenced = false) (hlisted : key ∈ wr.deviceIdentities)
    (hkey : ∀ o ∈ batch, o.key ≠ key) (h : ¬s.Spares worker wr.boot batch key)
    (policy : ObservationPolicy) (now : Timestamp) :
    ∃ d n, s.devices[key]? = some d ∧
      s.outcomeFor worker batch policy now key
        = ⟨some (disappearDevice d), List.replicate (n + 1) (disappearedRecord d s.epoch now)⟩ := by
  obtain ⟨hsent, h⟩ := not_or.mp h
  obtain ⟨haccepted, hfiled⟩ := not_or.mp h
  obtain ⟨d, hd⟩ := Option.ne_none_iff_exists'.mp hfiled
  have hgone : s.TakenForGone worker batch wr key :=
    ⟨hwr, hlost, hfenced, haccepted, hlisted, not_brings_of_no_key hkey _⟩
  obtain ⟨n, hrecords⟩ := recordsFor_gone policy now hgone hd
  refine ⟨d, n, hd, ?_⟩
  rw [outcomeFor, if_neg (by simpa using hsent), ingestSnapshot_gone hgone, hd, hrecords]
  rfl

/-- The device stays exactly when the batch spares it. -/
theorem staysFor_iff_spares (hwr : s.workers[worker]? = some wr) (hlost : wr.lost = false)
    (hfenced : wr.fenced = false) (hlisted : key ∈ wr.deviceIdentities)
    (hkey : ∀ o ∈ batch, o.key ≠ key) (policy : ObservationPolicy) (now : Timestamp) :
    s.StaysFor key (s.outcomeFor worker batch policy now key) ↔
      s.Spares worker wr.boot batch key := by
  constructor
  · intro hstays
    by_contra hnot
    obtain ⟨d, n, -, hout⟩ :=
      outcomeFor_of_not_spares hwr hlost hfenced hlisted hkey hnot policy now
    rw [hout] at hstays
    exact hstays.records _ List.mem_cons_self rfl
  · intro hspares
    rw [outcomeFor_of_spares hwr hlost hfenced hkey hspares]
    refine ⟨List.forall_mem_nil _, ?_⟩
    intro d hd hpresent
    exact ⟨d, hd, hpresent⟩

end Device

end FleetStateStore

namespace WorkerAgent.Publisher

theorem key_ne_of_probeFails {a : Publisher} {backend : DeviceBackend} {clock : Nat → Timestamp}
    {d : EnumeratedDevice} (h : backend.ProbeFails d) :
    ∀ o ∈ a.batch backend clock, o.key ≠ canonicalDeviceIdentity d.identity := by
  intro o ho
  obtain ⟨ev, d', probe, hev, hd', hprobe, hidentity⟩ := mem_batch ho
  rw [DeviceObservation.key, hidentity]
  exact h.unreported ev d' probe hev hd' hprobe

/-- For every backend and every store in which the agent is the current
incarnation of its worker, live, and owns a device whose probe fails: the
device stays, and the same happens to it as with any other results of the
other probes, exactly when neither batch is one that is sent and accepted
while the device is on file. -/
theorem failed_probe_harmless_iff (s : FleetStateStore) (a : Publisher)
    (backend backend' : DeviceBackend) (clock : Nat → Timestamp) (policy : ObservationPolicy)
    (now : Timestamp) {wr : WorkerRecord} {d : EnumeratedDevice}
    (hwr : s.workers[a.opts.worker]? = some wr) (hboot : wr.boot = a.opts.boot)
    (hlost : wr.lost = false) (hfenced : wr.fenced = false)
    (howned : canonicalDeviceIdentity d.identity ∈ wr.deviceIdentities)
    (hfails : backend.ProbeFails d) (hfails' : backend'.ProbeFails d) :
    let key := canonicalDeviceIdentity d.identity
    let out := fun b : DeviceBackend =>
      s.outcomeFor a.opts.worker (a.batch b clock) policy now key
    (s.StaysFor key (out backend) ∧ out backend' = out backend) ↔
      s.Spares a.opts.worker a.opts.boot (a.batch backend clock) key ∧
        s.Spares a.opts.worker a.opts.boot (a.batch backend' clock) key := by
  intro key out
  have hkey : ∀ o ∈ a.batch backend clock, o.key ≠ key := key_ne_of_probeFails hfails
  have hkey' : ∀ o ∈ a.batch backend' clock, o.key ≠ key := key_ne_of_probeFails hfails'
  have hstays : s.StaysFor key (out backend) ↔ _ :=
    staysFor_iff_spares hwr hlost hfenced howned hkey policy now
  have hstays' : s.StaysFor key (out backend') ↔ _ :=
    staysFor_iff_spares hwr hlost hfenced howned hkey' policy now
  rw [← hboot, ← hstays, ← hstays']
  constructor
  · rintro ⟨hfirst, heq⟩
    exact ⟨hfirst, heq ▸ hfirst⟩
  · rintro ⟨hfirst, hsecond⟩
    refine ⟨hfirst, ?_⟩
    have hout := outcomeFor_of_spares hwr hlost hfenced hkey (hstays.mp hfirst) policy now
    have hout' := outcomeFor_of_spares hwr hlost hfenced hkey' (hstays'.mp hsecond) policy now
    exact hout'.trans hout.symm

/-! ## A machine with two devices -/

/-- The device with the given ordinal. -/
def sampleDevice (ordinal : Int32) (uuid : String) : EnumeratedDevice where
  ordinal := ordinal
  identity := { vendor := .nvidia, uuid := ⟨text uuid⟩ }
  present := true

/-- Two devices, of which some answer their probe. -/
def sampleBackend (answers : Int32 → Bool) : DeviceBackend where
  enumerate := .ok [sampleDevice 0 "GPU-0", sampleDevice 1 "GPU-1"]
  probe := fun d =>
    if answers d.ordinal then .ok { identity := d.identity, enumerated := true, present := true }
    else .error (errorResult .unsupported "cudaMemGetInfo failed")

/-- An agent that is registered in epoch 1. -/
def samplePublisher : Publisher where
  opts := { boot := ⟨10⟩ }
  lastKnownEpoch := ⟨1⟩

/-- The agent after it has published both devices. -/
def samplePublished : Publisher :=
  (samplePublisher.publishSnapshot (sampleBackend fun _ => true) fun _ => 5000).1

/-- The key of the second device. -/
def sampleSecondKey : ByteString :=
  canonicalDeviceIdentity (sampleDevice 1 "GPU-1").identity

/-- The store after that. -/
def samplePublishedStore : FleetStateStore :=
  sampleStore.run [
    .registerWorker (sampleRegistration 1 10 1 [
      canonicalDeviceIdentity (sampleDevice 0 "GPU-0").identity, sampleSecondKey]) 1000,
    .ingestSnapshot ⟨1⟩ (samplePublisher.batch (sampleBackend fun _ => true) fun _ => 5000) {} 5000]

theorem sampleBackend_fails {answers : Int32 → Bool} (h : answers 1 = false) :
    (sampleBackend answers).ProbeFails (sampleDevice 1 "GPU-1") where
  enumerated := ⟨_, rfl, by decide⟩
  failed := ⟨_, by rw [sampleBackend]; exact if_neg (by rw [sampleDevice, h]; decide)⟩
  unreported := by
    intro ev d probe hev hd hprobe
    obtain rfl := Except.ok.inj hev
    unfold sampleBackend at hprobe
    dsimp only at hprobe
    split at hprobe
    · next hanswers =>
      obtain rfl := Except.ok.inj hprobe
      simp only [List.mem_cons, List.not_mem_nil, or_false] at hd
      rcases hd with rfl | rfl
      · decide +kernel
      · rw [sampleDevice, h] at hanswers
        cases hanswers
    · cases hprobe

/-- The record of the worker, as far as it matters here. -/
theorem samplePublishedStore_record :
    ∃ wr, samplePublishedStore.workers[samplePublished.opts.worker]? = some wr ∧
      wr.boot = samplePublished.opts.boot ∧ wr.lost = false ∧ wr.fenced = false ∧
      sampleSecondKey ∈ wr.deviceIdentities := by
  have hrecord : (samplePublishedStore.workers[samplePublished.opts.worker]?.map fun wr =>
      decide (wr.boot = samplePublished.opts.boot ∧ wr.lost = false ∧ wr.fenced = false ∧
        sampleSecondKey ∈ wr.deviceIdentities)) = some true := by
    decide +kernel
  obtain ⟨wr, hwr, hfields⟩ := Option.map_eq_some_iff.mp hrecord
  exact ⟨wr, hwr, of_decide_eq_true hfields⟩

/-- When no device answers, nothing is sent and nothing happens. -/
theorem sampleSilence_harmless :
    let out := fun b : DeviceBackend => samplePublishedStore.outcomeFor samplePublished.opts.worker
      (samplePublished.batch b fun _ => 6000) {} 6000 sampleSecondKey
    samplePublishedStore.StaysFor sampleSecondKey (out (sampleBackend fun _ => false)) ∧
      out (sampleBackend fun _ => false) = out (sampleBackend fun _ => false) := by
  obtain ⟨wr, hwr, hboot, hlost, hfenced, howned⟩ := samplePublishedStore_record
  have hfails : (sampleBackend fun _ => false).ProbeFails (sampleDevice 1 "GPU-1") :=
    sampleBackend_fails rfl
  have hempty : samplePublished.batch (sampleBackend fun _ => false) (fun _ => 6000) = [] := by
    decide +kernel
  exact (failed_probe_harmless_iff samplePublishedStore samplePublished
    (sampleBackend fun _ => false) (sampleBackend fun _ => false) (fun _ => 6000) {} 6000 hwr hboot
    hlost hfenced howned hfails hfails).mpr ⟨Or.inl hempty, Or.inl hempty⟩

/-- When only the first device answers, the second one is recorded as
disappeared, and so it does not fare as it does when neither answers. -/
theorem sampleSecond_disappears :
    let out := fun b : DeviceBackend => samplePublishedStore.outcomeFor samplePublished.opts.worker
      (samplePublished.batch b fun _ => 6000) {} 6000 sampleSecondKey
    (∃ wr, samplePublishedStore.workers[samplePublished.opts.worker]? = some wr ∧
      wr.boot = samplePublished.opts.boot ∧ wr.lost = false ∧ wr.fenced = false ∧
      sampleSecondKey ∈ wr.deviceIdentities) ∧
    (sampleBackend fun i => i = 0).ProbeFails (sampleDevice 1 "GPU-1") ∧
    (sampleBackend fun _ => false).ProbeFails (sampleDevice 1 "GPU-1") ∧
    ¬samplePublishedStore.StaysFor sampleSecondKey (out (sampleBackend fun i => i = 0)) ∧
      out (sampleBackend fun _ => false) ≠ out (sampleBackend fun i => i = 0) := by
  intro out
  -- the record of the worker lists the device twice, so there are two records
  have hgone : (out (sampleBackend fun i => i = 0)).records.map ChangeRecord.kind
      = [.deviceDisappeared, .deviceDisappeared] := by
    decide +kernel
  have hsilent : (out (sampleBackend fun _ => false)).records = [] := by
    decide +kernel
  refine ⟨samplePublishedStore_record, sampleBackend_fails rfl, sampleBackend_fails rfl, ?_, ?_⟩
  · intro hstays
    have hkinds : ChangeKind.deviceDisappeared
        ∈ (out (sampleBackend fun i => i = 0)).records.map ChangeRecord.kind := by
      rw [hgone]
      exact List.mem_cons_self
    obtain ⟨r, hr, hkind⟩ := List.mem_map.mp hkinds
    exact hstays.records r hr hkind
  · intro hsame
    rw [← hsame, hsilent] at hgone
    cases hgone

end WorkerAgent.Publisher

end GpuFleet
