import GpuFleet.Coordinator.Dispatch
import GpuFleet.Fleet.Disappearance
import GpuFleet.Fleet.Effects

/-!
# Messages with a stale envelope

A heartbeat is checked against its envelope.  A report is not: its handler
takes the worker from the envelope and the epoch and the boot id from each
observation in the payload, so a report with a stale envelope is ingested
like any other, and one with an empty batch has nothing left to be checked.
`stale_envelope_unchanged_iff` says which of these messages leave the store
as it was.
-/

namespace GpuFleet

/-- The messages that carry a batch of observations. -/
def Message.IsReport (msg : Message) : Prop :=
  msg.type = .deviceSnapshot ∨ msg.type = .healthReport ∨ msg.type = .capabilityReport

/-- The envelope is not from the current epoch or not from the incarnation
on record. -/
def Message.Stale (msg : Message) (s : FleetStateStore) (wr : WorkerRecord) : Prop :=
  msg.epoch ≠ s.epoch ∨ msg.workerBoot ≠ wr.boot

namespace Coordinator

open FleetStateStore

/-- What the report would write is nothing: the payload does not decode, or
the worker is turned away, or the gates let no observation pass and the end
of the ingest is not reached or finds everything written already. -/
def ReportInert (c : Coordinator) (now : Timestamp) (msg : Message) (wr : WorkerRecord) : Prop :=
  match decodeObservationBatch msg.payload with
  | .error _ => True
  | .ok obs =>
    wr.lost = true ∨ wr.fenced = true ∨
      (Verdict.pass ∉ verdicts c.store.epoch msg.worker wr.boot c.store.stampOf obs ∧
        (Refuses (verdicts c.store.epoch msg.worker wr.boot c.store.stampOf obs) ∨
          c.store.QuietEnd wr now))

/-! ## Heartbeats -/

/-- A heartbeat with a stale envelope is refused by the store, or it names
nobody and is not passed on. -/
theorem handleHeartbeat_stale {c : Coordinator} {now : Timestamp} {msg : Message}
    {wr : WorkerRecord} (hwr : c.store.workers[msg.worker]? = some wr)
    (hstale : msg.Stale c.store wr) :
    (c.handleHeartbeat now msg).coordinator.store = c.store := by
  unfold handleHeartbeat
  by_cases hnamed : (!msg.workerBoot.isZero || !msg.worker.isZero) = true
  · rw [if_pos hnamed]
    rcases c.store.heartbeat_cases msg.worker msg.workerBoot msg.epoch now msg.healthGen with
      ⟨h, _⟩ | ⟨wr', hepoch, hwr', hboot, _⟩
    · exact h.store
    · obtain rfl : wr = wr' := Option.some.inj (hwr.symm.trans hwr')
      rcases hstale with hstale | hstale
      · exact absurd hepoch hstale
      · exact absurd hboot.symm hstale
  · rw [if_neg hnamed]

/-! ## Reports -/

theorem dispatch_report {msg : Message} (h : msg.IsReport) (c : Coordinator) (now : Timestamp)
    (io : FileOutcomes) : c.dispatch now io msg = c.handleReport now msg := by
  unfold dispatch
  rcases h with h | h | h <;> rw [h]

/-- A report leaves the store exactly as it was if and only if it is inert. -/
theorem handleReport_unchanged_iff {c : Coordinator} {msg : Message} {wr : WorkerRecord}
    (now : Timestamp) (hwr : c.store.workers[msg.worker]? = some wr) :
    (c.handleReport now msg).coordinator.store = c.store ↔ c.ReportInert now msg wr := by
  unfold handleReport ReportInert
  cases decodeObservationBatch msg.payload with
  | error err => exact ⟨fun _ => trivial, fun _ => rfl⟩
  | ok obs =>
    simp only
    by_cases hdead : wr.lost = true ∨ wr.fenced = true
    · rw [ingestSnapshot_dead hwr hdead]
      refine ⟨fun _ => ?_, fun _ => rfl⟩
      rcases hdead with h | h
      · exact Or.inl h
      · exact Or.inr (Or.inl h)
    · obtain ⟨hlost, hfenced⟩ := not_or.mp hdead
      rw [ingestSnapshot_eq_self_iff hwr (by simpa using hlost) (by simpa using hfenced)]
      simp [hlost, hfenced]

/-! ## Both -/

/-- In every reachable state of the coordinator, a heartbeat or a report that
names a registered worker with a stale envelope leaves the store exactly as
it was if and only if it is a heartbeat or an inert report. -/
theorem stale_envelope_unchanged_iff (opts : Options) (disk : Disk) (events : List Event)
    (now : Timestamp) (io : FileOutcomes) (msg : Message) (wr : WorkerRecord)
    (htype : msg.type = .heartbeat ∨ msg.IsReport)
    (hwr : ((create opts disk).run events).store.workers[msg.worker]? = some wr)
    (hstale : msg.Stale ((create opts disk).run events).store wr) :
    (((create opts disk).run events).dispatch now io msg).coordinator.store
        = ((create opts disk).run events).store ↔
      msg.type = .heartbeat ∨ ((create opts disk).run events).ReportInert now msg wr := by
  generalize (create opts disk).run events = c at hwr hstale
  rcases htype with hbeat | hreport
  · have hdispatch : c.dispatch now io msg = c.handleHeartbeat now msg := by
      rw [dispatch, hbeat]
    rw [hdispatch]
    exact ⟨fun _ => Or.inl hbeat, fun _ => handleHeartbeat_stale hwr hstale⟩
  · have hnot : msg.type ≠ .heartbeat := by
      intro hbeat
      rcases hreport with h | h | h <;> rw [hbeat] at h <;> cases h
    rw [dispatch_report hreport, handleReport_unchanged_iff now hwr]
    simp only [hnot, false_or]

/-! ## A concrete run -/

/-- A report of an earlier incarnation and an earlier epoch, with an empty
batch. -/
def sampleStaleReport : Message where
  type := .deviceSnapshot
  workerBoot := ⟨9⟩
  worker := ⟨1⟩
  payload := encodeObservationBatch []

set_option maxRecDepth 4000 in
/-- A heartbeat of an earlier incarnation changes nothing. -/
theorem stale_heartbeat_unchanged :
    (((create {} (fun _ => none)).run sampleSession).dispatch 6000 {}
        { type := .heartbeat, epoch := ⟨1⟩, workerBoot := ⟨9⟩, worker := ⟨1⟩ }).coordinator.store
      = ((create {} (fun _ => none)).run sampleSession).store := by
  refine (stale_envelope_unchanged_iff {} (fun _ => none) sampleSession 6000 {}
    { type := .heartbeat, epoch := ⟨1⟩, workerBoot := ⟨9⟩, worker := ⟨1⟩ } _
    (Or.inl rfl) rfl (Or.inr ?_)).mpr (Or.inl rfl)
  decide

set_option maxRecDepth 4000 in
/-- The stale report takes the device of the worker away. -/
theorem stale_report_changes_store :
    ∃ wr, ((create {} (fun _ => none)).run sampleSession).store.workers[sampleStaleReport.worker]?
        = some wr ∧
      sampleStaleReport.Stale ((create {} (fun _ => none)).run sampleSession).store wr ∧
      (((create {} (fun _ => none)).run sampleSession).dispatch 6000 {}
          sampleStaleReport).coordinator.store
        ≠ ((create {} (fun _ => none)).run sampleSession).store := by
  refine ⟨_, rfl, Or.inr (by decide), ?_⟩
  intro hsame
  have hdevice := congrArg (fun s => (s.devices[sampleKey]?).map DeviceState.present) hsame
  revert hdevice
  decide

end Coordinator

end GpuFleet
