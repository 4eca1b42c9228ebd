import GpuFleet.Fleet.Disappearance
import GpuFleet.Fleet.Effects

/-!
# Failed calls and the state they leave

A call that returns an error should leave the store as it found it.  Every
method checks its arguments before it writes, except `ingest_snapshot`: its
loop checks and commits one observation at a time.  `SplitsBatch` is the
condition under which that shows, and `errorAtomic_iff` proves that it is
the only one.
-/

namespace GpuFleet

namespace FleetStateStore

/-- The call leaves no trace if it takes an error branch. -/
def ErrorAtomic (s : FleetStateStore) (op : Op) : Prop :=
  (s.exec op).Failed → s.step op = s ∧ (s.exec op).applied = []

/-- The call ingests a batch from which the gates let an observation pass
before they refuse one. -/
def SplitsBatch (s : FleetStateStore) : Op → Prop
  | .ingestSnapshot worker obs _ _ =>
    ∃ wr, s.workers[worker]? = some wr ∧ wr.lost = false ∧ wr.fenced = false ∧
      Verdict.pass ∈ verdicts s.epoch worker wr.boot s.stampOf obs ∧
      Refuses (verdicts s.epoch worker wr.boot s.stampOf obs)
  | _ => False

/-- Every call but an ingest is atomic: it checks before it writes. -/
theorem errorAtomic_of_not_ingest {s : FleetStateStore} {op : Op} (hingest : ¬op.IsIngest) :
    s.ErrorAtomic op := by
  intro hfailed
  rcases exec_refused_or_done hingest (s := s) with h | ⟨_, h⟩
  · exact ⟨h.store, h.applied⟩
  · exact absurd hfailed h.ok

/-! ## Ingest -/

/-- A worker that is turned away loses its whole batch. -/
theorem ingestSnapshot_refused {s : FleetStateStore} {worker : WorkerId}
    (obs : List DeviceObservation) (policy : ObservationPolicy) (now : Timestamp)
    (hdead : ∀ wr, s.workers[worker]? = some wr → wr.lost = true ∨ wr.fenced = true) :
    (s.ingestSnapshot worker obs policy now).Refused s := by
  cases hwr : s.workers[worker]? with
  | none =>
    rw [ingestSnapshot_unregistered hwr]
    exact ⟨Outcome.failed_error, rfl, rfl, rfl⟩
  | some wr =>
    rw [ingestSnapshot_dead hwr (hdead wr hwr)]
    exact ⟨Outcome.failed_error, rfl, rfl, rfl⟩

/-- A live worker gets an error exactly when the gates refuse an observation
of its batch. -/
theorem ingestSnapshot_failed_iff {s : FleetStateStore} {worker : WorkerId}
    (obs : List DeviceObservation) (policy : ObservationPolicy) (now : Timestamp)
    {wr : WorkerRecord} (hwr : s.workers[worker]? = some wr) (hlost : wr.lost = false)
    (hfenced : wr.fenced = false) :
    (s.ingestSnapshot worker obs policy now).Failed ↔
      Refuses (verdicts s.epoch worker wr.boot s.stampOf obs) := by
  have hok := ingestLoop_ok_iff worker wr.boot policy now obs { store := s }
  rcases ingestSnapshot_ends hwr hlost hfenced with ⟨err, hfails, hingest⟩ | ⟨hends, hingest⟩
  · rw [hingest]
    refine ⟨fun _ => ?_, fun _ => Outcome.failed_error⟩
    by_contra hnot
    cases hfails.symm.trans (hok.mpr hnot)
  · rw [hingest]
    exact ⟨fun h => absurd h Outcome.not_failed_ok, fun h => absurd h (hok.mp hends)⟩

/-- An ingest is atomic exactly when its batch is not split. -/
theorem ingestSnapshot_errorAtomic_iff (s : FleetStateStore) (worker : WorkerId)
    (obs : List DeviceObservation) (policy : ObservationPolicy) (now : Timestamp) :
    s.ErrorAtomic (.ingestSnapshot worker obs policy now) ↔
      ¬s.SplitsBatch (.ingestSnapshot worker obs policy now) := by
  have hvoid : (s.exec (.ingestSnapshot worker obs policy now)).Failed ↔
      (s.ingestSnapshot worker obs policy now).Failed := Outcome.void_failed _
  constructor
  · intro hatomic hsplits
    obtain ⟨wr, hwr, hlost, hfenced, hpass, hrefuses⟩ := hsplits
    have hfailed := (ingestSnapshot_failed_iff obs policy now hwr hlost hfenced).mpr hrefuses
    -- What passed was filed, and the error did not take it back.
    exact ingestSnapshot_ne_of_pass hwr hlost hfenced hpass (hatomic (hvoid.mpr hfailed)).1
  · intro hwhole hfailed
    rcases ingest_live_or_refused s worker with hdead | ⟨wr, hwr, hlost, hfenced⟩
    · have hrefused := ingestSnapshot_refused obs policy now hdead
      exact ⟨hrefused.store, hrefused.applied⟩
    · have hrefuses := (ingestSnapshot_failed_iff obs policy now hwr hlost hfenced).mp
        (hvoid.mp hfailed)
      have hpass : Verdict.pass ∉ verdicts s.epoch worker wr.boot s.stampOf obs := by
        intro hpass
        exact hwhole ⟨wr, hwr, hlost, hfenced, hpass, hrefuses⟩
      refine ⟨(ingestSnapshot_eq_self_iff hwr hlost hfenced).mpr ⟨hpass, Or.inl hrefuses⟩, ?_⟩
      show (s.ingestSnapshot worker obs policy now).applied = []
      rw [ingestSnapshot_applied hwr hlost hfenced,
        ingestLoop_eq_self worker wr.boot policy now obs { store := s } hpass]

/-- In every reachable state and for every call: the call leaves no trace on
its error branches, unless it ingests a batch from which the gates accept an
observation before they refuse one. -/
theorem errorAtomic_iff (coord : CoordinatorId) (epoch : CoordinatorEpoch) (ops : List Op)
    (op : Op) :
    ((empty coord epoch).run ops).ErrorAtomic op ↔
      ¬((empty coord epoch).run ops).SplitsBatch op := by
  cases op with
  | ingestSnapshot worker obs policy now =>
    exact ingestSnapshot_errorAtomic_iff _ worker obs policy now
  | _ => exact ⟨fun _ hsplits => hsplits, fun _ => errorAtomic_of_not_ingest fun h => h⟩

set_option maxRecDepth 4000 in
/-- A batch of a good observation and one of another epoch: the call returns
an error, and the first observation is on file. -/
theorem ingest_not_errorAtomic :
    ¬(sampleStore.run [.registerWorker (sampleRegistration 1 10 1) 1000]).ErrorAtomic
      (.ingestSnapshot ⟨1⟩
        [sampleObservation 1 10 1, { sampleObservation 1 10 2 with epoch := ⟨9⟩ }] {} 5000) := by
  intro h
  have hfailed := h ⟨_, rfl⟩
  have hcount := congrArg (fun t => t.acceptedObservations) hfailed.1
  revert hcount
  decide

end FleetStateStore

end GpuFleet
