import GpuFleet.Fleet.Disappearance
import GpuFleet.Fleet.Effects

/-!
# Replayed observations

Two results about observations that arrive again.

* A batch that holds nothing new is skipped observation by observation, but
  a skipped observation does not count as seen, so the disappearance loop
  then takes every device of the worker for gone.  `replay_harmless_iff`
  says that the batch is harmless exactly when that loop finds nothing.
* The generation gate compares with the record on file, and only when that
  record is from the same incarnation.  `applied_increasing_iff` says that the
  observations of an incarnation are applied in increasing order exactly as
  long as no incarnation returns, with an old generation, to a device that
  another one has reported since.
-/

namespace GpuFleet

namespace FleetStateStore

/-! ## A batch with nothing new -/

/-- The call leaves every device as it was and records no change. -/
def Harmless (s : FleetStateStore) (op : Op) : Prop :=
  (s.step op).devices = s.devices ∧ (s.step op).changeLog = s.changeLog ∧
    (s.exec op).logged = []

/-- Every observation of the batch is authentic for the worker, and none is
newer than what is on file for its device and the same incarnation. -/
def StaleBatch (s : FleetStateStore) (worker : WorkerId) (boot : WorkerBootId)
    (obs : List DeviceObservation) : Prop :=
  ∀ o ∈ obs, o.epoch = s.epoch ∧ o.sourceWorkerBoot = boot ∧ o.sourceWorker = worker ∧
    ∃ d, s.devices[o.key]? = some d ∧ d.sourceWorkerBoot = boot ∧
      o.observationGeneration ≤ d.observationGeneration

section Stale

variable {worker : WorkerId} {boot : WorkerBootId} {policy : ObservationPolicy}
  {now : Timestamp}

/-- The loop goes through a stale batch without a trace: no commit, no error,
and no key marked as seen. -/
theorem ingestLoop_of_staleBatch {obs : List DeviceObservation} {st : IngestState}
    (hstale : st.store.StaleBatch worker boot obs) :
    ingestLoop worker boot policy now obs st = (st, .ok ()) := by
  induction obs with
  | nil => rfl
  | cons o rest ih =>
    have hrest : st.store.StaleBatch worker boot rest := by
      intro o' ho'
      exact hstale o' (List.mem_cons_of_mem o ho')
    obtain ⟨hepoch, hboot, hworker, d, hd, hdboot, hgen⟩ := hstale o List.mem_cons_self
    have hfile : st.store.stampOf o.key = some d.stamp := by
      rw [stampOf, hd, Option.map_some]
    have hskip : gate st.store.epoch worker boot (st.store.stampOf o.key) o = .skip := by
      rw [hfile]
      exact gate_eq_skip hepoch hboot hworker hdboot hgen
    rw [ingestLoop, hskip]
    exact ih hrest

/-- What the ingest of a stale batch does for a live worker: the end of the
method, on the store as it was and with nothing seen. -/
theorem ingestSnapshot_of_staleBatch {s : FleetStateStore} {obs : List DeviceObservation}
    {wr : WorkerRecord} (hwr : s.workers[worker]? = some wr) (hlost : wr.lost = false)
    (hfenced : wr.fenced = false) (hstale : s.StaleBatch worker wr.boot obs) :
    s.ingestSnapshot worker obs policy now = finishIngest { store := s } worker now := by
  have hloop : ingestLoop worker wr.boot policy now obs { store := s }
      = ({ store := s }, .ok ()) := ingestLoop_of_staleBatch hstale
  rw [ingestSnapshot_live hwr hlost hfenced, hloop]

end Stale

/-- In every reachable state, a batch that holds nothing new for a worker
that is not fenced is harmless exactly when the worker is lost or owns no
device that is on file. -/
theorem replay_harmless_iff (coord : CoordinatorId) (epoch : CoordinatorEpoch) (ops : List Op)
    (worker : WorkerId) (wr : WorkerRecord) (obs : List DeviceObservation)
    (policy : ObservationPolicy) (now : Timestamp)
    (hwr : ((empty coord epoch).run ops).workers[worker]? = some wr)
    (hfenced : wr.fenced = false)
    (hstale : ((empty coord epoch).run ops).StaleBatch worker wr.boot obs) :
    ((empty coord epoch).run ops).Harmless (.ingestSnapshot worker obs policy now) ↔
      wr.lost = true ∨
        ∀ key ∈ wr.deviceIdentities, ((empty coord epoch).run ops).devices[key]? = none := by
  generalize (empty coord epoch).run ops = s at hwr hstale
  unfold Harmless step
  simp only [exec, Outcome.void]
  cases hlost : wr.lost with
  | true =>
    rw [ingestSnapshot_dead hwr (Or.inl hlost)]
    simp
  | false =>
    rw [ingestSnapshot_of_staleBatch hwr hlost hfenced hstale, finishIngest_eq,
      goneKeys_start hwr]
    have hrecords := s.goneRecords_eq_nil_iff wr.deviceIdentities now
    constructor
    · intro h
      exact Or.inr (hrecords.mp h.2.2)
    · intro h
      have hnone : ∀ key ∈ wr.deviceIdentities, s.devices[key]? = none := by
        rcases h with h | h
        · cases h
        · exact h
      have hdevices : wr.deviceIdentities.foldl (fun m key => m.modify key disappearDevice)
          s.devices = s.devices := by
        apply (OrderedMap.foldl_modify_eq_self_iff _ disappearDevice_idem _).mpr
        intro key hmem d hd
        rw [hnone key hmem] at hd
        cases hd
      have hlogged := hrecords.mpr hnone
      refine ⟨hdevices, ?_, hlogged⟩
      show pushChanges s.changeLog (s.goneRecords wr.deviceIdentities now) = s.changeLog
      rw [hlogged]
      rfl

set_option maxRecDepth 4000 in
/-- After a further registration without devices the batch is harmless. -/
theorem replay_harmless_after_reaffirmation :
    (sampleStore.run (sampleReport ++ [.registerWorker (sampleRegistration 1 10 2) 6000])).Harmless
      (.ingestSnapshot ⟨1⟩ [sampleObservation 1 10 1] {} 5000) := by
  refine (replay_harmless_iff _ _ _ ⟨1⟩ _ _ {} 5000 rfl rfl ?_).mpr (Or.inr ?_)
  · intro o ho
    rw [List.mem_singleton.mp ho]
    exact ⟨rfl, rfl, rfl, _, rfl, rfl, le_refl _⟩
  · intro key hkey
    cases hkey

set_option maxRecDepth 4000 in
/-- Without it, the second delivery of the batch is recorded as the
disappearance of the device. -/
theorem replay_not_harmless :
    ∃ wr, (sampleStore.run sampleReport).workers[(⟨1⟩ : WorkerId)]? = some wr ∧ wr.fenced = false ∧
      (sampleStore.run sampleReport).StaleBatch ⟨1⟩ wr.boot [sampleObservation 1 10 1] ∧
      ¬(sampleStore.run sampleReport).Harmless
        (.ingestSnapshot ⟨1⟩ [sampleObservation 1 10 1] {} 5000) := by
  refine ⟨_, rfl, rfl, ?_, ?_⟩
  · intro o ho
    rw [List.mem_singleton.mp ho]
    exact ⟨rfl, rfl, rfl, _, rfl, rfl, le_refl _⟩
  · intro hharmless
    exact absurd hharmless.2.2 (by decide)

/-! ## The order of application -/

/-- The observations of one incarnation on one device are applied with
increasing generations. -/
def InOrder (apps : List Application) : Prop :=
  apps.Pairwise fun a a' =>
    a.key = a'.key → a.obs.sourceWorkerBoot = a'.obs.sourceWorkerBoot →
      a.obs.observationGeneration < a'.obs.observationGeneration

/-- The batch brings a device back to the incarnation of the worker: `o` is
the first observation of its device in the batch, it is authentic and no
observation before it is refused, and the record `d` on file is of another
incarnation. -/
structure ComesBack (s : FleetStateStore) (worker : WorkerId) (obs : List DeviceObservation)
    (wr : WorkerRecord) (before : List DeviceObservation) (o : DeviceObservation)
    (d : DeviceState) : Prop where
  record : s.workers[worker]? = some wr
  lost : wr.lost = false
  fenced : wr.fenced = false
  batch : ∃ after, obs = before ++ o :: after
  accepted : ¬Refuses (verdicts s.epoch worker wr.boot s.stampOf before)
  first : ∀ o' ∈ before, o'.key ≠ o.key
  epoch : o.epoch = s.epoch
  boot : o.sourceWorkerBoot = wr.boot
  worker : o.sourceWorker = worker
  onFile : s.devices[o.key]? = some d
  other : d.sourceWorkerBoot ≠ wr.boot

/-- An incarnation that comes back to a device does so with a generation that
is above those it had there before. -/
def ReturnsNewer (past : List (FleetStateStore × Op)) (call : FleetStateStore × Op) : Prop :=
  match call.2 with
  | .ingestSnapshot worker obs _ _ =>
    ∀ wr before o d, call.1.ComesBack worker obs wr before o d →
      ∀ a ∈ applicationsOf past, a.key = o.key → a.obs.sourceWorkerBoot = wr.boot →
        a.obs.observationGeneration < o.observationGeneration
  | _ => True

/-- The observation that comes back is applied. -/
theorem ComesBack.applies {s : FleetStateStore} {worker : WorkerId}
    {obs : List DeviceObservation} {wr : WorkerRecord} {before : List DeviceObservation}
    {o : DeviceObservation} {d : DeviceState} (h : s.ComesBack worker obs wr before o d)
    (policy : ObservationPolicy) (now : Timestamp) :
    ∃ st, s.Applies worker obs policy now wr before o st := by
  have hok := (ingestLoop_ok_iff worker wr.boot policy now before { store := s }).mpr h.accepted
  have hepoch := ingestLoop_epoch worker wr.boot policy now before { store := s }
  have hkept : (ingestLoop worker wr.boot policy now before { store := s }).1.store.devices[o.key]?
      = s.devices[o.key]? := ingestLoop_devices_of_not_mem h.first
  generalize hout : ingestLoop worker wr.boot policy now before { store := s } = out
    at hok hepoch hkept
  obtain ⟨st, res⟩ := out
  obtain rfl : res = .ok () := hok
  refine ⟨st, h.record, h.lost, h.fenced, h.batch, hout, ?_⟩
  have hfile : st.store.stampOf o.key = some d.stamp := by
    rw [stampOf, hkept, h.onFile, Option.map_some]
  rw [hfile]
  exact gate_eq_pass (h.epoch.trans hepoch.symm) h.boot h.worker h.other

/-- The record of a device remembers the generation of every observation of
its own incarnation, and the order is kept. -/
structure Ordered (apps : List Application) (s : FleetStateStore) : Prop where
  inOrder : InOrder apps
  remembered : ∀ a ∈ apps, ∃ p, s.stampOf a.key = some p ∧
    (p.sourceWorkerBoot = a.obs.sourceWorkerBoot →
      a.obs.observationGeneration ≤ p.observationGeneration)

theorem Ordered.of_stampOf {apps : List Application} {s t : FleetStateStore}
    (h : Ordered apps s) (hsame : ∀ key, t.stampOf key = s.stampOf key) : Ordered apps t := by
  refine ⟨h.inOrder, ?_⟩
  intro a ha
  rw [hsame]
  exact h.remembered a ha

/-- An observation that an ingest applies is above every earlier one of its
incarnation on its device. -/
theorem Applies.above {s : FleetStateStore} {worker : WorkerId} {obs : List DeviceObservation}
    {policy : ObservationPolicy} {now : Timestamp} {wr : WorkerRecord}
    {before : List DeviceObservation} {o : DeviceObservation} {st : IngestState}
    {apps : List Application} (h : s.Applies worker obs policy now wr before o st)
    (hreturns : ∀ wr before o d, s.ComesBack worker obs wr before o d →
      ∀ a ∈ apps, a.key = o.key → a.obs.sourceWorkerBoot = wr.boot →
        a.obs.observationGeneration < o.observationGeneration)
    (hordered : Ordered (apps ++ st.applied) st.store) :
    ∀ a ∈ apps ++ st.applied, a.key = o.key → a.obs.sourceWorkerBoot = o.sourceWorkerBoot →
      a.obs.observationGeneration < o.observationGeneration := by
  intro a ha hkey hboot
  obtain ⟨hepoch, hoboot, hworker, hgen⟩ := gate_pass h.passed
  obtain ⟨p, hp, hle⟩ := hordered.remembered a ha
  rw [hkey] at hp
  have haboot : a.obs.sourceWorkerBoot = wr.boot := hboot.trans hoboot
  by_cases hsame : p.sourceWorkerBoot = wr.boot
  · -- The gate compared with a record that remembers `a`.
    exact lt_of_le_of_lt (hle (hsame.trans haboot.symm)) (hgen p hp hsame)
  -- Otherwise the record is from before the batch, and `a` is too.
  have hreached : (ingestLoop worker wr.boot policy now before { store := s }).1 = st := by
    rw [h.reached]
  have hok : (ingestLoop worker wr.boot policy now before { store := s }).2 = .ok () := by
    rw [h.reached]
  have hepoch' := ingestLoop_epoch worker wr.boot policy now before { store := s }
  have heffect := ingestLoop_effect s worker wr.boot policy now before o.key
  rw [hreached] at hepoch' heffect
  obtain ⟨d, hd, rfl⟩ := Option.map_eq_some_iff.mp hp
  cases heffect with
  | renewed d' hd' hboot' _ =>
    rw [hd] at hd'
    cases hd'
    exact absurd hboot' hsame
  | kept hrecord hnone =>
    have hback : s.ComesBack worker obs wr before o d := by
      refine ⟨h.record, h.lost, h.fenced, h.batch, ?_, ?_, hepoch.trans hepoch', hoboot,
        hworker, hrecord.symm.trans hd, hsame⟩
      · exact (ingestLoop_ok_iff worker wr.boot policy now before { store := s }).mp hok
      · intro o' ho' hkey'
        obtain ⟨p', hp', hboot'⟩ := ingestLoop_ok_holds hok ho'
        rw [hreached, hkey', stampOf, hd] at hp'
        cases hp'
        exact hsame hboot'
    rcases List.mem_append.mp ha with ha | ha
    · exact hreturns wr before o d hback a ha hkey haboot
    · exact absurd hkey (hnone a ha)

/-- One call keeps the order. -/
theorem ordered_step {past : List (FleetStateStore × Op)} {s : FleetStateStore} {op : Op}
    (hrestore : ¬op.IsRestore) (hreturns : ReturnsNewer past (s, op))
    (h : Ordered (applicationsOf past) s) :
    Ordered (applicationsOf (past ++ [(s, op)])) (s.step op) := by
  rw [applicationsOf_concat]
  by_cases hingest : op.IsIngest
  · cases op with
    | ingestSnapshot worker obs policy now =>
      apply ingestSnapshot_invariant (P := fun t as => Ordered as t) _ h
      · intro wr before o st happlies hordered
        have habove := happlies.above hreturns hordered
        refine ⟨?_, ?_⟩
        · refine List.pairwise_append.mpr ⟨hordered.inOrder, List.pairwise_singleton _ _, ?_⟩
          intro a ha a' ha'
          rw [List.mem_singleton.mp ha']
          exact habove a ha
        · intro a ha
          rw [commit_stampOf]
          by_cases hkey : o.key = a.key
          · rw [if_pos hkey]
            refine ⟨o.stamp, rfl, ?_⟩
            intro hboot
            rcases List.mem_append.mp ha with ha | ha
            · exact le_of_lt (habove a ha hkey.symm hboot.symm)
            · rw [List.mem_singleton.mp ha]
              exact le_refl _
          · rw [if_neg hkey]
            rcases List.mem_append.mp ha with ha | ha
            · exact hordered.remembered a ha
            · rw [List.mem_singleton.mp ha] at hkey
              exact absurd rfl hkey
      · intro t as key d hordered hd
        exact hordered.of_stampOf (t.markDisappeared_stampOf now hd)
      · intro t as hordered
        exact hordered.of_stampOf (t.touchWorker_stampOf worker now)
    | _ => exact absurd hingest fun h => h
  · rw [exec_applied hingest, List.append_nil]
    exact h.of_stampOf (step_stampOf hingest hrestore)

/-- In every run without a recovery, the observations of an incarnation are
applied to a device in the order of their generations exactly when no step
of the run brings a device back with an old one. -/
theorem applied_increasing_iff (coord : CoordinatorId) (epoch : CoordinatorEpoch)
    (ops : List Op) (hrestore : ∀ op ∈ ops, ¬op.IsRestore) :
    InOrder (applicationsOf ((empty coord epoch).history ops)) ↔
      Run.Always ReturnsNewer ((empty coord epoch).history ops) := by
  constructor
  · intro horder past call after hhistory
    obtain ⟨s, op⟩ := call
    cases op with
    | ingestSnapshot worker obs policy now =>
      intro wr before o d hback a ha hkey hboot
      obtain ⟨st, happlies⟩ := hback.applies policy now
      have hmem := happlies.mem_applied
      -- Both are in the trace of the run, `a` first.
      rw [hhistory, applicationsOf, List.flatMap_append, List.flatMap_cons] at horder
      have hpair := (List.pairwise_append.mp horder).2.2 a ha _ (List.mem_append_left _ hmem)
      exact hpair hkey (hboot.trans hback.boot.symm)
    | _ => trivial
  · intro hreturns
    have hrun : Ordered (applicationsOf ((empty coord epoch).history ops))
        ((empty coord epoch).run ops) := by
      apply Run.history_invariant (I := fun past s => Ordered (applicationsOf past) s) _ _ ops
        ((Run.always_of_forall_mem hrestore).and hreturns)
      · exact ⟨List.Pairwise.nil, by simp⟩
      · intro past s op hcond hordered
        exact ordered_step hcond.1 hcond.2 hordered
    exact hrun.inOrder

set_option maxRecDepth 4000 in
/-- In a fleet of two workers with devices of their own, none of them comes back
with an old report. -/
theorem sampleFleet_returnsNewer : Run.Always ReturnsNewer (sampleStore.history sampleFleet) :=
  (applied_increasing_iff _ _ sampleFleet sampleFleet_not_isRestore).mp
    (by unfold InOrder; decide +kernel)

set_option maxRecDepth 4000 in
/-- Two workers that report the same device: once the first one has reported
it, the last observation of the second one is applied again. -/
theorem applied_not_increasing :
    ¬InOrder (applicationsOf (sampleStore.history (sampleSharedReport ++
      [.ingestSnapshot ⟨2⟩ [sampleObservation 2 20 1] {} 5000]))) := by
  unfold InOrder
  decide

end FleetStateStore

end GpuFleet
