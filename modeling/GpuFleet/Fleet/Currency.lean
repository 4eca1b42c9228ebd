import GpuFleet.Fleet.Atomicity
import GpuFleet.Fleet.Freshness

/-!
# How long a device is reported as current

An observation is compared with the clock once, when `ingest_snapshot`
applies it.  The verdict is stored with the device, and a reader gets it
back at any later time: `snapshot` does not read the clock, and neither does
`recompute_device_eligibility`.

`freshAt_iff_since` says what the stored verdict means in terms of the calls
of a run: the last report of the device arrived fresh, and the device was
neither withdrawn nor reported since.  `snapshot_current_iff` follows: what
is reported as current is of the last `T` milliseconds exactly when every
such report is.
-/

namespace GpuFleet

open Run

/-- The time of the observation that the device is fresh by. -/
def DeviceState.freshTime (d : DeviceState) : Option Timestamp :=
  if d.observationFresh then some d.lastObservedAt else none

/-- The time of an observation that was fresh when it was applied. -/
def Application.freshTime (a : Application) : Option Timestamp :=
  if a.outcome.fresh then some a.obs.observedAt else none

theorem DeviceState.freshTime_eq_some_iff {d : DeviceState} {t : Timestamp} :
    d.freshTime = some t ↔ d.observationFresh = true ∧ d.lastObservedAt = t := by
  unfold freshTime
  by_cases h : d.observationFresh = true
  · simp [h]
  · simp [h]

theorem Application.freshTime_eq_some_iff {a : Application} {t : Timestamp} :
    a.freshTime = some t ↔ a.outcome.fresh = true ∧ a.obs.observedAt = t := by
  unfold freshTime
  by_cases h : a.outcome.fresh = true
  · simp [h]
  · simp [h]

/-- The last of the applications to the device. -/
def lastOn (apps : List Application) (key : ByteString) : Option Application :=
  (apps.filter fun a => decide (a.key = key)).getLast?

@[simp] theorem lastOn_nil (key : ByteString) : lastOn [] key = none := rfl

theorem lastOn_concat (apps : List Application) (a : Application) (key : ByteString) :
    lastOn (apps ++ [a]) key = if a.key = key then some a else lastOn apps key := by
  unfold lastOn
  rw [List.filter_append]
  by_cases h : a.key = key
  · simp [h]
  · simp [h]

namespace FleetStateStore

/-- The time of the observation that the device on file is fresh by. -/
def freshAt (s : FleetStateStore) (key : ByteString) : Option Timestamp :=
  s.devices[key]?.bind DeviceState.freshTime

/-- The last observation that the call applies to the device. -/
def lastReport (s : FleetStateStore) (op : Op) (key : ByteString) : Option Application :=
  lastOn (s.exec op).applied key

/-- The call takes the device back: it loses its worker, finds it gone, or
replaces the whole store. -/
def Withdraws (s : FleetStateStore) (key : ByteString) : Op → Prop
  | .restore _ => True
  | .markWorkerLost w _ => ∃ wr, s.workers[w]? = some wr ∧ key ∈ wr.deviceIdentities
  | .ingestSnapshot worker obs _ _ => ∃ wr, s.TakenForGone worker obs wr key
  | _ => False

/-- What a call does to the freshness of one device. -/
inductive FreshStep (s : FleetStateStore) (op : Op) (key : ByteString) : Prop
  | reported (a : Application) (hreport : s.lastReport op key = some a)
      (hafter : (s.step op).freshAt key = a.freshTime)
  | withdrawn (hreport : s.lastReport op key = none) (hwithdraws : s.Withdraws key op)
      (hafter : (s.step op).freshAt key = none)
  | kept (hreport : s.lastReport op key = none) (hwithdraws : ¬s.Withdraws key op)
      (hafter : (s.step op).freshAt key = s.freshAt key)

/-! ## Ingest -/

section Ingest

variable {s : FleetStateStore} {worker : WorkerId} {obs : List DeviceObservation}
  {policy : ObservationPolicy} {now : Timestamp} {wr : WorkerRecord}

/-- After the loop, a device that was reported is in the state that its last
application computed, and the loop has seen it. -/
theorem ingestLoop_lastOn (s : FleetStateStore) (worker : WorkerId) (boot : WorkerBootId)
    (policy : ObservationPolicy) (now : Timestamp) (obs : List DeviceObservation)
    (key : ByteString) :
    let st := (ingestLoop worker boot policy now obs { store := s }).1
    (lastOn st.applied key = none ∧ key ∉ st.seenKeys) ∨
      ∃ a, lastOn st.applied key = some a ∧ key ∈ st.seenKeys ∧
        st.store.freshAt key = a.freshTime := by
  apply ingestLoop_invariant
    (P := fun st => (lastOn st.applied key = none ∧ key ∉ st.seenKeys) ∨
      ∃ a, lastOn st.applied key = some a ∧ key ∈ st.seenKeys ∧
        st.store.freshAt key = a.freshTime)
  · intro _ o _ st _ _ _ hP
    simp only [IngestState.commit, lastOn_concat, List.mem_cons]
    by_cases hkey : o.key = key
    · refine Or.inr ⟨_, if_pos hkey, Or.inl hkey.symm, ?_⟩
      rw [freshAt, commit_devices, if_pos hkey]
      rfl
    · have hsame : (st.store.commit worker o policy now).freshAt key = st.store.freshAt key := by
        rw [freshAt, commit_devices, if_neg hkey, freshAt]
      rw [if_neg hkey, hsame]
      rcases hP with ⟨hnone, hseen⟩ | ⟨a, ha, hseen, hfresh⟩
      · refine Or.inl ⟨hnone, ?_⟩
        rintro (h | h)
        · exact hkey h.symm
        · exact hseen h
      · exact Or.inr ⟨a, ha, Or.inr hseen, hfresh⟩
  · exact Or.inl ⟨rfl, List.not_mem_nil⟩

/-- The end of an ingest does not come to a device that the loop has seen. -/
theorem finishIngest_freshAt {st : IngestState} {key : ByteString} (hseen : key ∈ st.seenKeys)
    (worker : WorkerId) (now : Timestamp) :
    (finishIngest st worker now).store.freshAt key = st.store.freshAt key := by
  have hnot : key ∉ goneKeys st worker := by
    rw [goneKeys, List.mem_filter]
    simp [hseen]
  rw [freshAt, finishIngest_devices, if_neg hnot, freshAt]

theorem ingestSnapshot_freshStep_live (hwr : s.workers[worker]? = some wr)
    (hlost : wr.lost = false) (hfenced : wr.fenced = false) (key : ByteString) :
    FreshStep s (.ingestSnapshot worker obs policy now) key := by
  have happlied : (s.exec (.ingestSnapshot worker obs policy now)).applied
      = (ingestLoop worker wr.boot policy now obs { store := s }).1.applied :=
    ingestSnapshot_applied hwr hlost hfenced
  have hseen := mem_ingestLoop_seenKeys worker wr.boot policy now obs { store := s } key
  rcases ingestLoop_lastOn s worker wr.boot policy now obs key with
    ⟨hnone, hnot⟩ | ⟨a, ha, hmem, hfresh⟩
  · have hreport : s.lastReport (.ingestSnapshot worker obs policy now) key = none := by
      rw [lastReport, happlied, hnone]
    have hmissed : ¬Brings obs (verdicts s.epoch worker wr.boot s.stampOf obs) key :=
      fun h => hnot (hseen.mpr (Or.inr h))
    by_cases hgone : s.TakenForGone worker obs wr key
    · refine .withdrawn hreport ⟨wr, hgone⟩ ?_
      rw [step, exec, Outcome.void, freshAt, ingestSnapshot_gone hgone]
      cases s.devices[key]? <;> rfl
    · refine .kept hreport ?_ ?_
      · rintro ⟨wr', hgone'⟩
        obtain rfl : wr = wr' := Option.some.inj (hwr.symm.trans hgone'.record)
        exact hgone hgone'
      · rw [step, exec, Outcome.void, freshAt, ingestSnapshot_kept hwr hmissed hgone, freshAt]
  · refine .reported a ?_ ?_
    · rw [lastReport, happlied, ha]
    · rw [← hfresh, step, exec, Outcome.void]
      rcases ingestSnapshot_ends hwr hlost hfenced with ⟨err, -, hingest⟩ | ⟨-, hingest⟩
      · rw [hingest]
      · rw [hingest]
        exact finishIngest_freshAt hmem worker now

theorem ingestSnapshot_freshStep (s : FleetStateStore) (worker : WorkerId)
    (obs : List DeviceObservation) (policy : ObservationPolicy) (now : Timestamp)
    (key : ByteString) : FreshStep s (.ingestSnapshot worker obs policy now) key := by
  rcases ingest_live_or_refused s worker with hdead | ⟨wr, hwr, hlost, hfenced⟩
  · have hrefused := ingestSnapshot_refused obs policy now hdead
    refine .kept ?_ ?_ ?_
    · rw [lastReport, exec, Outcome.void, hrefused.applied, lastOn_nil]
    · rintro ⟨wr, hgone⟩
      rcases hdead wr hgone.record with hflag | hflag
      · cases hgone.lost.symm.trans hflag
      · cases hgone.fenced.symm.trans hflag
    · rw [step, exec, Outcome.void, hrefused.store]
  · exact ingestSnapshot_freshStep_live hwr hlost hfenced key

end Ingest

/-! ## All calls -/

/-- The administrative calls keep the freshness of every device. -/
theorem adminEffect_freshAt {s : FleetStateStore} {identity : ByteString} {out : Outcome Unit}
    (h : AdminEffect s identity out) (key : ByteString) :
    out.store.freshAt key = s.freshAt key := by
  rcases h with h | ⟨d, d', log, hd, hedit, h⟩
  · rw [h.store]
  · rw [h.store]
    simp only [freshAt, OrderedMap.getElem?_insert]
    by_cases hkey : identity = key
    · have hobserved := congrArg DeviceState.lastObservedAt hedit.rest
      have hfresh := hedit.observationFresh
      rw [if_pos hkey, ← hkey, hd]
      simp only [Option.bind_some, DeviceState.freshTime, recomputeDeviceEligibility]
      rw [hobserved, hfresh]
    · rw [if_neg hkey]

/-- A call that neither ingests, loses nor restores keeps the freshness. -/
theorem FreshStep.of_same {s : FleetStateStore} {op : Op} {key : ByteString}
    (hingest : ¬op.IsIngest) (hwithdraws : ¬s.Withdraws key op)
    (hafter : (s.step op).freshAt key = s.freshAt key) : FreshStep s op key := by
  refine .kept ?_ hwithdraws hafter
  rw [lastReport, exec_applied hingest, lastOn_nil]

theorem markWorkerLost_freshStep (s : FleetStateStore) (w : WorkerId) (now : Timestamp)
    (key : ByteString) : FreshStep s (.markWorkerLost w now) key := by
  have hreport : s.lastReport (.markWorkerLost w now) key = none := by
    have hingest : ¬(Op.markWorkerLost w now).IsIngest := id
    rw [lastReport, exec_applied hingest, lastOn_nil]
  cases hwr : s.workers[w]? with
  | none =>
    refine .kept hreport ?_ ?_
    · rintro ⟨wr, hwr', _⟩
      cases hwr.symm.trans hwr'
    · rw [step, exec, markWorkerLost, hwr]
  | some wr =>
    have hdevices := markWorkerLost_getElem? hwr now key
    by_cases hmem : key ∈ wr.deviceIdentities
    · refine .withdrawn hreport ⟨wr, hwr, hmem⟩ ?_
      rw [if_pos hmem] at hdevices
      rw [step, exec, freshAt, hdevices]
      cases s.devices[key]? with
      | none => rfl
      | some d =>
        rw [Option.map_some, Option.bind_some, DeviceState.freshTime,
          loseDevice_observationFresh]
        rfl
    · refine .kept hreport ?_ ?_
      · rintro ⟨wr', hwr', hmem'⟩
        obtain rfl : wr = wr' := Option.some.inj (hwr.symm.trans hwr')
        exact hmem hmem'
      · rw [if_neg hmem] at hdevices
        rw [step, exec, freshAt, hdevices, freshAt]

theorem restore_freshStep (s : FleetStateStore) (snap : StateSnapshot) (key : ByteString) :
    FreshStep s (.restore snap) key := by
  refine .withdrawn rfl trivial ?_
  have hstale := s.staleAt_restore snap key
  unfold StaleAt at hstale
  rw [freshAt]
  generalize (s.step (.restore snap)).devices[key]? = r at hstale
  cases r with
  | none => rfl
  | some d =>
    rw [Option.bind_some, DeviceState.freshTime, hstale d rfl]
    rfl

theorem step_freshAt (s : FleetStateStore) (op : Op) (key : ByteString) :
    FreshStep s op key := by
  cases op with
  | restore snap => exact s.restore_freshStep snap key
  | markWorkerLost w now => exact s.markWorkerLost_freshStep w now key
  | ingestSnapshot worker obs policy now =>
    exact s.ingestSnapshot_freshStep worker obs policy now key
  | rollEpoch ne =>
    refine .of_same (fun h => h) (fun h => h) ?_
    rcases s.rollEpoch_cases ne with ⟨_, h⟩ | ⟨_, h⟩
    · rw [step, exec, h.store]
    · rw [step, exec, h.store]
      rfl
  | registerWorker reg now =>
    refine .of_same (fun h => h) (fun h => h) ?_
    rw [step, exec, Outcome.void, freshAt, registerWorker_devices, freshAt]
  | heartbeat worker boot epoch now hg =>
    refine .of_same (fun h => h) (fun h => h) ?_
    rcases s.heartbeat_cases worker boot epoch now hg with ⟨h, _⟩ | ⟨_, _, _, _, h⟩
    · rw [step, exec, h.store]
    · rw [step, exec, h.store]
      rfl
  | setDrain w identity d now =>
    refine .of_same (fun h => h) (fun h => h) ?_
    rcases s.setDrain_cases w identity d now with ⟨_, h⟩ | h
    · rw [step, exec, h.store]
    · exact adminEffect_freshAt h key
  | setQuarantine w identity q now =>
    refine .of_same (fun h => h) (fun h => h) ?_
    rcases s.setQuarantine_cases w identity q now with ⟨h, _⟩ | h
    · rw [step, exec, h.store]
    · exact adminEffect_freshAt h key
  | clearQuarantine w identity epoch now =>
    refine .of_same (fun h => h) (fun h => h) ?_
    rcases s.clearQuarantine_cases w identity epoch now with ⟨h, _⟩ | h
    · rw [step, exec, h.store]
    · exact adminEffect_freshAt h key

/-! ## Runs -/

/-- The call is an ingest, the last observation that it applies to the device was
made at the time `t`, and it is fresh by the policy of the call, at the time of
the call and against what was on file for the device when the loop came to
it. -/
def ReportsFresh (key : ByteString) (t : Timestamp) (call : FleetStateStore × Op) : Prop :=
  ∃ worker obs policy now wr before o st, call.2 = .ingestSnapshot worker obs policy now ∧
    call.1.Applies worker obs policy now wr before o st ∧
    call.1.lastReport call.2 key = some ⟨o.key, o, st.store.applyTo o policy now⟩ ∧
    observationIsFresh (st.store.devices[o.key]?.getD {}) o policy now = true ∧
    o.observedAt = t

/-- The verdict that is stored with an application is this comparison. -/
theorem reportsFresh_iff {key : ByteString} {t : Timestamp} {s : FleetStateStore} {op : Op} :
    ReportsFresh key t (s, op) ↔
      ∃ a, s.lastReport op key = some a ∧ a.outcome.fresh = true ∧ a.obs.observedAt = t := by
  constructor
  · rintro ⟨worker, obs, policy, now, wr, before, o, st, -, -, hreport, hfresh, htime⟩
    exact ⟨_, hreport, hfresh, htime⟩
  · rintro ⟨a, hreport, hfresh, htime⟩
    have hmem : a ∈ (s.exec op).applied :=
      (List.mem_filter.mp (List.mem_of_getLast? hreport)).1
    by_cases hingest : op.IsIngest
    · cases op with
      | ingestSnapshot worker obs policy now =>
        obtain ⟨wr, before, st, happlies, hsame⟩ := applies_of_mem_applied hmem
        have hreport' : s.lastReport (.ingestSnapshot worker obs policy now) key
            = some ⟨a.obs.key, a.obs, st.store.applyTo a.obs policy now⟩ := by
          rw [hreport, ← hsame]
        rw [hsame] at hfresh
        exact ⟨worker, obs, policy, now, wr, before, a.obs, st, rfl, happlies, hreport', hfresh,
          htime⟩
      | _ => exact absurd hingest fun h => h
    · rw [exec_applied hingest] at hmem
      cases hmem

/-- The call neither reports nor withdraws the device. -/
def PassesBy (key : ByteString) (call : FleetStateStore × Op) : Prop :=
  call.1.lastReport call.2 key = none ∧ ¬call.1.Withdraws key call.2

/-- A device is fresh by an observation of the time `t` exactly when its last
report was fresh and of that time, and nothing withdrew the device since. -/
theorem freshAt_iff_since (coord : CoordinatorId) (epoch : CoordinatorEpoch) (ops : List Op)
    (key : ByteString) (t : Timestamp) :
    ((empty coord epoch).run ops).freshAt key = some t ↔
      Since (PassesBy key) (ReportsFresh key t) ((empty coord epoch).history ops) := by
  induction ops using List.reverseRecOn with
  | nil =>
    refine ⟨fun h => ?_, ?_⟩
    · have hnone : (empty coord epoch).freshAt key = none := rfl
      cases hnone.symm.trans h
    · rintro ⟨before, call, after, hpast, _⟩
      simp [history] at hpast
  | append_singleton ops op ih =>
    rw [run, run_concat, history, history_concat, since_concat]
    generalize hs : Run.run step (empty coord epoch) ops = s
    have ih' : s.freshAt key = some t ↔
        Since (PassesBy key) (ReportsFresh key t) (Run.history step (empty coord epoch) ops) := by
      rw [← hs]
      exact ih
    rw [← ih']
    cases s.step_freshAt op key with
    | reported a hreport hafter =>
      have hreports : ReportsFresh key t (s, op) ↔ a.freshTime = some t := by
        rw [reportsFresh_iff, Application.freshTime_eq_some_iff]
        constructor
        · rintro ⟨a', ha', hfresh⟩
          obtain rfl : a = a' := Option.some.inj (hreport.symm.trans ha')
          exact hfresh
        · intro hfresh
          exact ⟨a, hreport, hfresh⟩
      have hpasses : ¬PassesBy key (s, op) := by
        rintro ⟨hnone, _⟩
        cases hreport.symm.trans hnone
      simp only [hafter, hreports, hpasses, false_and, or_false]
    | withdrawn hreport hwithdraws hafter =>
      have hreports : ¬ReportsFresh key t (s, op) := by
        rw [reportsFresh_iff]
        rintro ⟨a, ha, _⟩
        cases hreport.symm.trans ha
      have hpasses : ¬PassesBy key (s, op) := fun h => h.2 hwithdraws
      simp [hafter, hreports, hpasses]
    | kept hreport hwithdraws hafter =>
      have hreports : ¬ReportsFresh key t (s, op) := by
        rw [reportsFresh_iff]
        rintro ⟨a, ha, _⟩
        cases hreport.symm.trans ha
      have hpasses : PassesBy key (s, op) := ⟨hreport, hwithdraws⟩
      simp only [hafter, hreports, hpasses, true_and, false_or]

end FleetStateStore

/-- The reading of the clock that a call is made with. -/
def Op.time : Op → Option Timestamp
  | .registerWorker _ now | .markWorkerLost _ now | .ingestSnapshot _ _ _ now
  | .heartbeat _ _ _ now _ | .setDrain _ _ _ now | .setQuarantine _ _ _ now
  | .clearQuarantine _ _ _ now => some now
  | .rollEpoch _ | .restore _ => none

/-- The clock never goes backwards in the run, and `now` is its last reading. -/
def ClockForward (ops : List Op) (now : Timestamp) : Prop :=
  (ops.filterMap Op.time ++ [now]).Pairwise fun a b => a ≤ b

/-- Every ingest of the run has the freshness threshold `T`. -/
def ThresholdIs (T : DurationMs) (ops : List Op) : Prop :=
  ∀ op ∈ ops, ∀ worker obs policy now, op = .ingestSnapshot worker obs policy now →
    policy.freshnessThresholdMs = T

/-- What the snapshot reports as current at the time `now` was observed at most
`T` before. -/
def StateSnapshot.Current (snap : StateSnapshot) (T : DurationMs) (now : Timestamp) : Prop :=
  ∀ (key : ByteString) (d : DeviceState), snap.devices[key]? = some d →
    d.observationFresh = true ∨ d.eligibility = .eligible → now - d.lastObservedAt ≤ T

namespace FleetStateStore

/-- In every run and at every time, whatever the worker has sent or not sent
since: what a snapshot reports as current is at most `T` old exactly when
every device that was reported fresh, and neither reported nor withdrawn
since, was observed at most `T` before the snapshot. -/
theorem snapshot_current_iff (coord : CoordinatorId) (epoch : CoordinatorEpoch)
    (ops : List Op) (T : DurationMs) (now : Timestamp) :
    ((empty coord epoch).run ops).snapshot.Current T now ↔
      ∀ key t, Since (PassesBy key) (ReportsFresh key t) ((empty coord epoch).history ops) →
        now - t ≤ T := by
  have hsafe := storeSafe_run coord epoch ops
  simp only [← freshAt_iff_since]
  generalize (empty coord epoch).run ops = s at hsafe
  constructor
  · intro hcurrent key t hfresh
    obtain ⟨d, hd, htime⟩ := Option.bind_eq_some_iff.mp hfresh
    obtain ⟨hflag, rfl⟩ := DeviceState.freshTime_eq_some_iff.mp htime
    exact hcurrent key d hd (Or.inl hflag)
  · intro hage key d hd hreported
    have hflag : d.observationFresh = true := by
      rcases hreported with hflag | helig
      · exact hflag
      · exact ((hsafe key d hd).cleared (Or.inl helig)).observationFresh
    apply hage key d.lastObservedAt
    apply Option.bind_eq_some_iff.mpr
    exact ⟨d, hd, DeviceState.freshTime_eq_some_iff.mpr ⟨hflag, rfl⟩⟩

/-- A worker registers, reports its device and sends a heartbeat after more than
a day. -/
def silentRun : List Op := sampleReport ++ [.heartbeat ⟨1⟩ ⟨10⟩ ⟨1⟩ 100000000 {}]

set_option maxRecDepth 4000 in
/-- The device is reported as fresh and eligible, with a threshold of a day,
when its last observation is older than that. -/
theorem silent_worker_current :
    ThresholdIs 86400000 silentRun ∧ ClockForward silentRun 100000000 ∧
      ¬(sampleStore.run silentRun).snapshot.Current 86400000 100000000 := by
  refine ⟨?_, ?_, ?_⟩
  · intro op hop worker obs policy now heq
    subst heq
    simp [silentRun, sampleReport] at hop
    rw [hop.2.2.1]
  · show List.Pairwise _ ([1000, 5000, 100000000, 100000000] : List Timestamp)
    decide
  · intro hcurrent
    have hage := hcurrent sampleKey _ rfl (Or.inl rfl)
    revert hage
    decide

end FleetStateStore

end GpuFleet
