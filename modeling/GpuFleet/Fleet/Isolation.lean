import GpuFleet.Fleet.Disappearance
import GpuFleet.Fleet.Loss

/-!
# Workers and the devices of others

The calls made for one worker should leave alone the devices that another,
live worker reports.  The store knows the owner of a device in two ways: by
the boot id in its state, which is that of the last report, and by the lists
in the records of the workers, which are not updated when somebody else
starts to report a device.  Loss and disappearance follow the lists.
`isolates_iff` says that a call is harmless to others exactly when the list
it follows has no device of theirs that is still in use.
-/

namespace GpuFleet

/-- The call is made for the worker. -/
def Op.PerformedFor (w : WorkerId) : Op → Prop
  | .registerWorker reg _ => reg.worker = w
  | .markWorkerLost worker _ => worker = w
  | .ingestSnapshot worker _ _ _ => worker = w
  | .heartbeat worker _ _ _ _ => worker = w
  | _ => False

/-- The call brings an observation of the device. -/
def Op.Names (key : ByteString) : Op → Prop
  | .ingestSnapshot _ obs _ _ => ∃ o ∈ obs, o.key = key
  | _ => False

/-- The worker is alive, not lost and not fenced. -/
structure WorkerRecord.Live (wr : WorkerRecord) : Prop where
  alive : wr.alive = true
  lost : wr.lost = false
  fenced : wr.fenced = false

namespace FleetStateStore

/-- The device was reported last by the incarnation on record of a live
worker other than `w`. -/
def HeldByOther (s : FleetStateStore) (w : WorkerId) (d : DeviceState) : Prop :=
  ∃ w' wr', w' ≠ w ∧ s.workers[w']? = some wr' ∧ wr'.Live ∧ d.sourceWorkerBoot = wr'.boot

/-- The call leaves the devices of other live workers as they are, those that
its batch names apart. -/
def Isolates (s : FleetStateStore) (w : WorkerId) (op : Op) : Prop :=
  ∀ key d, s.devices[key]? = some d → s.HeldByOther w d → ¬op.Names key →
    (s.step op).devices[key]? = some d

/-- The list that the call follows names no device of another live worker,
except for those that are marked as lost or gone already. -/
def SparesOthers (s : FleetStateStore) (w : WorkerId) : Op → Prop
  | .markWorkerLost worker _ =>
    ∀ wr, s.workers[worker]? = some wr → ∀ key ∈ wr.deviceIdentities, ∀ d,
      s.devices[key]? = some d → s.HeldByOther w d → loseDevice d = d
  | .ingestSnapshot worker obs _ _ =>
    ∀ wr, s.workers[worker]? = some wr → wr.lost = false → wr.fenced = false →
      ¬Refuses (verdicts s.epoch worker wr.boot s.stampOf obs) →
      ∀ key ∈ wr.deviceIdentities, (∀ o ∈ obs, o.key ≠ key) → ∀ d,
        s.devices[key]? = some d → s.HeldByOther w d → disappearDevice d = d
  | _ => True

/-- A batch without an observation of the device does not bring it. -/
theorem not_brings_of_unnamed {obs : List DeviceObservation} {vs : List Verdict}
    {key : ByteString} (h : ∀ o ∈ obs, o.key ≠ key) : ¬Brings obs vs key := by
  rintro ⟨o, ho, hkey⟩
  exact h o (List.of_mem_zip ho).1 hkey

theorem isolates_markWorkerLost_iff (s : FleetStateStore) (w worker : WorkerId)
    (now : Timestamp) :
    s.Isolates w (.markWorkerLost worker now) ↔
      s.SparesOthers w (.markWorkerLost worker now) := by
  constructor
  · intro hisolates wr hwr key hmem d hd hother
    have hsame := hisolates key d hd hother fun h => h
    rw [step, exec, markWorkerLost_getElem? hwr, if_pos hmem, hd, Option.map_some] at hsame
    exact Option.some.inj hsame
  · intro hspares key d hd hother _
    cases hwr : s.workers[worker]? with
    | none =>
      rcases s.markWorkerLost_cases worker now with ⟨_, h⟩ | ⟨wr, hwr', _⟩
      · rw [step, exec, h.store, hd]
      · rw [hwr] at hwr'
        cases hwr'
    | some wr =>
      rw [step, exec, markWorkerLost_getElem? hwr, hd]
      by_cases hmem : key ∈ wr.deviceIdentities
      · rw [if_pos hmem, Option.map_some, hspares wr hwr key hmem d hd hother]
      · rw [if_neg hmem]

theorem isolates_ingestSnapshot_iff (s : FleetStateStore) (w worker : WorkerId)
    (obs : List DeviceObservation) (policy : ObservationPolicy) (now : Timestamp) :
    s.Isolates w (.ingestSnapshot worker obs policy now) ↔
      s.SparesOthers w (.ingestSnapshot worker obs policy now) := by
  have hstep : (s.step (.ingestSnapshot worker obs policy now)).devices
      = (s.ingestSnapshot worker obs policy now).store.devices := rfl
  constructor
  · intro hisolates wr hwr hlost hfenced haccepted key hmem hunnamed d hd hother
    have hgone : s.TakenForGone worker obs wr key :=
      ⟨hwr, hlost, hfenced, haccepted, hmem, not_brings_of_unnamed hunnamed⟩
    have hsame := hisolates key d hd hother fun ⟨o, ho, hkey⟩ => hunnamed o ho hkey
    rw [hstep, ingestSnapshot_gone hgone, hd, Option.map_some] at hsame
    exact Option.some.inj hsame
  · intro hspares key d hd hother hnames
    have hunnamed : ∀ o ∈ obs, o.key ≠ key := fun o ho hkey => hnames ⟨o, ho, hkey⟩
    rw [hstep]
    cases hwr : s.workers[worker]? with
    | none => rw [ingestSnapshot_unregistered hwr, hd]
    | some wr =>
      by_cases hgone : s.TakenForGone worker obs wr key
      · rw [ingestSnapshot_gone hgone, hd, Option.map_some, hspares wr hwr hgone.lost
          hgone.fenced hgone.accepted key hgone.listed hunnamed d hd hother]
      · rw [ingestSnapshot_kept hwr (not_brings_of_unnamed hunnamed) hgone, hd]

/-- In every reachable state, a call for a worker leaves the devices of other
live workers unchanged exactly when the list it follows names none of them
that is still in use. -/
theorem isolates_iff (coord : CoordinatorId) (epoch : CoordinatorEpoch) (ops : List Op)
    (w : WorkerId) (op : Op) (hop : op.PerformedFor w) :
    ((empty coord epoch).run ops).Isolates w op ↔
      ((empty coord epoch).run ops).SparesOthers w op := by
  generalize (empty coord epoch).run ops = s
  cases op with
  | registerWorker reg now =>
    refine ⟨fun _ => trivial, fun _ key d hd _ _ => ?_⟩
    rw [step, exec, Outcome.void, registerWorker_devices]
    exact hd
  | markWorkerLost worker now => exact s.isolates_markWorkerLost_iff w worker now
  | ingestSnapshot worker obs policy now =>
    exact s.isolates_ingestSnapshot_iff w worker obs policy now
  | heartbeat worker boot epoch now hg =>
    refine ⟨fun _ => trivial, fun _ key d hd _ _ => ?_⟩
    rcases s.heartbeat_cases worker boot epoch now hg with ⟨h, _⟩ | ⟨_, _, _, _, h⟩
    · rw [step, exec, h.store]
      exact hd
    · rw [step, exec, h.store]
      exact hd
  | _ => exact absurd hop fun h => h

set_option maxRecDepth 4000 in
/-- The loss of the worker that reports the shared device touches no device of
the other one. -/
theorem last_reporter_isolates :
    (sampleStore.run sampleSharedReport).Isolates ⟨1⟩ (.markWorkerLost ⟨1⟩ 6000) := by
  refine (isolates_iff ⟨1⟩ ⟨1⟩ sampleSharedReport ⟨1⟩ (.markWorkerLost ⟨1⟩ 6000) rfl).mpr ?_
  intro wr hwr key hmem
  obtain rfl := Option.some.inj hwr
  cases hmem

set_option maxRecDepth 4000 in
/-- The loss of the worker that reported it first takes the device away from
the worker that reports it now. -/
theorem first_reporter_does_not_isolate :
    ¬(sampleStore.run sampleSharedReport).Isolates ⟨2⟩ (.markWorkerLost ⟨2⟩ 6000) := by
  intro hisolates
  have hsame := hisolates sampleKey _ rfl
    ⟨⟨1⟩, _, by decide, rfl, ⟨rfl, rfl, rfl⟩, rfl⟩ fun h => h
  have hpresent := congrArg (Option.map DeviceState.present) hsame
  revert hpresent
  decide

end FleetStateStore

end GpuFleet
