import GpuFleet.Fleet.Authority

/-!
# Signs of life

`last_heartbeat` in the record of a worker is what the liveness loop decides
on.  `Life` is that part of a record, with the boot id it belongs to, and
`lifeOf` is what the store holds of it for a worker.

`SignOfLife` says which calls are a sign of life of an incarnation: an accepted
registration, heartbeat or report, or a recovery that brings the record back.
`step_lifeOf` says that the store keeps the time of the last one.
-/

namespace GpuFleet

/-- The incarnation on record and when it was last heard. -/
structure Life where
  boot : WorkerBootId
  lastHeartbeat : Timestamp
  deriving DecidableEq

/-- What a record says about the life of its worker. -/
def WorkerRecord.life (wr : WorkerRecord) : Life := ⟨wr.boot, wr.lastHeartbeat⟩

namespace FleetStateStore

/-- What the store says about the life of a worker. -/
def lifeOf (s : FleetStateStore) (w : WorkerId) : Option Life :=
  s.workers[w]?.map WorkerRecord.life

theorem lifeOf_of_some {s : FleetStateStore} {w : WorkerId} {wr : WorkerRecord}
    (h : s.workers[w]? = some wr) : s.lifeOf w = some wr.life := by
  rw [lifeOf, h, Option.map_some]

theorem recordedBoot_eq_lifeOf (s : FleetStateStore) (w : WorkerId) :
    s.recordedBoot w = (s.lifeOf w).map Life.boot := by
  rw [recordedBoot, lifeOf, Option.map_map]
  rfl

/-- The call is a sign of life of the incarnation `boot` of `w`, at a time. -/
inductive SignOfLife (s : FleetStateStore) : Op → WorkerId → Life → Prop
  | registered (reg : Registration) (now : Timestamp)
      (hok : ¬(s.registerWorker reg now).Failed) :
      SignOfLife s (.registerWorker reg now) reg.worker ⟨reg.workerBoot, now⟩
  | heard (w : WorkerId) (boot : WorkerBootId) (epoch : CoordinatorEpoch) (now : Timestamp)
      (hg : HealthGeneration) (hok : ¬(s.heartbeat w boot epoch now hg).Failed) :
      SignOfLife s (.heartbeat w boot epoch now hg) w ⟨boot, now⟩
  | reported (w : WorkerId) (boot : WorkerBootId) (obs : List DeviceObservation)
      (policy : ObservationPolicy) (now : Timestamp)
      (hok : ¬(s.ingestSnapshot w obs policy now).Failed)
      (hboot : s.recordedBoot w = some boot) :
      SignOfLife s (.ingestSnapshot w obs policy now) w ⟨boot, now⟩
  | restored (snap : StateSnapshot) (w : WorkerId) (wr : WorkerRecord)
      (hwr : snap.workers[w]? = some wr) : SignOfLife s (.restore snap) w wr.life

/-! ## Ingest -/

theorem lifeOf_modify {s t : FleetStateStore} {worker : WorkerId}
    {f : WorkerRecord → WorkerRecord} (ht : t.workers = s.workers.modify worker f)
    (hf : ∀ wr, (f wr).life = wr.life) (w : WorkerId) : t.lifeOf w = s.lifeOf w := by
  rw [lifeOf, lifeOf, ht, OrderedMap.getElem?_modify]
  by_cases hw : worker = w
  · rw [if_pos hw, Option.map_map]
    congr 1
    funext wr
    exact hf wr
  · rw [if_neg hw]

theorem commit_lifeOf (s : FleetStateStore) (worker : WorkerId) (o : DeviceObservation)
    (policy : ObservationPolicy) (now : Timestamp) (w : WorkerId) :
    (s.commit worker o policy now).lifeOf w = s.lifeOf w := by
  by_cases hknown : s.devices.contains o.key = true
  · have hsame : (s.commit worker o policy now).workers = s.workers := if_pos hknown
    rw [lifeOf, hsame, lifeOf]
  · have hlisted : (s.commit worker o policy now).workers = s.workers.modify worker
        fun wr => { wr with deviceIdentities := wr.deviceIdentities ++ [o.key] } := if_neg hknown
    exact lifeOf_modify hlisted (fun _ => rfl) w

theorem ingestLoop_lifeOf (worker : WorkerId) (boot : WorkerBootId) (policy : ObservationPolicy)
    (now : Timestamp) (obs : List DeviceObservation) (st : IngestState) (w : WorkerId) :
    (ingestLoop worker boot policy now obs st).1.store.lifeOf w = st.store.lifeOf w := by
  apply ingestLoop_invariant (P := fun t => t.store.lifeOf w = st.store.lifeOf w)
  · intro _ o _ t _ _ _ h
    exact (commit_lifeOf t.store worker o policy now w).trans h
  · rfl

theorem finishIngest_lifeOf (st : IngestState) (worker : WorkerId) (now : Timestamp)
    (w : WorkerId) :
    (finishIngest st worker now).store.lifeOf w
      = if worker = w then (st.store.lifeOf w).map fun l => { l with lastHeartbeat := now }
        else st.store.lifeOf w := by
  rw [lifeOf, finishIngest_workers, OrderedMap.getElem?_modify]
  by_cases hw : worker = w
  · rw [if_pos hw, if_pos hw, lifeOf, Option.map_map, Option.map_map]
    rfl
  · rw [if_neg hw, if_neg hw, lifeOf]

/-- A report that is refused, or of another worker, is no sign of life of `w`.
One that is accepted is. -/
theorem ingestSnapshot_lifeOf (s : FleetStateStore) (worker : WorkerId)
    (obs : List DeviceObservation) (policy : ObservationPolicy) (now : Timestamp)
    (w : WorkerId) :
    ((s.ingestSnapshot worker obs policy now).Failed ∧
        (s.ingestSnapshot worker obs policy now).store.lifeOf w = s.lifeOf w) ∨
      (¬(s.ingestSnapshot worker obs policy now).Failed ∧
        (s.ingestSnapshot worker obs policy now).store.lifeOf w
          = if worker = w then (s.lifeOf w).map fun l => { l with lastHeartbeat := now }
            else s.lifeOf w) := by
  rcases ingest_live_or_refused s worker with hdead | ⟨wr, hwr, hlost, hfenced⟩
  · cases hwr : s.workers[worker]? with
    | none =>
      rw [ingestSnapshot_unregistered hwr]
      exact Or.inl ⟨Outcome.failed_error, rfl⟩
    | some wr =>
      rw [ingestSnapshot_dead hwr (hdead wr hwr)]
      exact Or.inl ⟨Outcome.failed_error, rfl⟩
  have hloop := ingestLoop_lifeOf worker wr.boot policy now obs { store := s } w
  rcases ingestSnapshot_ends hwr hlost hfenced with ⟨err, -, hingest⟩ | ⟨-, hingest⟩
  · rw [hingest]
    exact Or.inl ⟨Outcome.failed_error, hloop⟩
  · rw [hingest]
    refine Or.inr ⟨Outcome.not_failed_ok, ?_⟩
    rw [← hloop]
    exact finishIngest_lifeOf _ worker now w

/-! ## One call -/

/-- The call is a sign of life, and the store has its time; or it is none, and
the store has the time it had. -/
inductive LifeStep (s : FleetStateStore) (op : Op) (w : WorkerId) (l : Life) : Prop
  | renewed (h : SignOfLife s op w l)
  | kept (hsame : s.lifeOf w = some l) (hnone : ∀ l', ¬SignOfLife s op w l')

theorem LifeStep.of_same {s : FleetStateStore} {op : Op} {w : WorkerId} {l : Life}
    (h : (s.step op).lifeOf w = some l) (hsame : (s.step op).lifeOf w = s.lifeOf w)
    (hnone : ∀ l', ¬SignOfLife s op w l') : LifeStep s op w l := by
  rw [hsame] at h
  exact .kept h hnone

theorem lifeOf_insert {s t : FleetStateStore} {worker : WorkerId} {wr : WorkerRecord} {l : Life}
    (hl : wr.life = l) (ht : t.workers = s.workers.insert worker wr) (w : WorkerId) :
    t.lifeOf w = if worker = w then some l else s.lifeOf w := by
  rw [lifeOf, ht, OrderedMap.getElem?_insert]
  by_cases hw : worker = w
  · rw [if_pos hw, if_pos hw, Option.map_some, hl]
  · rw [if_neg hw, if_neg hw, lifeOf]

theorem registerWorker_lifeStep {s : FleetStateStore} {reg : Registration} {now : Timestamp}
    {w : WorkerId} {l : Life} (h : (s.step (.registerWorker reg now)).lifeOf w = some l) :
    LifeStep s (.registerWorker reg now) w l := by
  have hother : reg.worker ≠ w → ∀ l', ¬SignOfLife s (.registerWorker reg now) w l' := by
    rintro hw l' hsign
    cases hsign
    exact hw rfl
  -- An accepted registration files a record of its boot id with the time `now`.
  have haccepted : ∀ wr : WorkerRecord, wr.life = ⟨reg.workerBoot, now⟩ →
      (s.step (.registerWorker reg now)).workers = s.workers.insert reg.worker wr →
      ¬(s.registerWorker reg now).Failed → LifeStep s (.registerWorker reg now) w l := by
    intro wr hlife hworkers hok
    have hinsert := lifeOf_insert hlife hworkers w
    by_cases hw : reg.worker = w
    · subst hw
      rw [if_pos rfl] at hinsert
      obtain rfl := Option.some.inj (hinsert.symm.trans h)
      exact .renewed (.registered reg now hok)
    · rw [if_neg hw] at hinsert
      exact .of_same h hinsert (hother hw)
  rcases s.registerWorker_cases reg now with ⟨hdone, _⟩ | ⟨wr, hre, _, hdone⟩ | ⟨_, hdone⟩
  · refine .of_same h ?_ ?_
    · rw [step, exec, Outcome.void, hdone.store]
    · intro l' hsign
      cases hsign with
      | registered _ _ hok => exact hok hdone.failed
  · refine haccepted (reaffirmed wr reg now) ?_ ?_ hdone.ok
    · rw [WorkerRecord.life, ← hre.boot]
      rfl
    · rw [step, exec, Outcome.void, hdone.store]
  · refine haccepted (newWorkerRecord reg now) rfl ?_ hdone.ok
    rw [step, exec, Outcome.void, hdone.store]
    rfl

theorem heartbeat_lifeStep {s : FleetStateStore} {worker : WorkerId} {boot : WorkerBootId}
    {epoch : CoordinatorEpoch} {now : Timestamp} {hg : HealthGeneration} {w : WorkerId} {l : Life}
    (h : (s.step (.heartbeat worker boot epoch now hg)).lifeOf w = some l) :
    LifeStep s (.heartbeat worker boot epoch now hg) w l := by
  rcases s.heartbeat_cases worker boot epoch now hg with ⟨hdone, _⟩ | ⟨wr, _, _, hboot, hdone⟩
  · refine .of_same h ?_ ?_
    · rw [step, exec, hdone.store]
    · intro l' hsign
      cases hsign with
      | heard _ _ _ _ _ hok => exact hok hdone.failed
  · have hinsert : (s.step (.heartbeat worker boot epoch now hg)).lifeOf w
        = if worker = w then some ⟨boot, now⟩ else s.lifeOf w := by
      have hlife : WorkerRecord.life { wr with lastHeartbeat := now, alive := true, lost := false }
          = ⟨boot, now⟩ := by
        rw [← hboot]
        rfl
      refine lifeOf_insert hlife ?_ w
      rw [step, exec, hdone.store]
    by_cases hw : worker = w
    · subst hw
      rw [if_pos rfl] at hinsert
      obtain rfl := Option.some.inj (hinsert.symm.trans h)
      exact .renewed (.heard worker boot epoch now hg hdone.ok)
    · rw [if_neg hw] at hinsert
      refine .of_same h hinsert ?_
      intro l' hsign
      cases hsign
      exact hw rfl

theorem ingestSnapshot_lifeStep {s : FleetStateStore} {worker : WorkerId}
    {obs : List DeviceObservation} {policy : ObservationPolicy} {now : Timestamp} {w : WorkerId}
    {l : Life} (h : (s.step (.ingestSnapshot worker obs policy now)).lifeOf w = some l) :
    LifeStep s (.ingestSnapshot worker obs policy now) w l := by
  rcases s.ingestSnapshot_lifeOf worker obs policy now w with ⟨hfailed, hlife⟩ | ⟨hok, hlife⟩
  · refine .of_same h hlife ?_
    intro l' hsign
    cases hsign with
    | reported _ _ _ _ _ hok _ => exact hok hfailed
  by_cases hw : worker = w
  · subst hw
    rw [if_pos rfl] at hlife
    obtain ⟨l₀, hl₀, rfl⟩ := Option.map_eq_some_iff.mp (hlife.symm.trans h)
    refine .renewed (.reported worker l₀.boot obs policy now hok ?_)
    rw [recordedBoot_eq_lifeOf, hl₀, Option.map_some]
  · rw [if_neg hw] at hlife
    refine .of_same h hlife ?_
    intro l' hsign
    cases hsign
    exact hw rfl

/-- The store keeps the time of the last sign of life. -/
theorem step_lifeOf {s : FleetStateStore} {op : Op} {w : WorkerId} {l : Life}
    (h : (s.step op).lifeOf w = some l) : LifeStep s op w l := by
  by_cases hadmin : op.IsAdministrative
  · refine .of_same h ?_ ?_
    · rw [lifeOf, (s.step_sameWorkers hadmin).workers, lifeOf]
    · intro l' hsign
      cases hsign <;> exact hadmin
  cases op with
  | registerWorker reg now => exact registerWorker_lifeStep h
  | restore snap =>
    obtain ⟨wr, hwr, rfl⟩ := Option.map_eq_some_iff.mp h
    exact .renewed (.restored snap w wr hwr)
  | markWorkerLost w' now =>
    refine .of_same h ?_ (fun l' hsign => by cases hsign)
    rcases s.markWorkerLost_cases w' now with ⟨_, hdone⟩ | ⟨wr, hwr, hdone⟩
    · rw [step, exec, hdone.store]
    · have hinsert : (s.step (.markWorkerLost w' now)).lifeOf w
          = if w' = w then some wr.life else s.lifeOf w := by
        have hlife : WorkerRecord.life { wr with lost := true, alive := false, fenced := true }
            = wr.life := rfl
        refine lifeOf_insert hlife ?_ w
        rw [step, exec, hdone.store]
      by_cases hw : w' = w
      · subst hw
        rw [hinsert, if_pos rfl, lifeOf_of_some hwr]
      · rw [hinsert, if_neg hw]
  | ingestSnapshot worker obs policy now => exact ingestSnapshot_lifeStep h
  | heartbeat worker boot epoch now hg => exact heartbeat_lifeStep h
  | _ => exact absurd trivial hadmin

end FleetStateStore

end GpuFleet
