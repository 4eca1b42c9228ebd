import GpuFleet.Fleet.Effects

/-!
# The lists of the workers

The record of a worker lists the devices it owns.  A registration writes the
list, with the devices that the worker enumerated, and an ingest appends the
devices that are new.  New means new to the store: the ingest looks for the key
among the devices on file and not in the list.  A device that a registration
announced before anybody observed it is therefore listed twice after its first
observation.

`distinct_throughout_iff` says that nothing else spoils a list.  Its step for
the ingest is `ingestLoop_nodup_iff`, by induction over the batch.
-/

namespace GpuFleet

/-- The registration enumerates no device twice. -/
def Op.EnumeratesDistinct : Op → Prop
  | .registerWorker reg _ => reg.enumeratedDevices.Nodup
  | _ => True

namespace FleetStateStore

/-- No worker lists a device twice. -/
def ListsDistinct (s : FleetStateStore) : Prop :=
  s.WorkersSatisfy fun _ wr => wr.deviceIdentities.Nodup

/-- The call brings no device to a list that has it already: no observation
that passes is of a listed device that is not on file, and the lists of a
recovered snapshot are distinct. -/
def AppendsNew (s : FleetStateStore) : Op → Prop
  | .ingestSnapshot worker obs _ _ =>
    ∀ wr, s.workers[worker]? = some wr → wr.lost = false → wr.fenced = false →
      ∀ key ∈ wr.deviceIdentities, s.devices[key]? = none →
        ¬Brings obs (verdicts s.epoch worker wr.boot s.stampOf obs) key
  | .restore snap => ∀ (w : WorkerId) wr, snap.workers[w]? = some wr → wr.deviceIdentities.Nodup
  | _ => True

/-! ## The loop -/

section Loop

variable {worker : WorkerId} {boot : WorkerBootId} {policy : ObservationPolicy}
  {now : Timestamp}

/-- What one commit does to the list. -/
theorem commit_list {s : FleetStateStore} {wr : WorkerRecord}
    (hwr : s.workers[worker]? = some wr) (o : DeviceObservation) (policy : ObservationPolicy)
    (now : Timestamp) :
    ∃ wr', (s.commit worker o policy now).workers[worker]? = some wr' ∧
      wr'.deviceIdentities = if s.devices[o.key]? = none then wr.deviceIdentities ++ [o.key]
        else wr.deviceIdentities := by
  rw [commit_record, hwr, Option.map_some, Std.ExtTreeMap.contains_eq_isSome_getElem?]
  refine ⟨_, rfl, ?_⟩
  cases s.devices[o.key]? with
  | none => rfl
  | some d => exact List.append_nil _

/-- The loop only appends to the list. -/
theorem ingestLoop_sublist {st : IngestState} {wr : WorkerRecord}
    (hwr : st.store.workers[worker]? = some wr) (boot : WorkerBootId)
    (policy : ObservationPolicy) (now : Timestamp) (obs : List DeviceObservation) :
    ∃ wr', (ingestLoop worker boot policy now obs st).1.store.workers[worker]? = some wr' ∧
      wr.deviceIdentities.Sublist wr'.deviceIdentities := by
  apply ingestLoop_invariant (P := fun t => ∃ wr', t.store.workers[worker]? = some wr' ∧
    wr.deviceIdentities.Sublist wr'.deviceIdentities)
  · rintro _ o _ t _ _ _ ⟨wr', hwr', hsub⟩
    obtain ⟨wr'', hwr'', hlist⟩ := commit_list hwr' o policy now
    refine ⟨wr'', hwr'', ?_⟩
    rw [hlist]
    split
    · exact hsub.trans (List.sublist_append_left _ _)
    · exact hsub
  · exact ⟨wr, hwr, List.Sublist.refl _⟩

/-- A repetition in the list stays. -/
theorem ingestLoop_not_nodup {st : IngestState} {wr wr' : WorkerRecord}
    {obs : List DeviceObservation} (hwr : st.store.workers[worker]? = some wr)
    (hwr' : (ingestLoop worker boot policy now obs st).1.store.workers[worker]? = some wr')
    (hrepeats : ¬wr.deviceIdentities.Nodup) : ¬wr'.deviceIdentities.Nodup := by
  intro hnodup
  obtain ⟨wr₂, hwr₂, hsub⟩ := ingestLoop_sublist hwr boot policy now obs
  obtain rfl := Option.some.inj (hwr₂.symm.trans hwr')
  exact hrepeats (hnodup.sublist hsub)

/-- The devices that are not on file after a commit. -/
theorem commit_unfiled_iff (st : IngestState) (o : DeviceObservation) (key : ByteString) :
    (st.commit worker o policy now).store.devices[key]? = none ↔
      o.key ≠ key ∧ st.store.devices[key]? = none := by
  rw [IngestState.commit, commit_devices]
  split
  · next h => simp [h]
  · next h => simp [h]

/-- A list without repetitions stays so exactly when no observation that passes
is of a device that it has and the store has not. -/
theorem ingestLoop_nodup_iff {st : IngestState} {wr wr' : WorkerRecord}
    {obs : List DeviceObservation} (hwr : st.store.workers[worker]? = some wr)
    (hwr' : (ingestLoop worker boot policy now obs st).1.store.workers[worker]? = some wr')
    (hnodup : wr.deviceIdentities.Nodup) :
    wr'.deviceIdentities.Nodup ↔
      ∀ key ∈ wr.deviceIdentities, st.store.devices[key]? = none →
        ¬Brings obs (verdicts st.store.epoch worker boot st.store.stampOf obs) key := by
  induction obs generalizing st wr with
  | nil =>
    obtain rfl := Option.some.inj (hwr.symm.trans hwr')
    exact iff_of_true hnodup fun _ _ _ hbrings => by simp [Brings] at hbrings
  | cons o rest ih =>
    rw [ingestLoop] at hwr'
    rw [verdicts]
    cases hg : gate st.store.epoch worker boot (st.store.stampOf o.key) o with
    | refuse err =>
      rw [hg] at hwr'
      obtain rfl := Option.some.inj (hwr.symm.trans hwr')
      exact iff_of_true hnodup fun _ _ _ hbrings => by simp [Brings] at hbrings
    | skip =>
      rw [hg] at hwr'
      simp only [brings_cons, reduceCtorEq, false_and, false_or]
      exact ih hwr hwr' hnodup
    | pass =>
      rw [hg] at hwr'
      have hdevices : ∀ key, (st.commit worker o policy now).store.devices[key]? = none ↔
          o.key ≠ key ∧ st.store.devices[key]? = none := commit_unfiled_iff st o
      obtain ⟨wr₁, hfirst, hlist⟩ := commit_list hwr o policy now
      have hwr₁ : (st.commit worker o policy now).store.workers[worker]? = some wr₁ := hfirst
      have hnext := fun hnodup₁ => ih hwr₁ hwr' hnodup₁
      rw [stampOf_commit] at hnext
      simp only [brings_cons, true_and, not_or]
      by_cases hnew : st.store.devices[o.key]? = none
      · rw [if_pos hnew] at hlist
        by_cases hmem : o.key ∈ wr.deviceIdentities
        · -- The key is appended to a list that has it, and nothing takes it off again.
          refine iff_of_false (ingestLoop_not_nodup hwr₁ hwr' ?_) fun h => (h o.key hmem hnew).1 rfl
          intro hnodup₁
          rw [hlist, List.nodup_append] at hnodup₁
          exact hnodup₁.2.2 o.key hmem o.key (List.mem_singleton_self _) rfl
        · have hnodup₁ : wr₁.deviceIdentities.Nodup := by
            rw [hlist]
            exact List.nodup_append.mpr ⟨hnodup, List.nodup_singleton _,
              fun a ha b hb he => hmem (List.mem_singleton.mp hb ▸ he ▸ ha)⟩
          rw [hnext hnodup₁, hlist]
          constructor
          · intro h key hkey hnone
            have hne : o.key ≠ key := fun he => hmem (he ▸ hkey)
            exact ⟨hne, h key (List.mem_append_left _ hkey) ((hdevices key).mpr ⟨hne, hnone⟩)⟩
          · intro h key hkey hnone
            obtain ⟨hne, hnone⟩ := (hdevices key).mp hnone
            rcases List.mem_append.mp hkey with hkey | hkey
            · exact (h key hkey hnone).2
            · exact absurd (List.mem_singleton.mp hkey).symm hne
      · rw [if_neg hnew] at hlist
        rw [hnext (hlist ▸ hnodup), hlist]
        constructor
        · intro h key hkey hnone
          have hne : o.key ≠ key := fun he => hnew (he ▸ hnone)
          exact ⟨hne, h key hkey ((hdevices key).mpr ⟨hne, hnone⟩)⟩
        · intro h key hkey hnone
          exact (h key hkey ((hdevices key).mp hnone).2).2

end Loop

/-! ## Calls -/

section Calls

variable {s : FleetStateStore} {worker : WorkerId} {wr : WorkerRecord}

/-- The list after the ingest of a live worker is the one after its loop. -/
theorem ingestSnapshot_list (hwr : s.workers[worker]? = some wr) (hlost : wr.lost = false)
    (hfenced : wr.fenced = false) (obs : List DeviceObservation) (policy : ObservationPolicy)
    (now : Timestamp) :
    (s.ingestSnapshot worker obs policy now).store.workers[worker]?.map
        WorkerRecord.deviceIdentities
      = (ingestLoop worker wr.boot policy now obs { store := s }).1.store.workers[worker]?.map
          WorkerRecord.deviceIdentities := by
  rcases ingestSnapshot_ends hwr hlost hfenced with ⟨err, -, hingest⟩ | ⟨-, hingest⟩
  · rw [hingest]
  · rw [hingest, finishIngest_workers, OrderedMap.getElem?_modify_same, Option.map_map]
    rfl

theorem listsDistinct_ingest_iff (h : s.ListsDistinct) (worker : WorkerId)
    (obs : List DeviceObservation) (policy : ObservationPolicy) (now : Timestamp) :
    (s.ingestSnapshot worker obs policy now).store.ListsDistinct ↔
      s.AppendsNew (.ingestSnapshot worker obs policy now) := by
  rcases ingest_live_or_refused s worker with hdead | ⟨wr, hwr, hlost, hfenced⟩
  · refine iff_of_true ?_ ?_
    · cases hwr : s.workers[worker]? with
      | none =>
        rw [ingestSnapshot_unregistered hwr]
        exact h
      | some wr =>
        rw [ingestSnapshot_dead hwr (hdead wr hwr)]
        exact h
    · intro wr hwr hlost hfenced
      rcases hdead wr hwr with hyes | hyes
      · cases hlost.symm.trans hyes
      · cases hfenced.symm.trans hyes
  have hlist := ingestSnapshot_list hwr hlost hfenced obs policy now
  have hstart : (IngestState.mk s [] {} [] []).store.workers[worker]? = some wr := hwr
  obtain ⟨wr₁, hwr₁, _⟩ := ingestLoop_sublist hstart wr.boot policy now obs
  rw [hwr₁, Option.map_some] at hlist
  obtain ⟨wr₂, hwr₂, hsame⟩ := Option.map_eq_some_iff.mp hlist
  have hloop := ingestLoop_nodup_iff hwr hwr₁ (h worker wr hwr)
  rw [← hsame] at hloop
  have hcond : s.AppendsNew (.ingestSnapshot worker obs policy now) ↔
      ∀ key ∈ wr.deviceIdentities, s.devices[key]? = none →
        ¬Brings obs (verdicts s.epoch worker wr.boot s.stampOf obs) key := by
    constructor
    · intro hnew
      exact hnew wr hwr hlost hfenced
    · intro hnew wr' hwr' _ _
      obtain rfl := Option.some.inj (hwr.symm.trans hwr')
      exact hnew
  rw [hcond, ← hloop]
  constructor
  · intro hall
    exact hall worker wr₂ hwr₂
  · intro hown w wr' hwr'
    by_cases hw : w = worker
    · subst hw
      obtain rfl := Option.some.inj (hwr₂.symm.trans hwr')
      exact hown
    · rw [ingestSnapshot_workers_of_ne hw] at hwr'
      exact h w wr' hwr'

/-- A call keeps the lists distinct exactly when it appends what is new. -/
theorem listsDistinct_step_iff (h : s.ListsDistinct) {op : Op} (hop : op.EnumeratesDistinct) :
    (s.step op).ListsDistinct ↔ s.AppendsNew op := by
  by_cases hadmin : op.IsAdministrative
  · have hsame := WorkersSatisfy.same h (s.step_sameWorkers hadmin).workers
    cases op with
    | ingestSnapshot worker obs policy now => exact hadmin.elim
    | restore snap => exact hadmin.elim
    | _ => exact iff_of_true hsame trivial
  unfold step
  cases op with
  | registerWorker reg now =>
    refine iff_of_true ?_ trivial
    rcases s.registerWorker_cases reg now with ⟨hdone, _⟩ | ⟨wr, _, _, hdone⟩ | ⟨_, hdone⟩
    · exact WorkersSatisfy.same h (congrArg workers hdone.store)
    · refine WorkersSatisfy.insert h ?_ (congrArg workers hdone.store)
      exact hop
    · refine WorkersSatisfy.insert h ?_ (congrArg workers hdone.store)
      exact hop
  | restore snap => exact Iff.rfl
  | markWorkerLost w now =>
    refine iff_of_true ?_ trivial
    rcases s.markWorkerLost_cases w now with ⟨_, hdone⟩ | ⟨wr, hwr, hdone⟩
    · exact WorkersSatisfy.same h (congrArg workers hdone.store)
    · refine WorkersSatisfy.insert h ?_ (congrArg workers hdone.store)
      exact h w wr hwr
  | ingestSnapshot worker obs policy now => exact listsDistinct_ingest_iff h worker obs policy now
  | heartbeat worker boot epoch now hg =>
    refine iff_of_true ?_ trivial
    rcases s.heartbeat_cases worker boot epoch now hg with ⟨hdone, _⟩ | ⟨wr, _, hwr, _, hdone⟩
    · exact WorkersSatisfy.same h (congrArg workers hdone.store)
    · refine WorkersSatisfy.insert h ?_ (congrArg workers hdone.store)
      exact h worker wr hwr
  | _ => exact absurd trivial hadmin

end Calls

/-- In a run whose registrations enumerate no device twice, the lists stay
distinct exactly when every ingest that applies an observation of a device
which is not on file finds it on no list yet, and every recovered list is
distinct. -/
theorem distinct_throughout_iff (coord : CoordinatorId) (epoch : CoordinatorEpoch)
    (ops : List Op) (hops : ∀ op ∈ ops, op.EnumeratesDistinct) :
    Run.Throughout step ListsDistinct (empty coord epoch) ops ↔
      Run.Always (fun _ call => call.1.AppendsNew call.2) ((empty coord epoch).history ops) := by
  apply Run.throughout_iff_always
  · intro w wr hwr
    simp [empty] at hwr
  · intro before op after he h
    refine listsDistinct_step_iff h (hops op ?_)
    rw [he]
    simp

/-- Every device that is listed is on file, so the call can append nothing that
is listed already. -/
theorem appendsNew_of_onFile {s : FleetStateStore} {op : Op} (hop : ¬op.IsRestore)
    (h : s.WorkersSatisfy fun _ wr => ∀ key ∈ wr.deviceIdentities, s.devices[key]? ≠ none) :
    s.AppendsNew op := by
  cases op with
  | ingestSnapshot worker obs policy now =>
    intro wr hwr _ _ key hkey hnone
    exact absurd hnone (h worker wr hwr key hkey)
  | restore snap => exact absurd trivial hop
  | _ => trivial

/-- In a fleet of two workers that announce nothing, every device is listed
once. -/
theorem sampleFleet_listed_once : Run.Throughout step ListsDistinct sampleStore sampleFleet := by
  have honFile : ∀ call ∈ sampleStore.history sampleFleet, ∀ e ∈ call.1.workers.toList,
      ∀ key ∈ e.2.deviceIdentities, call.1.devices[key]?.isSome = true := by
    decide +kernel
  refine (distinct_throughout_iff ⟨1⟩ ⟨1⟩ sampleFleet ?_).mpr ?_
  · simp [sampleFleet, Op.EnumeratesDistinct, sampleRegistration]
  · apply Run.always_of_forall
    intro call hcall
    have hop : call.2 ∈ (sampleStore.history sampleFleet).map Prod.snd :=
      List.mem_map_of_mem hcall
    rw [history, Run.map_snd_history] at hop
    refine appendsNew_of_onFile (sampleFleet_not_isRestore _ hop) ?_
    intro w wr hwr key hkey hnone
    have hsome := honFile call hcall (w, wr) (OrderedMap.mem_toList.mpr hwr) key hkey
    rw [hnone] at hsome
    cases hsome

set_option maxRecDepth 4000 in
/-- A worker announces the sample device when it registers, and reports it: the
device is listed twice. -/
theorem announced_listed_twice :
    ¬Run.Throughout step ListsDistinct sampleStore
      [.registerWorker (sampleRegistration 1 10 1 [sampleKey]) 1000,
        .ingestSnapshot ⟨1⟩ [sampleObservation 1 10 1] {} 5000] := by
  intro h
  have hlists := h _ [] (List.append_nil _).symm ⟨1⟩ _ rfl
  revert hlists
  decide +kernel

end FleetStateStore

end GpuFleet
