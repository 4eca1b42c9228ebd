import GpuFleet.Fleet.Operations
import GpuFleet.Lib.OrderedMap

/-!
# What `ingest_snapshot` can do

The proofs about the store never unfold `ingestSnapshot`.  They use the
facts of this module.

* `gate_pass` and `gate_skip`: what a verdict of the gates says about the
  observation and about the record on file.
* `ingestLoop_invariant` and `ingestSnapshot_invariant`: the induction rules.
  An ingest is a sequence of commits of observations that passed the gates,
  then a sequence of disappearances, then the heartbeat of the worker.
  `Applies` is what the rule says about each commit.
* `ingestLoop_effect`: the effect of the loop on one device.  A key that no
  observation was applied to keeps its record, and any other key ends with a
  record of the reporting incarnation that is newer than the one it had.
* `verdicts` and `ingestLoop_ok_iff`: the gates alone, run over a batch,
  decide which observations the loop applies and whether it returns an
  error.
-/

namespace GpuFleet

/-! ## The gates -/

section Gate

variable {epoch : CoordinatorEpoch} {worker : WorkerId} {boot : WorkerBootId}
  {prior : Option Stamp} {o : DeviceObservation}

/-- An observation that passes is authentic, and it is newer than the record
on file when that record is from the same incarnation. -/
theorem gate_pass (h : gate epoch worker boot prior o = .pass) :
    o.epoch = epoch ∧ o.sourceWorkerBoot = boot ∧ o.sourceWorker = worker ∧
      ∀ p, prior = some p → p.sourceWorkerBoot = boot →
        p.observationGeneration < o.observationGeneration := by
  unfold gate at h
  split at h
  · cases h
  next he =>
  split at h
  · cases h
  next hb =>
  split at h
  · cases h
  next hw =>
  refine ⟨not_not.mp he, not_not.mp hb, not_not.mp hw, ?_⟩
  intro p hp hpb
  subst hp
  have hsame : o.sourceWorkerBoot = p.sourceWorkerBoot := (not_not.mp hb).trans hpb.symm
  by_contra hle
  simp only [if_pos hsame, if_pos (not_lt.mp hle)] at h
  cases h

/-- An observation that is skipped is authentic and not newer than the record
of its own incarnation. -/
theorem gate_skip (h : gate epoch worker boot prior o = .skip) :
    o.epoch = epoch ∧ o.sourceWorkerBoot = boot ∧ o.sourceWorker = worker ∧
      ∃ p, prior = some p ∧ p.sourceWorkerBoot = boot ∧
        o.observationGeneration ≤ p.observationGeneration := by
  unfold gate at h
  split at h
  · cases h
  next he =>
  split at h
  · cases h
  next hb =>
  split at h
  · cases h
  next hw =>
  refine ⟨not_not.mp he, not_not.mp hb, not_not.mp hw, ?_⟩
  cases prior with
  | none => cases h
  | some p =>
    simp only at h
    split at h
    · next hsame =>
      split at h
      · next hle => exact ⟨p, rfl, hsame.symm.trans (not_not.mp hb), hle⟩
      · split at h
        · cases h
        · split at h <;> cases h
    · cases h

/-- An authentic observation that is not newer than the record of its own
incarnation is skipped. -/
theorem gate_eq_skip {p : Stamp} (he : o.epoch = epoch) (hb : o.sourceWorkerBoot = boot)
    (hw : o.sourceWorker = worker) (hp : p.sourceWorkerBoot = boot)
    (hle : o.observationGeneration ≤ p.observationGeneration) :
    gate epoch worker boot (some p) o = .skip := by
  rw [gate, if_neg (not_not.mpr he), if_neg (not_not.mpr hb), if_neg (not_not.mpr hw)]
  simp only [if_pos (hb.trans hp.symm), if_pos hle]

/-- An authentic observation of a device that another incarnation reported
last passes, whatever its generations are. -/
theorem gate_eq_pass {p : Stamp} (he : o.epoch = epoch) (hb : o.sourceWorkerBoot = boot)
    (hw : o.sourceWorker = worker) (hp : p.sourceWorkerBoot ≠ boot) :
    gate epoch worker boot (some p) o = .pass := by
  have hother : o.sourceWorkerBoot ≠ p.sourceWorkerBoot := by
    rw [hb]
    exact hp.symm
  rw [gate, if_neg (not_not.mpr he), if_neg (not_not.mpr hb), if_neg (not_not.mpr hw)]
  simp only [if_neg hother]

end Gate

/-! ## One commit -/

namespace FleetStateStore

section Commit

variable (s : FleetStateStore) (worker : WorkerId) (o : DeviceObservation)
  (policy : ObservationPolicy) (now : Timestamp)

@[simp] theorem commit_epoch : (s.commit worker o policy now).epoch = s.epoch := rfl

theorem commit_devices (key : ByteString) :
    (s.commit worker o policy now).devices[key]?
      = if o.key = key then some (s.applyTo o policy now).state else s.devices[key]? :=
  OrderedMap.getElem?_insert _ _ _ _

/-- A commit puts a new key on the list of the worker. -/
theorem commit_record :
    (s.commit worker o policy now).workers[worker]? = s.workers[worker]?.map fun wr =>
      { wr with deviceIdentities :=
          wr.deviceIdentities ++ if s.devices.contains o.key then [] else [o.key] } := by
  unfold commit
  cases s.devices.contains o.key with
  | true => simp
  | false => simp

theorem commit_others {worker w : WorkerId} (h : w ≠ worker) :
    (s.commit worker o policy now).workers[w]? = s.workers[w]? := by
  unfold commit
  cases s.devices.contains o.key with
  | true => rfl
  | false => simp [OrderedMap.getElem?_modify, h.symm]

/-- After a commit the stamp of the observation is on file for its key. -/
theorem commit_stampOf (key : ByteString) :
    (s.commit worker o policy now).stampOf key
      = if o.key = key then some o.stamp else s.stampOf key := by
  unfold stampOf
  rw [commit_devices]
  split <;> rfl

/-- What the gates find on file after a commit. -/
theorem stampOf_commit (st : IngestState) :
    (st.commit worker o policy now).store.stampOf
      = fun key => if o.key = key then some o.stamp else st.store.stampOf key :=
  funext (commit_stampOf st.store worker o policy now)

@[simp] theorem epoch_commit (st : IngestState) :
    (st.commit worker o policy now).store.epoch = st.store.epoch := rfl

@[simp] theorem markDisappeared_epoch (key : ByteString) (d : DeviceState) :
    (s.markDisappeared key d now).epoch = s.epoch := rfl

theorem markDisappeared_devices (key : ByteString) (d : DeviceState) (a : ByteString) :
    (s.markDisappeared key d now).devices[a]?
      = if key = a then some (disappearDevice d) else s.devices[a]? :=
  OrderedMap.getElem?_insert _ _ _ _

theorem markDisappeared_stampOf {key : ByteString} {d : DeviceState}
    (hd : s.devices[key]? = some d) (a : ByteString) :
    (s.markDisappeared key d now).stampOf a = s.stampOf a := by
  unfold stampOf
  rw [markDisappeared_devices]
  by_cases hkey : key = a
  · subst hkey
    rw [if_pos rfl, hd]
    rfl
  · rw [if_neg hkey]

@[simp] theorem touchWorker_stampOf (key : ByteString) :
    (s.touchWorker worker now).stampOf key = s.stampOf key := rfl

end Commit

/-! ## Induction rules -/

section Rules

variable {worker : WorkerId} {boot : WorkerBootId} {policy : ObservationPolicy}
  {now : Timestamp}

/-- The loop over a batch whose first part it gets through goes on from the
state it reached there. -/
theorem ingestLoop_append {before rest : List DeviceObservation} {st st' : IngestState}
    (h : ingestLoop worker boot policy now before st = (st', .ok ())) :
    ingestLoop worker boot policy now (before ++ rest) st
      = ingestLoop worker boot policy now rest st' := by
  induction before generalizing st with
  | nil =>
    obtain rfl : st = st' := (Prod.mk.inj h).1
    rfl
  | cons o before ih =>
    rw [ingestLoop] at h
    rw [List.cons_append, ingestLoop]
    cases hg : gate st.store.epoch worker boot (st.store.stampOf o.key) o with
    | refuse err =>
      rw [hg] at h
      cases (Prod.mk.inj h).2
    | skip =>
      rw [hg] at h
      exact ih h
    | pass =>
      rw [hg] at h
      exact ih h

/-- A property of the loop state that every commit preserves holds after the
loop, on both of its exits.  The commit of `o` happens in the state that the
observations before it lead to. -/
theorem ingestLoop_invariant {P : IngestState → Prop} {obs : List DeviceObservation}
    {st₀ : IngestState}
    (hcommit : ∀ before o after st, obs = before ++ o :: after →
      ingestLoop worker boot policy now before st₀ = (st, .ok ()) →
      gate st.store.epoch worker boot (st.store.stampOf o.key) o = .pass → P st →
      P (st.commit worker o policy now))
    (h0 : P st₀) :
    P (ingestLoop worker boot policy now obs st₀).1 := by
  -- The induction is on what is left of the batch, with the part behind it fixed.
  suffices h : ∀ rest before st, obs = before ++ rest →
      ingestLoop worker boot policy now before st₀ = (st, .ok ()) → P st →
      P (ingestLoop worker boot policy now rest st).1 from h obs [] st₀ rfl rfl h0
  intro rest
  induction rest with
  | nil =>
    intro before st _ _ hP
    exact hP
  | cons o rest ih =>
    intro before st hobs hbefore hP
    have hobs' : obs = (before ++ [o]) ++ rest := by
      rw [hobs, List.append_assoc, List.singleton_append]
    have hnext : ingestLoop worker boot policy now (before ++ [o]) st₀
        = ingestLoop worker boot policy now [o] st := ingestLoop_append hbefore
    rw [ingestLoop] at hnext ⊢
    cases hg : gate st.store.epoch worker boot (st.store.stampOf o.key) o with
    | refuse err => exact hP
    | skip =>
      rw [hg] at hnext
      exact ih (before ++ [o]) st hobs' hnext hP
    | pass =>
      rw [hg] at hnext
      exact ih (before ++ [o]) _ hobs' hnext (hcommit before o rest st hobs hbefore hg hP)

/-- A property of the loop state that every disappearance preserves holds
after the disappearance loop. -/
theorem disappear_invariant {P : IngestState → Prop} {seen keys : List ByteString}
    (hgone : ∀ st key d, P st → key ∈ keys → key ∉ seen → st.store.devices[key]? = some d →
      P { st with
        store := st.store.markDisappeared key d now
        logged := st.logged ++ [disappearedRecord d st.store.epoch now] })
    {st : IngestState} (h0 : P st) :
    P (keys.foldl (disappear seen now) st) := by
  induction keys generalizing st with
  | nil => exact h0
  | cons key rest ih =>
    rw [List.foldl_cons]
    apply ih
    · intro st key' d hP hmem
      exact hgone st key' d hP (List.mem_cons_of_mem key hmem)
    · unfold disappear
      split
      · exact h0
      · next hseen =>
        split
        · exact h0
        · next d hd => exact hgone st key d h0 List.mem_cons_self hseen hd

/-- The disappearance loop leaves the workers alone. -/
theorem finishIngest_workers (st : IngestState) (worker : WorkerId) (now : Timestamp) :
    (finishIngest st worker now).store.workers = st.store.workers.modify worker fun wr =>
      { wr with lastHeartbeat := now, alive := true } := by
  have hgone : ∀ keys : List ByteString,
      (keys.foldl (disappear st.seenKeys now) st).store.workers = st.store.workers :=
    fun keys => disappear_invariant (P := fun t => t.store.workers = st.store.workers)
      (fun _ _ _ h _ _ _ => h) rfl
  simp only [finishIngest, touchWorker, hgone]

section Ends

variable {s : FleetStateStore} {obs : List DeviceObservation} {wr : WorkerRecord}

theorem ingestSnapshot_unregistered (h : s.workers[worker]? = none) :
    s.ingestSnapshot worker obs policy now
      = { store := s, result := .error (errorResult .notFound "unregistered worker") } := by
  rw [ingestSnapshot, h]

theorem ingestSnapshot_dead (h : s.workers[worker]? = some wr)
    (hdead : wr.lost = true ∨ wr.fenced = true) :
    s.ingestSnapshot worker obs policy now
      = { store := s, result := .error (errorResult .notAuthoritative "worker is fenced/lost") } := by
  have hflag : (wr.lost || wr.fenced) = true := by simpa using hdead
  rw [ingestSnapshot, h]
  simp only [hflag, if_true]

/-- A worker that is neither lost nor fenced gets as far as the loop. -/
theorem ingestSnapshot_live (h : s.workers[worker]? = some wr) (hlost : wr.lost = false)
    (hfenced : wr.fenced = false) :
    s.ingestSnapshot worker obs policy now
      = match ingestLoop worker wr.boot policy now obs { store := s } with
        | (st, .error err) => ⟨st.store, .error err, st.logged, st.applied⟩
        | (st, .ok ()) => finishIngest st worker now := by
  have hflag : ¬(wr.lost || wr.fenced) = true := by
    simp [hlost, hfenced]
  rw [ingestSnapshot, h]
  exact if_neg hflag

/-- The loop of a live worker returns an error, or the end of the method
follows it. -/
theorem ingestSnapshot_ends (h : s.workers[worker]? = some wr) (hlost : wr.lost = false)
    (hfenced : wr.fenced = false) :
    (∃ err, (ingestLoop worker wr.boot policy now obs { store := s }).2 = .error err ∧
      s.ingestSnapshot worker obs policy now
        = ⟨(ingestLoop worker wr.boot policy now obs { store := s }).1.store, .error err,
          (ingestLoop worker wr.boot policy now obs { store := s }).1.logged,
          (ingestLoop worker wr.boot policy now obs { store := s }).1.applied⟩) ∨
      (ingestLoop worker wr.boot policy now obs { store := s }).2 = .ok () ∧
        s.ingestSnapshot worker obs policy now
          = finishIngest (ingestLoop worker wr.boot policy now obs { store := s }).1 worker now := by
  rw [ingestSnapshot_live h hlost hfenced]
  generalize ingestLoop worker wr.boot policy now obs { store := s } = out
  obtain ⟨st, res⟩ := out
  cases res with
  | error err => exact Or.inl ⟨err, rfl, rfl⟩
  | ok _ => exact Or.inr ⟨rfl, rfl⟩

/-- Either the worker is turned away, or it is live and the loop runs. -/
theorem ingest_live_or_refused (s : FleetStateStore) (worker : WorkerId) :
    (∀ wr, s.workers[worker]? = some wr → wr.lost = true ∨ wr.fenced = true) ∨
      ∃ wr, s.workers[worker]? = some wr ∧ wr.lost = false ∧ wr.fenced = false := by
  cases h : s.workers[worker]? with
  | none => exact Or.inl fun wr hwr => by cases hwr
  | some wr =>
    cases hl : wr.lost with
    | true =>
      refine Or.inl fun wr' hwr' => Or.inl ?_
      rw [← Option.some.inj hwr', hl]
    | false =>
      cases hf : wr.fenced with
      | true =>
        refine Or.inl fun wr' hwr' => Or.inr ?_
        rw [← Option.some.inj hwr', hf]
      | false => exact Or.inr ⟨wr, rfl, hl, hf⟩

end Ends

/-- The ingest of a batch applies `o`: the worker is live, and the loop gets
through the observations before `o` and is in the state `st` when `o` passes
the gates. -/
structure Applies (s : FleetStateStore) (worker : WorkerId) (obs : List DeviceObservation)
    (policy : ObservationPolicy) (now : Timestamp) (wr : WorkerRecord)
    (before : List DeviceObservation) (o : DeviceObservation) (st : IngestState) : Prop where
  record : s.workers[worker]? = some wr
  lost : wr.lost = false
  fenced : wr.fenced = false
  batch : ∃ after, obs = before ++ o :: after
  reached : ingestLoop worker wr.boot policy now before { store := s } = (st, .ok ())
  passed : gate st.store.epoch worker wr.boot (st.store.stampOf o.key) o = .pass

/-- The rule for a whole ingest.  `P` speaks about the store and about the
observations that were applied so far, those of an earlier run included. -/
theorem ingestSnapshot_invariant {P : FleetStateStore → List Application → Prop}
    {s : FleetStateStore} {obs : List DeviceObservation} (apps : List Application)
    (h0 : P s apps)
    (hcommit : ∀ wr before o st, s.Applies worker obs policy now wr before o st →
      P st.store (apps ++ st.applied) →
      P (st.store.commit worker o policy now)
        (apps ++ st.applied ++ [⟨o.key, o, st.store.applyTo o policy now⟩]))
    (hgone : ∀ t as key d, P t as → t.devices[key]? = some d →
      P (t.markDisappeared key d now) as)
    (htouch : ∀ t as, P t as → P (t.touchWorker worker now) as) :
    P (s.ingestSnapshot worker obs policy now).store
      (apps ++ (s.ingestSnapshot worker obs policy now).applied) := by
  have hnil : P s (apps ++ []) := by
    rw [List.append_nil]
    exact h0
  rcases ingest_live_or_refused s worker with hdead | ⟨wr, hwr, hlost, hfenced⟩
  · cases hwr : s.workers[worker]? with
    | none =>
      rw [ingestSnapshot_unregistered hwr]
      exact hnil
    | some wr =>
      rw [ingestSnapshot_dead hwr (hdead wr hwr)]
      exact hnil
  have hloop : P (ingestLoop worker wr.boot policy now obs { store := s }).1.store
      (apps ++ (ingestLoop worker wr.boot policy now obs { store := s }).1.applied) := by
    apply ingestLoop_invariant (P := fun st => P st.store (apps ++ st.applied)) _ hnil
    intro before o after st hobs hbefore hpass hP
    have := hcommit wr before o st ⟨hwr, hlost, hfenced, ⟨after, hobs⟩, hbefore, hpass⟩ hP
    rwa [List.append_assoc] at this
  rcases ingestSnapshot_ends hwr hlost hfenced with ⟨err, -, hingest⟩ | ⟨-, hingest⟩
  · rw [hingest]
    exact hloop
  · rw [hingest]
    apply htouch
    exact disappear_invariant (P := fun st => P st.store (apps ++ st.applied))
      (fun st key d hP _ _ hd => hgone _ _ key d hP hd) hloop

end Rules

/-! ## The effect of the loop on one device -/

/-- What a loop that started in `s` and is now in `st` has done to a key. -/
inductive LoopEffect (s : FleetStateStore) (boot : WorkerBootId) (st : IngestState)
    (key : ByteString) : Prop
  /-- No observation was applied to the key. -/
  | kept (hrecord : st.store.devices[key]? = s.devices[key]?)
      (hnone : ∀ a ∈ st.applied, a.key ≠ key)
  /-- The record is now one of the reporting incarnation, newer than a record
  of that incarnation that was there before. -/
  | renewed (d : DeviceState) (hrecord : st.store.devices[key]? = some d)
      (hboot : d.sourceWorkerBoot = boot)
      (hnewer : ∀ d₀, s.devices[key]? = some d₀ → d₀.sourceWorkerBoot = boot →
        d₀.observationGeneration < d.observationGeneration)

/-- The loop keeps the epoch. -/
theorem ingestLoop_epoch (worker : WorkerId) (boot : WorkerBootId) (policy : ObservationPolicy)
    (now : Timestamp) (obs : List DeviceObservation) (st : IngestState) :
    (ingestLoop worker boot policy now obs st).1.store.epoch = st.store.epoch :=
  ingestLoop_invariant (P := fun t => t.store.epoch = st.store.epoch)
    (fun _ _ _ _ _ _ _ h => h) rfl

/-- Every key is either kept or renewed. -/
theorem ingestLoop_effect (s : FleetStateStore) (worker : WorkerId) (boot : WorkerBootId)
    (policy : ObservationPolicy) (now : Timestamp) (obs : List DeviceObservation)
    (key : ByteString) :
    LoopEffect s boot (ingestLoop worker boot policy now obs { store := s }).1 key := by
  apply ingestLoop_invariant (P := fun st => LoopEffect s boot st key)
  · intro _ o _ st _ _ hpass heffect
    obtain ⟨_, hboot, _, hgen⟩ := gate_pass hpass
    by_cases hkey : o.key = key
    · subst hkey
      refine .renewed (st.store.applyTo o policy now).state ?_ hboot ?_
      · rw [IngestState.commit, commit_devices, if_pos rfl]
      · intro d₀ hd₀ hboot₀
        -- The record on file is the old one or a newer one; the gate compared with it.
        cases heffect with
        | kept hrecord _ =>
          refine hgen d₀.stamp ?_ hboot₀
          rw [stampOf, hrecord, hd₀, Option.map_some]
        | renewed d hrecord hd hnewer =>
          refine lt_trans (hnewer d₀ hd₀ hboot₀) (hgen d.stamp ?_ hd)
          rw [stampOf, hrecord, Option.map_some]
    · have hlookup : (st.commit worker o policy now).store.devices[key]?
          = st.store.devices[key]? := by
        rw [IngestState.commit, commit_devices, if_neg hkey]
      cases heffect with
      | kept hrecord hnone =>
        refine .kept (hlookup.trans hrecord) ?_
        intro a ha
        rcases List.mem_append.mp ha with ha | ha
        · exact hnone a ha
        · rw [List.mem_singleton.mp ha]
          exact hkey
      | renewed d hrecord hd hnewer => exact .renewed d (hlookup.trans hrecord) hd hnewer
  · exact .kept rfl (by simp)

/-- A key that is on file for the reporting incarnation stays on file for it. -/
theorem ingestLoop_holds {worker : WorkerId} {boot : WorkerBootId} {policy : ObservationPolicy}
    {now : Timestamp} {obs : List DeviceObservation} {st : IngestState} {key : ByteString}
    (h : ∃ p, st.store.stampOf key = some p ∧ p.sourceWorkerBoot = boot) :
    ∃ p, (ingestLoop worker boot policy now obs st).1.store.stampOf key = some p ∧
      p.sourceWorkerBoot = boot := by
  apply ingestLoop_invariant
    (P := fun t => ∃ p, t.store.stampOf key = some p ∧ p.sourceWorkerBoot = boot) _ h
  intro _ o _ t _ _ hpass hfile
  rw [IngestState.commit, commit_stampOf]
  by_cases hkey : o.key = key
  · rw [if_pos hkey]
    exact ⟨o.stamp, rfl, (gate_pass hpass).2.1⟩
  · rw [if_neg hkey]
    exact hfile

/-- The loop keeps the record of a device that the batch does not bring. -/
theorem ingestLoop_devices_of_not_mem {worker : WorkerId} {boot : WorkerBootId}
    {policy : ObservationPolicy} {now : Timestamp} {obs : List DeviceObservation}
    {st : IngestState} {key : ByteString} (h : ∀ o ∈ obs, o.key ≠ key) :
    (ingestLoop worker boot policy now obs st).1.store.devices[key]?
      = st.store.devices[key]? := by
  apply ingestLoop_invariant
    (P := fun t => t.store.devices[key]? = st.store.devices[key]?) _ rfl
  intro before o after t hobs _ _ hsame
  have hkey : o.key ≠ key := by
    apply h
    rw [hobs]
    simp
  rw [IngestState.commit, commit_devices, if_neg hkey, hsame]

/-- What the loop has applied stays in its trace. -/
theorem ingestLoop_applied_mem {worker : WorkerId} {boot : WorkerBootId}
    {policy : ObservationPolicy} {now : Timestamp} {obs : List DeviceObservation}
    {st : IngestState} {a : Application} (h : a ∈ st.applied) :
    a ∈ (ingestLoop worker boot policy now obs st).1.applied := by
  apply ingestLoop_invariant (P := fun t => a ∈ t.applied) _ h
  intro _ o _ t _ _ _ hmem
  exact List.mem_append_left _ hmem

/-- Every key of a batch that the loop got through is on file for the
reporting incarnation, also the keys of the observations it skipped. -/
theorem ingestLoop_ok_holds {worker : WorkerId} {boot : WorkerBootId}
    {policy : ObservationPolicy} {now : Timestamp} {obs : List DeviceObservation}
    {st : IngestState} (h : (ingestLoop worker boot policy now obs st).2 = .ok ())
    {o : DeviceObservation} (ho : o ∈ obs) :
    ∃ p, (ingestLoop worker boot policy now obs st).1.store.stampOf o.key = some p ∧
      p.sourceWorkerBoot = boot := by
  induction obs generalizing st with
  | nil => cases ho
  | cons o' rest ih =>
    rw [ingestLoop] at h ⊢
    cases hg : gate st.store.epoch worker boot (st.store.stampOf o'.key) o' with
    | refuse err =>
      rw [hg] at h
      cases h
    | skip =>
      rw [hg] at h
      rcases List.mem_cons.mp ho with rfl | hrest
      · obtain ⟨_, _, _, p, hp, hboot, _⟩ := gate_skip hg
        exact ingestLoop_holds ⟨p, hp, hboot⟩
      · exact ih h hrest
    | pass =>
      rw [hg] at h
      rcases List.mem_cons.mp ho with rfl | hrest
      · apply ingestLoop_holds
        rw [IngestState.commit, commit_stampOf, if_pos rfl]
        exact ⟨o.stamp, rfl, (gate_pass hg).2.1⟩
      · exact ih h hrest

/-- A loop that applied an observation has put another stamp on file. -/
theorem ingestLoop_stampOf_ne {s : FleetStateStore} {worker : WorkerId} {boot : WorkerBootId}
    {policy : ObservationPolicy} {now : Timestamp} {obs : List DeviceObservation}
    (h : (ingestLoop worker boot policy now obs { store := s }).1.applied ≠ []) :
    ∃ key, (ingestLoop worker boot policy now obs { store := s }).1.store.stampOf key
      ≠ s.stampOf key := by
  obtain ⟨a, ha⟩ := List.exists_mem_of_ne_nil _ h
  refine ⟨a.key, ?_⟩
  cases ingestLoop_effect s worker boot policy now obs a.key with
  | kept _ hnone => exact absurd rfl (hnone a ha)
  | renewed d hrecord hd hnewer =>
    intro hsame
    rw [stampOf, hrecord, Option.map_some] at hsame
    obtain ⟨d₀, hd₀, hstamp⟩ := Option.map_eq_some_iff.mp hsame.symm
    have hboot : d₀.sourceWorkerBoot = d.sourceWorkerBoot :=
      congrArg Stamp.sourceWorkerBoot hstamp
    have hgen : d₀.observationGeneration = d.observationGeneration :=
      congrArg Stamp.observationGeneration hstamp
    have hlt := hnewer d₀ hd₀ (hboot.trans hd)
    rw [hgen] at hlt
    exact lt_irrefl _ hlt

/-! ## The trace of an ingest -/

section Trace

variable {s : FleetStateStore} {worker : WorkerId} {obs : List DeviceObservation}
  {policy : ObservationPolicy} {now : Timestamp} {wr : WorkerRecord}

/-- The observations that an ingest applies are those of its loop. -/
theorem ingestSnapshot_applied (h : s.workers[worker]? = some wr) (hlost : wr.lost = false)
    (hfenced : wr.fenced = false) :
    (s.ingestSnapshot worker obs policy now).applied
      = (ingestLoop worker wr.boot policy now obs { store := s }).1.applied := by
  rcases ingestSnapshot_ends h hlost hfenced with ⟨err, -, hingest⟩ | ⟨-, hingest⟩
  · rw [hingest]
  · rw [hingest]
    exact disappear_invariant
      (P := fun t => t.applied
        = (ingestLoop worker wr.boot policy now obs { store := s }).1.applied)
      (fun _ _ _ hsame _ _ _ => hsame) rfl

/-- What an ingest applies is in its trace. -/
theorem Applies.mem_applied {before : List DeviceObservation} {o : DeviceObservation}
    {st : IngestState} (h : s.Applies worker obs policy now wr before o st) :
    ⟨o.key, o, st.store.applyTo o policy now⟩
      ∈ (s.ingestSnapshot worker obs policy now).applied := by
  obtain ⟨after, rfl⟩ := h.batch
  rw [ingestSnapshot_applied h.record h.lost h.fenced, ingestLoop_append h.reached, ingestLoop,
    h.passed]
  apply ingestLoop_applied_mem
  simp [IngestState.commit]

/-- Everything in the trace of an ingest is something it applied. -/
theorem applies_of_mem_applied {a : Application}
    (ha : a ∈ (s.ingestSnapshot worker obs policy now).applied) :
    ∃ wr before st, s.Applies worker obs policy now wr before a.obs st ∧
      a = ⟨a.obs.key, a.obs, st.store.applyTo a.obs policy now⟩ := by
  have hall : ∀ a ∈ [] ++ (s.ingestSnapshot worker obs policy now).applied,
      ∃ wr before st, s.Applies worker obs policy now wr before a.obs st ∧
        a = ⟨a.obs.key, a.obs, st.store.applyTo a.obs policy now⟩ := by
    apply ingestSnapshot_invariant
      (P := fun _ as => ∀ a ∈ as, ∃ wr before st,
        s.Applies worker obs policy now wr before a.obs st ∧
          a = ⟨a.obs.key, a.obs, st.store.applyTo a.obs policy now⟩) []
    · intro a ha
      cases ha
    · intro wr before o st happlies hP a ha
      rcases List.mem_append.mp ha with ha | ha
      · exact hP a ha
      · rw [List.mem_singleton.mp ha]
        exact ⟨wr, before, st, happlies, rfl⟩
    · intro _ _ _ _ hP _
      exact hP
    · intro _ _ hP
      exact hP
  exact hall a ha

end Trace

/-! ## The gates over a batch -/

/-- The verdicts of the gates over a batch, against what is on file for each
key.  An observation that passes puts its own stamp on file, and the first
refusal ends the loop. -/
def verdicts (epoch : CoordinatorEpoch) (worker : WorkerId) (boot : WorkerBootId) :
    (ByteString → Option Stamp) → List DeviceObservation → List Verdict
  | _, [] => []
  | onFile, o :: rest =>
    match gate epoch worker boot (onFile o.key) o with
    | .refuse err => [.refuse err]
    | .skip => .skip :: verdicts epoch worker boot onFile rest
    | .pass => .pass ::
        verdicts epoch worker boot (fun key => if o.key = key then some o.stamp else onFile key)
          rest

/-- The gates reject an observation of the batch. -/
def Refuses (vs : List Verdict) : Prop := ∃ err, Verdict.refuse err ∈ vs

/-- The gates let an observation of the device pass. -/
def Brings (obs : List DeviceObservation) (vs : List Verdict) (key : ByteString) : Prop :=
  ∃ o, (o, Verdict.pass) ∈ obs.zip vs ∧ o.key = key

theorem brings_cons {o : DeviceObservation} {obs : List DeviceObservation} {v : Verdict}
    {vs : List Verdict} {key : ByteString} :
    Brings (o :: obs) (v :: vs) key ↔ (v = .pass ∧ o.key = key) ∨ Brings obs vs key := by
  unfold Brings
  constructor
  · rintro ⟨o', ho', hkey⟩
    rw [List.zip_cons_cons, List.mem_cons, Prod.mk.injEq] at ho'
    rcases ho' with ⟨rfl, hv⟩ | hrest
    · exact Or.inl ⟨hv.symm, hkey⟩
    · exact Or.inr ⟨o', hrest, hkey⟩
  · rintro (⟨rfl, hkey⟩ | ⟨o', hrest, hkey⟩)
    · exact ⟨o, List.mem_cons_self, hkey⟩
    · exact ⟨o', List.mem_cons_of_mem _ hrest, hkey⟩

section Verdicts

variable (worker : WorkerId) (boot : WorkerBootId) (policy : ObservationPolicy)
  (now : Timestamp) (obs : List DeviceObservation) (st : IngestState)

/-- The loop returns an error exactly when the gates refuse an observation. -/
theorem ingestLoop_ok_iff :
    (ingestLoop worker boot policy now obs st).2 = .ok () ↔
      ¬Refuses (verdicts st.store.epoch worker boot st.store.stampOf obs) := by
  induction obs generalizing st with
  | nil => simp [ingestLoop, verdicts, Refuses]
  | cons o rest ih =>
    rw [ingestLoop, verdicts]
    cases gate st.store.epoch worker boot (st.store.stampOf o.key) o with
    | refuse err => simp [Refuses]
    | skip =>
      rw [ih]
      simp [Refuses]
    | pass =>
      simp only [ih, stampOf_commit]
      simp [Refuses, IngestState.commit]

/-- A batch from which nothing passes leaves the loop state as it was. -/
theorem ingestLoop_eq_self
    (h : Verdict.pass ∉ verdicts st.store.epoch worker boot st.store.stampOf obs) :
    (ingestLoop worker boot policy now obs st).1 = st := by
  induction obs generalizing st with
  | nil => rfl
  | cons o rest ih =>
    rw [verdicts] at h
    rw [ingestLoop]
    cases hg : gate st.store.epoch worker boot (st.store.stampOf o.key) o with
    | refuse err => rfl
    | skip =>
      rw [hg] at h
      exact ih st fun hmem => h (List.mem_cons_of_mem _ hmem)
    | pass =>
      rw [hg] at h
      exact absurd List.mem_cons_self h

/-- A batch from which something passes leaves a trace. -/
theorem ingestLoop_applied_ne_nil
    (h : Verdict.pass ∈ verdicts st.store.epoch worker boot st.store.stampOf obs) :
    (ingestLoop worker boot policy now obs st).1.applied ≠ [] := by
  induction obs generalizing st with
  | nil => simp [verdicts] at h
  | cons o rest ih =>
    rw [verdicts] at h
    rw [ingestLoop]
    cases hg : gate st.store.epoch worker boot (st.store.stampOf o.key) o with
    | refuse err =>
      rw [hg] at h
      simp at h
    | skip =>
      rw [hg] at h
      exact ih st (by simpa using h)
    | pass =>
      refine ingestLoop_invariant (P := fun t => t.applied ≠ []) ?_ ?_
      · intro _ o' _ t _ _ _ _
        simp [IngestState.commit]
      · simp [IngestState.commit]

/-- The loop has seen the devices of the observations that passed. -/
theorem mem_ingestLoop_seenKeys (key : ByteString) :
    key ∈ (ingestLoop worker boot policy now obs st).1.seenKeys ↔
      key ∈ st.seenKeys ∨
        Brings obs (verdicts st.store.epoch worker boot st.store.stampOf obs) key := by
  induction obs generalizing st with
  | nil => simp [ingestLoop, Brings]
  | cons o rest ih =>
    rw [ingestLoop, verdicts]
    cases gate st.store.epoch worker boot (st.store.stampOf o.key) o with
    | refuse err => simp [Brings]
    | skip =>
      rw [ih, brings_cons]
      simp
    | pass =>
      have hseen : key ∈ (st.commit worker o policy now).seenKeys ↔
          o.key = key ∨ key ∈ st.seenKeys := by
        rw [IngestState.commit, List.mem_cons, eq_comm]
      simp only [ih]
      rw [stampOf_commit, epoch_commit, hseen, brings_cons, eq_self_iff_true, true_and]
      exact or_assoc.trans or_left_comm

end Verdicts

/-- The loop keeps the record of a device it has not seen. -/
theorem ingestLoop_devices_of_not_seen {s : FleetStateStore} {worker : WorkerId}
    {boot : WorkerBootId} {policy : ObservationPolicy} {now : Timestamp}
    {obs : List DeviceObservation} {key : ByteString}
    (h : key ∉ (ingestLoop worker boot policy now obs { store := s }).1.seenKeys) :
    (ingestLoop worker boot policy now obs { store := s }).1.store.devices[key]?
      = s.devices[key]? := by
  revert h
  apply ingestLoop_invariant
    (P := fun st => key ∉ st.seenKeys → st.store.devices[key]? = s.devices[key]?)
  · intro _ o _ st _ _ _ hP hseen
    rw [IngestState.commit, List.mem_cons, not_or] at hseen
    rw [IngestState.commit, commit_devices, if_neg fun h => hseen.1 h.symm]
    exact hP hseen.2
  · intro _
    rfl

/-- The loop extends the list of the worker by devices it has seen. -/
theorem ingestLoop_listed {s : FleetStateStore} {worker : WorkerId} {wr : WorkerRecord}
    (hwr : s.workers[worker]? = some wr) (boot : WorkerBootId) (policy : ObservationPolicy)
    (now : Timestamp) (obs : List DeviceObservation) :
    ∃ wr', (ingestLoop worker boot policy now obs { store := s }).1.store.workers[worker]?
        = some wr' ∧
      ∀ key ∉ (ingestLoop worker boot policy now obs { store := s }).1.seenKeys,
        key ∈ wr'.deviceIdentities ↔ key ∈ wr.deviceIdentities := by
  apply ingestLoop_invariant
    (P := fun st => ∃ wr', st.store.workers[worker]? = some wr' ∧
      ∀ key ∉ st.seenKeys, key ∈ wr'.deviceIdentities ↔ key ∈ wr.deviceIdentities)
  · intro _ o _ st _ _ _ ⟨wr', hwr', hlisted⟩
    simp only [IngestState.commit, commit]
    by_cases hknown : st.store.devices.contains o.key = true
    · rw [if_pos hknown]
      refine ⟨wr', hwr', ?_⟩
      intro key hkey
      rw [List.mem_cons, not_or] at hkey
      exact hlisted key hkey.2
    · rw [if_neg hknown, OrderedMap.getElem?_modify_same, hwr', Option.map_some]
      refine ⟨_, rfl, ?_⟩
      intro key hkey
      rw [List.mem_cons, not_or] at hkey
      rw [List.mem_append, List.mem_singleton, hlisted key hkey.2]
      exact or_iff_left hkey.1
  · exact ⟨wr, hwr, fun _ _ => Iff.rfl⟩

end FleetStateStore

end GpuFleet
