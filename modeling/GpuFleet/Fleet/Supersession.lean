import GpuFleet.Fleet.Authority

/-!
# Superseded incarnations

The store keeps the current boot id of a worker and forgets the earlier
ones.  A registration with any other boot id takes over a record that is
fenced, so an incarnation that was superseded can come back when its
successor is lost, and a recovery brings back whatever the snapshot holds.
`stays_dead_iff` says that these are the only ways.
-/

namespace GpuFleet

open Run

namespace FleetStateStore

/-- The call replaces the boot id `b` of the worker by another one. -/
def Replaced (w : WorkerId) (b : WorkerBootId) (call : FleetStateStore × Op) : Prop :=
  call.1.recordedBoot w = some b ∧
    ∃ b', b' ≠ b ∧ (call.1.step call.2).recordedBoot w = some b'

/-- The boot id `b` of the worker was replaced in the past. -/
def Superseded (past : List (FleetStateStore × Op)) (w : WorkerId) (b : WorkerBootId) : Prop :=
  ∃ call ∈ past, Replaced w b call

/-- The call accepts a heartbeat or an observation that carries `b`. -/
def Accepts (w : WorkerId) (b : WorkerBootId) (call : FleetStateStore × Op) : Prop :=
  match call.2 with
  | .heartbeat worker boot _ _ _ => worker = w ∧ boot = b ∧ ¬(call.1.exec call.2).Failed
  | .ingestSnapshot worker _ _ _ =>
    worker = w ∧ ∃ a ∈ (call.1.exec call.2).applied, a.obs.sourceWorkerBoot = b
  | _ => False

/-- Along the history and in the state it leads to, a boot id that was
superseded is neither recorded nor heard. -/
def StaysDead (past : List (FleetStateStore × Op)) (s : FleetStateStore) : Prop :=
  Always (fun before call => ∀ w b, Superseded before w b →
      call.1.recordedBoot w ≠ some b ∧ ¬Accepts w b call) past ∧
    ∀ w b, Superseded past w b → s.recordedBoot w ≠ some b

/-- The call does not bring a superseded boot id: neither in a registration
that installs a record nor in a snapshot that is restored. -/
def NoReturn (past : List (FleetStateStore × Op)) (call : FleetStateStore × Op) : Prop :=
  match call.2 with
  | .registerWorker reg _ => call.1.Installs reg → ¬Superseded past reg.worker reg.workerBoot
  | .restore snap => ∀ (w : WorkerId) (wr : WorkerRecord), snap.workers[w]? = some wr →
      ¬Superseded past w wr.boot
  | _ => True

theorem superseded_concat {past : List (FleetStateStore × Op)} {call : FleetStateStore × Op}
    {w : WorkerId} {b : WorkerBootId} :
    Superseded (past ++ [call]) w b ↔ Superseded past w b ∨ Replaced w b call := by
  simp only [Superseded, List.mem_append, List.mem_singleton, or_and_right, exists_or,
    exists_eq_left]

/-- A boot id that is on file after a call was there before, or the call
brought it. -/
theorem recordedBoot_step {s : FleetStateStore} {op : Op} {w : WorkerId} {b : WorkerBootId}
    (h : (s.step op).recordedBoot w = some b) :
    s.recordedBoot w = some b ∨
      (∃ reg now, op = .registerWorker reg now ∧ s.Installs reg ∧ reg.worker = w ∧
        reg.workerBoot = b) ∨
      (∃ snap wr, op = .restore snap ∧ snap.workers[w]? = some wr ∧ wr.boot = b) := by
  by_cases hrestore : op.IsRestore
  · cases op with
    | restore snap =>
      obtain ⟨wr, hwr, hb⟩ := Option.map_eq_some_iff.mp h
      exact Or.inr (Or.inr ⟨snap, wr, rfl, hwr, hb⟩)
    | _ => exact absurd hrestore fun h => h
  · by_cases hinstall : (tenureEvent w (s, op)).IsInstall
    · obtain ⟨b', hb'⟩ := tenureEvent_isInstall.mp hinstall
      obtain ⟨reg, now, hop, hw, hboot, hc⟩ := hb'
      have hholder : (s.step op).recordedBoot w = some b' := by
        rw [← holder_tenure, tenure_step hrestore, tenureEvent_install.mpr
          ⟨reg, now, hop, hw, hboot, hc⟩]
        rfl
      obtain rfl : b' = b := Option.some.inj (hholder.symm.trans h)
      subst hw hboot
      exact Or.inr (Or.inl ⟨reg, now, hop, (installs_iff s reg now).mpr hc, rfl, rfl⟩)
    · rw [← holder_tenure, tenure_step hrestore, Tenure.holder_next _ hinstall,
        holder_tenure] at h
      exact Or.inl h

/-- Whoever is heard is on file. -/
theorem recordedBoot_of_accepts {w : WorkerId} {b : WorkerBootId}
    {call : FleetStateStore × Op} (h : Accepts w b call) :
    call.1.recordedBoot w = some b := by
  obtain ⟨s, op⟩ := call
  cases op with
  | heartbeat worker boot epoch now hg =>
    obtain ⟨rfl, rfl, hok⟩ := h
    rcases s.heartbeat_cases worker boot epoch now hg with ⟨h, _⟩ | ⟨wr, _, hwr, hboot, _⟩
    · exact absurd h.failed hok
    · show s.recordedBoot worker = some boot
      rw [recordedBoot, hwr, Option.map_some, hboot]
  | ingestSnapshot worker obs policy now =>
    obtain ⟨rfl, a, ha, rfl⟩ := h
    obtain ⟨wr, before, st, happlies, _⟩ := applies_of_mem_applied ha
    show s.recordedBoot worker = some a.obs.sourceWorkerBoot
    rw [recordedBoot, happlies.record, Option.map_some, (gate_pass happlies.passed).2.1]
  | _ => exact absurd h fun h => h

/-- One call that brings no superseded boot id. -/
theorem not_recorded_step {past : List (FleetStateStore × Op)} {s : FleetStateStore} {op : Op}
    (hreturn : NoReturn past (s, op))
    (h : ∀ w b, Superseded past w b → s.recordedBoot w ≠ some b) :
    ∀ w b, Superseded (past ++ [(s, op)]) w b → (s.step op).recordedBoot w ≠ some b := by
  intro w b hsuper hrecorded
  rcases superseded_concat.mp hsuper with hpast | ⟨_, b', hne, hb'⟩
  · rcases recordedBoot_step hrecorded with hsame | ⟨reg, now, rfl, hi, rfl, rfl⟩ |
      ⟨snap, wr, rfl, hwr, rfl⟩
    · exact h w b hpast hsame
    · exact hreturn hi hpast
    · exact hreturn w wr hwr hpast
  · rw [hb'] at hrecorded
    exact hne (Option.some.inj hrecorded)

/-- A call that brings a superseded boot id puts it on file. -/
theorem recorded_of_return {past : List (FleetStateStore × Op)} {s : FleetStateStore} {op : Op}
    (h : ¬NoReturn past (s, op)) :
    ∃ w b, Superseded past w b ∧ (s.step op).recordedBoot w = some b := by
  cases op with
  | registerWorker reg now =>
    obtain ⟨hi, hsuper⟩ := Classical.not_imp.mp h
    refine ⟨reg.worker, reg.workerBoot, not_not.mp hsuper, ?_⟩
    rcases s.registerWorker_cases reg now with ⟨_, hnot⟩ | ⟨_, _, hnot, _⟩ | ⟨_, hdone⟩
    · exact absurd hi hnot
    · exact absurd hi hnot
    · rw [recordedBoot, step, exec, Outcome.void, hdone.store, installWorker]
      simp only [OrderedMap.getElem?_insert_same]
      rfl
  | restore snap =>
    obtain ⟨w, hw⟩ := Classical.not_forall.mp h
    obtain ⟨wr, hwr⟩ := Classical.not_forall.mp hw
    obtain ⟨hrecord, hsuper⟩ := Classical.not_imp.mp hwr
    refine ⟨w, wr.boot, not_not.mp hsuper, ?_⟩
    show (snap.workers[w]?.map WorkerRecord.boot) = some wr.boot
    rw [hrecord, Option.map_some]
  | _ => exact absurd trivial h

/-- In every run, a boot id that was superseded stays dead exactly when no
call of the run brings one back. -/
theorem stays_dead_iff (coord : CoordinatorId) (epoch : CoordinatorEpoch) (ops : List Op) :
    StaysDead ((empty coord epoch).history ops) ((empty coord epoch).run ops) ↔
      Always NoReturn ((empty coord epoch).history ops) := by
  induction ops using List.reverseRecOn with
  | nil => simp [StaysDead, history, Superseded]
  | append_singleton ops op ih =>
    have hrun : (empty coord epoch).run (ops ++ [op]) = ((empty coord epoch).run ops).step op :=
      run_concat _ _ _
    have hhistory : (empty coord epoch).history (ops ++ [op])
        = (empty coord epoch).history ops ++ [((empty coord epoch).run ops, op)] :=
      history_concat _ _ _
    rw [hrun, hhistory, always_concat, ← ih]
    generalize (empty coord epoch).history ops = past, (empty coord epoch).run ops = s
    constructor
    · intro hdead
      obtain ⟨hbefore, hnow⟩ := always_concat.mp hdead.1
      refine ⟨⟨hbefore, fun w b hsuper => (hnow w b hsuper).1⟩, ?_⟩
      by_contra hreturn
      obtain ⟨w, b, hsuper, hrecorded⟩ := recorded_of_return hreturn
      exact hdead.2 w b (superseded_concat.mpr (Or.inl hsuper)) hrecorded
    · intro ⟨hdead, hreturn⟩
      refine ⟨always_concat.mpr ⟨hdead.1, ?_⟩, not_recorded_step hreturn hdead.2⟩
      intro w b hsuper
      refine ⟨hdead.2 w b hsuper, ?_⟩
      intro haccepts
      exact hdead.2 w b hsuper (recordedBoot_of_accepts haccepts)

set_option maxRecDepth 4000 in
/-- A worker whose second incarnation is lost is taken over by its first one. -/
theorem first_incarnation_returns :
    ¬StaysDead
      (sampleStore.history [.registerWorker (sampleRegistration 1 10 1) 1000,
        .markWorkerLost ⟨1⟩ 2000, .registerWorker (sampleRegistration 1 20 1) 3000,
        .markWorkerLost ⟨1⟩ 4000, .registerWorker (sampleRegistration 1 10 2) 5000])
      (sampleStore.run [.registerWorker (sampleRegistration 1 10 1) 1000,
        .markWorkerLost ⟨1⟩ 2000, .registerWorker (sampleRegistration 1 20 1) 3000,
        .markWorkerLost ⟨1⟩ 4000, .registerWorker (sampleRegistration 1 10 2) 5000]) := by
  intro hdead
  refine hdead.2 ⟨1⟩ ⟨10⟩ ⟨_, List.mem_cons_of_mem _ (List.mem_cons_of_mem _
    List.mem_cons_self), rfl, ⟨20⟩, ?_, rfl⟩ rfl
  decide

end FleetStateStore

end GpuFleet
