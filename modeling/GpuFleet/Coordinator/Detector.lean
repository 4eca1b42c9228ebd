import GpuFleet.Coordinator.LossVerdicts
import GpuFleet.Coordinator.Restarts
import GpuFleet.Fleet.Accounting
import GpuFleet.Fleet.Authority

/-!
# The liveness loop as a failure detector

A pass of `liveness_loop` is one look at the clock and the store, and then a
visit of every record of the snapshot.  Between any two of these the other
threads may do anything.

The passes are exact: the verdicts of the loop are, in order and each once, the
workers that were overdue when it looked (`verdicts_exact`).  They are complete:
a worker that was overdue at the look has its verdict when the pass is over, and
from the verdict on it counts as live in no state until a registration installs
an incarnation or a snapshot is restored (`overdue_fenced`).
-/

namespace GpuFleet

open Run

namespace Process

open FleetStateStore

/-! ## Verdicts -/

/-- The verdicts that a scan leads to: the worker and the time of the look. -/
def overdue (timeout : DurationMs) (scan : Scan) : List (WorkerId × Timestamp) :=
  (scan.entries.filter fun e => expired timeout scan.now e.2).map fun e => (e.1, scan.now)

/-- The workers that are overdue when the loop looks.  A look in the middle of
a pass is none. -/
def looked (call : Process × Action) : List (WorkerId × Timestamp) :=
  match call.2, call.1.scan with
  | .look now, none => overdue call.1.timeout ⟨now, call.1.store.snapshot.workers.toList⟩
  | _, _ => []

/-- The calls of `mark_worker_lost` that the loop makes. -/
def verdicts (call : Process × Action) : List (WorkerId × Timestamp) :=
  match call.2, call.1.call .visit with
  | .visit, some (.markWorkerLost w now) => [(w, now)]
  | _, _ => []

/-- The verdicts of the entries that are still to be visited. -/
def undecided (p : Process) : List (WorkerId × Timestamp) :=
  match p.scan with
  | none => []
  | some scan => overdue p.timeout scan

theorem advance_opts (c : Coordinator) (e : Option Coordinator.Event) :
    (c.advance e).opts = c.opts := by
  cases e with
  | none => rfl
  | some e =>
    cases e with
    | message now io msg => exact (c.dispatch_frame now io msg).1
    | _ => rfl

/-- `heartbeat_timeout_ms` stays what it was. -/
theorem step_timeout (p : Process) (a : Action) : (p.step a).timeout = p.timeout := by
  cases a with
  | operate op hop => rfl
  | _ => exact congrArg Options.heartbeatTimeoutMs (advance_opts p.coordinator _)

/-- One visit gives the verdict on one entry. -/
theorem visit_flow (p : Process) :
    p.undecided = verdicts (p, .visit) ++ (p.step .visit).undecided := by
  have htimeout := p.step_timeout .visit
  unfold undecided verdicts
  rw [htimeout]
  cases hscan : p.scan with
  | none => simp [step, nextScan, call, event, hscan]
  | some scan =>
    obtain ⟨now, entries⟩ := scan
    cases entries with
    | nil => simp [step, nextScan, call, event, hscan, overdue]
    | cons e rest =>
      have hnext : (p.step .visit).scan = some ⟨now, rest⟩ := by
        simp [step, nextScan, hscan]
      rw [hnext]
      by_cases hexpired : expired p.timeout now e.2 = true
      · simp [call, event, hscan, hexpired, overdue, Coordinator.call]
      · simp [call, event, hscan, hexpired, overdue]

theorem look_flow (p : Process) (now : Timestamp) :
    p.undecided ++ looked (p, .look now) = (p.step (.look now)).undecided := by
  have htimeout := p.step_timeout (.look now)
  unfold undecided looked
  rw [htimeout]
  cases hscan : p.scan with
  | none => simp [step, nextScan, hscan]
  | some scan => simp [step, nextScan, hscan]

theorem step_flow (p : Process) (a : Action) :
    p.undecided ++ looked (p, a) = verdicts (p, a) ++ (p.step a).undecided := by
  cases a with
  | look now => exact look_flow p now
  | visit =>
    rw [← visit_flow]
    exact List.append_nil _
  | _ =>
    -- the other threads do not touch the scan
    show p.undecided ++ [] = [] ++ undecided _
    rw [List.append_nil, List.nil_append, undecided, undecided, step_timeout]
    rfl

/-- In every interleaving the verdicts of the liveness loop are, in order and
each once, the workers that were overdue when it looked, up to the part of the
last pass that is still to come. -/
theorem verdicts_exact (opts : Options) (disk : Disk) (actions : List Action) :
    ((create opts disk).history actions).flatMap looked
      = ((create opts disk).history actions).flatMap verdicts
        ++ ((create opts disk).run actions).undecided :=
  flow_conserved step_flow (create opts disk) actions

/-! ## After a verdict -/

/-- The action installs an incarnation for the worker, or brings back a
snapshot. -/
def Renewed (w : WorkerId) (call : Process × Action) : Prop :=
  ∃ op, call.1.call call.2 = some op ∧ (op.IsRestore ∨ ∃ b, Installed w b (call.1.store, op))

/-- The record of the worker, if there is one, is fenced. -/
def Fenced (w : WorkerId) (p : Process) : Prop :=
  ∀ wr : WorkerRecord, p.store.workers[w]? = some wr → wr.fenced = true

theorem Fenced.not_live {w : WorkerId} {p : Process} (h : Fenced w p) {wr : WorkerRecord}
    (hwr : p.store.workers[w]? = some wr) : wr.isLive = false := by
  rw [WorkerRecord.isLive, h wr hwr, Bool.not_true, Bool.and_false]

section Step

variable {p : Process} {a : Action} {w : WorkerId}

/-- Neither a heartbeat nor a report clears the fence. -/
theorem Fenced.step (h : Fenced w p) (hrenewed : ¬Renewed w (p, a)) : Fenced w (p.step a) := by
  intro wr' hwr'
  rw [step_store] at hwr'
  cases hcall : p.call a with
  | none =>
    rw [hcall] at hwr'
    exact h wr' hwr'
  | some op =>
    rw [hcall] at hwr'
    have hrestore : ¬op.IsRestore := fun hr => hrenewed ⟨op, hcall, Or.inl hr⟩
    have hnew : ∀ b, ¬Installed w b (p.store, op) := by
      intro b hb
      exact hrenewed ⟨op, hcall, Or.inr ⟨b, hb⟩⟩
    change (p.store.step op).workers[w]? = some wr' at hwr'
    cases step_workers hrestore w (s := p.store) with
    | kept heffect _ _ =>
      have hbefore := h
      unfold Fenced at hbefore
      rw [hwr'] at heffect
      generalize p.store.workers[w]? = r at heffect hbefore
      cases heffect with
      | kept boot fenced lost alive =>
        rw [fenced]
        exact hbefore _ rfl
    | installed reg now hop hw hinstalls hrecord =>
      have hinstalled := (installs_iff p.store reg now).mp hinstalls
      rw [hw] at hinstalled
      exact absurd ⟨reg, now, hop, hw, rfl, hinstalled⟩ (hnew reg.workerBoot)
    | declaredLost now wr hop hwr hrecord =>
      rw [hrecord] at hwr'
      obtain rfl := Option.some.inj hwr'
      rfl

theorem Fenced.run (h : Fenced w p) (actions : List Action)
    (hrenewed : ∀ call ∈ p.history actions, ¬Renewed w call) : Fenced w (p.run actions) := by
  induction actions generalizing p with
  | nil => exact h
  | cons a rest ih =>
    have hnext := h.step (hrenewed (p, a) List.mem_cons_self)
    exact ih hnext fun call hcall => hrenewed call (List.mem_cons_of_mem _ hcall)

theorem fenced_of_verdict {now : Timestamp} (h : p.call a = some (.markWorkerLost w now)) :
    Fenced w (p.step a) := by
  intro wr' hwr'
  rw [step_store, h] at hwr'
  change (p.store.step (.markWorkerLost w now)).workers[w]? = some wr' at hwr'
  rw [FleetStateStore.step, exec] at hwr'
  rcases p.store.markWorkerLost_cases w now with ⟨hnone, hdone⟩ | ⟨wr, hwr, hdone⟩
  · rw [hdone.store, hnone] at hwr'
    cases hwr'
  · rw [hdone.store, OrderedMap.getElem?_insert, if_pos rfl] at hwr'
    obtain rfl := Option.some.inj hwr'
    rfl

end Step

/-! ## A pass -/

theorem mem_verdicts {call : Process × Action} {w : WorkerId} {now : Timestamp}
    (h : (w, now) ∈ verdicts call) :
    call.2 = .visit ∧ call.1.call .visit = some (.markWorkerLost w now) := by
  unfold verdicts at h
  split at h
  · next w' now' haction hcall =>
    obtain ⟨rfl, rfl⟩ := Prod.mk.inj (List.mem_singleton.mp h)
    exact ⟨haction, hcall⟩
  · cases h

/-- A worker that is overdue at a look has its verdict before the pass is over,
whatever the others do meanwhile. -/
theorem exists_verdict {p : Process} {now : Timestamp} {w : WorkerId} {wr : WorkerRecord}
    {during : List Action} (hidle : p.scan = none) (hwr : p.store.workers[w]? = some wr)
    (hexpired : expired p.timeout now wr = true)
    (hdone : ((p.step (.look now)).run during).scan = none) :
    ∃ earlier later, during = earlier ++ .visit :: later ∧
      ((p.step (.look now)).run earlier).call .visit = some (.markWorkerLost w now) := by
  have hflow := flow_conserved step_flow (p.step (.look now)) during
  have hpending : (w, now) ∈ (p.step (.look now)).undecided := by
    rw [← look_flow, looked, hidle]
    refine List.mem_append_right _ (List.mem_map.mpr ⟨(w, wr), ?_, rfl⟩)
    exact List.mem_filter.mpr ⟨Std.ExtTreeMap.mem_toList_iff_getElem?_eq_some.mpr hwr, hexpired⟩
  have hend : undecided (Run.run step (p.step (.look now)) during) = [] := by
    have hscan : (Run.run step (p.step (.look now)) during).scan = none := hdone
    rw [undecided, hscan]
  rw [hend, List.append_nil] at hflow
  have hmem := List.mem_append_left
    (List.flatMap looked (Run.history step (p.step (.look now)) during)) hpending
  rw [hflow] at hmem
  obtain ⟨call, hcall, hverdict⟩ := List.mem_flatMap.mp hmem
  obtain ⟨earlier, a, later, rfl, rfl⟩ := exists_of_mem_history hcall
  obtain ⟨rfl, hlost⟩ := mem_verdicts hverdict
  exact ⟨earlier, later, rfl, hlost⟩

/-- In every interleaving, a worker that was overdue when the loop looked has its
verdict by the end of the pass, and from then on its record is not live until a
registration installs an incarnation or a snapshot is restored. -/
theorem overdue_fenced (p : Process) (now : Timestamp) (w : WorkerId) (wr : WorkerRecord)
    (during : List Action) (hidle : p.scan = none) (hwr : p.store.workers[w]? = some wr)
    (hexpired : expired p.timeout now wr = true)
    (hdone : ((p.step (.look now)).run during).scan = none) :
    ∃ earlier later, during = earlier ++ .visit :: later ∧
      ∀ more, (∀ call ∈ ((p.step (.look now)).run (earlier ++ [.visit])).history more,
          ¬Renewed w call) →
        ∀ wr' : WorkerRecord,
          (((p.step (.look now)).run (earlier ++ [.visit])).run more).store.workers[w]? = some wr' →
            wr'.isLive = false := by
  obtain ⟨earlier, later, hduring, hverdict⟩ := exists_verdict hidle hwr hexpired hdone
  refine ⟨earlier, later, hduring, ?_⟩
  intro more hmore wr' hwr'
  have hfenced : Fenced w ((p.step (.look now)).run (earlier ++ [.visit])) := by
    rw [run, run_concat]
    exact fenced_of_verdict hverdict
  exact (hfenced.run more hmore).not_live hwr'

/-- A worker has registered and is not heard from again. -/
def sampleSilence : Process :=
  (create {} fun _ => none).run [.accept, .message 0 1000 {} (sampleRegister 1 10)]

/-- Another connection comes in while the loop is on its way. -/
theorem sampleSilence_fenced :
    ∃ earlier later, ([.visit, .accept, .visit] : List Action) = earlier ++ .visit :: later ∧
      ∀ more, (∀ call ∈ ((sampleSilence.step (.look 9000)).run (earlier ++ [.visit])).history more,
          ¬Renewed ⟨1⟩ call) →
        ∀ wr' : WorkerRecord, (((sampleSilence.step (.look 9000)).run
            (earlier ++ [.visit])).run more).store.workers[(⟨1⟩ : WorkerId)]? = some wr' →
          wr'.isLive = false :=
  overdue_fenced sampleSilence 9000 ⟨1⟩ (newWorkerRecord (sampleRegistration 1 10 1) 1000)
    [.visit, .accept, .visit] rfl (by decide +kernel) (by decide +kernel) (by decide +kernel)

end Process

end GpuFleet
