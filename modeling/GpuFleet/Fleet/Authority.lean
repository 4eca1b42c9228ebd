import GpuFleet.Fleet.Effects
import GpuFleet.Lib.Tenure

/-!
# Who speaks for a worker

The record of a worker carries three flags.  `mark_worker_lost` sets `lost`
and `fenced` and clears `alive`.  A heartbeat and a re-affirmation clear
`lost` and set `alive`, but only a registration that installs a record
clears `fenced`.  So `fenced` alone decides, and the boot id with this flag
behaves as an office with a holder (`GpuFleet.Lib.Tenure`).

* `WorkerEffect` and `step_workers`: what a call can do to one record.
* `tenure_step`: the store follows the abstract office.
* `handover_safe`: what the past of a run must be for an observation to be
  applied, and for a boot id to be replaced.
* `registration_confers_authority_iff`: a registration that succeeds gives
  the right to report, except when it re-affirms a fenced record.
-/

namespace GpuFleet

open Run

namespace FleetStateStore

/-! ## What a call does to one record -/

/-- A record is untouched, or it is of the same incarnation with the same
fence and it is not deader than before. -/
inductive WorkerEffect : Option WorkerRecord → Option WorkerRecord → Prop
  | absent : WorkerEffect none none
  | kept {wr wr' : WorkerRecord} (boot : wr'.boot = wr.boot) (fenced : wr'.fenced = wr.fenced)
      (lost : wr'.lost = true → wr.lost = true)
      (alive : wr'.alive = false → wr.alive = false) :
      WorkerEffect (some wr) (some wr')

theorem WorkerEffect.revived {wr wr' : WorkerRecord} (boot : wr'.boot = wr.boot)
    (fenced : wr'.fenced = wr.fenced) (lost : wr'.lost = false) (alive : wr'.alive = true) :
    WorkerEffect (some wr) (some wr') := by
  refine .kept boot fenced ?_ ?_
  · intro h
    rw [lost] at h
    cases h
  · intro h
    rw [alive] at h
    cases h

theorem WorkerEffect.refl (r : Option WorkerRecord) : WorkerEffect r r := by
  cases r with
  | none => exact .absent
  | some wr => exact .kept rfl rfl id id

theorem WorkerEffect.trans {r r' r'' : Option WorkerRecord} (h : WorkerEffect r r')
    (h' : WorkerEffect r' r'') : WorkerEffect r r'' := by
  cases h with
  | absent => exact h'
  | kept boot fenced lost alive =>
    cases h' with
    | kept boot' fenced' lost' alive' =>
      exact .kept (boot'.trans boot) (fenced'.trans fenced) (lost ∘ lost') (alive ∘ alive')

/-- A `modify` that keeps the incarnation and the fence. -/
theorem workerEffect_modify (m : Map WorkerId WorkerRecord) (worker w : WorkerId)
    {f : WorkerRecord → WorkerRecord}
    (hf : ∀ wr, WorkerEffect (some wr) (some (f wr))) :
    WorkerEffect m[w]? (m.modify worker f)[w]? := by
  rw [OrderedMap.getElem?_modify]
  by_cases hw : worker = w
  · rw [if_pos hw]
    cases m[w]? with
    | none => exact .absent
    | some wr => exact hf wr
  · rw [if_neg hw]
    exact .refl _

/-- The same for an `insert` over the record that is there. -/
theorem workerEffect_insert {m : Map WorkerId WorkerRecord} {worker : WorkerId}
    {wr wr' : WorkerRecord} (hwr : m[worker]? = some wr)
    (h : WorkerEffect (some wr) (some wr')) (w : WorkerId) :
    WorkerEffect m[w]? (m.insert worker wr')[w]? := by
  rw [OrderedMap.getElem?_insert]
  by_cases hw : worker = w
  · subst hw
    rw [if_pos rfl, hwr]
    exact h
  · rw [if_neg hw]
    exact .refl _

/-- An ingest extends the list of devices of its worker and records a sign
of life. -/
theorem ingestSnapshot_workers (s : FleetStateStore) (worker : WorkerId)
    (obs : List DeviceObservation) (policy : ObservationPolicy) (now : Timestamp)
    (w : WorkerId) :
    WorkerEffect s.workers[w]? (s.ingestSnapshot worker obs policy now).store.workers[w]? := by
  apply ingestSnapshot_invariant
    (P := fun t _ => WorkerEffect s.workers[w]? t.workers[w]?) [] (.refl _)
  · intro wr before o st _ h
    refine h.trans ?_
    unfold commit
    by_cases hknown : st.store.devices.contains o.key = true
    · simp only [if_pos hknown]
      exact .refl _
    · simp only [if_neg hknown]
      exact workerEffect_modify _ _ _ fun wr => .kept rfl rfl id id
  · intro t as key d h _
    exact h
  · intro t as h
    exact h.trans (workerEffect_modify _ _ _ fun wr => .kept rfl rfl id fun h => by cases h)

/-- The call installs `b` as the incarnation of `w`: a registration that is
accepted and whose boot id is not the recorded one. -/
def Installed (w : WorkerId) (b : WorkerBootId) (call : FleetStateStore × Op) : Prop :=
  ∃ reg now, call.2 = .registerWorker reg now ∧ reg.worker = w ∧ reg.workerBoot = b ∧
    ¬(call.1.registerWorker reg now).Failed ∧ call.1.recordedBoot w ≠ some b

/-- The call declares the worker lost. -/
def DeclaredLost (w : WorkerId) (call : FleetStateStore × Op) : Prop :=
  ∃ now, call.2 = .markWorkerLost w now

/-- The call is a registration of `w` that is accepted. -/
def Registered (w : WorkerId) (call : FleetStateStore × Op) : Prop :=
  ∃ reg now, call.2 = .registerWorker reg now ∧ reg.worker = w ∧
    ¬(call.1.registerWorker reg now).Failed

/-- The two paths of `register_worker` that build a record are the accepted
registrations with a boot id that is not on file. -/
theorem installs_iff (s : FleetStateStore) (reg : Registration) (now : Timestamp) :
    s.Installs reg ↔ ¬(s.registerWorker reg now).Failed ∧
      s.recordedBoot reg.worker ≠ some reg.workerBoot := by
  have hvacant : s.Installs reg → s.recordedBoot reg.worker ≠ some reg.workerBoot := by
    intro hi hboot
    obtain ⟨wr, hwr, hb⟩ := Option.map_eq_some_iff.mp hboot
    exact (hi.vacant wr hwr).1 hb
  rcases s.registerWorker_cases reg now with ⟨h, hnot⟩ | ⟨wr, hr, hnot, h⟩ | ⟨hi, h⟩
  · exact ⟨fun hi => absurd hi hnot, fun hc => absurd h.failed hc.1⟩
  · refine ⟨fun hi => absurd hi hnot, fun hc => absurd ?_ hc.2⟩
    rw [recordedBoot, hr.record, Option.map_some, hr.boot]
  · exact ⟨fun _ => ⟨h.ok, hvacant hi⟩, fun _ => hi⟩

/-- Everything that a call other than a recovery can do to the record of a
worker. -/
inductive WorkerStep (s : FleetStateStore) (op : Op) (w : WorkerId) : Prop
  | kept (heffect : WorkerEffect s.workers[w]? (s.step op).workers[w]?)
      (hinstalled : ∀ b, ¬Installed w b (s, op))
      (hlost : DeclaredLost w (s, op) → s.workers[w]? = none)
  | installed (reg : Registration) (now : Timestamp) (hop : op = .registerWorker reg now)
      (hw : reg.worker = w) (hinstalls : s.Installs reg)
      (hrecord : (s.step op).workers[w]? = some (newWorkerRecord reg now))
  | declaredLost (now : Timestamp) (wr : WorkerRecord) (hop : op = .markWorkerLost w now)
      (hwr : s.workers[w]? = some wr)
      (hrecord : (s.step op).workers[w]?
        = some { wr with lost := true, alive := false, fenced := true })

/-- The calls that are neither a registration nor a loss. -/
theorem WorkerStep.other {s : FleetStateStore} {op : Op} {w : WorkerId}
    (heffect : WorkerEffect s.workers[w]? (s.step op).workers[w]?)
    (hreg : ∀ reg now, op ≠ .registerWorker reg now)
    (hlost : ∀ now, op ≠ .markWorkerLost w now) : WorkerStep s op w := by
  refine .kept heffect ?_ ?_
  · intro b ⟨reg, now, hop, _⟩
    exact hreg reg now hop
  · intro ⟨now, hop⟩
    exact absurd hop (hlost now)

theorem registerWorker_workerStep (s : FleetStateStore) (reg : Registration) (now : Timestamp)
    (w : WorkerId) : WorkerStep s (.registerWorker reg now) w := by
  have hlost : DeclaredLost w (s, .registerWorker reg now) → s.workers[w]? = none := by
    intro ⟨_, hop⟩
    cases hop
  have hnotInstalled : ¬s.Installs reg → ∀ b, ¬Installed w b (s, .registerWorker reg now) := by
    rintro hnot b ⟨reg', now', hop, rfl, rfl, hc⟩
    cases hop
    exact hnot ((installs_iff s reg now).mpr hc)
  rcases s.registerWorker_cases reg now with ⟨h, hnot⟩ | ⟨wr, hr, hnot, h⟩ | ⟨hi, h⟩
  · refine .kept ?_ (hnotInstalled hnot) hlost
    rw [step, exec, Outcome.void, h.store]
    exact .refl _
  · refine .kept ?_ (hnotInstalled hnot) hlost
    have hrevived : WorkerEffect (some wr) (some (reaffirmed wr reg now)) :=
      .revived rfl rfl rfl rfl
    rw [step, exec, Outcome.void, h.store]
    exact workerEffect_insert hr.record hrevived w
  · by_cases hw : reg.worker = w
    · refine .installed reg now rfl hw hi ?_
      rw [step, exec, Outcome.void, h.store, ← hw]
      exact OrderedMap.getElem?_insert_same _ _ _
    · refine .kept ?_ ?_ hlost
      · have hsame : (s.installWorker reg now).store.workers[w]? = s.workers[w]? :=
          OrderedMap.getElem?_insert_of_ne hw _
        rw [step, exec, Outcome.void, h.store, hsame]
        exact .refl _
      · rintro b ⟨reg', now', hop, hw', _⟩
        cases hop
        exact hw hw'

theorem markWorkerLost_workerStep (s : FleetStateStore) (w' : WorkerId) (now : Timestamp)
    (w : WorkerId) : WorkerStep s (.markWorkerLost w' now) w := by
  have hinstalled : ∀ b, ¬Installed w b (s, .markWorkerLost w' now) := by
    rintro b ⟨_, _, hop, _⟩
    cases hop
  rcases s.markWorkerLost_cases w' now with ⟨hnone, h⟩ | ⟨wr, hwr, h⟩
  · refine .kept ?_ hinstalled ?_
    · rw [step, exec, h.store]
      exact .refl _
    · rintro ⟨now', hop⟩
      cases hop
      exact hnone
  · by_cases hw : w' = w
    · subst hw
      refine .declaredLost now wr rfl hwr ?_
      rw [step, exec, h.store]
      exact OrderedMap.getElem?_insert_same _ _ _
    · refine .kept ?_ hinstalled ?_
      · rw [step, exec, h.store]
        simp only [OrderedMap.getElem?_insert_of_ne hw]
        exact .refl _
      · rintro ⟨now', hop⟩
        cases hop
        exact absurd rfl hw

theorem step_workers {s : FleetStateStore} {op : Op} (hrestore : ¬op.IsRestore)
    (w : WorkerId) : WorkerStep s op w := by
  by_cases hadmin : op.IsAdministrative
  · refine .other ?_ ?_ ?_
    · rw [(s.step_sameWorkers hadmin).workers]
      exact .refl _
    · rintro reg now rfl
      exact hadmin
    · rintro now rfl
      exact hadmin
  cases op with
  | registerWorker reg now => exact s.registerWorker_workerStep reg now w
  | restore snap => exact absurd trivial hrestore
  | markWorkerLost w' now => exact s.markWorkerLost_workerStep w' now w
  | ingestSnapshot worker obs policy now =>
    exact .other (s.ingestSnapshot_workers worker obs policy now w) (by simp) (by simp)
  | heartbeat worker boot epoch now hg =>
    refine .other ?_ (by simp) (by simp)
    rcases s.heartbeat_cases worker boot epoch now hg with ⟨h, _⟩ | ⟨wr, _, hwr, _, h⟩
    · rw [step, exec, h.store]
      exact .refl _
    · have hrevived : WorkerEffect (some wr)
          (some { wr with lastHeartbeat := now, alive := true, lost := false }) :=
        .revived rfl rfl rfl rfl
      rw [step, exec, h.store]
      exact workerEffect_insert hwr hrevived w
  | _ => exact absurd trivial hadmin

/-! ## The office of a worker -/

/-- The record of a worker as an office. -/
def tenure (s : FleetStateStore) (w : WorkerId) : Tenure.State WorkerBootId :=
  match s.workers[w]? with
  | none => .vacant
  | some wr => if wr.fenced then .fenced wr.boot else .held wr.boot

open Classical in
/-- What a call is for the office of a worker. -/
noncomputable def tenureEvent (w : WorkerId) (call : FleetStateStore × Op) :
    Tenure.Event WorkerBootId :=
  if h : ∃ b, Installed w b call then .install h.choose
  else if DeclaredLost w call then .fence
  else .idle

theorem installed_unique {w : WorkerId} {b b' : WorkerBootId} {call : FleetStateStore × Op}
    (h : Installed w b call) (h' : Installed w b' call) : b = b' := by
  obtain ⟨reg, now, hop, _, hb, _⟩ := h
  obtain ⟨reg', now', hop', _, hb', _⟩ := h'
  rw [hop] at hop'
  cases hop'
  exact hb.symm.trans hb'

theorem not_declaredLost_of_installed {w : WorkerId} {b : WorkerBootId}
    {call : FleetStateStore × Op} (h : Installed w b call) : ¬DeclaredLost w call := by
  obtain ⟨reg, now, hop, _⟩ := h
  rintro ⟨now', hop'⟩
  rw [hop] at hop'
  cases hop'

theorem tenureEvent_install {w : WorkerId} {b : WorkerBootId} {call : FleetStateStore × Op} :
    tenureEvent w call = .install b ↔ Installed w b call := by
  unfold tenureEvent
  constructor
  · intro h
    split at h
    · next hex =>
      obtain rfl : hex.choose = b := by
        injection h
      exact hex.choose_spec
    · split at h <;> cases h
  · intro h
    have hex : ∃ b, Installed w b call := ⟨b, h⟩
    rw [dif_pos hex, installed_unique hex.choose_spec h]

theorem tenureEvent_isInstall {w : WorkerId} {call : FleetStateStore × Op} :
    (tenureEvent w call).IsInstall ↔ ∃ b, Installed w b call := by
  constructor
  · intro h
    cases he : tenureEvent w call with
    | install b => exact ⟨b, tenureEvent_install.mp he⟩
    | fence =>
      rw [he] at h
      exact absurd h Tenure.not_isInstall_fence
    | idle =>
      rw [he] at h
      exact absurd h Tenure.not_isInstall_idle
  · rintro ⟨b, h⟩
    rw [tenureEvent_install.mpr h]
    trivial

theorem tenureEvent_fence {w : WorkerId} {call : FleetStateStore × Op} :
    tenureEvent w call = .fence ↔ DeclaredLost w call := by
  unfold tenureEvent
  by_cases hex : ∃ b, Installed w b call
  · obtain ⟨b, hb⟩ := hex
    have hnot := not_declaredLost_of_installed hb
    simp [dif_pos (⟨b, hb⟩ : ∃ b, Installed w b call), hnot]
  · by_cases hlost : DeclaredLost w call
    · simp [dif_neg hex, hlost]
    · simp [dif_neg hex, hlost]

@[simp] theorem holder_tenure (s : FleetStateStore) (w : WorkerId) :
    (s.tenure w).holder = s.recordedBoot w := by
  unfold tenure recordedBoot
  cases s.workers[w]? with
  | none => rfl
  | some wr => cases hf : wr.fenced <;> simp [hf, Tenure.State.holder]

/-- A record that keeps its incarnation and its fence is the same office. -/
theorem tenure_of_workerEffect {s t : FleetStateStore} {w : WorkerId}
    (h : WorkerEffect s.workers[w]? t.workers[w]?) : t.tenure w = s.tenure w := by
  unfold tenure
  generalize s.workers[w]? = r, t.workers[w]? = r' at h
  cases h with
  | absent => rfl
  | kept boot fenced lost alive => simp [boot, fenced]

/-- The store follows the office at every call but a recovery. -/
theorem tenure_step {s : FleetStateStore} {op : Op} (hrestore : ¬op.IsRestore)
    (w : WorkerId) :
    (s.step op).tenure w = Tenure.next (s.tenure w) (tenureEvent w (s, op)) := by
  cases step_workers hrestore w (s := s) with
  | kept heffect hinstalled hlost =>
    rw [tenure_of_workerEffect heffect]
    cases he : tenureEvent w (s, op) with
    | install b => exact absurd (tenureEvent_install.mp he) (hinstalled b)
    | fence =>
      have hnone := hlost (tenureEvent_fence.mp he)
      rw [tenure, hnone]
      rfl
    | idle => rw [Tenure.next_idle]
  | installed reg now hop hw hinstalls hrecord =>
    have hinstalled : Installed w reg.workerBoot (s, op) := by
      have hc := (installs_iff s reg now).mp hinstalls
      rw [hw] at hc
      exact ⟨reg, now, hop, hw, rfl, hc⟩
    rw [tenureEvent_install.mpr hinstalled, Tenure.next_install, tenure, hrecord]
    rfl
  | declaredLost now wr hop hwr hrecord =>
    have hlost : DeclaredLost w (s, op) := ⟨now, hop⟩
    rw [tenureEvent_fence.mpr hlost, tenure, tenure, hrecord, hwr]
    cases hf : wr.fenced <;> simp [hf, Tenure.next]

/-- The office of a worker is vacant in a new store. -/
theorem tenure_empty (coord : CoordinatorId) (epoch : CoordinatorEpoch) (w : WorkerId) :
    (empty coord epoch).tenure w = .vacant := by
  simp [tenure, empty]

/-- The store follows the office along every run without a recovery. -/
theorem tenure_run (coord : CoordinatorId) (epoch : CoordinatorEpoch) {ops : List Op}
    (hrestore : ∀ op ∈ ops, ¬op.IsRestore) (w : WorkerId) :
    ((empty coord epoch).run ops).tenure w
      = Run.run Tenure.next .vacant (((empty coord epoch).history ops).map (tenureEvent w)) := by
  rw [← tenure_empty coord epoch w]
  exact run_simulation (fun s => s.tenure w) (tenureEvent w) ops
    (fun s op hop => tenure_step (hrestore op hop) w) (empty coord epoch)

/-! ## The flags -/

/-- A record that is lost or found dead is fenced as well. -/
def FlagsSound (s : FleetStateStore) : Prop :=
  ∀ (w : WorkerId) (wr : WorkerRecord), s.workers[w]? = some wr →
    (wr.lost = true ∨ wr.alive = false) → wr.fenced = true

theorem flagsSound_step {s : FleetStateStore} {op : Op} (hrestore : ¬op.IsRestore)
    (h : s.FlagsSound) : (s.step op).FlagsSound := by
  intro w wr' hwr' hdead
  cases step_workers hrestore w (s := s) with
  | kept heffect _ _ =>
    have hflags := h w
    rw [hwr'] at heffect
    generalize s.workers[w]? = r at heffect hflags
    cases heffect with
    | kept boot fenced lost alive =>
      rw [fenced]
      apply hflags _ rfl
      rcases hdead with hdead | hdead
      · exact Or.inl (lost hdead)
      · exact Or.inr (alive hdead)
  | installed reg now hop hw hinstalls hrecord =>
    rw [hrecord] at hwr'
    cases hwr'
    rcases hdead with hdead | hdead <;> cases hdead
  | declaredLost now wr hop hwr hrecord =>
    rw [hrecord] at hwr'
    cases hwr'
    rfl

theorem flagsSound_run (coord : CoordinatorId) (epoch : CoordinatorEpoch) {ops : List Op}
    (hrestore : ∀ op ∈ ops, ¬op.IsRestore) : ((empty coord epoch).run ops).FlagsSound := by
  apply history_invariant (I := fun _ (s : FleetStateStore) => s.FlagsSound) _ _ ops
    (always_of_forall_mem hrestore)
  · intro w wr hwr
    simp [empty] at hwr
  · intro past s op hop h
    exact flagsSound_step hop h

/-- With sound flags, a registration replaces only a holder that is fenced. -/
theorem tenureEvent_legal {s : FleetStateStore} (h : s.FlagsSound) (w : WorkerId) (op : Op) :
    Tenure.Legal (s.tenure w) (tenureEvent w (s, op)) := by
  cases he : tenureEvent w (s, op) with
  | install b =>
    obtain ⟨reg, now, hop, hw, hb, hok, hne⟩ := tenureEvent_install.mp he
    subst hw hb
    have hinstalls : s.Installs reg := (installs_iff s reg now).mpr ⟨hok, hne⟩
    unfold tenure
    cases hwr : s.workers[reg.worker]? with
    | none => trivial
    | some wr =>
      have hfenced : wr.fenced = true := by
        rcases (hinstalls.vacant wr hwr).2 with hf | hdead
        · exact hf
        · exact h reg.worker wr hwr hdead
      simp only [hfenced, if_true]
      trivial
  | fence => cases s.tenure w <;> trivial
  | idle => cases s.tenure w <;> trivial

/-! ## Hand-over -/

/-- What the past of a run must be when a call applies an observation or
replaces a boot id. -/
structure HandoverSafe (past : List (FleetStateStore × Op)) (s : FleetStateStore) (op : Op) :
    Prop where
  /-- An observation that is applied carries the current epoch and the boot
  id of the last registration that installed the record of its worker, and
  since the last registration the worker was not declared lost. -/
  applied : ∀ worker obs policy now, op = .ingestSnapshot worker obs policy now →
    ∀ a ∈ (s.exec op).applied, a.obs.epoch = s.epoch ∧
      Since (fun call => ∀ b, ¬Installed worker b call)
        (Installed worker a.obs.sourceWorkerBoot) past ∧
      Since (fun call => ¬DeclaredLost worker call ∧ ¬Registered worker call)
        (Registered worker) past
  /-- A boot id that is replaced was installed, and the worker was declared
  lost after that. -/
  replaced : ∀ w b b', s.recordedBoot w = some b → (s.step op).recordedBoot w = some b' →
    b ≠ b' →
      Since (fun call => ∀ b, ¬Installed w b call) (Installed w b) past ∧
      Since (fun call => ∀ b, ¬Installed w b call) (DeclaredLost w) past

/-- The recorded boot id is the one that was installed last. -/
theorem installed_since (coord : CoordinatorId) (epoch : CoordinatorEpoch) {ops : List Op}
    (hrestore : ∀ op ∈ ops, ¬op.IsRestore) {w : WorkerId} {b : WorkerBootId}
    (h : ((empty coord epoch).run ops).recordedBoot w = some b) :
    Since (fun call => ∀ b, ¬Installed w b call) (Installed w b)
      ((empty coord epoch).history ops) := by
  rw [← holder_tenure, tenure_run coord epoch hrestore w] at h
  refine (since_map.mp (Tenure.installed_since h)).mono ?_ ?_
  · intro call hcall b hb
    exact hcall (tenureEvent_isInstall.mpr ⟨b, hb⟩)
  · intro call hcall
    exact tenureEvent_install.mp hcall

/-- The holder of an office that is not fenced was not declared lost since
its worker registered last. -/
theorem registered_since (coord : CoordinatorId) (epoch : CoordinatorEpoch) {ops : List Op}
    (hrestore : ∀ op ∈ ops, ¬op.IsRestore) {w : WorkerId} {b : WorkerBootId}
    (h : ((empty coord epoch).run ops).tenure w = .held b) :
    Since (fun call => ¬DeclaredLost w call ∧ ¬Registered w call) (Registered w)
      ((empty coord epoch).history ops) := by
  rw [tenure_run coord epoch hrestore w] at h
  have hsince : Since (fun call => ¬DeclaredLost w call) (Registered w)
      ((empty coord epoch).history ops) := by
    refine (since_map.mp (Tenure.held_since h)).mono ?_ ?_
    · intro call hcall hlost
      exact hcall (tenureEvent_fence.mpr hlost)
    · intro call hcall
      obtain ⟨reg, now, hop, hw, _, hok, _⟩ := tenureEvent_install.mp hcall
      exact ⟨reg, now, hop, hw, hok⟩
  exact hsince.last

/-- The holder of a fenced office was declared lost after it was installed. -/
theorem declaredLost_since (coord : CoordinatorId) (epoch : CoordinatorEpoch) {ops : List Op}
    (hrestore : ∀ op ∈ ops, ¬op.IsRestore) {w : WorkerId} {b : WorkerBootId}
    (h : ((empty coord epoch).run ops).tenure w = .fenced b) :
    Since (fun call => ∀ b, ¬Installed w b call) (DeclaredLost w)
      ((empty coord epoch).history ops) := by
  rw [tenure_run coord epoch hrestore w] at h
  refine (since_map.mp (Tenure.fenced_since h)).mono ?_ ?_
  · intro call hcall b hb
    exact hcall (tenureEvent_isInstall.mpr ⟨b, hb⟩)
  · intro call hcall
    exact tenureEvent_fence.mp hcall

/-- Every call of every run without a recovery is safe. -/
theorem handover_safe (coord : CoordinatorId) (epoch : CoordinatorEpoch) (ops : List Op)
    (op : Op) (hrestore : ∀ o ∈ ops ++ [op], ¬o.IsRestore) :
    HandoverSafe ((empty coord epoch).history ops) ((empty coord epoch).run ops) op := by
  have hops : ∀ o ∈ ops, ¬o.IsRestore := by
    intro o ho
    exact hrestore o (List.mem_append_left _ ho)
  have hop : ¬op.IsRestore := hrestore op (by simp)
  refine ⟨?_, ?_⟩
  · rintro worker obs policy now rfl a ha
    obtain ⟨wr, before, st, happlies, _⟩ := applies_of_mem_applied ha
    obtain ⟨hepoch, hboot, _, _⟩ := gate_pass happlies.passed
    have hloop := ingestLoop_epoch worker wr.boot policy now before
      { store := (empty coord epoch).run ops }
    rw [happlies.reached] at hloop
    have hrecorded : ((empty coord epoch).run ops).recordedBoot worker
        = some a.obs.sourceWorkerBoot := by
      rw [recordedBoot, happlies.record, Option.map_some, hboot]
    have hheld : ((empty coord epoch).run ops).tenure worker = .held wr.boot := by
      rw [tenure, happlies.record]
      simp [happlies.fenced]
    exact ⟨hepoch.trans hloop, installed_since coord epoch hops hrecorded,
      registered_since coord epoch hops hheld⟩
  · intro w b b' hb hb' hne
    have hlegal := tenureEvent_legal (flagsSound_run coord epoch hops) w op
    have hholder : (((empty coord epoch).run ops).tenure w).holder = some b := by
      rw [holder_tenure, hb]
    have hnext : (Tenure.next (((empty coord epoch).run ops).tenure w)
        (tenureEvent w ((empty coord epoch).run ops, op))).holder = some b' := by
      rw [← tenure_step hop, holder_tenure, hb']
    have hfenced := Tenure.fenced_of_holder_ne hlegal hholder hnext hne
    exact ⟨installed_since coord epoch hops hb, declaredLost_since coord epoch hops hfenced⟩

/-- A worker reports and is declared lost. -/
def sampleLoss : List Op := sampleReport ++ [.markWorkerLost ⟨1⟩ 6000]

/-- Then it comes back with another boot id. -/
def sampleReturn : Op := .registerWorker (sampleRegistration 1 20 2) 7000

set_option maxRecDepth 4000 in
/-- The registration that supersedes the boot id is safe, after the loss it has
in its past, and so is the first report under the new boot id. -/
theorem handover_safe_supersession :
    Since (fun call => ∀ b, ¬Installed ⟨1⟩ b call) (DeclaredLost ⟨1⟩)
        (sampleStore.history sampleLoss) ∧
      ∃ a ∈ ((sampleStore.run (sampleLoss ++ [sampleReturn])).exec
          (.ingestSnapshot ⟨1⟩ [sampleObservation 1 20 1] {} 8000)).applied,
        Since (fun call => ∀ b, ¬Installed ⟨1⟩ b call)
          (Installed ⟨1⟩ a.obs.sourceWorkerBoot)
          (sampleStore.history (sampleLoss ++ [sampleReturn])) := by
  have hsupersedes := handover_safe ⟨1⟩ ⟨1⟩ sampleLoss sampleReturn
    (by simp [sampleLoss, sampleReport, sampleReturn, Op.IsRestore])
  have hreports := handover_safe ⟨1⟩ ⟨1⟩ (sampleLoss ++ [sampleReturn])
    (.ingestSnapshot ⟨1⟩ [sampleObservation 1 20 1] {} 8000)
    (by simp [sampleLoss, sampleReport, sampleReturn, Op.IsRestore])
  refine ⟨(hsupersedes.replaced ⟨1⟩ ⟨10⟩ ⟨20⟩ rfl rfl (by decide)).2, ?_⟩
  have happlied : ∃ a, a ∈ ((sampleStore.run (sampleLoss ++ [sampleReturn])).exec
      (.ingestSnapshot ⟨1⟩ [sampleObservation 1 20 1] {} 8000)).applied :=
    ⟨_, List.mem_singleton.mpr rfl⟩
  obtain ⟨a, ha⟩ := happlied
  exact ⟨a, ha, (hreports.applied ⟨1⟩ _ _ _ rfl a ha).2.1⟩

/-! ## What a registration confers -/

/-- The report was turned away for lack of authority. -/
def NotAuthoritative (out : Outcome AppliedObservation) : Prop :=
  ∃ err, out.result = .error err ∧ err.code = .notAuthoritative

/-- The gates have other reasons to refuse. -/
theorem gate_refuse_code {epoch : CoordinatorEpoch} {worker : WorkerId} {boot : WorkerBootId}
    {prior : Option Stamp} {o : DeviceObservation} {err : Error}
    (h : gate epoch worker boot prior o = .refuse err) : err.code ≠ .notAuthoritative := by
  have hcode : ∀ {code : Status} {msg : String}, code ≠ .notAuthoritative →
      Verdict.refuse (errorResult code msg) = .refuse err → err.code ≠ .notAuthoritative := by
    intro code msg hne he
    cases he
    exact hne
  unfold gate at h
  split at h
  · exact hcode (by decide) h
  split at h
  · exact hcode (by decide) h
  split at h
  · exact hcode (by decide) h
  split at h
  · cases h
  split at h
  · split at h
    · cases h
    split at h
    · exact hcode (by decide) h
    split at h
    · exact hcode (by decide) h
    · cases h
  · cases h

theorem ingestLoop_error_code {worker : WorkerId} {boot : WorkerBootId}
    {policy : ObservationPolicy} {now : Timestamp} {obs : List DeviceObservation}
    {st : IngestState} {err : Error}
    (h : (ingestLoop worker boot policy now obs st).2 = .error err) :
    err.code ≠ .notAuthoritative := by
  induction obs generalizing st with
  | nil => cases h
  | cons o rest ih =>
    rw [ingestLoop] at h
    cases hg : gate st.store.epoch worker boot (st.store.stampOf o.key) o with
    | refuse err' =>
      rw [hg] at h
      cases h
      exact gate_refuse_code hg
    | skip =>
      rw [hg] at h
      exact ih h
    | pass =>
      rw [hg] at h
      exact ih h

/-- A report is turned away for lack of authority exactly when its worker is
on file as lost or fenced. -/
theorem notAuthoritative_iff (s : FleetStateStore) (worker : WorkerId)
    (obs : List DeviceObservation) (policy : ObservationPolicy) (now : Timestamp) :
    NotAuthoritative (s.ingestSnapshot worker obs policy now) ↔
      ∃ wr, s.workers[worker]? = some wr ∧ (wr.lost = true ∨ wr.fenced = true) := by
  constructor
  · intro ⟨err, herr, hcode⟩
    rcases ingest_live_or_refused s worker with hdead | ⟨wr, hwr, hlost, hfenced⟩
    · cases hwr : s.workers[worker]? with
      | none =>
        rw [ingestSnapshot_unregistered hwr] at herr
        cases herr
        cases hcode
      | some wr => exact ⟨wr, rfl, hdead wr hwr⟩
    · have hloop : ∀ err, (ingestLoop worker wr.boot policy now obs { store := s }).2 = .error err →
          err.code ≠ .notAuthoritative := fun _ => ingestLoop_error_code
      rcases ingestSnapshot_ends hwr hlost hfenced with ⟨err', hfails, hingest⟩ | ⟨-, hingest⟩
      · rw [hingest] at herr
        cases herr
        exact absurd hcode (hloop err hfails)
      · rw [hingest] at herr
        cases herr
  · intro ⟨wr, hwr, hdead⟩
    rw [ingestSnapshot_dead hwr hdead]
    exact ⟨_, rfl, rfl⟩

/-- In every reachable state, a registration that is accepted gives the right
to report, whatever is reported next, exactly when it does not re-affirm a
record that is fenced. -/
theorem registration_confers_authority_iff (coord : CoordinatorId) (epoch : CoordinatorEpoch)
    (ops : List Op) (reg : Registration) (now : Timestamp)
    (hok : ¬(((empty coord epoch).run ops).exec (.registerWorker reg now)).Failed) :
    (∀ obs policy now', ¬NotAuthoritative
        ((((empty coord epoch).run ops).step (.registerWorker reg now)).ingestSnapshot
          reg.worker obs policy now')) ↔
      ¬∃ wr, ((empty coord epoch).run ops).workers[reg.worker]? = some wr ∧
        wr.boot = reg.workerBoot ∧ wr.fenced = true := by
  generalize (empty coord epoch).run ops = s at hok
  have hok' : ¬(s.registerWorker reg now).Failed := by
    intro hfailed
    exact hok ((Outcome.void_failed _).mpr hfailed)
  simp only [notAuthoritative_iff]
  rcases s.registerWorker_cases reg now with ⟨h, _⟩ | ⟨wr, hr, _, h⟩ | ⟨hi, h⟩
  · exact absurd h.failed hok'
  · have hrecord : (s.step (.registerWorker reg now)).workers[reg.worker]?
        = some (reaffirmed wr reg now) := by
      rw [step, exec, Outcome.void, h.store]
      exact OrderedMap.getElem?_insert_same _ _ _
    rw [hrecord, hr.record]
    constructor
    · intro hright hrefused
      obtain ⟨wr', hwr', _, hfenced⟩ := hrefused
      cases hwr'
      exact hright [] {} 0 ⟨_, rfl, Or.inr hfenced⟩
    · intro hnot _ _ _ hrefused
      obtain ⟨wr', hwr', hdead⟩ := hrefused
      cases hwr'
      rcases hdead with hdead | hdead
      · cases hdead
      · exact hnot ⟨wr, rfl, hr.boot, hdead⟩
  · have hrecord : (s.step (.registerWorker reg now)).workers[reg.worker]?
        = some (newWorkerRecord reg now) := by
      rw [step, exec, Outcome.void, h.store]
      exact OrderedMap.getElem?_insert_same _ _ _
    rw [hrecord]
    constructor
    · intro _ hfenced
      obtain ⟨wr, hwr, hboot, _⟩ := hfenced
      exact (hi.vacant wr hwr).1 hboot
    · intro _ _ _ _ hrefused
      obtain ⟨wr', hwr', hdead⟩ := hrefused
      cases hwr'
      rcases hdead with hdead | hdead <;> cases hdead

/-- The first registration of a worker confers authority. -/
theorem first_registration_confers_authority :
    ¬NotAuthoritative
      ((sampleStore.step (.registerWorker (sampleRegistration 1 10 1) 1000)).ingestSnapshot ⟨1⟩
        [sampleObservation 1 10 1] {} 5000) := by
  have hright := (registration_confers_authority_iff ⟨1⟩ ⟨1⟩ [] (sampleRegistration 1 10 1) 1000
    Outcome.not_failed_ok).mpr (by
      intro ⟨wr, hwr, _⟩
      cases hwr)
  exact hright [sampleObservation 1 10 1] {} 5000

set_option maxRecDepth 4000 in
/-- A worker that is declared lost and registers again with the same boot id
is accepted, and then turned away. -/
theorem reaffirmation_without_authority :
    let s := sampleStore.run [.registerWorker (sampleRegistration 1 10 1) 1000,
      .markWorkerLost ⟨1⟩ 2000]
    let again : Op := .registerWorker (sampleRegistration 1 10 2) 3000
    ¬(s.exec again).Failed ∧ NotAuthoritative ((s.step again).ingestSnapshot ⟨1⟩ [] {} 4000) := by
  refine ⟨Outcome.not_failed_ok, _, rfl, rfl⟩

end FleetStateStore

end GpuFleet
