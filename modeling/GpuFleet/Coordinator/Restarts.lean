import GpuFleet.Coordinator.Calls
import GpuFleet.Fleet.Atomicity
import GpuFleet.Persistence.Load

/-!
# The epoch across restarts

A machine with a state file and at most one coordinator process on it.  The
process dispatches messages, it can die between two of them or after any file
call of a save, and another one can be started on what it left.

A roll moves the epoch of the store.  The file follows with the next save,
and `restore` takes the epoch that it finds in the file, whatever
`initial_epoch` is.  A process that cannot load the file comes up with
`initial_epoch`, also when `load_state` returns an error, because `start`
tests a `Result<void>`.

`epochs_forward_iff` says what that comes to: the epoch in force never goes
back exactly when every process that is started takes over an epoch that is
new enough, where the epoch of a file is the one in force at the save that
wrote it.
-/

namespace GpuFleet

open Run

/-- How the calls of `load_state` end.  It opens the file a first time to see
whether it exists. -/
structure StateOutcomes extends LoadOutcomes where
  found : Bool := true

namespace Coordinator

/-- `load_state`: the coordinator that it leaves, and its `return`
statement. -/
def loadState (c : Coordinator) (io : StateOutcomes) : Coordinator × Except Error Unit :=
  if c.opts.stateFile.isEmpty then (c, .ok ())
  else if (c.disk c.opts.stateFile).isNone || !io.found then (c, .ok ())
  else match loadSnapshot c.disk c.opts.stateFile io.toLoadOutcomes with
  | .error err =>
    (c, .error { code := .corrupt, message := text "cannot recover state: " ++ err.message })
  | .ok snap =>
    let out := c.store.restore snap
    ({ c with store := out.store }, out.result)

/-- The constructor and `start`, once the listener is bound.  Nothing is left
when `start` returns early. -/
def start (opts : Options) (disk : Disk) (io : StateOutcomes) : Option Coordinator :=
  let c := create opts disk
  if c.opts.stateFile.isEmpty then some c
  else
    let (c, returned) := c.loadState io
    let r := ResultVoid.ofReturn returned
    if !r.ok then none else some c

/-- `start` never returns early. -/
theorem start_eq (opts : Options) (disk : Disk) (io : StateOutcomes) :
    start opts disk io = some ((create opts disk).loadState io).1 := by
  unfold start
  by_cases hempty : (create opts disk).opts.stateFile.isEmpty = true
  · simp only [if_pos hempty, loadState]
  · simp only [if_neg hempty, ResultVoid.ofReturn_ok, Bool.not_true, Bool.false_eq_true, if_false]

end Coordinator

/-! ## The machine -/

/-- A machine without a process, and one with a process. -/
inductive Site
  | down (disk : Disk)
  | up (c : Coordinator)

/-- What happens on the machine. -/
inductive Happening
  /-- The process dispatches a message. -/
  | message (now : Timestamp) (io : FileOutcomes) (msg : Message)
  | workerLost (w : WorkerId) (now : Timestamp)
  /-- The process dies, after the given number of file calls of a save.  No
  call means that no save was going on. -/
  | crash (io : FileOutcomes) (calls : Nat)
  /-- A process is constructed and started. -/
  | start (opts : Options) (io : StateOutcomes)

namespace Site

/-- The files of the machine. -/
def disk : Site → Disk
  | .down disk => disk
  | .up c => c.disk

/-- The epoch in force. -/
def epoch : Site → Option CoordinatorEpoch
  | .down _ => none
  | .up c => some c.store.epoch

/-- What happens to a machine whose processes all have the state file `path`.
A process that is not there does nothing. -/
def step (path : ByteString) : Site → Happening → Site
  | .up c, .message now io msg => .up (c.step (.message now io msg))
  | .up c, .workerLost w now => .up (c.step (.workerLost w now))
  | .up c, .crash io calls => .down ((c.saveState io).diskAfter c.disk calls)
  | .down disk, .start opts io =>
    match Coordinator.start { opts with stateFile := path } disk io with
    | some c => .up c
    | none => .down disk
  | site, _ => site

/-- What happens on the machine, one after the other. -/
def run (path : ByteString) (site : Site) (happenings : List Happening) : Site :=
  Run.run (step path) site happenings

/-- What happened, each time with the machine as it was before. -/
def history (path : ByteString) (site : Site) (happenings : List Happening) :
    List (Site × Happening) :=
  Run.history (step path) site happenings

end Site

/-- The epochs that were in force, in order. -/
def epochsOf (past : List (Site × Happening)) : List CoordinatorEpoch :=
  past.filterMap fun x => x.1.epoch

/-! ## What a start takes over -/

/-- A save gets through: it succeeds, or the process dies right after its last
file call. -/
def GetsSaved : Site × Happening → Prop
  | (.up c, .message _ io msg) => msg.type = .save ∧ (c.saveState io).result = .ok ()
  | (.up c, .crash io calls) => (c.saveState io).Replaced calls
  | _ => False

/-- The last save that got through was made in the epoch `e`.  Before the
first one it is the epoch of the file that was there. -/
def SavedIn (first : Option CoordinatorEpoch) (past : List (Site × Happening))
    (e : CoordinatorEpoch) : Prop :=
  Since (fun x => ¬GetsSaved x) (fun x => GetsSaved x ∧ x.1.epoch = some e) past ∨
    (∀ x ∈ past, ¬GetsSaved x) ∧ first = some e

/-- A process that is started loads `snap`. -/
def Loads (path : ByteString) (disk : Disk) (io : StateOutcomes) (snap : StateSnapshot) : Prop :=
  io.found = true ∧ loadSnapshot disk path io.toLoadOutcomes = .ok snap

/-- A process that is started takes over an epoch that is not older than the
last one in force: that of the last save if it loads the file, and otherwise
its `initial_epoch`. -/
def StartsCovered (path : ByteString) (first : Option CoordinatorEpoch)
    (past : List (Site × Happening)) : Site × Happening → Prop
  | (.down disk, .start opts io) => ∀ e, (epochsOf past).getLast? = some e →
      (∀ snap, Loads path disk io snap → ∀ e', SavedIn first past e' → e ≤ e') ∧
        ((∀ snap, ¬Loads path disk io snap) → e ≤ opts.initialEpoch)
  | _ => True

/-- The epoch of a file, if it can be loaded. -/
def fileEpoch (path : ByteString) (disk : Disk) : Option CoordinatorEpoch :=
  match disk path with
  | none => none
  | some bytes =>
    match parseImage bytes with
    | .error _ => none
    | .ok snap => some snap.epoch

/-! ## One step -/

namespace Coordinator

open FleetStateStore

/-- The options stay, and only a save writes to the disk. -/
theorem dispatch_frame (c : Coordinator) (now : Timestamp) (io : FileOutcomes) (msg : Message) :
    (c.dispatch now io msg).coordinator.opts = c.opts ∧
      (c.dispatch now io msg).coordinator.disk
        = if msg.type = .save then (c.saveState io).disk c.disk else c.disk := by
  unfold dispatch
  cases htype : msg.type with
  | save => exact ⟨rfl, rfl⟩
  | register =>
    simp only [handleRegister, malformed]
    repeat' split
    all_goals first
      | exact ⟨rfl, rfl⟩
      | contradiction
  | heartbeat =>
    simp only [handleHeartbeat, answerVoid]
    repeat' split
    all_goals first
      | exact ⟨rfl, rfl⟩
      | contradiction
  | deviceSnapshot | healthReport | capabilityReport =>
    simp only [handleReport, malformed]
    repeat' split
    all_goals first
      | exact ⟨rfl, rfl⟩
      | contradiction
  | drain | undrain =>
    simp only [handleDrain, malformed, answerVoid]
    repeat' split
    all_goals first
      | exact ⟨rfl, rfl⟩
      | contradiction
  | quarantine =>
    simp only [handleQuarantine, malformed, answerVoid]
    repeat' split
    all_goals first
      | exact ⟨rfl, rfl⟩
      | contradiction
  | clearQuarantine =>
    simp only [handleClearQuarantine, malformed, answerVoid]
    repeat' split
    all_goals first
      | exact ⟨rfl, rfl⟩
      | contradiction
  | _ => exact ⟨rfl, rfl⟩

/-- No message takes the epoch back. -/
theorem epoch_le_dispatch (c : Coordinator) (now : Timestamp) (io : FileOutcomes)
    (msg : Message) : c.store.epoch ≤ (c.dispatch now io msg).coordinator.store.epoch := by
  rw [dispatch_store]
  cases hcall : c.callOf now msg with
  | none => exact le_rfl
  | some op => exact c.store.epoch_le_step (callOf_not_isRestore hcall)

section

variable {c : Coordinator} {io : StateOutcomes}

theorem loadState_loaded {snap : StateSnapshot} (hpath : c.opts.stateFile ≠ [])
    (h : Loads c.opts.stateFile c.disk io snap) :
    (c.loadState io).1 = { c with store := (c.store.restore snap).store } := by
  obtain ⟨bytes, hbytes, _⟩ := loadSnapshot_ok h.2
  have hfound : ¬((c.disk c.opts.stateFile).isNone || !io.found) = true := by
    simp [hbytes, h.1]
  unfold loadState
  rw [if_neg (mt List.isEmpty_iff.mp hpath), if_neg hfound, h.2]

/-- A process that loads nothing stays as it was constructed. -/
theorem loadState_unloaded (h : ∀ snap, ¬Loads c.opts.stateFile c.disk io snap) :
    (c.loadState io).1 = c := by
  unfold loadState
  split
  · rfl
  split
  · rfl
  next hfound =>
  have hfound : io.found = true := by
    rw [Bool.or_eq_true, not_or] at hfound
    simpa using hfound.2
  split
  · rfl
  · next snap hsnap => exact absurd ⟨hfound, hsnap⟩ (h snap)

theorem loadState_opts (c : Coordinator) (io : StateOutcomes) :
    (c.loadState io).1.opts = c.opts := by
  unfold loadState
  repeat' split
  all_goals rfl

end

end Coordinator

/-! ## What a step does to the epoch and to the file -/

/-- The processes have the state file `path`. -/
def Site.Configured (path : ByteString) : Site → Prop
  | .down _ => True
  | .up c => c.opts.stateFile = path

/-- What a step can do, with the condition on starts spelt out for it. -/
inductive SiteStep (path : ByteString) (site : Site) (h : Happening) : Prop
  /-- No save gets through, and no process comes up.  The file can be gone. -/
  | went (hsaved : ¬GetsSaved (site, h))
      (hafter : ∀ e', (site.step path h).epoch = some e' → ∃ e, site.epoch = some e ∧ e ≤ e')
      (hdisk : (site.step path h).disk.KeepsOrDrops site.disk path)
      (hcovered : ∀ first past, StartsCovered path first past (site, h))
  /-- The file is replaced by the image of a snapshot in the epoch in force. -/
  | saved (e : CoordinatorEpoch) (snap : StateSnapshot) (hsaved : GetsSaved (site, h))
      (hbefore : site.epoch = some e)
      (hafter : ∀ e', (site.step path h).epoch = some e' → e ≤ e') (hsnap : snap.epoch = e)
      (hdisk : (site.step path h).disk path = some (saveImage snap))
      (hcovered : ∀ first past, StartsCovered path first past (site, h))
  /-- A process comes up as it was configured. -/
  | fresh (e : CoordinatorEpoch) (hsaved : ¬GetsSaved (site, h)) (hbefore : site.epoch = none)
      (hafter : (site.step path h).epoch = some e) (hdisk : (site.step path h).disk = site.disk)
      (hcovered : ∀ first past, StartsCovered path first past (site, h) ↔
        ∀ e', (epochsOf past).getLast? = some e' → e' ≤ e)
  /-- A process comes up on what is in the file. -/
  | loaded (bytes : ByteString) (snap : StateSnapshot) (hsaved : ¬GetsSaved (site, h))
      (hbefore : site.epoch = none) (hafter : (site.step path h).epoch = some snap.epoch)
      (hdisk : (site.step path h).disk = site.disk) (hbytes : site.disk path = some bytes)
      (hparse : parseImage bytes = .ok snap)
      (hcovered : ∀ first past, StartsCovered path first past (site, h) ↔
        ∀ e, (epochsOf past).getLast? = some e → ∀ e', SavedIn first past e' → e ≤ e')

section

variable {path : ByteString} {c : Coordinator}

theorem saveState_eq (hpath : path ≠ []) (hfile : c.opts.stateFile = path) (io : FileOutcomes) :
    c.saveState io = saveSnapshot c.disk path c.store.snapshot io := by
  subst hfile
  exact if_neg (mt List.isEmpty_iff.mp hpath)

/-- A save, to its end or up to some call. -/
theorem siteStep_diskAfter (hpath : path ≠ []) (hfile : c.opts.stateFile = path)
    (io : FileOutcomes) (calls : Nat) :
    ((c.saveState io).Replaced calls ∧
        (c.saveState io).diskAfter c.disk calls path = some (saveImage c.store.snapshot)) ∨
      (¬(c.saveState io).Replaced calls ∧
        ((c.saveState io).diskAfter c.disk calls).KeepsOrDrops c.disk path) := by
  rw [saveState_eq hpath hfile]
  exact (saveSnapshot_cautious c.disk path c.store.snapshot io).diskAfter calls

theorem siteStep_message (hpath : path ≠ []) (hfile : c.opts.stateFile = path) (now : Timestamp)
    (io : FileOutcomes) (msg : Message) : SiteStep path (.up c) (.message now io msg) := by
  have hcovered : ∀ first past, StartsCovered path first past (.up c, .message now io msg) :=
    fun _ _ => trivial
  have hafter : ∀ e', (Site.step path (.up c) (.message now io msg)).epoch = some e' →
      c.store.epoch ≤ e' := by
    intro e' he'
    rw [← Option.some.inj he']
    exact c.epoch_le_dispatch now io msg
  obtain ⟨_, hdisk⟩ := c.dispatch_frame now io msg
  by_cases hsave : msg.type = .save
  · rw [if_pos hsave, ← SaveRun.diskAfter_length] at hdisk
    rcases siteStep_diskAfter hpath hfile io (c.saveState io).disks.length with
      ⟨hreplaced, himage⟩ | ⟨hnot, hkeeps⟩
    · rw [← hdisk] at himage
      exact .saved c.store.epoch c.store.snapshot ⟨hsave, hreplaced.1⟩ rfl hafter rfl himage
        hcovered
    · rw [← hdisk] at hkeeps
      refine .went (fun h => hnot ⟨h.2, le_rfl⟩) ?_ hkeeps hcovered
      exact fun e' he' => ⟨c.store.epoch, rfl, hafter e' he'⟩
  · rw [if_neg hsave] at hdisk
    refine .went (fun h => hsave h.1) ?_ (Or.inl (congrFun hdisk path)) hcovered
    exact fun e' he' => ⟨c.store.epoch, rfl, hafter e' he'⟩

theorem siteStep_crash (hpath : path ≠ []) (hfile : c.opts.stateFile = path) (io : FileOutcomes)
    (calls : Nat) : SiteStep path (.up c) (.crash io calls) := by
  have hcovered : ∀ first past, StartsCovered path first past (.up c, .crash io calls) :=
    fun _ _ => trivial
  rcases siteStep_diskAfter hpath hfile io calls with ⟨hreplaced, himage⟩ | ⟨hnot, hkeeps⟩
  · refine .saved c.store.epoch c.store.snapshot hreplaced rfl ?_ rfl himage hcovered
    intro e he
    cases he
  · refine .went hnot ?_ hkeeps hcovered
    intro e he
    cases he

theorem siteStep_start (hpath : path ≠ []) (disk : Disk) (opts : Options) (io : StateOutcomes) :
    SiteStep path (.down disk) (.start opts io) := by
  have hup : Site.step path (.down disk) (.start opts io)
      = .up ((Coordinator.create { opts with stateFile := path } disk).loadState io).1 := by
    simp only [Site.step, Coordinator.start_eq]
  by_cases hloads : ∃ snap, Loads path disk io snap
  · obtain ⟨snap, hsnap⟩ := hloads
    obtain ⟨bytes, hbytes, hparse⟩ := loadSnapshot_ok hsnap.2
    have hloaded := Coordinator.loadState_loaded
      (c := Coordinator.create { opts with stateFile := path } disk) hpath hsnap
    rw [hloaded] at hup
    refine .loaded bytes snap id rfl ?_ ?_ hbytes hparse ?_
    · rw [hup]
      rfl
    · rw [hup]
      rfl
    · intro first past
      constructor
      · intro h e he
        exact (h e he).1 snap hsnap
      · intro h e he
        exact ⟨fun _ _ => h e he, fun hnone => absurd hsnap (hnone snap)⟩
  · have hnone : ∀ snap, ¬Loads path disk io snap := fun snap hsnap => hloads ⟨snap, hsnap⟩
    have hunloaded := Coordinator.loadState_unloaded
      (c := Coordinator.create { opts with stateFile := path } disk) hnone
    rw [hunloaded] at hup
    refine .fresh opts.initialEpoch id rfl ?_ ?_ ?_
    · rw [hup]
      rfl
    · rw [hup]
      rfl
    · intro first past
      constructor
      · intro h e he
        exact (h e he).2 hnone
      · intro h e he
        exact ⟨fun snap hsnap => absurd hsnap (hnone snap), fun _ => h e he⟩

/-- Everything that can happen is one of the cases. -/
theorem siteStep (hpath : path ≠ []) {site : Site} (hsite : site.Configured path)
    (h : Happening) : SiteStep path site h := by
  cases site with
  | down disk =>
    cases h with
    | start opts io => exact siteStep_start hpath disk opts io
    | _ =>
      refine .went id ?_ (keepsOrDrops_refl disk path) fun _ _ => trivial
      intro e he
      cases he
  | up c =>
    cases h with
    | message now io msg => exact siteStep_message hpath hsite now io msg
    | workerLost w now =>
      refine .went id ?_ (keepsOrDrops_refl c.disk path) fun _ _ => trivial
      intro e he
      have hrestore : ¬(Op.markWorkerLost w now).IsRestore := id
      rw [← Option.some.inj he]
      exact ⟨c.store.epoch, rfl, c.store.epoch_le_step hrestore⟩
    | crash io calls => exact siteStep_crash hpath hsite io calls
    | start opts io =>
      refine .went id ?_ (keepsOrDrops_refl c.disk path) fun _ _ => trivial
      exact fun e he => ⟨e, he, le_rfl⟩

theorem Site.Configured.step {site : Site} (hsite : site.Configured path) (h : Happening) :
    (site.step path h).Configured path := by
  cases site with
  | down disk =>
    cases h with
    | start opts io =>
      simp only [Site.step, Coordinator.start_eq]
      exact congrArg Options.stateFile (Coordinator.loadState_opts _ io)
    | _ => trivial
  | up c =>
    cases h with
    | message now io msg =>
      have hopts := (c.dispatch_frame now io msg).1
      show (c.dispatch now io msg).coordinator.opts.stateFile = path
      rw [hopts]
      exact hsite
    | workerLost w now => exact hsite
    | crash io calls => trivial
    | start opts io => exact hsite

end

/-! ## The file and the last save -/

/-- The epochs that were or are in force, in order. -/
def inForce (past : List (Site × Happening)) (site : Site) : List CoordinatorEpoch :=
  epochsOf past ++ site.epoch.toList

theorem inForce_concat (past : List (Site × Happening)) (site site' : Site) (h : Happening) :
    inForce (past ++ [(site, h)]) site' = inForce past site ++ site'.epoch.toList := by
  have hepochs : epochsOf (past ++ [(site, h)]) = epochsOf past ++ site.epoch.toList := by
    unfold epochsOf
    rw [List.filterMap_append]
    cases hsite : site.epoch with
    | none => simp [hsite]
    | some e => simp [hsite]
  rw [inForce, inForce, hepochs]

theorem getLast?_inForce_of_up {past : List (Site × Happening)} {site : Site}
    {e : CoordinatorEpoch} (h : site.epoch = some e) : (inForce past site).getLast? = some e := by
  rw [inForce, h]
  exact List.getLast?_concat

theorem getLast?_inForce_of_down {past : List (Site × Happening)} {site : Site}
    (h : site.epoch = none) : (inForce past site).getLast? = (epochsOf past).getLast? := by
  rw [inForce, h, Option.toList_none, List.append_nil]

section

variable {first : Option CoordinatorEpoch} {past : List (Site × Happening)} {e : CoordinatorEpoch}

theorem savedIn_concat {x : Site × Happening} :
    SavedIn first (past ++ [x]) e ↔
      (GetsSaved x ∧ x.1.epoch = some e) ∨ (¬GetsSaved x ∧ SavedIn first past e) := by
  have hnever : (∀ y ∈ past ++ [x], ¬GetsSaved y) ↔ ¬GetsSaved x ∧ ∀ y ∈ past, ¬GetsSaved y := by
    rw [List.forall_mem_append, List.forall_mem_singleton, and_comm]
  unfold SavedIn
  rw [since_concat, hnever, and_assoc, or_assoc, ← and_or_left]

theorem savedIn_concat_of_not {x : Site × Happening} (h : ¬GetsSaved x) :
    SavedIn first (past ++ [x]) e ↔ SavedIn first past e := by
  rw [savedIn_concat]
  exact ⟨fun hsaved => (hsaved.resolve_left fun hx => h hx.1).2, fun hsaved => Or.inr ⟨h, hsaved⟩⟩

end

/-- A snapshot in the file is of the epoch in force at the last save that got
through. -/
structure FileFollows (path : ByteString) (first : Option CoordinatorEpoch)
    (past : List (Site × Happening)) (site : Site) : Prop where
  configured : site.Configured path
  file : ∀ bytes snap, site.disk path = some bytes → parseImage bytes = .ok snap →
    ∀ e, SavedIn first past e ↔ e = snap.epoch

section

variable {path : ByteString} {first : Option CoordinatorEpoch} {past : List (Site × Happening)}
  {site : Site}

theorem FileFollows.step (hpath : path ≠ []) (h : FileFollows path first past site)
    (i : Happening) : FileFollows path first (past ++ [(site, i)]) (site.step path i) := by
  refine ⟨h.configured.step i, ?_⟩
  intro bytes snap hbytes hparse e
  cases siteStep hpath h.configured i with
  | went hsaved hafter hdisk hcovered =>
    rw [savedIn_concat_of_not hsaved]
    rcases hdisk with hdisk | hdisk
    · rw [hdisk] at hbytes
      exact h.file bytes snap hbytes hparse e
    · rw [hdisk] at hbytes
      cases hbytes
  | saved e₀ snap' hsaved hbefore hafter hsnap hdisk hcovered =>
    rw [hdisk] at hbytes
    obtain rfl := Option.some.inj hbytes
    have hepoch : snap.epoch = e₀ := (parseImage_epoch hparse).trans hsnap
    rw [savedIn_concat, hepoch]
    constructor
    · rintro (⟨_, he⟩ | ⟨hnot, _⟩)
      · exact Option.some.inj (he.symm.trans hbefore)
      · exact absurd hsaved hnot
    · rintro rfl
      exact Or.inl ⟨hsaved, hbefore⟩
  | fresh e₀ hsaved hbefore hafter hdisk hcovered =>
    rw [savedIn_concat_of_not hsaved]
    rw [hdisk] at hbytes
    exact h.file bytes snap hbytes hparse e
  | loaded bytes' snap' hsaved hbefore hafter hdisk hbytes' hparse' hcovered =>
    rw [savedIn_concat_of_not hsaved]
    rw [hdisk] at hbytes
    exact h.file bytes snap hbytes hparse e

theorem fileFollows_run (hpath : path ≠ []) (disk : Disk) (happenings : List Happening) :
    FileFollows path (fileEpoch path disk) (Site.history path (.down disk) happenings)
      (Site.run path (.down disk) happenings) := by
  apply Run.history_invariant (C := fun _ _ => True)
    (I := FileFollows path (fileEpoch path disk))
  · refine ⟨trivial, ?_⟩
    intro bytes snap hbytes hparse e
    have hfirst : fileEpoch path disk = some snap.epoch := by
      have hdisk : disk path = some bytes := hbytes
      simp only [fileEpoch, hdisk, hparse]
    constructor
    · rintro (⟨before, x, after, hpast, _⟩ | ⟨_, he⟩)
      · simp at hpast
      · exact Option.some.inj (he.symm.trans hfirst)
    · rintro rfl
      exact Or.inr ⟨fun y hy => absurd hy List.not_mem_nil, hfirst⟩
  · intro past site i _ h
    exact h.step hpath i
  · intro _ _ _ _
    trivial

end

/-! ## The epoch never regresses -/

/-- A call succeeds on an epoch that it bears.  These are the epochs that the
store compares with its own. -/
inductive FleetStateStore.Takes (s : FleetStateStore) : Op → CoordinatorEpoch → Prop
  | registration (reg : Registration) (now : Timestamp)
      (h : ¬(s.registerWorker reg now).Failed) : s.Takes (.registerWorker reg now) reg.epoch
  | heartbeat (w : WorkerId) (boot : WorkerBootId) (epoch : CoordinatorEpoch) (now : Timestamp)
      (hg : HealthGeneration) (h : ¬(s.heartbeat w boot epoch now hg).Failed) :
      s.Takes (.heartbeat w boot epoch now hg) epoch
  | observation (w : WorkerId) (obs : List DeviceObservation) (policy : ObservationPolicy)
      (now : Timestamp) (a : Application)
      (h : a ∈ (s.ingestSnapshot w obs policy now).applied) :
      s.Takes (.ingestSnapshot w obs policy now) a.obs.epoch
  | roll (ne : CoordinatorEpoch) (h : ¬(s.rollEpoch ne).Failed) : s.Takes (.rollEpoch ne) ne

theorem FleetStateStore.Takes.le {s : FleetStateStore} {op : Op} {e : CoordinatorEpoch}
    (h : s.Takes op e) : s.epoch ≤ e := by
  cases h with
  | registration reg now h =>
    rcases s.registerWorker_cases reg now with ⟨hrefused, _⟩ | ⟨_, hre, _⟩ | ⟨hin, _⟩
    · exact absurd hrefused.failed h
    · exact hre.epoch.ge
    · exact hin.epoch.ge
  | heartbeat w boot _ now hg h => exact ((s.heartbeat_ok_iff w boot e now hg).mp h).1.ge
  | observation w obs policy now a h =>
    obtain ⟨wr, before, st, happlies, _⟩ := applies_of_mem_applied h
    have hepoch := ingestLoop_epoch w wr.boot policy now before { store := s }
    rw [happlies.reached] at hepoch
    rw [(gate_pass happlies.passed).1]
    exact hepoch.ge
  | roll _ h => exact ((s.rollEpoch_ok_iff e).mp h).le

/-- The process accepts a message that bears the epoch. -/
def TakesEpoch (e : CoordinatorEpoch) : Site × Happening → Prop
  | (.up c, .message now _ msg) => ∃ op, c.callOf now msg = some op ∧ c.store.Takes op e
  | _ => False

/-- The epoch in force never falls behind one that was in force before, and no
message is accepted on such an epoch. -/
structure NeverRegresses (past : List (Site × Happening)) (site : Site) : Prop where
  forward : (inForce past site).Pairwise (· ≤ ·)
  fenced : Always (fun before x => ∀ e, TakesEpoch e x → ∀ e' ∈ epochsOf before, e' ≤ e) past

section

variable {path : ByteString} {first : Option CoordinatorEpoch} {past : List (Site × Happening)}
  {site : Site}

/-- The condition on a step is that the epoch after it is not older than the
last one before. -/
theorem startsCovered_iff (hpath : path ≠ []) (h : FileFollows path first past site)
    (i : Happening) :
    StartsCovered path first past (site, i) ↔ ∀ e', (site.step path i).epoch = some e' →
      ∀ e, (inForce past site).getLast? = some e → e ≤ e' := by
  cases siteStep hpath h.configured i with
  | went hsaved hafter hdisk hcovered =>
    refine iff_of_true (hcovered first past) ?_
    intro e' he' e he
    obtain ⟨e₀, hbefore, hle⟩ := hafter e' he'
    rw [getLast?_inForce_of_up hbefore] at he
    exact (Option.some.inj he).ge.trans hle
  | saved e₀ snap hsaved hbefore hafter hsnap hdisk hcovered =>
    refine iff_of_true (hcovered first past) ?_
    intro e' he' e he
    rw [getLast?_inForce_of_up hbefore] at he
    exact (Option.some.inj he).ge.trans (hafter e' he')
  | fresh e₀ hsaved hbefore hafter hdisk hcovered =>
    rw [hcovered first past, getLast?_inForce_of_down hbefore]
    constructor
    · intro hle e' he' e he
      obtain rfl := Option.some.inj (hafter.symm.trans he')
      exact hle e he
    · intro hle e he
      exact hle e₀ hafter e he
  | loaded bytes snap hsaved hbefore hafter hdisk hbytes hparse hcovered =>
    rw [hcovered first past, getLast?_inForce_of_down hbefore]
    have hfile := h.file bytes snap hbytes hparse
    constructor
    · intro hle e' he' e he
      obtain rfl := Option.some.inj (hafter.symm.trans he')
      exact hle e he snap.epoch ((hfile snap.epoch).mpr rfl)
    · intro hle e he e' he'
      rw [(hfile e').mp he']
      exact hle snap.epoch hafter e he

/-- In a list that never falls, the last element bounds the others. -/
theorem le_of_pairwise_of_getLast? {es : List CoordinatorEpoch} {e e' : CoordinatorEpoch}
    (h : es.Pairwise (· ≤ ·)) (hlast : es.getLast? = some e) (hmem : e' ∈ es) : e' ≤ e := by
  obtain ⟨init, rfl⟩ := List.getLast?_eq_some_iff.mp hlast
  rcases List.mem_append.mp hmem with hmem | hmem
  · exact (List.pairwise_append.mp h).2.2 e' hmem e (List.mem_singleton_self e)
  · rw [List.mem_singleton.mp hmem]

theorem inForce_forward_concat (i : Happening) :
    (inForce (past ++ [(site, i)]) (site.step path i)).Pairwise (· ≤ ·) ↔
      (inForce past site).Pairwise (· ≤ ·) ∧ ∀ e', (site.step path i).epoch = some e' →
        ∀ e, (inForce past site).getLast? = some e → e ≤ e' := by
  rw [inForce_concat, List.pairwise_append]
  constructor
  · rintro ⟨hpast, _, hnew⟩
    refine ⟨hpast, ?_⟩
    intro e' he' e he
    exact hnew e (List.mem_of_getLast? he) e' (Option.mem_toList.mpr he')
  · rintro ⟨hpast, hnew⟩
    refine ⟨hpast, ?_, ?_⟩
    · cases (site.step path i).epoch with
      | none => exact List.Pairwise.nil
      | some e => exact List.pairwise_singleton _ e
    · intro e he e' he'
      have hne : inForce past site ≠ [] := List.ne_nil_of_mem he
      have hlast := List.getLast?_eq_some_getLast hne
      exact (le_of_pairwise_of_getLast? hpast hlast he).trans
        (hnew e' (Option.mem_toList.mp he') _ hlast)

/-- Messages are accepted on the epoch in force or a newer one, so they are
fenced as long as the epoch does not fall. -/
theorem takesEpoch_fenced (h : (inForce past site).Pairwise (· ≤ ·)) {i : Happening}
    {e e' : CoordinatorEpoch} (htakes : TakesEpoch e (site, i)) (he' : e' ∈ epochsOf past) :
    e' ≤ e := by
  cases site with
  | down disk => exact absurd htakes id
  | up c =>
    cases i with
    | message now io msg =>
      obtain ⟨op, _, hop⟩ := htakes
      have hle : e' ≤ c.store.epoch :=
        le_of_pairwise_of_getLast? h (getLast?_inForce_of_up rfl) (List.mem_append_left _ he')
      exact hle.trans hop.le
    | _ => exact absurd htakes id

end

section

variable (path : ByteString) (disk : Disk) (happenings : List Happening)

theorem inForce_forward_iff (hpath : path ≠ []) :
    (inForce (Site.history path (.down disk) happenings)
        (Site.run path (.down disk) happenings)).Pairwise (· ≤ ·) ↔
      Always (StartsCovered path (fileEpoch path disk))
        (Site.history path (.down disk) happenings) := by
  induction happenings using List.reverseRecOn with
  | nil => exact iff_of_true List.Pairwise.nil (always_nil _)
  | append_singleton rest i ih =>
    have hfollows := fileFollows_run hpath disk rest
    rw [Site.history, Site.run, history_concat, run_concat, always_concat, inForce_forward_concat]
    exact and_congr ih (startsCovered_iff hpath hfollows i).symm

theorem fenced_of_forward (h : (inForce (Site.history path (.down disk) happenings)
      (Site.run path (.down disk) happenings)).Pairwise (· ≤ ·)) :
    Always (fun before x => ∀ e, TakesEpoch e x → ∀ e' ∈ epochsOf before, e' ≤ e)
      (Site.history path (.down disk) happenings) := by
  induction happenings using List.reverseRecOn with
  | nil => exact always_nil _
  | append_singleton rest i ih =>
    rw [Site.history, Site.run, history_concat, run_concat, inForce_forward_concat] at h
    rw [Site.history, history_concat, always_concat]
    refine ⟨ih h.1, ?_⟩
    intro e htakes e' he'
    exact takesEpoch_fenced h.1 htakes he'

/-- From whatever is on the disk at first, through any messages, losses,
crashes and starts: the epoch never regresses exactly if every process that is
started takes over an epoch that is not older than the last one in force,
which is that of the last save if it loads the file. -/
theorem epochs_forward_iff (hpath : path ≠ []) :
    NeverRegresses (Site.history path (.down disk) happenings)
        (Site.run path (.down disk) happenings) ↔
      Always (StartsCovered path (fileEpoch path disk))
        (Site.history path (.down disk) happenings) := by
  constructor
  · intro h
    exact (inForce_forward_iff path disk happenings hpath).mp h.forward
  · intro h
    have hforward := (inForce_forward_iff path disk happenings hpath).mpr h
    exact ⟨hforward, fenced_of_forward path disk happenings hforward⟩

end

/-- The path of the state file. -/
def sampleStateFile : ByteString := text "state"

/-- A machine without files. -/
def emptyDisk : Disk := fun _ => none

/-- A process rolls the epoch, saves and dies, and another one is started. -/
def sampleSavedRoll : List Happening :=
  [.start {} {},
    .message 1000 {} { type := .epochRoll, epoch := ⟨2⟩ },
    .message 2000 { written := 68 } { type := .save },
    .crash {} 0,
    .start {} {}]

theorem saved_roll_kept :
    sampleStateFile ≠ [] ∧
      NeverRegresses (Site.history sampleStateFile (.down emptyDisk) sampleSavedRoll)
        (Site.run sampleStateFile (.down emptyDisk) sampleSavedRoll) := by
  have hpath : sampleStateFile ≠ [] := by decide
  have hforward : (inForce (Site.history sampleStateFile (.down emptyDisk) sampleSavedRoll)
      (Site.run sampleStateFile (.down emptyDisk) sampleSavedRoll)).Pairwise (· ≤ ·) := by
    decide +kernel
  refine ⟨hpath, (epochs_forward_iff _ _ _ hpath).mpr ?_⟩
  exact (inForce_forward_iff _ _ _ hpath).mp hforward

/-- The roll comes after the save.  It is acknowledged and gone with the
process, although the next one is configured with the new epoch. -/
def sampleUnsavedRoll : List Happening :=
  [.start {} {},
    .message 1000 { written := 68 } { type := .save },
    .message 2000 {} { type := .epochRoll, epoch := ⟨2⟩ },
    .crash {} 0,
    .start { initialEpoch := ⟨2⟩ } {}]

theorem unsaved_roll_lost :
    inForce (Site.history sampleStateFile (.down emptyDisk) sampleUnsavedRoll)
        (Site.run sampleStateFile (.down emptyDisk) sampleUnsavedRoll)
        = [⟨1⟩, ⟨1⟩, ⟨2⟩, ⟨1⟩] ∧
      ¬NeverRegresses (Site.history sampleStateFile (.down emptyDisk) sampleUnsavedRoll)
        (Site.run sampleStateFile (.down emptyDisk) sampleUnsavedRoll) := by
  have hepochs : inForce (Site.history sampleStateFile (.down emptyDisk) sampleUnsavedRoll)
      (Site.run sampleStateFile (.down emptyDisk) sampleUnsavedRoll)
        = [⟨1⟩, ⟨1⟩, ⟨2⟩, ⟨1⟩] := by decide +kernel
  refine ⟨hepochs, ?_⟩
  intro h
  have hforward := h.forward
  rw [hepochs] at hforward
  revert hforward
  decide

end GpuFleet
