import GpuFleet.Coordinator.Dispatch
import GpuFleet.Fleet.Effects

/-!
# What a reply says about the command

The handlers of the commands test the `Result<void>` of the call they make.
The error constructor of `Result<void>` does not set the error flag, so the
test never fails and every command that gets as far as its call is
acknowledged.  `truthful_iff` says when the reply is right all the same:
exactly when the call succeeds, which is spelled out for every command as a
condition on the message, the store and the file system.
-/

namespace GpuFleet

open FleetStateStore

namespace Coordinator

/-! ## The property -/

/-- The commands whose call returns a `Result<void>`. -/
def IsCommand (msg : Message) : Prop :=
  (msg.type = .heartbeat ∧ (!msg.workerBoot.isZero || !msg.worker.isZero) = true) ∨
    msg.type = .drain ∨ msg.type = .undrain ∨ msg.type = .quarantine ∨
    msg.type = .clearQuarantine ∨ msg.type = .epochRoll ∨ msg.type = .save

/-- What the sender of an acknowledged command may rely on. -/
def Effective (s : FleetStateStore) (msg : Message) : Prop :=
  match msg.type with
  | .drain | .undrain => ∀ t, decodeDrainTarget msg.payload = .ok t →
      ∃ d, s.devices[t.identity]? = some d ∧ d.drain = t.level
  | .quarantine => ∀ q, decodeQuarantine msg.payload = .ok q →
      ∃ d, s.devices[q.identity]? = some d ∧ d.quarantined = true
  | .epochRoll => s.epoch = msg.epoch
  | _ => True

/-- The reply is an acknowledgement only if the call was made and did not
take an error branch, it is an error otherwise, and an acknowledged command
has had its effect. -/
structure Truthful (out : Dispatched) (msg : Message) : Prop where
  acknowledged : out.reply.ok = true → out.verdict = some (.ok ())
  rejected : out.verdict ≠ some (.ok ()) → out.reply.type = .error ∧ out.reply.ok = false
  effective : out.reply.ok = true → Effective out.coordinator.store msg

/-- The save is configured and the file system carries it out. -/
def SaveAccepted (c : Coordinator) (io : FileOutcomes) : Prop :=
  c.opts.stateFile ≠ [] ∧ io.opened = true ∧
    io.written = (saveImage c.store.snapshot).length ∧ io.flushed = true ∧
    io.closed = true ∧ (io.renamed = true ∨ io.renamedAgain = true)

/-- The command does not run into an error branch: its payload does not
decode, and then no call is made, or the call accepts it. -/
def Accepted (c : Coordinator) (io : FileOutcomes) (msg : Message) : Prop :=
  match msg.type with
  | .heartbeat =>
    msg.epoch = c.store.epoch ∧ c.store.recordedBoot msg.worker = some msg.workerBoot
  | .drain | .undrain => ∀ t, decodeDrainTarget msg.payload = .ok t →
      ∃ d, c.store.devices[t.identity]? = some d
  | .quarantine => ∀ q, decodeQuarantine msg.payload = .ok q →
      ∃ d, c.store.devices[q.identity]? = some d ∧ d.generation ≤ q.generation
  | .clearQuarantine => ∀ identity, decodeIdentityTarget msg.payload = .ok identity →
      ∃ d, c.store.devices[identity]? = some d ∧ d.quarantined = true
  | .epochRoll => c.store.epoch < msg.epoch
  | .save => c.SaveAccepted io
  | _ => True

/-! ## Replies -/

/-- A `Result<void>` is always answered with an acknowledgement. -/
@[simp] theorem respondVoid_eq (c : Coordinator) (msg : Message) (r : Except Error Unit) :
    c.respondVoid msg r = c.respondAck msg true [] := by
  simp [respondVoid]

/-- So the reply is right exactly when the call succeeded and had its
effect. -/
theorem truthful_of_acknowledged {c : Coordinator} {msg : Message} {r : Except Error Unit}
    {logged : List ChangeRecord} :
    Truthful ⟨c, c.respondAck msg true [], some r, logged⟩ msg ↔
      r = .ok () ∧ Effective c.store msg := by
  constructor
  · intro h
    exact ⟨Option.some.inj (h.acknowledged rfl), h.effective rfl⟩
  · intro ⟨hr, heffect⟩
    refine ⟨fun _ => congrArg some hr, fun hne => ?_, fun _ => heffect⟩
    exact absurd (congrArg some hr) hne

theorem truthful_answerVoid (c : Coordinator) (msg : Message) (out : Outcome Unit) :
    Truthful (c.answerVoid msg out) msg ↔
      ¬out.Failed ∧ Effective out.store msg := by
  have hresult : out.result = .ok () ↔ ¬out.Failed := by
    unfold Outcome.Failed
    cases out.result with
    | error err => simp
    | ok _ => simp
  unfold answerVoid
  simp only [respondVoid_eq]
  rw [truthful_of_acknowledged, hresult]

/-- A payload that does not decode is answered with an error. -/
theorem truthful_malformed (c : Coordinator) (msg : Message) (reason : ByteString) :
    Truthful (c.malformed msg reason) msg := by
  refine ⟨?_, fun _ => ⟨rfl, rfl⟩, ?_⟩
  · intro h
    cases h
  · intro h
    cases h

/-! ## When a save succeeds -/

theorem replaceFile_ok_iff (disk : Disk) (tmp path : ByteString) (io : FileOutcomes) :
    (replaceFile disk tmp path io).result = .ok () ↔
      io.renamed = true ∨ io.renamedAgain = true := by
  unfold replaceFile
  cases io.renamed with
  | true => simp
  | false =>
    cases io.renamedAgain with
    | true => simp
    | false => simp

/-- A save succeeds exactly when it is configured, the image is written out
in full and one of the two renames replaces the file. -/
theorem saveState_ok_iff (c : Coordinator) (io : FileOutcomes) :
    (c.saveState io).result = .ok () ↔ c.SaveAccepted io := by
  unfold saveState SaveAccepted
  by_cases hfile : c.opts.stateFile = []
  · simp [hfile]
  have hfile' : ¬c.opts.stateFile.isEmpty = true := by simpa using hfile
  rw [if_neg hfile']
  unfold saveSnapshot
  by_cases hopened : io.opened = true
  · by_cases hwritten : io.written = (saveImage c.store.snapshot).length ∧
        io.flushed = true ∧ io.closed = true
    · obtain ⟨hlength, hflushed, hclosed⟩ := hwritten
      simp [hopened, hlength, hflushed, hclosed, hfile, replaceFile_ok_iff]
    · have hbad : (decide (io.written ≠ (saveImage c.store.snapshot).length) || !io.flushed ||
          !io.closed) = true := by
        by_contra hgood
        apply hwritten
        simpa [and_assoc] using hgood
      simp only [hopened, Bool.not_true, Bool.false_eq_true, if_false, hbad, if_true]
      constructor
      · intro h
        cases h
      · intro ⟨_, _, hlength, hflushed, hclosed, _⟩
        exact absurd ⟨hlength, hflushed, hclosed⟩ hwritten
  · simp [hopened]

/-! ## The commands -/

section Commands

variable (c : Coordinator) (now : Timestamp) (io : FileOutcomes) {msg : Message}

theorem truthful_heartbeat (htype : msg.type = .heartbeat)
    (hnamed : (!msg.workerBoot.isZero || !msg.worker.isZero) = true) :
    Truthful (c.dispatch now io msg) msg ↔ c.Accepted io msg := by
  have hdispatch : c.dispatch now io msg = c.answerVoid msg
      (c.store.heartbeat msg.worker msg.workerBoot msg.epoch now msg.healthGen) := by
    rw [dispatch, htype]
    simp only [handleHeartbeat]
    rw [if_pos hnamed]
  rw [hdispatch, truthful_answerVoid, heartbeat_ok_iff]
  simp [Effective, Accepted, htype]

theorem truthful_drain (htype : msg.type = .drain ∨ msg.type = .undrain) :
    Truthful (c.dispatch now io msg) msg ↔ c.Accepted io msg := by
  have hdispatch : c.dispatch now io msg = c.handleDrain now msg := by
    unfold dispatch
    rcases htype with h | h <;> rw [h]
  have haccepted : c.Accepted io msg ↔ ∀ t, decodeDrainTarget msg.payload = .ok t →
      ∃ d, c.store.devices[t.identity]? = some d := by
    unfold Accepted
    rcases htype with h | h <;> rw [h]
  have heffective : ∀ s, Effective s msg ↔ ∀ t, decodeDrainTarget msg.payload = .ok t →
      ∃ d, s.devices[t.identity]? = some d ∧ d.drain = t.level := by
    intro s
    unfold Effective
    rcases htype with h | h <;> rw [h]
  rw [hdispatch, haccepted, handleDrain]
  cases ht : decodeDrainTarget msg.payload with
  | error err => simp [truthful_malformed]
  | ok t =>
    simp only [truthful_answerVoid, heffective, ht, Except.ok.injEq, forall_eq']
    exact c.store.setDrain_ok_iff _ t.identity t.level now

theorem truthful_quarantine (htype : msg.type = .quarantine) :
    Truthful (c.dispatch now io msg) msg ↔ c.Accepted io msg := by
  have hdispatch : c.dispatch now io msg = c.handleQuarantine now msg := by
    rw [dispatch, htype]
  rw [hdispatch, handleQuarantine]
  unfold Accepted
  rw [htype]
  cases hq : decodeQuarantine msg.payload with
  | error err => simp [truthful_malformed]
  | ok q =>
    simp only [truthful_answerVoid, Effective, htype, hq, Except.ok.injEq, forall_eq']
    exact c.store.setQuarantine_ok_iff _ q.identity (c.quarantineRecord q now) now

theorem truthful_clearQuarantine (htype : msg.type = .clearQuarantine) :
    Truthful (c.dispatch now io msg) msg ↔ c.Accepted io msg := by
  have hdispatch : c.dispatch now io msg = c.handleClearQuarantine now msg := by
    rw [dispatch, htype]
  rw [hdispatch, handleClearQuarantine]
  unfold Accepted
  rw [htype]
  cases hi : decodeIdentityTarget msg.payload with
  | error err => simp [truthful_malformed]
  | ok identity =>
    simp only [truthful_answerVoid, Effective, htype, and_true, Except.ok.injEq, forall_eq']
    exact c.store.clearQuarantine_ok_iff _ identity now

theorem truthful_epochRoll (htype : msg.type = .epochRoll) :
    Truthful (c.dispatch now io msg) msg ↔ c.Accepted io msg := by
  have hdispatch : c.dispatch now io msg = c.answerVoid msg (c.store.rollEpoch msg.epoch) := by
    rw [dispatch, htype]
  have hepoch : c.store.epoch < msg.epoch → (c.store.rollEpoch msg.epoch).store.epoch = msg.epoch := by
    intro hlt
    rcases c.store.rollEpoch_cases msg.epoch with ⟨hle, _⟩ | ⟨_, h⟩
    · exact absurd hlt (not_lt.mpr hle)
    · rw [h.store]
  rw [hdispatch, truthful_answerVoid, rollEpoch_ok_iff]
  simp only [Effective, Accepted, htype]
  exact ⟨fun h => h.1, fun h => ⟨h, hepoch h⟩⟩

theorem truthful_save (htype : msg.type = .save) :
    Truthful (c.dispatch now io msg) msg ↔ c.Accepted io msg := by
  have hdispatch : c.dispatch now io msg = c.handleSave io msg := by
    rw [dispatch, htype]
  rw [hdispatch, handleSave]
  simp only [respondVoid_eq]
  rw [truthful_of_acknowledged, saveState_ok_iff]
  simp [Effective, Accepted, htype]

end Commands

/-- In every reachable state of the coordinator and for every command, the
reply is truthful exactly when the command is accepted. -/
theorem truthful_iff (opts : Options) (disk : Disk) (events : List Event) (now : Timestamp)
    (io : FileOutcomes) (msg : Message) (hcommand : IsCommand msg) :
    Truthful (((create opts disk).run events).dispatch now io msg) msg ↔
      ((create opts disk).run events).Accepted io msg := by
  generalize (create opts disk).run events = c
  rcases hcommand with ⟨h, hnamed⟩ | h | h | h | h | h | h
  · exact c.truthful_heartbeat now io h hnamed
  · exact c.truthful_drain now io (Or.inl h)
  · exact c.truthful_drain now io (Or.inr h)
  · exact c.truthful_quarantine now io h
  · exact c.truthful_clearQuarantine now io h
  · exact c.truthful_epochRoll now io h
  · exact c.truthful_save now io h

/-- A roll to the next epoch is acknowledged and done. -/
theorem forward_roll_truthful :
    Truthful ((create {} (fun _ => none)).dispatch 1000 {} { type := .epochRoll, epoch := ⟨2⟩ })
      { type := .epochRoll, epoch := ⟨2⟩ } := by
  refine (truthful_iff {} (fun _ => none) [] 1000 {} { type := .epochRoll, epoch := ⟨2⟩ } ?_).mpr ?_
  · simp [IsCommand]
  · show (⟨1⟩ : CoordinatorEpoch) < ⟨2⟩
    decide

/-- A roll to the epoch that is in force is refused by the store and
acknowledged to the sender. -/
theorem refused_roll_acknowledged :
    ((create {} (fun _ => none)).dispatch 1000 {}
        { type := .epochRoll, epoch := ⟨1⟩ }).reply.ok = true ∧
      ¬Truthful ((create {} (fun _ => none)).dispatch 1000 {} { type := .epochRoll, epoch := ⟨1⟩ })
        { type := .epochRoll, epoch := ⟨1⟩ } := by
  refine ⟨rfl, ?_⟩
  intro h
  cases h.acknowledged rfl

end Coordinator

end GpuFleet
