import GpuFleet.Coordinator.Restarts

/-!
# Starting on a file that cannot be read

`start` returns early unless what `load_state` returned is `ok`, and
`load_state` makes an error of its own out of every error of `load_snapshot`.
That of `load_snapshot` comes in a `Result<StateSnapshot>`, which can tell an
error from a value.  That of `load_state` comes in a `Result<void>`, whose
constructor from an `Error` does not set the flag that `ok` reads.

`unreadable_state_served` says what follows: whatever is wrong with the file,
`start` reports success, and the coordinator serves as it was constructed.
-/

namespace GpuFleet

namespace Coordinator

/-- What a call of `start` comes to. -/
structure Launch where
  /-- The coordinator that serves, if `start` gets as far as its threads. -/
  serving : Option Coordinator
  /-- What the caller receives. -/
  returned : ResultVoid

/-- The constructor and `start`.  `bound` is the outcome of
`TcpListener::bind`. -/
def launch (opts : Options) (disk : Disk) (bound : Except Error Unit) (io : StateOutcomes) :
    Launch :=
  match bound with
  | .error err =>
    ⟨none, .ofReturn (.error
      { code := .io, message := text "coordinator bind failed: " ++ err.message })⟩
  | .ok () =>
    let c := create opts disk
    if c.opts.stateFile.isEmpty then ⟨some c, .ofReturn (.ok ())⟩
    else
      let (c, returned) := c.loadState io
      let r := ResultVoid.ofReturn returned
      if !r.ok then ⟨none, r⟩ else ⟨some c, .ofReturn (.ok ())⟩

/-- Once the listener is bound, the coordinator that serves is that of `start`. -/
theorem launch_serving (opts : Options) (disk : Disk) (io : StateOutcomes) :
    (launch opts disk (.ok ()) io).serving = start opts disk io := by
  unfold launch start
  by_cases hempty : (create opts disk).opts.stateFile.isEmpty = true
  · simp only [if_pos hempty]
  · simp only [if_neg hempty, ResultVoid.ofReturn_ok, Bool.not_true, Bool.false_eq_true, if_false]

/-- `start` reports success from every one of its `return` statements. -/
theorem launch_returned_ok (opts : Options) (disk : Disk) (bound : Except Error Unit)
    (io : StateOutcomes) : (launch opts disk bound io).returned.ok = true := by
  cases bound with
  | error err => exact ResultVoid.ofReturn_ok _
  | ok _ =>
    unfold launch
    by_cases hempty : (create opts disk).opts.stateFile.isEmpty = true
    · simp only [if_pos hempty, ResultVoid.ofReturn_ok]
    · simp only [if_neg hempty, ResultVoid.ofReturn_ok, Bool.not_true, Bool.false_eq_true, if_false]

/-! ## Unreadable state -/

/-- There is a state file with a name, and `load_snapshot` rejects it. -/
structure Unreadable (path : ByteString) (disk : Disk) (io : StateOutcomes) : Prop where
  named : path ≠ []
  present : ∃ bytes, disk path = some bytes
  found : io.found = true
  rejected : ∃ err, loadSnapshot disk path io.toLoadOutcomes = .error err

/-- `start` reports an error and does not serve with the empty store and
`initial_epoch`. -/
structure RefusesState (opts : Options) (l : Launch) : Prop where
  reported : l.returned.ok = false
  idle : ∀ c, l.serving = some c → c.store ≠ .empty opts.coordinatorId opts.initialEpoch

/-- `load_state` notices an unreadable file, and loads nothing. -/
theorem loadState_unreadable {c : Coordinator} {io : StateOutcomes}
    (h : Unreadable c.opts.stateFile c.disk io) :
    ∃ err, c.loadState io = (c, .error err) ∧ err.code = .corrupt := by
  obtain ⟨bytes, hbytes⟩ := h.present
  obtain ⟨err, herr⟩ := h.rejected
  have hfound : ¬((c.disk c.opts.stateFile).isNone || !io.found) = true := by
    simp [hbytes, h.found]
  unfold loadState
  rw [if_neg (mt List.isEmpty_iff.mp h.named), if_neg hfound, herr]
  exact ⟨_, rfl, rfl⟩

/-- No unreadable state file is refused.  If the listener is bound, the
coordinator serves with the empty store and `initial_epoch`. -/
theorem unreadable_state_served (opts : Options) (disk : Disk) (bound : Except Error Unit)
    (io : StateOutcomes) (h : Unreadable opts.stateFile disk io) :
    ¬RefusesState opts (launch opts disk bound io) ∧
      (bound = .ok () → (launch opts disk bound io).serving = some (create opts disk)) := by
  refine ⟨fun hrefuses => ?_, fun hbound => ?_⟩
  · have hok := launch_returned_ok opts disk bound io
    cases hok.symm.trans hrefuses.reported
  · obtain ⟨err, herr, _⟩ := loadState_unreadable (c := create opts disk) h
    rw [hbound, launch_serving, start_eq, herr]

/-- A disk with the given state file and nothing else. -/
def diskWith (bytes : ByteString) : Disk := emptyDisk.write sampleStateFile bytes

/-- A file of which only the magic is left. -/
theorem truncated_state_served :
    (launch { stateFile := sampleStateFile } (diskWith (ByteWriter.u32 kStoreMagic)) (.ok ())
        {}).serving
      = some (create { stateFile := sampleStateFile } (diskWith (ByteWriter.u32 kStoreMagic))) := by
  have hunreadable : Unreadable sampleStateFile (diskWith (ByteWriter.u32 kStoreMagic)) {} :=
    ⟨by decide, ⟨_, rfl⟩, rfl, _, rfl⟩
  exact (unreadable_state_served { stateFile := sampleStateFile } _ (.ok ()) {} hunreadable).2 rfl

/-- A file of twenty zeros, which has no magic. -/
theorem zeroed_state_not_refused :
    Unreadable sampleStateFile (diskWith (List.replicate 20 0)) {} ∧
      ¬RefusesState { stateFile := sampleStateFile, initialEpoch := ⟨7⟩ }
        (launch { stateFile := sampleStateFile, initialEpoch := ⟨7⟩ }
          (diskWith (List.replicate 20 0)) (.ok ()) {}) := by
  refine ⟨⟨by decide, ⟨_, rfl⟩, rfl, _, rfl⟩, fun hrefuses => ?_⟩
  cases hrefuses.reported

end Coordinator

end GpuFleet
