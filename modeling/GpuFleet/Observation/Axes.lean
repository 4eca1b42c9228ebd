import GpuFleet.Observation.Pipeline

/-!
# What change records tell

`observation/change.hpp` says that every transition is emitted as a change
record.  `Tells` is that promise for one device: on each of the five axes, a
device that changed has exactly one record, of the kind that names the
change, and a device that did not change has none.

`tells_diffDeviceState` is the promise for `diff_device_state`.
`tells_course_iff` is about a course of observations of one device, which
has the records of every difference on the way: it is told exactly when no
axis turns twice.
-/

namespace GpuFleet

/-! ## Axes -/

/-- What the records speak about. -/
inductive Axis
  | presence | health | eligibility | drain | quarantine
  deriving DecidableEq

/-- The axis that a kind of record is about. -/
def ChangeKind.axis : ChangeKind → Option Axis
  | .deviceAppeared | .deviceDisappeared => some .presence
  | .healthChanged => some .health
  | .eligibilityChanged => some .eligibility
  | .drainInitiated | .drainCompleted => some .drain
  | .quarantineApplied | .quarantineCleared => some .quarantine
  | _ => none

namespace Axis

/-- The two states agree on the axis. -/
def Same : Axis → DeviceState → DeviceState → Prop
  | .presence, d, d' => d.present = d'.present
  | .health, d, d' => d.health = d'.health
  | .eligibility, d, d' => d.eligibility = d'.eligibility
  | .drain, d, d' => d.drain = d'.drain
  | .quarantine, d, d' => d.quarantined = d'.quarantined

instance decidableSame : (a : Axis) → (d d' : DeviceState) → Decidable (a.Same d d')
  | .presence, d, d' => inferInstanceAs (Decidable (d.present = d'.present))
  | .health, d, d' => inferInstanceAs (Decidable (d.health = d'.health))
  | .eligibility, d, d' => inferInstanceAs (Decidable (d.eligibility = d'.eligibility))
  | .drain, d, d' => inferInstanceAs (Decidable (d.drain = d'.drain))
  | .quarantine, d, d' => inferInstanceAs (Decidable (d.quarantined = d'.quarantined))

/-- The kind of record for a change that led to the state `after`. -/
def Names : Axis → DeviceState → ChangeKind → Prop
  | .presence, after, k => k = if after.present then .deviceAppeared else .deviceDisappeared
  | .health, _, k => k = .healthChanged
  | .eligibility, _, k => k = .eligibilityChanged
  | .drain, _, k => k = .drainInitiated ∨ k = .drainCompleted
  | .quarantine, after, k =>
    k = if after.quarantined then .quarantineApplied else .quarantineCleared

theorem Same.refl (a : Axis) (d : DeviceState) : a.Same d d := by
  cases a <;> rfl

theorem Same.symm {a : Axis} {d d' : DeviceState} (h : a.Same d d') : a.Same d' d := by
  cases a <;> exact Eq.symm h

theorem Same.trans {a : Axis} {d d' d'' : DeviceState} (h : a.Same d d')
    (h' : a.Same d' d'') : a.Same d d'' := by
  cases a <;> exact Eq.trans h h'

theorem Names.of_same {a : Axis} {d d' : DeviceState} {k : ChangeKind} (h : a.Names d k)
    (hsame : a.Same d d') : a.Names d' k := by
  cases a with
  | presence =>
    rw [Names, ← show d.present = d'.present from hsame]
    exact h
  | quarantine =>
    rw [Names, ← show d.quarantined = d'.quarantined from hsame]
    exact h
  | _ => exact h

/-- The records that are about the axis. -/
def recordsOf (a : Axis) (records : List ChangeRecord) : List ChangeRecord :=
  records.filter fun r => decide (r.kind.axis = some a)

@[simp] theorem recordsOf_nil (a : Axis) : a.recordsOf [] = [] := rfl

@[simp] theorem recordsOf_append (a : Axis) (rs rs' : List ChangeRecord) :
    a.recordsOf (rs ++ rs') = a.recordsOf rs ++ a.recordsOf rs' :=
  List.filter_append ..

theorem recordsOf_singleton (a : Axis) (r : ChangeRecord) :
    a.recordsOf [r] = if r.kind.axis = some a then [r] else [] := by
  by_cases h : r.kind.axis = some a
  · simp [recordsOf, h]
  · simp [recordsOf, h]

theorem recordsOf_ite (a : Axis) (c : Prop) [Decidable c] (rs rs' : List ChangeRecord) :
    a.recordsOf (if c then rs else rs') = if c then a.recordsOf rs else a.recordsOf rs' :=
  apply_ite _ _ _ _

end Axis

/-- The records tell what happened on the axis between the two states. -/
def TellsOn (a : Axis) (before after : DeviceState) (records : List ChangeRecord) : Prop :=
  (a.Same before after ∧ a.recordsOf records = []) ∨
    (¬a.Same before after ∧ ∃ r, a.recordsOf records = [r] ∧ a.Names after r.kind)

/-- The records tell what happened between the two states. -/
def Tells (before after : DeviceState) (records : List ChangeRecord) : Prop :=
  ∀ a, TellsOn a before after records

/-- Nothing happened and nothing is told. -/
theorem tells_self (d : DeviceState) : Tells d d [] :=
  fun a => Or.inl ⟨Axis.Same.refl a d, rfl⟩

/-- A change that no record tells. -/
theorem not_tells_of_untold {a : Axis} {before after : DeviceState}
    {records : List ChangeRecord} (hdiffer : ¬a.Same before after)
    (hnone : a.recordsOf records = []) : ¬Tells before after records := by
  intro h
  rcases h a with ⟨hsame, _⟩ | ⟨_, r, hr, _⟩
  · exact hdiffer hsame
  · rw [hnone] at hr
    cases hr

/-! ## One observation -/

/-- `diff_device_state` tells the difference between two states of the same
drain level. -/
theorem tells_diffDeviceState {prior cand : DeviceState} (hdrain : prior.drain = cand.drain)
    (atTime : Timestamp) (gen : DeviceGeneration) (epoch : CoordinatorEpoch) :
    Tells prior cand (diffDeviceState prior cand atTime gen epoch) := by
  intro a
  unfold TellsOn diffDeviceState
  simp only [Axis.recordsOf_append, Axis.recordsOf_ite, Axis.recordsOf_singleton,
    Axis.recordsOf_nil, ChangeKind.axis]
  cases a with
  | presence =>
    cases hp : prior.present <;> cases hc : cand.present <;>
      simp [Axis.Same, Axis.Names, hp, hc]
  | health =>
    by_cases h : prior.health = cand.health <;> simp [Axis.Same, Axis.Names, h]
  | eligibility =>
    by_cases h : prior.eligibility = cand.eligibility <;> simp [Axis.Same, Axis.Names, h]
  | drain =>
    have hcompleted : ¬(cand.drain = .draining ∧ cand.drain = .drained) := by
      rintro ⟨h, h'⟩
      cases h.symm.trans h'
    simp [Axis.Same, hdrain, hcompleted]
  | quarantine =>
    cases hp : prior.quarantined <;> cases hc : cand.quarantined <;>
      simp [Axis.Same, Axis.Names, hp, hc]

/-! ## A course of observations -/

section Course

variable (policy : ObservationPolicy) (now : Timestamp) (epoch : CoordinatorEpoch)

/-- The state of a device after an observation that passed the gates. -/
def advance (d : DeviceState) (o : DeviceObservation) : DeviceState :=
  { (applyObservation d o policy now epoch).state with healthGeneration := o.healthGeneration }

/-- The state of a device after some observations. -/
def course (d : DeviceState) (os : List DeviceObservation) : DeviceState :=
  os.foldl (advance policy now epoch) d

/-- The records of the observations, in order. -/
def courseRecords (d : DeviceState) : List DeviceObservation → List ChangeRecord
  | [] => []
  | o :: rest =>
    (applyObservation d o policy now epoch).changes
      ++ courseRecords (advance policy now epoch d o) rest

/-- How often the device changes on the axis. -/
def turns (a : Axis) (d : DeviceState) : List DeviceObservation → Nat
  | [] => 0
  | o :: rest =>
    (if a.Same d (advance policy now epoch d o) then 0 else 1)
      + turns a (advance policy now epoch d o) rest

variable {policy now epoch}

theorem tells_advance (d : DeviceState) (o : DeviceObservation) :
    Tells d (advance policy now epoch d o) (applyObservation d o policy now epoch).changes := by
  intro a
  have hdrain : d.drain = (applyObservation d o policy now epoch).state.drain := rfl
  have h := tells_diffDeviceState hdrain o.observedAt
    (applyObservation d o policy now epoch).state.generation epoch a
  cases a <;> exact h

theorem length_recordsOf_courseRecords (a : Axis) (d : DeviceState)
    (os : List DeviceObservation) :
    (a.recordsOf (courseRecords policy now epoch d os)).length
      = turns policy now epoch a d os := by
  induction os generalizing d with
  | nil => rfl
  | cons o rest ih =>
    rw [courseRecords, Axis.recordsOf_append, List.length_append, ih, turns]
    rcases tells_advance d o a with ⟨hsame, hnone⟩ | ⟨hdiffer, r, hr, _⟩
    · rw [hnone, if_pos hsame, List.length_nil]
    · rw [hr, if_neg hdiffer, List.length_singleton]

theorem turns_le_length (a : Axis) (d : DeviceState) (os : List DeviceObservation) :
    turns policy now epoch a d os ≤ os.length := by
  induction os generalizing d with
  | nil => exact Nat.le_refl 0
  | cons o rest ih =>
    have hrest := ih (advance policy now epoch d o)
    rw [turns, List.length_cons]
    split <;> omega

theorem same_course_of_turns {a : Axis} {d : DeviceState} {os : List DeviceObservation}
    (h : turns policy now epoch a d os = 0) : a.Same d (course policy now epoch d os) := by
  induction os generalizing d with
  | nil => exact Axis.Same.refl a d
  | cons o rest ih =>
    rw [turns, Nat.add_eq_zero_iff] at h
    have hsame : a.Same d (advance policy now epoch d o) := by
      by_contra hdiffer
      rw [if_neg hdiffer] at h
      cases h.1
    exact hsame.trans (ih h.2)

/-- A device that turns once ends elsewhere, and its one record says where. -/
theorem tellsOn_course_of_turn {a : Axis} {d : DeviceState} {os : List DeviceObservation}
    (h : turns policy now epoch a d os = 1) :
    ¬a.Same d (course policy now epoch d os) ∧
      ∃ r, a.recordsOf (courseRecords policy now epoch d os) = [r] ∧
        a.Names (course policy now epoch d os) r.kind := by
  induction os generalizing d with
  | nil => cases h
  | cons o rest ih =>
    rw [turns] at h
    rw [courseRecords, Axis.recordsOf_append]
    rcases tells_advance d o a with ⟨hsame, hnone⟩ | ⟨hdiffer, r, hr, hnames⟩
    · rw [if_pos hsame, Nat.zero_add] at h
      obtain ⟨hdiffer, r, hr, hnames⟩ := ih h
      refine ⟨fun hback => hdiffer (hsame.symm.trans hback), r, ?_, hnames⟩
      rw [hnone, List.nil_append, hr]
    · rw [if_neg hdiffer] at h
      have hrest : turns policy now epoch a (advance policy now epoch d o) rest = 0 := by omega
      have hstays := same_course_of_turns hrest
      have hquiet : a.recordsOf (courseRecords policy now epoch
          (advance policy now epoch d o) rest) = [] := by
        rw [← List.length_eq_zero_iff, length_recordsOf_courseRecords, hrest]
      refine ⟨fun hback => hdiffer (hback.trans hstays.symm), r, ?_, hnames.of_same hstays⟩
      rw [hr, hquiet, List.append_nil]

/-- The records of a course of observations tell it exactly when no axis
turns twice. -/
theorem tells_course_iff (d : DeviceState) (os : List DeviceObservation) :
    Tells d (course policy now epoch d os) (courseRecords policy now epoch d os) ↔
      ∀ a, turns policy now epoch a d os ≤ 1 := by
  constructor
  · intro h a
    rw [← length_recordsOf_courseRecords]
    rcases h a with ⟨_, hnone⟩ | ⟨_, r, hr, _⟩
    · rw [hnone, List.length_nil]
      exact Nat.zero_le 1
    · rw [hr, List.length_singleton]
  · intro h a
    rcases Nat.le_one_iff_eq_zero_or_eq_one.mp (h a) with hzero | hone
    · refine Or.inl ⟨same_course_of_turns hzero, ?_⟩
      rw [← List.length_eq_zero_iff, length_recordsOf_courseRecords, hzero]
    · exact Or.inr (tellsOn_course_of_turn hone)

end Course

end GpuFleet
