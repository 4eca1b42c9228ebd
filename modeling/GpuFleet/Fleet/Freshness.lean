import GpuFleet.Fleet.Loss

/-!
# Freshness comes back with new evidence only

A device loses its freshness when its worker is lost, when it disappears,
when a recovery brings it back, or when a stale observation is applied to
it.  `stale_until_observed` says that it stays so until an observation is
applied to the very same key.  What the device may do in the meantime then
follows from `DeviceSafe`: a record that is not fresh does not admit work.
-/

namespace GpuFleet

open Run

namespace FleetStateStore

/-- The device is not fresh, if it is on file at all. -/
def StaleAt (s : FleetStateStore) (key : ByteString) : Prop :=
  ∀ d, s.devices[key]? = some d → d.observationFresh = false

/-! ## One call -/

theorem staleAt_commit {s : FleetStateStore} {key : ByteString} (h : s.StaleAt key)
    (worker : WorkerId) {o : DeviceObservation} (policy : ObservationPolicy) (now : Timestamp)
    (hkey : o.key ≠ key) : (s.commit worker o policy now).StaleAt key := by
  intro d hd
  rw [commit_devices, if_neg hkey] at hd
  exact h d hd

theorem staleAt_markDisappeared {s : FleetStateStore} {key : ByteString} (h : s.StaleAt key)
    (gone : ByteString) (d : DeviceState) (now : Timestamp) :
    (s.markDisappeared gone d now).StaleAt key := by
  intro d' hd'
  rw [markDisappeared_devices] at hd'
  by_cases hkey : gone = key
  · rw [if_pos hkey] at hd'
    cases hd'
    rfl
  · rw [if_neg hkey] at hd'
    exact h d' hd'

/-- An ingest makes a device fresh only by applying an observation to it. -/
theorem staleAt_ingest {s : FleetStateStore} {key : ByteString} (h : s.StaleAt key)
    (worker : WorkerId) (obs : List DeviceObservation) (policy : ObservationPolicy)
    (now : Timestamp)
    (hquiet : ∀ a ∈ (s.ingestSnapshot worker obs policy now).applied, a.key ≠ key) :
    (s.ingestSnapshot worker obs policy now).store.StaleAt key := by
  -- The invariant lets go of the device as soon as an observation is applied to it.
  have hrule : (∀ a ∈ [] ++ (s.ingestSnapshot worker obs policy now).applied, a.key ≠ key) →
      (s.ingestSnapshot worker obs policy now).store.StaleAt key := by
    apply ingestSnapshot_invariant
      (P := fun t as => (∀ a ∈ as, a.key ≠ key) → t.StaleAt key) []
    · intro _
      exact h
    · intro wr before o st _ hP hall
      have hrest : ∀ a ∈ [] ++ st.applied, a.key ≠ key := by
        intro a ha
        exact hall a (List.mem_append_left _ ha)
      have hkey : o.key ≠ key := hall ⟨o.key, o, st.store.applyTo o policy now⟩ (by simp)
      exact staleAt_commit (hP hrest) worker policy now hkey
    · intro t as gone d hP _ hall
      exact staleAt_markDisappeared (hP hall) gone d now
    · intro t as hP hall
      exact hP hall
  exact hrule hquiet

/-- A call that neither ingests nor restores does not make a device fresh. -/
theorem staleAt_of_deviceEffect {s t : FleetStateStore} {key : ByteString} (h : s.StaleAt key)
    (heffect : DeviceEffect s.devices[key]? t.devices[key]?) : t.StaleAt key := by
  intro d hd
  have hstale := h
  unfold StaleAt at hstale
  rw [hd] at heffect
  generalize s.devices[key]? = r at heffect hstale
  cases heffect with
  | kept => exact hstale d rfl
  | lost d₀ => exact loseDevice_observationFresh d₀
  | edited hedit => exact hedit.observationFresh.trans (hstale _ rfl)

/-- Recovery leaves no device fresh. -/
theorem staleAt_restore (s : FleetStateStore) (snap : StateSnapshot) (key : ByteString) :
    (s.step (.restore snap)).StaleAt key := by
  intro d hd
  obtain ⟨d₀, _, rfl⟩ := restored_device hd
  exact restoreDevice_observationFresh d₀

theorem staleAt_step {s : FleetStateStore} {key : ByteString} (h : s.StaleAt key) (op : Op)
    (hquiet : ∀ a ∈ (s.exec op).applied, a.key ≠ key) : (s.step op).StaleAt key := by
  by_cases hingest : op.IsIngest
  · cases op with
    | ingestSnapshot worker obs policy now => exact staleAt_ingest h worker obs policy now hquiet
    | _ => exact absurd hingest fun h => h
  · by_cases hrestore : op.IsRestore
    · cases op with
      | restore snap => exact s.staleAt_restore snap key
      | _ => exact absurd hrestore fun h => h
    · exact staleAt_of_deviceEffect h (step_devices hingest hrestore key)

/-! ## Runs -/

theorem staleAt_run {s : FleetStateStore} {key : ByteString} (h : s.StaleAt key)
    (ops : List Op) (hquiet : ∀ a ∈ applicationsOf (s.history ops), a.key ≠ key) :
    (s.run ops).StaleAt key := by
  induction ops using List.reverseRecOn with
  | nil => exact h
  | append_singleton ops op ih =>
    rw [history, history_concat, applicationsOf_concat] at hquiet
    rw [run, run_concat]
    refine staleAt_step (ih ?_) op ?_
    · intro a ha
      exact hquiet a (List.mem_append_left _ ha)
    · intro a ha
      exact hquiet a (List.mem_append_right _ ha)

/-- In every run, recoveries included: a device that is not fresh stays so,
and is neither eligible nor degraded, through any calls that apply no
observation to it, and right after a recovery no device is fresh. -/
theorem stale_until_observed (coord : CoordinatorId) (epoch : CoordinatorEpoch)
    (ops : List Op) :
    (∀ (key : ByteString) (d : DeviceState) (later : List Op),
      ((empty coord epoch).run ops).devices[key]? = some d → d.observationFresh = false →
      (∀ a ∈ applicationsOf (((empty coord epoch).run ops).history later), a.key ≠ key) →
      ∀ d', ((empty coord epoch).run (ops ++ later)).devices[key]? = some d' →
        d'.observationFresh = false ∧ d'.eligibility ≠ .eligible ∧
          d'.eligibility ≠ .degradedEligible) ∧
    ∀ (snap : StateSnapshot) (key : ByteString) (d : DeviceState),
      ((empty coord epoch).run (ops ++ [.restore snap])).devices[key]? = some d →
        d.observationFresh = false := by
  constructor
  · intro key d later hd hstale hquiet d' hd'
    have hat : ((empty coord epoch).run ops).StaleAt key := by
      intro d₀ hd₀
      obtain rfl : d = d₀ := Option.some.inj (hd.symm.trans hd₀)
      exact hstale
    have hrun : (empty coord epoch).run (ops ++ later)
        = ((empty coord epoch).run ops).run later := run_append _ _ _
    have hstale' : d'.observationFresh = false := by
      apply staleAt_run hat later hquiet
      rw [← hrun]
      exact hd'
    have hadmits := (storeSafe_run coord epoch (ops ++ later) key d' hd').not_admits hstale'
    exact ⟨hstale', fun h => hadmits (Or.inl h), fun h => hadmits (Or.inr h)⟩
  · intro snap key d hd
    rw [run, run_concat] at hd
    exact staleAt_restore _ snap key d hd

set_option maxRecDepth 4000 in
/-- The sample device, after the loss of its worker and a drain that is taken
back. -/
theorem sample_stale_until_observed :
    ∃ d, (sampleStore.run ((sampleReport ++ [.markWorkerLost ⟨1⟩ 6000]) ++
        [.setDrain ⟨1⟩ sampleKey .draining 8000,
          .setDrain ⟨1⟩ sampleKey .active 9000])).devices[sampleKey]? = some d ∧
      d.observationFresh = false ∧ d.eligibility ≠ .eligible ∧
      d.eligibility ≠ .degradedEligible := by
  have hstale := (stale_until_observed ⟨1⟩ ⟨1⟩ (sampleReport ++ [.markWorkerLost ⟨1⟩ 6000])).1
    sampleKey _ [.setDrain ⟨1⟩ sampleKey .draining 8000, .setDrain ⟨1⟩ sampleKey .active 9000]
    rfl rfl (fun a ha => by cases ha)
  exact ⟨_, rfl, hstale _ rfl⟩

end FleetStateStore

end GpuFleet
