import GpuFleet.Fleet.WireBounds
import GpuFleet.Persistence.Digest

/-!
# Crash and recover, again and again

`restore` rewrites the verdicts of the devices, so the state after a recovery
is not the state on file.  It is one that a recovery leaves as it is: what the
decoder accepts is within the bounds of the format, the rewriting stays within
them, and a device that was rewritten once is not changed by a second time.
-/

namespace GpuFleet

namespace FleetStateStore

/-- The loop body of `restore` does nothing the second time. -/
theorem restoreDevice_idem (d : DeviceState) :
    restoreDevice (restoreDevice d) = restoreDevice d := by
  unfold restoreDevice
  by_cases hq : d.quarantined = true
  · simp only [if_pos hq]
  · by_cases hd : d.drain ≠ .active
    · simp only [if_neg hq, if_pos hd]
    · simp only [if_neg hq, if_neg hd]

theorem restoreDevice_fits {d : DeviceState} (h : d.Fits) : (restoreDevice d).Fits := by
  unfold restoreDevice
  by_cases hq : d.quarantined = true
  · simp only [if_pos hq]
    exact { h with }
  · by_cases hd : d.drain ≠ .active
    · simp only [if_neg hq, if_pos hd]
      exact { h with }
    · simp only [if_neg hq, if_neg hd]
      exact { h with eligibilityReasons := Nat.le_of_ble_eq_true rfl }

/-- What is on view after a recovery. -/
def recovered (s : FleetStateStore) (snap : StateSnapshot) : StateSnapshot :=
  (s.restore snap).store.snapshot

theorem recovered_fits {snap : StateSnapshot} (h : snap.Fits) (s : FleetStateStore) :
    (s.recovered snap).Fits := by
  have hdevices : (s.recovered snap).devices = snap.devices.map fun _ d => restoreDevice d := rfl
  have hentry : ∀ e ∈ (s.recovered snap).devices.toList,
      ∃ d, (e.1, d) ∈ snap.devices.toList ∧ e.2 = restoreDevice d := by
    intro e he
    rw [hdevices, Std.ExtTreeMap.toList_map] at he
    obtain ⟨⟨key, d⟩, hd, rfl⟩ := List.mem_map.mp he
    exact ⟨d, hd, rfl⟩
  exact {
    nodeCount := h.nodeCount
    nodeKeys := h.nodeKeys
    workerCount := h.workerCount
    workerKeys := h.workerKeys
    workers := h.workers
    deviceCount := by
      rw [hdevices, Std.ExtTreeMap.size_map]
      exact h.deviceCount
    deviceKeys := by
      intro e he
      obtain ⟨d, hd, -⟩ := hentry e he
      exact h.deviceKeys (e.1, d) hd
    devices := by
      intro e he
      obtain ⟨d, hd, hd'⟩ := hentry e he
      rw [hd']
      exact restoreDevice_fits (h.devices (e.1, d) hd)
    changeCount := h.changeCount
    changes := h.changes }

/-- A recovery from what a recovery left.  The accounting is not on file and
does not matter: it is computed from the rest. -/
theorem recovered_recovered (s s' : FleetStateStore) (snap : StateSnapshot) (a : Accounting) :
    s'.recovered { s.recovered snap with accounting := a } = s.recovered snap := by
  have hdevices : (snap.devices.map fun _ d => restoreDevice d).map (fun _ d => restoreDevice d)
      = snap.devices.map fun _ d => restoreDevice d := by
    rw [Std.ExtTreeMap.map_map]
    simp only [restoreDevice_idem]
  have hstore : (s'.restore { s.recovered snap with accounting := a }).store
      = (s.restore snap).store := by
    show FleetStateStore.mk _ _ _ _ _ _ _ _ _ = FleetStateStore.mk _ _ _ _ _ _ _ _ _
    congr 1
  rw [recovered, hstore]
  rfl

/-- One crash and one recovery without traffic: what is on view is encoded,
decoded and restored into a store. -/
def crashAndRecover (view : StateSnapshot) (s : FleetStateStore) : Result StateSnapshot := do
  let snap ← decodeSnapshot (encodeSnapshot view)
  pure (s.recovered snap)

theorem crashAndRecover_recovered {snap : StateSnapshot} (h : snap.Fits)
    (s s' : FleetStateStore) :
    crashAndRecover (s.recovered snap) s' = .ok (s.recovered snap) := by
  have hdecode : decodeSnapshot (encodeSnapshot (s.recovered snap))
      = .ok { s.recovered snap with accounting := {} } :=
    decode_readsAll (readsAll_encodeSnapshot (recovered_fits h s))
  rw [crashAndRecover, hdecode]
  show Except.ok _ = _
  rw [recovered_recovered]

/-- Whatever bytes are on file, if they can be loaded then the state after the
recovery can be saved and loaded again, into any store, with nothing changed,
and so after any number of crashes. -/
theorem recovery_fixpoint (b : ByteString) (snap : StateSnapshot)
    (h : decodeSnapshot b = .ok snap) (s : FleetStateStore) :
    (∃ snap', decodeSnapshot (encodeSnapshot (s.recovered snap)) = .ok snap' ∧
      ∀ s' : FleetStateStore, s'.recovered snap' = s.recovered snap) ∧
    ∀ stores : List FleetStateStore, ∃ view,
      stores.foldlM crashAndRecover (s.recovered snap) = .ok view ∧
        view = s.recovered snap ∧ snapshotDigest view = snapshotDigest (s.recovered snap) := by
  have hfits : snap.Fits := decode_ensures ensures_snapshot h
  refine ⟨?_, ?_⟩
  · refine ⟨{ s.recovered snap with accounting := {} }, ?_, fun s' => ?_⟩
    · exact decode_readsAll (readsAll_encodeSnapshot (recovered_fits hfits s))
    · exact recovered_recovered s s' snap {}
  · intro stores
    refine ⟨s.recovered snap, ?_, rfl, rfl⟩
    induction stores with
    | nil => rfl
    | cons s' stores ih =>
      rw [List.foldlM_cons, crashAndRecover_recovered hfits]
      exact ih

set_option maxRecDepth 8000 in
/-- Two crashes of a coordinator with one worker and one device. -/
theorem recovery_fixpoint_sample :
    ∃ view, [sampleStore, sampleStore].foldlM crashAndRecover
        (sampleStore.recovered { (sampleStore.run sampleReport).snapshot with accounting := {} })
        = .ok view ∧
      snapshotDigest view = snapshotDigest
        (sampleStore.recovered { (sampleStore.run sampleReport).snapshot with accounting := {} }) := by
  have hdecode : decodeSnapshot (encodeSnapshot (sampleStore.run sampleReport).snapshot)
      = .ok { (sampleStore.run sampleReport).snapshot with accounting := {} } :=
    decode_readsAll (readsAll_encodeSnapshot (by decide))
  obtain ⟨view, hview, -, hdigest⟩ :=
    (recovery_fixpoint _ _ hdecode sampleStore).2 [sampleStore, sampleStore]
  exact ⟨view, hview, hdigest⟩

end FleetStateStore

end GpuFleet
