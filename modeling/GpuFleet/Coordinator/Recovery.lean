import GpuFleet.Coordinator.Calls
import GpuFleet.Fleet.Bounds

/-!
# Whether the coordinator could recover its state

A state file holds `encode_snapshot` of the store, and a restart reads it with
`decode_snapshot`.  Every step of the coordinator is a call of the store with
arguments that came out of a decoder, so the store is `Bounded` in every
reachable state (`run_bounded`), and whether its snapshot comes back is decided
by the sizes that the store does not bound (`recovers_iff`).
-/

namespace GpuFleet

namespace Coordinator

open FleetStateStore

/-- A recovery is from a snapshot that `decode_snapshot` accepted. -/
def Event.Decoded : Event → Prop
  | .recover snap => ∃ data, decodeSnapshot data = .ok snap
  | _ => True

/-! ## Arguments off the wire -/

theorem callOf_fits {c : Coordinator} {now : Timestamp} {msg : Message} {op : Op}
    (h : c.callOf now msg = some op) : op.Fits := by
  unfold callOf at h
  split at h
  · cases hreg : decodeRegistration msg.payload with
    | error err =>
      rw [hreg] at h
      cases h
    | ok reg =>
      rw [hreg] at h
      cases h
      exact decode_ensures ensures_registration hreg
  · split at h
    · cases h
      trivial
    · cases h
  iterate 3
    cases hobs : decodeObservationBatch msg.payload with
    | error err =>
      rw [hobs] at h
      cases h
    | ok obs =>
      rw [hobs] at h
      cases h
      exact decode_ensures ensures_observationBatch hobs
  iterate 2
    split at h
    · cases h
    · cases h
      trivial
  · cases hq : decodeQuarantine msg.payload with
    | error err =>
      rw [hq] at h
      cases h
    | ok q =>
      rw [hq] at h
      cases h
      have hfits : q.Fits := decode_ensures ensures_quarantine hq
      exact ⟨hfits.reason, hfits.source⟩
  · split at h
    · cases h
    · cases h
      trivial
  · cases h
    trivial
  · cases h

theorem call_fits {c : Coordinator} {e : Event} (he : e.Decoded) {op : Op}
    (h : c.call e = some op) : op.Fits := by
  cases e with
  | message now io msg => exact callOf_fits h
  | workerLost w now =>
    cases h
    trivial
  | recover snap =>
    cases h
    obtain ⟨data, hdata⟩ := he
    exact decode_ensures ensures_snapshot hdata

/-! ## Runs -/

theorem step_bounded {c : Coordinator} (h : c.store.Bounded) {e : Event} (he : e.Decoded) :
    (c.step e).store.Bounded := by
  rw [step_store]
  cases hcall : c.call e with
  | none => exact h
  | some op => exact h.step (call_fits he hcall)

theorem run_bounded (opts : Options) (disk : Disk) (events : List Event)
    (hevents : ∀ e ∈ events, e.Decoded) : ((create opts disk).run events).store.Bounded := by
  induction events using List.reverseRecOn with
  | nil => exact bounded_empty _ _
  | append_singleton events e ih =>
    rw [run, Run.run_concat]
    rw [List.forall_mem_append, List.forall_mem_singleton] at hevents
    exact step_bounded (ih hevents.1) hevents.2

/-- In every reachable state of the coordinator, the snapshot of the store
comes back from its encoding exactly when the sizes that the store does not
bound are within the format. -/
theorem recovers_iff (opts : Options) (disk : Disk) (events : List Event)
    (hevents : ∀ e ∈ events, e.Decoded) :
    ((create opts disk).run events).store.snapshot.Recovers ↔
      ((create opts disk).run events).store.Recoverable := by
  rw [StateSnapshot.recovers_iff_fits]
  exact (run_bounded opts disk events hevents).snapshot_fits_iff

/-- The session of one worker with one device can be recovered. -/
theorem sampleSession_recovers :
    ((create {} (fun _ => none)).run sampleSession).store.snapshot.Recovers := by
  refine (recovers_iff {} (fun _ => none) sampleSession ?_).mpr ?_
  · intro e he
    simp only [sampleSession, List.mem_cons, List.not_mem_nil, or_false] at he
    rcases he with rfl | rfl <;> trivial
  · decide +kernel

/-- A worker registers and reports a device with one capability that has a
value of 128 bytes. -/
def sampleVerboseSession : List Event :=
  [.message 1000 {} { type := .register, payload := encodeRegistration (sampleRegistration 1 10 1) },
    .message 5000 {}
      { type := .deviceSnapshot
        epoch := ⟨1⟩
        workerBoot := ⟨10⟩
        worker := ⟨1⟩
        payload := encodeObservationBatch [{ sampleObservation 1 10 1 with
          capabilities := [{ name := text "features", value := List.replicate 128 65 }] }] }]

theorem toValue_le_of_recovers {s : FleetStateStore} (h : s.snapshot.Recovers) :
    ∀ c ∈ s.changeLog, c.toValue.length ≤ 128 := by
  intro c hc
  rw [StateSnapshot.recovers_iff_fits] at h
  exact (h.changes c hc).toValue

/-- The change record about the capability holds its name and its value, which
is more than the format has room for. -/
theorem sampleVerboseSession_not_recovers :
    ¬((create {} (fun _ => none)).run sampleVerboseSession).store.snapshot.Recovers := by
  intro h
  have hshort := toValue_le_of_recovers h
  revert hshort
  decide +kernel

end Coordinator

end GpuFleet
