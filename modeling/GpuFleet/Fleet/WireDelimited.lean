import GpuFleet.Core.Delimited
import GpuFleet.Fleet.Registration
import GpuFleet.Fleet.SnapshotCodec
import GpuFleet.Protocol.AdminPayload
import GpuFleet.Protocol.Codec

/-!
# Truncation and trailing garbage

Every decoder of the repository reads its fields in order and asks for the end
of the buffer last.  The fields are `Local`, so cutting an accepted buffer
anywhere, also inside a counted list or a nested blob, or adding to it gives
one that is rejected.
-/

namespace GpuFleet

open Reading

/-! ## Messages -/

theorem delimited_message : Delimited messageDecoder := by
  unfold messageDecoder
  refine .bind (local_need local_u8) fun _ => .bind (local_reject _) fun _ => ?_
  refine .bind (local_need local_u64) fun _ => .bind (local_need local_u64) fun _ => ?_
  refine .bind (local_need local_u64) fun _ => .bind (local_need local_u64) fun _ => ?_
  refine .bind (local_need local_u64) fun _ => .bind (local_need local_u64) fun _ => ?_
  refine .bind (local_need local_u64) fun _ => .bind (local_need local_u64) fun _ => ?_
  refine .bind (local_need local_u64) fun _ => .bind (local_need local_u64) fun _ => ?_
  refine .bind (local_need local_u64) fun _ => .bind (local_need local_u64) fun _ => ?_
  refine .bind local_needFlag fun _ => .bind (local_needString _) fun _ => ?_
  refine .bind (local_need (local_bytes _)) fun _ => ?_
  exact .last delimited_done

theorem delimited_registration : Delimited registrationDecoder := by
  unfold registrationDecoder
  refine .bind (local_need local_u64) fun _ => .bind (local_need local_u64) fun _ => ?_
  refine .bind (local_need local_u64) fun _ => .bind (local_need local_u32) fun _ => ?_
  refine .bind (local_need local_u32) fun _ => .bind (local_need local_u32) fun _ => ?_
  refine .bind (local_need local_u32) fun _ => .bind (local_needString _) fun _ => ?_
  refine .bind (local_needString _) fun _ => .bind (local_need local_u32) fun _ => ?_
  refine .bind (local_need local_u32) fun _ => .bind (local_need local_u32) fun _ => ?_
  refine .bind (local_reject _) fun _ => .bind (local_times (local_needString _) _) fun _ => ?_
  refine .bind (local_need local_u32) fun _ => .bind (local_reject _) fun _ => ?_
  refine .bind (local_times (local_needString _) _) fun _ => ?_
  refine .bind (local_need local_u64) fun _ => .bind (local_need local_u64) fun _ => ?_
  exact .last delimited_done

theorem delimited_identityTarget : Delimited identityTargetDecoder := by
  unfold identityTargetDecoder
  refine .bind (local_needString _) fun _ => ?_
  exact .last delimited_done

theorem delimited_drainTarget : Delimited drainTargetDecoder := by
  unfold drainTargetDecoder
  refine .bind (local_needString _) fun _ => .bind (local_need local_u8) fun _ => ?_
  refine .bind (local_reject _) fun _ => ?_
  exact .last delimited_done

theorem delimited_quarantine : Delimited quarantineDecoder := by
  unfold quarantineDecoder
  refine .bind (local_needString _) fun _ => .bind (local_needString _) fun _ => ?_
  refine .bind (local_needString _) fun _ => .bind (local_need local_u64) fun _ => ?_
  exact .last delimited_done

/-! ## Observations -/

theorem local_capability : Local capabilityDecoder := by
  unfold capabilityDecoder
  refine .bind (local_need local_u64) fun _ => .bind (local_needString _) fun _ => ?_
  refine .bind (local_need local_u8) fun _ => .bind (local_needString _) fun _ => ?_
  exact .bind (local_needString _) fun _ => .pure _

theorem local_observedIdentity : Local observedIdentityDecoder := by
  unfold observedIdentityDecoder
  refine .bind (local_need local_u8) fun _ => .bind (local_needString _) fun _ => ?_
  refine .bind (local_needString _) fun _ => .bind (local_need local_u32) fun _ => ?_
  refine .bind (local_need local_u16) fun _ => .bind (local_need local_u16) fun _ => ?_
  refine .bind (local_need local_u16) fun _ => .bind (local_needString _) fun _ => ?_
  refine .bind (local_need local_u32) fun _ => .bind (local_need local_u32) fun _ => ?_
  refine .bind (local_need local_u64) fun _ => .bind (local_need local_i64) fun _ => ?_
  refine .bind (local_needString _) fun _ => .bind (local_need local_u32) fun _ => ?_
  refine .bind (local_need local_u32) fun _ => .bind (local_need local_u32) fun _ => ?_
  refine .bind (local_need local_u32) fun _ => .bind (local_need local_u8) fun hasParent => ?_
  dsimp only
  by_cases hparent : hasParent = 0
  · rw [if_pos hparent]
    exact .bind (.pure none) fun _ => .pure _
  · rw [if_neg hparent]
    exact .bind (local_need local_u64) fun _ => .bind (.pure _) fun _ => .pure _

theorem delimited_deviceObservation : Delimited deviceObservationDecoder := by
  unfold deviceObservationDecoder
  refine .bind (local_need local_u64) fun _ => .bind (local_need local_u64) fun _ => ?_
  refine .bind (local_need local_u64) fun _ => .bind (local_need local_i64) fun _ => ?_
  refine .bind (local_need local_u64) fun _ => .bind (local_need local_u64) fun _ => ?_
  refine .bind (local_need local_u64) fun _ => .bind (local_need local_u64) fun _ => ?_
  refine .bind (local_need local_u64) fun _ => .bind (local_need local_u8) fun _ => ?_
  refine .bind (local_needString _) fun _ => .bind (local_need local_u64) fun _ => ?_
  refine .bind (local_need local_u64) fun _ => .bind (local_need local_u64) fun _ => ?_
  refine .bind (local_needOptional local_f64) fun _ => ?_
  refine .bind (local_needOptional local_f64) fun _ => ?_
  refine .bind (local_need local_u32) fun _ => .bind (local_reject _) fun _ => ?_
  refine .bind (local_times local_capability _) fun _ => .bind local_needFlag fun _ => ?_
  refine .bind (local_needString _) fun _ => .bind local_needFlag fun _ => ?_
  refine .bind local_needFlag fun _ => .bind local_needFlag fun _ => ?_
  refine .bind local_needFlag fun _ => .bind local_needFlag fun _ => ?_
  refine .bind local_needFlag fun _ => .bind local_needFlag fun _ => ?_
  refine .bind local_needFlag fun _ => .bind local_needFlag fun _ => ?_
  refine .bind local_needFlag fun _ => .bind local_observedIdentity fun _ => ?_
  exact .last delimited_done

/-- A blob is taken off whole before it is decoded, so its decoder never sees
what comes after it. -/
theorem local_batchItem : Local batchItemDecoder := by
  unfold batchItemDecoder
  refine .bind (local_need local_u32) fun _ => .bind (local_reject _) fun _ => ?_
  exact .bind (local_need (local_raw _)) fun _ => local_needValue _

theorem delimited_observationBatch : Delimited observationBatchDecoder := by
  unfold observationBatchDecoder
  refine .bind (local_need local_u32) fun _ => .bind (local_reject _) fun _ => ?_
  refine .bind (local_times local_batchItem _) fun _ => ?_
  exact .last delimited_done

/-! ## Snapshots -/

theorem local_readIdentity : Local readIdentity := by
  unfold readIdentity
  refine .bind local_u8 fun _ => .bind (local_string _) fun _ => ?_
  refine .bind (local_string _) fun _ => .bind local_u32 fun _ => ?_
  refine .bind local_u16 fun _ => .bind local_u16 fun _ => .bind local_u16 fun _ => ?_
  refine .bind (local_string _) fun _ => .bind local_u32 fun _ => .bind local_u32 fun _ => ?_
  refine .bind local_u64 fun _ => .bind local_i64 fun _ => .bind (local_string _) fun _ => ?_
  refine .bind local_u32 fun _ => .bind local_u32 fun _ => .bind local_u32 fun _ => ?_
  refine .bind local_u32 fun _ => ?_
  exact .bind (local_optional (.bind local_u64 fun _ => .pure _)) fun _ => .pure _

theorem local_readReason : Local readReason := .bind local_u8 fun _ => .pure _

theorem local_readCapability : Local readCapability := by
  unfold readCapability
  refine .bind local_u64 fun _ => .bind (local_string _) fun _ => .bind local_u8 fun _ => ?_
  exact .bind (local_string _) fun _ => .bind (local_string _) fun _ => .pure _

theorem local_readDeviceState : Local readDeviceState := by
  unfold readDeviceState
  refine .bind local_u64 fun _ => .bind local_u64 fun _ => .bind local_readIdentity fun _ => ?_
  refine .bind local_flag fun _ => .bind local_u8 fun _ => .bind (local_string _) fun _ => ?_
  refine .bind local_u8 fun _ => .bind local_u32 fun _ => .bind (local_check _) fun _ => ?_
  refine .bind (local_readReason.times _) fun _ => .bind local_u8 fun _ => ?_
  refine .bind local_flag fun _ => .bind (local_string _) fun _ => ?_
  refine .bind (local_string _) fun _ => .bind local_u64 fun _ => .bind local_i64 fun _ => ?_
  refine .bind local_u64 fun _ => .bind local_u64 fun _ => .bind local_u64 fun _ => ?_
  refine .bind local_u64 fun _ => .bind local_u64 fun _ => ?_
  refine .bind (local_optional local_f64) fun _ => .bind (local_optional local_f64) fun _ => ?_
  refine .bind local_u32 fun _ => .bind (local_check _) fun _ => ?_
  refine .bind (local_readCapability.times _) fun _ => .bind local_flag fun _ => ?_
  refine .bind (local_string _) fun _ => .bind local_i64 fun _ => .bind local_i64 fun _ => ?_
  refine .bind local_i64 fun _ => .bind local_u64 fun _ => .bind local_u64 fun _ => ?_
  exact .bind local_u64 fun _ => .bind local_flag fun _ => .pure _

theorem local_nodeEntry (nodes : Map NodeId NodeRecord) : Local (nodeEntryDecoder nodes) := by
  unfold nodeEntryDecoder nodeDecoder
  refine .bind ?_ fun _ => .pure _
  refine .bind (local_need local_u64) fun _ => .bind (local_need local_u64) fun _ => ?_
  exact .bind (local_need local_i64) fun _ => .pure _

theorem local_worker : Local workerDecoder := by
  unfold workerDecoder
  refine .bind (local_need local_u64) fun _ => .bind (local_need local_u64) fun _ => ?_
  refine .bind (local_need local_u64) fun _ => .bind (local_need local_u64) fun _ => ?_
  refine .bind (local_need local_u64) fun _ => .bind (local_need local_u32) fun _ => ?_
  refine .bind (local_need local_u32) fun _ => .bind (local_need local_u32) fun _ => ?_
  refine .bind (local_need local_u32) fun _ => .bind (local_needString _) fun _ => ?_
  refine .bind (local_needString _) fun _ => .bind (local_need local_u32) fun _ => ?_
  refine .bind (local_reject _) fun _ => .bind (local_times (local_needString _) _) fun _ => ?_
  refine .bind (local_need local_u32) fun _ => .bind (local_reject _) fun _ => ?_
  refine .bind (local_times (local_needString _) _) fun _ => ?_
  refine .bind (local_need local_i64) fun _ => .bind (local_need local_i64) fun _ => ?_
  refine .bind (local_need local_u64) fun _ => .bind local_needFlag fun _ => ?_
  exact .bind local_needFlag fun _ => .bind local_needFlag fun _ => .pure _

theorem local_workerEntry (workers : Map WorkerId WorkerRecord) :
    Local (workerEntryDecoder workers) :=
  .bind local_worker fun _ => .bind (local_reject _) fun _ => .pure _

theorem local_deviceEntry (devices : Map ByteString DeviceState) :
    Local (deviceEntryDecoder devices) := by
  unfold deviceEntryDecoder
  refine .bind (local_needString _) fun _ => .bind (local_need local_readDeviceState) fun _ => ?_
  exact .bind (local_reject _) fun _ => .pure _

theorem local_change : Local changeDecoder := by
  unfold changeDecoder
  refine .bind (local_need local_u8) fun _ => .bind (local_need local_u64) fun _ => ?_
  refine .bind (local_need local_i64) fun _ => .bind (local_need local_u64) fun _ => ?_
  refine .bind (local_need local_u64) fun _ => .bind (local_needString _) fun _ => ?_
  exact .bind (local_needString _) fun _ => .bind (local_needString _) fun _ => .pure _

theorem delimited_snapshot : Delimited snapshotDecoder := by
  unfold snapshotDecoder
  refine .bind (local_need local_u64) fun _ => .bind (local_need local_u64) fun _ => ?_
  refine .bind (local_need local_u64) fun _ => .bind (local_need local_u64) fun _ => ?_
  refine .bind (local_need local_u32) fun _ => .bind (local_reject _) fun _ => ?_
  refine .bind (.fold local_nodeEntry _ _) fun _ => ?_
  refine .bind (local_need local_u32) fun _ => .bind (local_reject _) fun _ => ?_
  refine .bind (.fold local_workerEntry _ _) fun _ => ?_
  refine .bind (local_need local_u32) fun _ => .bind (local_reject _) fun _ => ?_
  refine .bind (.fold local_deviceEntry _ _) fun _ => ?_
  refine .bind (local_need local_u32) fun _ => .bind (local_reject _) fun _ => ?_
  refine .bind (local_times local_change _) fun _ => ?_
  exact .last delimited_done

/-! ## All of them -/

/-- Each of the decoders rejects every proper prefix and every proper extension
of every buffer that it accepts. -/
theorem decoders_selfDelimiting :
    SelfDelimiting decodeMessage ∧ SelfDelimiting decodeRegistration ∧
      SelfDelimiting decodeDeviceObservation ∧ SelfDelimiting decodeObservationBatch ∧
      SelfDelimiting decodeSnapshot ∧ SelfDelimiting decodeDrainTarget ∧
      SelfDelimiting decodeQuarantine ∧ SelfDelimiting decodeIdentityTarget :=
  ⟨selfDelimiting_of_delimited delimited_message,
    selfDelimiting_of_delimited delimited_registration,
    selfDelimiting_of_delimited delimited_deviceObservation,
    selfDelimiting_of_delimited delimited_observationBatch,
    selfDelimiting_of_delimited delimited_snapshot,
    selfDelimiting_of_delimited delimited_drainTarget,
    selfDelimiting_of_delimited delimited_quarantine,
    selfDelimiting_of_delimited delimited_identityTarget⟩

/-- A drain command with its last byte cut off, and one with a byte too many. -/
theorem decoders_selfDelimiting_drainTarget :
    Rejects decodeDrainTarget [0, 0, 0, 1, 65] ∧
      Rejects decodeDrainTarget ([0, 0, 0, 1, 65, 2] ++ [0]) := by
  have haccepted : decodeDrainTarget [0, 0, 0, 1, 65, 2] = .ok ⟨[65], .drained⟩ := by decide
  have hdelimited := decoders_selfDelimiting.2.2.2.2.2.1 _ _ haccepted
  exact ⟨hdelimited.1 [0, 0, 0, 1, 65] [2] (by decide) rfl, hdelimited.2 [0] (by decide)⟩

end GpuFleet
