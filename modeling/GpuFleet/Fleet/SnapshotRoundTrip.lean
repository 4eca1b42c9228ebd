import GpuFleet.Core.RoundTrip
import GpuFleet.Fleet.Operations
import GpuFleet.Fleet.SnapshotCodec
import GpuFleet.Lib.OrderedMap
import Mathlib.Tactic.MkIffOfInductiveProp

/-!
# The snapshot format read back

The two halves of `fleet/snapshot_codec.hpp` are written by hand, one field
after the other.  `Fits` collects what they need to agree on a value: every
text within the bound of its field, every count within the limit of the
decoder, and in the maps of nodes and workers the id of a record as its key.
There is one `Reads` lemma for each record, and `decode_encodeSnapshot` puts
them together.
-/

namespace GpuFleet

open Reading

/-! ## Bounds -/

/-- The texts of an identity are within the bounds of its encoding. -/
@[mk_iff]
structure DeviceIdentity.Fits (id : DeviceIdentity) : Prop where
  vendorName : id.vendorName.length ≤ 128
  uuid : id.uuid.value.length ≤ 128
  architecture : id.architecture.length ≤ 64
  driverVersion : id.driverVersion.text.length ≤ 128

instance (id : DeviceIdentity) : Decidable id.Fits :=
  decidable_of_iff' _ (DeviceIdentity.fits_iff id)

/-- The texts of a capability are within the bounds of its encoding. -/
@[mk_iff]
structure Capability.Fits (c : Capability) : Prop where
  name : c.name.length ≤ 128
  value : c.value.length ≤ 256
  description : c.description.length ≤ 256

instance (c : Capability) : Decidable c.Fits :=
  decidable_of_iff' _ (Capability.fits_iff c)

/-- The texts and lists of a device are within the bounds of its encoding. -/
@[mk_iff]
structure DeviceState.Fits (d : DeviceState) : Prop where
  identity : d.identity.Fits
  healthExplanation : d.healthExplanation.length ≤ 4096
  eligibilityReasons : d.eligibilityReasons.length ≤ 32
  reason : d.quarantine.reason.length ≤ 512
  source : d.quarantine.source.length ≤ 128
  capabilityCount : d.capabilities.length ≤ 4096
  capabilities : ∀ c ∈ d.capabilities, c.Fits
  validationDetail : d.validationDetail.length ≤ 4096

instance (d : DeviceState) : Decidable d.Fits :=
  decidable_of_iff' _ (DeviceState.fits_iff d)

/-- The texts and lists of a worker are within the bounds of its encoding. -/
@[mk_iff]
structure WorkerRecord.Fits (wr : WorkerRecord) : Prop where
  osPlatform : wr.osPlatform.length ≤ 128
  driverVersion : wr.driverVersion.text.length ≤ 128
  identityCount : wr.deviceIdentities.length ≤ 4096
  identities : ∀ x ∈ wr.deviceIdentities, x.length ≤ 256
  capabilityCount : wr.supportedCapabilities.length ≤ 4096
  capabilities : ∀ x ∈ wr.supportedCapabilities, x.length ≤ 128

instance (wr : WorkerRecord) : Decidable wr.Fits :=
  decidable_of_iff' _ (WorkerRecord.fits_iff wr)

/-- The texts of a change record are within the bounds of its encoding. -/
@[mk_iff]
structure ChangeRecord.Fits (c : ChangeRecord) : Prop where
  detail : c.detail.length ≤ 512
  fromValue : c.fromValue.length ≤ 128
  toValue : c.toValue.length ≤ 128

instance (c : ChangeRecord) : Decidable c.Fits :=
  decidable_of_iff' _ (ChangeRecord.fits_iff c)

/-- A snapshot is within the bounds of `encode_snapshot` and `decode_snapshot`. -/
@[mk_iff]
structure StateSnapshot.Fits (s : StateSnapshot) : Prop where
  nodeCount : s.nodes.size ≤ 100000
  nodeKeys : ∀ e ∈ s.nodes.toList, e.2.node = e.1
  workerCount : s.workers.size ≤ 100000
  workerKeys : ∀ e ∈ s.workers.toList, e.2.worker = e.1
  workers : ∀ e ∈ s.workers.toList, e.2.Fits
  deviceCount : s.devices.size ≤ 100000
  deviceKeys : ∀ e ∈ s.devices.toList, e.1.length ≤ 256
  devices : ∀ e ∈ s.devices.toList, e.2.Fits
  changeCount : s.changeLog.length ≤ 200000
  changes : ∀ c ∈ s.changeLog, c.Fits

instance (s : StateSnapshot) : Decidable s.Fits :=
  decidable_of_iff' _ (StateSnapshot.fits_iff s)

/-! ## Counts -/

theorem toNat_count {n limit : Nat} (h : n ≤ limit) (hlimit : limit < 2 ^ 32 := by decide) :
    (UInt32.ofNat n).toNat = n :=
  UInt32.toNat_ofNat_of_lt' (lt_of_le_of_lt h hlimit)

/-- A count within the limit passes the check of the decoder. -/
theorem count_accepted {n limit : Nat} (h : n ≤ limit) (hlimit : limit < 2 ^ 32 := by decide) :
    decide (UInt32.ofNat n > UInt32.ofNat limit) = false := by
  rw [decide_eq_false_iff_not, gt_iff_lt, UInt32.lt_iff_toNat_lt, toNat_count h hlimit,
    toNat_count (Nat.le_refl limit) hlimit]
  exact Nat.not_lt.mpr h

/-! ## Records -/

theorem reads_writeIdentity {id : DeviceIdentity} (h : id.Fits) :
    Reads readIdentity (writeIdentity id) id := by
  unfold readIdentity writeIdentity
  simp only [List.append_assoc]
  refine .bind (reads_u8 _) ?_
  refine .bind (reads_string h.vendorName) ?_
  refine .bind (reads_string h.uuid) ?_
  refine .bind (reads_u32 _) ?_
  refine .bind (reads_u16 _) ?_
  refine .bind (reads_u16 _) ?_
  refine .bind (reads_u16 _) ?_
  refine .bind (reads_string h.architecture) ?_
  refine .bind (reads_u32 _) ?_
  refine .bind (reads_u32 _) ?_
  refine .bind (reads_u64 _) ?_
  refine .bind (reads_i64 _) ?_
  refine .bind (reads_string h.driverVersion) ?_
  refine .bind (reads_u32 _) ?_
  refine .bind (reads_u32 _) ?_
  refine .bind (reads_u32 _) ?_
  refine .bind (reads_u32 _) ?_
  refine .last (reads_optional _ fun parent => .last (reads_u64 parent.value) rfl) ?_
  simp only [AcceleratorVendor.ofByte_toByte, Int32.toInt32_toInt64]

theorem reads_reason (r : EligibilityReason) :
    Reads readReason (ByteWriter.u8 r.toByte) r :=
  .last (reads_u8 _) r.ofByte_toByte

theorem reads_writeCapability {c : Capability} (h : c.Fits) :
    Reads readCapability (writeCapability c) c := by
  unfold readCapability writeCapability
  simp only [List.append_assoc]
  refine .bind (reads_u64 _) ?_
  refine .bind (reads_string h.name) ?_
  refine .bind (reads_u8 _) ?_
  refine .bind (reads_string h.value) ?_
  refine .last (reads_string h.description) ?_
  rw [CapabilityKind.ofByte_toByte]

theorem reads_writeDeviceState {d : DeviceState} (h : d.Fits) :
    Reads readDeviceState (writeDeviceState d) d := by
  unfold readDeviceState writeDeviceState ByteWriter.counted
  simp only [List.append_assoc]
  refine .bind (reads_u64 _) ?_
  refine .bind (reads_u64 _) ?_
  refine .bind (reads_writeIdentity h.identity) ?_
  refine .bind (reads_flag _) ?_
  refine .bind (reads_u8 _) ?_
  refine .bind (reads_string h.healthExplanation) ?_
  refine .bind (reads_u8 _) ?_
  refine .bind (reads_u32 _) ?_
  refine .skip (reads_check (count_accepted h.eligibilityReasons)) ?_
  rw [toNat_count h.eligibilityReasons]
  refine .bind (.times fun r _ => reads_reason r) ?_
  refine .bind (reads_u8 _) ?_
  refine .bind (reads_flag _) ?_
  refine .bind (reads_string h.reason) ?_
  refine .bind (reads_string h.source) ?_
  refine .bind (reads_u64 _) ?_
  refine .bind (reads_i64 _) ?_
  refine .bind (reads_u64 _) ?_
  refine .bind (reads_u64 _) ?_
  refine .bind (reads_u64 _) ?_
  refine .bind (reads_u64 _) ?_
  refine .bind (reads_u64 _) ?_
  refine .bind (reads_optional _ reads_f64) ?_
  refine .bind (reads_optional _ reads_f64) ?_
  refine .bind (reads_u32 _) ?_
  refine .skip (reads_check (count_accepted h.capabilityCount)) ?_
  rw [toNat_count h.capabilityCount]
  refine .bind (.times fun c hc => reads_writeCapability (h.capabilities c hc)) ?_
  refine .bind (reads_flag _) ?_
  refine .bind (reads_string h.validationDetail) ?_
  refine .bind (reads_i64 _) ?_
  refine .bind (reads_i64 _) ?_
  refine .bind (reads_i64 _) ?_
  refine .bind (reads_u64 _) ?_
  refine .bind (reads_u64 _) ?_
  refine .bind (reads_u64 _) ?_
  refine .last (reads_flag _) ?_
  simp only [HealthState.ofByte_toByte, EligibilityState.ofByte_toByte, DrainState.ofByte_toByte]

theorem reads_writeNodeEntry {e : NodeId × NodeRecord} (h : e.2.node = e.1) :
    Reads nodeDecoder (writeNodeEntry e) e.2 := by
  unfold nodeDecoder writeNodeEntry
  simp only [List.append_assoc]
  refine .bind (reads_need (reads_u64 _)) ?_
  refine .bind (reads_need (reads_u64 _)) ?_
  refine .last (reads_need (reads_i64 _)) ?_
  rw [← h]

theorem reads_writeWorkerEntry {e : WorkerId × WorkerRecord} (hkey : e.2.worker = e.1)
    (h : e.2.Fits) : Reads workerDecoder (writeWorkerEntry e) e.2 := by
  unfold workerDecoder writeWorkerEntry ByteWriter.counted
  simp only [List.append_assoc, times_eq]
  refine .bind (reads_need (reads_u64 _)) ?_
  refine .bind (reads_need (reads_u64 _)) ?_
  refine .bind (reads_need (reads_u64 _)) ?_
  refine .bind (reads_need (reads_u64 _)) ?_
  refine .bind (reads_need (reads_u64 _)) ?_
  refine .bind (reads_need (reads_u32 _)) ?_
  refine .bind (reads_need (reads_u32 _)) ?_
  refine .bind (reads_need (reads_u32 _)) ?_
  refine .bind (reads_need (reads_u32 _)) ?_
  refine .bind (reads_needString h.osPlatform) ?_
  refine .bind (reads_needString h.driverVersion) ?_
  refine .bind (reads_need (reads_u32 _)) ?_
  refine .skip (reads_reject (count_accepted h.identityCount)) ?_
  rw [toNat_count h.identityCount]
  refine .bind (.times fun x hx => reads_needString (h.identities x hx)) ?_
  refine .bind (reads_need (reads_u32 _)) ?_
  refine .skip (reads_reject (count_accepted h.capabilityCount)) ?_
  rw [toNat_count h.capabilityCount]
  refine .bind (.times fun x hx => reads_needString (h.capabilities x hx)) ?_
  refine .bind (reads_need (reads_i64 _)) ?_
  refine .bind (reads_need (reads_i64 _)) ?_
  refine .bind (reads_need (reads_u64 _)) ?_
  refine .bind (reads_needFlag _) ?_
  refine .bind (reads_needFlag _) ?_
  refine .last (reads_needFlag _) ?_
  rw [← hkey]

theorem reads_writeChange {c : ChangeRecord} (h : c.Fits) :
    Reads changeDecoder (writeChange c) c := by
  unfold changeDecoder writeChange
  simp only [List.append_assoc]
  refine .bind (reads_need (reads_u8 _)) ?_
  refine .bind (reads_need (reads_u64 _)) ?_
  refine .bind (reads_need (reads_i64 _)) ?_
  refine .bind (reads_need (reads_u64 _)) ?_
  refine .bind (reads_need (reads_u64 _)) ?_
  refine .bind (reads_needString h.detail) ?_
  refine .bind (reads_needString h.fromValue) ?_
  refine .last (reads_needString h.toValue) ?_
  rw [ChangeKind.ofByte_toByte]

/-! ## Maps -/

/-- A loop over the entries of a map puts the map together again when its body
puts each entry into a map that does not have it yet. -/
theorem reads_entries {κ ν : Type} [Ord κ] [Std.TransOrd κ] [Std.LawfulEqOrd κ] [DecidableEq κ]
    {body : Map κ ν → Decoder (Map κ ν)} {write : κ × ν → ByteString} (m : Map κ ν)
    (h : ∀ acc e, e ∈ m.toList → acc[e.1]? = none →
      Reads (body acc) (write e) (acc.insert e.1 e.2)) :
    Reads (fold body m.toList.length ∅) (m.toList.flatMap write) m := by
  have hread : Reads (fold body m.toList.length ∅) (m.toList.flatMap write)
      (m.toList.foldl (fun acc e => acc.insert e.1 e.2) ∅) := by
    apply Reads.fold
    intro before e after hsplit
    apply h
    · rw [hsplit]
      simp
    · exact OrderedMap.getElem?_foldl_insert_before hsplit
  rwa [OrderedMap.foldl_insert_toList] at hread

theorem reads_nodes {nodes : Map NodeId NodeRecord}
    (hkeys : ∀ e ∈ nodes.toList, e.2.node = e.1) :
    Reads (fold nodeEntryDecoder nodes.toList.length ∅) (nodes.toList.flatMap writeNodeEntry)
      nodes := by
  apply reads_entries
  intro acc e he hnew
  refine .last (reads_writeNodeEntry (hkeys e he)) ?_
  rw [hkeys e he]
  exact OrderedMap.insertIfNew_eq_insert hnew e.2

theorem reads_workers {workers : Map WorkerId WorkerRecord}
    (hkeys : ∀ e ∈ workers.toList, e.2.worker = e.1)
    (hfits : ∀ e ∈ workers.toList, e.2.Fits) :
    Reads (fold workerEntryDecoder workers.toList.length ∅)
      (workers.toList.flatMap writeWorkerEntry) workers := by
  apply reads_entries
  intro acc e he hnew
  rw [← List.append_nil (writeWorkerEntry e)]
  refine .bind (reads_writeWorkerEntry (hkeys e he) (hfits e he)) ?_
  rw [hkeys e he]
  refine .last (reads_reject (OrderedMap.contains_eq_false hnew)) rfl

theorem reads_devices {devices : Map ByteString DeviceState}
    (hkeys : ∀ e ∈ devices.toList, e.1.length ≤ 256)
    (hfits : ∀ e ∈ devices.toList, e.2.Fits) :
    Reads (fold deviceEntryDecoder devices.toList.length ∅)
      (devices.toList.flatMap writeDeviceEntry) devices := by
  apply reads_entries
  intro acc e he hnew
  unfold writeDeviceEntry
  refine .bind (reads_needString (hkeys e he)) ?_
  rw [← List.append_nil (writeDeviceState e.2)]
  refine .bind (reads_need (reads_writeDeviceState (hfits e he))) ?_
  refine .last (reads_reject (OrderedMap.contains_eq_false hnew)) rfl

/-! ## The snapshot -/

theorem readsAll_encodeSnapshot {s : StateSnapshot} (h : s.Fits) :
    ReadsAll snapshotDecoder (encodeSnapshot s) { s with accounting := {} } := by
  have hnodes : s.nodes.toList.length ≤ 100000 := by
    rw [Std.ExtTreeMap.length_toList]
    exact h.nodeCount
  have hworkers : s.workers.toList.length ≤ 100000 := by
    rw [Std.ExtTreeMap.length_toList]
    exact h.workerCount
  have hdevices : s.devices.toList.length ≤ 100000 := by
    rw [Std.ExtTreeMap.length_toList]
    exact h.deviceCount
  unfold snapshotDecoder encodeSnapshot ByteWriter.counted
  simp only [List.append_assoc, times_eq]
  refine .bind (reads_need (reads_u64 _)) ?_
  refine .bind (reads_need (reads_u64 _)) ?_
  refine .bind (reads_need (reads_u64 _)) ?_
  refine .bind (reads_need (reads_u64 _)) ?_
  refine .bind (reads_need (reads_u32 _)) ?_
  refine .skip (reads_reject (count_accepted hnodes)) ?_
  rw [toNat_count hnodes]
  refine .bind (reads_nodes h.nodeKeys) ?_
  refine .bind (reads_need (reads_u32 _)) ?_
  refine .skip (reads_reject (count_accepted hworkers)) ?_
  rw [toNat_count hworkers]
  refine .bind (reads_workers h.workerKeys h.workers) ?_
  refine .bind (reads_need (reads_u32 _)) ?_
  refine .skip (reads_reject (count_accepted hdevices)) ?_
  rw [toNat_count hdevices]
  refine .bind (reads_devices h.deviceKeys h.devices) ?_
  refine .bind (reads_need (reads_u32 _)) ?_
  refine .skip (reads_reject (count_accepted h.changeCount)) ?_
  rw [toNat_count h.changeCount, ← List.append_nil (s.changeLog.flatMap writeChange)]
  refine .bind (.times fun c hc => reads_writeChange (h.changes c hc)) ?_
  exact .last readsAll_done rfl

/-- A snapshot within the bounds of the format is decoded to what was encoded,
in every field but the accounting, which is reset. -/
theorem decode_encodeSnapshot (s : StateSnapshot) (h : s.Fits) :
    decodeSnapshot (encodeSnapshot s) = .ok { s with accounting := {} } :=
  decode_readsAll (readsAll_encodeSnapshot h)

set_option maxRecDepth 8000 in
/-- The snapshot of a store with one worker and one device. -/
theorem decode_encodeSnapshot_sample :
    decodeSnapshot (encodeSnapshot (sampleStore.run sampleReport).snapshot)
      = .ok { (sampleStore.run sampleReport).snapshot with accounting := {} } := by
  apply decode_encodeSnapshot
  decide

end GpuFleet
