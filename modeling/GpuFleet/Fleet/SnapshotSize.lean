import GpuFleet.Fleet.ObservationRoundTrip
import GpuFleet.Fleet.SnapshotCodec

/-!
# The size of a snapshot

How many bytes `encode_snapshot` writes, from the lengths of the texts and of
the lists in it.  The bounds of the texts are those of the writer.  Nothing
bounds the sum: it grows with every worker and every device.
-/

namespace GpuFleet

/-! ## Sizes -/

/-- A text that is cut at `maxLen` bytes, behind its length. -/
def textSize (maxLen : Nat) (s : ByteString) : Nat := 4 + min s.length maxLen

/-- An optional value of `n` bytes, behind its presence byte. -/
def optionalSize {α : Type} (n : Nat) (v : Option α) : Nat := 1 + if v.isSome then n else 0

/-- The bytes of a capability. -/
def Capability.wireSize (c : Capability) : Nat :=
  9 + textSize 128 c.name + textSize 256 c.value + textSize 256 c.description

/-- The bytes of an identity. -/
def DeviceIdentity.wireSize (id : DeviceIdentity) : Nat :=
  51 + textSize 128 id.vendorName + textSize 128 id.uuid.value + textSize 64 id.architecture
    + textSize 128 id.driverVersion.text + optionalSize 8 id.parentDevice

/-- The bytes of a device. -/
def DeviceState.wireSize (d : DeviceState) : Nat :=
  135 + d.identity.wireSize + textSize 4096 d.healthExplanation + d.eligibilityReasons.length
    + textSize 512 d.quarantine.reason + textSize 128 d.quarantine.source
    + optionalSize 8 d.temperatureC + optionalSize 8 d.powerW
    + (d.capabilities.map fun c => c.wireSize).sum + textSize 4096 d.validationDetail

/-- The bytes of a worker. -/
def WorkerRecord.wireSize (wr : WorkerRecord) : Nat :=
  91 + textSize 128 wr.osPlatform + textSize 128 wr.driverVersion.text
    + (wr.deviceIdentities.map fun x => textSize 256 x).sum
    + (wr.supportedCapabilities.map fun x => textSize 128 x).sum

/-- The bytes of a change record. -/
def ChangeRecord.wireSize (c : ChangeRecord) : Nat :=
  33 + textSize 512 c.detail + textSize 128 c.fromValue + textSize 128 c.toValue

/-- All the workers of a snapshot. -/
def workersSize (workers : Map WorkerId WorkerRecord) : Nat :=
  (workers.toList.map fun entry => entry.2.wireSize).sum

/-- All the devices of a snapshot, each behind its key. -/
def devicesSize (devices : Map ByteString DeviceState) : Nat :=
  (devices.toList.map fun entry => textSize 256 entry.1 + entry.2.wireSize).sum

/-- The bytes of a snapshot. -/
def StateSnapshot.wireSize (s : StateSnapshot) : Nat :=
  48 + 24 * s.nodes.size + workersSize s.workers + devicesSize s.devices
    + (s.changeLog.map fun c => c.wireSize).sum

/-! ## They are the lengths of the encodings -/

section Lengths

variable {α : Type}

theorem length_string (s : ByteString) (maxLen : Nat) :
    (ByteWriter.string s maxLen).length = textSize maxLen s := by
  rw [ByteWriter.string, List.length_append, length_u32, textSize]
  split
  · rw [List.length_take]
    omega
  · omega

theorem length_optional (item : α → ByteString) {n : Nat} (h : ∀ x, (item x).length = n)
    (v : Option α) : (ByteWriter.optional item v).length = optionalSize n v := by
  cases v with
  | none => rfl
  | some x =>
    rw [ByteWriter.optional, List.length_append, length_flag, h]
    rfl

theorem length_counted (item : α → ByteString) (items : List α) :
    (ByteWriter.counted item items).length = 4 + (items.map fun x => (item x).length).sum := by
  rw [ByteWriter.counted, List.length_append, length_u32, List.length_flatMap]

end Lengths

theorem length_writeCapability (c : Capability) :
    (writeCapability c).length = c.wireSize := by
  unfold writeCapability Capability.wireSize
  simp only [List.length_append, length_u64, length_u8, length_string]
  omega

theorem length_writeIdentity (id : DeviceIdentity) : (writeIdentity id).length = id.wireSize := by
  have hparent := length_optional (fun p : DeviceId => ByteWriter.u64 p.value)
    (fun p => length_u64 p.value) id.parentDevice
  unfold writeIdentity DeviceIdentity.wireSize
  simp only [List.length_append, length_u8, length_u16, length_u32, length_u64, length_i64,
    length_string, hparent]
  omega

theorem length_writeDeviceState (d : DeviceState) : (writeDeviceState d).length = d.wireSize := by
  have hreasons : (d.eligibilityReasons.map fun r => (ByteWriter.u8 r.toByte).length).sum
      = d.eligibilityReasons.length := by
    simp
  have htemperature := length_optional ByteWriter.f64 length_f64 d.temperatureC
  have hpower := length_optional ByteWriter.f64 length_f64 d.powerW
  unfold writeDeviceState DeviceState.wireSize
  simp only [List.length_append, length_string, length_counted, length_writeIdentity,
    length_writeCapability, htemperature, hpower, hreasons]
  simp only [length_u8, length_u64, length_i64, length_flag]
  omega

theorem length_writeNodeEntry (entry : NodeId × NodeRecord) :
    (writeNodeEntry entry).length = 24 := rfl

theorem length_writeWorkerEntry (entry : WorkerId × WorkerRecord) :
    (writeWorkerEntry entry).length = entry.2.wireSize := by
  unfold writeWorkerEntry WorkerRecord.wireSize
  simp only [List.length_append, length_u32, length_u64, length_i64, length_flag, length_string,
    length_counted]
  omega

theorem length_writeDeviceEntry (entry : ByteString × DeviceState) :
    (writeDeviceEntry entry).length = textSize 256 entry.1 + entry.2.wireSize := by
  rw [writeDeviceEntry, List.length_append, length_string, length_writeDeviceState]

theorem length_writeChange (c : ChangeRecord) : (writeChange c).length = c.wireSize := by
  unfold writeChange ChangeRecord.wireSize
  simp only [List.length_append, length_u8, length_u64, length_i64, length_string]

/-- The size is the number of bytes that are written. -/
theorem length_encodeSnapshot (s : StateSnapshot) : (encodeSnapshot s).length = s.wireSize := by
  have hnodes : (s.nodes.toList.map fun entry => (writeNodeEntry entry).length).sum
      = 24 * s.nodes.size := by
    simp only [length_writeNodeEntry, List.map_const', List.sum_replicate_nat,
      Std.ExtTreeMap.length_toList, Nat.mul_comm]
  unfold encodeSnapshot StateSnapshot.wireSize workersSize devicesSize
  simp only [List.length_append, length_u64, length_counted, hnodes, length_writeWorkerEntry,
    length_writeDeviceEntry, length_writeChange]
  omega

/-! ## Growth -/

/-- A worker that is not there yet adds its size. -/
theorem workersSize_insert {workers : Map WorkerId WorkerRecord} {w : WorkerId}
    (h : workers[w]? = none) (wr : WorkerRecord) :
    workersSize (workers.insert w wr) = wr.wireSize + workersSize workers := by
  have hperm := OrderedMap.toList_insert_perm workers w wr
  rw [OrderedMap.others_of_none h] at hperm
  rw [workersSize, (hperm.map _).sum_nat, List.map_cons, List.sum_cons, workersSize]

end GpuFleet
