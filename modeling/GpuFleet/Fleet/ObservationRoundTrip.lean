import GpuFleet.Core.Delimited
import GpuFleet.Fleet.WireBounds

/-!
# Observations read back

A batch is a list of blobs, and the decoder has a limit of 16 MiB for each of
them.  An observation within the bounds of its fields never comes near it:
4096 capabilities of 661 bytes are the most of it.
-/

namespace GpuFleet

open Reading

/-! ## Bounds -/

/-- Every text of the observation is within the bound of its field, and so is
the number of its capabilities. -/
structure DeviceObservation.FitsWire (o : DeviceObservation) : Prop extends o.Fits where
  healthExplanation : o.healthExplanation.length ≤ 4096

/-! ## Sizes -/

section Sizes

variable {α : Type}

theorem length_string_le (s : ByteString) (maxLen : Nat) :
    (ByteWriter.string s maxLen).length ≤ 4 + maxLen := by
  rw [ByteWriter.string, List.length_append, length_u32]
  split
  · rw [List.length_take]
    omega
  · omega

theorem length_optional_le (item : α → ByteString) {n : Nat} (v : Option α)
    (h : ∀ x, (item x).length ≤ n) : (ByteWriter.optional item v).length ≤ 1 + n := by
  cases v with
  | none =>
    rw [ByteWriter.optional, length_flag]
    omega
  | some x =>
    have hx := h x
    rw [ByteWriter.optional, List.length_append, length_flag]
    omega

theorem length_flatMap_le {item : α → ByteString} {n : Nat} {items : List α}
    (h : ∀ x ∈ items, (item x).length ≤ n) : (items.flatMap item).length ≤ n * items.length := by
  induction items with
  | nil => simp
  | cons x items ih =>
    have hx := h x List.mem_cons_self
    have hrest := ih fun y hy => h y (List.mem_cons_of_mem x hy)
    rw [List.flatMap_cons, List.length_append, List.length_cons, Nat.mul_succ]
    omega

end Sizes

theorem length_writeCapability_le (c : Capability) : (writeCapability c).length ≤ 661 := by
  have hname := length_string_le c.name 128
  have hvalue := length_string_le c.value 256
  have hdescription := length_string_le c.description 256
  simp only [writeCapability, List.length_append, length_u64, length_u8]
  omega

theorem length_writeIdentity_le (id : DeviceIdentity) : (writeIdentity id).length ≤ 534 := by
  have hvendor := length_string_le id.vendorName 128
  have huuid := length_string_le id.uuid.value 128
  have harchitecture := length_string_le id.architecture 64
  have hdriver := length_string_le id.driverVersion.text 128
  have hparent := length_optional_le (fun p : DeviceId => ByteWriter.u64 p.value) id.parentDevice
    fun p => Nat.le_of_eq (length_u64 p.value)
  unfold writeIdentity
  simp only [List.length_append, length_u8, length_u16, length_u32, length_u64, length_i64]
  omega

theorem length_encodeDeviceObservation_le (o : DeviceObservation) :
    (encodeDeviceObservation o).length ≤ 8864 + 661 * o.capabilities.length := by
  have hexplanation := length_string_le o.healthExplanation 4096
  have hdetail := length_string_le o.validationDetail 4096
  have htemperature := length_optional_le ByteWriter.f64 o.temperatureC
    fun v => Nat.le_of_eq (length_f64 v)
  have hpower := length_optional_le ByteWriter.f64 o.powerW
    fun v => Nat.le_of_eq (length_f64 v)
  have hcapabilities : (o.capabilities.flatMap writeCapability).length
      ≤ 661 * o.capabilities.length := length_flatMap_le fun c _ => length_writeCapability_le c
  have hidentity := length_writeIdentity_le o.identity
  unfold encodeDeviceObservation
  simp only [ByteWriter.counted, List.length_append, length_u8, length_u32, length_u64,
    length_i64, length_flag]
  omega

/-- The largest blob is far below the limit of the batch decoder. -/
theorem length_blob_le {o : DeviceObservation} (h : o.capabilities.length ≤ 4096) :
    (encodeDeviceObservation o).length ≤ 16 * 1024 * 1024 := by
  have hsize := length_encodeDeviceObservation_le o
  omega

/-! ## One observation -/

theorem reads_capability {c : Capability} (h : c.Fits) :
    Reads capabilityDecoder (writeCapability c) c := by
  unfold capabilityDecoder writeCapability
  simp only [List.append_assoc]
  refine .bind (reads_need (reads_u64 _)) ?_
  refine .bind (reads_needString h.name) ?_
  refine .bind (reads_need (reads_u8 _)) ?_
  refine .bind (reads_needString h.value) ?_
  refine .last (reads_needString h.description) ?_
  rw [CapabilityKind.ofByte_toByte]

theorem reads_observedIdentity {id : DeviceIdentity} (h : id.Fits) :
    Reads observedIdentityDecoder (writeIdentity id) id := by
  unfold observedIdentityDecoder writeIdentity
  simp only [List.append_assoc]
  refine .bind (reads_need (reads_u8 _)) ?_
  refine .bind (reads_needString h.vendorName) ?_
  refine .bind (reads_needString h.uuid) ?_
  refine .bind (reads_need (reads_u32 _)) ?_
  refine .bind (reads_need (reads_u16 _)) ?_
  refine .bind (reads_need (reads_u16 _)) ?_
  refine .bind (reads_need (reads_u16 _)) ?_
  refine .bind (reads_needString h.architecture) ?_
  refine .bind (reads_need (reads_u32 _)) ?_
  refine .bind (reads_need (reads_u32 _)) ?_
  refine .bind (reads_need (reads_u64 _)) ?_
  refine .bind (reads_need (reads_i64 _)) ?_
  refine .bind (reads_needString h.driverVersion) ?_
  refine .bind (reads_need (reads_u32 _)) ?_
  refine .bind (reads_need (reads_u32 _)) ?_
  refine .bind (reads_need (reads_u32 _)) ?_
  refine .bind (reads_need (reads_u32 _)) ?_
  cases hparent : id.parentDevice with
  | none =>
    rw [ByteWriter.optional, ← List.append_nil (ByteWriter.flag false)]
    refine .bind (reads_need (reads_u8 _)) ?_
    refine .last (.pure none) ?_
    simp only [AcceleratorVendor.ofByte_toByte, Int32.toInt32_toInt64, ← hparent]
  | some parent =>
    rw [ByteWriter.optional]
    refine .bind (reads_need (reads_u8 _)) ?_
    rw [← List.append_nil (ByteWriter.u64 parent.value)]
    refine .bind (reads_need (reads_u64 _)) ?_
    refine .last (.pure _) ?_
    simp only [AcceleratorVendor.ofByte_toByte, Int32.toInt32_toInt64, ← hparent]

theorem readsAll_encodeDeviceObservation {o : DeviceObservation} (h : o.FitsWire) :
    ReadsAll deviceObservationDecoder (encodeDeviceObservation o) o := by
  unfold deviceObservationDecoder encodeDeviceObservation ByteWriter.counted
  simp only [List.append_assoc, times_eq]
  refine .bind (reads_need (reads_u64 _)) ?_
  refine .bind (reads_need (reads_u64 _)) ?_
  refine .bind (reads_need (reads_u64 _)) ?_
  refine .bind (reads_need (reads_i64 _)) ?_
  refine .bind (reads_need (reads_u64 _)) ?_
  refine .bind (reads_need (reads_u64 _)) ?_
  refine .bind (reads_need (reads_u64 _)) ?_
  refine .bind (reads_need (reads_u64 _)) ?_
  refine .bind (reads_need (reads_u64 _)) ?_
  refine .bind (reads_need (reads_u8 _)) ?_
  refine .bind (reads_needString h.healthExplanation) ?_
  refine .bind (reads_need (reads_u64 _)) ?_
  refine .bind (reads_need (reads_u64 _)) ?_
  refine .bind (reads_need (reads_u64 _)) ?_
  refine .bind (reads_needOptional _ reads_f64) ?_
  refine .bind (reads_needOptional _ reads_f64) ?_
  refine .bind (reads_need (reads_u32 _)) ?_
  refine .skip (reads_reject (count_accepted h.capabilityCount)) ?_
  rw [toNat_count h.capabilityCount]
  refine .bind (.times fun c hc => reads_capability (h.capabilities c hc)) ?_
  refine .bind (reads_needFlag _) ?_
  refine .bind (reads_needString h.validationDetail) ?_
  refine .bind (reads_needFlag _) ?_
  refine .bind (reads_needFlag _) ?_
  refine .bind (reads_needFlag _) ?_
  refine .bind (reads_needFlag _) ?_
  refine .bind (reads_needFlag _) ?_
  refine .bind (reads_needFlag _) ?_
  refine .bind (reads_needFlag _) ?_
  refine .bind (reads_needFlag _) ?_
  refine .bind (reads_needFlag _) ?_
  refine .bind (reads_needFlag _) ?_
  rw [← List.append_nil (writeIdentity o.identity)]
  refine .bind (reads_observedIdentity h.identity) ?_
  refine .last readsAll_done ?_
  rw [HealthState.ofByte_toByte]

/-! ## A batch -/

theorem reads_batchItem {o : DeviceObservation} (h : o.FitsWire) :
    Reads batchItemDecoder (ByteWriter.bytes (encodeDeviceObservation o)) o := by
  have hsize := length_blob_le h.capabilityCount
  have hlimit : (16 * 1024 * 1024 : UInt32) = UInt32.ofNat (16 * 1024 * 1024) := by decide +kernel
  have hdecode : decodeDeviceObservation (encodeDeviceObservation o) = .ok o :=
    decode_readsAll (readsAll_encodeDeviceObservation h)
  unfold batchItemDecoder ByteWriter.bytes
  rw [hlimit]
  generalize encodeDeviceObservation o = blob at hsize hdecode
  refine .bind (reads_need (reads_u32 _)) ?_
  refine .skip (reads_reject (count_accepted hsize)) ?_
  rw [toNat_count hsize]
  have hblob : Reads (Decoder.need (fun r => (ByteReader.raw blob.length r).toOption) .truncated
      "obs blob truncated") blob blob := reads_need (reads_raw rfl)
  intro rest
  rw [StateT.run_bind, hblob rest, pure_bind]
  exact reads_needValue hdecode rest

theorem readsAll_encodeObservationBatch {obs : List DeviceObservation}
    (hcount : obs.length ≤ 4096) (h : ∀ o ∈ obs, o.FitsWire) :
    ReadsAll observationBatchDecoder (encodeObservationBatch obs) obs := by
  unfold observationBatchDecoder encodeObservationBatch ByteWriter.counted
  simp only [times_eq]
  refine .bind (reads_need (reads_u32 _)) ?_
  refine .skip (reads_reject (count_accepted hcount)) ?_
  rw [toNat_count hcount,
    ← List.append_nil (obs.flatMap fun o => ByteWriter.bytes (encodeDeviceObservation o))]
  refine .bind (.times fun o ho => reads_batchItem (h o ho)) ?_
  exact .last readsAll_done rfl

/-- A batch within the bounds is decoded to what was encoded, and no blob of it
meets the limit. -/
theorem decode_encodeObservationBatch (obs : List DeviceObservation)
    (hcount : obs.length ≤ 4096) (h : ∀ o ∈ obs, o.FitsWire) :
    decodeObservationBatch (encodeObservationBatch obs) = .ok obs ∧
      ∀ o ∈ obs, (encodeDeviceObservation o).length ≤ 16 * 1024 * 1024 :=
  ⟨decode_readsAll (readsAll_encodeObservationBatch hcount h),
    fun o ho => length_blob_le (h o ho).capabilityCount⟩

/-- An observation with a capability and a temperature, on a node with a
negative number. -/
def sampleWireObservation : DeviceObservation :=
  { deviceId := ⟨3⟩
    identity := { uuid := ⟨[71, 80, 85]⟩, numaNode := -1, parentDevice := some ⟨9⟩ }
    temperatureC := some 4632233691727265792
    capabilities := [{ id := ⟨1⟩, name := [99] }] }

/-- A batch of two such observations. -/
theorem decode_encodeObservationBatch_sample :
    decodeObservationBatch (encodeObservationBatch [sampleWireObservation, {}])
      = .ok [sampleWireObservation, {}] := by
  refine (decode_encodeObservationBatch _ (by decide) fun o ho => ?_).1
  rcases List.mem_pair.mp ho with rfl | rfl
  · exact ⟨⟨by decide, by decide, by decide, by decide⟩, by decide⟩
  · exact ⟨⟨by decide, by decide, by decide, by decide⟩, by decide⟩

end GpuFleet
