import GpuFleet.Lib.ShiftRegister
import GpuFleet.Persistence.Load

/-!
# Corruption that a load notices

The loop of `crc32` is a shift register of 32 bits that takes in a byte at a
time.  So its checksum changes with any burst of at most four bytes
(`crc32_ne`), and a file with such a burst in front of its checksum does not
load.  A burst in the checksum itself leaves the bytes that it is compared
with as they were.
-/

namespace GpuFleet

open ShiftRegister (DifferWithin)

/-! ## The checksum as a shift register -/

theorem toBitVec_and_one_eq_zero (x : UInt32) : x &&& 1 = 0 ↔ x.toBitVec.getLsbD 0 = false := by
  rw [← UInt32.toBitVec_inj, UInt32.toBitVec_and]
  have hlow : x.toBitVec &&& (1 : UInt32).toBitVec
      = (BitVec.ofBool (x.toBitVec.getLsbD 0)).setWidth 32 :=
    BitVec.and_one_eq_setWidth_ofBool_getLsbD
  rw [hlow]
  cases x.toBitVec.getLsbD 0 with
  | true => exact iff_of_false (by decide) (by decide)
  | false => exact iff_of_true (by decide) rfl

theorem crc32Shift_toBitVec (crc : UInt32) :
    (crc32Shift crc).toBitVec = ShiftRegister.shift kCrc32Polynomial.toBitVec crc.toBitVec := by
  rw [crc32Shift, ShiftRegister.shift, UInt32.toBitVec_xor]
  congr 1
  cases hlow : crc.toBitVec.getLsbD 0 with
  | false => rw [if_pos ((toBitVec_and_one_eq_zero crc).mpr hlow), if_neg Bool.false_ne_true]; rfl
  | true =>
    have hodd : ¬crc &&& 1 = 0 := fun h => by
      cases hlow.symm.trans ((toBitVec_and_one_eq_zero crc).mp h)
    rw [if_neg hodd, if_pos rfl]

theorem crc32Shift_iterate_toBitVec (n : Nat) (crc : UInt32) :
    (crc32Shift^[n] crc).toBitVec
      = (ShiftRegister.shift kCrc32Polynomial.toBitVec)^[n] crc.toBitVec := by
  induction n generalizing crc with
  | zero => rfl
  | succ n ih =>
    rw [Function.iterate_succ_apply, Function.iterate_succ_apply, ih, crc32Shift_toBitVec]

theorem crc32Byte_toBitVec (crc : UInt32) (byte : UInt8) :
    (crc32Byte crc byte).toBitVec
      = ShiftRegister.absorb kCrc32Polynomial.toBitVec crc.toBitVec byte.toBitVec := by
  rw [crc32Byte, crc32Shift_iterate_toBitVec, UInt32.toBitVec_xor, UInt8.toBitVec_toUInt32]
  rfl

theorem foldl_crc32Byte_toBitVec (data : ByteString) (crc : UInt32) :
    (data.foldl crc32Byte crc).toBitVec
      = ShiftRegister.absorbAll kCrc32Polynomial.toBitVec crc.toBitVec
          (data.map UInt8.toBitVec) := by
  induction data generalizing crc with
  | nil => rfl
  | cons byte data ih =>
    rw [List.foldl_cons, ih, crc32Byte_toBitVec]
    rfl

/-- A burst of at most four bytes changes the checksum. -/
theorem crc32_ne {a b : ByteString} {start : Nat} (h : DifferWithin a b start 4) (hne : a ≠ b) :
    crc32 a ≠ crc32 b := by
  intro hcrc
  have hfold : a.foldl crc32Byte 0xFFFFFFFF = b.foldl crc32Byte 0xFFFFFFFF := by
    have hbits := congrArg UInt32.toBitVec hcrc
    rw [crc32, crc32, UInt32.toBitVec_xor, UInt32.toBitVec_xor] at hbits
    exact UInt32.toBitVec_inj.mp (ShiftRegister.xor_right_cancel hbits)
  have hmap : a.map UInt8.toBitVec ≠ b.map UInt8.toBitVec := fun heq =>
    hne (List.map_injective_iff.mpr (fun _ _ => UInt8.toBitVec_inj.mp) heq)
  have hpoly : kCrc32Polynomial.toBitVec.getLsbD 31 = true := by decide
  apply ShiftRegister.absorbAll_ne hpoly (h.map UInt8.toBitVec) (by decide) hmap
    (0xFFFFFFFF : UInt32).toBitVec
  rw [← foldl_crc32Byte_toBitVec, ← foldl_crc32Byte_toBitVec, hfold]

/-! ## Files -/

/-- What is in front of the checksum of a file. -/
def saveBody (s : StateSnapshot) : ByteString :=
  ByteWriter.u32 kStoreMagic ++ ByteWriter.u32 storeSchemaVersion
    ++ ByteWriter.u64 (UInt64.ofNat (encodeSnapshot s).length) ++ encodeSnapshot s

theorem saveImage_eq (s : StateSnapshot) :
    saveImage s = saveBody s ++ ByteWriter.u32 (crc32 (saveBody s)) := rfl

/-- A file that loads ends with the checksum of what is in front of it. -/
theorem parseImage_checksum {bytes : ByteString} {snap : StateSnapshot}
    (h : parseImage bytes = .ok snap) :
    ∃ body, bytes = body ++ ByteWriter.u32 (crc32 body) := by
  unfold parseImage at h
  split at h
  · cases h
  split at h
  · cases h
  next magic ver len _ =>
  split at h
  · cases h
  split at h
  · cases h
  split at h
  · cases h
  split at h
  · cases h
  next hsize =>
  rw [not_not] at hsize
  split at h
  · cases h
  next stored rest hstored =>
  split at h
  · cases h
  next hcrc =>
  rw [not_not] at hcrc
  have hfront : bytes.length - 4 = 4 + 4 + 8 + len.toNat := by omega
  have hread := ByteWriter.u32_read hstored
  have hrest : rest = [] := by
    have hlength := congrArg List.length hread
    rw [List.length_take, List.length_drop, List.length_append, length_u32] at hlength
    exact List.length_eq_zero_iff.mp (by omega)
  have hlast : bytes.drop (bytes.length - 4) = ByteWriter.u32 stored := by
    rw [hrest, List.append_nil, List.take_of_length_le (by rw [List.length_drop]; omega)] at hread
    rw [hfront]
    exact hread
  refine ⟨bytes.take (bytes.length - 4), ?_⟩
  rw [hcrc, ← hlast, List.take_append_drop]

/-- The bytes of a file that are not as they were saved lie within four
consecutive ones, all of them in front of the checksum or all of them in it. -/
structure Burst (image : ByteString) (s : StateSnapshot) (start : Nat) : Prop where
  changed : image ≠ saveImage s
  within : DifferWithin image (saveImage s) start 4
  field : (∀ i, image[i]? ≠ (saveImage s)[i]? → i + 4 < (saveImage s).length) ∨
    ∀ i, image[i]? ≠ (saveImage s)[i]? → (saveImage s).length ≤ i + 4

theorem Burst.parseImage {image : ByteString} {s snap : StateSnapshot} {start : Nat}
    (h : Burst image s start) : parseImage image ≠ .ok snap := by
  intro hparse
  obtain ⟨body, rfl⟩ := parseImage_checksum hparse
  have hlength : body.length = (saveBody s).length := by
    have himage := h.within.1
    rw [saveImage_eq, List.length_append, List.length_append, length_u32, length_u32] at himage
    omega
  have hsize : (saveImage s).length = body.length + 4 := by
    rw [saveImage_eq, List.length_append, length_u32, hlength]
  rcases h.field with hfront | hchecksum
  · -- the checksums are the same, so the bytes in front of them differ in no burst
    have htail : ByteWriter.u32 (crc32 body) = ByteWriter.u32 (crc32 (saveBody s)) := by
      apply List.ext_getElem?
      intro i
      by_contra hne
      have hi := hfront (body.length + i) (by
        rw [saveImage_eq, List.getElem?_append_right (by omega),
          List.getElem?_append_right (by omega), hlength, Nat.add_sub_cancel_left]
        exact hne)
      omega
    have hwithin := h.within
    rw [saveImage_eq, ← htail] at hwithin
    have hcrc : crc32 body = crc32 (saveBody s) := by
      have hread := congrArg (fun r => ByteReader.u32 (r ++ [])) htail
      simp only [ByteReader.u32_write] at hread
      exact (Prod.mk.inj (Option.some.inj hread)).1
    by_cases hbody : body = saveBody s
    · exact h.changed (by rw [saveImage_eq, hbody])
    · exact crc32_ne hwithin.of_append hbody hcrc
  · -- the bytes in front of the checksum are the same
    have hbody : body = saveBody s := by
      apply List.ext_getElem?
      intro i
      by_contra hne
      by_cases hi : i < body.length
      · have hend := hchecksum i (by
          rw [saveImage_eq, List.getElem?_append_left hi, List.getElem?_append_left (hlength ▸ hi)]
          exact hne)
        omega
      · exact hne (by rw [List.getElem?_eq_none (by omega), List.getElem?_eq_none (by omega)])
    exact h.changed (by rw [saveImage_eq, hbody])

/-- The checksum of any two texts that differ in a burst is different, and so a
file with a burst in it does not load. -/
theorem burst_detected :
    (∀ (a b : ByteString) (start : Nat), DifferWithin a b start 4 → a ≠ b →
      crc32 a ≠ crc32 b) ∧
    ∀ (s : StateSnapshot) (image : ByteString) (start : Nat), Burst image s start →
      ∀ (disk : Disk) (path : ByteString) (io : LoadOutcomes), disk path = some image →
        ∃ err, loadSnapshot disk path io = .error err := by
  refine ⟨fun a b start h hne => crc32_ne h hne, ?_⟩
  intro s image start hburst disk path io hdisk
  cases hload : loadSnapshot disk path io with
  | error err => exact ⟨err, rfl⟩
  | ok snap =>
    obtain ⟨bytes, hbytes, hparse⟩ := loadSnapshot_ok hload
    rw [hdisk] at hbytes
    cases hbytes
    exact absurd hparse hburst.parseImage

/-- Two bytes that are exchanged, and a file whose first byte is changed. -/
theorem burst_detected_sample :
    crc32 [1, 2, 3] ≠ crc32 [2, 1, 3] ∧
      ∃ err, loadSnapshot (fun _ => some ((saveImage {}).set 0 0)) (text "state") {}
        = .error err := by
  have hwithin : DifferWithin ([1, 2, 3] : ByteString) [2, 1, 3] 0 4 := by
    refine ⟨rfl, fun i hne => ⟨Nat.zero_le i, ?_⟩⟩
    by_contra hi
    exact hne (by rw [List.getElem?_eq_none, List.getElem?_eq_none] <;> simp <;> omega)
  have hset : ∀ i, ((saveImage {}).set 0 0)[i]? ≠ (saveImage {})[i]? → i = 0 := by
    intro i hne
    by_contra hi
    exact hne (List.getElem?_set_ne (Ne.symm hi))
  have hburst : Burst ((saveImage {}).set 0 0) {} 0 := by
    refine ⟨by decide +kernel, ⟨List.length_set, fun i hne => ?_⟩, Or.inl fun i hne => ?_⟩
    · rw [hset i hne]
      decide
    · rw [hset i hne]
      decide +kernel
  exact ⟨burst_detected.1 _ _ 0 hwithin (by decide),
    burst_detected.2 {} _ 0 hburst _ (text "state") {} rfl⟩

end GpuFleet
