import GpuFleet.Core.RoundTrip
import GpuFleet.Lib.Incremental
import GpuFleet.Protocol.Message

/-!
# Framing

`protocol/framing.hpp`.  A frame is a header of eleven bytes, a payload and a
checksum over both.  `FrameDecoder::feed` looks at a frame as soon as fifteen
bytes are there: it checks the four fields of the header, then waits for the
payload the header declares, then checks the sum.

`Shape` lists the shapes that a buffer can have: too short, a bad header, a payload
that is not complete, and a whole frame.  There is one equation for the
decoder on each.  More input can change the first and the third only, which
is what `lawful_feed` says.
-/

namespace GpuFleet

open Incremental

/-- `kFrameMagic`. -/
def kFrameMagic : UInt32 := 0x47464C41

/-- `kProtocolVersion`. -/
def kProtocolVersion : UInt32 := 1

/-- `kMaxPayloadLength`, 16 MiB. -/
def kMaxPayloadLength : Nat := 16 * 1024 * 1024

/-- `kFrameHeader`: magic, version, type and length. -/
def kFrameHeader : Nat := 4 + 2 + 1 + 4

/-- `kFrameTrailer`: the checksum. -/
def kFrameTrailer : Nat := 4

/-- `Frame`. -/
structure Frame where
  type : MessageType := .hello
  payload : ByteString := []
  deriving DecidableEq, Repr

/-- The header fields on the wire. -/
def writeFrameHeader (magic : UInt32) (ver : UInt16) (type : UInt8) (payloadLen : UInt32) :
    ByteString :=
  ByteWriter.u32 magic ++ ByteWriter.u16 ver ++ ByteWriter.u8 type ++ ByteWriter.u32 payloadLen

/-- `encode_frame`. -/
def encodeFrame (type : MessageType) (payload : ByteString) : ByteString :=
  let w := writeFrameHeader kFrameMagic kProtocolVersion.toUInt16 type.toByte
    (UInt32.ofNat payload.length) ++ payload
  w ++ ByteWriter.u32 (crc32 w)

/-- A `FrameDecoder` is its buffer. -/
abbrev FrameDecoder := ByteString

namespace FrameDecoder

/-- The four reads of `feed` at the start of the buffer. -/
def readHeader (buf : FrameDecoder) : Option (UInt32 × UInt16 × UInt8 × UInt32) := do
  let (magic, r) ← ByteReader.u32 buf
  let (ver, r) ← ByteReader.u16 r
  let (type, r) ← ByteReader.u8 r
  let (payloadLen, _) ← ByteReader.u32 r
  pure (magic, ver, type, payloadLen)

/-- The checks of `feed` on the header fields, in order. -/
def headerError (magic : UInt32) (ver : UInt16) (type : UInt8) (payloadLen : UInt32) :
    Option ByteString :=
  if magic ≠ kFrameMagic then some (text "bad frame magic")
  else if ver.toUInt32 ≠ kProtocolVersion then some (text "unknown protocol version")
  else if !validMessageType type then some (text "invalid enum message type")
  else if payloadLen.toNat > kMaxPayloadLength then some (text "oversized payload")
  else none

/-- `FrameDecoder::feed`: the result with the frame or the error text, and the
buffer it leaves. -/
def feed (buf : FrameDecoder) (data : ByteString) : Answer Frame ByteString × FrameDecoder :=
  let buf := buf ++ data
  if buf.length < kFrameHeader + kFrameTrailer then (.needMore, buf)
  else match readHeader buf with
  | none => (.error (text "frame header truncated"), buf)
  | some (magic, ver, type, payloadLen) =>
    match headerError magic ver type payloadLen with
    | some error => (.error error, buf)
    | none =>
      let total := kFrameHeader + payloadLen.toNat + kFrameTrailer
      if buf.length < total then (.needMore, buf)
      else match ByteReader.u32 ((buf.drop (total - 4)).take 4) with
      | none => (.error (text "frame crc truncated"), buf)
      | some (storedCrc, _) =>
        let calcCrc := crc32 (buf.take (total - 4))
        if calcCrc ≠ storedCrc then (.error (text "frame crc mismatch"), buf)
        else
          (.ready ⟨.ofByte type, (buf.drop kFrameHeader).take payloadLen.toNat⟩, buf.drop total)

/-- `FrameDecoder::buffered`. -/
def buffered (buf : FrameDecoder) : Nat := buf.length

/-! ## The header -/

@[simp] theorem length_writeFrameHeader (magic : UInt32) (ver : UInt16) (type : UInt8)
    (payloadLen : UInt32) :
    (writeFrameHeader magic ver type payloadLen).length = kFrameHeader := rfl

theorem readHeader_write (magic : UInt32) (ver : UInt16) (type : UInt8) (payloadLen : UInt32)
    (body : ByteString) :
    readHeader (writeFrameHeader magic ver type payloadLen ++ body)
      = some (magic, ver, type, payloadLen) := by
  simp only [readHeader, writeFrameHeader, List.append_assoc, ByteReader.u32_write,
    ByteReader.u16_write, ByteReader.u8_write, Option.bind_eq_bind, Option.bind_some]
  rfl

/-- Any eleven bytes are a header. -/
theorem exists_header {buf : ByteString} (h : kFrameHeader ≤ buf.length) :
    ∃ magic ver type payloadLen body,
      buf = writeFrameHeader magic ver type payloadLen ++ body := by
  match buf, h with
  | b0 :: b1 :: b2 :: b3 :: b4 :: b5 :: b6 :: b7 :: b8 :: b9 :: b10 :: body, _ =>
    obtain ⟨magic, hmagic⟩ : ∃ v, ByteReader.u32 [b0, b1, b2, b3] = some (v, []) := ⟨_, rfl⟩
    obtain ⟨ver, hver⟩ : ∃ v, ByteReader.u16 [b4, b5] = some (v, []) := ⟨_, rfl⟩
    obtain ⟨len, hlen⟩ : ∃ v, ByteReader.u32 [b7, b8, b9, b10] = some (v, []) := ⟨_, rfl⟩
    refine ⟨magic, ver, b6, len, body, ?_⟩
    have hm := ByteWriter.u32_read hmagic
    have hv := ByteWriter.u16_read hver
    have hl := ByteWriter.u32_read hlen
    rw [List.append_nil] at hm hv hl
    rw [writeFrameHeader, ← hm, ← hv, ← hl]
    rfl

/-- A header that passes the checks is one that `encode_frame` writes. -/
theorem headerError_none {magic : UInt32} {ver : UInt16} {type : UInt8} {payloadLen : UInt32}
    (h : headerError magic ver type payloadLen = none) :
    magic = kFrameMagic ∧ ver = kProtocolVersion.toUInt16 ∧ validMessageType type = true ∧
      payloadLen.toNat ≤ kMaxPayloadLength := by
  unfold headerError at h
  by_cases hmagic : magic = kFrameMagic
  · by_cases hver : ver.toUInt32 = kProtocolVersion
    · by_cases htype : validMessageType type = true
      · by_cases hlen : payloadLen.toNat > kMaxPayloadLength
        · simp [hmagic, hver, htype, hlen] at h
        · refine ⟨hmagic, ?_, htype, Nat.le_of_not_lt hlen⟩
          rw [← hver, UInt16.toUInt16_toUInt32]
      · simp [hmagic, hver, htype] at h
    · simp [hmagic, hver] at h
  · simp [hmagic] at h

theorem headerError_encode {type : MessageType} {payload : ByteString}
    (h : payload.length ≤ kMaxPayloadLength) :
    headerError kFrameMagic kProtocolVersion.toUInt16 type.toByte (UInt32.ofNat payload.length)
      = none := by
  have hlen : (UInt32.ofNat payload.length).toNat = payload.length :=
    UInt32.toNat_ofNat_of_lt' (lt_of_le_of_lt h (by decide))
  have hver : kProtocolVersion.toUInt16.toUInt32 = kProtocolVersion := by decide
  simp [headerError, hlen, hver, type.valid_toByte, Nat.not_lt.mpr h]

/-! ## The shapes of a buffer -/

section Shapes

variable {magic : UInt32} {ver : UInt16} {type : UInt8} {payloadLen : UInt32}
  {body payload rest : ByteString}

theorem feed_short {buf : ByteString} (h : buf.length < kFrameHeader + kFrameTrailer) :
    feed [] buf = (.needMore, buf) := by
  rw [feed, List.nil_append, if_pos h]

theorem feed_badHeader {error : ByteString} (hbody : kFrameTrailer ≤ body.length)
    (h : headerError magic ver type payloadLen = some error) :
    feed [] (writeFrameHeader magic ver type payloadLen ++ body)
      = (.error error, writeFrameHeader magic ver type payloadLen ++ body) := by
  have hlong : ¬(writeFrameHeader magic ver type payloadLen ++ body).length
      < kFrameHeader + kFrameTrailer := by
    rw [List.length_append, length_writeFrameHeader]
    omega
  rw [feed, List.nil_append, if_neg hlong, readHeader_write]
  simp only [h]

theorem feed_incomplete (hbody : kFrameTrailer ≤ body.length)
    (h : headerError magic ver type payloadLen = none)
    (hshort : body.length < payloadLen.toNat + kFrameTrailer) :
    feed [] (writeFrameHeader magic ver type payloadLen ++ body)
      = (.needMore, writeFrameHeader magic ver type payloadLen ++ body) := by
  have hlong : ¬(writeFrameHeader magic ver type payloadLen ++ body).length
      < kFrameHeader + kFrameTrailer := by
    rw [List.length_append, length_writeFrameHeader]
    omega
  have hneed : (writeFrameHeader magic ver type payloadLen ++ body).length
      < kFrameHeader + payloadLen.toNat + kFrameTrailer := by
    rw [List.length_append, length_writeFrameHeader]
    omega
  rw [feed, List.nil_append, if_neg hlong, readHeader_write]
  simp only [h, if_pos hneed]

/-- A whole frame, with any checksum. -/
theorem feed_whole (h : headerError magic ver type payloadLen = none)
    (hlen : payload.length = payloadLen.toNat) (crc : UInt32) (rest : ByteString) :
    feed [] (writeFrameHeader magic ver type payloadLen ++ payload ++ ByteWriter.u32 crc ++ rest)
      = if crc32 (writeFrameHeader magic ver type payloadLen ++ payload) ≠ crc then
          (.error (text "frame crc mismatch"),
            writeFrameHeader magic ver type payloadLen ++ payload ++ ByteWriter.u32 crc ++ rest)
        else (.ready ⟨.ofByte type, payload⟩, rest) := by
  have hcrc : (ByteWriter.u32 crc).length = 4 := length_u32 crc
  have hsum : (writeFrameHeader magic ver type payloadLen ++ payload).length
      = kFrameHeader + payloadLen.toNat + kFrameTrailer - 4 := by
    rw [List.length_append, length_writeFrameHeader, hlen]
    rfl
  have htotal : (writeFrameHeader magic ver type payloadLen ++ payload
      ++ ByteWriter.u32 crc).length = kFrameHeader + payloadLen.toNat + kFrameTrailer := by
    rw [List.length_append, List.length_append, length_writeFrameHeader, hlen, hcrc]
    rfl
  have hlong : ¬(writeFrameHeader magic ver type payloadLen ++ payload ++ ByteWriter.u32 crc
      ++ rest).length < kFrameHeader + kFrameTrailer := by
    rw [List.length_append, htotal]
    omega
  have hcomplete : ¬(writeFrameHeader magic ver type payloadLen ++ payload ++ ByteWriter.u32 crc
      ++ rest).length < kFrameHeader + payloadLen.toNat + kFrameTrailer := by
    rw [List.length_append, htotal]
    omega
  have hheader : readHeader (writeFrameHeader magic ver type payloadLen ++ payload
      ++ ByteWriter.u32 crc ++ rest) = some (magic, ver, type, payloadLen) := by
    rw [List.append_assoc, List.append_assoc, readHeader_write]
  have hstored : ((writeFrameHeader magic ver type payloadLen ++ payload ++ ByteWriter.u32 crc
      ++ rest).drop (kFrameHeader + payloadLen.toNat + kFrameTrailer - 4)).take 4
      = ByteWriter.u32 crc ++ [] := by
    rw [List.append_assoc, ← hsum, List.drop_left, ← hcrc, List.take_left, List.append_nil]
  have hbefore : (writeFrameHeader magic ver type payloadLen ++ payload ++ ByteWriter.u32 crc
      ++ rest).take (kFrameHeader + payloadLen.toNat + kFrameTrailer - 4)
      = writeFrameHeader magic ver type payloadLen ++ payload := by
    rw [List.append_assoc, ← hsum, List.take_left]
  have hpayload : ((writeFrameHeader magic ver type payloadLen ++ payload ++ ByteWriter.u32 crc
      ++ rest).drop kFrameHeader).take payloadLen.toNat = payload := by
    rw [List.append_assoc, List.append_assoc,
      ← length_writeFrameHeader magic ver type payloadLen, List.drop_left, ← hlen,
      List.take_left]
  have hrest : (writeFrameHeader magic ver type payloadLen ++ payload ++ ByteWriter.u32 crc
      ++ rest).drop (kFrameHeader + payloadLen.toNat + kFrameTrailer) = rest := by
    rw [← htotal, List.drop_left]
  rw [feed, List.nil_append, if_neg hlong, hheader]
  simp only [h, if_neg hcomplete, hstored, ByteReader.u32_write, hbefore, hpayload, hrest]

end Shapes

/-- The shapes of a buffer. -/
inductive Shape (buf : ByteString) : Prop
  | short (h : buf.length < kFrameHeader + kFrameTrailer)
  | badHeader (magic : UInt32) (ver : UInt16) (type : UInt8) (payloadLen : UInt32)
      (body error : ByteString) (hbuf : buf = writeFrameHeader magic ver type payloadLen ++ body)
      (hbody : kFrameTrailer ≤ body.length)
      (herror : headerError magic ver type payloadLen = some error)
  | incomplete (magic : UInt32) (ver : UInt16) (type : UInt8) (payloadLen : UInt32)
      (body : ByteString) (hbuf : buf = writeFrameHeader magic ver type payloadLen ++ body)
      (hbody : kFrameTrailer ≤ body.length)
      (hheader : headerError magic ver type payloadLen = none)
      (hshort : body.length < payloadLen.toNat + kFrameTrailer)
  | whole (magic : UInt32) (ver : UInt16) (type : UInt8) (payloadLen : UInt32)
      (payload : ByteString) (crc : UInt32) (rest : ByteString)
      (hbuf : buf = writeFrameHeader magic ver type payloadLen ++ payload
        ++ ByteWriter.u32 crc ++ rest)
      (hheader : headerError magic ver type payloadLen = none)
      (hlen : payload.length = payloadLen.toNat)

theorem shape (buf : ByteString) : Shape buf := by
  by_cases hlong : buf.length < kFrameHeader + kFrameTrailer
  · exact .short hlong
  obtain ⟨magic, ver, type, payloadLen, body, rfl⟩ :=
    exists_header (Nat.le_trans (Nat.le_add_right _ _) (Nat.le_of_not_lt hlong))
  rw [List.length_append, length_writeFrameHeader] at hlong
  have hbody : kFrameTrailer ≤ body.length := by omega
  cases hheader : headerError magic ver type payloadLen with
  | some error => exact .badHeader _ _ _ _ body error rfl hbody hheader
  | none =>
    by_cases hshort : body.length < payloadLen.toNat + kFrameTrailer
    · exact .incomplete _ _ _ _ body rfl hbody hheader hshort
    · -- The four bytes after the payload are the checksum of something.
      have htrailer : kFrameTrailer ≤ (body.drop payloadLen.toNat).length := by
        rw [List.length_drop]
        omega
      have hcrc : ∃ crc rest, body.drop payloadLen.toNat = ByteWriter.u32 crc ++ rest := by
        match hdrop : body.drop payloadLen.toNat, htrailer with
        | b0 :: b1 :: b2 :: b3 :: rest, _ =>
          obtain ⟨crc, hread⟩ : ∃ v, ByteReader.u32 (b0 :: b1 :: b2 :: b3 :: rest)
            = some (v, rest) := ⟨_, rfl⟩
          exact ⟨crc, rest, ByteWriter.u32_read hread⟩
      obtain ⟨crc, rest, hrest⟩ := hcrc
      refine .whole _ _ _ _ (body.take payloadLen.toNat) crc rest ?_ hheader ?_
      · rw [List.append_assoc, List.append_assoc, ← hrest, List.take_append_drop]
      · rw [List.length_take]
        omega

/-! ## The decoder in a stream -/

/-- What `encode_frame` wrote is a frame, and what follows it is left in the
buffer. -/
theorem feed_encodeFrame (type : MessageType) {payload : ByteString}
    (h : payload.length ≤ kMaxPayloadLength) (rest : ByteString) :
    feed [] (encodeFrame type payload ++ rest) = (.ready ⟨type, payload⟩, rest) := by
  have hlen : (UInt32.ofNat payload.length).toNat = payload.length :=
    UInt32.toNat_ofNat_of_lt' (lt_of_le_of_lt h (by decide))
  rw [encodeFrame, feed_whole (headerError_encode h) hlen.symm, if_neg (not_not.mpr rfl),
    MessageType.ofByte_toByte]

/-- A frame that passed every check is one that `encode_frame` writes. -/
theorem encodeFrame_of_checked {magic : UInt32} {ver : UInt16} {type : UInt8}
    {payloadLen : UInt32} {payload : ByteString} {crc : UInt32}
    (hheader : headerError magic ver type payloadLen = none)
    (hlen : payload.length = payloadLen.toNat)
    (hcrc : crc32 (writeFrameHeader magic ver type payloadLen ++ payload) = crc) :
    writeFrameHeader magic ver type payloadLen ++ payload ++ ByteWriter.u32 crc
      = encodeFrame (.ofByte type) payload := by
  obtain ⟨rfl, rfl, htype, _⟩ := headerError_none hheader
  have hlength : UInt32.ofNat payload.length = payloadLen := by
    rw [hlen, UInt32.ofNat_toNat]
  rw [encodeFrame, hlength, MessageType.toByte_ofByte htype, hcrc]

/-- The only shape that yields a frame is a whole one with the right checksum. -/
theorem ready_cases {buf rest : ByteString} {f : Frame} (h : feed [] buf = (.ready f, rest)) :
    ∃ magic ver type payloadLen payload crc,
      buf = writeFrameHeader magic ver type payloadLen ++ payload ++ ByteWriter.u32 crc ++ rest ∧
      headerError magic ver type payloadLen = none ∧ payload.length = payloadLen.toNat ∧
      crc32 (writeFrameHeader magic ver type payloadLen ++ payload) = crc ∧
      f = ⟨.ofByte type, payload⟩ := by
  cases shape buf with
  | short hshort =>
    rw [feed_short hshort] at h
    cases h
  | badHeader _ _ _ _ body error hbuf hbody herror =>
    rw [hbuf, feed_badHeader hbody herror] at h
    cases h
  | incomplete _ _ _ _ body hbuf hbody hheader hshort =>
    rw [hbuf, feed_incomplete hbody hheader hshort] at h
    cases h
  | whole _ _ _ _ payload crc rest' hbuf hheader hlen =>
    rw [hbuf, feed_whole hheader hlen] at h
    split at h
    · cases h
    · next hcrc =>
      cases h
      exact ⟨_, _, _, _, payload, crc, hbuf, hheader, hlen, not_not.mp hcrc, rfl⟩

theorem encodeFrame_ne_nil (type : MessageType) (payload : ByteString) :
    encodeFrame type payload ≠ [] := by
  intro h
  have hlength := congrArg List.length h
  simp only [encodeFrame, List.length_append, length_writeFrameHeader, List.length_nil] at hlength
  exact absurd hlength (by rw [kFrameHeader]; omega)

/-- The answers of the decoder are stable, and nothing is lost. -/
theorem lawful_feed : Lawful feed fun f : Frame => encodeFrame f.type f.payload where
  feed_nil := fun _ _ => rfl
  empty := rfl
  waits := by
    intro buf rest h
    cases shape buf with
    | short hshort =>
      rw [feed_short hshort] at h
      exact (congrArg Prod.snd h).symm
    | badHeader _ _ _ _ body error hbuf hbody herror =>
      rw [hbuf, feed_badHeader hbody herror] at h
      cases h
    | incomplete _ _ _ _ body hbuf hbody hheader hshort =>
      rw [hbuf, feed_incomplete hbody hheader hshort] at h
      rw [hbuf]
      exact (congrArg Prod.snd h).symm
    | whole _ _ _ _ payload crc rest' hbuf hheader hlen =>
      rw [hbuf, feed_whole hheader hlen] at h
      split at h <;> cases h
  fails := by
    intro buf e rest h
    cases shape buf with
    | short hshort =>
      rw [feed_short hshort] at h
      cases h
    | badHeader _ _ _ _ body error hbuf hbody herror =>
      rw [hbuf, feed_badHeader hbody herror] at h
      cases h
      refine ⟨hbuf.symm, fun more => ?_⟩
      have hbody' : kFrameTrailer ≤ (body ++ more).length := by
        rw [List.length_append]
        omega
      rw [hbuf, List.append_assoc, feed_badHeader hbody' herror]
    | incomplete _ _ _ _ body hbuf hbody hheader hshort =>
      rw [hbuf, feed_incomplete hbody hheader hshort] at h
      cases h
    | whole _ _ _ _ payload crc rest' hbuf hheader hlen =>
      rw [hbuf, feed_whole hheader hlen] at h
      split at h
      · next hcrc =>
        cases h
        refine ⟨hbuf.symm, fun more => ?_⟩
        rw [hbuf, List.append_assoc, feed_whole hheader hlen, if_pos hcrc]
      · cases h
  yields := by
    intro buf f rest h
    obtain ⟨magic, ver, type, payloadLen, payload, crc, hbuf, hheader, hlen, hcrc, rfl⟩ :=
      ready_cases h
    refine ⟨?_, encodeFrame_ne_nil _ _, fun more => ?_⟩
    · rw [hbuf, encodeFrame_of_checked hheader hlen hcrc]
    · rw [hbuf, List.append_assoc, feed_whole hheader hlen, if_neg (not_not.mpr hcrc)]

/-- A decoder that waits holds less than one frame of the largest size. -/
theorem length_of_needMore {buf : ByteString} (h : (feed [] buf).1 = .needMore) :
    buf.length < kFrameHeader + kMaxPayloadLength + kFrameTrailer := by
  cases shape buf with
  | short hshort => omega
  | badHeader _ _ _ _ body error hbuf hbody herror =>
    rw [hbuf, feed_badHeader hbody herror] at h
    cases h
  | incomplete _ _ _ _ body hbuf hbody hheader hshort =>
    obtain ⟨_, _, _, hmax⟩ := headerError_none hheader
    rw [hbuf, List.length_append, length_writeFrameHeader]
    omega
  | whole _ _ _ _ payload crc rest' hbuf hheader hlen =>
    rw [hbuf, feed_whole hheader hlen] at h
    split at h <;> cases h

/-- A frame that comes out has a payload of admissible size. -/
theorem payload_le_of_ready {buf rest : ByteString} {f : Frame}
    (h : feed [] buf = (.ready f, rest)) : f.payload.length ≤ kMaxPayloadLength := by
  obtain ⟨_, _, _, payloadLen, payload, _, -, hheader, hlen, -, rfl⟩ := ready_cases h
  obtain ⟨_, _, _, hmax⟩ := headerError_none hheader
  rw [hlen]
  exact hmax

/-- A frame over the bound is refused at its header. -/
theorem feed_oversized (type : MessageType) {payload : ByteString}
    (h : kMaxPayloadLength < payload.length) (hcount : payload.length < 2 ^ 32) :
    feed [] (encodeFrame type payload)
      = (.error (text "oversized payload"), encodeFrame type payload) := by
  have hlen : (UInt32.ofNat payload.length).toNat = payload.length :=
    UInt32.toNat_ofNat_of_lt' hcount
  have hver : kProtocolVersion.toUInt16.toUInt32 = kProtocolVersion := by decide
  have herror : headerError kFrameMagic kProtocolVersion.toUInt16 type.toByte
      (UInt32.ofNat payload.length) = some (text "oversized payload") := by
    simp [headerError, hlen, hver, type.valid_toByte, h]
  have hbody : kFrameTrailer ≤ (payload ++ ByteWriter.u32 (crc32 (writeFrameHeader kFrameMagic
      kProtocolVersion.toUInt16 type.toByte (UInt32.ofNat payload.length) ++ payload))).length := by
    rw [List.length_append]
    exact Nat.le_add_left _ _
  rw [encodeFrame, List.append_assoc]
  exact feed_badHeader hbody herror

end FrameDecoder

end GpuFleet
