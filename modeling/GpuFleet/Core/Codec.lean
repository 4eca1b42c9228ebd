import GpuFleet.Core.Types

/-!
# The byte codec

`core/codec.hpp`.  A writer appends to a buffer, so each of its methods is
the bytes it appends and an encoder is their concatenation.  A reader is a
cursor into a buffer, and nothing but the bytes after the cursor decides
what it does, so it is modelled by those bytes.

The integer reads of the source answer a `bool` and fill a reference: they
are `Option`s here.  The length-prefixed reads answer a `Result`.  A decoder
turns a failed read into an error of its own, and `Decoder` is the monad of
that pattern.
-/

namespace GpuFleet

/-! ## The checksum -/

/-- The polynomial in `crc32`. -/
def kCrc32Polynomial : UInt32 := 0xEDB88320

/-- One round of the inner loop of `crc32`. -/
def crc32Shift (crc : UInt32) : UInt32 :=
  (crc >>> 1) ^^^ (if crc &&& 1 = 0 then 0 else kCrc32Polynomial)

/-- The body of the outer loop of `crc32`. -/
def crc32Byte (crc : UInt32) (byte : UInt8) : UInt32 :=
  crc32Shift^[8] (crc ^^^ byte.toUInt32)

/-- `crc32`. -/
def crc32 (data : ByteString) : UInt32 :=
  data.foldl crc32Byte 0xFFFFFFFF ^^^ 0xFFFFFFFF

/-- `kMaxStringLen`, the default bound of a string. -/
def kMaxStringLen : Nat := 65535

/-- `kMaxBytesLen`, the default bound of a byte string. -/
def kMaxBytesLen : Nat := 0x7FFFFFFF

/-! ## Writing -/

namespace ByteWriter

/-- `ByteWriter::u8`. -/
def u8 (v : UInt8) : ByteString := [v]

/-- `ByteWriter::u16`, the high byte first. -/
def u16 (v : UInt16) : ByteString := [(v >>> 8).toUInt8, v.toUInt8]

/-- `ByteWriter::u32`. -/
def u32 (v : UInt32) : ByteString :=
  [(v >>> 24).toUInt8, (v >>> 16).toUInt8, (v >>> 8).toUInt8, v.toUInt8]

/-- `ByteWriter::u64`. -/
def u64 (v : UInt64) : ByteString :=
  [(v >>> 56).toUInt8, (v >>> 48).toUInt8, (v >>> 40).toUInt8, (v >>> 32).toUInt8,
    (v >>> 24).toUInt8, (v >>> 16).toUInt8, (v >>> 8).toUInt8, v.toUInt8]

/-- `ByteWriter::i64`. -/
def i64 (v : Int64) : ByteString := u64 v.toUInt64

/-- `ByteWriter::f64`, the bits of the number. -/
def f64 (v : DoubleBits) : ByteString := u64 v

/-- A `bool` written as `b ? 1 : 0`. -/
def flag (b : Bool) : ByteString := u8 (if b then 1 else 0)

/-- `ByteWriter::bytes`: the length, then the bytes. -/
def bytes (b : ByteString) : ByteString := u32 (UInt32.ofNat b.length) ++ b

/-- `ByteWriter::string`: a text over `maxLen` bytes is cut. -/
def string (s : ByteString) (maxLen : Nat) : ByteString :=
  let s := if s.length > maxLen then s.take maxLen else s
  u32 (UInt32.ofNat s.length) ++ s

/-- A count followed by the elements, the `u32(size)` loops of the
encoders. -/
def counted {α : Type} (item : α → ByteString) (items : List α) : ByteString :=
  u32 (UInt32.ofNat items.length) ++ items.flatMap item

/-- An optional value: a presence byte, then the value when there is one. -/
def optional {α : Type} (item : α → ByteString) : Option α → ByteString
  | none => flag false
  | some v => flag true ++ item v

end ByteWriter

@[simp] theorem length_u8 (v : UInt8) : (ByteWriter.u8 v).length = 1 := rfl

@[simp] theorem length_u16 (v : UInt16) : (ByteWriter.u16 v).length = 2 := rfl

@[simp] theorem length_u32 (v : UInt32) : (ByteWriter.u32 v).length = 4 := rfl

@[simp] theorem length_u64 (v : UInt64) : (ByteWriter.u64 v).length = 8 := rfl

@[simp] theorem length_i64 (v : Int64) : (ByteWriter.i64 v).length = 8 := rfl

@[simp] theorem length_f64 (v : DoubleBits) : (ByteWriter.f64 v).length = 8 := rfl

@[simp] theorem length_flag (b : Bool) : (ByteWriter.flag b).length = 1 := rfl

/-! ## Reading -/

/-- The bytes that a `ByteReader` has not read yet. -/
abbrev ByteReader := ByteString

namespace ByteReader

/-- `ByteReader::u8`. -/
def u8 : ByteReader → Option (UInt8 × ByteReader)
  | b :: rest => some (b, rest)
  | [] => none

/-- `ByteReader::u16`. -/
def u16 : ByteReader → Option (UInt16 × ByteReader)
  | b0 :: b1 :: rest => some (b0.toUInt16 <<< 8 ||| b1.toUInt16, rest)
  | _ => none

/-- `ByteReader::u32`. -/
def u32 : ByteReader → Option (UInt32 × ByteReader)
  | b0 :: b1 :: b2 :: b3 :: rest =>
    some (b0.toUInt32 <<< 24 ||| b1.toUInt32 <<< 16 ||| b2.toUInt32 <<< 8 ||| b3.toUInt32, rest)
  | _ => none

/-- `ByteReader::u64`. -/
def u64 : ByteReader → Option (UInt64 × ByteReader)
  | b0 :: b1 :: b2 :: b3 :: b4 :: b5 :: b6 :: b7 :: rest =>
    some ([b0, b1, b2, b3, b4, b5, b6, b7].foldl (fun v b => v <<< 8 ||| b.toUInt64) 0, rest)
  | _ => none

/-- `ByteReader::i64`. -/
def i64 (r : ByteReader) : Option (Int64 × ByteReader) :=
  (u64 r).map (fun (v, rest) => (v.toInt64, rest))

/-- `ByteReader::f64`. -/
def f64 (r : ByteReader) : Option (DoubleBits × ByteReader) := u64 r

/-- `ByteReader::raw`. -/
def raw (count : Nat) (r : ByteReader) : Result (ByteString × ByteReader) :=
  if count > r.length then .error (errorResult .truncated "raw payload truncated")
  else .ok (r.take count, r.drop count)

/-- `ByteReader::bytes`. -/
def bytes (maxLen : Nat) (r : ByteReader) : Result (ByteString × ByteReader) :=
  match u32 r with
  | none => .error (errorResult .truncated "byte length truncated")
  | some (len, rest) =>
    if len.toNat > maxLen then .error (errorResult .outOfBounds "byte length exceeds bound")
    else if len.toNat > rest.length then
      .error (errorResult .truncated "byte payload truncated")
    else .ok (rest.take len.toNat, rest.drop len.toNat)

/-- `ByteReader::string`. -/
def string (maxLen : Nat) (r : ByteReader) : Result (ByteString × ByteReader) :=
  match bytes maxLen r with
  | .error _ => .error (errorResult .truncated "string payload truncated")
  | .ok s => .ok s

end ByteReader

/-! ## Readers of fields

The parts of a decoder that answer `false` when they fail. -/

/-- A read that fills a reference and answers a `bool`. -/
abbrev FieldReader (α : Type) := StateT ByteReader Option α

namespace FieldReader

/-- `auto s = r.string(maxLen); if (!s.ok()) return false;` -/
def string (maxLen : Nat) : FieldReader ByteString :=
  fun r => (ByteReader.string maxLen r).toOption

/-- `auto b = r.bytes(maxLen); if (!b.ok()) return false;` -/
def bytes (maxLen : Nat) : FieldReader ByteString :=
  fun r => (ByteReader.bytes maxLen r).toOption

/-- A byte read as a `bool`. -/
def flag : FieldReader Bool := do
  let b ← ByteReader.u8
  pure (decide (b ≠ 0))

/-- A presence byte, then the value when the byte is not zero. -/
def optional {α : Type} (read : FieldReader α) : FieldReader (Option α) := do
  let present ← ByteReader.u8
  if present = 0 then pure none
  else do
    let v ← read
    pure (some v)

/-- `if (bad) return false;` -/
def reject (bad : Bool) : FieldReader Unit :=
  fun r => if bad then none else some ((), r)

end FieldReader

/-! ## Decoders -/

/-- A decoder: the reader is threaded through, and the first error ends
it. -/
abbrev Decoder (α : Type) := StateT ByteReader (Except Error) α

namespace Decoder

/-- `if (!read(v)) return error_result(code, msg);` -/
def need {α : Type} (read : ByteReader → Option (α × ByteReader)) (code : Status)
    (msg : String) : Decoder α :=
  fun r => match read r with
    | some out => .ok out
    | none => .error (errorResult code msg)

/-- A length-prefixed text, whose own error the decoder replaces. -/
def needString (maxLen : Nat) (code : Status) (msg : String) : Decoder ByteString :=
  need (fun r => (ByteReader.string maxLen r).toOption) code msg

/-- A nested result, whose own error the decoder replaces. -/
def needValue {α : Type} (v : Result α) (code : Status) (msg : String) : Decoder α :=
  need (fun r => v.toOption.map (fun a => (a, r))) code msg

/-- An optional value: the presence byte, then the value when the byte is
not zero.  Both reads fail with the same error. -/
def needOptional {α : Type} (read : ByteReader → Option (α × ByteReader)) (code : Status)
    (msg : String) : Decoder (Option α) := do
  let present ← need ByteReader.u8 code msg
  if present = 0 then pure none
  else do
    let v ← need read code msg
    pure (some v)

/-- A byte read as a `bool`. -/
def needFlag (code : Status) (msg : String) : Decoder Bool := do
  let b ← need ByteReader.u8 code msg
  pure (decide (b ≠ 0))

/-- `if (bad) return error_result(code, msg);` -/
def reject (bad : Bool) (code : Status) (msg : String) : Decoder Unit :=
  fun r => if bad then .error (errorResult code msg) else .ok ((), r)

/-- `for (k = 0; k < n; ++k)` around an element decoder. -/
def times {α : Type} (item : Decoder α) : Nat → Decoder (List α)
  | 0 => pure []
  | n + 1 => do
    let v ← item
    let rest ← times item n
    pure (v :: rest)

/-- `if (!r.done()) return error_result(code, msg);` -/
def done (code : Status) (msg : String) : Decoder Unit :=
  fun r => if r.isEmpty then .ok ((), r) else .error (errorResult code msg)

/-- The result of a decoder on a whole buffer. -/
def decode {α : Type} (d : Decoder α) (data : ByteString) : Result α :=
  (d.run data).map Prod.fst

end Decoder

end GpuFleet
