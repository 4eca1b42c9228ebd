import GpuFleet.Core.Codec
import GpuFleet.Lib.Reading
import Mathlib.Data.List.Induction
import Mathlib.Data.Nat.Bitwise

/-!
# The byte codec read back

What a `ByteWriter` wrote is what a `ByteReader` reads.  The integers are
compared as naturals: the reader shifts bytes into place and joins them with
`|`, and on disjoint bits that is a sum (`or_eq_add`).  So no theorem here
depends on bit-blasting.

The second half is about readers and decoders as a whole: one `Reads` lemma
and, where the value is bounded, one `Ensures` lemma for each way to read a
field.
-/

namespace GpuFleet

open Reading

/-! ## Integers -/

theorem or_eq_add {a b : Nat} (i : Nat) (ha : 2 ^ i ∣ a) (hb : b < 2 ^ i) :
    a ||| b = a + b := by
  obtain ⟨k, rfl⟩ := ha
  exact (Nat.two_pow_add_eq_or_of_lt hb k).symm

/-- The value that `ByteReader::u16` computes. -/
theorem toNat_u16 (b0 b1 : UInt8) :
    (b0.toUInt16 <<< 8 ||| b1.toUInt16).toNat = b0.toNat * 2 ^ 8 + b1.toNat := by
  have h0 := b0.toNat_lt
  have h1 := b1.toNat_lt
  simp only [UInt16.toNat_or, UInt16.toNat_shiftLeft, UInt8.toNat_toUInt16, UInt16.reduceToNat,
    Nat.shiftLeft_eq, Nat.reduceMod]
  rw [Nat.mod_eq_of_lt (by omega)]
  exact or_eq_add 8 (by omega) (by omega)

/-- The value that `ByteReader::u32` computes. -/
theorem toNat_u32 (b0 b1 b2 b3 : UInt8) :
    (b0.toUInt32 <<< 24 ||| b1.toUInt32 <<< 16 ||| b2.toUInt32 <<< 8 ||| b3.toUInt32).toNat
      = b0.toNat * 2 ^ 24 + b1.toNat * 2 ^ 16 + b2.toNat * 2 ^ 8 + b3.toNat := by
  have h0 := b0.toNat_lt
  have h1 := b1.toNat_lt
  have h2 := b2.toNat_lt
  have h3 := b3.toNat_lt
  have hor01 : b0.toNat * 2 ^ 24 ||| b1.toNat * 2 ^ 16
      = b0.toNat * 2 ^ 24 + b1.toNat * 2 ^ 16 := or_eq_add 24 (by omega) (by omega)
  have hor012 : b0.toNat * 2 ^ 24 + b1.toNat * 2 ^ 16 ||| b2.toNat * 2 ^ 8
      = b0.toNat * 2 ^ 24 + b1.toNat * 2 ^ 16 + b2.toNat * 2 ^ 8 :=
    or_eq_add 16 (by omega) (by omega)
  simp only [UInt32.toNat_or, UInt32.toNat_shiftLeft, UInt8.toNat_toUInt32, UInt32.reduceToNat,
    Nat.shiftLeft_eq, Nat.reduceMod]
  rw [Nat.mod_eq_of_lt (by omega), Nat.mod_eq_of_lt (by omega), Nat.mod_eq_of_lt (by omega),
    hor01, hor012]
  exact or_eq_add 8 (by omega) (by omega)

/-- A number without its last bytes, and the last of these. -/
theorem div_join (n k : Nat) : n / 2 ^ (k + 8) * 2 ^ 8 + n / 2 ^ k % 2 ^ 8 = n / 2 ^ k := by
  rw [Nat.pow_add, ← Nat.div_div_eq_div_mul]
  exact Nat.div_add_mod' (n / 2 ^ k) (2 ^ 8)

/-- One round of the loop of `ByteReader::u64`. -/
theorem toNat_u64_round {v : UInt64} (b : UInt8) (h : v.toNat < 2 ^ 56) :
    (v <<< 8 ||| b.toUInt64).toNat = v.toNat * 2 ^ 8 + b.toNat := by
  have hb := b.toNat_lt
  simp only [UInt64.toNat_or, UInt64.toNat_shiftLeft, UInt8.toNat_toUInt64, UInt64.reduceToNat,
    Nat.shiftLeft_eq, Nat.reduceMod]
  rw [Nat.mod_eq_of_lt (by omega)]
  exact or_eq_add 8 (by omega) (by omega)

/-- The loop of `ByteReader::u64` does not overflow. -/
theorem toNat_u64_loop (bs : List UInt8) (h : bs.length ≤ 8) :
    (bs.foldl (fun (v : UInt64) (b : UInt8) => v <<< 8 ||| b.toUInt64) 0).toNat
        = bs.foldl (fun n b => n * 2 ^ 8 + b.toNat) 0 ∧
      bs.foldl (fun n b => n * 2 ^ 8 + b.toNat) 0 < 2 ^ (8 * bs.length) := by
  induction bs using List.reverseRecOn with
  | nil => simp
  | append_singleton bs b ih =>
    rw [List.length_append, List.length_singleton] at h
    obtain ⟨heq, hlt⟩ := ih (by omega)
    have hb := b.toNat_lt
    have hpow : 2 ^ (8 * bs.length) ≤ 2 ^ 56 := Nat.pow_le_pow_right (by decide) (by omega)
    have hsplit : 2 ^ (8 * (bs.length + 1)) = 2 ^ (8 * bs.length) * 2 ^ 8 := by
      rw [← Nat.pow_add, Nat.mul_add]
    simp only [List.foldl_append, List.foldl_cons, List.foldl_nil, List.length_append,
      List.length_singleton]
    refine ⟨?_, ?_⟩
    · rw [toNat_u64_round b (by omega), heq]
    · omega

namespace ByteReader

@[simp] theorem u8_write (v : UInt8) (rest : ByteString) :
    u8 (ByteWriter.u8 v ++ rest) = some (v, rest) := rfl

@[simp] theorem u16_write (v : UInt16) (rest : ByteString) :
    u16 (ByteWriter.u16 v ++ rest) = some (v, rest) := by
  have hv := v.toNat_lt
  simp only [ByteWriter.u16, List.cons_append, List.nil_append, u16]
  congr 2
  apply UInt16.toNat_inj.mp
  rw [toNat_u16]
  simp only [UInt16.toNat_toUInt8, UInt16.toNat_shiftRight, UInt16.reduceToNat, Nat.reduceMod,
    Nat.shiftRight_eq_div_pow]
  omega

@[simp] theorem u32_write (v : UInt32) (rest : ByteString) :
    u32 (ByteWriter.u32 v ++ rest) = some (v, rest) := by
  have hv := v.toNat_lt
  simp only [ByteWriter.u32, List.cons_append, List.nil_append, u32]
  congr 2
  apply UInt32.toNat_inj.mp
  rw [toNat_u32]
  simp only [UInt32.toNat_toUInt8, UInt32.toNat_shiftRight, UInt32.reduceToNat, Nat.reduceMod,
    Nat.shiftRight_eq_div_pow]
  omega

@[simp] theorem u64_write (v : UInt64) (rest : ByteString) :
    u64 (ByteWriter.u64 v ++ rest) = some (v, rest) := by
  have hv := v.toNat_lt
  simp only [ByteWriter.u64, List.cons_append, List.nil_append, u64]
  congr 2
  apply UInt64.toNat_inj.mp
  rw [(toNat_u64_loop _ (by simp)).1]
  simp only [List.foldl_cons, List.foldl_nil, UInt64.toNat_toUInt8, UInt64.toNat_shiftRight,
    UInt64.reduceToNat, Nat.reduceMod, Nat.shiftRight_eq_div_pow]
  have htop : v.toNat / 2 ^ 56 % 2 ^ 8 = v.toNat / 2 ^ 56 := Nat.mod_eq_of_lt (by omega)
  rw [Nat.zero_mul, Nat.zero_add, htop, div_join _ 48, div_join _ 40, div_join _ 32,
    div_join _ 24, div_join _ 16, div_join _ 8]
  exact Nat.div_add_mod' v.toNat (2 ^ 8)

end ByteReader

/-! The other direction: the bytes that were read are the bytes that the value
would be written as. -/

theorem ByteWriter.u16_read {r rest : ByteReader} {v : UInt16}
    (h : ByteReader.u16 r = some (v, rest)) : r = ByteWriter.u16 v ++ rest := by
  match r, h with
  | b0 :: b1 :: rest', h =>
    have h0 := b0.toNat_lt
    have h1 := b1.toNat_lt
    obtain ⟨rfl, rfl⟩ := Prod.mk.inj (Option.some.inj h)
    simp only [ByteWriter.u16, List.cons_append, List.nil_append, List.cons.injEq, and_true]
    simp only [← UInt8.toNat_inj, UInt16.toNat_toUInt8, UInt16.toNat_shiftRight, toNat_u16,
      UInt16.reduceToNat, Nat.reduceMod, Nat.shiftRight_eq_div_pow]
    omega

theorem ByteWriter.u32_read {r rest : ByteReader} {v : UInt32}
    (h : ByteReader.u32 r = some (v, rest)) : r = ByteWriter.u32 v ++ rest := by
  match r, h with
  | b0 :: b1 :: b2 :: b3 :: rest', h =>
    have h0 := b0.toNat_lt
    have h1 := b1.toNat_lt
    have h2 := b2.toNat_lt
    have h3 := b3.toNat_lt
    obtain ⟨rfl, rfl⟩ := Prod.mk.inj (Option.some.inj h)
    simp only [ByteWriter.u32, List.cons_append, List.nil_append, List.cons.injEq, and_true]
    simp only [← UInt8.toNat_inj, UInt32.toNat_toUInt8, UInt32.toNat_shiftRight, toNat_u32,
      UInt32.reduceToNat, Nat.reduceMod, Nat.shiftRight_eq_div_pow]
    omega

theorem ByteWriter.u64_read {r rest : ByteReader} {v : UInt64}
    (h : ByteReader.u64 r = some (v, rest)) : r = ByteWriter.u64 v ++ rest := by
  match r, h with
  | b0 :: b1 :: b2 :: b3 :: b4 :: b5 :: b6 :: b7 :: rest', h =>
    have h0 := b0.toNat_lt
    have h1 := b1.toNat_lt
    have h2 := b2.toNat_lt
    have h3 := b3.toNat_lt
    have h4 := b4.toNat_lt
    have h5 := b5.toNat_lt
    have h6 := b6.toNat_lt
    have h7 := b7.toNat_lt
    obtain ⟨rfl, rfl⟩ := Prod.mk.inj (Option.some.inj h)
    have hvalue := (toNat_u64_loop [b0, b1, b2, b3, b4, b5, b6, b7] (by simp)).1
    generalize [b0, b1, b2, b3, b4, b5, b6, b7].foldl
      (fun (v : UInt64) (b : UInt8) => v <<< 8 ||| b.toUInt64) 0 = v at hvalue ⊢
    simp only [List.foldl_cons, List.foldl_nil] at hvalue
    simp only [ByteWriter.u64, List.cons_append, List.nil_append, List.cons.injEq, and_true]
    simp only [← UInt8.toNat_inj, UInt64.toNat_toUInt8, UInt64.toNat_shiftRight, hvalue,
      UInt64.reduceToNat, Nat.reduceMod, Nat.shiftRight_eq_div_pow]
    omega

/-! ## Fields -/

theorem reads_u8 (v : UInt8) : Reads (ByteReader.u8 : FieldReader UInt8) (ByteWriter.u8 v) v :=
  ByteReader.u8_write v

theorem reads_u16 (v : UInt16) :
    Reads (ByteReader.u16 : FieldReader UInt16) (ByteWriter.u16 v) v :=
  ByteReader.u16_write v

theorem reads_u32 (v : UInt32) :
    Reads (ByteReader.u32 : FieldReader UInt32) (ByteWriter.u32 v) v :=
  ByteReader.u32_write v

theorem reads_u64 (v : UInt64) :
    Reads (ByteReader.u64 : FieldReader UInt64) (ByteWriter.u64 v) v :=
  ByteReader.u64_write v

theorem reads_f64 (v : DoubleBits) :
    Reads (ByteReader.f64 : FieldReader DoubleBits) (ByteWriter.f64 v) v :=
  ByteReader.u64_write v

theorem reads_i64 (v : Int64) :
    Reads (ByteReader.i64 : FieldReader Int64) (ByteWriter.i64 v) v := by
  intro rest
  have hread : ByteReader.i64 (ByteWriter.i64 v ++ rest) = some (v, rest) := by
    rw [ByteReader.i64, ByteWriter.i64, ByteReader.u64_write, Option.map_some]
    simp only [Int64.toInt64_toUInt64]
  exact hread

theorem reads_string {s : ByteString} {maxLen : Nat} (h : s.length ≤ maxLen)
    (hmax : maxLen < 2 ^ 32 := by decide) :
    Reads (FieldReader.string maxLen) (ByteWriter.string s maxLen) s := by
  intro rest
  have hlen : (UInt32.ofNat s.length).toNat = s.length :=
    UInt32.toNat_ofNat_of_lt' (lt_of_le_of_lt h hmax)
  have hread : (ByteReader.string maxLen (ByteWriter.string s maxLen ++ rest)).toOption
      = some (s, rest) := by
    rw [ByteWriter.string, if_neg (Nat.not_lt.mpr h), List.append_assoc, ByteReader.string,
      ByteReader.bytes, ByteReader.u32_write]
    simp [hlen, Nat.not_lt.mpr h, Nat.not_lt.mpr (Nat.le_add_right _ _), Except.toOption]
  exact hread

/-- A text that was read is within its bound. -/
theorem ensures_string (maxLen : Nat) :
    Ensures (FieldReader.string maxLen) fun s => s.length ≤ maxLen := by
  intro r s r' h
  have hread : (ByteReader.string maxLen r).toOption = some (s, r') := h
  rw [ByteReader.string, ByteReader.bytes] at hread
  split at hread
  · cases hread
  · next out hout =>
    split at hout
    · cases hout
    · next len rest _ =>
      split at hout
      · cases hout
      · next hbound =>
        split at hout
        · cases hout
        · cases hout
          cases hread
          rw [List.length_take]
          omega

theorem reads_raw {b : ByteString} {count : Nat} (h : b.length = count) :
    Reads (fun r => (ByteReader.raw count r).toOption : FieldReader ByteString) b b := by
  intro rest
  have hread : (ByteReader.raw count (b ++ rest)).toOption = some (b, rest) := by
    rw [ByteReader.raw, if_neg (by rw [List.length_append]; omega), List.take_left' h,
      List.drop_left' h]
    rfl
  exact hread

theorem reads_flag (b : Bool) : Reads FieldReader.flag (ByteWriter.flag b) b := by
  refine Reads.last (reads_u8 _) ?_
  cases b <;> rfl

theorem reads_optional {α : Type} {read : FieldReader α} {item : α → ByteString}
    (v : Option α) (h : ∀ x, Reads read (item x) x) :
    Reads (FieldReader.optional read) (ByteWriter.optional item v) v := by
  cases v with
  | none =>
    rw [ByteWriter.optional, ← List.append_nil (ByteWriter.flag false)]
    exact Reads.bind (reads_u8 _) (Reads.pure none)
  | some x =>
    rw [ByteWriter.optional]
    refine Reads.bind (reads_u8 _) ?_
    exact Reads.last (h x) rfl

theorem reads_check {bad : Bool} (h : bad = false) : Reads (FieldReader.reject bad) [] () := by
  intro rest
  rw [h]
  rfl

theorem ensures_check {bad : Bool} : Ensures (FieldReader.reject bad) fun _ => bad = false := by
  intro r v r' hrun
  cases bad with
  | false => rfl
  | true => cases hrun

/-! ## Decoders -/

section Decoders

variable {α : Type} {code : Status} {msg : String}

theorem need_eq_ok {read : FieldReader α} {r r' : ByteReader} {v : α}
    (h : Decoder.need read code msg r = .ok (v, r')) : read r = some (v, r') := by
  rw [Decoder.need] at h
  split at h
  · next out hread =>
    cases h
    exact hread
  · cases h

theorem reads_need {read : FieldReader α} {bytes : ByteString} {v : α}
    (h : Reads read bytes v) : Reads (Decoder.need read code msg) bytes v := by
  intro rest
  have hread : read (bytes ++ rest) = some (v, rest) := h rest
  have hneed : Decoder.need read code msg (bytes ++ rest) = .ok (v, rest) := by
    rw [Decoder.need, hread]
  exact hneed

theorem ensures_need {read : FieldReader α} {P : α → Prop} (h : Ensures read P) :
    Ensures (Decoder.need read code msg) P := by
  intro r v r' hrun
  exact h r v r' (need_eq_ok hrun)

theorem reads_needString {s : ByteString} {maxLen : Nat} (h : s.length ≤ maxLen)
    (hmax : maxLen < 2 ^ 32 := by decide) :
    Reads (Decoder.needString maxLen code msg) (ByteWriter.string s maxLen) s :=
  reads_need (reads_string h hmax)

theorem ensures_needString (maxLen : Nat) :
    Ensures (Decoder.needString maxLen code msg) fun s => s.length ≤ maxLen :=
  ensures_need (ensures_string maxLen)

theorem reads_needFlag (b : Bool) :
    Reads (Decoder.needFlag code msg) (ByteWriter.flag b) b := by
  refine Reads.last (reads_need (reads_u8 _)) ?_
  cases b <;> rfl

theorem reads_needOptional {read : FieldReader α} {item : α → ByteString}
    (v : Option α) (h : ∀ x, Reads read (item x) x) :
    Reads (Decoder.needOptional read code msg) (ByteWriter.optional item v) v := by
  cases v with
  | none =>
    rw [ByteWriter.optional, ← List.append_nil (ByteWriter.flag false)]
    exact .bind (reads_need (reads_u8 _)) (.pure none)
  | some x =>
    rw [ByteWriter.optional]
    refine .bind (reads_need (reads_u8 _)) ?_
    exact .last (reads_need (h x)) rfl

/-- A result that was computed before is read without a byte. -/
theorem reads_needValue {v : Result α} {a : α}
    (h : v = .ok a) : Reads (Decoder.needValue v code msg) [] a := by
  intro rest
  rw [h]
  rfl

theorem reads_reject {bad : Bool} (h : bad = false) :
    Reads (Decoder.reject bad code msg) [] () := by
  intro rest
  rw [h]
  rfl

theorem ensures_reject {bad : Bool} :
    Ensures (Decoder.reject bad code msg) fun _ => bad = false := by
  intro r v r' hrun
  have hreject : Decoder.reject bad code msg r = .ok (v, r') := hrun
  rw [Decoder.reject] at hreject
  cases bad with
  | false => rfl
  | true => cases hreject

theorem times_eq (item : Decoder α) (n : Nat) : Decoder.times item n = Reading.times item n := by
  induction n with
  | zero => rfl
  | succ n ih =>
    rw [Decoder.times, Reading.times, ih]

theorem readsAll_done : ReadsAll (Decoder.done code msg) [] () := rfl

/-- A decoder that reads a whole buffer. -/
theorem decode_readsAll {d : Decoder α} {data : ByteString} {v : α} (h : ReadsAll d data v) :
    d.decode data = .ok v := by
  have hrun : d.run data = .ok (v, []) := h
  rw [Decoder.decode, hrun]
  rfl

theorem decode_ensures {d : Decoder α} {P : α → Prop} (h : Ensures d P) {data : ByteString}
    {v : α} (hdecode : d.decode data = .ok v) : P v := by
  rw [Decoder.decode] at hdecode
  cases hrun : d.run data with
  | error e =>
    rw [hrun] at hdecode
    cases hdecode
  | ok out =>
    rw [hrun] at hdecode
    cases hdecode
    exact h data out.1 out.2 hrun

end Decoders

end GpuFleet
