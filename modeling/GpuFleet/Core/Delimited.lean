import GpuFleet.Core.RoundTrip

/-!
# What the byte codec takes off

A read of `core/codec.hpp` looks at the bytes that it takes off and, apart from
a length that is checked against what is left, at nothing else.  So a field is
read the same way in a longer buffer (`Local`), and for most fields the bytes
that were taken off can be told from the value (`Spells`).

`done` is the only read that looks at the end of the buffer.  A decoder that
ends with it is `Delimited`: of two buffers that it accepts, neither is the
beginning of the other.
-/

namespace GpuFleet

open Reading

/-! ## Fields -/

theorem spells_u8 :
    Spells (ByteReader.u8 : FieldReader UInt8) fun used v => used = ByteWriter.u8 v := by
  intro r v r' hrun
  have hread : ByteReader.u8 r = some (v, r') := hrun
  match r, hread with
  | b :: rest, hread =>
    obtain ⟨rfl, rfl⟩ := Prod.mk.inj (Option.some.inj hread)
    exact ⟨[b], rfl, rfl⟩

theorem spells_u16 :
    Spells (ByteReader.u16 : FieldReader UInt16) fun used v => used = ByteWriter.u16 v :=
  fun _ v _ hrun => ⟨ByteWriter.u16 v, ByteWriter.u16_read hrun, rfl⟩

theorem spells_u32 :
    Spells (ByteReader.u32 : FieldReader UInt32) fun used v => used = ByteWriter.u32 v :=
  fun _ v _ hrun => ⟨ByteWriter.u32 v, ByteWriter.u32_read hrun, rfl⟩

theorem spells_u64 :
    Spells (ByteReader.u64 : FieldReader UInt64) fun used v => used = ByteWriter.u64 v :=
  fun _ v _ hrun => ⟨ByteWriter.u64 v, ByteWriter.u64_read hrun, rfl⟩

theorem spells_f64 :
    Spells (ByteReader.f64 : FieldReader DoubleBits) fun used v => used = ByteWriter.f64 v :=
  spells_u64

theorem spells_i64 :
    Spells (ByteReader.i64 : FieldReader Int64) fun used v => used = ByteWriter.i64 v := by
  intro r v r' hrun
  have hread : ByteReader.i64 r = some (v, r') := hrun
  rw [ByteReader.i64] at hread
  obtain ⟨⟨u, rest⟩, hu, hpair⟩ := Option.map_eq_some_iff.mp hread
  obtain ⟨rfl, rfl⟩ := Prod.mk.inj hpair
  refine ⟨ByteWriter.u64 u, ByteWriter.u64_read hu, ?_⟩
  show ByteWriter.u64 u = ByteWriter.u64 u.toInt64.toUInt64
  rw [UInt64.toUInt64_toInt64]

theorem local_u8 : Local (ByteReader.u8 : FieldReader UInt8) := .of_write spells_u8 reads_u8

theorem local_u16 : Local (ByteReader.u16 : FieldReader UInt16) := .of_write spells_u16 reads_u16

theorem local_u32 : Local (ByteReader.u32 : FieldReader UInt32) := .of_write spells_u32 reads_u32

theorem local_u64 : Local (ByteReader.u64 : FieldReader UInt64) := .of_write spells_u64 reads_u64

theorem local_i64 : Local (ByteReader.i64 : FieldReader Int64) := .of_write spells_i64 reads_i64

theorem local_f64 : Local (ByteReader.f64 : FieldReader DoubleBits) := .of_write spells_f64 reads_f64

/-! ## Length-prefixed fields -/

/-- A text is read as bytes are.  Only the errors differ. -/
theorem string_eq_bytes (maxLen : Nat) : FieldReader.string maxLen = FieldReader.bytes maxLen := by
  funext r
  show (ByteReader.string maxLen r).toOption = (ByteReader.bytes maxLen r).toOption
  rw [ByteReader.string]
  cases ByteReader.bytes maxLen r <;> rfl

/-- A text that the reader would take is written whole. -/
theorem string_eq_bytes_of_le {s : ByteString} {maxLen : Nat} (h : s.length ≤ maxLen) :
    ByteWriter.string s maxLen = ByteWriter.bytes s := by
  rw [ByteWriter.string, if_neg (Nat.not_lt.mpr h)]
  rfl

theorem reads_bytes {b : ByteString} {maxLen : Nat} (h : b.length ≤ maxLen)
    (hmax : maxLen < 2 ^ 32 := by decide) :
    Reads (FieldReader.bytes maxLen) (ByteWriter.bytes b) b := by
  have hstring := reads_string h hmax
  rwa [string_eq_bytes, string_eq_bytes_of_le h] at hstring

/-- The length in front is the length of what was read. -/
theorem spells_bytes (maxLen : Nat) :
    Spells (FieldReader.bytes maxLen) fun used b =>
      b.length ≤ maxLen ∧ b.length < 2 ^ 32 ∧ used = ByteWriter.bytes b := by
  intro r b r' hrun
  have hread : (ByteReader.bytes maxLen r).toOption = some (b, r') := hrun
  rw [ByteReader.bytes] at hread
  split at hread
  · cases hread
  · next len rest hlen =>
    split at hread
    · cases hread
    · next hbound =>
      split at hread
      · cases hread
      · next hleft =>
        obtain ⟨rfl, rfl⟩ := Prod.mk.inj (Option.some.inj hread)
        have hlength : (rest.take len.toNat).length = len.toNat := by
          rw [List.length_take]
          omega
        refine ⟨ByteWriter.bytes (rest.take len.toNat), ?_, ?_, ?_, rfl⟩
        · rw [ByteWriter.bytes, hlength, UInt32.ofNat_toNat, List.append_assoc,
            List.take_append_drop]
          exact ByteWriter.u32_read hlen
        · omega
        · rw [hlength]
          exact len.toNat_lt

theorem local_bytes (maxLen : Nat) : Local (FieldReader.bytes maxLen) := by
  refine (spells_bytes maxLen).mono fun used b hused => ?_
  obtain ⟨hbound, hlength, rfl⟩ := hused
  intro rest
  have hlen : (UInt32.ofNat b.length).toNat = b.length := UInt32.toNat_ofNat_of_lt' hlength
  have hread : (ByteReader.bytes maxLen (ByteWriter.bytes b ++ rest)).toOption
      = some (b, rest) := by
    rw [ByteWriter.bytes, List.append_assoc, ByteReader.bytes, ByteReader.u32_write]
    simp [hlen, Nat.not_lt.mpr hbound, Nat.not_lt.mpr (Nat.le_add_right _ _), Except.toOption]
  exact hread

theorem local_string (maxLen : Nat) : Local (FieldReader.string maxLen) := by
  rw [string_eq_bytes]
  exact local_bytes maxLen

/-- `ByteReader::raw`. -/
theorem local_raw (count : Nat) :
    Local (fun r => (ByteReader.raw count r).toOption : FieldReader ByteString) := by
  intro r b r' hrun
  have hread : (ByteReader.raw count r).toOption = some (b, r') := hrun
  rw [ByteReader.raw] at hread
  split at hread
  · cases hread
  · next hcount =>
    obtain ⟨rfl, rfl⟩ := Prod.mk.inj (Option.some.inj hread)
    have hlength : (r.take count).length = count := by
      rw [List.length_take]
      omega
    exact ⟨r.take count, (List.take_append_drop count r).symm, reads_raw hlength⟩

theorem local_flag : Local FieldReader.flag :=
  local_u8.bind fun b => .pure (decide (b ≠ 0))

theorem local_optional {α : Type} {read : FieldReader α} (h : Local read) :
    Local (FieldReader.optional read) := by
  refine local_u8.bind fun present => ?_
  exact .ite (.pure none) (h.bind fun v => .pure (some v))

theorem spells_check (bad : Bool) :
    Spells (FieldReader.reject bad) fun used _ => used = [] ∧ bad = false := by
  intro r v r' hrun
  cases bad with
  | false =>
    obtain ⟨-, rfl⟩ := Prod.mk.inj (Option.some.inj hrun)
    exact ⟨[], rfl, rfl, rfl⟩
  | true => cases hrun

theorem local_check (bad : Bool) : Local (FieldReader.reject bad) := by
  refine (spells_check bad).mono ?_
  rintro _ _ ⟨rfl, hbad⟩
  exact reads_check hbad

/-! ## Decoders -/

section Decoders

variable {α : Type} {code : Status} {msg : String}

theorem spells_need {read : FieldReader α} {P : ByteString → α → Prop} (h : Spells read P) :
    Spells (Decoder.need read code msg) P := by
  intro r v r' hrun
  exact h r v r' (need_eq_ok hrun)

theorem local_need {read : FieldReader α} (h : Local read) :
    Local (Decoder.need read code msg) :=
  (spells_need h).mono fun _ _ hused => reads_need hused

theorem spells_needString (maxLen : Nat) :
    Spells (Decoder.needString maxLen code msg) fun used s =>
      s.length ≤ maxLen ∧ used = ByteWriter.bytes s := by
  have hstring : Spells (FieldReader.string maxLen) fun used s =>
      s.length ≤ maxLen ∧ used = ByteWriter.bytes s := by
    rw [string_eq_bytes]
    exact (spells_bytes maxLen).mono fun used s hused => ⟨hused.1, hused.2.2⟩
  exact spells_need hstring

/-- Every byte but zero reads as `true`. -/
theorem spells_needFlag :
    Spells (Decoder.needFlag code msg) fun used b =>
      ∃ k : UInt8, decide (k ≠ 0) = b ∧ used = ByteWriter.u8 k := by
  refine .bind (spells_need spells_u8) ?_
  rintro _ k rfl
  exact .pure ⟨k, rfl, List.append_nil _⟩

theorem spells_reject (bad : Bool) :
    Spells (Decoder.reject bad code msg) fun used _ => used = [] ∧ bad = false := by
  intro r v r' hrun
  cases bad with
  | false =>
    obtain ⟨-, rfl⟩ := Prod.mk.inj (Except.ok.inj hrun)
    exact ⟨[], rfl, rfl, rfl⟩
  | true => cases hrun

theorem spells_done : Spells (Decoder.done code msg) fun used _ => used = [] := by
  intro r v r' hrun
  have hdone : Decoder.done code msg r = .ok (v, r') := hrun
  rw [Decoder.done] at hdone
  split at hdone
  · obtain ⟨-, rfl⟩ := Prod.mk.inj (Except.ok.inj hdone)
    exact ⟨[], rfl, rfl⟩
  · cases hdone

theorem local_needString (maxLen : Nat) : Local (Decoder.needString maxLen code msg) :=
  local_need (local_string maxLen)

theorem local_needFlag : Local (Decoder.needFlag code msg) :=
  (local_need local_u8).bind fun b => .pure (decide (b ≠ 0))

theorem local_needOptional {read : FieldReader α} (h : Local read) :
    Local (Decoder.needOptional read code msg) := by
  refine (local_need local_u8).bind fun present => ?_
  exact .ite (.pure none) ((local_need h).bind fun v => .pure (some v))

/-- A result that was computed before takes nothing off. -/
theorem local_needValue (v : Result α) : Local (Decoder.needValue v code msg) := by
  cases v with
  | error e =>
    intro r a r' hrun
    cases hrun
  | ok a =>
    intro r a' r' hrun
    obtain ⟨rfl, rfl⟩ := Prod.mk.inj (Except.ok.inj hrun)
    exact ⟨[], rfl, reads_needValue rfl⟩

theorem local_reject (bad : Bool) : Local (Decoder.reject bad code msg) := by
  refine (spells_reject bad).mono ?_
  rintro _ _ ⟨rfl, hbad⟩
  exact reads_reject hbad

theorem local_times {item : Decoder α} (h : Local item) (n : Nat) :
    Local (Decoder.times item n) := by
  rw [times_eq]
  exact h.times n

theorem finishes_done : Finishes (Decoder.done code msg) := by
  intro r v r' hrun
  have hdone : Decoder.done code msg r = .ok (v, r') := hrun
  rw [Decoder.done] at hdone
  split at hdone
  · next hempty =>
    obtain ⟨-, rfl⟩ := Prod.mk.inj (Except.ok.inj hdone)
    exact List.isEmpty_iff.mp hempty
  · cases hdone

theorem delimited_done : Delimited (Decoder.done code msg) := by
  intro r more v r₁ w r₂ hrun hrun'
  have hdone : Decoder.done code msg (r ++ more) = .ok (w, r₂) := hrun'
  rw [Decoder.done] at hdone
  split at hdone
  · next hempty =>
    rw [List.isEmpty_iff, List.append_eq_nil_iff] at hempty
    exact hempty.2
  · cases hdone

/-- What a decoder makes of a whole buffer is what it reads from it. -/
theorem decode_eq_ok {d : Decoder α} {data : ByteString} {v : α} :
    d.decode data = .ok v ↔ ∃ rest, d.run data = .ok (v, rest) := by
  rw [Decoder.decode]
  constructor
  · intro hdecode
    cases hrun : d.run data with
    | error e =>
      rw [hrun] at hdecode
      cases hdecode
    | ok out =>
      rw [hrun] at hdecode
      cases hdecode
      exact ⟨out.2, rfl⟩
  · rintro ⟨rest, hrun⟩
    rw [hrun]
    rfl

/-- A decoder that leaves nothing takes the whole buffer off. -/
theorem decode_spells {d : Decoder α} {P : ByteString → α → Prop} (h : Spells d P)
    (hall : Finishes d) {data : ByteString} {v : α} (hdecode : d.decode data = .ok v) :
    P data v := by
  obtain ⟨rest, hrun⟩ := decode_eq_ok.mp hdecode
  obtain ⟨used, hdata, hP⟩ := h data v rest hrun
  rw [hall data v rest hrun, List.append_nil] at hdata
  rw [hdata]
  exact hP

/-- `b` is rejected: the decoder answers an error. -/
def Rejects (decode : ByteString → Result α) (b : ByteString) : Prop :=
  ∃ e, decode b = .error e

theorem rejects_of_not_ok {decode : ByteString → Result α} {b : ByteString}
    (h : ∀ v, decode b ≠ .ok v) : Rejects decode b := by
  cases hdecode : decode b with
  | error e => exact ⟨e, hdecode⟩
  | ok v => exact absurd hdecode (h v)

/-- Every proper prefix and every proper extension of what is accepted is
rejected. -/
def SelfDelimiting (decode : ByteString → Result α) : Prop :=
  ∀ b v, decode b = .ok v →
    (∀ cut more, more ≠ [] → b = cut ++ more → Rejects decode cut) ∧
    (∀ more, more ≠ [] → Rejects decode (b ++ more))

theorem selfDelimiting_of_delimited {d : Decoder α} (h : Delimited d) :
    SelfDelimiting d.decode := by
  -- of two accepted buffers the shorter one cannot begin the longer one
  have hfree : ∀ b more v w, d.decode b = .ok v → d.decode (b ++ more) = .ok w → more = [] := by
    intro b more v w hb hmore
    obtain ⟨rest, hrun⟩ := decode_eq_ok.mp hb
    obtain ⟨rest', hrun'⟩ := decode_eq_ok.mp hmore
    exact h b more v rest w rest' hrun hrun'
  intro b v hb
  refine ⟨?_, ?_⟩
  · rintro cut more hmore rfl
    exact rejects_of_not_ok fun w hcut => hmore (hfree cut more w v hcut hb)
  · intro more hmore
    exact rejects_of_not_ok fun w hlong => hmore (hfree b more v w hb hlong)

end Decoders

end GpuFleet
