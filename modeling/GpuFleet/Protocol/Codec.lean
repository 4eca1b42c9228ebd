import GpuFleet.Core.Delimited
import GpuFleet.Protocol.Message

/-!
# The message codec

`protocol/codec.hpp`.  A message is a type byte, twelve words, the `ok` byte
and two length-prefixed fields.  The writer cuts the reason at
`kMaxStringLen` bytes, and the reader takes 4096: what is over that bound is
rejected as truncated input and never read as another message.
-/

namespace GpuFleet

open Reading Decoder

/-- `encode_message`. -/
def encodeMessage (m : Message) : ByteString :=
  ByteWriter.u8 m.type.toByte
    ++ ByteWriter.u64 m.coordinator.value
    ++ ByteWriter.u64 m.epoch.value
    ++ ByteWriter.u64 m.workerBoot.value
    ++ ByteWriter.u64 m.worker.value
    ++ ByteWriter.u64 m.node.value
    ++ ByteWriter.u64 m.agent.value
    ++ ByteWriter.u64 m.regGen.value
    ++ ByteWriter.u64 m.obsGen.value
    ++ ByteWriter.u64 m.healthGen.value
    ++ ByteWriter.u64 m.deviceGen.value
    ++ ByteWriter.u64 m.capGen.value
    ++ ByteWriter.u64 m.requestId
    ++ ByteWriter.flag m.ok
    ++ ByteWriter.string m.reason kMaxStringLen
    ++ ByteWriter.bytes m.payload

/-- The body of `decode_message`. -/
def messageDecoder : Decoder Message := do
  let type ← need ByteReader.u8 .truncated "message type truncated"
  reject (!validMessageType type) .invalidEnum "unknown message type"
  let coordinator ← need ByteReader.u64 .truncated "coordinator truncated"
  let epoch ← need ByteReader.u64 .truncated "epoch truncated"
  let workerBoot ← need ByteReader.u64 .truncated "worker_boot truncated"
  let worker ← need ByteReader.u64 .truncated "worker truncated"
  let node ← need ByteReader.u64 .truncated "node truncated"
  let agent ← need ByteReader.u64 .truncated "agent truncated"
  let regGen ← need ByteReader.u64 .truncated "reg_gen truncated"
  let obsGen ← need ByteReader.u64 .truncated "obs_gen truncated"
  let healthGen ← need ByteReader.u64 .truncated "health_gen truncated"
  let deviceGen ← need ByteReader.u64 .truncated "device_gen truncated"
  let capGen ← need ByteReader.u64 .truncated "cap_gen truncated"
  let requestId ← need ByteReader.u64 .truncated "request_id truncated"
  let ok ← needFlag .truncated "ok truncated"
  let reason ← needString 4096 .truncated "reason truncated"
  let payload ← need (FieldReader.bytes kMaxBytesLen) .truncated "payload truncated"
  done .malformed "trailing garbage after message"
  pure {
    type := .ofByte type
    coordinator := ⟨coordinator⟩
    epoch := ⟨epoch⟩
    workerBoot := ⟨workerBoot⟩
    worker := ⟨worker⟩
    node := ⟨node⟩
    agent := ⟨agent⟩
    regGen := ⟨regGen⟩
    obsGen := ⟨obsGen⟩
    healthGen := ⟨healthGen⟩
    deviceGen := ⟨deviceGen⟩
    capGen := ⟨capGen⟩
    requestId := requestId
    ok := ok
    reason := reason
    payload := payload }

/-- `decode_message`. -/
def decodeMessage (data : ByteString) : Result Message := messageDecoder.decode data

/-! ## Layout -/

/-- The fields in front of the `ok` byte. -/
def messageHead (m : Message) : ByteString :=
  ByteWriter.u8 m.type.toByte ++ [m.coordinator.value, m.epoch.value, m.workerBoot.value,
    m.worker.value, m.node.value, m.agent.value, m.regGen.value, m.obsGen.value,
    m.healthGen.value, m.deviceGen.value, m.capGen.value, m.requestId].flatMap ByteWriter.u64

theorem messageHead_length (m : Message) : (messageHead m).length = 97 := rfl

/-- The head, field by field. -/
theorem messageHead_append (m : Message) (rest : ByteString) :
    messageHead m ++ rest = ByteWriter.u8 m.type.toByte
      ++ (ByteWriter.u64 m.coordinator.value ++ (ByteWriter.u64 m.epoch.value
      ++ (ByteWriter.u64 m.workerBoot.value ++ (ByteWriter.u64 m.worker.value
      ++ (ByteWriter.u64 m.node.value ++ (ByteWriter.u64 m.agent.value
      ++ (ByteWriter.u64 m.regGen.value ++ (ByteWriter.u64 m.obsGen.value
      ++ (ByteWriter.u64 m.healthGen.value ++ (ByteWriter.u64 m.deviceGen.value
      ++ (ByteWriter.u64 m.capGen.value ++ (ByteWriter.u64 m.requestId ++ rest)))))))))))) := by
  simp only [messageHead, List.flatMap_cons, List.flatMap_nil, List.append_assoc, List.append_nil]

theorem encodeMessage_eq (m : Message) :
    encodeMessage m = messageHead m ++ ByteWriter.flag m.ok
      ++ ByteWriter.string m.reason kMaxStringLen ++ ByteWriter.bytes m.payload := by
  simp only [encodeMessage, List.append_assoc, messageHead_append]

/-- The place of the `ok` byte. -/
theorem encodeMessage_set_ok (m : Message) (k : UInt8) :
    (encodeMessage m).set 97 k = messageHead m ++ ByteWriter.u8 k
      ++ ByteWriter.string m.reason kMaxStringLen ++ ByteWriter.bytes m.payload := by
  have hhead := messageHead_length m
  rw [encodeMessage_eq, List.append_assoc, List.append_assoc, List.set_append_right _ _ (by omega),
    hhead, Nat.sub_self, List.append_assoc, List.append_assoc]
  rfl

/-! ## Both directions -/

theorem readsAll_encodeMessage {m : Message} (hreason : m.reason.length ≤ 4096)
    (hpayload : m.payload.length ≤ kMaxBytesLen) :
    ReadsAll messageDecoder (encodeMessage m) m := by
  have hstring : ByteWriter.string m.reason kMaxStringLen = ByteWriter.string m.reason 4096 := by
    have hmax : m.reason.length ≤ kMaxStringLen := hreason.trans (by decide)
    rw [string_eq_bytes_of_le hmax, string_eq_bytes_of_le hreason]
  unfold messageDecoder encodeMessage
  rw [hstring]
  simp only [List.append_assoc]
  refine .bind (reads_need (reads_u8 _)) ?_
  refine .skip (reads_reject (by rw [m.type.valid_toByte]; rfl)) ?_
  refine .bind (reads_need (reads_u64 _)) ?_
  refine .bind (reads_need (reads_u64 _)) ?_
  refine .bind (reads_need (reads_u64 _)) ?_
  refine .bind (reads_need (reads_u64 _)) ?_
  refine .bind (reads_need (reads_u64 _)) ?_
  refine .bind (reads_need (reads_u64 _)) ?_
  refine .bind (reads_need (reads_u64 _)) ?_
  refine .bind (reads_need (reads_u64 _)) ?_
  refine .bind (reads_need (reads_u64 _)) ?_
  refine .bind (reads_need (reads_u64 _)) ?_
  refine .bind (reads_need (reads_u64 _)) ?_
  refine .bind (reads_need (reads_u64 _)) ?_
  refine .bind (reads_needFlag _) ?_
  refine .bind (reads_needString hreason) ?_
  rw [← List.append_nil (ByteWriter.bytes m.payload)]
  refine .bind (reads_need (reads_bytes hpayload)) ?_
  refine .last readsAll_done ?_
  rw [MessageType.ofByte_toByte]

/-- What `decode_message` takes off is the encoding of what it produces, up to
the `ok` byte. -/
theorem spells_message :
    Spells messageDecoder fun used m => m.reason.length ≤ 4096 ∧
      ∃ k : UInt8, decide (k ≠ 0) = m.ok ∧
        used = messageHead m ++ ByteWriter.u8 k ++ ByteWriter.bytes m.reason
          ++ ByteWriter.bytes m.payload := by
  unfold messageDecoder
  refine .field (spells_need spells_u8) fun type => ?_
  refine .bind (spells_reject _) ?_
  rintro _ _ ⟨rfl, hvalid⟩
  have htype : (MessageType.ofByte type).toByte = type :=
    MessageType.toByte_ofByte (by simpa using hvalid)
  refine .field (spells_need spells_u64) fun coordinator => ?_
  refine .field (spells_need spells_u64) fun epoch => ?_
  refine .field (spells_need spells_u64) fun workerBoot => ?_
  refine .field (spells_need spells_u64) fun worker => ?_
  refine .field (spells_need spells_u64) fun node => ?_
  refine .field (spells_need spells_u64) fun agent => ?_
  refine .field (spells_need spells_u64) fun regGen => ?_
  refine .field (spells_need spells_u64) fun obsGen => ?_
  refine .field (spells_need spells_u64) fun healthGen => ?_
  refine .field (spells_need spells_u64) fun deviceGen => ?_
  refine .field (spells_need spells_u64) fun capGen => ?_
  refine .field (spells_need spells_u64) fun requestId => ?_
  refine .bind spells_needFlag ?_
  rintro _ ok ⟨k, hk, rfl⟩
  refine .bind (spells_needString 4096) ?_
  rintro _ reason ⟨hreason, rfl⟩
  refine .bind (spells_need (spells_bytes kMaxBytesLen)) ?_
  rintro _ payload ⟨-, -, rfl⟩
  refine .bind spells_done ?_
  rintro _ _ rfl
  refine .pure ⟨hreason, k, hk, ?_⟩
  rw [List.append_assoc, List.append_assoc, messageHead_append]
  dsimp only
  rw [htype, List.append_nil, List.append_nil, List.nil_append]

theorem finishes_message : Finishes messageDecoder := by
  unfold messageDecoder
  refine .bind fun _ => .bind fun _ => .bind fun _ => .bind fun _ => .bind fun _ => ?_
  refine .bind fun _ => .bind fun _ => .bind fun _ => .bind fun _ => .bind fun _ => ?_
  refine .bind fun _ => .bind fun _ => .bind fun _ => .bind fun _ => .bind fun _ => ?_
  exact .bind fun _ => .bind fun _ => .last finishes_done

theorem decodeMessage_spells {b : ByteString} {m : Message} (h : decodeMessage b = .ok m) :
    m.reason.length ≤ 4096 ∧
      ∃ k : UInt8, decide (k ≠ 0) = m.ok ∧
        b = messageHead m ++ ByteWriter.u8 k ++ ByteWriter.bytes m.reason
          ++ ByteWriter.bytes m.payload :=
  decode_spells spells_message finishes_message h

/-- The length in front of some bytes is read back, whatever follows. -/
theorem bytes_length_inj {a b rest rest' : ByteString} (ha : a.length < 2 ^ 32)
    (hb : b.length < 2 ^ 32) (h : ByteWriter.bytes a ++ rest = ByteWriter.bytes b ++ rest') :
    a.length = b.length := by
  have hread := congrArg ByteReader.u32 h
  rw [ByteWriter.bytes, ByteWriter.bytes, List.append_assoc, List.append_assoc,
    ByteReader.u32_write, ByteReader.u32_write] at hread
  have hcount := (Prod.mk.inj (Option.some.inj hread)).1
  rw [← UInt32.toNat_ofNat_of_lt' ha, ← UInt32.toNat_ofNat_of_lt' hb, hcount]

/-- A reason over the bound of the reader is not read, although the writer has
cut it at a bound of its own. -/
theorem decodeMessage_long_reason {m : Message} (h : 4096 < m.reason.length) :
    Rejects decodeMessage (encodeMessage m) := by
  refine rejects_of_not_ok fun m' hdecode => ?_
  obtain ⟨hreason, k, -, hbytes⟩ := decodeMessage_spells hdecode
  -- what the writer puts down for the reason is still over the bound
  obtain ⟨cut, hcut, hlong, hshort⟩ : ∃ cut : ByteString,
      ByteWriter.string m.reason kMaxStringLen = ByteWriter.bytes cut ∧
        4096 < cut.length ∧ cut.length < 2 ^ 32 := by
    rw [ByteWriter.string]
    by_cases hmax : m.reason.length > kMaxStringLen
    · rw [if_pos hmax]
      refine ⟨m.reason.take kMaxStringLen, rfl, ?_, ?_⟩ <;> rw [List.length_take, kMaxStringLen]
      · omega
      · omega
    · rw [if_neg hmax]
      rw [kMaxStringLen] at hmax
      exact ⟨m.reason, rfl, h, by omega⟩
  rw [encodeMessage_eq, hcut, List.append_assoc,
    List.append_assoc _ _ (ByteWriter.bytes m'.payload)]
    at hbytes
  have htail := List.append_inj_right hbytes (by
    simp [messageHead_length])
  have hlength := bytes_length_inj hshort (by omega) htail
  omega

/-- The codec in both directions.  A message whose payload has a length that
can be read is decoded to itself, unless its reason is over the bound, and then
it is rejected.  And what `decode_message` accepts is the encoding of what it
answers, but for the byte at 97, which is any byte that is not zero where
`encode_message` writes a one. -/
theorem decodeMessage_encodeMessage :
    (∀ m : Message, m.payload.length ≤ kMaxBytesLen →
      (m.reason.length ≤ 4096 → decodeMessage (encodeMessage m) = .ok m) ∧
      (4096 < m.reason.length → ∃ e, decodeMessage (encodeMessage m) = .error e)) ∧
    (∀ (b : ByteString) (m : Message), decodeMessage b = .ok m →
      (encodeMessage m)[97]? = some (if m.ok then 1 else 0) ∧
      ∃ k : UInt8, (m.ok = true ↔ k ≠ 0) ∧ b = (encodeMessage m).set 97 k) := by
  refine ⟨?_, ?_⟩
  · intro m hpayload
    refine ⟨?_, ?_⟩
    · intro hreason
      exact decode_readsAll (readsAll_encodeMessage hreason hpayload)
    · intro hlong
      exact decodeMessage_long_reason hlong
  · intro b m hdecode
    obtain ⟨hreason, k, hk, hbytes⟩ := decodeMessage_spells hdecode
    refine ⟨?_, k, ?_, ?_⟩
    · rw [encodeMessage_eq, List.append_assoc, List.append_assoc, List.getElem?_append_right
        (by rw [messageHead_length]), messageHead_length]
      rfl
    · rw [← hk, decide_eq_true_eq]
    · have hmax : m.reason.length ≤ kMaxStringLen := hreason.trans (by decide)
      rw [encodeMessage_set_ok, string_eq_bytes_of_le hmax]
      exact hbytes

/-- A message that carries a payload, and its encoding with another `ok`
byte. -/
theorem decodeMessage_encodeMessage_sample :
    decodeMessage (encodeMessage { type := .ack, epoch := ⟨7⟩, payload := [1, 2] })
        = .ok { type := .ack, epoch := ⟨7⟩, payload := [1, 2] } ∧
      ∃ k : UInt8, k ≠ 0 ∧
        (encodeMessage { type := .ack }).set 97 9 = (encodeMessage { type := .ack }).set 97 k := by
  have hdecode : decodeMessage ((encodeMessage { type := .ack }).set 97 9)
      = .ok { type := .ack } := by decide +kernel
  obtain ⟨-, k, hk, hbytes⟩ := decodeMessage_encodeMessage.2 _ _ hdecode
  exact ⟨(decodeMessage_encodeMessage.1 _ (by decide)).1 (by decide), k, hk.mp rfl, hbytes⟩

end GpuFleet
