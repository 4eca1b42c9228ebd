import GpuFleet.Core.Codec
import GpuFleet.Observation.Model

/-!
# Payloads of administrative messages

`protocol/admin_payload.hpp`: the targets of drain, quarantine and clear
commands.  A drain level is the one enumeration of the protocol that is
checked when it is decoded.
-/

namespace GpuFleet

open Decoder

/-- `encode_identity_target`. -/
def encodeIdentityTarget (identity : ByteString) : ByteString :=
  ByteWriter.string identity 1024

/-- The body of `decode_identity_target`. -/
def identityTargetDecoder : Decoder ByteString := do
  let identity ← needString 1024 .malformed "identity target malformed"
  done .malformed "trailing garbage in identity target"
  pure identity

/-- `decode_identity_target`. -/
def decodeIdentityTarget (data : ByteString) : Result ByteString :=
  identityTargetDecoder.decode data

/-- What `decode_drain_target` returns. -/
structure DrainTarget where
  identity : ByteString
  level : DrainState := .active
  deriving DecidableEq, Repr

/-- `encode_drain_target`. -/
def encodeDrainTarget (identity : ByteString) (level : DrainState) : ByteString :=
  ByteWriter.string identity 1024 ++ ByteWriter.u8 level.toByte

/-- The body of `decode_drain_target`. -/
def drainTargetDecoder : Decoder DrainTarget := do
  let identity ← needString 1024 .malformed "drain identity malformed"
  let level ← need ByteReader.u8 .malformed "drain level malformed"
  reject (decide (level > DrainState.drained.toByte)) .invalidEnum "invalid drain state enum"
  done .malformed "trailing garbage in drain target"
  pure ⟨identity, .ofByte level⟩

/-- `decode_drain_target`. -/
def decodeDrainTarget (data : ByteString) : Result DrainTarget :=
  drainTargetDecoder.decode data

/-- What `decode_quarantine` returns. -/
structure QuarantineTarget where
  identity : ByteString
  reason : ByteString
  source : ByteString
  generation : DeviceGeneration
  deriving DecidableEq, Repr

/-- `encode_quarantine`. -/
def encodeQuarantine (identity reason source : ByteString) (gen : DeviceGeneration) :
    ByteString :=
  ByteWriter.string identity 1024
    ++ ByteWriter.string reason 512
    ++ ByteWriter.string source 128
    ++ ByteWriter.u64 gen.value

/-- The body of `decode_quarantine`. -/
def quarantineDecoder : Decoder QuarantineTarget := do
  let identity ← needString 1024 .malformed "identity malformed"
  let reason ← needString 512 .malformed "reason malformed"
  let source ← needString 128 .malformed "source malformed"
  let generation ← need ByteReader.u64 .malformed "generation malformed"
  done .malformed "trailing garbage in quarantine"
  pure ⟨identity, reason, source, ⟨generation⟩⟩

/-- `decode_quarantine`. -/
def decodeQuarantine (data : ByteString) : Result QuarantineTarget :=
  quarantineDecoder.decode data

end GpuFleet
