import GpuFleet.Core.Codec

/-!
# Worker registration

`fleet/registration.hpp`: the registration record and its wire format.
-/

namespace GpuFleet

/-- `Registration`, with the defaults of the source. -/
structure Registration where
  node : NodeId := {}
  worker : WorkerId := {}
  workerBoot : WorkerBootId := {}
  agentVersion : SemanticVersion := {}
  protocolVersion : ProtocolVersion := {}
  osPlatform : ByteString := []
  driverVersion : DriverVersion := {}
  runtimeVersion : RuntimeVersion := {}
  enumeratedDevices : List ByteString := []
  supportedCapabilities : List ByteString := []
  registrationGeneration : RegistrationGeneration := {}
  epoch : CoordinatorEpoch := {}
  deriving DecidableEq, Repr

/-- `encode_registration`. -/
def encodeRegistration (r : Registration) : ByteString :=
  ByteWriter.u64 r.node.value
    ++ ByteWriter.u64 r.worker.value
    ++ ByteWriter.u64 r.workerBoot.value
    ++ ByteWriter.u32 r.agentVersion.major
    ++ ByteWriter.u32 r.agentVersion.minor
    ++ ByteWriter.u32 r.agentVersion.patch
    ++ ByteWriter.u32 r.protocolVersion.value
    ++ ByteWriter.string r.osPlatform 128
    ++ ByteWriter.string r.driverVersion.text 128
    ++ ByteWriter.u32 r.runtimeVersion.major
    ++ ByteWriter.u32 r.runtimeVersion.minor
    ++ ByteWriter.counted (fun d => ByteWriter.string d 256) r.enumeratedDevices
    ++ ByteWriter.counted (fun c => ByteWriter.string c 128) r.supportedCapabilities
    ++ ByteWriter.u64 r.registrationGeneration.value
    ++ ByteWriter.u64 r.epoch.value

open Decoder in
/-- The body of `decode_registration`. -/
def registrationDecoder : Decoder Registration := do
  let node ← need ByteReader.u64 .truncated "node truncated"
  let worker ← need ByteReader.u64 .truncated "worker truncated"
  let boot ← need ByteReader.u64 .truncated "boot truncated"
  let major ← need ByteReader.u32 .truncated "agent major truncated"
  let minor ← need ByteReader.u32 .truncated "agent minor truncated"
  let patch ← need ByteReader.u32 .truncated "agent patch truncated"
  let protocol ← need ByteReader.u32 .truncated "protocol truncated"
  let os ← needString 128 .truncated "os truncated"
  let driver ← needString 128 .truncated "driver truncated"
  let runtimeMajor ← need ByteReader.u32 .truncated "runtime major truncated"
  let runtimeMinor ← need ByteReader.u32 .truncated "runtime minor truncated"
  let devices ← need ByteReader.u32 .truncated "dev count truncated"
  reject (decide (devices > 4096)) .outOfBounds "too many devices"
  let enumerated ← times (needString 256 .truncated "device truncated") devices.toNat
  let caps ← need ByteReader.u32 .truncated "cap count truncated"
  reject (decide (caps > 4096)) .outOfBounds "too many capabilities"
  let supported ← times (needString 128 .truncated "capability truncated") caps.toNat
  let generation ← need ByteReader.u64 .truncated "reg gen truncated"
  let epoch ← need ByteReader.u64 .truncated "epoch truncated"
  done .malformed "trailing garbage after registration"
  pure {
    node := ⟨node⟩
    worker := ⟨worker⟩
    workerBoot := ⟨boot⟩
    agentVersion := ⟨major, minor, patch⟩
    protocolVersion := ⟨protocol⟩
    osPlatform := os
    driverVersion := ⟨driver⟩
    runtimeVersion := ⟨runtimeMajor, runtimeMinor⟩
    enumeratedDevices := enumerated
    supportedCapabilities := supported
    registrationGeneration := ⟨generation⟩
    epoch := ⟨epoch⟩ }

/-- `decode_registration`. -/
def decodeRegistration (data : ByteString) : Result Registration :=
  registrationDecoder.decode data

end GpuFleet
