import GpuFleet.Fleet.Store
import GpuFleet.Lib.Reading
import GpuFleet.Observation.Codec

/-!
# The snapshot format

`fleet/snapshot_codec.hpp`.  Maps are written in key order.  The decoder puts
their entries into maps again, and it has a limit for every count and an
error for a worker or a device that is there twice.  A node that is there
twice is taken the first time.
-/

namespace GpuFleet

/-! ## Encoding -/

/-- `write_device_state`. -/
def writeDeviceState (d : DeviceState) : ByteString :=
  ByteWriter.u64 d.deviceId.value
    ++ ByteWriter.u64 d.generation.value
    ++ writeIdentity d.identity
    ++ ByteWriter.flag d.present
    ++ ByteWriter.u8 d.health.toByte
    ++ ByteWriter.string d.healthExplanation 4096
    ++ ByteWriter.u8 d.eligibility.toByte
    ++ ByteWriter.counted (fun r => ByteWriter.u8 r.toByte) d.eligibilityReasons
    ++ ByteWriter.u8 d.drain.toByte
    ++ ByteWriter.flag d.quarantined
    ++ ByteWriter.string d.quarantine.reason 512
    ++ ByteWriter.string d.quarantine.source 128
    ++ ByteWriter.u64 d.quarantine.generation.value
    ++ ByteWriter.i64 d.quarantine.atTime
    ++ ByteWriter.u64 d.quarantine.deviceId.value
    ++ ByteWriter.u64 d.quarantine.authority.value
    ++ ByteWriter.u64 d.totalMemory
    ++ ByteWriter.u64 d.usedMemory
    ++ ByteWriter.u64 d.freeMemory
    ++ ByteWriter.optional ByteWriter.f64 d.temperatureC
    ++ ByteWriter.optional ByteWriter.f64 d.powerW
    ++ ByteWriter.counted writeCapability d.capabilities
    ++ ByteWriter.flag d.coreValidationOk
    ++ ByteWriter.string d.validationDetail 4096
    ++ ByteWriter.i64 d.lastObservedAt
    ++ ByteWriter.i64 d.lastValidatedAt
    ++ ByteWriter.i64 d.lastAuthoritativeAt
    ++ ByteWriter.u64 d.observationGeneration.value
    ++ ByteWriter.u64 d.healthGeneration.value
    ++ ByteWriter.u64 d.sourceWorkerBoot.value
    ++ ByteWriter.flag d.observationFresh

/-- An entry of the node map. -/
def writeNodeEntry (entry : NodeId × NodeRecord) : ByteString :=
  ByteWriter.u64 entry.1.value
    ++ ByteWriter.u64 entry.2.generation.value
    ++ ByteWriter.i64 entry.2.firstSeen

/-- An entry of the worker map. -/
def writeWorkerEntry (entry : WorkerId × WorkerRecord) : ByteString :=
  let wr := entry.2
  ByteWriter.u64 entry.1.value
    ++ ByteWriter.u64 wr.boot.value
    ++ ByteWriter.u64 wr.registrationGeneration.value
    ++ ByteWriter.u64 wr.node.value
    ++ ByteWriter.u64 wr.agent.value
    ++ ByteWriter.u32 wr.agentVersion.major
    ++ ByteWriter.u32 wr.agentVersion.minor
    ++ ByteWriter.u32 wr.agentVersion.patch
    ++ ByteWriter.u32 wr.protocolVersion.value
    ++ ByteWriter.string wr.osPlatform 128
    ++ ByteWriter.string wr.driverVersion.text 128
    ++ ByteWriter.counted (fun x => ByteWriter.string x 256) wr.deviceIdentities
    ++ ByteWriter.counted (fun x => ByteWriter.string x 128) wr.supportedCapabilities
    ++ ByteWriter.i64 wr.registeredAt
    ++ ByteWriter.i64 wr.lastHeartbeat
    ++ ByteWriter.u64 wr.registeredEpoch.value
    ++ ByteWriter.flag wr.alive
    ++ ByteWriter.flag wr.fenced
    ++ ByteWriter.flag wr.lost

/-- An entry of the device map. -/
def writeDeviceEntry (entry : ByteString × DeviceState) : ByteString :=
  ByteWriter.string entry.1 256 ++ writeDeviceState entry.2

/-- A record of the change log. -/
def writeChange (c : ChangeRecord) : ByteString :=
  ByteWriter.u8 c.kind.toByte
    ++ ByteWriter.u64 c.deviceId.value
    ++ ByteWriter.i64 c.atTime
    ++ ByteWriter.u64 c.generation.value
    ++ ByteWriter.u64 c.epoch.value
    ++ ByteWriter.string c.detail 512
    ++ ByteWriter.string c.fromValue 128
    ++ ByteWriter.string c.toValue 128

/-- `encode_snapshot`. -/
def encodeSnapshot (s : StateSnapshot) : ByteString :=
  ByteWriter.u64 s.coordinator.value
    ++ ByteWriter.u64 s.epoch.value
    ++ ByteWriter.u64 s.fleetGeneration.value
    ++ ByteWriter.u64 s.nodeGeneration.value
    ++ ByteWriter.counted writeNodeEntry s.nodes.toList
    ++ ByteWriter.counted writeWorkerEntry s.workers.toList
    ++ ByteWriter.counted writeDeviceEntry s.devices.toList
    ++ ByteWriter.counted writeChange s.changeLog

/-! ## Decoding -/

/-- The parent of a partition. -/
def readParent : FieldReader DeviceId := do
  let v ← ByteReader.u64
  pure ⟨v⟩

/-- `read_identity`. -/
def readIdentity : FieldReader DeviceIdentity := do
  let vendor ← ByteReader.u8
  let vendorName ← FieldReader.string 128
  let uuid ← FieldReader.string 128
  let domain ← ByteReader.u32
  let bus ← ByteReader.u16
  let device ← ByteReader.u16
  let function ← ByteReader.u16
  let architecture ← FieldReader.string 64
  let ccMajor ← ByteReader.u32
  let ccMinor ← ByteReader.u32
  let totalMemory ← ByteReader.u64
  let numa ← ByteReader.i64
  let driver ← FieldReader.string 128
  let runtimeMajor ← ByteReader.u32
  let runtimeMinor ← ByteReader.u32
  let gpuInstance ← ByteReader.u32
  let computeInstance ← ByteReader.u32
  let parent ← FieldReader.optional readParent
  pure {
    vendor := .ofByte vendor
    vendorName := vendorName
    uuid := ⟨uuid⟩
    pci := ⟨domain, bus, device, function⟩
    architecture := architecture
    computeCapability := ⟨ccMajor, ccMinor⟩
    totalPhysicalMemory := totalMemory
    numaNode := numa.toInt32
    driverVersion := ⟨driver⟩
    runtimeVersion := ⟨runtimeMajor, runtimeMinor⟩
    mig := ⟨gpuInstance, computeInstance⟩
    parentDevice := parent }

/-- The loop body over the eligibility reasons of a device. -/
def readReason : FieldReader EligibilityReason := do
  let b ← ByteReader.u8
  pure (.ofByte b)

/-- The loop body over the capabilities of a device. -/
def readCapability : FieldReader Capability := do
  let id ← ByteReader.u64
  let name ← FieldReader.string 128
  let kind ← ByteReader.u8
  let value ← FieldReader.string 256
  let description ← FieldReader.string 256
  pure ⟨⟨id⟩, name, .ofByte kind, value, description⟩

/-- `read_device_state`. -/
def readDeviceState : FieldReader DeviceState := do
  let deviceId ← ByteReader.u64
  let generation ← ByteReader.u64
  let identity ← readIdentity
  let present ← FieldReader.flag
  let health ← ByteReader.u8
  let healthExplanation ← FieldReader.string 4096
  let eligibility ← ByteReader.u8
  let reasons ← ByteReader.u32
  FieldReader.reject (decide (reasons > 32))
  let eligibilityReasons ← Reading.times readReason reasons.toNat
  let drain ← ByteReader.u8
  let quarantined ← FieldReader.flag
  let reason ← FieldReader.string 512
  let source ← FieldReader.string 128
  let quarantineGeneration ← ByteReader.u64
  let quarantinedAt ← ByteReader.i64
  let quarantinedDevice ← ByteReader.u64
  let authority ← ByteReader.u64
  let totalMemory ← ByteReader.u64
  let usedMemory ← ByteReader.u64
  let freeMemory ← ByteReader.u64
  let temperature ← FieldReader.optional ByteReader.f64
  let power ← FieldReader.optional ByteReader.f64
  let caps ← ByteReader.u32
  FieldReader.reject (decide (caps > 4096))
  let capabilities ← Reading.times readCapability caps.toNat
  let coreValidationOk ← FieldReader.flag
  let validationDetail ← FieldReader.string 4096
  let lastObservedAt ← ByteReader.i64
  let lastValidatedAt ← ByteReader.i64
  let lastAuthoritativeAt ← ByteReader.i64
  let observationGeneration ← ByteReader.u64
  let healthGeneration ← ByteReader.u64
  let sourceWorkerBoot ← ByteReader.u64
  let observationFresh ← FieldReader.flag
  pure {
    deviceId := ⟨deviceId⟩
    generation := ⟨generation⟩
    identity := identity
    present := present
    health := .ofByte health
    healthExplanation := healthExplanation
    eligibility := .ofByte eligibility
    eligibilityReasons := eligibilityReasons
    drain := .ofByte drain
    quarantined := quarantined
    quarantine := ⟨reason, source, ⟨quarantineGeneration⟩, quarantinedAt, ⟨quarantinedDevice⟩,
      ⟨authority⟩⟩
    totalMemory := totalMemory
    usedMemory := usedMemory
    freeMemory := freeMemory
    temperatureC := temperature
    powerW := power
    capabilities := capabilities
    coreValidationOk := coreValidationOk
    validationDetail := validationDetail
    lastObservedAt := lastObservedAt
    lastValidatedAt := lastValidatedAt
    lastAuthoritativeAt := lastAuthoritativeAt
    observationGeneration := ⟨observationGeneration⟩
    healthGeneration := ⟨healthGeneration⟩
    sourceWorkerBoot := ⟨sourceWorkerBoot⟩
    observationFresh := observationFresh }

open Decoder

/-- The fields of a node. -/
def nodeDecoder : Decoder NodeRecord := do
  let node ← need ByteReader.u64 .truncated "node id truncated"
  let generation ← need ByteReader.u64 .truncated "node gen truncated"
  let firstSeen ← need ByteReader.i64 .truncated "node first_seen truncated"
  pure ⟨⟨node⟩, ⟨generation⟩, firstSeen⟩

/-- The loop body over the nodes.  `emplace` keeps an entry that is there. -/
def nodeEntryDecoder (nodes : Map NodeId NodeRecord) : Decoder (Map NodeId NodeRecord) := do
  let n ← nodeDecoder
  pure (nodes.insertIfNew n.node n)

/-- The fields of a worker. -/
def workerDecoder : Decoder WorkerRecord := do
  let worker ← need ByteReader.u64 .truncated "worker id truncated"
  let boot ← need ByteReader.u64 .truncated "worker boot truncated"
  let registrationGeneration ← need ByteReader.u64 .truncated "reg gen truncated"
  let node ← need ByteReader.u64 .truncated "worker node truncated"
  let agent ← need ByteReader.u64 .truncated "worker agent truncated"
  let major ← need ByteReader.u32 .truncated "agent major truncated"
  let minor ← need ByteReader.u32 .truncated "agent minor truncated"
  let patch ← need ByteReader.u32 .truncated "agent patch truncated"
  let protocol ← need ByteReader.u32 .truncated "protocol truncated"
  let os ← needString 128 .truncated "os truncated"
  let driver ← needString 128 .truncated "driver truncated"
  let devices ← need ByteReader.u32 .truncated "dev ident count truncated"
  reject (decide (devices > 4096)) .outOfBounds "dev ident too many"
  let identities ← times (needString 256 .truncated "dev ident truncated") devices.toNat
  let caps ← need ByteReader.u32 .truncated "caps count truncated"
  reject (decide (caps > 4096)) .outOfBounds "caps too many"
  let capabilities ← times (needString 128 .truncated "cap truncated") caps.toNat
  let registeredAt ← need ByteReader.i64 .truncated "registered_at truncated"
  let lastHeartbeat ← need ByteReader.i64 .truncated "last heartbeat truncated"
  let registeredEpoch ← need ByteReader.u64 .truncated "reg epoch truncated"
  let alive ← needFlag .truncated "alive truncated"
  let fenced ← needFlag .truncated "fenced truncated"
  let lost ← needFlag .truncated "lost truncated"
  pure {
    worker := ⟨worker⟩
    boot := ⟨boot⟩
    registrationGeneration := ⟨registrationGeneration⟩
    node := ⟨node⟩
    agent := ⟨agent⟩
    agentVersion := ⟨major, minor, patch⟩
    protocolVersion := ⟨protocol⟩
    osPlatform := os
    driverVersion := ⟨driver⟩
    deviceIdentities := identities
    supportedCapabilities := capabilities
    registeredAt := registeredAt
    lastHeartbeat := lastHeartbeat
    registeredEpoch := ⟨registeredEpoch⟩
    alive := alive
    fenced := fenced
    lost := lost }

/-- The loop body over the workers. -/
def workerEntryDecoder (workers : Map WorkerId WorkerRecord) :
    Decoder (Map WorkerId WorkerRecord) := do
  let wr ← workerDecoder
  reject (workers.contains wr.worker) .duplicate "duplicate worker id"
  pure (workers.insert wr.worker wr)

/-- The loop body over the devices. -/
def deviceEntryDecoder (devices : Map ByteString DeviceState) :
    Decoder (Map ByteString DeviceState) := do
  let key ← needString 256 .truncated "device key truncated"
  let d ← need readDeviceState .truncated "device state truncated"
  reject (devices.contains key) .duplicate "duplicate device key"
  pure (devices.insert key d)

/-- The loop body over the change log. -/
def changeDecoder : Decoder ChangeRecord := do
  let kind ← need ByteReader.u8 .truncated "change kind truncated"
  let device ← need ByteReader.u64 .truncated "change device truncated"
  let atTime ← need ByteReader.i64 .truncated "change at truncated"
  let generation ← need ByteReader.u64 .truncated "change gen truncated"
  let epoch ← need ByteReader.u64 .truncated "change epoch truncated"
  let detail ← needString 512 .truncated "change detail truncated"
  let fromValue ← needString 128 .truncated "change from truncated"
  let toValue ← needString 128 .truncated "change to truncated"
  pure ⟨.ofByte kind, ⟨device⟩, atTime, ⟨generation⟩, ⟨epoch⟩, detail, fromValue, toValue⟩

/-- The body of `decode_snapshot`.  The accounting is not in the format. -/
def snapshotDecoder : Decoder StateSnapshot := do
  let coordinator ← need ByteReader.u64 .truncated "coordinator truncated"
  let epoch ← need ByteReader.u64 .truncated "epoch truncated"
  let fleetGeneration ← need ByteReader.u64 .truncated "fleet gen truncated"
  let nodeGeneration ← need ByteReader.u64 .truncated "node gen truncated"
  let nodeCount ← need ByteReader.u32 .truncated "node count truncated"
  reject (decide (nodeCount > 100000)) .outOfBounds "node count too large"
  let nodes ← Reading.fold nodeEntryDecoder nodeCount.toNat ∅
  let workerCount ← need ByteReader.u32 .truncated "worker count truncated"
  reject (decide (workerCount > 100000)) .outOfBounds "worker count too large"
  let workers ← Reading.fold workerEntryDecoder workerCount.toNat ∅
  let deviceCount ← need ByteReader.u32 .truncated "device count truncated"
  reject (decide (deviceCount > 100000)) .outOfBounds "device count too large"
  let devices ← Reading.fold deviceEntryDecoder deviceCount.toNat ∅
  let changeCount ← need ByteReader.u32 .truncated "change count truncated"
  reject (decide (changeCount > 200000)) .outOfBounds "change log too large"
  let changeLog ← times changeDecoder changeCount.toNat
  done .malformed "trailing garbage after snapshot"
  pure {
    coordinator := ⟨coordinator⟩
    epoch := ⟨epoch⟩
    fleetGeneration := ⟨fleetGeneration⟩
    nodeGeneration := ⟨nodeGeneration⟩
    nodes := nodes
    workers := workers
    devices := devices
    changeLog := changeLog }

/-- `decode_snapshot`. -/
def decodeSnapshot (data : ByteString) : Result StateSnapshot := snapshotDecoder.decode data

end GpuFleet
