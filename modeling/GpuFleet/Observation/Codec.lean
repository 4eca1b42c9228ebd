import GpuFleet.Core.Codec
import GpuFleet.Observation.Model

/-!
# The wire format of observations

`observation/observation_codec.hpp`.  A batch is a count and one
length-prefixed blob for each observation.  The decoder of a blob has an
error text of its own for every field, and the decoder of the batch replaces
all of them by one.
-/

namespace GpuFleet

/-! ## Parts that the snapshot codec shares -/

/-- `DeviceIdentity` on the wire: the end of `encode_device_observation`,
and `write_identity` of the snapshot codec. -/
def writeIdentity (id : DeviceIdentity) : ByteString :=
  ByteWriter.u8 id.vendor.toByte
    ++ ByteWriter.string id.vendorName 128
    ++ ByteWriter.string id.uuid.value 128
    ++ ByteWriter.u32 id.pci.domain
    ++ ByteWriter.u16 id.pci.bus
    ++ ByteWriter.u16 id.pci.device
    ++ ByteWriter.u16 id.pci.function
    ++ ByteWriter.string id.architecture 64
    ++ ByteWriter.u32 id.computeCapability.major
    ++ ByteWriter.u32 id.computeCapability.minor
    ++ ByteWriter.u64 id.totalPhysicalMemory
    ++ ByteWriter.i64 id.numaNode.toInt64
    ++ ByteWriter.string id.driverVersion.text 128
    ++ ByteWriter.u32 id.runtimeVersion.major
    ++ ByteWriter.u32 id.runtimeVersion.minor
    ++ ByteWriter.u32 id.mig.gpuInstanceId
    ++ ByteWriter.u32 id.mig.computeInstanceId
    ++ ByteWriter.optional (fun parent : DeviceId => ByteWriter.u64 parent.value) id.parentDevice

/-- One capability, in an observation and in a device state. -/
def writeCapability (c : Capability) : ByteString :=
  ByteWriter.u64 c.id.value
    ++ ByteWriter.string c.name 128
    ++ ByteWriter.u8 c.kind.toByte
    ++ ByteWriter.string c.value 256
    ++ ByteWriter.string c.description 256

/-! ## One observation -/

/-- `encode_device_observation`. -/
def encodeDeviceObservation (o : DeviceObservation) : ByteString :=
  ByteWriter.u64 o.deviceId.value
    ++ ByteWriter.u64 o.observationGeneration.value
    ++ ByteWriter.u64 o.healthGeneration.value
    ++ ByteWriter.i64 o.observedAt
    ++ ByteWriter.u64 o.sourceWorkerBoot.value
    ++ ByteWriter.u64 o.sourceWorker.value
    ++ ByteWriter.u64 o.sourceNode.value
    ++ ByteWriter.u64 o.epoch.value
    ++ ByteWriter.u64 o.deviceGeneration.value
    ++ ByteWriter.u8 o.health.toByte
    ++ ByteWriter.string o.healthExplanation 4096
    ++ ByteWriter.u64 o.totalMemory
    ++ ByteWriter.u64 o.usedMemory
    ++ ByteWriter.u64 o.freeMemory
    ++ ByteWriter.optional ByteWriter.f64 o.temperatureC
    ++ ByteWriter.optional ByteWriter.f64 o.powerW
    ++ ByteWriter.counted writeCapability o.capabilities
    ++ ByteWriter.flag o.coreValidationOk
    ++ ByteWriter.string o.validationDetail 4096
    ++ ByteWriter.flag o.enumerated
    ++ ByteWriter.flag o.present
    ++ ByteWriter.flag o.driverRuntimeOk
    ++ ByteWriter.flag o.cudaInitOk
    ++ ByteWriter.flag o.memoryAllocOk
    ++ ByteWriter.flag o.h2dOk
    ++ ByteWriter.flag o.kernelExecOk
    ++ ByteWriter.flag o.syncOk
    ++ ByteWriter.flag o.d2hOk
    ++ ByteWriter.flag o.verifyOk
    ++ writeIdentity o.identity

open Decoder

/-- The loop body over the capabilities of an observation. -/
def capabilityDecoder : Decoder Capability := do
  let id ← need ByteReader.u64 .truncated "cap id truncated"
  let name ← needString 128 .truncated "cap name truncated"
  let kind ← need ByteReader.u8 .truncated "cap kind truncated"
  let value ← needString 256 .truncated "cap value truncated"
  let description ← needString 256 .truncated "cap desc truncated"
  pure ⟨⟨id⟩, name, .ofByte kind, value, description⟩

/-- The end of `decode_device_observation`.  The NUMA node is read as 64
bits and cut to 32. -/
def observedIdentityDecoder : Decoder DeviceIdentity := do
  let vendor ← need ByteReader.u8 .truncated "vendor truncated"
  let vendorName ← needString 128 .truncated "vendor_name truncated"
  let uuid ← needString 128 .truncated "uuid truncated"
  let domain ← need ByteReader.u32 .truncated "pci domain truncated"
  let bus ← need ByteReader.u16 .truncated "pci bus truncated"
  let device ← need ByteReader.u16 .truncated "pci dev truncated"
  let function ← need ByteReader.u16 .truncated "pci fn truncated"
  let architecture ← needString 64 .truncated "arch truncated"
  let ccMajor ← need ByteReader.u32 .truncated "cc major truncated"
  let ccMinor ← need ByteReader.u32 .truncated "cc minor truncated"
  let totalMemory ← need ByteReader.u64 .truncated "total mem truncated"
  let numa ← need ByteReader.i64 .truncated "numa truncated"
  let driver ← needString 128 .truncated "driver truncated"
  let runtimeMajor ← need ByteReader.u32 .truncated "runtime major truncated"
  let runtimeMinor ← need ByteReader.u32 .truncated "runtime minor truncated"
  let gpuInstance ← need ByteReader.u32 .truncated "mig gpu truncated"
  let computeInstance ← need ByteReader.u32 .truncated "mig ci truncated"
  let hasParent ← need ByteReader.u8 .truncated "parent presence truncated"
  let parent ← if hasParent = 0 then pure none else do
    let v ← need ByteReader.u64 .truncated "parent truncated"
    pure (some ⟨v⟩)
  pure {
    vendor := .ofByte vendor
    vendorName := vendorName
    uuid := ⟨uuid⟩
    pci := ⟨domain, bus, device, function⟩
    architecture := architecture
    computeCapability := ⟨ccMajor, ccMinor⟩
    totalPhysicalMemory := totalMemory
    numaNode := numa.toInt32
    driverVersion := ⟨driver⟩
    runtimeVersion := ⟨runtimeMajor, runtimeMinor⟩
    mig := ⟨gpuInstance, computeInstance⟩
    parentDevice := parent }

/-- The body of `decode_device_observation`. -/
def deviceObservationDecoder : Decoder DeviceObservation := do
  let deviceId ← need ByteReader.u64 .truncated "device_id truncated"
  let observationGeneration ← need ByteReader.u64 .truncated "obs_gen truncated"
  let healthGeneration ← need ByteReader.u64 .truncated "health_gen truncated"
  let observedAt ← need ByteReader.i64 .truncated "observed_at truncated"
  let sourceWorkerBoot ← need ByteReader.u64 .truncated "worker_boot truncated"
  let sourceWorker ← need ByteReader.u64 .truncated "source_worker truncated"
  let sourceNode ← need ByteReader.u64 .truncated "source_node truncated"
  let epoch ← need ByteReader.u64 .truncated "epoch truncated"
  let deviceGeneration ← need ByteReader.u64 .truncated "device_gen truncated"
  let health ← need ByteReader.u8 .truncated "health truncated"
  let healthExplanation ← needString 4096 .truncated "health_explanation truncated"
  let totalMemory ← need ByteReader.u64 .truncated "total_memory truncated"
  let usedMemory ← need ByteReader.u64 .truncated "used_memory truncated"
  let freeMemory ← need ByteReader.u64 .truncated "free_memory truncated"
  let temperature ← needOptional ByteReader.f64 .truncated "temperature truncated"
  let power ← needOptional ByteReader.f64 .truncated "power truncated"
  let caps ← need ByteReader.u32 .truncated "cap count truncated"
  reject (decide (caps > 4096)) .outOfBounds "cap count exceeds bound"
  let capabilities ← times capabilityDecoder caps.toNat
  let coreValidationOk ← needFlag .truncated "core_valid truncated"
  let validationDetail ← needString 4096 .truncated "validation_detail truncated"
  let enumerated ← needFlag .truncated "enumerated truncated"
  let present ← needFlag .truncated "present truncated"
  let driverRuntimeOk ← needFlag .truncated "driver_runtime truncated"
  let cudaInitOk ← needFlag .truncated "cuda_init truncated"
  let memoryAllocOk ← needFlag .truncated "malloc truncated"
  let h2dOk ← needFlag .truncated "h2d truncated"
  let kernelExecOk ← needFlag .truncated "kernel truncated"
  let syncOk ← needFlag .truncated "sync truncated"
  let d2hOk ← needFlag .truncated "d2h truncated"
  let verifyOk ← needFlag .truncated "verify truncated"
  let identity ← observedIdentityDecoder
  done .malformed "trailing garbage in observation blob"
  pure {
    deviceId := ⟨deviceId⟩
    observationGeneration := ⟨observationGeneration⟩
    healthGeneration := ⟨healthGeneration⟩
    observedAt := observedAt
    sourceWorkerBoot := ⟨sourceWorkerBoot⟩
    sourceWorker := ⟨sourceWorker⟩
    sourceNode := ⟨sourceNode⟩
    epoch := ⟨epoch⟩
    deviceGeneration := ⟨deviceGeneration⟩
    identity := identity
    health := .ofByte health
    healthExplanation := healthExplanation
    totalMemory := totalMemory
    usedMemory := usedMemory
    freeMemory := freeMemory
    temperatureC := temperature
    powerW := power
    capabilities := capabilities
    coreValidationOk := coreValidationOk
    validationDetail := validationDetail
    enumerated := enumerated
    present := present
    driverRuntimeOk := driverRuntimeOk
    cudaInitOk := cudaInitOk
    memoryAllocOk := memoryAllocOk
    h2dOk := h2dOk
    kernelExecOk := kernelExecOk
    syncOk := syncOk
    d2hOk := d2hOk
    verifyOk := verifyOk }

/-- `decode_device_observation`. -/
def decodeDeviceObservation (data : ByteString) : Result DeviceObservation :=
  deviceObservationDecoder.decode data

/-! ## A batch -/

/-- `encode_observation_batch`. -/
def encodeObservationBatch (obs : List DeviceObservation) : ByteString :=
  ByteWriter.counted (fun o => ByteWriter.bytes (encodeDeviceObservation o)) obs

/-- The loop body of `decode_observation_batch`. -/
def batchItemDecoder : Decoder DeviceObservation := do
  let len ← need ByteReader.u32 .truncated "obs length truncated"
  reject (decide (len > 16 * 1024 * 1024)) .outOfBounds "obs blob too large"
  let blob ← need (fun r => (ByteReader.raw len.toNat r).toOption) .truncated
    "obs blob truncated"
  needValue (decodeDeviceObservation blob) .malformed "obs blob malformed"

/-- The body of `decode_observation_batch`. -/
def observationBatchDecoder : Decoder (List DeviceObservation) := do
  let count ← need ByteReader.u32 .truncated "obs count truncated"
  reject (decide (count > 4096)) .outOfBounds "obs count too large"
  let obs ← times batchItemDecoder count.toNat
  done .malformed "trailing garbage after observation batch"
  pure obs

/-- `decode_observation_batch`. -/
def decodeObservationBatch (data : ByteString) : Result (List DeviceObservation) :=
  observationBatchDecoder.decode data

end GpuFleet
