import GpuFleet.Observation.Model

/-!
# Change detection

`observation/change.hpp`.  `diffDeviceState` compares the previous state of
a device with a candidate, axis by axis, and emits one record for each axis
that changed.
-/

namespace GpuFleet

/-- `ChangeKind`, with the values that a cast can bring in. -/
inductive ChangeKind
  | deviceAppeared | deviceDisappeared | identityChanged
  | driverRuntimeChanged | memoryCapacityChanged | healthChanged
  | capabilityChanged | eligibilityChanged | workerRestarted
  | observationStale | drainInitiated | drainCompleted | quarantineApplied
  | quarantineCleared
  | undeclared (v : UInt8) (h : v.toNat = 0 ∨ 15 ≤ v.toNat)
  deriving DecidableEq, Repr

/-- The value of the enumerator. -/
def ChangeKind.toByte : ChangeKind → UInt8
  | .deviceAppeared => 1
  | .deviceDisappeared => 2
  | .identityChanged => 3
  | .driverRuntimeChanged => 4
  | .memoryCapacityChanged => 5
  | .healthChanged => 6
  | .capabilityChanged => 7
  | .eligibilityChanged => 8
  | .workerRestarted => 9
  | .observationStale => 10
  | .drainInitiated => 11
  | .drainCompleted => 12
  | .quarantineApplied => 13
  | .quarantineCleared => 14
  | .undeclared v _ => v

/-- The enumerators, by their values less one. -/
def ChangeKind.declared : Fin 14 → ChangeKind
  | 0 => .deviceAppeared
  | 1 => .deviceDisappeared
  | 2 => .identityChanged
  | 3 => .driverRuntimeChanged
  | 4 => .memoryCapacityChanged
  | 5 => .healthChanged
  | 6 => .capabilityChanged
  | 7 => .eligibilityChanged
  | 8 => .workerRestarted
  | 9 => .observationStale
  | 10 => .drainInitiated
  | 11 => .drainCompleted
  | 12 => .quarantineApplied
  | 13 => .quarantineCleared

/-- `static_cast<ChangeKind>`.  The declared kinds start at 1. -/
def ChangeKind.ofByte (b : UInt8) : ChangeKind :=
  if h : b.toNat = 0 ∨ 15 ≤ b.toNat then .undeclared b h
  else .declared ⟨b.toNat - 1, by omega⟩

@[simp] theorem ChangeKind.ofByte_toByte (k : ChangeKind) : ofByte k.toByte = k := by
  cases k with
  | undeclared v h => exact dif_pos h
  | _ => rfl

/-- `ChangeRecord`. -/
structure ChangeRecord where
  kind : ChangeKind := .deviceAppeared
  deviceId : DeviceId := {}
  atTime : Timestamp := kInvalidTimestamp
  generation : DeviceGeneration := {}
  epoch : CoordinatorEpoch := {}
  detail : ByteString := []
  fromValue : ByteString := []
  toValue : ByteString := []
  deriving DecidableEq, Repr

/-- `caps_key` of `diff_device_state`. -/
def capsKey (caps : List Capability) : ByteString :=
  caps.flatMap (fun c => c.name ++ text "=" ++ c.value ++ text ";")

/-- `diff_device_state`.  Each line is one `if` of the source, in order. -/
def diffDeviceState (prior cand : DeviceState) (atTime : Timestamp)
    (gen : DeviceGeneration) (epoch : CoordinatorEpoch) : List ChangeRecord :=
  let record (kind : ChangeKind) (detail fromValue toValue : ByteString) :
      List ChangeRecord :=
    [⟨kind, cand.deviceId, atTime, gen, epoch, detail, fromValue, toValue⟩]
  (if !prior.present && cand.present then
      record .deviceAppeared (text "device became present") (text "absent") (text "present")
    else if prior.present && !cand.present then
      record .deviceDisappeared (text "device became absent") (text "present") (text "absent")
    else [])
  ++ (if prior.identity ≠ cand.identity then
      record .identityChanged (text "device identity changed")
        prior.identity.uuid.value cand.identity.uuid.value
    else [])
  ++ (if prior.identity.driverVersion.text ≠ cand.identity.driverVersion.text then
      record .driverRuntimeChanged (text "driver/runtime changed")
        prior.identity.driverVersion.text cand.identity.driverVersion.text
    else [])
  ++ (if prior.totalMemory ≠ cand.totalMemory ∧ cand.totalMemory ≠ 0 then
      record .memoryCapacityChanged (text "memory capacity changed")
        (decimal prior.totalMemory.toNat) (decimal cand.totalMemory.toNat)
    else [])
  ++ (if prior.health ≠ cand.health then
      record .healthChanged (text "health changed") prior.health.toText cand.health.toText
    else [])
  ++ (if capsKey prior.capabilities ≠ capsKey cand.capabilities then
      record .capabilityChanged (text "capability set changed")
        (capsKey prior.capabilities) (capsKey cand.capabilities)
    else [])
  ++ (if prior.eligibility ≠ cand.eligibility then
      record .eligibilityChanged (text "eligibility changed")
        prior.eligibility.toText cand.eligibility.toText
    else [])
  ++ (if prior.sourceWorkerBoot ≠ cand.sourceWorkerBoot then
      record .workerRestarted (text "source worker incarnation changed")
        (decimal prior.sourceWorkerBoot.value.toNat) (decimal cand.sourceWorkerBoot.value.toNat)
    else [])
  ++ (if prior.observationFresh && !cand.observationFresh then
      record .observationStale (text "observation became stale") (text "fresh") (text "stale")
    else [])
  ++ (if prior.drain = .active ∧ cand.drain ≠ .active then
      record .drainInitiated (text "drain initiated") prior.drain.toText cand.drain.toText
    else if prior.drain = .draining ∧ cand.drain = .drained then
      record .drainCompleted (text "drain completed") prior.drain.toText cand.drain.toText
    else [])
  ++ (if !prior.quarantined && cand.quarantined then
      record .quarantineApplied (text "quarantine applied") (text "false") (text "true")
    else if prior.quarantined && !cand.quarantined then
      record .quarantineCleared (text "quarantine cleared") (text "true") (text "false")
    else [])

/-- Every record carries the id of the new state. -/
theorem diffDeviceState_deviceId (prior cand : DeviceState) (atTime : Timestamp)
    (gen : DeviceGeneration) (epoch : CoordinatorEpoch) :
    ∀ c ∈ diffDeviceState prior cand atTime gen epoch, c.deviceId = cand.deviceId := by
  unfold diffDeviceState
  simp only [List.forall_mem_append, and_assoc]
  refine ⟨?_, ?_, ?_, ?_, ?_, ?_, ?_, ?_, ?_, ?_, ?_⟩
  all_goals
    repeat' split
    all_goals first
      | exact fun _ h => absurd h List.not_mem_nil
      | exact List.forall_mem_singleton.mpr rfl

/-- The explanation of a change is one of a few fixed texts. -/
theorem diffDeviceState_detail (prior cand : DeviceState) (atTime : Timestamp)
    (gen : DeviceGeneration) (epoch : CoordinatorEpoch) :
    ∀ c ∈ diffDeviceState prior cand atTime gen epoch, c.detail.length ≤ 512 := by
  unfold diffDeviceState
  simp only [List.forall_mem_append, and_assoc]
  refine ⟨?_, ?_, ?_, ?_, ?_, ?_, ?_, ?_, ?_, ?_, ?_⟩
  all_goals
    repeat' split
    all_goals first
      | exact fun _ h => absurd h List.not_mem_nil
      | exact List.forall_mem_singleton.mpr (Nat.le_of_ble_eq_true rfl)

end GpuFleet
