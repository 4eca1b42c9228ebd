import GpuFleet.Core.Delimited
import GpuFleet.Fleet.SnapshotRoundTrip

/-!
# What stands in an encoding

The decoders turn bytes into enumerators with a cast, cut the NUMA word to 32
bits and put entries into maps.  What stood in the encoding cannot be told from
the result any more, so there is a second reader for each format here, which
only goes along the layout and keeps the bytes and words in question.

A decoder `Follows` its layout.  That gives the exact condition under which
the values that it lets in are well formed: the bytes of the enumerations have
to be in range, the NUMA words have to fit and no node may come twice, because
the decoders check none of these.  Worker ids and device keys are checked.
-/

namespace GpuFleet

open Reading

/-! ## Declared enumerators -/

/-- The state is one of the enumerators. -/
def HealthState.isDeclared : HealthState → Bool
  | .undeclared _ _ => false
  | _ => true

/-- The verdict is one of the enumerators. -/
def EligibilityState.isDeclared : EligibilityState → Bool
  | .undeclared _ _ => false
  | _ => true

/-- The reason is one of the enumerators. -/
def EligibilityReason.isDeclared : EligibilityReason → Bool
  | .undeclared _ _ => false
  | _ => true

/-- The drain state is one of the enumerators. -/
def DrainState.isDeclared : DrainState → Bool
  | .undeclared _ _ => false
  | _ => true

/-- The kind is one of the enumerators. -/
def CapabilityKind.isDeclared : CapabilityKind → Bool
  | .undeclared _ _ => false
  | _ => true

/-- The kind is one of the enumerators. -/
def ChangeKind.isDeclared : ChangeKind → Bool
  | .undeclared _ _ => false
  | _ => true

/-- A cast gives a declared enumerator exactly when the byte is in range. -/
theorem isDeclared_cast_iff {α : Type} {isDeclared : α → Bool} {n : Nat} {b : UInt8}
    {declared : Fin n → α} {undeclared : n ≤ b.toNat → α}
    (hdeclared : ∀ i, isDeclared (declared i) = true)
    (hundeclared : ∀ h, isDeclared (undeclared h) = false) :
    isDeclared (if h : b.toNat < n then declared ⟨b.toNat, h⟩
      else undeclared (Nat.le_of_not_lt h)) = true ↔ b.toNat < n := by
  split
  · next h => exact iff_of_true (hdeclared _) h
  · next h =>
    rw [hundeclared]
    exact iff_of_false Bool.false_ne_true h

theorem AcceleratorVendor.isDeclared_ofByte (b : UInt8) :
    (ofByte b).isDeclared = true ↔ b.toNat < 4 :=
  isDeclared_cast_iff (by decide) fun _ => rfl

theorem HealthState.isDeclared_ofByte (b : UInt8) :
    (ofByte b).isDeclared = true ↔ b.toNat < 10 :=
  isDeclared_cast_iff (by decide) fun _ => rfl

theorem EligibilityState.isDeclared_ofByte (b : UInt8) :
    (ofByte b).isDeclared = true ↔ b.toNat < 7 :=
  isDeclared_cast_iff (by decide) fun _ => rfl

theorem EligibilityReason.isDeclared_ofByte (b : UInt8) :
    (ofByte b).isDeclared = true ↔ b.toNat < 14 :=
  isDeclared_cast_iff (by decide) fun _ => rfl

theorem DrainState.isDeclared_ofByte (b : UInt8) :
    (ofByte b).isDeclared = true ↔ b.toNat < 3 :=
  isDeclared_cast_iff (by decide) fun _ => rfl

theorem CapabilityKind.isDeclared_ofByte (b : UInt8) :
    (ofByte b).isDeclared = true ↔ b.toNat < 4 :=
  isDeclared_cast_iff (by decide) fun _ => rfl

/-- The declared kinds start at 1. -/
theorem ChangeKind.isDeclared_ofByte (b : UInt8) :
    (ofByte b).isDeclared = true ↔ 1 ≤ b.toNat ∧ b.toNat ≤ 14 := by
  have hdeclared : ∀ i : Fin 14, (declared i).isDeclared = true := by decide
  unfold ofByte
  split
  · next h => exact iff_of_false Bool.false_ne_true (by omega)
  · next h => exact iff_of_true (hdeclared _) (by omega)

/-! ## The layouts -/

/-- The vendor byte and the NUMA word of an identity. -/
structure IdentityWords where
  vendor : UInt8
  numa : Int64
  deriving DecidableEq

/-- The words of a device that the decoder makes enumerators of, and those of its
identity. -/
structure DeviceWords where
  identity : IdentityWords
  health : UInt8
  eligibility : UInt8
  reasons : List UInt8
  drain : UInt8
  kinds : List UInt8
  deriving DecidableEq

/-- The ids, keys and enumerator bytes of a snapshot. -/
structure SnapshotWords where
  nodeIds : List UInt64
  workerIds : List UInt64
  devices : List (ByteString × DeviceWords)
  changeKinds : List UInt8
  deriving DecidableEq

/-- The words of an observation that the decoder makes enumerators of, and those of its
identity. -/
structure ObservationWords where
  health : UInt8
  kinds : List UInt8
  identity : IdentityWords
  deriving DecidableEq

/-- An identity on the wire. -/
def identityLayout : FieldReader IdentityWords := do
  let vendor ← ByteReader.u8
  let _vendorName ← FieldReader.string 128
  let _uuid ← FieldReader.string 128
  let _domain ← ByteReader.u32
  let _bus ← ByteReader.u16
  let _device ← ByteReader.u16
  let _function ← ByteReader.u16
  let _architecture ← FieldReader.string 64
  let _ccMajor ← ByteReader.u32
  let _ccMinor ← ByteReader.u32
  let _totalMemory ← ByteReader.u64
  let numa ← ByteReader.i64
  let _driver ← FieldReader.string 128
  let _runtimeMajor ← ByteReader.u32
  let _runtimeMinor ← ByteReader.u32
  let _gpuInstance ← ByteReader.u32
  let _computeInstance ← ByteReader.u32
  let _parent ← FieldReader.optional ByteReader.u64
  pure ⟨vendor, numa⟩

/-- A capability on the wire: its kind. -/
def capabilityLayout : FieldReader UInt8 := do
  let _id ← ByteReader.u64
  let _name ← FieldReader.string 128
  let kind ← ByteReader.u8
  let _value ← FieldReader.string 256
  let _description ← FieldReader.string 256
  pure kind

/-- A device on the wire. -/
def deviceLayout : FieldReader DeviceWords := do
  let _deviceId ← ByteReader.u64
  let _generation ← ByteReader.u64
  let identity ← identityLayout
  let _present ← ByteReader.u8
  let health ← ByteReader.u8
  let _healthExplanation ← FieldReader.string 4096
  let eligibility ← ByteReader.u8
  let reasonCount ← ByteReader.u32
  let reasons ← times ByteReader.u8 reasonCount.toNat
  let drain ← ByteReader.u8
  let _quarantined ← ByteReader.u8
  let _reason ← FieldReader.string 512
  let _source ← FieldReader.string 128
  let _quarantineGeneration ← ByteReader.u64
  let _quarantinedAt ← ByteReader.i64
  let _quarantinedDevice ← ByteReader.u64
  let _authority ← ByteReader.u64
  let _totalMemory ← ByteReader.u64
  let _usedMemory ← ByteReader.u64
  let _freeMemory ← ByteReader.u64
  let _temperature ← FieldReader.optional ByteReader.f64
  let _power ← FieldReader.optional ByteReader.f64
  let capabilityCount ← ByteReader.u32
  let kinds ← times capabilityLayout capabilityCount.toNat
  let _coreValidationOk ← ByteReader.u8
  let _validationDetail ← FieldReader.string 4096
  let _lastObservedAt ← ByteReader.i64
  let _lastValidatedAt ← ByteReader.i64
  let _lastAuthoritativeAt ← ByteReader.i64
  let _observationGeneration ← ByteReader.u64
  let _healthGeneration ← ByteReader.u64
  let _sourceWorkerBoot ← ByteReader.u64
  let _observationFresh ← ByteReader.u8
  pure ⟨identity, health, eligibility, reasons, drain, kinds⟩

/-- A node on the wire: its id. -/
def nodeLayout : FieldReader UInt64 := do
  let node ← ByteReader.u64
  let _generation ← ByteReader.u64
  let _firstSeen ← ByteReader.i64
  pure node

/-- A worker on the wire: its id. -/
def workerLayout : FieldReader UInt64 := do
  let worker ← ByteReader.u64
  let _boot ← ByteReader.u64
  let _registrationGeneration ← ByteReader.u64
  let _node ← ByteReader.u64
  let _agent ← ByteReader.u64
  let _major ← ByteReader.u32
  let _minor ← ByteReader.u32
  let _patch ← ByteReader.u32
  let _protocol ← ByteReader.u32
  let _os ← FieldReader.string 128
  let _driver ← FieldReader.string 128
  let deviceCount ← ByteReader.u32
  let _devices ← times (FieldReader.string 256) deviceCount.toNat
  let capabilityCount ← ByteReader.u32
  let _capabilities ← times (FieldReader.string 128) capabilityCount.toNat
  let _registeredAt ← ByteReader.i64
  let _lastHeartbeat ← ByteReader.i64
  let _registeredEpoch ← ByteReader.u64
  let _alive ← ByteReader.u8
  let _fenced ← ByteReader.u8
  let _lost ← ByteReader.u8
  pure worker

/-- A device on the wire, behind its key. -/
def deviceEntryLayout : FieldReader (ByteString × DeviceWords) := do
  let key ← FieldReader.string 256
  let device ← deviceLayout
  pure (key, device)

/-- A change record on the wire: its kind. -/
def changeLayout : FieldReader UInt8 := do
  let kind ← ByteReader.u8
  let _device ← ByteReader.u64
  let _at ← ByteReader.i64
  let _generation ← ByteReader.u64
  let _epoch ← ByteReader.u64
  let _detail ← FieldReader.string 512
  let _from ← FieldReader.string 128
  let _to ← FieldReader.string 128
  pure kind

/-- The layout of a snapshot. -/
def snapshotLayout : FieldReader SnapshotWords := do
  let _coordinator ← ByteReader.u64
  let _epoch ← ByteReader.u64
  let _fleetGeneration ← ByteReader.u64
  let _nodeGeneration ← ByteReader.u64
  let nodeCount ← ByteReader.u32
  let nodeIds ← times nodeLayout nodeCount.toNat
  let workerCount ← ByteReader.u32
  let workerIds ← times workerLayout workerCount.toNat
  let deviceCount ← ByteReader.u32
  let devices ← times deviceEntryLayout deviceCount.toNat
  let changeCount ← ByteReader.u32
  let changeKinds ← times changeLayout changeCount.toNat
  pure ⟨nodeIds, workerIds, devices, changeKinds⟩

/-- The layout of an observation. -/
def observationLayout : FieldReader ObservationWords := do
  let _deviceId ← ByteReader.u64
  let _observationGeneration ← ByteReader.u64
  let _healthGeneration ← ByteReader.u64
  let _observedAt ← ByteReader.i64
  let _sourceWorkerBoot ← ByteReader.u64
  let _sourceWorker ← ByteReader.u64
  let _sourceNode ← ByteReader.u64
  let _epoch ← ByteReader.u64
  let _deviceGeneration ← ByteReader.u64
  let health ← ByteReader.u8
  let _healthExplanation ← FieldReader.string 4096
  let _totalMemory ← ByteReader.u64
  let _usedMemory ← ByteReader.u64
  let _freeMemory ← ByteReader.u64
  let _temperature ← FieldReader.optional ByteReader.f64
  let _power ← FieldReader.optional ByteReader.f64
  let capabilityCount ← ByteReader.u32
  let kinds ← times capabilityLayout capabilityCount.toNat
  let _coreValidationOk ← ByteReader.u8
  let _validationDetail ← FieldReader.string 4096
  let _enumerated ← ByteReader.u8
  let _present ← ByteReader.u8
  let _driverRuntimeOk ← ByteReader.u8
  let _cudaInitOk ← ByteReader.u8
  let _memoryAllocOk ← ByteReader.u8
  let _h2dOk ← ByteReader.u8
  let _kernelExecOk ← ByteReader.u8
  let _syncOk ← ByteReader.u8
  let _d2hOk ← ByteReader.u8
  let _verifyOk ← ByteReader.u8
  let identity ← identityLayout
  pure ⟨health, kinds, identity⟩

/-- The words at the places that a layout names. -/
def wordsOf {α : Type} (layout : FieldReader α) (b : ByteString) : Option α :=
  (layout.run b).map Prod.fst

/-! ## Fields -/

section Fields

variable {α β : Type} {code : Status} {msg : String} {R : α → β → Prop}

theorem follows_self (read : FieldReader α) : Follows read read Eq :=
  fun _ v _ hrun => ⟨v, hrun, rfl⟩

theorem follows_need {read : FieldReader α} {layout : FieldReader β} (h : Follows read layout R) :
    Follows (Decoder.need read code msg) layout R := by
  intro r v r' hrun
  exact h r v r' (need_eq_ok hrun)

theorem follows_same (read : FieldReader α) : Follows (Decoder.need read code msg) read Eq :=
  follows_need (follows_self read)

theorem follows_needString (maxLen : Nat) :
    Follows (Decoder.needString maxLen code msg) (FieldReader.string maxLen) Eq :=
  follows_need (follows_self (FieldReader.string maxLen))

theorem follows_flag : Follows FieldReader.flag ByteReader.u8 fun _ _ => True :=
  .last (follows_self ByteReader.u8) fun _ _ _ => trivial

theorem follows_needFlag : Follows (Decoder.needFlag code msg) ByteReader.u8 fun _ _ => True :=
  .last (follows_same ByteReader.u8) fun _ _ _ => trivial

theorem follows_optional {read : FieldReader α} {layout : FieldReader β}
    (h : Follows read layout R) :
    Follows (FieldReader.optional read) (FieldReader.optional layout) fun _ _ => True := by
  refine .bind (follows_self ByteReader.u8) ?_
  rintro present _ rfl
  by_cases hpresent : present = 0
  · rw [if_pos hpresent, if_pos hpresent]
    exact .pure trivial
  · rw [if_neg hpresent, if_neg hpresent]
    exact .bind h fun _ _ _ => .pure trivial

theorem follows_needOptional (read : FieldReader α) :
    Follows (Decoder.needOptional read code msg) (FieldReader.optional read)
      fun _ _ => True := by
  refine .bind (follows_same ByteReader.u8) ?_
  rintro present _ rfl
  by_cases hpresent : present = 0
  · rw [if_pos hpresent, if_pos hpresent]
    exact .pure trivial
  · rw [if_neg hpresent, if_neg hpresent]
    exact .bind (follows_same read) fun _ _ _ => .pure trivial

theorem follows_times {item : Decoder α} {layout : FieldReader β} (h : Follows item layout R)
    (n : Nat) : Follows (Decoder.times item n) (times layout n) (List.Forall₂ R) := by
  rw [times_eq]
  exact h.times n

end Fields

/-! ## Records -/

/-- The identity that was made of the words. -/
structure IdentityWords.Made (w : IdentityWords) (id : DeviceIdentity) : Prop where
  vendor : id.vendor = .ofByte w.vendor
  numaNode : id.numaNode = w.numa.toInt32

theorem follows_readParent : Follows readParent ByteReader.u64 fun _ _ => True :=
  .last (follows_self ByteReader.u64) fun _ _ _ => trivial

theorem follows_readReason : Follows readReason ByteReader.u8 fun r b => r = .ofByte b :=
  .last (follows_self ByteReader.u8) fun _ _ hb => congrArg EligibilityReason.ofByte hb

theorem follows_readIdentity : Follows readIdentity identityLayout fun id w => w.Made id := by
  unfold readIdentity identityLayout
  refine .bind (follows_self _) ?_
  rintro vendor _ rfl
  refine .pass (follows_self _) fun _ _ => .pass (follows_self _) fun _ _ => ?_
  refine .pass (follows_self _) fun _ _ => .pass (follows_self _) fun _ _ => ?_
  refine .pass (follows_self _) fun _ _ => .pass (follows_self _) fun _ _ => ?_
  refine .pass (follows_self _) fun _ _ => .pass (follows_self _) fun _ _ => ?_
  refine .pass (follows_self _) fun _ _ => .pass (follows_self _) fun _ _ => ?_
  refine .bind (follows_self _) ?_
  rintro numa _ rfl
  refine .pass (follows_self _) fun _ _ => .pass (follows_self _) fun _ _ => ?_
  refine .pass (follows_self _) fun _ _ => .pass (follows_self _) fun _ _ => ?_
  refine .pass (follows_self _) fun _ _ => ?_
  refine .pass (follows_optional follows_readParent) fun _ _ => ?_
  exact .pure ⟨rfl, rfl⟩

theorem follows_observedIdentity :
    Follows observedIdentityDecoder identityLayout fun id w => w.Made id := by
  unfold observedIdentityDecoder identityLayout
  refine .bind (follows_same _) ?_
  rintro vendor _ rfl
  refine .pass (follows_needString _) fun _ _ => .pass (follows_needString _) fun _ _ => ?_
  refine .pass (follows_same _) fun _ _ => .pass (follows_same _) fun _ _ => ?_
  refine .pass (follows_same _) fun _ _ => .pass (follows_same _) fun _ _ => ?_
  refine .pass (follows_needString _) fun _ _ => .pass (follows_same _) fun _ _ => ?_
  refine .pass (follows_same _) fun _ _ => .pass (follows_same _) fun _ _ => ?_
  refine .bind (follows_same _) ?_
  rintro numa _ rfl
  refine .pass (follows_needString _) fun _ _ => .pass (follows_same _) fun _ _ => ?_
  refine .pass (follows_same _) fun _ _ => .pass (follows_same _) fun _ _ => ?_
  refine .pass (follows_same _) fun _ _ => ?_
  rw [FieldReader.optional, bind_assoc]
  refine .bind (follows_same _) ?_
  rintro hasParent _ rfl
  dsimp only
  by_cases hparent : hasParent = 0
  · rw [if_pos hparent, if_pos hparent]
    exact .pass (R := fun _ _ => True) (.pure trivial) fun _ _ => .pure ⟨rfl, rfl⟩
  · rw [if_neg hparent, if_neg hparent, bind_assoc]
    refine .pass (follows_same _) fun _ _ => ?_
    exact .pass (R := fun _ _ => True) (.pure trivial) fun _ _ => .pure ⟨rfl, rfl⟩

theorem follows_readCapability :
    Follows readCapability capabilityLayout fun c w => c.kind = .ofByte w := by
  unfold readCapability capabilityLayout
  refine .pass (follows_self _) fun _ _ => .pass (follows_self _) fun _ _ => ?_
  refine .bind (follows_self _) ?_
  rintro kind _ rfl
  refine .pass (follows_self _) fun _ _ => .pass (follows_self _) fun _ _ => ?_
  exact .pure rfl

theorem follows_capability :
    Follows capabilityDecoder capabilityLayout fun c w => c.kind = .ofByte w := by
  unfold capabilityDecoder capabilityLayout
  refine .pass (follows_same _) fun _ _ => .pass (follows_needString _) fun _ _ => ?_
  refine .bind (follows_same _) ?_
  rintro kind _ rfl
  refine .pass (follows_needString _) fun _ _ => .pass (follows_needString _) fun _ _ => ?_
  exact .pure rfl

/-- The device that was made of the words. -/
structure DeviceWords.Made (w : DeviceWords) (d : DeviceState) : Prop where
  identity : w.identity.Made d.identity
  health : d.health = .ofByte w.health
  eligibility : d.eligibility = .ofByte w.eligibility
  reasons : List.Forall₂ (fun r b => r = .ofByte b) d.eligibilityReasons w.reasons
  drain : d.drain = .ofByte w.drain
  kinds : List.Forall₂ (fun c b => c.kind = .ofByte b) d.capabilities w.kinds

theorem follows_readDeviceState :
    Follows readDeviceState deviceLayout fun d w => w.Made d := by
  unfold readDeviceState deviceLayout
  refine .pass (follows_self _) fun _ _ => .pass (follows_self _) fun _ _ => ?_
  refine .bind follows_readIdentity fun identity identityWords hidentity => ?_
  refine .pass follows_flag fun _ _ => .bind (follows_self _) ?_
  rintro health _ rfl
  refine .pass (follows_self _) fun _ _ => .bind (follows_self _) ?_
  rintro eligibility _ rfl
  refine .bind (follows_self _) ?_
  rintro reasonCount _ rfl
  refine .check (spells_check _) fun _ _ => ?_
  refine .bind (follows_readReason.times _) fun reasons reasonBytes hreasons => ?_
  refine .bind (follows_self _) ?_
  rintro drain _ rfl
  refine .pass follows_flag fun _ _ => .pass (follows_self _) fun _ _ => ?_
  refine .pass (follows_self _) fun _ _ => .pass (follows_self _) fun _ _ => ?_
  refine .pass (follows_self _) fun _ _ => .pass (follows_self _) fun _ _ => ?_
  refine .pass (follows_self _) fun _ _ => .pass (follows_self _) fun _ _ => ?_
  refine .pass (follows_self _) fun _ _ => .pass (follows_self _) fun _ _ => ?_
  refine .pass (follows_optional (follows_self _)) fun _ _ => ?_
  refine .pass (follows_optional (follows_self _)) fun _ _ => .bind (follows_self _) ?_
  rintro capabilityCount _ rfl
  refine .check (spells_check _) fun _ _ => ?_
  refine .bind (follows_readCapability.times _) fun capabilities kinds hkinds => ?_
  refine .pass follows_flag fun _ _ => .pass (follows_self _) fun _ _ => ?_
  refine .pass (follows_self _) fun _ _ => .pass (follows_self _) fun _ _ => ?_
  refine .pass (follows_self _) fun _ _ => .pass (follows_self _) fun _ _ => ?_
  refine .pass (follows_self _) fun _ _ => .pass (follows_self _) fun _ _ => ?_
  refine .pass follows_flag fun _ _ => ?_
  exact .pure ⟨hidentity, rfl, rfl, hreasons, rfl, hkinds⟩

/-- The observation that was made of the words. -/
structure ObservationWords.Made (w : ObservationWords) (o : DeviceObservation) : Prop where
  health : o.health = .ofByte w.health
  kinds : List.Forall₂ (fun c b => c.kind = .ofByte b) o.capabilities w.kinds
  identity : w.identity.Made o.identity

theorem follows_deviceObservation :
    Follows deviceObservationDecoder observationLayout fun o w => w.Made o := by
  unfold deviceObservationDecoder observationLayout
  refine .pass (follows_same _) fun _ _ => .pass (follows_same _) fun _ _ => ?_
  refine .pass (follows_same _) fun _ _ => .pass (follows_same _) fun _ _ => ?_
  refine .pass (follows_same _) fun _ _ => .pass (follows_same _) fun _ _ => ?_
  refine .pass (follows_same _) fun _ _ => .pass (follows_same _) fun _ _ => ?_
  refine .pass (follows_same _) fun _ _ => .bind (follows_same _) ?_
  rintro health _ rfl
  refine .pass (follows_needString _) fun _ _ => .pass (follows_same _) fun _ _ => ?_
  refine .pass (follows_same _) fun _ _ => .pass (follows_same _) fun _ _ => ?_
  refine .pass (follows_needOptional _) fun _ _ => .pass (follows_needOptional _) fun _ _ => ?_
  refine .bind (follows_same _) ?_
  rintro capabilityCount _ rfl
  refine .check (spells_reject _) fun _ _ => ?_
  refine .bind (follows_times follows_capability _) fun capabilities kinds hkinds => ?_
  refine .pass follows_needFlag fun _ _ => .pass (follows_needString _) fun _ _ => ?_
  refine .pass follows_needFlag fun _ _ => .pass follows_needFlag fun _ _ => ?_
  refine .pass follows_needFlag fun _ _ => .pass follows_needFlag fun _ _ => ?_
  refine .pass follows_needFlag fun _ _ => .pass follows_needFlag fun _ _ => ?_
  refine .pass follows_needFlag fun _ _ => .pass follows_needFlag fun _ _ => ?_
  refine .pass follows_needFlag fun _ _ => .pass follows_needFlag fun _ _ => ?_
  refine .bind follows_observedIdentity fun identity identityWords hidentity => ?_
  refine .check (P := fun _ => True) (spells_done.mono fun _ _ h => ⟨h, trivial⟩) fun _ _ => ?_
  exact .pure ⟨rfl, hkinds, hidentity⟩

/-! ## Entries -/

/-- A node that comes twice passes. -/
theorem follows_nodes (n : Nat) :
    Follows (fold nodeEntryDecoder n ∅) (times nodeLayout n) fun _ _ => True := by
  refine Follows.fold (I := fun _ _ => True) (fun ws nodes _ => ?_) n trivial
  refine .last (R := fun _ _ => True) ?_ fun _ _ _ => trivial
  unfold nodeDecoder nodeLayout
  refine .pass (follows_same _) fun _ _ => .pass (follows_same _) fun _ _ => ?_
  exact .pass (follows_same _) fun _ _ => .pure trivial

theorem follows_worker : Follows workerDecoder workerLayout fun wr w => wr.worker = ⟨w⟩ := by
  unfold workerDecoder workerLayout
  refine .bind (follows_same _) ?_
  rintro worker _ rfl
  refine .pass (follows_same _) fun _ _ => .pass (follows_same _) fun _ _ => ?_
  refine .pass (follows_same _) fun _ _ => .pass (follows_same _) fun _ _ => ?_
  refine .pass (follows_same _) fun _ _ => .pass (follows_same _) fun _ _ => ?_
  refine .pass (follows_same _) fun _ _ => .pass (follows_same _) fun _ _ => ?_
  refine .pass (follows_needString _) fun _ _ => .pass (follows_needString _) fun _ _ => ?_
  refine .bind (follows_same _) ?_
  rintro deviceCount _ rfl
  refine .check (spells_reject _) fun _ _ => ?_
  refine .pass (follows_times (follows_needString _) _) fun _ _ => .bind (follows_same _) ?_
  rintro capabilityCount _ rfl
  refine .check (spells_reject _) fun _ _ => ?_
  refine .pass (follows_times (follows_needString _) _) fun _ _ => ?_
  refine .pass (follows_same _) fun _ _ => .pass (follows_same _) fun _ _ => ?_
  refine .pass (follows_same _) fun _ _ => .pass follows_needFlag fun _ _ => ?_
  refine .pass follows_needFlag fun _ _ => .pass follows_needFlag fun _ _ => ?_
  exact .pure rfl

/-- The ids of the workers that were accepted are distinct. -/
structure WorkersMade (ids : List UInt64) (workers : Map WorkerId WorkerRecord) : Prop where
  distinct : ids.Nodup
  present : ∀ w ∈ ids, ∃ wr, workers[(⟨w⟩ : WorkerId)]? = some wr

theorem WorkersMade.insert {ids : List UInt64} {workers : Map WorkerId WorkerRecord}
    (h : WorkersMade ids workers) {wr : WorkerRecord} {w : UInt64} (hw : wr.worker = ⟨w⟩)
    (hnew : workers.contains wr.worker = false) :
    WorkersMade (ids ++ [w]) (workers.insert wr.worker wr) := by
  rw [hw] at hnew
  refine ⟨?_, ?_⟩
  · rw [List.nodup_append]
    refine ⟨h.distinct, List.nodup_singleton w, fun a ha b hb heq => ?_⟩
    obtain rfl := List.mem_singleton.mp hb
    obtain ⟨wr₀, hwr₀⟩ := h.present a ha
    rw [heq] at hwr₀
    rw [Std.ExtTreeMap.contains_eq_isSome_getElem?, hwr₀] at hnew
    cases hnew
  · intro a ha
    rw [hw, OrderedMap.getElem?_insert]
    by_cases hkey : (⟨w⟩ : WorkerId) = ⟨a⟩
    · rw [if_pos hkey]
      exact ⟨wr, rfl⟩
    · rw [if_neg hkey]
      rcases List.mem_append.mp ha with ha | ha
      · exact h.present a ha
      · exact absurd (by rw [List.mem_singleton.mp ha]) hkey

theorem follows_workers (n : Nat) :
    Follows (fold workerEntryDecoder n ∅) (times workerLayout n)
      fun workers ids => WorkersMade ids workers := by
  refine Follows.fold (I := WorkersMade) (fun ids workers h => ?_) n
    ⟨List.nodup_nil, fun w hw => absurd hw List.not_mem_nil⟩
  intro r m r' hrun
  have hentry : Follows (workerEntryDecoder workers) workerLayout
      fun m w => WorkersMade (ids ++ [w]) m := by
    rw [← bind_pure workerLayout]
    refine .bind follows_worker fun wr w hw => ?_
    refine .check (spells_reject _) fun _ hnew => ?_
    exact .pure (h.insert hw hnew)
  exact hentry r m r' hrun

/-- The devices on file and the words of the encoding, one for one. -/
structure DevicesMade (ws : List (ByteString × DeviceWords)) (devices : Map ByteString DeviceState) :
    Prop where
  distinct : (ws.map Prod.fst).Nodup
  kept : ∀ w ∈ ws, ∃ d, devices[w.1]? = some d ∧ w.2.Made d
  made : ∀ key d, devices[key]? = some d → ∃ w ∈ ws, w.1 = key ∧ w.2.Made d

theorem DevicesMade.insert {ws : List (ByteString × DeviceWords)}
    {devices : Map ByteString DeviceState} (h : DevicesMade ws devices) {key : ByteString}
    {d : DeviceState} {w : DeviceWords} (hw : w.Made d) (hnew : devices.contains key = false) :
    DevicesMade (ws ++ [(key, w)]) (devices.insert key d) := by
  have habsent : ∀ w' ∈ ws, key ≠ w'.1 := by
    rintro w' hw' rfl
    obtain ⟨d', hd', -⟩ := h.kept w' hw'
    rw [Std.ExtTreeMap.contains_eq_isSome_getElem?, hd'] at hnew
    cases hnew
  refine ⟨?_, ?_, ?_⟩
  · rw [List.map_append, List.nodup_append]
    refine ⟨h.distinct, List.nodup_singleton _, fun a ha b hb heq => ?_⟩
    obtain ⟨w', hw', rfl⟩ := List.mem_map.mp ha
    exact habsent w' hw' ((List.mem_singleton.mp hb).symm.trans heq.symm)
  · intro w' hw'
    rw [OrderedMap.getElem?_insert]
    rcases List.mem_append.mp hw' with hw' | hw'
    · rw [if_neg (habsent w' hw')]
      exact h.kept w' hw'
    · obtain rfl := List.mem_singleton.mp hw'
      rw [if_pos rfl]
      exact ⟨d, rfl, hw⟩
  · intro key' d' hd'
    rw [OrderedMap.getElem?_insert] at hd'
    by_cases hkey : key = key'
    · rw [if_pos hkey] at hd'
      obtain rfl := Option.some.inj hd'
      exact ⟨(key, w), by simp, hkey, hw⟩
    · rw [if_neg hkey] at hd'
      obtain ⟨w', hw', hmade⟩ := h.made key' d' hd'
      exact ⟨w', List.mem_append_left _ hw', hmade⟩

theorem follows_devices (n : Nat) :
    Follows (fold deviceEntryDecoder n ∅) (times deviceEntryLayout n)
      fun devices ws => DevicesMade ws devices := by
  refine Follows.fold (I := DevicesMade) (fun ws devices h => ?_) n
    ⟨List.nodup_nil, fun w hw => absurd hw List.not_mem_nil, fun key d hd => ?_⟩
  · unfold deviceEntryDecoder deviceEntryLayout
    refine .bind (follows_needString _) ?_
    rintro key _ rfl
    refine .bind (follows_need follows_readDeviceState) fun d w hw => ?_
    refine .check (spells_reject _) fun _ hnew => ?_
    exact .pure (h.insert hw hnew)
  · rw [Std.ExtTreeMap.getElem?_empty] at hd
    cases hd

theorem follows_change : Follows changeDecoder changeLayout fun c w => c.kind = .ofByte w := by
  unfold changeDecoder changeLayout
  refine .bind (follows_same _) ?_
  rintro kind _ rfl
  refine .pass (follows_same _) fun _ _ => .pass (follows_same _) fun _ _ => ?_
  refine .pass (follows_same _) fun _ _ => .pass (follows_same _) fun _ _ => ?_
  refine .pass (follows_needString _) fun _ _ => .pass (follows_needString _) fun _ _ => ?_
  exact .pass (follows_needString _) fun _ _ => .pure rfl

/-- The snapshot that was made of the words. -/
structure SnapshotWords.Made (w : SnapshotWords) (s : StateSnapshot) : Prop where
  workers : WorkersMade w.workerIds s.workers
  devices : DevicesMade w.devices s.devices
  changes : List.Forall₂ (fun c b => c.kind = .ofByte b) s.changeLog w.changeKinds

theorem follows_snapshot : Follows snapshotDecoder snapshotLayout fun s w => w.Made s := by
  unfold snapshotDecoder snapshotLayout
  refine .pass (follows_same _) fun _ _ => .pass (follows_same _) fun _ _ => ?_
  refine .pass (follows_same _) fun _ _ => .pass (follows_same _) fun _ _ => ?_
  refine .bind (follows_same _) ?_
  rintro nodeCount _ rfl
  refine .check (spells_reject _) fun _ _ => ?_
  refine .pass (follows_nodes _) fun nodes nodeIds => .bind (follows_same _) ?_
  rintro workerCount _ rfl
  refine .check (spells_reject _) fun _ _ => ?_
  refine .bind (follows_workers _) fun workers workerIds hworkers => .bind (follows_same _) ?_
  rintro deviceCount _ rfl
  refine .check (spells_reject _) fun _ _ => ?_
  refine .bind (follows_devices _) fun devices deviceWords hdevices => .bind (follows_same _) ?_
  rintro changeCount _ rfl
  refine .check (spells_reject _) fun _ _ => ?_
  refine .bind (follows_times follows_change _) fun changes kinds hchanges => ?_
  refine .check (P := fun _ => True) (spells_done.mono fun _ _ h => ⟨h, trivial⟩) fun _ _ => ?_
  exact .pure ⟨hworkers, hdevices, hchanges⟩

/-! ## What is let in -/

/-- Every enumeration of the device is a declared enumerator. -/
structure DeviceState.EnumsDeclared (d : DeviceState) : Prop where
  vendor : d.identity.vendor.isDeclared = true
  health : d.health.isDeclared = true
  eligibility : d.eligibility.isDeclared = true
  reasons : ∀ r ∈ d.eligibilityReasons, r.isDeclared = true
  drain : d.drain.isDeclared = true
  kinds : ∀ c ∈ d.capabilities, c.kind.isDeclared = true

/-- The snapshot and the encoding that it was made of are well formed: declared
enumerators, NUMA words that are not cut, and ids that come once. -/
structure SnapshotWords.Admitted (w : SnapshotWords) (s : StateSnapshot) : Prop where
  devices : ∀ (key : ByteString) (d : DeviceState), s.devices[key]? = some d → d.EnumsDeclared
  changes : ∀ c ∈ s.changeLog, c.kind.isDeclared = true
  numa : ∀ e ∈ w.devices, e.2.identity.numa.toInt32.toInt64 = e.2.identity.numa
  nodeIds : w.nodeIds.Nodup
  workerIds : w.workerIds.Nodup
  deviceKeys : (w.devices.map Prod.fst).Nodup

/-- The same for an observation, which has no ids. -/
structure ObservationWords.Admitted (w : ObservationWords) (o : DeviceObservation) : Prop where
  vendor : o.identity.vendor.isDeclared = true
  health : o.health.isDeclared = true
  kinds : ∀ c ∈ o.capabilities, c.kind.isDeclared = true
  numa : w.identity.numa.toInt32.toInt64 = w.identity.numa

/-! ## What has to be in range -/

/-- The vendor is an enumerator, and the NUMA node fits into its type. -/
structure IdentityWords.InRange (w : IdentityWords) : Prop where
  vendor : w.vendor.toNat < 4
  numa : -2 ^ 31 ≤ w.numa.toInt ∧ w.numa.toInt < 2 ^ 31

/-- All words of a device are in range. -/
structure DeviceWords.InRange (w : DeviceWords) : Prop where
  identity : w.identity.InRange
  health : w.health.toNat < 10
  eligibility : w.eligibility.toNat < 7
  reasons : ∀ b ∈ w.reasons, b.toNat < 14
  drain : w.drain.toNat < 3
  kinds : ∀ b ∈ w.kinds, b.toNat < 4

/-- All words of a snapshot are in range, and no node is there twice. -/
structure SnapshotWords.InRange (w : SnapshotWords) : Prop where
  devices : ∀ e ∈ w.devices, e.2.InRange
  changeKinds : ∀ b ∈ w.changeKinds, 1 ≤ b.toNat ∧ b.toNat ≤ 14
  nodeIds : w.nodeIds.Nodup

/-- All words of an observation are in range. -/
structure ObservationWords.InRange (w : ObservationWords) : Prop where
  health : w.health.toNat < 10
  kinds : ∀ b ∈ w.kinds, b.toNat < 4
  identity : w.identity.InRange

/-- A word survives the cut to 32 bits exactly when it is in the range of 32
bits. -/
theorem toInt32_toInt64_eq_iff (n : Int64) :
    n.toInt32.toInt64 = n ↔ -2 ^ 31 ≤ n.toInt ∧ n.toInt < 2 ^ 31 := by
  rw [← Int64.toInt_inj, Int32.toInt_toInt64, Int64.toInt_toInt32]
  constructor
  · intro h
    rw [← h]
    exact ⟨Int.le_bmod (by decide), Int.bmod_lt (by decide)⟩
  · rintro ⟨hle, hlt⟩
    exact Int.bmod_eq_of_le hle (by omega)

/-- Two lists in step have their properties in step. -/
theorem forall_mem_iff {α β : Type} {R : α → β → Prop} {P : α → Prop} {Q : β → Prop}
    (hPQ : ∀ a b, R a b → (P a ↔ Q b)) {as : List α} {bs : List β} (h : List.Forall₂ R as bs) :
    (∀ a ∈ as, P a) ↔ ∀ b ∈ bs, Q b := by
  induction h with
  | nil => simp
  | cons hab _ ih =>
    rw [List.forall_mem_cons, List.forall_mem_cons, hPQ _ _ hab, ih]

theorem kinds_declared_iff {cs : List Capability} {bs : List UInt8}
    (h : List.Forall₂ (fun c b => c.kind = .ofByte b) cs bs) :
    (∀ c ∈ cs, c.kind.isDeclared = true) ↔ ∀ b ∈ bs, b.toNat < 4 := by
  refine forall_mem_iff (fun c b hcb => ?_) h
  rw [hcb, CapabilityKind.isDeclared_ofByte]

theorem changes_declared_iff {cs : List ChangeRecord} {bs : List UInt8}
    (h : List.Forall₂ (fun c b => c.kind = .ofByte b) cs bs) :
    (∀ c ∈ cs, c.kind.isDeclared = true) ↔ ∀ b ∈ bs, 1 ≤ b.toNat ∧ b.toNat ≤ 14 := by
  refine forall_mem_iff (fun c b hcb => ?_) h
  rw [hcb, ChangeKind.isDeclared_ofByte]

theorem reasons_declared_iff {rs : List EligibilityReason} {bs : List UInt8}
    (h : List.Forall₂ (fun r b => r = .ofByte b) rs bs) :
    (∀ r ∈ rs, r.isDeclared = true) ↔ ∀ b ∈ bs, b.toNat < 14 := by
  refine forall_mem_iff (fun r b hrb => ?_) h
  rw [hrb, EligibilityReason.isDeclared_ofByte]

/-- A device and its NUMA word are well formed exactly when its words are in
range. -/
theorem DeviceWords.Made.declared_iff {w : DeviceWords} {d : DeviceState} (h : w.Made d) :
    d.EnumsDeclared ∧ w.identity.numa.toInt32.toInt64 = w.identity.numa ↔ w.InRange := by
  have hvendor := AcceleratorVendor.isDeclared_ofByte w.identity.vendor
  have hhealth := HealthState.isDeclared_ofByte w.health
  have heligibility := EligibilityState.isDeclared_ofByte w.eligibility
  have hdrain := DrainState.isDeclared_ofByte w.drain
  rw [← h.identity.vendor] at hvendor
  rw [← h.health] at hhealth
  rw [← h.eligibility] at heligibility
  rw [← h.drain] at hdrain
  have hreasons := reasons_declared_iff h.reasons
  have hkinds := kinds_declared_iff h.kinds
  have hnuma := toInt32_toInt64_eq_iff w.identity.numa
  constructor
  · rintro ⟨he, hn⟩
    exact ⟨⟨hvendor.mp he.vendor, hnuma.mp hn⟩, hhealth.mp he.health,
      heligibility.mp he.eligibility, hreasons.mp he.reasons, hdrain.mp he.drain,
      hkinds.mp he.kinds⟩
  · intro hr
    exact ⟨⟨hvendor.mpr hr.identity.vendor, hhealth.mpr hr.health,
      heligibility.mpr hr.eligibility, hreasons.mpr hr.reasons, hdrain.mpr hr.drain,
      hkinds.mpr hr.kinds⟩, hnuma.mpr hr.identity.numa⟩

theorem SnapshotWords.Made.admitted_iff {w : SnapshotWords} {s : StateSnapshot} (h : w.Made s) :
    w.Admitted s ↔ w.InRange := by
  constructor
  · intro ha
    refine ⟨fun e he => ?_, (changes_declared_iff h.changes).mp ha.changes, ha.nodeIds⟩
    obtain ⟨d, hd, hmade⟩ := h.devices.kept e he
    exact hmade.declared_iff.mp ⟨ha.devices e.1 d hd, ha.numa e he⟩
  · intro hr
    refine ⟨fun key d hd => ?_, (changes_declared_iff h.changes).mpr hr.changeKinds,
      fun e he => ?_, hr.nodeIds, h.workers.distinct, h.devices.distinct⟩
    · obtain ⟨e, he, -, hmade⟩ := h.devices.made key d hd
      exact (hmade.declared_iff.mpr (hr.devices e he)).1
    · exact (toInt32_toInt64_eq_iff _).mpr (hr.devices e he).identity.numa

theorem ObservationWords.Made.admitted_iff {w : ObservationWords} {o : DeviceObservation}
    (h : w.Made o) : w.Admitted o ↔ w.InRange := by
  have hvendor := AcceleratorVendor.isDeclared_ofByte w.identity.vendor
  have hhealth := HealthState.isDeclared_ofByte w.health
  rw [← h.identity.vendor] at hvendor
  rw [← h.health] at hhealth
  have hkinds := kinds_declared_iff h.kinds
  have hnuma := toInt32_toInt64_eq_iff w.identity.numa
  constructor
  · intro ha
    exact ⟨hhealth.mp ha.health, hkinds.mp ha.kinds, hvendor.mp ha.vendor, hnuma.mp ha.numa⟩
  · intro hr
    exact ⟨hvendor.mpr hr.identity.vendor, hhealth.mpr hr.health, hkinds.mpr hr.kinds,
      hnuma.mpr hr.identity.numa⟩

theorem decode_follows {α β : Type} {d : Decoder α} {layout : FieldReader β} {R : α → β → Prop}
    (h : Follows d layout R) {b : ByteString} {v : α} (hdecode : d.decode b = .ok v) :
    ∃ w, wordsOf layout b = some w ∧ R v w := by
  obtain ⟨rest, hrun⟩ := decode_eq_ok.mp hdecode
  obtain ⟨w, hw, hR⟩ := h b v rest hrun
  have hlayout : layout.run b = some (w, rest) := hw
  refine ⟨w, ?_, hR⟩
  rw [wordsOf, hlayout]
  rfl

/-- What the two decoders let in is well formed exactly when the encoding has
bytes in range for the enumerations, NUMA words of 32 bits and no node
twice. -/
theorem decoders_admit_iff_inRange (b : ByteString) :
    (∀ s, decodeSnapshot b = .ok s →
      ∃ w, wordsOf snapshotLayout b = some w ∧ (w.Admitted s ↔ w.InRange)) ∧
    (∀ o, decodeDeviceObservation b = .ok o →
      ∃ w, wordsOf observationLayout b = some w ∧ (w.Admitted o ↔ w.InRange)) := by
  refine ⟨?_, ?_⟩
  · intro s hdecode
    obtain ⟨w, hw, hmade⟩ := decode_follows follows_snapshot hdecode
    exact ⟨w, hw, hmade.admitted_iff⟩
  · intro o hdecode
    obtain ⟨w, hw, hmade⟩ := decode_follows follows_deviceObservation hdecode
    exact ⟨w, hw, hmade.admitted_iff⟩

/-- A snapshot with the node 7 twice and a change record of kind 200. -/
def malformedSnapshot : ByteString :=
  List.replicate 32 0
    ++ ByteWriter.u32 2
    ++ (ByteWriter.u64 7 ++ List.replicate 16 0)
    ++ (ByteWriter.u64 7 ++ List.replicate 16 0)
    ++ ByteWriter.u32 0
    ++ ByteWriter.u32 0
    ++ ByteWriter.u32 1
    ++ (ByteWriter.u8 200 ++ List.replicate 44 0)

/-- An observation on the NUMA node `2 ^ 32`, of a health that is not
declared. -/
def malformedObservation : ByteString :=
  List.replicate 72 0
    ++ ByteWriter.u8 10
    ++ List.replicate 49 0
    ++ (List.replicate 39 0 ++ ByteWriter.u64 4294967296 ++ List.replicate 21 0)

/-- Both are accepted. -/
theorem decoders_admit_malformed :
    (∃ s w, decodeSnapshot malformedSnapshot = .ok s ∧
      wordsOf snapshotLayout malformedSnapshot = some w ∧ ¬w.Admitted s ∧
      s.changeLog.all (fun c => c.kind.isDeclared) = false ∧ ¬w.nodeIds.Nodup) ∧
    ∃ o w, decodeDeviceObservation malformedObservation = .ok o ∧
      wordsOf observationLayout malformedObservation = some w ∧ ¬w.Admitted o ∧
      o.health.isDeclared = false ∧ o.identity.numaNode.toInt64 ≠ w.identity.numa := by
  refine ⟨?_, ?_⟩
  · have hkind : (decodeSnapshot malformedSnapshot).map
        (fun s => s.changeLog.all fun c => c.kind.isDeclared) = .ok false := by decide +kernel
    have hids : (wordsOf snapshotLayout malformedSnapshot).map (fun w => w.nodeIds)
        = some [7, 7] := by decide +kernel
    cases hdecode : decodeSnapshot malformedSnapshot with
    | error e =>
      rw [hdecode] at hkind
      cases hkind
    | ok s =>
      rw [hdecode] at hkind
      obtain ⟨w, hw, hwids⟩ := Option.map_eq_some_iff.mp hids
      have hrepeated : ¬w.nodeIds.Nodup := by
        rw [hwids]
        decide
      exact ⟨s, w, rfl, hw, fun ha => hrepeated ha.nodeIds, Except.ok.inj hkind, hrepeated⟩
  · have hresult : (decodeDeviceObservation malformedObservation).map
        (fun o => (o.health.isDeclared, o.identity.numaNode)) = .ok (false, 0) := by decide +kernel
    have hnuma : (wordsOf observationLayout malformedObservation).map (fun w => w.identity.numa)
        = some 4294967296 := by decide +kernel
    cases hdecode : decodeDeviceObservation malformedObservation with
    | error e =>
      rw [hdecode] at hresult
      cases hresult
    | ok o =>
      rw [hdecode] at hresult
      obtain ⟨w, hw, hword⟩ := Option.map_eq_some_iff.mp hnuma
      obtain ⟨hhealth, hnode⟩ := Prod.mk.inj (Except.ok.inj hresult)
      refine ⟨o, w, rfl, hw, fun ha => ?_, hhealth, ?_⟩
      · rw [ha.health] at hhealth
        cases hhealth
      · rw [hnode, hword]
        decide

/-- The words of the snapshot of a store with one worker and one device. -/
def sampleWords : SnapshotWords :=
  { nodeIds := [1]
    workerIds := [1]
    devices := [(text "nvidia||GPU-0|0000:00:00.0||0.0|0|", {
      identity := ⟨1, -1⟩, health := 1, eligibility := 1, reasons := [], drain := 0, kinds := [] })]
    changeKinds := [1, 3, 6, 8, 9] }

set_option maxRecDepth 8000 in
/-- They are in range, so what is read back is well formed. -/
theorem decoders_admit_iff_inRange_sample :
    sampleWords.Admitted { (sampleStore.run sampleReport).snapshot with accounting := {} } := by
  have hdecode : decodeSnapshot (encodeSnapshot (sampleStore.run sampleReport).snapshot)
      = .ok { (sampleStore.run sampleReport).snapshot with accounting := {} } :=
    decode_readsAll (readsAll_encodeSnapshot (by decide))
  have hwords : wordsOf snapshotLayout (encodeSnapshot (sampleStore.run sampleReport).snapshot)
      = some sampleWords := by decide +kernel
  have hrange : sampleWords.InRange := by
    refine ⟨fun e he => ?_, by decide, by decide⟩
    obtain rfl := List.mem_singleton.mp he
    exact ⟨⟨by decide, by decide⟩, by decide, by decide, by decide, by decide, by decide⟩
  obtain ⟨w, hw, hiff⟩ := (decoders_admit_iff_inRange _).1 _ hdecode
  rw [hwords] at hw
  obtain rfl := Option.some.inj hw
  exact hiff.mpr hrange

end GpuFleet
