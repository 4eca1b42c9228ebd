import GpuFleet.Fleet.Registration
import GpuFleet.Fleet.SnapshotRoundTrip
import GpuFleet.Protocol.AdminPayload

/-!
# What the decoders let in

Every text on the wire has a bound and every list has a limit, and a value
that comes out of a decoder is within them.  For the messages that is as much
as the store ever learns about the sizes of what it is given.  A snapshot that
was decoded `Fits`, so it can be saved again.
-/

namespace GpuFleet

open Reading

/-- A registration is within the bounds of `decode_registration`. -/
structure Registration.Fits (reg : Registration) : Prop where
  osPlatform : reg.osPlatform.length ≤ 128
  driverVersion : reg.driverVersion.text.length ≤ 128
  deviceCount : reg.enumeratedDevices.length ≤ 4096
  devices : ∀ x ∈ reg.enumeratedDevices, x.length ≤ 256
  capabilityCount : reg.supportedCapabilities.length ≤ 4096
  capabilities : ∀ x ∈ reg.supportedCapabilities, x.length ≤ 128

/-- An observation is within the bounds of `decode_device_observation`. -/
structure DeviceObservation.Fits (o : DeviceObservation) : Prop where
  identity : o.identity.Fits
  capabilityCount : o.capabilities.length ≤ 4096
  capabilities : ∀ c ∈ o.capabilities, c.Fits
  validationDetail : o.validationDetail.length ≤ 4096

/-- A quarantine is within the bounds of `decode_quarantine`. -/
structure QuarantineTarget.Fits (q : QuarantineTarget) : Prop where
  reason : q.reason.length ≤ 512
  source : q.source.length ≤ 128

/-- A count that passed its check is within the limit. -/
theorem count_le {n limit : UInt32} (h : decide (n > limit) = false) :
    n.toNat ≤ limit.toNat := by
  rw [decide_eq_false_iff_not, gt_iff_lt, UInt32.lt_iff_toNat_lt] at h
  exact Nat.le_of_not_lt h

/-! ## Messages -/

theorem ensures_registration : Ensures registrationDecoder Registration.Fits := by
  unfold registrationDecoder
  simp only [times_eq]
  refine .any fun _ => .any fun _ => .any fun _ => ?_
  refine .any fun _ => .any fun _ => .any fun _ => .any fun _ => ?_
  refine .bind (ensures_needString 128) fun os hos => ?_
  refine .bind (ensures_needString 128) fun driver hdriver => ?_
  refine .any fun _ => .any fun _ => ?_
  refine .any fun devices => .bind ensures_reject fun _ hdevices => ?_
  refine .bind ((ensures_needString 256).times _) fun enumerated henumerated => ?_
  refine .any fun caps => .bind ensures_reject fun _ hcaps => ?_
  refine .bind ((ensures_needString 128).times _) fun supported hsupported => ?_
  refine .any fun _ => .any fun _ => .any fun _ => .pure ?_
  exact ⟨hos, hdriver, henumerated.1.trans_le (count_le hdevices), henumerated.2,
    hsupported.1.trans_le (count_le hcaps), hsupported.2⟩

theorem ensures_capability : Ensures capabilityDecoder Capability.Fits := by
  unfold capabilityDecoder
  refine .any fun _ => .bind (ensures_needString 128) fun name hname => ?_
  refine .any fun _ => .bind (ensures_needString 256) fun value hvalue => ?_
  refine .bind (ensures_needString 256) fun description hdescription => .pure ?_
  exact ⟨hname, hvalue, hdescription⟩

theorem ensures_observedIdentity : Ensures observedIdentityDecoder DeviceIdentity.Fits := by
  unfold observedIdentityDecoder
  refine .any fun _ => .bind (ensures_needString 128) fun vendorName hvendorName => ?_
  refine .bind (ensures_needString 128) fun uuid huuid => ?_
  refine .any fun _ => .any fun _ => .any fun _ => .any fun _ => ?_
  refine .bind (ensures_needString 64) fun architecture harchitecture => ?_
  refine .any fun _ => .any fun _ => .any fun _ => .any fun _ => ?_
  refine .bind (ensures_needString 128) fun driver hdriver => ?_
  refine .any fun _ => .any fun _ => .any fun _ => .any fun _ => .any fun hasParent => ?_
  dsimp only
  by_cases hparent : hasParent = 0
  · rw [if_pos hparent]
    exact .any fun _ => .pure ⟨hvendorName, huuid, harchitecture, hdriver⟩
  · rw [if_neg hparent]
    exact .any fun _ => .any fun _ => .pure ⟨hvendorName, huuid, harchitecture, hdriver⟩

theorem ensures_deviceObservation :
    Ensures deviceObservationDecoder DeviceObservation.Fits := by
  unfold deviceObservationDecoder
  simp only [times_eq]
  refine .any fun _ => .any fun _ => .any fun _ => .any fun _ => .any fun _ => ?_
  refine .any fun _ => .any fun _ => .any fun _ => .any fun _ => .any fun _ => ?_
  refine .any fun _ => .any fun _ => .any fun _ => .any fun _ => .any fun _ => .any fun _ => ?_
  refine .any fun caps => .bind ensures_reject fun _ hcaps => ?_
  refine .bind (ensures_capability.times _) fun capabilities hcapabilities => ?_
  refine .any fun _ => .bind (ensures_needString 4096) fun detail hdetail => ?_
  refine .any fun _ => .any fun _ => .any fun _ => .any fun _ => .any fun _ => ?_
  refine .any fun _ => .any fun _ => .any fun _ => .any fun _ => .any fun _ => ?_
  refine .bind ensures_observedIdentity fun identity hidentity => .any fun _ => .pure ?_
  exact ⟨hidentity, hcapabilities.1.trans_le (count_le hcaps), hcapabilities.2, hdetail⟩

theorem ensures_batchItem : Ensures batchItemDecoder DeviceObservation.Fits := by
  unfold batchItemDecoder
  refine .any fun _ => .any fun _ => .any fun blob => ?_
  refine ensures_need ?_
  intro r o r' hrun
  obtain ⟨o', ho', hpair⟩ := Option.map_eq_some_iff.mp hrun
  obtain ⟨rfl, _⟩ := Prod.mk.inj hpair
  cases hdecode : decodeDeviceObservation blob with
  | error e =>
    rw [hdecode] at ho'
    cases ho'
  | ok o =>
    rw [hdecode] at ho'
    cases ho'
    exact decode_ensures ensures_deviceObservation hdecode

theorem ensures_observationBatch :
    Ensures observationBatchDecoder fun obs => ∀ o ∈ obs, o.Fits := by
  unfold observationBatchDecoder
  simp only [times_eq]
  refine .any fun count => .any fun _ => ?_
  refine .bind (ensures_batchItem.times _) fun obs hobs => .any fun _ => .pure ?_
  exact hobs.2

theorem ensures_quarantine : Ensures quarantineDecoder QuarantineTarget.Fits := by
  unfold quarantineDecoder
  refine .any fun _ => .bind (ensures_needString 512) fun reason hreason => ?_
  refine .bind (ensures_needString 128) fun source hsource => ?_
  refine .any fun _ => .any fun _ => .pure ?_
  exact ⟨hreason, hsource⟩

/-! ## Snapshots -/

theorem ensures_readIdentity : Ensures readIdentity DeviceIdentity.Fits := by
  unfold readIdentity
  refine .any fun _ => .bind (ensures_string 128) fun vendorName hvendorName => ?_
  refine .bind (ensures_string 128) fun uuid huuid => ?_
  refine .any fun _ => .any fun _ => .any fun _ => .any fun _ => ?_
  refine .bind (ensures_string 64) fun architecture harchitecture => ?_
  refine .any fun _ => .any fun _ => .any fun _ => .any fun _ => ?_
  refine .bind (ensures_string 128) fun driver hdriver => ?_
  refine .any fun _ => .any fun _ => .any fun _ => .any fun _ => .any fun _ => .pure ?_
  exact ⟨hvendorName, huuid, harchitecture, hdriver⟩

theorem ensures_readCapability : Ensures readCapability Capability.Fits := by
  unfold readCapability
  refine .any fun _ => .bind (ensures_string 128) fun name hname => ?_
  refine .any fun _ => .bind (ensures_string 256) fun value hvalue => ?_
  refine .bind (ensures_string 256) fun description hdescription => .pure ?_
  exact ⟨hname, hvalue, hdescription⟩

theorem ensures_readDeviceState : Ensures readDeviceState DeviceState.Fits := by
  unfold readDeviceState
  refine .any fun _ => .any fun _ => .bind ensures_readIdentity fun identity hidentity => ?_
  refine .any fun _ => .any fun _ => ?_
  refine .bind (ensures_string 4096) fun explanation hexplanation => ?_
  refine .any fun _ => .any fun reasons => .bind ensures_check fun _ hreasons => ?_
  refine .bind (Ensures.times (P := fun _ => True) (fun _ _ _ _ => trivial) _)
    fun eligibilityReasons hlength => ?_
  refine .any fun _ => .any fun _ => ?_
  refine .bind (ensures_string 512) fun reason hreason => ?_
  refine .bind (ensures_string 128) fun source hsource => ?_
  refine .any fun _ => .any fun _ => .any fun _ => .any fun _ => .any fun _ => ?_
  refine .any fun _ => .any fun _ => .any fun _ => .any fun _ => ?_
  refine .any fun caps => .bind ensures_check fun _ hcaps => ?_
  refine .bind (ensures_readCapability.times _) fun capabilities hcapabilities => ?_
  refine .any fun _ => .bind (ensures_string 4096) fun detail hdetail => ?_
  refine .any fun _ => .any fun _ => .any fun _ => .any fun _ => ?_
  refine .any fun _ => .any fun _ => .any fun _ => .pure ?_
  exact ⟨hidentity, hexplanation, hlength.1.trans_le (count_le hreasons), hreason, hsource,
    hcapabilities.1.trans_le (count_le hcaps), hcapabilities.2, hdetail⟩

theorem ensures_worker : Ensures workerDecoder WorkerRecord.Fits := by
  unfold workerDecoder
  simp only [times_eq]
  refine .any fun _ => .any fun _ => .any fun _ => .any fun _ => .any fun _ => ?_
  refine .any fun _ => .any fun _ => .any fun _ => .any fun _ => ?_
  refine .bind (ensures_needString 128) fun os hos => ?_
  refine .bind (ensures_needString 128) fun driver hdriver => ?_
  refine .any fun devices => .bind ensures_reject fun _ hdevices => ?_
  refine .bind ((ensures_needString 256).times _) fun identities hidentities => ?_
  refine .any fun caps => .bind ensures_reject fun _ hcaps => ?_
  refine .bind ((ensures_needString 128).times _) fun capabilities hcapabilities => ?_
  refine .any fun _ => .any fun _ => .any fun _ => ?_
  refine .any fun _ => .any fun _ => .any fun _ => .pure ?_
  exact ⟨hos, hdriver, hidentities.1.trans_le (count_le hdevices), hidentities.2,
    hcapabilities.1.trans_le (count_le hcaps), hcapabilities.2⟩

theorem ensures_change : Ensures changeDecoder ChangeRecord.Fits := by
  unfold changeDecoder
  refine .any fun _ => .any fun _ => .any fun _ => .any fun _ => .any fun _ => ?_
  refine .bind (ensures_needString 512) fun detail hdetail => ?_
  refine .bind (ensures_needString 128) fun fromValue hfrom => ?_
  refine .bind (ensures_needString 128) fun toValue hto => .pure ?_
  exact ⟨hdetail, hfrom, hto⟩

section Entries

variable {κ ν : Type} [Ord κ] [Std.TransOrd κ] [Std.LawfulEqOrd κ] [DecidableEq κ]
  {P : κ × ν → Prop} {n : Nat} {m : Map κ ν}

/-- A map with at most `n` entries, all of which satisfy `P`. -/
structure EntriesSatisfy (P : κ × ν → Prop) (n : Nat) (m : Map κ ν) : Prop where
  size : m.size ≤ n
  entries : ∀ e ∈ m.toList, P e

omit [DecidableEq κ] in
theorem entriesSatisfy_empty : EntriesSatisfy P 0 (∅ : Map κ ν) := by
  refine ⟨Nat.le_of_eq Std.ExtTreeMap.size_empty, fun e he => ?_⟩
  have hget : (∅ : Map κ ν)[e.1]? = some e.2 := OrderedMap.mem_toList.mp he
  rw [Std.ExtTreeMap.getElem?_empty] at hget
  cases hget

theorem EntriesSatisfy.insert (h : EntriesSatisfy P n m) {k : κ} {v : ν} (hv : P (k, v)) :
    EntriesSatisfy P (n + 1) (m.insert k v) := by
  refine ⟨Std.ExtTreeMap.size_insert_le.trans (Nat.succ_le_succ h.size), fun e he => ?_⟩
  have hget := OrderedMap.mem_toList.mp he
  rw [OrderedMap.getElem?_insert] at hget
  by_cases hk : k = e.1
  · rw [if_pos hk] at hget
    obtain rfl := Option.some.inj hget
    rw [hk] at hv
    exact hv
  · rw [if_neg hk] at hget
    exact h.entries e (OrderedMap.mem_toList.mpr hget)

/-- `emplace` of an entry that is there already does nothing. -/
theorem EntriesSatisfy.insertIfNew (h : EntriesSatisfy P n m) {k : κ} {v : ν}
    (hv : P (k, v)) : EntriesSatisfy P (n + 1) (m.insertIfNew k v) := by
  cases hk : m[k]? with
  | none =>
    rw [OrderedMap.insertIfNew_eq_insert hk]
    exact h.insert hv
  | some v₀ =>
    rw [OrderedMap.insertIfNew_eq_self hk]
    exact ⟨h.size.trans (Nat.le_succ n), h.entries⟩

omit [DecidableEq κ] in
/-- A loop over entries, when its body adds one entry that satisfies `P`. -/
theorem ensures_entries {body : Map κ ν → Decoder (Map κ ν)}
    (h : ∀ k m, EntriesSatisfy P k m → Ensures (body m) (EntriesSatisfy P (k + 1))) (n : Nat) :
    Ensures (fold body n ∅) (EntriesSatisfy P n) := by
  have hfold := Ensures.fold (I := EntriesSatisfy P) h n entriesSatisfy_empty
  rwa [Nat.zero_add] at hfold

end Entries

theorem ensures_nodes (n : Nat) :
    Ensures (fold nodeEntryDecoder n ∅) (EntriesSatisfy (fun e => e.2.node = e.1) n) := by
  refine ensures_entries (fun k nodes h => ?_) n
  exact .any fun node => .pure (h.insertIfNew rfl)

theorem ensures_workers (n : Nat) :
    Ensures (fold workerEntryDecoder n ∅)
      (EntriesSatisfy (fun e => e.2.worker = e.1 ∧ e.2.Fits) n) := by
  refine ensures_entries (fun k workers h => ?_) n
  refine .bind ensures_worker fun wr hwr => .any fun _ => .pure ?_
  exact h.insert ⟨rfl, hwr⟩

theorem ensures_devices (n : Nat) :
    Ensures (fold deviceEntryDecoder n ∅)
      (EntriesSatisfy (fun e => e.1.length ≤ 256 ∧ e.2.Fits) n) := by
  refine ensures_entries (fun k devices h => ?_) n
  refine .bind (ensures_needString 256) fun key hkey => ?_
  refine .bind (ensures_need ensures_readDeviceState) fun d hd => .any fun _ => .pure ?_
  exact h.insert ⟨hkey, hd⟩

/-- Whatever bytes `decode_snapshot` accepts, the snapshot is within the bounds
of the format. -/
theorem ensures_snapshot : Ensures snapshotDecoder StateSnapshot.Fits := by
  unfold snapshotDecoder
  simp only [times_eq]
  refine .any fun _ => .any fun _ => .any fun _ => .any fun _ => ?_
  refine .any fun nodeCount => .bind ensures_reject fun _ hnodeCount => ?_
  refine .bind (ensures_nodes _) fun nodes hnodes => ?_
  refine .any fun workerCount => .bind ensures_reject fun _ hworkerCount => ?_
  refine .bind (ensures_workers _) fun workers hworkers => ?_
  refine .any fun deviceCount => .bind ensures_reject fun _ hdeviceCount => ?_
  refine .bind (ensures_devices _) fun devices hdevices => ?_
  refine .any fun changeCount => .bind ensures_reject fun _ hchangeCount => ?_
  refine .bind (ensures_change.times _) fun changes hchanges => ?_
  refine .any fun _ => .pure ?_
  exact {
    nodeCount := hnodes.size.trans (count_le hnodeCount)
    nodeKeys := hnodes.entries
    workerCount := hworkers.size.trans (count_le hworkerCount)
    workerKeys := fun e he => (hworkers.entries e he).1
    workers := fun e he => (hworkers.entries e he).2
    deviceCount := hdevices.size.trans (count_le hdeviceCount)
    deviceKeys := fun e he => (hdevices.entries e he).1
    devices := fun e he => (hdevices.entries e he).2
    changeCount := hchanges.1.trans_le (count_le hchangeCount)
    changes := hchanges.2 }

/-- The encoding of the snapshot is accepted by `decode_snapshot`, and the
result differs from the snapshot in the accounting at most. -/
def StateSnapshot.Recovers (s : StateSnapshot) : Prop :=
  ∃ snap, decodeSnapshot (encodeSnapshot s) = .ok snap ∧
    { snap with accounting := s.accounting } = s

/-- The bounds of the format are exactly what a snapshot needs to come back. -/
theorem StateSnapshot.recovers_iff_fits (s : StateSnapshot) : s.Recovers ↔ s.Fits := by
  constructor
  · rintro ⟨snap, hdecode, heq⟩
    have hfits : snap.Fits := decode_ensures ensures_snapshot hdecode
    rw [← heq]
    exact {
      nodeCount := hfits.nodeCount
      nodeKeys := hfits.nodeKeys
      workerCount := hfits.workerCount
      workerKeys := hfits.workerKeys
      workers := hfits.workers
      deviceCount := hfits.deviceCount
      deviceKeys := hfits.deviceKeys
      devices := hfits.devices
      changeCount := hfits.changeCount
      changes := hfits.changes }
  · intro hfits
    exact ⟨{ s with accounting := {} }, decode_readsAll (readsAll_encodeSnapshot hfits), rfl⟩

end GpuFleet
