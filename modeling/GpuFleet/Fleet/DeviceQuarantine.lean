import GpuFleet.Device.CanonicalKeys
import GpuFleet.Fleet.EligibilitySafety
import GpuFleet.Fleet.Fences

/-!
# Quarantine and the identity of a device

The store files a device under the canonical text of its identity, and the
quarantine of a device is a field of what is filed there.  So a quarantine
follows whatever the text says: `quarantine_follows_identity`.  The text has
the PCI address, the memory size and the driver version in it, next to the
vendor and the UUID.  The same board in another slot is another device for
the store, and `quarantine_left_behind` is such a run.
-/

namespace GpuFleet

open Run

/-- One piece of hardware, as far as the vendor and the UUID can tell. -/
structure SameHardware (a b : DeviceIdentity) : Prop where
  vendor : a.vendor = b.vendor
  uuid : a.uuid = b.uuid
  known : a.uuid.value ≠ []

namespace FleetStateStore

/-- The call quarantines the device with this identity, filed under `key`. -/
def SetsQuarantine (key : ByteString) (identity : DeviceIdentity)
    (call : FleetStateStore × Op) : Prop :=
  ∃ w q now d, call.2 = .setQuarantine w key q now ∧ ¬(call.1.exec call.2).Failed ∧
    call.1.devices[key]? = some d ∧ d.identity = identity

/-- The call is a successful clear on `key`. -/
def ClearsQuarantine (key : ByteString) (call : FleetStateStore × Op) : Prop :=
  ∃ w epoch now, call.2 = .clearQuarantine w key epoch now ∧ ¬(call.1.exec call.2).Failed

/-- A device with this identity was quarantined, and no clear on it has
succeeded since. -/
def StandingQuarantine (past : List (FleetStateStore × Op)) (identity : DeviceIdentity) : Prop :=
  ∃ key, Since (fun call => ¬ClearsQuarantine key call) (SetsQuarantine key identity) past

/-- In every run without recovery, whatever an ingest applies an observation
to, and is the same device as one under a standing quarantine, is quarantined
and does not admit work. -/
def QuarantineFollows (same : DeviceIdentity → DeviceIdentity → Prop) : Prop :=
  ∀ (coord : CoordinatorId) (epoch : CoordinatorEpoch) (ops : List Op),
    (∀ op ∈ ops, ¬op.IsRestore) →
    ∀ identity, StandingQuarantine ((empty coord epoch).history ops) identity →
    ∀ (worker : WorkerId) (obs : List DeviceObservation) (policy : ObservationPolicy)
      (now : Timestamp),
    ∀ a ∈ (((empty coord epoch).run ops).ingestSnapshot worker obs policy now).applied, ∀ d,
      ((empty coord epoch).run (ops ++ [.ingestSnapshot worker obs policy now])).devices[a.key]?
        = some d →
      same identity d.identity →
      d.quarantined = true ∧ d.eligibility ≠ .eligible ∧ d.eligibility ≠ .degradedEligible

/-! ## The key of a device -/

theorem loseDevice_identity (d : DeviceState) : (loseDevice d).identity = d.identity := by
  unfold loseDevice
  by_cases hp : d.present = true
  · simp [hp]
  · simp [hp]

/-- Without recoveries every device is filed under its canonical text. -/
theorem filedByIdentity_invariant :
    DeviceInvariant (fun op => ¬op.IsRestore)
      (fun key d => key = canonicalDeviceIdentity d.identity) where
  applied := fun _ _ _ _ _ _ _ _ _ => rfl
  lost := by
    intro key d h
    rw [h, loseDevice_identity]
  gone := fun _ _ h => h
  edited := by
    intro key d d' h hedit
    have hidentity : d'.identity = d.identity := by rw [hedit.rest]
    rw [h, ← hidentity]
    rfl
  restored := fun _ h => absurd trivial h

/-! ## The fence of a key -/

/-- The device is on file and quarantined. -/
def QuarantinedAt (s : FleetStateStore) (key : ByteString) : Prop :=
  ∃ f, s.fencesOf key = some f ∧ f.quarantined = true

theorem QuarantinedAt.quarantined {s : FleetStateStore} {key : ByteString} {d : DeviceState}
    (h : s.QuarantinedAt key) (hd : s.devices[key]? = some d) : d.quarantined = true := by
  obtain ⟨f, hf, hq⟩ := h
  rw [fencesOf_of_some hd] at hf
  cases hf
  exact hq

theorem setQuarantine_quarantinedAt {s : FleetStateStore} (w : WorkerId) {key : ByteString}
    {q : QuarantineRecord} {now : Timestamp} (h : ¬(s.setQuarantine w key q now).Failed) :
    (s.setQuarantine w key q now).store.QuarantinedAt key := by
  unfold setQuarantine at h ⊢
  split
  · next hnone =>
    rw [hnone] at h
    exact absurd Outcome.failed_error h
  next dev hdev =>
  rw [hdev] at h
  simp only at h
  split
  · next hg =>
    rw [if_pos hg] at h
    exact absurd Outcome.failed_error h
  · simp only
    split
    · exact ⟨_, fencesOf_of_some (OrderedMap.getElem?_insert_same _ _ _), rfl⟩
    · exact ⟨_, fencesOf_of_some (OrderedMap.getElem?_insert_same _ _ _), rfl⟩

/-- Only a successful clear on the key lifts the quarantine. -/
theorem QuarantinedAt.step {s : FleetStateStore} {key : ByteString} (h : s.QuarantinedAt key)
    (op : Op) (hrestore : ¬op.IsRestore) (hclear : ¬ClearsQuarantine key (s, op)) :
    (s.step op).QuarantinedAt key := by
  obtain ⟨f, hf, hq⟩ := h
  cases step_fences hrestore key with
  | untouched heffect =>
    rw [hf] at heffect
    generalize hr : (s.step op).fencesOf key = r at heffect
    cases heffect with
    | kept => exact ⟨f, hr, hq⟩
  | drained w level now f' hop hbefore hafter =>
    obtain rfl : f = f' := Option.some.inj (hf.symm.trans hbefore)
    exact ⟨_, hafter, hq⟩
  | quarantined w q now f' hop hbefore hafter => exact ⟨_, hafter, rfl⟩
  | cleared w now f' hop hok hbefore hafter => exact absurd ⟨w, _, now, hop, hok⟩ hclear

/-! ## Runs -/

/-- A quarantine that was set and not cleared is a fence on file, under the
canonical text of the device it was set on. -/
theorem quarantinedAt_of_since (coord : CoordinatorId) (epoch : CoordinatorEpoch)
    {ops : List Op} (hrestore : ∀ op ∈ ops, ¬op.IsRestore) {key : ByteString}
    {identity : DeviceIdentity}
    (h : Since (fun call => ¬ClearsQuarantine key call) (SetsQuarantine key identity)
      ((empty coord epoch).history ops)) :
    ((empty coord epoch).run ops).QuarantinedAt key ∧ key = canonicalDeviceIdentity identity := by
  induction ops using List.reverseRecOn with
  | nil =>
    obtain ⟨before, x, after, he, _⟩ := h
    simp [history] at he
  | append_singleton ops op ih =>
    have hbefore : ∀ op ∈ ops, ¬op.IsRestore :=
      fun op hop => hrestore op (List.mem_append_left _ hop)
    have hlast : ¬op.IsRestore := hrestore op (by simp)
    rw [history, history_concat] at h
    rw [run, run_concat]
    rcases since_concat.mp h with ⟨w, q, now, d, hop, hok, hd, rfl⟩ | ⟨hclear, hpast⟩
    · obtain rfl : op = .setQuarantine w key q now := hop
      exact ⟨setQuarantine_quarantinedAt w hok,
        filedByIdentity_invariant.run coord epoch ops hbefore key d hd⟩
    · obtain ⟨hstands, hkey⟩ := ih hbefore hpast
      exact ⟨hstands.step op hlast hclear, hkey⟩

/-- Quarantine follows the stable identity of a device. -/
theorem quarantine_follows_identity : QuarantineFollows SameStableIdentity := by
  intro coord epoch ops hrestore identity hstanding worker obs policy now a ha d hd hsame
  obtain ⟨key, hsince⟩ := hstanding
  have hops : ∀ op ∈ ops ++ [Op.ingestSnapshot worker obs policy now], ¬op.IsRestore := by
    intro op hop
    rcases List.mem_append.mp hop with hop | hop
    · exact hrestore op hop
    · rw [List.mem_singleton.mp hop]
      exact fun h => h
  obtain ⟨hat, hkey⟩ := quarantinedAt_of_since coord epoch hrestore hsince
  have hfiled := filedByIdentity_invariant.run coord epoch _ hops a.key d hd
  have hsafe := storeSafe_run coord epoch _ a.key d hd
  rw [← hsame.canonical, ← hkey] at hfiled
  rw [hfiled, run, run_concat] at hd
  have hclears : ¬ClearsQuarantine key ((empty coord epoch).run ops,
      .ingestSnapshot worker obs policy now) := by
    intro hclears
    obtain ⟨_, _, _, hop, _⟩ := hclears
    cases hop
  have hat' := hat.step (.ingestSnapshot worker obs policy now) (fun h => h) hclears
  have hq : d.quarantined = true := hat'.quarantined hd
  have hadmits : ¬d.eligibility.Admits := by
    intro hadmits
    rw [(hsafe.cleared hadmits).quarantined] at hq
    cases hq
  exact ⟨hq, fun h => hadmits (Or.inl h), fun h => hadmits (Or.inr h)⟩

/-- The board is quarantined, and reported again after that. -/
def sampleQuarantined : List Op := sampleReport ++ [.setQuarantine ⟨1⟩ sampleKey {} 6000]

theorem sampleQuarantined_standing :
    StandingQuarantine (sampleStore.history sampleQuarantined) sampleIdentity := by
  refine ⟨sampleKey, ?_⟩
  rw [sampleQuarantined, history, history_concat]
  refine Since.here ⟨⟨1⟩, {}, 6000, _, rfl, ?_, rfl, rfl⟩
  exact Outcome.not_failed_ok

/-- The sample device on another NUMA node, with another runtime. -/
def sameObservation : DeviceObservation :=
  { sampleObservation 1 10 2 with
    identity := { sampleIdentity with
      numaNode := 3, runtimeVersion := { major := 13, minor := 1 } } }

set_option maxRecDepth 4000 in
/-- The board is reported again, and the quarantine stands. -/
theorem quarantine_kept :
    ∃ d, (sampleStore.run
        (sampleQuarantined ++ [.ingestSnapshot ⟨1⟩ [sameObservation] {} 7000])).devices[sampleKey]?
          = some d ∧ d.identity.numaNode = 3 ∧ d.quarantined = true ∧
        d.eligibility ≠ .eligible ∧ d.eligibility ≠ .degradedEligible :=
  ⟨_, rfl, rfl, quarantine_follows_identity ⟨1⟩ ⟨1⟩ sampleQuarantined
    (by simp [sampleQuarantined, sampleReport, Op.IsRestore]) sampleIdentity
    sampleQuarantined_standing ⟨1⟩ [sameObservation] {} 7000 _ (List.mem_singleton.mpr rfl) _ rfl
    ⟨rfl, rfl, rfl, rfl, rfl, rfl, rfl, rfl⟩⟩

/-- The sample device in another slot. -/
def movedObservation : DeviceObservation :=
  { sampleObservation 1 10 2 with identity := { sampleIdentity with pci := { bus := 0x1a } } }

set_option maxRecDepth 4000 in
/-- The board is quarantined, moves to another slot, and is eligible there. -/
theorem quarantine_left_behind : ¬QuarantineFollows SameHardware := by
  intro hfollows
  have hfenced := hfollows ⟨1⟩ ⟨1⟩ sampleQuarantined
    (by simp [sampleQuarantined, sampleReport, Op.IsRestore]) sampleIdentity
    sampleQuarantined_standing ⟨1⟩ [movedObservation] {} 7000 _ (List.mem_singleton.mpr rfl) _ rfl
    ⟨rfl, rfl, by decide⟩
  exact absurd hfenced.1 (by decide)

end FleetStateStore

end GpuFleet
