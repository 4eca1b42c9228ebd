import GpuFleet.Core.Delimited
import GpuFleet.Fleet.SnapshotRoundTrip
import GpuFleet.Persistence.Store

/-!
# The digest of a snapshot

The writer cuts a text that is over the bound of its field, so a snapshot is
not always read back as it was.  `cut` is what is read back: the same record
with every text cut.  Cutting does not change what is written, so the bytes,
and with them the digest, are the same before and after.

The keys of the device map are cut too.  Cutting keeps the order of two keys or
makes them equal, and the reader rejects equal keys.
-/

namespace GpuFleet

open Reading

/-! ## Texts -/

/-- The writer writes a text that was cut as it writes the whole text. -/
@[simp] theorem string_take (s : ByteString) (maxLen : Nat) :
    ByteWriter.string (s.take maxLen) maxLen = ByteWriter.string s maxLen := by
  have hcut : (if s.length > maxLen then s.take maxLen else s) = s.take maxLen := by
    by_cases hlong : s.length > maxLen
    · rw [if_pos hlong]
    · rw [if_neg hlong, List.take_of_length_le (Nat.le_of_not_lt hlong)]
  have hlength : ¬ (s.take maxLen).length > maxLen := by
    rw [List.length_take]
    omega
  simp only [ByteWriter.string, hcut, if_neg hlength]

theorem reads_string_cut (s : ByteString) (maxLen : Nat) (hmax : maxLen < 2 ^ 32 := by decide) :
    Reads (FieldReader.string maxLen) (ByteWriter.string s maxLen) (s.take maxLen) := by
  rw [← string_take]
  exact reads_string (List.length_take_le maxLen s) hmax

theorem reads_needString_cut {code : Status} {msg : String} (s : ByteString) (maxLen : Nat)
    (hmax : maxLen < 2 ^ 32 := by decide) :
    Reads (Decoder.needString maxLen code msg) (ByteWriter.string s maxLen) (s.take maxLen) :=
  reads_need (reads_string_cut s maxLen hmax)

/-- Cutting two texts at the same length does not reverse their order. -/
theorem compare_take (n : Nat) {a b : ByteString} (h : compare a b = .lt) :
    compare (a.take n) (b.take n) ≠ .gt := by
  induction n generalizing a b with
  | zero =>
    rw [List.take_zero, List.take_zero, Std.ReflOrd.compare_self]
    exact Ordering.noConfusion
  | succ n ih =>
    cases a with
    | nil =>
      cases b with
      | nil => cases h
      | cons y ys => exact Ordering.noConfusion
    | cons x xs =>
      cases b with
      | nil => cases h
      | cons y ys =>
        rw [List.compare_cons_cons] at h
        rw [List.take_succ_cons, List.take_succ_cons, List.compare_cons_cons]
        cases hxy : compare x y with
        | lt => exact Ordering.noConfusion
        | eq =>
          rw [hxy] at h
          exact ih h
        | gt =>
          rw [hxy] at h
          cases h

/-! ## Records -/

/-- An identity with its texts cut at their widths. -/
def DeviceIdentity.cut (id : DeviceIdentity) : DeviceIdentity :=
  { id with
    vendorName := id.vendorName.take 128
    uuid := ⟨id.uuid.value.take 128⟩
    architecture := id.architecture.take 64
    driverVersion := ⟨id.driverVersion.text.take 128⟩ }

/-- A capability with its texts cut at their widths. -/
def Capability.cut (c : Capability) : Capability :=
  { c with
    name := c.name.take 128
    value := c.value.take 256
    description := c.description.take 256 }

/-- A device with its texts cut at their widths. -/
def DeviceState.cut (d : DeviceState) : DeviceState :=
  { d with
    identity := d.identity.cut
    healthExplanation := d.healthExplanation.take 4096
    quarantine := { d.quarantine with
      reason := d.quarantine.reason.take 512
      source := d.quarantine.source.take 128 }
    capabilities := d.capabilities.map Capability.cut
    validationDetail := d.validationDetail.take 4096 }

/-- A worker with its texts cut at their widths. -/
def WorkerRecord.cut (wr : WorkerRecord) : WorkerRecord :=
  { wr with
    osPlatform := wr.osPlatform.take 128
    driverVersion := ⟨wr.driverVersion.text.take 128⟩
    deviceIdentities := wr.deviceIdentities.map (List.take 256)
    supportedCapabilities := wr.supportedCapabilities.map (List.take 128) }

/-- A change record with its texts cut at their widths. -/
def ChangeRecord.cut (c : ChangeRecord) : ChangeRecord :=
  { c with
    detail := c.detail.take 512
    fromValue := c.fromValue.take 128
    toValue := c.toValue.take 128 }

/-- The entries of the maps as they are read back.  A node and a worker are
read with their key for an id. -/
def cutNodeEntry (e : NodeId × NodeRecord) : NodeId × NodeRecord := (e.1, { e.2 with node := e.1 })

/-- The entry of a worker as it is read back. -/
def cutWorkerEntry (e : WorkerId × WorkerRecord) : WorkerId × WorkerRecord :=
  (e.1, { e.2.cut with worker := e.1 })

/-- The entry of a device as it is read back. -/
def cutDeviceEntry (e : ByteString × DeviceState) : ByteString × DeviceState :=
  (e.1.take 256, e.2.cut)

/-! ## Cutting does not change what is written -/

theorem flatMap_cut {α : Type} {write : α → ByteString} {cut : α → α}
    (h : ∀ x, write (cut x) = write x) (items : List α) :
    (items.map cut).flatMap write = items.flatMap write := by
  rw [List.flatMap_map]
  simp only [h]

theorem counted_cut {α : Type} {write : α → ByteString} {cut : α → α}
    (h : ∀ x, write (cut x) = write x) (items : List α) :
    ByteWriter.counted write (items.map cut) = ByteWriter.counted write items := by
  rw [ByteWriter.counted, ByteWriter.counted, flatMap_cut h, List.length_map]

theorem counted_string_cut (maxLen : Nat) (items : List ByteString) :
    ByteWriter.counted (fun x => ByteWriter.string x maxLen) (items.map (List.take maxLen))
      = ByteWriter.counted (fun x => ByteWriter.string x maxLen) items :=
  counted_cut (fun x => string_take x maxLen) items

theorem writeIdentity_cut (id : DeviceIdentity) : writeIdentity id.cut = writeIdentity id := by
  unfold writeIdentity DeviceIdentity.cut
  simp only [string_take]

theorem writeCapability_cut (c : Capability) : writeCapability c.cut = writeCapability c := by
  unfold writeCapability Capability.cut
  simp only [string_take]

theorem writeDeviceState_cut (d : DeviceState) : writeDeviceState d.cut = writeDeviceState d := by
  unfold writeDeviceState DeviceState.cut
  simp only [string_take, writeIdentity_cut, counted_cut writeCapability_cut]

theorem writeNodeEntry_cut (e : NodeId × NodeRecord) :
    writeNodeEntry (cutNodeEntry e) = writeNodeEntry e := rfl

theorem writeWorkerEntry_cut (e : WorkerId × WorkerRecord) :
    writeWorkerEntry (cutWorkerEntry e) = writeWorkerEntry e := by
  unfold writeWorkerEntry cutWorkerEntry WorkerRecord.cut
  simp only [string_take, counted_string_cut]

theorem writeDeviceEntry_cut (e : ByteString × DeviceState) :
    writeDeviceEntry (cutDeviceEntry e) = writeDeviceEntry e := by
  unfold writeDeviceEntry cutDeviceEntry
  rw [string_take, writeDeviceState_cut]

theorem writeChange_cut (c : ChangeRecord) : writeChange c.cut = writeChange c := by
  unfold writeChange ChangeRecord.cut
  simp only [string_take]

/-! ## What is read back -/

theorem DeviceIdentity.fits_cut (id : DeviceIdentity) : id.cut.Fits :=
  ⟨List.length_take_le _ _, List.length_take_le _ _, List.length_take_le _ _,
    List.length_take_le _ _⟩

theorem reads_identity_cut (id : DeviceIdentity) :
    Reads readIdentity (writeIdentity id) id.cut := by
  rw [← writeIdentity_cut]
  exact reads_writeIdentity id.fits_cut

theorem Capability.fits_cut (c : Capability) : c.cut.Fits :=
  ⟨List.length_take_le _ _, List.length_take_le _ _, List.length_take_le _ _⟩

theorem reads_capability_cut (c : Capability) :
    Reads readCapability (writeCapability c) c.cut := by
  rw [← writeCapability_cut]
  exact reads_writeCapability c.fits_cut

theorem ChangeRecord.fits_cut (c : ChangeRecord) : c.cut.Fits :=
  ⟨List.length_take_le _ _, List.length_take_le _ _, List.length_take_le _ _⟩

theorem reads_change_cut (c : ChangeRecord) : Reads changeDecoder (writeChange c) c.cut := by
  rw [← writeChange_cut]
  exact reads_writeChange c.fits_cut

theorem yields_check {bad : Bool} : Yields (FieldReader.reject bad) [] fun _ => bad = false := by
  intro rest v r' hrun
  cases bad with
  | false =>
    obtain ⟨-, rfl⟩ := Prod.mk.inj (Option.some.inj hrun)
    exact ⟨rfl, rfl⟩
  | true => cases hrun

theorem yields_reject {bad : Bool} {code : Status} {msg : String} :
    Yields (Decoder.reject bad code msg) [] fun _ => bad = false := by
  intro rest v r' hrun
  cases bad with
  | false =>
    obtain ⟨-, rfl⟩ := Prod.mk.inj (Except.ok.inj hrun)
    exact ⟨rfl, rfl⟩
  | true => cases hrun

theorem yields_need {α : Type} {code : Status} {msg : String} {read : FieldReader α}
    {bytes : ByteString} {P : α → Prop} (h : Yields read bytes P) :
    Yields (Decoder.need read code msg) bytes P := by
  intro rest v r' hrun
  exact h rest v r' (need_eq_ok hrun)

/-- A number of elements that a 32-bit count can hold. -/
def CountFits (n : Nat) : Prop := n < 2 ^ 32

theorem CountFits.toNat_ofNat {n : Nat} (h : CountFits n) : (UInt32.ofNat n).toNat = n :=
  UInt32.toNat_ofNat_of_lt' h

theorem yields_deviceState {d : DeviceState} (hreasons : CountFits d.eligibilityReasons.length)
    (hcapabilities : CountFits d.capabilities.length) :
    Yields readDeviceState (writeDeviceState d) fun d' => d' = d.cut := by
  unfold readDeviceState writeDeviceState ByteWriter.counted
  simp only [List.append_assoc]
  refine .field (reads_u64 _) ?_
  refine .field (reads_u64 _) ?_
  refine .field (reads_identity_cut _) ?_
  refine .field (reads_flag _) ?_
  refine .field (reads_u8 _) ?_
  refine .field (reads_string_cut _ _) ?_
  refine .field (reads_u8 _) ?_
  refine .field (reads_u32 _) ?_
  refine .check yields_check fun _ _ => ?_
  rw [hreasons.toNat_ofNat]
  refine .field (.times fun r _ => reads_reason r) ?_
  refine .field (reads_u8 _) ?_
  refine .field (reads_flag _) ?_
  refine .field (reads_string_cut _ _) ?_
  refine .field (reads_string_cut _ _) ?_
  refine .field (reads_u64 _) ?_
  refine .field (reads_i64 _) ?_
  refine .field (reads_u64 _) ?_
  refine .field (reads_u64 _) ?_
  refine .field (reads_u64 _) ?_
  refine .field (reads_u64 _) ?_
  refine .field (reads_u64 _) ?_
  refine .field (reads_optional _ reads_f64) ?_
  refine .field (reads_optional _ reads_f64) ?_
  refine .field (reads_u32 _) ?_
  refine .check yields_check fun _ _ => ?_
  rw [hcapabilities.toNat_ofNat]
  refine .field (.timesMap fun c _ => reads_capability_cut c) ?_
  refine .field (reads_flag _) ?_
  refine .field (reads_string_cut _ _) ?_
  refine .field (reads_i64 _) ?_
  refine .field (reads_i64 _) ?_
  refine .field (reads_i64 _) ?_
  refine .field (reads_u64 _) ?_
  refine .field (reads_u64 _) ?_
  refine .field (reads_u64 _) ?_
  refine .of_reads (.last (reads_flag _) rfl) ?_
  simp only [HealthState.ofByte_toByte, EligibilityState.ofByte_toByte, DrainState.ofByte_toByte,
    DeviceState.cut]

theorem reads_node_cut (e : NodeId × NodeRecord) :
    Reads nodeDecoder (writeNodeEntry e) (cutNodeEntry e).2 := by
  rw [← writeNodeEntry_cut]
  exact reads_writeNodeEntry rfl

theorem yields_worker {e : WorkerId × WorkerRecord}
    (hidentities : CountFits e.2.deviceIdentities.length)
    (hcapabilities : CountFits e.2.supportedCapabilities.length) :
    Yields workerDecoder (writeWorkerEntry e) fun wr => wr = (cutWorkerEntry e).2 := by
  unfold workerDecoder writeWorkerEntry ByteWriter.counted
  simp only [List.append_assoc, times_eq]
  refine .field (reads_need (reads_u64 _)) ?_
  refine .field (reads_need (reads_u64 _)) ?_
  refine .field (reads_need (reads_u64 _)) ?_
  refine .field (reads_need (reads_u64 _)) ?_
  refine .field (reads_need (reads_u64 _)) ?_
  refine .field (reads_need (reads_u32 _)) ?_
  refine .field (reads_need (reads_u32 _)) ?_
  refine .field (reads_need (reads_u32 _)) ?_
  refine .field (reads_need (reads_u32 _)) ?_
  refine .field (reads_needString_cut _ _) ?_
  refine .field (reads_needString_cut _ _) ?_
  refine .field (reads_need (reads_u32 _)) ?_
  refine .check yields_reject fun _ _ => ?_
  rw [hidentities.toNat_ofNat]
  refine .field (.timesMap fun x _ => reads_needString_cut x _) ?_
  refine .field (reads_need (reads_u32 _)) ?_
  refine .check yields_reject fun _ _ => ?_
  rw [hcapabilities.toNat_ofNat]
  refine .field (.timesMap fun x _ => reads_needString_cut x _) ?_
  refine .field (reads_need (reads_i64 _)) ?_
  refine .field (reads_need (reads_i64 _)) ?_
  refine .field (reads_need (reads_u64 _)) ?_
  refine .field (reads_needFlag _) ?_
  refine .field (reads_needFlag _) ?_
  exact .of_reads (.last (reads_needFlag _) rfl) rfl

/-! ## Maps -/

section Entries

variable {κ ν : Type} [Ord κ] [Std.TransOrd κ] [Std.LawfulEqOrd κ] [DecidableEq κ]

/-- The map of some entries. -/
def mapOf (l : List (κ × ν)) : Map κ ν := l.foldl (fun m e => m.insert e.1 e.2) ∅

/-- A loop over entries that are read as others, when its body accepts an entry
only with a new key. -/
theorem yields_entries {body : Map κ ν → Decoder (Map κ ν)} {write : κ × ν → ByteString}
    {cut : κ × ν → κ × ν} {l : List (κ × ν)}
    (h : ∀ before e after, l = before ++ e :: after →
      Yields (body (mapOf (before.map cut))) (write e) fun m =>
        (mapOf (before.map cut))[(cut e).1]? = none ∧
          m = (mapOf (before.map cut)).insert (cut e).1 (cut e).2) :
    Yields (fold body l.length ∅) (l.flatMap write) fun m =>
      (l.map cut).Pairwise (fun a b => a.1 ≠ b.1) ∧ m = mapOf (l.map cut) := by
  apply Yields.fold (m := Except Error) (I := fun before m =>
    (before.map cut).Pairwise (fun a b => a.1 ≠ b.1) ∧ m = mapOf (before.map cut))
    ⟨List.Pairwise.nil, rfl⟩
  rintro before e after _ hl ⟨hdistinct, rfl⟩ rest m r' hrun
  obtain ⟨⟨hnew, rfl⟩, hr⟩ := h before e after hl rest m r' hrun
  refine ⟨⟨?_, ?_⟩, hr⟩
  · rw [List.map_append, List.pairwise_append]
    refine ⟨hdistinct, List.pairwise_singleton _ _, fun a ha b hb hkey => ?_⟩
    obtain rfl := List.mem_singleton.mp hb
    -- an entry with the same key would be in the map already
    have hfound := (OrderedMap.getElem?_foldl_insert_iff hdistinct).mpr ha
    rw [hkey] at hfound
    rw [mapOf, hfound] at hnew
    cases hnew
  · rw [List.map_append, mapOf, mapOf, List.foldl_append]
    rfl

/-- Entries in the order of their keys stay in that order when cutting does not
reverse two keys and leaves them distinct. -/
theorem toList_mapOf_cut {cut : κ × ν → κ × ν} {m : Map κ ν}
    (horder : ∀ a b, compare a.1 b.1 = .lt → compare (cut a).1 (cut b).1 ≠ .gt)
    (hdistinct : (m.toList.map cut).Pairwise fun a b => a.1 ≠ b.1) :
    (mapOf (m.toList.map cut)).toList = m.toList.map cut := by
  apply OrderedMap.toList_foldl_insert
  rw [List.pairwise_map] at hdistinct ⊢
  refine (Std.ExtTreeMap.ordered_keys_toList.and hdistinct).imp ?_
  rintro a b ⟨hlt, hne⟩
  cases hcmp : compare (cut a).1 (cut b).1 with
  | lt => rfl
  | eq => exact absurd (Std.LawfulEqOrd.compare_eq_iff_eq.mp hcmp) hne
  | gt => exact absurd hcmp (horder a b hlt)

theorem toList_mapOf_of_keys_kept {cut : κ × ν → κ × ν} {m : Map κ ν}
    (hkept : ∀ a, (cut a).1 = a.1)
    (hdistinct : (m.toList.map cut).Pairwise fun a b => a.1 ≠ b.1) :
    (mapOf (m.toList.map cut)).toList = m.toList.map cut := by
  refine toList_mapOf_cut (fun a b hlt => ?_) hdistinct
  rw [hkept, hkept, hlt]
  exact Ordering.noConfusion

end Entries

/-- The nodes are not checked for a second entry with the same key, and there
is none. -/
theorem yields_nodes (nodes : Map NodeId NodeRecord) :
    Yields (fold nodeEntryDecoder nodes.toList.length ∅) (nodes.toList.flatMap writeNodeEntry)
      fun m => m.toList = nodes.toList.map cutNodeEntry := by
  have hread : Yields (fold nodeEntryDecoder nodes.toList.length ∅)
      (nodes.toList.flatMap writeNodeEntry) fun m =>
        (nodes.toList.map cutNodeEntry).Pairwise (fun a b => a.1 ≠ b.1) ∧
          m = mapOf (nodes.toList.map cutNodeEntry) := by
    refine yields_entries fun before e after hl => ?_
    have hnew : (mapOf (before.map cutNodeEntry))[(cutNodeEntry e).1]? = none := by
      have hkeys : ∀ e' ∈ before.map cutNodeEntry, e'.1 ≠ (cutNodeEntry e).1 := by
        intro e' he'
        obtain ⟨e₀, he₀, rfl⟩ := List.mem_map.mp he'
        exact (OrderedMap.key_ne_of_toList hl).1 e₀ he₀
      rw [mapOf, OrderedMap.getElem?_foldl_insert hkeys]
      exact Std.ExtTreeMap.getElem?_empty
    have hentry : Reads (nodeEntryDecoder (mapOf (before.map cutNodeEntry))) (writeNodeEntry e)
        ((mapOf (before.map cutNodeEntry)).insertIfNew (cutNodeEntry e).1 (cutNodeEntry e).2) :=
      (reads_node_cut e).last rfl
    exact .of_reads hentry ⟨hnew, OrderedMap.insertIfNew_eq_insert hnew _⟩
  intro rest m r' hrun
  obtain ⟨⟨hdistinct, rfl⟩, hr⟩ := hread rest m r' hrun
  exact ⟨toList_mapOf_of_keys_kept (fun _ => rfl) hdistinct, hr⟩

theorem contains_eq_false_iff {κ ν : Type} [Ord κ] [Std.TransOrd κ] {m : Map κ ν} {k : κ} :
    m.contains k = false ↔ m[k]? = none := by
  rw [Std.ExtTreeMap.contains_eq_isSome_getElem?, Option.isSome_eq_false_iff,
    Option.isNone_iff_eq_none]

theorem yields_workers {workers : Map WorkerId WorkerRecord}
    (hcounts : ∀ e ∈ workers.toList, CountFits e.2.deviceIdentities.length ∧
      CountFits e.2.supportedCapabilities.length) :
    Yields (fold workerEntryDecoder workers.toList.length ∅)
      (workers.toList.flatMap writeWorkerEntry)
      fun m => m.toList = workers.toList.map cutWorkerEntry := by
  have hread : Yields (fold workerEntryDecoder workers.toList.length ∅)
      (workers.toList.flatMap writeWorkerEntry) fun m =>
        (workers.toList.map cutWorkerEntry).Pairwise (fun a b => a.1 ≠ b.1) ∧
          m = mapOf (workers.toList.map cutWorkerEntry) := by
    refine yields_entries fun before e after hl => ?_
    have hcount := hcounts e (by rw [hl]; simp)
    rw [← List.append_nil (writeWorkerEntry e)]
    refine .bind (yields_worker hcount.1 hcount.2) ?_
    rintro _ rfl
    refine .last yields_reject fun _ hnew => ?_
    exact ⟨contains_eq_false_iff.mp hnew, rfl⟩
  intro rest m r' hrun
  obtain ⟨⟨hdistinct, rfl⟩, hr⟩ := hread rest m r' hrun
  exact ⟨toList_mapOf_of_keys_kept (fun _ => rfl) hdistinct, hr⟩

/-- The keys of the devices are cut, and keys that become equal are
rejected. -/
theorem yields_devices {devices : Map ByteString DeviceState}
    (hcounts : ∀ e ∈ devices.toList, CountFits e.2.eligibilityReasons.length ∧
      CountFits e.2.capabilities.length) :
    Yields (fold deviceEntryDecoder devices.toList.length ∅)
      (devices.toList.flatMap writeDeviceEntry)
      fun m => m.toList = devices.toList.map cutDeviceEntry := by
  have hread : Yields (fold deviceEntryDecoder devices.toList.length ∅)
      (devices.toList.flatMap writeDeviceEntry) fun m =>
        (devices.toList.map cutDeviceEntry).Pairwise (fun a b => a.1 ≠ b.1) ∧
          m = mapOf (devices.toList.map cutDeviceEntry) := by
    refine yields_entries fun before e after hl => ?_
    have hcount := hcounts e (by rw [hl]; simp)
    unfold writeDeviceEntry
    refine .field (reads_needString_cut _ _) ?_
    rw [← List.append_nil (writeDeviceState e.2)]
    refine .bind (yields_need (yields_deviceState hcount.1 hcount.2)) ?_
    rintro _ rfl
    refine .last yields_reject fun _ hnew => ?_
    exact ⟨contains_eq_false_iff.mp hnew, rfl⟩
  intro rest m r' hrun
  obtain ⟨⟨hdistinct, rfl⟩, hr⟩ := hread rest m r' hrun
  exact ⟨toList_mapOf_cut (fun a b hlt => compare_take 256 hlt) hdistinct, hr⟩

/-! ## The snapshot -/

/-- Fewer than `2 ^ 32` elements in every collection. -/
structure StateSnapshot.Counted (s : StateSnapshot) : Prop where
  nodes : s.nodes.size < 2 ^ 32
  workers : s.workers.size < 2 ^ 32
  devices : s.devices.size < 2 ^ 32
  changeLog : s.changeLog.length < 2 ^ 32
  identities : ∀ e ∈ s.workers.toList, e.2.deviceIdentities.length < 2 ^ 32
  supported : ∀ e ∈ s.workers.toList, e.2.supportedCapabilities.length < 2 ^ 32
  reasons : ∀ e ∈ s.devices.toList, e.2.eligibilityReasons.length < 2 ^ 32
  capabilities : ∀ e ∈ s.devices.toList, e.2.capabilities.length < 2 ^ 32

/-- Two snapshots with the same encoding, part by part. -/
structure StateSnapshot.SameBytes (s s' : StateSnapshot) : Prop where
  coordinator : s'.coordinator = s.coordinator
  epoch : s'.epoch = s.epoch
  fleetGeneration : s'.fleetGeneration = s.fleetGeneration
  nodeGeneration : s'.nodeGeneration = s.nodeGeneration
  nodes : s'.nodes.toList = s.nodes.toList.map cutNodeEntry
  workers : s'.workers.toList = s.workers.toList.map cutWorkerEntry
  devices : s'.devices.toList = s.devices.toList.map cutDeviceEntry
  changeLog : s'.changeLog = s.changeLog.map ChangeRecord.cut

theorem StateSnapshot.SameBytes.encode_eq {s s' : StateSnapshot} (h : s.SameBytes s') :
    encodeSnapshot s' = encodeSnapshot s := by
  unfold encodeSnapshot
  rw [h.coordinator, h.epoch, h.fleetGeneration, h.nodeGeneration, h.nodes, h.workers, h.devices,
    h.changeLog, counted_cut writeNodeEntry_cut, counted_cut writeWorkerEntry_cut,
    counted_cut writeDeviceEntry_cut, counted_cut writeChange_cut]

theorem yields_done {code : Status} {msg : String} :
    Yields (Decoder.done code msg) [] fun _ => True := by
  intro rest v r' hrun
  have hdone : Decoder.done code msg rest = .ok (v, r') := hrun
  rw [Decoder.done] at hdone
  split at hdone
  · obtain ⟨-, rfl⟩ := Prod.mk.inj (Except.ok.inj hdone)
    exact ⟨trivial, rfl⟩
  · cases hdone

theorem yields_encodeSnapshot {s : StateSnapshot} (h : s.Counted) :
    Yields snapshotDecoder (encodeSnapshot s) s.SameBytes := by
  have hnodes : CountFits s.nodes.toList.length := by
    rw [Std.ExtTreeMap.length_toList]
    exact h.nodes
  have hworkers : CountFits s.workers.toList.length := by
    rw [Std.ExtTreeMap.length_toList]
    exact h.workers
  have hdevices : CountFits s.devices.toList.length := by
    rw [Std.ExtTreeMap.length_toList]
    exact h.devices
  have hchanges : CountFits s.changeLog.length := h.changeLog
  unfold snapshotDecoder encodeSnapshot ByteWriter.counted
  simp only [List.append_assoc, times_eq]
  refine .field (reads_need (reads_u64 _)) ?_
  refine .field (reads_need (reads_u64 _)) ?_
  refine .field (reads_need (reads_u64 _)) ?_
  refine .field (reads_need (reads_u64 _)) ?_
  refine .field (reads_need (reads_u32 _)) ?_
  refine .check yields_reject fun _ _ => ?_
  rw [hnodes.toNat_ofNat]
  refine .bind (yields_nodes s.nodes) fun nodes hnodes => ?_
  refine .field (reads_need (reads_u32 _)) ?_
  refine .check yields_reject fun _ _ => ?_
  rw [hworkers.toNat_ofNat]
  refine .bind (yields_workers fun e he => ⟨h.identities e he, h.supported e he⟩)
    fun workers hworkers => ?_
  refine .field (reads_need (reads_u32 _)) ?_
  refine .check yields_reject fun _ _ => ?_
  rw [hdevices.toNat_ofNat]
  refine .bind (yields_devices fun e he => ⟨h.reasons e he, h.capabilities e he⟩)
    fun devices hdevices => ?_
  refine .field (reads_need (reads_u32 _)) ?_
  refine .check yields_reject fun _ _ => ?_
  rw [hchanges.toNat_ofNat, ← List.append_nil (s.changeLog.flatMap writeChange)]
  refine .field (.timesMap fun c _ => reads_change_cut c) ?_
  exact .last yields_done fun _ _ => ⟨rfl, rfl, rfl, rfl, hnodes, hworkers, hdevices, rfl⟩

/-- Whatever is read back is written as the same bytes, so the digest of a
snapshot that was saved and loaded is the digest of the snapshot that was
saved. -/
theorem encodeSnapshot_decode (s s' : StateSnapshot) (hcounted : s.Counted)
    (h : decodeSnapshot (encodeSnapshot s) = .ok s') :
    encodeSnapshot s' = encodeSnapshot s ∧ snapshotDigest s' = snapshotDigest s := by
  have hbytes : encodeSnapshot s' = encodeSnapshot s := by
    obtain ⟨rest, hrun⟩ := decode_eq_ok.mp h
    rw [← List.append_nil (encodeSnapshot s)] at hrun
    exact (yields_encodeSnapshot hcounted [] s' rest hrun).1.encode_eq
  refine ⟨hbytes, ?_⟩
  rw [snapshotDigest, snapshotDigest, hbytes]

/-- A snapshot with a text of 130 bytes where the format has room for 128. -/
def longTextSnapshot : StateSnapshot :=
  { epoch := ⟨2⟩, changeLog := [{ fromValue := List.replicate 130 65 }] }

/-- What is read back of it. -/
def cutTextSnapshot : StateSnapshot :=
  { epoch := ⟨2⟩, changeLog := [{ fromValue := List.replicate 128 65 }] }

set_option maxRecDepth 8000 in
/-- It is read back with another text and written as before. -/
theorem encodeSnapshot_decode_longText :
    decodeSnapshot (encodeSnapshot longTextSnapshot) = .ok cutTextSnapshot ∧
      snapshotDigest cutTextSnapshot = snapshotDigest longTextSnapshot := by
  have hsame : longTextSnapshot.SameBytes cutTextSnapshot := by
    refine ⟨rfl, rfl, rfl, rfl, rfl, rfl, rfl, ?_⟩
    decide
  have hdecode : decodeSnapshot (encodeSnapshot longTextSnapshot) = .ok cutTextSnapshot := by
    rw [← hsame.encode_eq]
    exact decode_readsAll (readsAll_encodeSnapshot (by decide))
  have hcounted : longTextSnapshot.Counted := by
    refine ⟨by decide, by decide, by decide, by decide, ?_, ?_, ?_, ?_⟩ <;> decide
  exact ⟨hdecode, (encodeSnapshot_decode _ _ hcounted hdecode).2⟩

end GpuFleet
