import GpuFleet.Fleet.WireBounds
import GpuFleet.Persistence.Digest

/-!
# Registrations and administrative payloads read back

A registration that does not have too many items is read back with its texts
cut (`decode_encodeRegistration`), and so it is read back as it was when they
are within their bounds.  An administrative payload is read back when its
texts are within their bounds and its drain level is a declared one.
-/

namespace GpuFleet

open Reading

/-! ## Registrations -/

/-- What is read back. -/
def Registration.cut (r : Registration) : Registration :=
  { r with
    osPlatform := r.osPlatform.take 128
    driverVersion := ⟨r.driverVersion.text.take 128⟩
    enumeratedDevices := r.enumeratedDevices.map fun d => d.take 256
    supportedCapabilities := r.supportedCapabilities.map fun c => c.take 128 }

theorem map_take_of_le {items : List ByteString} {n : Nat} (h : ∀ x ∈ items, x.length ≤ n) :
    (items.map fun x => x.take n) = items := by
  rw [List.map_congr_left fun x hx => List.take_of_length_le (h x hx), List.map_id']

theorem Registration.Fits.cut_eq {r : Registration} (h : r.Fits) : r.cut = r := by
  have hplatform := List.take_of_length_le h.osPlatform
  have hdriver := List.take_of_length_le h.driverVersion
  unfold Registration.cut
  rw [hplatform, hdriver, map_take_of_le h.devices, map_take_of_le h.capabilities]

theorem readsAll_registration {r : Registration} (hdevices : r.enumeratedDevices.length ≤ 4096)
    (hcapabilities : r.supportedCapabilities.length ≤ 4096) :
    ReadsAll registrationDecoder (encodeRegistration r) r.cut := by
  unfold registrationDecoder encodeRegistration ByteWriter.counted
  simp only [List.append_assoc, times_eq]
  refine .bind (reads_need (reads_u64 _)) ?_
  refine .bind (reads_need (reads_u64 _)) ?_
  refine .bind (reads_need (reads_u64 _)) ?_
  refine .bind (reads_need (reads_u32 _)) ?_
  refine .bind (reads_need (reads_u32 _)) ?_
  refine .bind (reads_need (reads_u32 _)) ?_
  refine .bind (reads_need (reads_u32 _)) ?_
  refine .bind (reads_needString_cut _ _) ?_
  refine .bind (reads_needString_cut _ _) ?_
  refine .bind (reads_need (reads_u32 _)) ?_
  refine .bind (reads_need (reads_u32 _)) ?_
  refine .bind (reads_need (reads_u32 _)) ?_
  refine .skip (reads_reject (count_accepted hdevices)) ?_
  rw [toNat_count hdevices]
  refine .bind (.timesMap fun x _ => reads_needString_cut x _) ?_
  refine .bind (reads_need (reads_u32 _)) ?_
  refine .skip (reads_reject (count_accepted hcapabilities)) ?_
  rw [toNat_count hcapabilities]
  refine .bind (.timesMap fun x _ => reads_needString_cut x _) ?_
  refine .bind (reads_need (reads_u64 _)) ?_
  rw [← List.append_nil (ByteWriter.u64 r.epoch.value)]
  refine .bind (reads_need (reads_u64 _)) ?_
  exact .last readsAll_done rfl

/-- A registration with few enough items is read, with its texts cut. -/
theorem decode_encodeRegistration {r : Registration} (hdevices : r.enumeratedDevices.length ≤ 4096)
    (hcapabilities : r.supportedCapabilities.length ≤ 4096) :
    decodeRegistration (encodeRegistration r) = .ok r.cut :=
  decode_readsAll (readsAll_registration hdevices hcapabilities)

theorem Registration.Fits.decode_encode {r : Registration} (h : r.Fits) :
    decodeRegistration (encodeRegistration r) = .ok r := by
  rw [decode_encodeRegistration h.deviceCount h.capabilityCount, h.cut_eq]

/-- Texts are cut on the way and too many items are refused. -/
theorem yields_registration {r : Registration} (hdevices : CountFits r.enumeratedDevices.length)
    (hcapabilities : CountFits r.supportedCapabilities.length) :
    Yields registrationDecoder (encodeRegistration r) fun reg => reg = r.cut := by
  unfold registrationDecoder encodeRegistration ByteWriter.counted
  simp only [List.append_assoc, times_eq]
  refine .field (reads_need (reads_u64 _)) ?_
  refine .field (reads_need (reads_u64 _)) ?_
  refine .field (reads_need (reads_u64 _)) ?_
  refine .field (reads_need (reads_u32 _)) ?_
  refine .field (reads_need (reads_u32 _)) ?_
  refine .field (reads_need (reads_u32 _)) ?_
  refine .field (reads_need (reads_u32 _)) ?_
  refine .field (reads_needString_cut _ _) ?_
  refine .field (reads_needString_cut _ _) ?_
  refine .field (reads_need (reads_u32 _)) ?_
  refine .field (reads_need (reads_u32 _)) ?_
  refine .field (reads_need (reads_u32 _)) ?_
  refine .check yields_reject fun _ _ => ?_
  rw [hdevices.toNat_ofNat]
  refine .field (.timesMap fun x _ => reads_needString_cut x _) ?_
  refine .field (reads_need (reads_u32 _)) ?_
  refine .check yields_reject fun _ _ => ?_
  rw [hcapabilities.toNat_ofNat]
  refine .field (.timesMap fun x _ => reads_needString_cut x _) ?_
  refine .field (reads_need (reads_u64 _)) ?_
  rw [← List.append_nil (ByteWriter.u64 r.epoch.value)]
  refine .field (reads_need (reads_u64 _)) ?_
  exact .check yields_done fun _ _ => .pure rfl

/-- What is read from a registration, if anything is. -/
theorem decode_encodeRegistration_eq {r reg : Registration}
    (hdevices : CountFits r.enumeratedDevices.length)
    (hcapabilities : CountFits r.supportedCapabilities.length)
    (h : decodeRegistration (encodeRegistration r) = .ok reg) : reg = r.cut := by
  obtain ⟨left, hrun⟩ := decode_eq_ok.mp h
  rw [← List.append_nil (encodeRegistration r)] at hrun
  exact (yields_registration hdevices hcapabilities [] reg left hrun).1

/-! ## Administrative payloads -/

theorem decode_encodeIdentityTarget {identity : ByteString} (h : identity.length ≤ 1024) :
    decodeIdentityTarget (encodeIdentityTarget identity) = .ok identity := by
  apply decode_readsAll
  unfold identityTargetDecoder encodeIdentityTarget
  rw [← List.append_nil (ByteWriter.string identity 1024)]
  refine .bind (reads_needString h) ?_
  exact .last readsAll_done rfl

theorem decode_encodeDrainTarget {identity : ByteString} {level : DrainState}
    (h : identity.length ≤ 1024) (hlevel : level ∈ [DrainState.active, .draining, .drained]) :
    decodeDrainTarget (encodeDrainTarget identity level) = .ok ⟨identity, level⟩ := by
  have hdeclared : decide (level.toByte > DrainState.drained.toByte) = false := by
    simp only [List.mem_cons, List.not_mem_nil, or_false] at hlevel
    rcases hlevel with rfl | rfl | rfl <;> rfl
  apply decode_readsAll
  unfold drainTargetDecoder encodeDrainTarget
  rw [← List.append_nil (ByteWriter.u8 level.toByte)]
  refine .bind (reads_needString h) ?_
  refine .bind (reads_need (reads_u8 _)) ?_
  refine .skip (reads_reject hdeclared) ?_
  refine .last readsAll_done ?_
  rw [DrainState.ofByte_toByte]

theorem decode_encodeQuarantine {identity reason source : ByteString} {gen : DeviceGeneration}
    (hidentity : identity.length ≤ 1024) (hreason : reason.length ≤ 512)
    (hsource : source.length ≤ 128) :
    decodeQuarantine (encodeQuarantine identity reason source gen)
      = .ok ⟨identity, reason, source, gen⟩ := by
  apply decode_readsAll
  unfold quarantineDecoder encodeQuarantine
  simp only [List.append_assoc]
  refine .bind (reads_needString hidentity) ?_
  refine .bind (reads_needString hreason) ?_
  refine .bind (reads_needString hsource) ?_
  rw [← List.append_nil (ByteWriter.u64 gen.value)]
  refine .bind (reads_need (reads_u64 _)) ?_
  exact .last readsAll_done rfl

/-- Within the bounds of the texts and of the counts, what the four encoders
write is read back. -/
theorem payloads_roundTrip :
    (∀ r : Registration, r.Fits → decodeRegistration (encodeRegistration r) = .ok r) ∧
    ∀ identity : ByteString, identity.length ≤ 1024 →
      decodeIdentityTarget (encodeIdentityTarget identity) = .ok identity ∧
      (∀ level ∈ [DrainState.active, .draining, .drained],
        decodeDrainTarget (encodeDrainTarget identity level) = .ok ⟨identity, level⟩) ∧
      ∀ reason source : ByteString, reason.length ≤ 512 → source.length ≤ 128 →
        ∀ gen : DeviceGeneration, decodeQuarantine (encodeQuarantine identity reason source gen)
          = .ok ⟨identity, reason, source, gen⟩ := by
  refine ⟨fun r hfits => ?_, fun identity hidentity => ⟨?_, ?_, ?_⟩⟩
  · exact hfits.decode_encode
  · exact decode_encodeIdentityTarget hidentity
  · intro level hlevel
    exact decode_encodeDrainTarget hidentity hlevel
  · intro reason source hreason hsource gen
    exact decode_encodeQuarantine hidentity hreason hsource

/-- A registration of two devices, and the payloads about one of them. -/
theorem payloads_roundTrip_sample :
    decodeRegistration (encodeRegistration
        { worker := ⟨1⟩, enumeratedDevices := [text "gpu-0", text "gpu-1"] })
      = .ok { worker := ⟨1⟩, enumeratedDevices := [text "gpu-0", text "gpu-1"] } ∧
    decodeDrainTarget (encodeDrainTarget (text "gpu-0") .draining)
      = .ok ⟨text "gpu-0", .draining⟩ ∧
    decodeQuarantine (encodeQuarantine (text "gpu-0") (text "ecc") (text "admin") ⟨3⟩)
      = .ok ⟨text "gpu-0", text "ecc", text "admin", ⟨3⟩⟩ := by
  have hfits : Registration.Fits
      { worker := ⟨1⟩, enumeratedDevices := [text "gpu-0", text "gpu-1"] } :=
    ⟨by decide, by decide, by decide, by decide, by decide, by decide⟩
  obtain ⟨-, hdrain, hquarantine⟩ := payloads_roundTrip.2 (text "gpu-0") (by decide)
  exact ⟨payloads_roundTrip.1 _ hfits, hdrain _ (by decide),
    hquarantine _ _ (by decide) (by decide) ⟨3⟩⟩

end GpuFleet
