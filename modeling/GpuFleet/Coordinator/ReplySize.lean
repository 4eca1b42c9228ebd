import GpuFleet.Coordinator.Dispatch
import GpuFleet.Fleet.SnapshotSize
import GpuFleet.Fleet.Effects
import GpuFleet.Protocol.Codec
import GpuFleet.Protocol.FrameStream
import GpuFleet.Protocol.PayloadRoundTrips

/-!
# Replies that are too long

`send_message` encodes a message and frames it, and neither step looks at the
length.  The decoder on the other side takes no payload over 16 MiB.  So a
snapshot is received exactly when it is not longer than that, and the rest of
the message with it.  Sixteen registrations make one that is too long.
-/

namespace GpuFleet

/-- `send_message`. -/
def sendMessage (m : Message) : ByteString := encodeFrame m.type (encodeMessage m)

/-- The bytes are received as this very message.  However they are cut, a
fresh decoder takes one frame from them and waits for the next one, and the
payload of the frame decodes to the message. -/
def Received (bytes : ByteString) (m : Message) : Prop :=
  ∀ chunks : List ByteString, chunks.flatten = bytes →
    ∃ frame, (drain chunks).emitted = [frame] ∧ (drain chunks).last = .needMore ∧
      decodeMessage frame.payload = .ok m

/-! ## Messages -/

theorem length_encodeMessage {m : Message} (h : m.reason.length ≤ 4096) :
    (encodeMessage m).length = 106 + m.reason.length + m.payload.length := by
  have hreason : min m.reason.length kMaxStringLen = m.reason.length :=
    Nat.min_eq_left (h.trans (by decide))
  rw [encodeMessage_eq]
  simp only [List.length_append, messageHead_length, length_flag, length_string, textSize,
    ByteWriter.bytes, length_u32, hreason]
  omega

/-- What `decode_message` reads is as long as what `encode_message` writes. -/
theorem length_of_decodeMessage {b : ByteString} {m : Message} (h : decodeMessage b = .ok m) :
    b.length = 106 + m.reason.length + m.payload.length := by
  obtain ⟨-, k, -, hbytes⟩ := decodeMessage_spells h
  rw [hbytes]
  simp only [List.length_append, messageHead_length, length_u8, ByteWriter.bytes, length_u32]
  omega

/-- The bound of the frame decides. -/
theorem received_sendMessage_iff {m : Message} (hreason : m.reason.length ≤ 4096) :
    Received (sendMessage m) m ↔
      106 + m.reason.length + m.payload.length ≤ kMaxPayloadLength := by
  constructor
  · intro hreceived
    obtain ⟨frame, hemitted, -, hdecode⟩ := hreceived [sendMessage m] (List.flatten_singleton ..)
    rw [← length_of_decodeMessage hdecode]
    apply payload_le_of_scans (scans_drain [sendMessage m])
    rw [hemitted]
    exact List.mem_singleton_self frame
  · intro hsize chunks hchunks
    have hframe : (encodeMessage m).length ≤ kMaxPayloadLength := by
      rw [length_encodeMessage hreason]
      exact hsize
    have hmax : ∀ f ∈ [(⟨m.type, encodeMessage m⟩ : Frame)],
        f.payload.length ≤ kMaxPayloadLength := by
      intro f hf
      rw [List.mem_singleton.mp hf]
      exact hframe
    have hstream : chunks.flatten = encodeFrames [⟨m.type, encodeMessage m⟩] := by
      rw [hchunks, encodeFrames, List.flatMap_singleton]
      rfl
    have hpayload : m.payload.length ≤ kMaxBytesLen := by
      have hbound : kMaxPayloadLength ≤ kMaxBytesLen := by decide
      omega
    have hscans := scans_encodeFrames hmax
    rw [← hstream] at hscans
    obtain ⟨hemitted, hlast⟩ := (scans_drain chunks).unique hscans
    exact ⟨_, hemitted, hlast, decode_readsAll (readsAll_encodeMessage hreason hpayload)⟩

/-! ## The snapshot -/

open FleetStateStore in
/-- In every reachable state, the answer to a snapshot request carries the
snapshot, and it is received exactly when the snapshot and the 106 bytes of
the message around it fit into a frame. -/
theorem snapshotReply_received_iff (coord : CoordinatorId) (epoch : CoordinatorEpoch)
    (ops : List Op) (opts : Options) (disk : Disk) (now : Timestamp) (io : FileOutcomes)
    {msg : Message} (hmsg : msg.type = .snapshotRequest) :
    let s := (empty coord epoch).run ops
    let reply := (Coordinator.dispatch ⟨opts, s, disk⟩ now io msg).reply
    reply.type = .snapshotResponse ∧ reply.payload = encodeSnapshot s.snapshot ∧
      (Received (sendMessage reply) reply ↔
        106 + s.snapshot.wireSize ≤ kMaxPayloadLength) := by
  intro s reply
  have hreply : reply = {
      type := .snapshotResponse
      requestId := msg.requestId
      epoch := s.epoch
      payload := encodeSnapshot s.snapshot
      ok := true } := by
    simp only [reply, Coordinator.dispatch, hmsg]
  rw [hreply]
  refine ⟨rfl, rfl, ?_⟩
  rw [received_sendMessage_iff (Nat.zero_le _), length_encodeSnapshot]
  rfl

/-- A coordinator with two workers and three devices answers with a snapshot
that is received. -/
theorem snapshotReply_received_fleet :
    let reply := (Coordinator.dispatch ⟨{}, sampleStore.run sampleFleet, fun _ => none⟩ 7000 {}
      { type := .snapshotRequest }).reply
    Received (sendMessage reply) reply := by
  have hreply := snapshotReply_received_iff ⟨1⟩ ⟨1⟩ sampleFleet {} (fun _ => none) 7000 {}
    (show ({ type := .snapshotRequest } : Message).type = .snapshotRequest from rfl)
  exact hreply.2.2.mpr (by decide +kernel)

/-! ## A fleet that is too large -/

/-- A worker with as many devices as a registration may have, under keys as
long as they may be. -/
def largeRegistration (worker : Nat) : Registration :=
  sampleRegistration (UInt64.ofNat worker) 10 1 (List.replicate 4096 (List.replicate 256 0))

/-- A number of such workers register. -/
def largeFleet (workers : Nat) : List Op :=
  (List.range workers).map fun w => .registerWorker (largeRegistration w) 1000

theorem largeRegistration_fits (worker : Nat) : (largeRegistration worker).Fits where
  osPlatform := Nat.zero_le 128
  driverVersion := Nat.zero_le 128
  deviceCount := by
    show (List.replicate 4096 (List.replicate 256 (0 : UInt8))).length ≤ 4096
    rw [List.length_replicate]
  devices := by
    intro x hx
    rw [List.eq_of_mem_replicate hx, List.length_replicate]
  capabilityCount := Nat.zero_le 4096
  capabilities := List.forall_mem_nil _

/-- The keys of the devices alone are more than a sixteenth of the bound. -/
theorem largeRegistration_keys (worker : Nat) :
    ((largeRegistration worker).enumeratedDevices.map fun d => textSize 256 d).sum = 1064960 := by
  show ((List.replicate 4096 (List.replicate 256 (0 : UInt8))).map fun d => textSize 256 d).sum
    = 1064960
  rw [List.map_replicate, List.sum_replicate_nat, textSize, List.length_replicate]
  rfl

theorem wireSize_largeRegistration (worker : Nat) :
    (FleetStateStore.newWorkerRecord (largeRegistration worker) 1000).wireSize = 1065059 := by
  show 91 + textSize 128 [] + textSize 128 []
    + ((largeRegistration worker).enumeratedDevices.map fun d => textSize 256 d).sum + 0 = 1065059
  rw [largeRegistration_keys]
  rfl

/-- A store in which so many of the large workers are registered. -/
structure HoldsLarge (s : FleetStateStore) (workers : Nat) : Prop where
  epoch : s.epoch = ⟨1⟩
  next : ∀ w, workers ≤ w → w < 2 ^ 64 → s.workers[(⟨UInt64.ofNat w⟩ : WorkerId)]? = none
  size : workersSize s.workers = 1065059 * workers
  nodes : s.nodes.size ≤ workers
  devices : s.devices = ∅
  changeLog : s.changeLog = []

theorem HoldsLarge.register {s : FleetStateStore} {n : Nat} (h : HoldsLarge s n)
    (hn : n < 2 ^ 64) : HoldsLarge (s.registerWorker (largeRegistration n) 1000).store (n + 1) := by
  have hnew : s.workers[(⟨UInt64.ofNat n⟩ : WorkerId)]? = none := h.next n (Nat.le_refl n) hn
  have hinstall : s.registerWorker (largeRegistration n) 1000
      = s.installWorker (largeRegistration n) 1000 := by
    have hepoch : ¬(largeRegistration n).epoch ≠ s.epoch := by
      rw [h.epoch]
      exact not_not.mpr rfl
    have hprotocol : ¬(largeRegistration n).protocolVersion.value = 0 := by
      show ¬(1 : UInt32) = 0
      decide
    have hvacant : s.workers[(largeRegistration n).worker]? = none := hnew
    rw [FleetStateStore.registerWorker, if_neg hepoch, if_neg hprotocol, hvacant]
  rw [hinstall]
  refine ⟨h.epoch, ?_, ?_, ?_, h.devices, h.changeLog⟩
  · intro w hw hmax
    have hne : (⟨UInt64.ofNat n⟩ : WorkerId) ≠ ⟨UInt64.ofNat w⟩ := by
      intro he
      have hvalue := congrArg (fun w : WorkerId => w.value.toNat) he
      dsimp only at hvalue
      rw [UInt64.toNat_ofNat_of_lt' hn, UInt64.toNat_ofNat_of_lt' hmax] at hvalue
      omega
    show (s.workers.insert (⟨UInt64.ofNat n⟩ : WorkerId) _)[_]? = none
    rw [OrderedMap.getElem?_insert_of_ne hne]
    exact h.next w (by omega) hmax
  · show workersSize (s.workers.insert (⟨UInt64.ofNat n⟩ : WorkerId) _) = _
    rw [workersSize_insert hnew, wireSize_largeRegistration, h.size]
    omega
  · exact Nat.le_trans Std.ExtTreeMap.size_insertIfNew_le (Nat.succ_le_succ h.nodes)

theorem holdsLarge_largeFleet {n : Nat} (hn : n ≤ 2 ^ 64) :
    HoldsLarge (sampleStore.run (largeFleet n)) n := by
  induction n with
  | zero => exact ⟨rfl, fun _ _ _ => rfl, rfl, Nat.le_refl 0, rfl, rfl⟩
  | succ n ih =>
    have hrun : sampleStore.run (largeFleet (n + 1))
        = ((sampleStore.run (largeFleet n)).registerWorker (largeRegistration n) 1000).store := by
      rw [largeFleet, List.range_succ, List.map_append, FleetStateStore.run]
      exact Run.run_concat _ _ _
    rw [hrun]
    exact (ih (by omega)).register (by omega)

theorem HoldsLarge.wireSize {s : FleetStateStore} {n : Nat} (h : HoldsLarge s n) :
    1065059 * n ≤ s.snapshot.wireSize ∧ s.snapshot.wireSize ≤ 48 + 1065083 * n := by
  have hdevices : devicesSize s.snapshot.devices = 0 := by
    show devicesSize s.devices = 0
    rw [h.devices]
    rfl
  have hlog : (s.snapshot.changeLog.map fun c => c.wireSize).sum = 0 := by
    show (s.changeLog.map fun c => c.wireSize).sum = 0
    rw [h.changeLog]
    rfl
  have hsize : workersSize s.snapshot.workers = 1065059 * n := h.size
  have hnodes : s.snapshot.nodes.size ≤ n := h.nodes
  rw [StateSnapshot.wireSize, hdevices, hlog, hsize]
  omega

theorem length_encodeRegistration (r : Registration) :
    (encodeRegistration r).length = 72 + textSize 128 r.osPlatform
      + textSize 128 r.driverVersion.text + (r.enumeratedDevices.map fun d => textSize 256 d).sum
      + (r.supportedCapabilities.map fun c => textSize 128 c).sum := by
  unfold encodeRegistration
  simp only [List.length_append, length_string, length_counted]
  simp only [length_u32, length_u64]
  omega

/-- The REGISTER of a large worker. -/
def largeMessage (worker : Nat) : Message where
  type := .register
  payload := encodeRegistration (largeRegistration worker)

theorem received_largeMessage (worker : Nat) :
    Received (sendMessage (largeMessage worker)) (largeMessage worker) := by
  have hsize : (largeMessage worker).payload.length = 1065040 := by
    have hempty : textSize 128 [] = 4 := rfl
    show (encodeRegistration (largeRegistration worker)).length = 1065040
    rw [length_encodeRegistration, largeRegistration_keys]
    show 72 + textSize 128 [] + textSize 128 [] + 1064960 + 0 = 1065040
    rw [hempty]
  have hreason : (largeMessage worker).reason.length = 0 := rfl
  refine (received_sendMessage_iff (Nat.zero_le _)).mpr ?_
  rw [hsize, hreason, kMaxPayloadLength]
  omega

/-- Sixteen workers register, each with a message that is received, and the
store is in a state whose snapshot is refused as oversized. -/
theorem largeFleet_refused :
    (∀ w < 16, Received (sendMessage (largeMessage w)) (largeMessage w) ∧
      decodeRegistration (largeMessage w).payload = .ok (largeRegistration w)) ∧
    let reply := (Coordinator.dispatch ⟨{}, sampleStore.run (largeFleet 16), fun _ => none⟩ 2000 {}
      { type := .snapshotRequest }).reply
    ¬Received (sendMessage reply) reply ∧
      ∀ chunks : List ByteString, chunks.flatten = sendMessage reply →
        (drain chunks).last = .error (text "oversized payload") := by
  have hlarge := (holdsLarge_largeFleet (show 16 ≤ 2 ^ 64 by decide)).wireSize
  refine ⟨?_, ?_⟩
  · intro w _
    have hfits := largeRegistration_fits w
    refine ⟨received_largeMessage w, ?_⟩
    rw [largeMessage, hfits.decode_encode]
  · intro reply
    have hsize : reply.payload.length = (sampleStore.run (largeFleet 16)).snapshot.wireSize :=
      length_encodeSnapshot _
    have hreason : reply.reason.length = 0 := rfl
    have hshort : reply.reason.length ≤ 4096 := Nat.zero_le 4096
    rw [← hsize] at hlarge
    refine ⟨?_, ?_⟩
    · rw [received_sendMessage_iff hshort, hreason,
        kMaxPayloadLength]
      omega
    · intro chunks hchunks
      have hlength : (encodeMessage reply).length = 106 + reply.reason.length
        + reply.payload.length := length_encodeMessage hshort
      refine (drain_oversized ?_ ?_ hchunks).2
      · rw [hlength, kMaxPayloadLength]
        omega
      · rw [hlength, hreason]
        omega

end GpuFleet
