import GpuFleet.Tools.Request

/-!
# Administrative commands

`cmd_admin` of `tools/gpufleet.cpp`.  The command prints what the reply says,
and the reply says that all is well whenever the payload could be read: the
handlers test a `Result<void>`.  So the exit code tells whether a reply has
arrived, and nothing else.

`admin_applied` says what has happened then: one call of the store, on the key
that the command names.  A quarantine is sent in device generation 1.  An agent
goes to the next generation with each batch, so the store refuses the
quarantine of a device after its second report, and the command still ends
with 0 (`quarantine_effective_iff`).
-/

namespace GpuFleet

open Reading FleetStateStore

namespace Cli

/-- The `which` of `cmd_admin`. -/
inductive AdminCommand
  | save | drain | undrain | quarantine | clearQuarantine
  deriving DecidableEq

/-- The message of `cmd_admin`. -/
def adminMessage (p : Params) : AdminCommand → Message
  | .save => { type := .save }
  | .drain => { type := .drain, payload := encodeDrainTarget p.device .draining }
  | .undrain => { type := .undrain, payload := encodeDrainTarget p.device .active }
  | .quarantine =>
    { type := .quarantine, payload := encodeQuarantine p.device p.reason p.source ⟨1⟩ }
  | .clearQuarantine => { type := .clearQuarantine, payload := encodeIdentityTarget p.device }

/-- `cmd_admin`, on what `request` returns. -/
def cmdAdmin (r : Result Message) : Exit :=
  match r with
  | .error err => { code := 2, err := text "error: " ++ err.message }
  | .ok m =>
    { code := if m.ok then 0 else 1
      out := if m.ok then text "ok" else text "rejected: " ++ m.reason }

/-- The key that a command names, as it arrives. -/
def Params.target (p : Params) : ByteString := p.device.take 1024

/-- The record that a QUARANTINE of the command line leads to. -/
def Params.quarantineRecord (p : Params) (epoch : CoordinatorEpoch) (now : Timestamp) :
    QuarantineRecord where
  reason := p.reason.take 512
  source := p.source.take 128
  generation := ⟨1⟩
  atTime := now
  authority := epoch

/-- The call of the store that a command comes down to, with the owner and the epoch
that the handler has read before. -/
def adminOp (p : Params) (owner : WorkerId) (epoch : CoordinatorEpoch) (now : Timestamp) :
    AdminCommand → Option Op
  | .save => none
  | .drain => some (.setDrain owner p.target .draining now)
  | .undrain => some (.setDrain owner p.target .active now)
  | .quarantine => some (.setQuarantine owner p.target (p.quarantineRecord epoch now) now)
  | .clearQuarantine => some (.clearQuarantine {} p.target epoch now)

/-! ## Payloads -/

/-- The texts of a command are cut on the way. -/
theorem decode_drainTarget_cut (identity : ByteString) {level : DrainState}
    (hlevel : level ∈ [DrainState.active, .draining, .drained]) :
    decodeDrainTarget (encodeDrainTarget identity level) = .ok ⟨identity.take 1024, level⟩ := by
  have hcut := decode_encodeDrainTarget (List.length_take_le 1024 identity) hlevel
  rwa [encodeDrainTarget, string_take] at hcut

theorem decode_identityTarget_cut (identity : ByteString) :
    decodeIdentityTarget (encodeIdentityTarget identity) = .ok (identity.take 1024) := by
  have hcut := decode_encodeIdentityTarget (List.length_take_le 1024 identity)
  rwa [encodeIdentityTarget, string_take] at hcut

theorem decode_quarantine_cut (identity reason source : ByteString) (gen : DeviceGeneration) :
    decodeQuarantine (encodeQuarantine identity reason source gen)
      = .ok ⟨identity.take 1024, reason.take 512, source.take 128, gen⟩ := by
  have hcut : decodeQuarantine
      (encodeQuarantine (identity.take 1024) (reason.take 512) (source.take 128) gen) = .ok _ :=
    decode_encodeQuarantine (List.length_take_le 1024 identity) (List.length_take_le 512 reason)
      (List.length_take_le 128 source)
  rwa [encodeQuarantine, string_take, string_take, string_take] at hcut

/-- A command fits into a frame. -/
theorem carried_adminMessage (p : Params) (which : AdminCommand) :
    (adminMessage p which).Carried := by
  have hmax : kMaxPayloadLength = 16777216 := rfl
  have hdevice : textSize 1024 p.device ≤ 1028 := by
    unfold textSize
    omega
  have hreason : textSize 512 p.reason ≤ 516 := by
    unfold textSize
    omega
  have hsource : textSize 128 p.source ≤ 132 := by
    unfold textSize
    omega
  cases which with
  | save => exact ⟨Nat.zero_le 4096, (by decide : 106 ≤ kMaxPayloadLength)⟩
  | drain =>
    refine ⟨Nat.zero_le 4096, ?_⟩
    simp only [adminMessage, encodeDrainTarget, List.length_append, length_string, length_u8,
      List.length_nil]
    omega
  | undrain =>
    refine ⟨Nat.zero_le 4096, ?_⟩
    simp only [adminMessage, encodeDrainTarget, List.length_append, length_string, length_u8,
      List.length_nil]
    omega
  | quarantine =>
    refine ⟨Nat.zero_le 4096, ?_⟩
    simp only [adminMessage, encodeQuarantine, List.length_append, length_string, length_u64,
      List.length_nil]
    omega
  | clearQuarantine =>
    refine ⟨Nat.zero_le 4096, ?_⟩
    simp only [adminMessage, encodeIdentityTarget, length_string, List.length_nil]
    omega

/-! ## What a command does -/

section Sections

variable {state : Nat → FleetStateStore} {points : List Nat} {msg reply : Message}

theorem reaches_ackSections {ok : Bool} {reason : ByteString}
    (h : (Coordinator.ackSections msg ok reason).Reaches Section.apply state points (.done reply)) :
    ∃ m, points = [m] ∧ state (m + 1) = state m ∧ reply.ok = ok := by
  obtain ⟨m, rest, hpoints, hsame, hrest⟩ := h.of_access
  obtain ⟨rfl, hreply⟩ := hrest.of_done
  cases hreply
  exact ⟨m, hpoints, hsame, rfl⟩

/-- A `Result<void>` is always answered with `ok`. -/
theorem voidSections_eq (msg : Message) (returned : Except Error Unit) :
    Coordinator.voidSections msg returned = Coordinator.ackSections msg true [] := by
  simp [Coordinator.voidSections]

theorem reaches_callSections {op : Op}
    (h : (Coordinator.callSections msg op).Reaches Section.apply state points (.done reply)) :
    ∃ n m, points = [n, m] ∧ state (n + 1) = (state n).step op ∧ state (m + 1) = state m ∧
      reply.ok = true := by
  obtain ⟨n, rest, hpoints, heffect, hrest⟩ := h.of_access
  rw [voidSections_eq] at hrest
  obtain ⟨m, rfl, hsame, hok⟩ := reaches_ackSections hrest
  exact ⟨n, m, hpoints, heffect, hsame, hok⟩

end Sections

open Conversation

/-- What a dispatch of a command has done in a run: at point `n` the call that the
command stands for, with the owner as it was at `looked` and the epoch as it was at
`read`, and nothing at its other points. -/
structure Applied (c : Coordinator) (steps : List Exchange) (p : Params) (which : AdminCommand)
    (sv : Service) (looked read n : Nat) : Prop where
  points : looked ∈ sv.points ∧ read ∈ sv.points ∧ n ∈ sv.points
  order : looked ≤ read ∧ read ≤ n ∧ (which ≠ .save → read < n)
  effect : storeAt c steps (n + 1) = Coordinator.perform (storeAt c steps n)
    (adminOp p (Coordinator.ownerOf (storeAt c steps looked) p.target)
      (storeAt c steps read).epoch sv.now which)
  others : ∀ q ∈ sv.points, q ≠ n → storeAt c steps (q + 1) = storeAt c steps q

section Applied

variable {c : Coordinator} {steps : List Exchange} {p : Params} {which : AdminCommand}
  {sv : Service}

/-- Two or three sections after the first one, and the call is the last but one. -/
theorem applied_of_points {looked read n m : Nat} (hpoints : sv.points ⊆ [looked, read, n, m])
    (hin : looked ∈ sv.points ∧ read ∈ sv.points ∧ n ∈ sv.points)
    (horder : looked ≤ read ∧ read < n)
    (hlooked : storeAt c steps (looked + 1) = storeAt c steps looked)
    (hread : storeAt c steps (read + 1) = storeAt c steps read)
    (heffect : storeAt c steps (n + 1) = Coordinator.perform (storeAt c steps n)
      (adminOp p (Coordinator.ownerOf (storeAt c steps looked) p.target)
        (storeAt c steps read).epoch sv.now which))
    (hlast : storeAt c steps (m + 1) = storeAt c steps m) :
    Applied c steps p which sv looked read n where
  points := hin
  order := ⟨horder.1, Nat.le_of_lt horder.2, fun _ => horder.2⟩
  effect := heffect
  others := by
    intro q hq hne
    have hcases := hpoints hq
    simp only [List.mem_cons, List.not_mem_nil, or_false] at hcases
    rcases hcases with rfl | rfl | rfl | rfl
    · exact hlooked
    · exact hread
    · exact absurd rfl hne
    · exact hlast

/-- The handler of DRAIN and UNDRAIN looks the owner up and makes its call. -/
theorem applied_drain (hordered : sv.points.Pairwise (· < ·)) {level : DrainState}
    (hop : ∀ owner epoch now, adminOp p owner epoch now which
      = some (.setDrain owner p.target level now))
    (hdecode : decodeDrainTarget sv.msg.payload = .ok ⟨p.target, level⟩)
    (h : (Coordinator.drainSections sv.now sv.msg).Reaches Section.apply (storeAt c steps) sv.points
      (.done sv.reply)) :
    sv.reply.ok = true ∧ ∃ looked read n, Applied c steps p which sv looked read n := by
  unfold Coordinator.drainSections at h
  rw [hdecode] at h
  obtain ⟨l, rest, hpoints, hlooked, hrest⟩ := h.of_access
  obtain ⟨n, m, rfl, heffect, hlast, hok⟩ := reaches_callSections hrest
  rw [hpoints] at hordered
  simp only [List.pairwise_cons, List.mem_cons, forall_eq_or_imp] at hordered
  refine ⟨hok, l, l, n, applied_of_points ?_ ?_ ⟨Nat.le_refl l, hordered.1.1⟩ hlooked hlooked ?_
    hlast⟩
  · rw [hpoints]
    exact List.subset_cons_self l _
  · rw [hpoints]
    simp
  · rw [hop]
    exact heffect

/-- What the dispatch of a command has done, whatever happened between its sections. -/
theorem applied_of_executed (h : Executed c steps [sv]) (hmsg : sv.msg = adminMessage p which) :
    sv.reply.ok = true ∧ ∃ looked read n, Applied c steps p which sv looked read n := by
  have hsections := h.sections sv (List.mem_singleton_self sv)
  have hordered := h.ordered
  rw [List.flatMap_singleton] at hordered
  cases which with
  | save =>
    rw [hmsg] at hsections
    have hone : ∀ m, sv.points = [m] → storeAt c steps (m + 1) = storeAt c steps m →
        ∃ looked read n, Applied c steps p .save sv looked read n := by
      intro m hpoints hsame
      refine ⟨m, m, m, ?_, ⟨Nat.le_refl m, Nat.le_refl m, fun hne => absurd rfl hne⟩, hsame, ?_⟩
      · rw [hpoints]
        simp
      · rw [hpoints]
        intro q hq hne
        exact absurd (List.mem_singleton.mp hq) hne
    change (Coordinator.saveSections _ _ _).Reaches _ _ _ _ at hsections
    unfold Coordinator.saveSections at hsections
    split at hsections
    · rw [voidSections_eq] at hsections
      obtain ⟨m, hpoints, hsame, hok⟩ := reaches_ackSections hsections
      exact ⟨hok, hone m hpoints hsame⟩
    · obtain ⟨l, rest, hpoints, hlooked, hrest⟩ := hsections.of_access
      rw [voidSections_eq] at hrest
      obtain ⟨m, rfl, hsame, hok⟩ := reaches_ackSections hrest
      refine ⟨hok, l, l, l, ?_, ⟨Nat.le_refl l, Nat.le_refl l, fun hne => absurd rfl hne⟩, hlooked,
        ?_⟩
      · rw [hpoints]
        simp
      · rw [hpoints]
        intro q hq hne
        rcases List.mem_cons.mp hq with rfl | hq
        · exact absurd rfl hne
        · rw [List.mem_singleton.mp hq]
          exact hsame
  | drain =>
    have htype : sv.msg.type = .drain := by
      rw [hmsg]
      rfl
    rw [Coordinator.dispatchSections, htype] at hsections
    refine applied_drain hordered (fun _ _ _ => rfl) ?_ hsections
    rw [hmsg]
    exact decode_drainTarget_cut p.device (by decide)
  | undrain =>
    have htype : sv.msg.type = .undrain := by
      rw [hmsg]
      rfl
    rw [Coordinator.dispatchSections, htype] at hsections
    refine applied_drain hordered (fun _ _ _ => rfl) ?_ hsections
    rw [hmsg]
    exact decode_drainTarget_cut p.device (by decide)
  | quarantine =>
    rw [hmsg] at hsections
    change (Coordinator.quarantineSections _ _).Reaches _ _ _ _ at hsections
    unfold Coordinator.quarantineSections at hsections
    rw [adminMessage, decode_quarantine_cut] at hsections
    obtain ⟨l, rest, hpoints, hlooked, hrest⟩ := hsections.of_access
    obtain ⟨e, rest', rfl, hread, hrest'⟩ := hrest.of_access
    obtain ⟨n, m, rfl, heffect, hlast, hok⟩ := reaches_callSections hrest'
    rw [hpoints] at hordered
    simp only [List.pairwise_cons, List.mem_cons, forall_eq_or_imp] at hordered
    refine ⟨hok, l, e, n, applied_of_points ?_ ?_ ⟨Nat.le_of_lt hordered.1.1, hordered.2.1.1⟩
      hlooked hread heffect hlast⟩
    · rw [hpoints]
      exact List.Subset.refl _
    · rw [hpoints]
      simp
  | clearQuarantine =>
    rw [hmsg] at hsections
    change (Coordinator.clearQuarantineSections _ _).Reaches _ _ _ _ at hsections
    unfold Coordinator.clearQuarantineSections at hsections
    rw [adminMessage, decode_identityTarget_cut] at hsections
    obtain ⟨e, rest, hpoints, hread, hrest⟩ := hsections.of_access
    obtain ⟨n, m, rfl, heffect, hlast, hok⟩ := reaches_callSections hrest
    rw [hpoints] at hordered
    simp only [List.pairwise_cons, List.mem_cons, forall_eq_or_imp] at hordered
    refine ⟨hok, e, e, n, applied_of_points ?_ ?_ ⟨Nat.le_refl e, hordered.1.1⟩ hread hread heffect
      hlast⟩
    · rw [hpoints]
      exact List.subset_cons_self e _
    · rw [hpoints]
      simp

/-- A CLEAR_QUARANTINE that was overtaken by another epoch does nothing. -/
theorem Applied.overtaken {looked read n : Nat}
    (h : Applied c steps p .clearQuarantine sv looked read n)
    (hepoch : (storeAt c steps read).epoch ≠ (storeAt c steps n).epoch) :
    storeAt c steps (n + 1) = storeAt c steps n := by
  have heffect := h.effect
  simp only [adminOp, Coordinator.perform, FleetStateStore.step, FleetStateStore.exec] at heffect
  rw [heffect, clearQuarantine, if_pos hepoch]

end Applied

section Run

variable {c : Coordinator} {p : Params} {which : AdminCommand} {steps : List Exchange}

/-- The reply to a command is short. -/
theorem small_adminReply (hsteps : sends steps = [adminMessage p which]) :
    ∀ e ∈ ((start c).run steps).handler.handled, (encodeMessage e.2).length < 2 ^ 32 := by
  intro e he
  have hsound := sound_single (c := c) (carried_adminMessage p which) hsteps
  have hanswers := (hsound.answered e he).answers
  have hreason := hanswers.reason
  have hpayload := hanswers.payload (by
    rcases dispatched_single (c := c) (carried_adminMessage p which) hsteps with
      hnone | ⟨reply, hone⟩
    · rw [hnone] at he
      cases he
    · rw [hone] at he
      rw [List.mem_singleton.mp he]
      cases which <;> exact MessageType.noConfusion)
  rw [length_encodeMessage (by omega)]
  omega

/-- The reply to a command has `ok` in it, and its call has been made. -/
theorem applied_of_request (hsteps : sends steps = [adminMessage p which])
    {sent : Except Error Unit} {recvs : List (Result (Option ByteString))}
    (hrecvs : (Await.run {} recvs).received <+: ((start c).run steps).replies.taken)
    {m : Message} (hr : request (.ok ()) sent recvs = some (.ok m)) :
    m.ok = true ∧ ∃ sv looked read n, Executed c steps [sv] ∧ sv.msg = adminMessage p which ∧
      Applied c steps p which sv looked read n := by
  obtain ⟨-, -, sv, hexecuted, hmsg, hreply, -⟩ :=
    service_of_outcome (carried_adminMessage p which) hsteps (small_adminReply hsteps) hrecvs
      (outcome_of_request hr)
  obtain ⟨hok, looked, read, n, happlied⟩ := applied_of_executed hexecuted hmsg
  rw [hreply] at hok
  exact ⟨hok, sv, looked, read, n, hexecuted, hmsg, happlied⟩

end Run

/-- `cmd_admin` ends with 0 when there is a reply with `ok` in it. -/
theorem cmdAdmin_zero_iff (r : Result Message) :
    (cmdAdmin r).code = 0 ↔ ∃ m, r = .ok m ∧ m.ok = true := by
  cases r with
  | error err => simp [cmdAdmin]
  | ok m => cases hok : m.ok <;> simp [cmdAdmin, hok]

/-- In every run on the connection of an administrative command, with any other
threads and any losses: the exit code is 0 or 2, and it is 0 exactly when
`request` got a reply.  Then the command was dispatched, and what its sections did to
the store is the call that the command stands for, on the key as it was cut on the
way, with the owner and the epoch as they were in earlier sections.  So a
CLEAR_QUARANTINE that was overtaken by another epoch has done nothing.  In no case is
the command dispatched twice. -/
theorem admin_applied (c : Coordinator) (p : Params) (which : AdminCommand)
    (steps : List Exchange) (hsteps : sends steps = [adminMessage p which])
    (sent : Except Error Unit) (recvs : List (Result (Option ByteString)))
    (hrecvs : (Await.run {} recvs).received <+: ((start c).run steps).replies.taken)
    {r : Result Message} (hr : request (.ok ()) sent recvs = some r) :
    ((cmdAdmin r).code = 0 ∨ (cmdAdmin r).code = 2) ∧
      ((cmdAdmin r).code = 0 ↔ ∃ m, r = .ok m) ∧
      ((cmdAdmin r).code = 0 → ∃ sv looked read n, Executed c steps [sv] ∧
        sv.msg = adminMessage p which ∧ Applied c steps p which sv looked read n ∧
        (which = .clearQuarantine →
          (storeAt c steps read).epoch ≠ (storeAt c steps n).epoch →
          storeAt c steps (n + 1) = storeAt c steps n)) ∧
      ((start c).run steps).handler.handled.length ≤ 1 := by
  have honce : ((start c).run steps).handler.handled.length ≤ 1 := by
    rcases dispatched_single (c := c) (carried_adminMessage p which) hsteps with h | ⟨reply, h⟩
    · rw [h]
      exact Nat.zero_le 1
    · rw [h]
      exact Nat.le_refl 1
  cases r with
  | error err =>
    refine ⟨Or.inr rfl, ⟨?_, ?_⟩, ?_, honce⟩
    · intro h
      cases h
    · rintro ⟨m, h⟩
      cases h
    · intro h
      cases h
  | ok m =>
    obtain ⟨hok, sv, looked, read, n, hexecuted, hmsg, happlied⟩ :=
      applied_of_request hsteps hrecvs hr
    have hzero := (cmdAdmin_zero_iff (.ok m)).mpr ⟨m, rfl, hok⟩
    refine ⟨Or.inl hzero, ⟨fun _ => ⟨m, rfl⟩, fun _ => hzero⟩, fun _ => ?_, honce⟩
    refine ⟨sv, looked, read, n, hexecuted, hmsg, happlied, fun hwhich hepoch => ?_⟩
    subst hwhich
    exact happlied.overtaken hepoch

/-- A drain of the device on file.  Another thread rolls the epoch before its call,
and the reply arrives in two parts. -/
def sampleDrain : List Exchange :=
  [.send (adminMessage { device := sampleKey } .drain) [.sent 40, .sent 500], .deliver 0 70 [],
    .deliver 1 500 [], .decode 2 {} [], .enter, .others (.rollEpoch ⟨4⟩), .enter, .enter,
    .reply [.sent 500], .collect 60, .collect 200]

/-- What the receive loop of the sample gets. -/
def sampleDrainReceived : List (Result (Option ByteString)) :=
  let reply := ((start sampleCoordinator).run sampleDrain).replies.taken
  [.ok (some (reply.take 60)), .ok (some (reply.drop 60))]

theorem sampleDrain_applied :
    ∃ sv looked read n, Executed sampleCoordinator sampleDrain [sv] ∧
      Applied sampleCoordinator sampleDrain { device := sampleKey } .drain sv looked read n := by
  have hrequest : (request (.ok ()) (.ok ()) sampleDrainReceived).map
      (fun r => (cmdAdmin r).code) = some 0 := by
    decide +kernel
  obtain ⟨r, hr, hcode⟩ := Option.map_eq_some_iff.mp hrequest
  obtain ⟨-, -, hzero, -⟩ := admin_applied sampleCoordinator { device := sampleKey } .drain
    sampleDrain rfl (.ok ()) sampleDrainReceived (by decide +kernel) hr
  obtain ⟨sv, looked, read, n, hexecuted, -, happlied, -⟩ := hzero hcode
  exact ⟨sv, looked, read, n, hexecuted, happlied⟩

/-! ## Quarantines -/

/-- A quarantine in generation `q.generation` is there afterwards if the device
has not been reported in a later one, or if it was there before. -/
theorem quarantined_setQuarantine_iff (s : FleetStateStore) (w : WorkerId) (key : ByteString)
    (q : QuarantineRecord) (now : Timestamp) :
    (∃ d, (s.setQuarantine w key q now).store.devices[key]? = some d ∧ d.quarantined = true) ↔
      ∃ d, s.devices[key]? = some d ∧ (d.generation ≤ q.generation ∨ d.quarantined = true) := by
  unfold setQuarantine
  cases hdev : s.devices[key]? with
  | none =>
    simp only [hdev]
    constructor
    · rintro ⟨d, hd, -⟩
      cases hd
    · rintro ⟨d, hd, -⟩
      cases hd
  | some dev =>
    simp only
    by_cases hstale : q.generation < dev.generation
    · -- the store refuses it and stays as it was
      rw [if_pos hstale]
      simp only [hdev]
      constructor
      · rintro ⟨d, hd, hquarantined⟩
        exact ⟨d, hd, Or.inr hquarantined⟩
      · rintro ⟨d, hd, hgeneration | hquarantined⟩
        · cases hd
          exact absurd hstale (not_lt.mpr hgeneration)
        · exact ⟨d, hd, hquarantined⟩
    · rw [if_neg hstale]
      have hdevices : ∀ out : Outcome Unit,
          out.store.devices = s.devices.insert key (recomputeDeviceEligibility
            { dev with quarantined := true, quarantine := q }) →
          ∃ d, out.store.devices[key]? = some d ∧ d.quarantined = true := by
        intro out hout
        refine ⟨_, ?_, (rfl : (recomputeDeviceEligibility
          { dev with quarantined := true, quarantine := q }).quarantined = true)⟩
        rw [hout, OrderedMap.getElem?_insert_same]
      constructor
      · intro _
        exact ⟨dev, rfl, Or.inl (not_lt.mp hstale)⟩
      · intro _
        split
        · exact hdevices _ rfl
        · exact hdevices _ rfl

/-- A quarantine behind the generation of the device is refused. -/
theorem setQuarantine_refused {s : FleetStateStore} (w : WorkerId) {key : ByteString}
    {q : QuarantineRecord} (now : Timestamp)
    (hlater : ∀ d, s.devices[key]? = some d → q.generation < d.generation) :
    (s.setQuarantine w key q now).store = s := by
  unfold setQuarantine
  cases hdev : s.devices[key]? with
  | none => rfl
  | some dev =>
    dsimp only
    rw [if_pos (hlater dev hdev)]

/-- The QUARANTINE of the command line is sent in device generation 1.  In every
run on its connection in which a reply arrives, the command ends with 0, and one
section of its dispatch has made the call.  The device is quarantined after it if and
only if it was on file there in generation 0 or 1, or was quarantined before.
If it was on file in a later generation, the store is as it was, and the command still
ends with 0. -/
theorem quarantine_effective_iff (c : Coordinator) (p : Params) (steps : List Exchange)
    (hsteps : sends steps = [adminMessage p .quarantine]) (sent : Except Error Unit)
    (recvs : List (Result (Option ByteString)))
    (hrecvs : (Await.run {} recvs).received <+: ((start c).run steps).replies.taken)
    {m : Message} (hr : request (.ok ()) sent recvs = some (.ok m)) :
    (cmdAdmin (.ok m)).code = 0 ∧ ∃ sv n, Executed c steps [sv] ∧
      sv.msg = adminMessage p .quarantine ∧ n ∈ sv.points ∧
      (∀ q ∈ sv.points, q ≠ n → storeAt c steps (q + 1) = storeAt c steps q) ∧
      ((∃ d, (storeAt c steps (n + 1)).devices[p.target]? = some d ∧ d.quarantined = true) ↔
        ∃ d, (storeAt c steps n).devices[p.target]? = some d ∧
          (d.generation ≤ ⟨1⟩ ∨ d.quarantined = true)) ∧
      ((∀ d, (storeAt c steps n).devices[p.target]? = some d → ⟨1⟩ < d.generation) →
        storeAt c steps (n + 1) = storeAt c steps n) := by
  obtain ⟨hok, sv, looked, read, n, hexecuted, hmsg, happlied⟩ :=
    applied_of_request hsteps hrecvs hr
  refine ⟨(cmdAdmin_zero_iff (.ok m)).mpr ⟨m, rfl, hok⟩, sv, n, hexecuted, hmsg,
    happlied.points.2.2, happlied.others, ?_, ?_⟩
  · rw [happlied.effect]
    exact quarantined_setQuarantine_iff (storeAt c steps n)
      (Coordinator.ownerOf (storeAt c steps looked) p.target) p.target _ sv.now
  · intro hlater
    rw [happlied.effect]
    exact setQuarantine_refused (Coordinator.ownerOf (storeAt c steps looked) p.target) sv.now
      hlater

/-- The report of a device in a generation. -/
def sampleReportIn (uuid : String) (generation : UInt64) : DeviceObservation :=
  { sampleObservationOf uuid 1 10 1 with deviceGeneration := ⟨generation⟩ }

/-- A device in generation 1 and another one in generation 3. -/
def sampleGenerations : Coordinator where
  opts := {}
  store := sampleStore.run [.registerWorker (sampleRegistration 1 10 1) 1000,
    .ingestSnapshot ⟨1⟩ [sampleReportIn "A" 1, sampleReportIn "B" 3] {} 5000]
  disk := fun _ => none

/-- The command line names a device. -/
def sampleParams (uuid : String) : Params where
  device := canonicalDeviceIdentity (sampleDevice uuid)

/-- A quarantine, answered in one part. -/
def sampleQuarantine (uuid : String) : List Exchange :=
  [.send (adminMessage (sampleParams uuid) .quarantine) [.sent 500], .deliver 0 500 [],
    .decode 2 {} [], .enter, .enter, .others (.rollEpoch ⟨4⟩), .enter, .enter, .reply [.sent 500],
    .collect 500]

/-- What its receive loop gets. -/
def sampleQuarantineReceived (uuid : String) : List (Result (Option ByteString)) :=
  [.ok (some ((start sampleGenerations).run (sampleQuarantine uuid)).replies.taken)]

/-- The first device is quarantined, and the second one is not.  Both commands end
with 0. -/
theorem sampleQuarantine_done :
    (∃ m n, request (.ok ()) (.ok ()) (sampleQuarantineReceived "A") = some (.ok m) ∧
      (cmdAdmin (.ok m)).code = 0 ∧
      ∃ d, (storeAt sampleGenerations (sampleQuarantine "A") (n + 1)).devices[
          (sampleParams "A").target]? = some d ∧ d.quarantined = true) ∧
    ∃ m sv n, request (.ok ()) (.ok ()) (sampleQuarantineReceived "B") = some (.ok m) ∧
      (cmdAdmin (.ok m)).code = 0 ∧
      Executed sampleGenerations (sampleQuarantine "B") [sv] ∧ n ∈ sv.points ∧
      storeAt sampleGenerations (sampleQuarantine "B") (n + 1)
        = storeAt sampleGenerations (sampleQuarantine "B") n := by
  have hrequest : ∀ uuid ∈ ["A", "B"],
      (request (.ok ()) (.ok ()) (sampleQuarantineReceived uuid)).map
        (fun r => (cmdAdmin r).code) = some 0 := by
    decide +kernel
  have hreply : ∀ uuid ∈ ["A", "B"], ∃ m,
      request (.ok ()) (.ok ()) (sampleQuarantineReceived uuid) = some (.ok m) := by
    intro uuid huuid
    obtain ⟨r, hr, hcode⟩ := Option.map_eq_some_iff.mp (hrequest uuid huuid)
    obtain ⟨m, rfl, -⟩ := (cmdAdmin_zero_iff r).mp hcode
    exact ⟨m, hr⟩
  have hlength : ∀ {uuid sv n}, Executed sampleGenerations (sampleQuarantine uuid) [sv] →
      n ∈ sv.points → n < 10 := by
    intro uuid sv n hexecuted hn
    exact hexecuted.lt (List.mem_singleton_self sv) n hn
  constructor
  · obtain ⟨m, hm⟩ := hreply "A" (by simp)
    obtain ⟨hcode, sv, n, hexecuted, -, hn, -, heffective, -⟩ := quarantine_effective_iff
      sampleGenerations (sampleParams "A") (sampleQuarantine "A") rfl (.ok ()) _
      (received_single _) hm
    have hfirst : ∀ n < 10,
        (storeAt sampleGenerations (sampleQuarantine "A") n).devices[
          (sampleParams "A").target]?.any (fun d => decide (d.generation ≤ ⟨1⟩)) = true := by
      decide +kernel
    obtain ⟨d, hd, hgeneration⟩ := Option.any_eq_true _ _ |>.mp (hfirst n (hlength hexecuted hn))
    exact ⟨m, n, hm, hcode,
      heffective.mpr ⟨d, hd, Or.inl (of_decide_eq_true hgeneration)⟩⟩
  · obtain ⟨m, hm⟩ := hreply "B" (by simp)
    obtain ⟨hcode, sv, n, hexecuted, -, hn, -, -, hrefused⟩ := quarantine_effective_iff
      sampleGenerations (sampleParams "B") (sampleQuarantine "B") rfl (.ok ()) _
      (received_single _) hm
    have hlater : ∀ n < 10,
        (storeAt sampleGenerations (sampleQuarantine "B") n).devices[
          (sampleParams "B").target]?.all (fun d => decide (⟨1⟩ < d.generation)) = true := by
      decide +kernel
    refine ⟨m, sv, n, hm, hcode, hexecuted, hn, hrefused fun d hd => ?_⟩
    have hall := hlater n (hlength hexecuted hn)
    rw [hd] at hall
    exact of_decide_eq_true hall

end Cli

end GpuFleet
