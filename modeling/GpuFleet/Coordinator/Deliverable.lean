import GpuFleet.Coordinator.ReplySize
import GpuFleet.Lib.Failing

/-!
# Replies that are received

What can keep a reply from being received is its payload or its reason.  Only
the answer to a SNAPSHOT_REQUEST has a payload that grows with the fleet.  The
reasons are literals of the source, and some have another one or a number in
them, so none of them comes near the 4096 bytes that `decode_message` reads.
`reply_received_iff` puts this together for all messages.
-/

namespace GpuFleet

open Reading Decoder

/-! ## The texts of errors -/

/-- The message of the error is short. -/
def Error.Brief (err : Error) : Prop := err.message.length ≤ 128

theorem brief_errorResult {code : Status} {l : List Char} (h : l.length ≤ 128) :
    (errorResult code (String.ofList l)).Brief :=
  length_text_le h

theorem length_decimal_le (v : UInt64) : (decimal v.toNat).length ≤ 20 := by
  have hlt : v.toNat < 10 ^ 20 := v.toNat_lt.trans (by decide)
  rw [decimal, List.length_map]
  exact (Nat.length_toDigits_le_iff (by omega) (by omega)).mpr hlt

section Fields

variable {α : Type} {code : Status} {l : List Char}

theorem fails_need {read : ByteReader → Option (α × ByteReader)} (h : l.length ≤ 128) :
    Fails (need read code (String.ofList l)) Error.Brief := by
  intro r e hrun
  change need read code (String.ofList l) r = .error e at hrun
  unfold need at hrun
  split at hrun
  · cases hrun
  · cases hrun
    exact brief_errorResult h

theorem fails_needString {maxLen : Nat} (h : l.length ≤ 128) :
    Fails (needString maxLen code (String.ofList l)) Error.Brief :=
  fails_need h

theorem fails_reject {bad : Bool} (h : l.length ≤ 128) :
    Fails (reject bad code (String.ofList l)) Error.Brief := by
  intro r e hrun
  change reject bad code (String.ofList l) r = .error e at hrun
  unfold reject at hrun
  split at hrun
  · cases hrun
    exact brief_errorResult h
  · cases hrun

theorem fails_done (h : l.length ≤ 128) : Fails (done code (String.ofList l)) Error.Brief := by
  intro r e hrun
  change done code (String.ofList l) r = .error e at hrun
  unfold done at hrun
  split at hrun
  · cases hrun
  · cases hrun
    exact brief_errorResult h

end Fields

theorem brief_of_decode {α : Type} {d : Decoder α} {data : ByteString} {err : Error}
    (hd : Fails d Error.Brief) (h : d.decode data = .error err) : err.Brief := by
  unfold decode at h
  cases hrun : d.run data with
  | ok out =>
    rw [hrun] at h
    cases h
  | error _ =>
    rw [hrun] at h
    cases h
    exact hd data err hrun

theorem fails_registration : Fails registrationDecoder Error.Brief := by
  unfold registrationDecoder
  simp only [times_eq]
  refine (fails_need (by decide)).bind fun _ => (fails_need (by decide)).bind fun _ => ?_
  refine (fails_need (by decide)).bind fun _ => (fails_need (by decide)).bind fun _ => ?_
  refine (fails_need (by decide)).bind fun _ => (fails_need (by decide)).bind fun _ => ?_
  refine (fails_need (by decide)).bind fun _ => (fails_needString (by decide)).bind fun _ => ?_
  refine (fails_needString (by decide)).bind fun _ => (fails_need (by decide)).bind fun _ => ?_
  refine (fails_need (by decide)).bind fun _ => (fails_need (by decide)).bind fun _ => ?_
  refine (fails_reject (by decide)).bind fun _ => ?_
  refine ((fails_needString (by decide)).times _).bind fun _ => ?_
  refine (fails_need (by decide)).bind fun _ => (fails_reject (by decide)).bind fun _ => ?_
  refine ((fails_needString (by decide)).times _).bind fun _ => ?_
  refine (fails_need (by decide)).bind fun _ => (fails_need (by decide)).bind fun _ => ?_
  exact (fails_done (by decide)).bind fun _ => .pure _

/-! ## The errors of the store -/

namespace FleetStateStore

theorem brief_registerWorker {s : FleetStateStore} {reg : Registration} {now : Timestamp}
    {err : Error} (h : (s.registerWorker reg now).result = .error err) : err.Brief := by
  unfold registerWorker at h
  split at h
  · cases h
    have hreg := length_decimal_le reg.epoch.value
    have hcurrent := length_decimal_le s.epoch.value
    have hstale : (text "registration epoch stale (").length = 26 := by decide
    have hne : (text " != ").length = 4 := by decide
    have hclose : (text ")").length = 1 := by decide
    simp only [Error.Brief, List.length_append]
    omega
  · split at h
    · cases h
      exact brief_errorResult (by decide)
    · split at h
      · cases h
      · split at h
        · split at h
          · cases h
            exact brief_errorResult (by decide)
          · cases h
        · split at h
          · cases h
            exact brief_errorResult (by decide)
          · cases h

theorem brief_gate {epoch : CoordinatorEpoch} {worker : WorkerId} {boot : WorkerBootId}
    {prior : Option Stamp} {o : DeviceObservation} {err : Error}
    (h : gate epoch worker boot prior o = .refuse err) : err.Brief := by
  unfold gate at h
  split_ifs at h
  · cases h
    exact brief_errorResult (by decide)
  · cases h
    exact brief_errorResult (by decide)
  · cases h
    exact brief_errorResult (by decide)
  · cases prior with
    | none => cases h
    | some p =>
      dsimp only at h
      split_ifs at h
      · cases h
        exact brief_errorResult (by decide)
      · cases h
        exact brief_errorResult (by decide)

theorem brief_ingestLoop {worker : WorkerId} {boot : WorkerBootId} {policy : ObservationPolicy}
    {now : Timestamp} {obs : List DeviceObservation} {st : IngestState} {err : Error}
    (h : (ingestLoop worker boot policy now obs st).2 = .error err) : err.Brief := by
  induction obs generalizing st with
  | nil => cases h
  | cons o rest ih =>
    unfold ingestLoop at h
    split at h
    · next hgate =>
      cases h
      exact brief_gate hgate
    · exact ih h
    · exact ih h

theorem brief_ingestSnapshot {s : FleetStateStore} {worker : WorkerId}
    {obs : List DeviceObservation} {policy : ObservationPolicy} {now : Timestamp} {err : Error}
    (h : (s.ingestSnapshot worker obs policy now).result = .error err) : err.Brief := by
  unfold ingestSnapshot at h
  split at h
  · cases h
    exact brief_errorResult (by decide)
  · split at h
    · cases h
      exact brief_errorResult (by decide)
    · split at h
      · next hloop =>
        cases h
        exact brief_ingestLoop (congrArg Prod.snd hloop)
      · cases h

end FleetStateStore

/-! ## Replies -/

/-- The types of the messages that a coordinator sends. -/
def replyTypes : List MessageType := [.ack, .error, .registerAck, .snapshotResponse]

/-- What every reply has from its request, and what bounds its size. -/
structure Message.Answers (reply msg : Message) : Prop where
  requestId : reply.requestId = msg.requestId
  type : reply.type ∈ replyTypes
  reason : reply.reason.length ≤ 256
  payload : msg.type ≠ .snapshotRequest → reply.payload.length ≤ 16

namespace Coordinator

theorem answers_respondAck (c : Coordinator) (msg : Message) (ok : Bool) {reason : ByteString}
    (h : reason.length ≤ 256) : (c.respondAck msg ok reason).Answers msg where
  requestId := rfl
  type := by cases ok <;> simp [respondAck, replyTypes]
  reason := h
  payload := fun _ => Nat.zero_le 16

theorem answers_malformed (c : Coordinator) (msg : Message) {reason : ByteString}
    (h : reason.length ≤ 256) : (c.malformed msg reason).reply.Answers msg :=
  answers_respondAck c msg false h

theorem answers_respondVoid (c : Coordinator) (msg : Message) (r : Except Error Unit) :
    (c.respondVoid msg r).Answers msg := by
  unfold respondVoid
  simp only [ResultVoid.ofReturn_ok, Bool.not_true, Bool.false_eq_true, if_false]
  exact answers_respondAck c msg true (by decide)

theorem answers_handleRegister (c : Coordinator) (now : Timestamp) (msg : Message) :
    (c.handleRegister now msg).reply.Answers msg := by
  have hmalformed : (text "malformed registration: ").length = 24 := by decide
  have hrejected : (text "registration rejected: ").length = 23 := by decide
  unfold handleRegister
  split
  · next err hdecode =>
    have hbrief := brief_of_decode fails_registration hdecode
    unfold Error.Brief at hbrief
    apply answers_malformed
    rw [List.length_append]
    omega
  · dsimp only
    split
    · next err hresult =>
      have hbrief := FleetStateStore.brief_registerWorker hresult
      unfold Error.Brief at hbrief
      apply answers_respondAck
      rw [List.length_append]
      omega
    · exact ⟨rfl, by simp [replyTypes], Nat.zero_le 256, fun _ => by simp⟩

theorem answers_handleReport (c : Coordinator) (now : Timestamp) (msg : Message) :
    (c.handleReport now msg).reply.Answers msg := by
  unfold handleReport
  split
  · exact answers_malformed c msg (by decide)
  · dsimp only
    split
    · next err hresult =>
      have hbrief := FleetStateStore.brief_ingestSnapshot hresult
      unfold Error.Brief at hbrief
      apply answers_respondAck
      omega
    · exact answers_respondAck _ msg true (by decide)

/-- There is one reply to every message, and it is one of four kinds. -/
theorem answers_dispatch (c : Coordinator) (now : Timestamp) (io : FileOutcomes) (msg : Message) :
    (c.dispatch now io msg).reply.Answers msg := by
  unfold dispatch
  split
  · exact ⟨rfl, by simp [replyTypes], Nat.zero_le 256, fun _ => Nat.zero_le 16⟩
  · exact answers_handleRegister c now msg
  · unfold handleHeartbeat
    split
    · exact answers_respondVoid _ msg _
    · exact answers_respondAck c msg true (by decide)
  · exact answers_handleReport c now msg
  · exact answers_handleReport c now msg
  · exact answers_handleReport c now msg
  · next htype =>
    exact ⟨rfl, by simp [replyTypes], Nat.zero_le 256, fun hother => absurd htype hother⟩
  · unfold handleDrain
    split
    · exact answers_malformed c msg (by decide)
    · exact answers_respondVoid _ msg _
  · unfold handleDrain
    split
    · exact answers_malformed c msg (by decide)
    · exact answers_respondVoid _ msg _
  · unfold handleQuarantine
    split
    · exact answers_malformed c msg (by decide)
    · exact answers_respondVoid _ msg _
  · unfold handleClearQuarantine
    split
    · exact answers_malformed c msg (by decide)
    · exact answers_respondVoid _ msg _
  · exact answers_respondVoid _ msg _
  · exact answers_respondVoid _ msg _
  · exact answers_malformed c msg (by decide)
  · exact answers_malformed c msg (by decide)
  · exact answers_malformed c msg (by decide)
  · exact answers_malformed c msg (by decide)

/-- Whatever the state of the coordinator and whatever the message: the reply
is received, as the very message that it is, unless it is a snapshot that does
not fit into a frame. -/
theorem reply_received_iff (c : Coordinator) (now : Timestamp) (io : FileOutcomes)
    (msg : Message) :
    Received (sendMessage (c.dispatch now io msg).reply) (c.dispatch now io msg).reply ↔
      (msg.type = .snapshotRequest → 106 + c.store.snapshot.wireSize ≤ kMaxPayloadLength) := by
  have hanswers := c.answers_dispatch now io msg
  have hreason := hanswers.reason
  rw [received_sendMessage_iff (by omega)]
  by_cases hsnapshot : msg.type = .snapshotRequest
  · have hreply : (c.dispatch now io msg).reply = {
        type := .snapshotResponse
        requestId := msg.requestId
        epoch := c.store.epoch
        payload := encodeSnapshot c.store.snapshot
        ok := true } := by
      simp only [dispatch, hsnapshot]
    rw [hreply]
    dsimp only
    rw [length_encodeSnapshot, List.length_nil, Nat.add_zero]
    exact ⟨fun h _ => h, fun h => h hsnapshot⟩
  · have hpayload := hanswers.payload hsnapshot
    refine ⟨fun _ h => absurd h hsnapshot, fun _ => ?_⟩
    rw [kMaxPayloadLength]
    omega

end Coordinator

end GpuFleet
