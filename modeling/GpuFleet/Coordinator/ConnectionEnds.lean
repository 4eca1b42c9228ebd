import GpuFleet.Coordinator.Handler
import GpuFleet.Coordinator.LossVerdicts
import GpuFleet.Fleet.Effects

/-!
# How a connection ends

`handle_connection` marks the worker of the connection lost after its loops.
A frame that is not well formed, and a payload that does not decode, `return`
out of the loops, and then nobody marks anything.  And the worker that is
marked is the one that the last REGISTER names in its envelope, whoever it
registers.

`noticed_iff` says when the end of a connection is noticed.  Its invariant,
`Tracks`, says what the bytes that came in mean at every place of the loops.
-/

namespace GpuFleet

namespace Coordinator

/-! ## REGISTER_ACK -/

theorem respondAck_type (c : Coordinator) (req : Message) (ok : Bool) (reason : ByteString) :
    (c.respondAck req ok reason).type ≠ .registerAck := by
  cases ok <;> exact MessageType.noConfusion

theorem respondVoid_type (c : Coordinator) (msg : Message) (returned : Except Error Unit) :
    (c.respondVoid msg returned).type ≠ .registerAck := by
  unfold respondVoid
  dsimp only
  split
  · exact respondAck_type c msg false _
  · exact respondAck_type c msg true []

theorem answerVoid_type (c : Coordinator) (msg : Message) (out : Outcome Unit) :
    (c.answerVoid msg out).reply.type ≠ .registerAck :=
  respondVoid_type _ msg out.result

theorem malformed_type (c : Coordinator) (msg : Message) (reason : ByteString) :
    (c.malformed msg reason).reply.type ≠ .registerAck :=
  respondAck_type c msg false reason

theorem handleReport_type (c : Coordinator) (now : Timestamp) (msg : Message) :
    (c.handleReport now msg).reply.type ≠ .registerAck := by
  unfold handleReport
  split
  · exact malformed_type c msg _
  · dsimp only
    split
    · exact respondAck_type _ msg false _
    · exact respondAck_type _ msg true []

theorem handleDrain_type (c : Coordinator) (now : Timestamp) (msg : Message) :
    (c.handleDrain now msg).reply.type ≠ .registerAck := by
  unfold handleDrain
  split
  · exact malformed_type c msg _
  · exact answerVoid_type c msg _

/-- Only a REGISTER is answered with a REGISTER_ACK. -/
theorem type_of_registerAck {c : Coordinator} {now : Timestamp} {io : FileOutcomes} {msg : Message}
    (h : (c.dispatch now io msg).reply.type = .registerAck) : msg.type = .register := by
  by_contra hother
  apply absurd h
  unfold dispatch
  split
  · exact MessageType.noConfusion
  · next htype => exact absurd htype hother
  · unfold handleHeartbeat
    split
    · exact answerVoid_type c msg _
    · exact respondAck_type c msg true []
  · exact handleReport_type c now msg
  · exact handleReport_type c now msg
  · exact handleReport_type c now msg
  · exact MessageType.noConfusion
  · exact handleDrain_type c now msg
  · exact handleDrain_type c now msg
  · unfold handleQuarantine
    split
    · exact malformed_type c msg _
    · exact answerVoid_type c msg _
  · unfold handleClearQuarantine
    split
    · exact malformed_type c msg _
    · exact answerVoid_type c msg _
  · exact answerVoid_type c msg _
  · exact respondVoid_type _ msg _
  all_goals exact malformed_type c msg _

end Coordinator

open Incremental FrameDecoder

/-- The bytes are frames, and maybe the beginning of another one, and the
payload of every frame is a message. -/
def StreamDecodes (bytes : ByteString) : Prop :=
  (drain [bytes]).last = .needMore ∧
    ∀ f ∈ (drain [bytes]).emitted, ∃ msg, decodeMessage f.payload = .ok msg

namespace Handler

/-- The last REGISTER among the messages that were dispatched. -/
def lastRegister (handled : List (Message × Message)) : Option Message :=
  (handled.filter fun e => decide (e.1.type = .register)).getLast?.map Prod.fst

/-- The incarnation that the last successful REGISTER installed or
re-affirmed, which its REGISTER_ACK names. -/
def incarnation (handled : List (Message × Message)) : Option (WorkerId × WorkerBootId) :=
  (handled.filter fun e => decide (e.2.type = .registerAck)).getLast?.map fun e =>
    (e.2.worker, e.2.workerBoot)

/-- Where the record of the worker still carries the incarnation, the worker
is lost. -/
def Noticed (h : Handler) : Prop :=
  ∀ w b wr, incarnation h.handled = some (w, b) → h.store.workers[w]? = some wr → wr.boot = b →
    wr.lost = true

/-- The last REGISTER names, in its envelope, the worker that the last
successful one registered. -/
def Named (h : Handler) : Prop :=
  ∀ w b, incarnation h.handled = some (w, b) →
    ∃ msg, lastRegister h.handled = some msg ∧ msg.worker = w

/-! ## What the bytes mean -/

/-- The frames hold the messages that were dispatched. -/
def Decoded (frames : List Frame) (handled : List (Message × Message)) : Prop :=
  List.Forall₂ (fun f e => decodeMessage f.payload = .ok e.1) frames handled

theorem Decoded.message {frames : List Frame} {handled : List (Message × Message)}
    (h : Decoded frames handled) : ∀ f ∈ frames, ∃ msg, decodeMessage f.payload = .ok msg := by
  induction h with
  | nil => exact List.forall_mem_nil _
  | cons hmsg _ ih => exact List.forall_mem_cons.mpr ⟨⟨_, hmsg⟩, ih⟩

/-- What is known at each place of the loops. -/
inductive At (h : Handler) : Prop
  | receiving (hphase : h.conn.phase = .reading) (hplace : h.place = .receiving)
      (hdecoded : Decoded h.frames h.handled) (hwaits : (feed [] h.dec).1 = .needMore)
  | ready (frame : Frame) (before : List Frame) (hphase : h.conn.phase = .reading)
      (hplace : h.place = .ready frame) (hframes : h.frames = before ++ [frame])
      (hdecoded : Decoded before h.handled)
  | again (hphase : h.conn.phase = .reading) (hplace : h.place = .again)
      (hdecoded : Decoded h.frames h.handled)
  | marking (now : Timestamp) (hphase : h.conn.phase = .marking now)
      (hdecoded : Decoded h.frames h.handled) (hwaits : (feed [] h.dec).1 = .needMore)
  | left (hphase : h.conn.phase = .ended)

section Place

variable {h : Handler}

theorem At.of_receiving (hat : h.At) (hphase : h.conn.phase = .reading)
    (hplace : h.place = .receiving) :
    Decoded h.frames h.handled ∧ (feed [] h.dec).1 = .needMore := by
  cases hat with
  | receiving _ _ hdecoded hwaits => exact ⟨hdecoded, hwaits⟩
  | ready _ _ _ hready _ _ => cases hplace.symm.trans hready
  | again _ hagain _ => cases hplace.symm.trans hagain
  | marking _ hmarking _ _ => cases hphase.symm.trans hmarking
  | left hleft => cases hphase.symm.trans hleft

theorem At.of_ready (hat : h.At) (hphase : h.conn.phase = .reading) {frame : Frame}
    (hplace : h.place = .ready frame) :
    ∃ before, h.frames = before ++ [frame] ∧ Decoded before h.handled := by
  cases hat with
  | receiving _ hreceiving _ _ => cases hplace.symm.trans hreceiving
  | ready frame' before _ hready hframes hdecoded =>
    cases hplace.symm.trans hready
    exact ⟨before, hframes, hdecoded⟩
  | again _ hagain _ => cases hplace.symm.trans hagain
  | marking _ hmarking _ _ => cases hphase.symm.trans hmarking
  | left hleft => cases hphase.symm.trans hleft

theorem At.of_again (hat : h.At) (hphase : h.conn.phase = .reading) (hplace : h.place = .again) :
    Decoded h.frames h.handled := by
  cases hat with
  | receiving _ hreceiving _ _ => cases hplace.symm.trans hreceiving
  | ready _ _ _ hready _ _ => cases hplace.symm.trans hready
  | again _ _ hdecoded => exact hdecoded
  | marking _ hmarking _ _ => cases hphase.symm.trans hmarking
  | left hleft => cases hphase.symm.trans hleft

theorem At.of_marking (hat : h.At) {now : Timestamp} (hphase : h.conn.phase = .marking now) :
    Decoded h.frames h.handled ∧ (feed [] h.dec).1 = .needMore := by
  cases hat with
  | receiving hreading _ _ _ => cases hphase.symm.trans hreading
  | ready _ _ hreading _ _ _ => cases hphase.symm.trans hreading
  | again hreading _ _ => cases hphase.symm.trans hreading
  | marking _ _ hdecoded hwaits => exact ⟨hdecoded, hwaits⟩
  | left hleft => cases hphase.symm.trans hleft

/-- Between two frames every frame has been handled. -/
theorem At.decoded (hat : h.At) (hphase : h.conn.phase = .reading)
    (hplace : h.place = .receiving ∨ h.place = .again) : Decoded h.frames h.handled := by
  rcases hplace with hreceiving | hagain
  · exact (hat.of_receiving hphase hreceiving).1
  · exact hat.of_again hphase hagain

end Place

/-- The local variables are those of the last REGISTER. -/
structure Binds (conn : Connection) (handled : List (Message × Message)) : Prop where
  bound : conn.workerBound = (lastRegister handled).isSome
  named : ∀ msg, lastRegister handled = some msg → conn.connectedWorker = msg.worker

/-- Only a REGISTER is answered with a REGISTER_ACK. -/
def Acked (handled : List (Message × Message)) : Prop :=
  ∀ e ∈ handled, e.2.type = .registerAck → e.1.type = .register

/-- The invariant of the handler. -/
structure Tracks (h : Handler) : Prop where
  conserved : h.received = encodeFrames h.frames ++ h.dec
  bounded : ∀ f ∈ h.frames, f.payload.length ≤ kMaxPayloadLength
  position : h.At
  binds : Binds h.conn h.handled
  acked : Acked h.handled

/-! ## One step -/

/-- What a step can be: a step outside of the thread, the end of the loop, a
call of `feed`, a frame that is handled, or the call of `mark_worker_lost`. -/
inductive StepCase (h h' : Handler) : Prop
  | outside (c : Coordinator) (running : Bool)
      (he : h' = { h with coordinator := c, running := running })
  | closes (now : Timestamp) (hphase : h.conn.phase = .reading) (hplace : h.place = .receiving)
      (he : h' = { h with conn := h.conn.closed h.running now })
  | fed (data : ByteString) (hphase : h.conn.phase = .reading)
      (hplace : h.place = .receiving ∨ h.place = .again) (he : h' = h.push data)
  | handled (now : Timestamp) (io : FileOutcomes) (frame : Frame)
      (hphase : h.conn.phase = .reading) (hplace : h.place = .ready frame)
      (he : h' = h.handle now io frame)
  | marked (now : Timestamp) (hphase : h.conn.phase = .marking now)
      (he : h' = { h with
        coordinator := h.coordinator.step (.workerLost h.conn.connectedWorker now)
        conn := h.conn.marked })

theorem step_cases (h : Handler) (m : Move) : h.StepCase (h.step m) := by
  have hstay : h.StepCase h := .outside h.coordinator h.running rfl
  cases m with
  | receive now recv =>
    simp only [step]
    split
    · next hphase hplace =>
      split
      · cases recv with
        | failed => exact .closes now hphase hplace rfl
        | nothing => exact hstay
        | bytes data =>
          simp only [receive]
          split
          · exact .closes now hphase hplace rfl
          · exact .fed data hphase (Or.inl hplace) rfl
      · exact .closes now hphase hplace rfl
    · exact hstay
  | dispatch now io =>
    simp only [step]
    split
    · next frame hphase hplace => exact .handled now io frame hphase hplace rfl
    · exact hstay
  | feed =>
    simp only [step]
    split
    · next hphase hplace => exact .fed [] hphase (Or.inr hplace) rfl
    · exact hstay
  | mark =>
    simp only [step]
    split
    · next now hphase => exact .marked now hphase rfl
    · exact hstay
  | stop => exact .outside h.coordinator false rfl
  | others e => exact .outside (h.coordinator.step e) h.running rfl

/-! ## Registrations on the connection -/

theorem lastRegister_concat (handled : List (Message × Message)) (e : Message × Message) :
    lastRegister (handled ++ [e])
      = if e.1.type = .register then some e.1 else lastRegister handled := by
  unfold lastRegister
  rw [List.filter_append]
  by_cases he : e.1.type = .register
  · have hone : [e].filter (fun e => decide (e.1.type = .register)) = [e] := by
      simp [he]
    rw [if_pos he, hone, List.getLast?_concat]
    rfl
  · have hnone : [e].filter (fun e => decide (e.1.type = .register)) = [] := by
      simp [he]
    rw [if_neg he, hnone, List.append_nil]

/-- Without a REGISTER there is no incarnation. -/
theorem Acked.incarnation_eq_none {handled : List (Message × Message)} (h : Acked handled)
    (hlast : lastRegister handled = none) : incarnation handled = none := by
  have hnone : handled.filter (fun e => decide (e.1.type = .register)) = [] := by
    rwa [lastRegister, Option.map_eq_none_iff, List.getLast?_eq_none_iff] at hlast
  have hacks : handled.filter (fun e => decide (e.2.type = .registerAck)) = [] := by
    rw [List.filter_eq_nil_iff] at hnone ⊢
    intro e he hack
    exact hnone e he (decide_eq_true (h e he (of_decide_eq_true hack)))
  rw [incarnation, hacks]
  rfl

section Binding

variable {conn : Connection} {handled : List (Message × Message)}

theorem Binds.of_same {conn' : Connection} (h : Binds conn handled)
    (hbound : conn'.workerBound = conn.workerBound)
    (hworker : conn'.connectedWorker = conn.connectedWorker) : Binds conn' handled where
  bound := hbound.trans h.bound
  named := fun msg hmsg => hworker.trans (h.named msg hmsg)

theorem Binds.dropped (h : Binds conn handled) : Binds conn.dropped handled := by
  unfold Connection.dropped
  split
  · exact h.of_same rfl rfl
  · exact h

theorem Binds.closed (h : Binds conn handled) (running : Bool) (now : Timestamp) :
    Binds (conn.closed running now) handled := by
  unfold Connection.closed
  split
  · exact h.of_same rfl rfl
  · exact h

theorem Binds.marked (h : Binds conn handled) : Binds conn.marked handled := by
  unfold Connection.marked
  split
  · exact h.of_same rfl rfl
  · exact h

theorem Binds.received (h : Binds conn handled) (hphase : conn.phase = .reading)
    (msg reply : Message) : Binds (conn.received msg) (handled ++ [(msg, reply)]) := by
  by_cases htype : msg.type = .register
  · have hlast : lastRegister (handled ++ [(msg, reply)]) = some msg := by
      rw [lastRegister_concat, if_pos htype]
    rw [Connection.received, if_pos ⟨hphase, htype⟩]
    refine ⟨by rw [hlast]; rfl, ?_⟩
    intro msg' hmsg'
    rw [hlast] at hmsg'
    rw [← Option.some.inj hmsg']
  · have hlast : lastRegister (handled ++ [(msg, reply)]) = lastRegister handled := by
      rw [lastRegister_concat, if_neg htype]
    rw [Connection.received, if_neg fun hc => htype hc.2]
    refine ⟨?_, ?_⟩
    · rw [hlast]
      exact h.bound
    · intro msg' hmsg'
      rw [hlast] at hmsg'
      exact h.named msg' hmsg'

end Binding

/-! ## Every step keeps the invariant -/

theorem phase_dropped {conn : Connection} (hphase : conn.phase = .reading) :
    conn.dropped.phase = .ended := by
  rw [Connection.dropped, if_pos hphase]

theorem phase_received {conn : Connection} (hphase : conn.phase = .reading) (msg : Message) :
    (conn.received msg).phase = .reading := by
  unfold Connection.received
  split <;> exact hphase

theorem Tracks.push {h : Handler} (ht : h.Tracks) (hphase : h.conn.phase = .reading)
    (hdecoded : Decoded h.frames h.handled) (data : ByteString) : (h.push data).Tracks := by
  have hconserved : h.received ++ data = encodeFrames h.frames ++ (h.dec ++ data) := by
    rw [ht.conserved, List.append_assoc]
  rcases push_cases h data with ⟨hpush, hwaits⟩ | ⟨frame, rest, hpush, hready⟩ | ⟨perr, hpush, -⟩
  · rw [hpush]
    exact ⟨hconserved, ht.bounded, .receiving hphase rfl hdecoded hwaits, ht.binds, ht.acked⟩
  · obtain ⟨hspelled, -, -⟩ := lawful_feed.yields _ _ _ hready
    rw [hpush]
    refine ⟨?_, ?_, .ready frame h.frames hphase rfl rfl hdecoded, ht.binds, ht.acked⟩
    · show h.received ++ data = encodeFrames (h.frames ++ [frame]) ++ rest
      rw [hconserved, hspelled, encodeFrames, encodeFrames, List.flatMap_append,
        List.flatMap_singleton, List.append_assoc]
    · intro f hf
      rcases List.mem_append.mp hf with hf | hf
      · exact ht.bounded f hf
      · rw [List.mem_singleton.mp hf]
        exact payload_le_of_ready hready
  · rw [hpush]
    exact ⟨hconserved, ht.bounded, .left (phase_dropped hphase), ht.binds.dropped, ht.acked⟩

/-- A message has been dispatched, whatever that has done to the coordinator. -/
theorem Tracks.answered {h : Handler} (ht : h.Tracks) (hphase : h.conn.phase = .reading)
    {frame : Frame} (hplace : h.place = .ready frame) {msg : Message}
    (hmsg : decodeMessage frame.payload = .ok msg) (c : Coordinator) {reply : Message}
    (hacked : reply.type = .registerAck → msg.type = .register) :
    Tracks { h with
      coordinator := c
      conn := h.conn.received msg
      place := .again
      handled := h.handled ++ [(msg, reply)] } := by
  obtain ⟨before, hframes, hdecoded⟩ := ht.position.of_ready hphase hplace
  refine ⟨ht.conserved, ht.bounded, .again (phase_received hphase msg) rfl ?_,
    ht.binds.received hphase msg _, ?_⟩
  · show Decoded h.frames (h.handled ++ [(msg, reply)])
    rw [hframes]
    exact List.rel_append hdecoded (.cons hmsg .nil)
  · intro e he hack
    rcases List.mem_append.mp he with he | he
    · exact ht.acked e he hack
    · rw [List.mem_singleton.mp he] at hack ⊢
      exact hacked hack

/-- The handler returns, with a farewell. -/
theorem Tracks.drop {h : Handler} (ht : h.Tracks) (hphase : h.conn.phase = .reading)
    (reason : ByteString) : (h.drop reason).Tracks :=
  ⟨ht.conserved, ht.bounded, .left (phase_dropped hphase), ht.binds.dropped, ht.acked⟩

theorem Tracks.handle {h : Handler} (ht : h.Tracks) (hphase : h.conn.phase = .reading)
    {frame : Frame} (hplace : h.place = .ready frame) (now : Timestamp) (io : FileOutcomes) :
    (h.handle now io frame).Tracks := by
  unfold Handler.handle
  cases hmsg : decodeMessage frame.payload with
  | error err => exact ht.drop hphase err.message
  | ok msg => exact ht.answered hphase hplace hmsg _ Coordinator.type_of_registerAck

/-- What other threads do. -/
theorem Tracks.outside {h : Handler} (ht : h.Tracks) (c : Coordinator) (running : Bool) :
    Tracks { h with coordinator := c, running := running } := by
  refine ⟨ht.conserved, ht.bounded, ?_, ht.binds, ht.acked⟩
  cases ht.position with
  | receiving hphase hplace hdecoded hwaits => exact .receiving hphase hplace hdecoded hwaits
  | ready frame before hphase hplace hframes hdecoded =>
    exact .ready frame before hphase hplace hframes hdecoded
  | again hphase hplace hdecoded => exact .again hphase hplace hdecoded
  | marking now hphase hdecoded hwaits => exact .marking now hphase hdecoded hwaits
  | left hphase => exact .left hphase

/-- At the end of the loop the decoder waits, or it is the end of the
process. -/
theorem Tracks.closed {h : Handler} (ht : h.Tracks) (hphase : h.conn.phase = .reading)
    (hplace : h.place = .receiving) (now : Timestamp) :
    Tracks { h with conn := h.conn.closed h.running now } := by
  refine ⟨ht.conserved, ht.bounded, ?_, ht.binds.closed h.running now, ht.acked⟩
  obtain ⟨hdecoded, hwaits⟩ := ht.position.of_receiving hphase hplace
  by_cases hbound : (h.conn.workerBound && h.running) = true
  · refine .marking now ?_ hdecoded hwaits
    show (h.conn.closed h.running now).phase = .marking now
    rw [Connection.closed, if_pos hphase, if_pos hbound]
  · refine .left ?_
    show (h.conn.closed h.running now).phase = .ended
    rw [Connection.closed, if_pos hphase, if_neg hbound]

theorem Tracks.step {h : Handler} (ht : h.Tracks) (m : Move) : (h.step m).Tracks := by
  cases step_cases h m with
  | outside c running he =>
    rw [he]
    exact ht.outside c running
  | closes now hphase hplace he =>
    rw [he]
    exact ht.closed hphase hplace now
  | fed data hphase hplace he =>
    rw [he]
    exact ht.push hphase (ht.position.decoded hphase hplace) data
  | handled now io frame hphase hplace he =>
    rw [he]
    exact ht.handle hphase hplace now io
  | marked now hphase he =>
    rw [he]
    refine ⟨ht.conserved, ht.bounded, .left ?_, ht.binds.marked, ht.acked⟩
    show h.conn.marked.phase = .ended
    rw [Connection.marked, hphase]

theorem tracks_start (c : Coordinator) : (start c).Tracks where
  conserved := rfl
  bounded := List.forall_mem_nil _
  position := .receiving rfl rfl .nil rfl
  binds := ⟨rfl, fun _ hmsg => by cases hmsg⟩
  acked := List.forall_mem_nil _

/-- In every interleaving, the handler is where the bytes have led it. -/
theorem tracks_run (c : Coordinator) (moves : List Move) : ((start c).run moves).Tracks := by
  induction moves using List.reverseRecOn with
  | nil => exact tracks_start c
  | append_singleton rest m ih =>
    rw [run, Run.run_concat]
    exact ih.step m

/-! ## The return -/

/-- What the frames so far and the buffer mean together. -/
theorem Tracks.drain {h : Handler} (ht : h.Tracks) {more : List Frame}
    {last : Answer Frame ByteString} (hdec : Scans feed h.dec more last) :
    (GpuFleet.drain [h.received]).emitted = h.frames ++ more ∧
      (GpuFleet.drain [h.received]).last = last := by
  apply drain_of_scans
  rw [ht.conserved]
  exact scans_append ht.bounded hdec

/-- The handler leaves its loops with `return`, or it has nobody to mark. -/
structure Unmarked (h h' : Handler) : Prop where
  store : h'.store = h.store
  handled : h'.handled = h.handled
  why : ¬StreamDecodes h'.received ∨ h.conn.workerBound = false

/-- A frame without a message spoils the stream, whatever follows it. -/
theorem Tracks.not_decodes_of_frame {h : Handler} (ht : h.Tracks) {f : Frame} (hf : f ∈ h.frames)
    {err : Error} (hmsg : decodeMessage f.payload = .error err) : ¬StreamDecodes h.received := by
  intro hdecodes
  have hrest := scans_drain [h.dec]
  rw [List.flatten_singleton] at hrest
  obtain ⟨msg, hok⟩ := hdecodes.2 f (by
    rw [(ht.drain hrest).1]
    exact List.mem_append_left _ hf)
  rw [hmsg] at hok
  cases hok

theorem Tracks.not_decodes_of_error {h : Handler} (ht : h.Tracks) {perr : ByteString}
    (hdec : (feed [] h.dec).1 = .error perr) : ¬StreamDecodes h.received := by
  intro hdecodes
  have hlast := (ht.drain (.fails hdec)).2
  rw [hdecodes.1] at hlast
  cases hlast

theorem Tracks.decodes {h : Handler} (ht : h.Tracks) (hdecoded : Decoded h.frames h.handled)
    (hwaits : (feed [] h.dec).1 = .needMore) : StreamDecodes h.received := by
  obtain ⟨hemitted, hlast⟩ := ht.drain (.waits hwaits)
  refine ⟨hlast, ?_⟩
  rw [hemitted, List.append_nil]
  exact hdecoded.message

/-- The two ways in which the handler returns while the coordinator is
running. -/
theorem return_cases {h : Handler} {m : Move} (ht : h.Tracks) (hopen : ¬h.Returned)
    (hreturned : (h.step m).Returned) (hrunning : h.running = true) :
    h.Unmarked (h.step m) ∨
      (StreamDecodes (h.step m).received ∧ (h.step m).handled = h.handled ∧
        ∃ now, (h.step m).store = (h.store.markWorkerLost h.conn.connectedWorker now).store) := by
  have ht' := ht.step m
  cases step_cases h m with
  | outside c running he =>
    rw [he] at hreturned
    exact absurd hreturned hopen
  | closes now hphase hplace he =>
    rw [he] at hreturned ⊢
    refine Or.inl ⟨rfl, rfl, Or.inr ?_⟩
    by_contra hbound
    have hmarking : (h.conn.closed h.running now).phase = .marking now := by
      rw [Connection.closed, if_pos hphase, hrunning, Bool.eq_true_of_not_eq_false hbound]
      rfl
    cases hmarking.symm.trans hreturned
  | fed data hphase hplace he =>
    rw [he] at hreturned ht' ⊢
    rcases push_cases h data with ⟨hpush, -⟩ | ⟨frame, rest, hpush, -⟩ | ⟨perr, hpush, hfails⟩
    · rw [hpush] at hreturned
      cases hphase.symm.trans hreturned
    · rw [hpush] at hreturned
      cases hphase.symm.trans hreturned
    · rw [hpush] at ht' ⊢
      exact Or.inl ⟨rfl, rfl, Or.inl (ht'.not_decodes_of_error hfails)⟩
  | handled now io frame hphase hplace he =>
    rw [he] at hreturned ht' ⊢
    unfold Handler.handle at hreturned ht' ⊢
    cases hmsg : decodeMessage frame.payload with
    | error err =>
      rw [hmsg] at ht'
      obtain ⟨before, hframes, -⟩ := ht.position.of_ready hphase hplace
      have hframe : frame ∈ h.frames := by
        rw [hframes]
        exact List.mem_append_right before (List.mem_singleton_self frame)
      exact Or.inl ⟨rfl, rfl, Or.inl (ht.not_decodes_of_frame hframe hmsg)⟩
    | ok msg =>
      rw [hmsg] at hreturned
      cases (phase_received hphase msg).symm.trans hreturned
  | marked now hphase he =>
    rw [he]
    obtain ⟨hdecoded, hwaits⟩ := ht.position.of_marking hphase
    exact Or.inr ⟨ht.decodes hdecoded hwaits, rfl, now, rfl⟩

theorem markWorkerLost_marked {s : FleetStateStore} {w : WorkerId} {now : Timestamp}
    {wr : WorkerRecord} (h : (s.markWorkerLost w now).store.workers[w]? = some wr) :
    wr.lost = true := by
  rcases s.markWorkerLost_cases w now with ⟨hnone, hdone⟩ | ⟨wr', -, hdone⟩
  · rw [hdone.store, hnone] at h
    cases h
  · rw [hdone.store, Std.ExtTreeMap.getElem?_insert_self] at h
    rw [← Option.some.inj h]

theorem markWorkerLost_others (s : FleetStateStore) {w w' : WorkerId} (hne : w ≠ w')
    (now : Timestamp) : (s.markWorkerLost w now).store.workers[w']? = s.workers[w']? := by
  rcases s.markWorkerLost_cases w now with ⟨-, hdone⟩ | ⟨wr', -, hdone⟩
  · rw [hdone.store]
  · rw [hdone.store]
    exact OrderedMap.getElem?_insert_of_ne hne _

/-- In every run, and however the handler returns while the coordinator is
running: the end of the connection is noticed exactly when there is nothing to
notice any more, or all bytes that came in were messages and the last REGISTER
names the worker it should. -/
theorem noticed_iff (c : Coordinator) (moves : List Move) (m : Move)
    (hopen : ¬((start c).run moves).Returned)
    (hreturned : (((start c).run moves).step m).Returned)
    (hrunning : ((start c).run moves).running = true) :
    (((start c).run moves).step m).Noticed ↔
      ((start c).run moves).Noticed ∨
        (StreamDecodes (((start c).run moves).step m).received ∧
          (((start c).run moves).step m).Named) := by
  have ht : ((start c).run moves).Tracks := tracks_run c moves
  generalize (start c).run moves = h at ht hopen hreturned hrunning ⊢
  rcases return_cases ht hopen hreturned hrunning with
    ⟨hstore, hhandled, hwhy⟩ | ⟨hdecodes, hhandled, now, hstore⟩
  · have hsame : (h.step m).Noticed ↔ h.Noticed := by
      unfold Noticed
      rw [hstore, hhandled]
    rw [hsame]
    refine ⟨Or.inl, ?_⟩
    rintro (hnoticed | ⟨hdecodes, -⟩)
    · exact hnoticed
    · rcases hwhy with hbad | hunbound
      · exact absurd hdecodes hbad
      · -- no REGISTER was dispatched, so there is no incarnation
        intro w b wr hinc
        rw [ht.binds.bound, Option.isSome_eq_false_iff, Option.isNone_iff_eq_none] at hunbound
        rw [ht.acked.incarnation_eq_none hunbound] at hinc
        cases hinc
  · constructor
    · intro hnoticed
      by_cases hnamed : (h.step m).Named
      · exact Or.inr ⟨hdecodes, hnamed⟩
      · -- the worker that is marked is another one
        refine Or.inl ?_
        intro w b wr hinc hwr hboot
        rw [← hhandled] at hinc
        have hne : h.conn.connectedWorker ≠ w := by
          intro hw
          apply hnamed
          intro w' b' hinc'
          obtain ⟨rfl, -⟩ := Prod.mk.inj (Option.some.inj (hinc.symm.trans hinc'))
          rw [hhandled] at hinc ⊢
          cases hlast : lastRegister h.handled with
          | none =>
            rw [ht.acked.incarnation_eq_none hlast] at hinc
            cases hinc
          | some msg => exact ⟨msg, rfl, (ht.binds.named msg hlast).symm.trans hw⟩
        apply hnoticed w b wr hinc _ hboot
        rw [hstore, markWorkerLost_others _ hne]
        exact hwr
    · intro hcondition w b wr hinc hwr hboot
      rw [hstore] at hwr
      by_cases hw : h.conn.connectedWorker = w
      · rw [hw] at hwr
        exact markWorkerLost_marked hwr
      · rcases hcondition with hnoticed | ⟨-, hnamed⟩
        · rw [markWorkerLost_others _ hw] at hwr
          rw [hhandled] at hinc
          exact hnoticed w b wr hinc hwr hboot
        · obtain ⟨msg, hlast, hmsg⟩ := hnamed w b hinc
          rw [hhandled] at hlast
          exact absurd ((ht.binds.named msg hlast).trans hmsg) hw

/-! ## Concrete runs -/

/-- The bytes of a REGISTER of the sample worker. -/
def sampleRegisterBytes : ByteString :=
  encodeFrames [⟨.register, encodeMessage (Process.sampleRegister 1 10)⟩]

/-- The sample worker registers, and more bytes come in the same read. -/
def sampleRegisterAnd (more : ByteString) : Handler :=
  (start (.create {} fun _ => none)).run
    [.receive 0 (.bytes (sampleRegisterBytes ++ more)), .dispatch 1000 {}]

/-- The sample worker registers and closes the connection. -/
def sampleClose : List Move :=
  [.receive 0 (.bytes sampleRegisterBytes), .dispatch 1000 {}, .feed, .receive 2000 (.bytes [])]

theorem sampleRegisterBytes_decode : StreamDecodes sampleRegisterBytes := by
  have hmax : ∀ f ∈ [(⟨.register, encodeMessage (Process.sampleRegister 1 10)⟩ : Frame)],
      f.payload.length ≤ kMaxPayloadLength := by decide +kernel
  obtain ⟨hemitted, hlast⟩ := drain_of_scans (scans_encodeFrames hmax)
  rw [sampleRegisterBytes]
  refine ⟨hlast, ?_⟩
  rw [hemitted]
  intro f hf
  rw [List.mem_singleton.mp hf]
  exact ⟨_, decode_readsAll (readsAll_encodeMessage (by decide +kernel) (by decide +kernel))⟩

/-- Its end is noticed. -/
theorem sampleClose_noticed :
    (((start (.create {} fun _ => none)).run sampleClose).step .mark).Noticed := by
  have hopen : ¬((start (.create {} fun _ => none)).run sampleClose).Returned ∧
      ((start (.create {} fun _ => none)).run sampleClose).running = true := by
    decide +kernel
  have hafter : (((start (.create {} fun _ => none)).run sampleClose).step .mark).Returned ∧
      (((start (.create {} fun _ => none)).run sampleClose).step .mark).received
        = sampleRegisterBytes ∧
      incarnation (((start (.create {} fun _ => none)).run sampleClose).step .mark).handled
        = some (⟨1⟩, ⟨10⟩) ∧
      lastRegister (((start (.create {} fun _ => none)).run sampleClose).step .mark).handled
        = some (Process.sampleRegister 1 10) := by
    decide +kernel
  obtain ⟨hreturned, hbytes, hinc, hlast⟩ := hafter
  refine (noticed_iff _ _ .mark hopen.1 hreturned hopen.2).mpr (Or.inr ⟨?_, ?_⟩)
  · rw [hbytes]
    exact sampleRegisterBytes_decode
  · intro w b hinc'
    obtain ⟨rfl, -⟩ := Prod.mk.inj (Option.some.inj (hinc.symm.trans hinc'))
    exact ⟨_, hlast, rfl⟩

/-- Behind its REGISTER come fifteen bytes that are no frame.  The handler
returns, and the incarnation stays on record, alive. -/
theorem sampleGarbage_not_noticed :
    ((sampleRegisterAnd (List.replicate 15 0)).step .feed).Returned ∧
      ((sampleRegisterAnd (List.replicate 15 0)).step .feed).running = true ∧
      ¬((sampleRegisterAnd (List.replicate 15 0)).step .feed).Noticed := by
  have hafter : ((sampleRegisterAnd (List.replicate 15 0)).step .feed).Returned ∧
      ((sampleRegisterAnd (List.replicate 15 0)).step .feed).running = true ∧
      incarnation ((sampleRegisterAnd (List.replicate 15 0)).step .feed).handled
        = some (⟨1⟩, ⟨10⟩) ∧
      ((sampleRegisterAnd (List.replicate 15 0)).step .feed).store.workers[
        (⟨1⟩ : WorkerId)]?.map (fun wr => (wr.boot, wr.lost)) = some (⟨10⟩, false) := by
    decide +kernel
  obtain ⟨hreturned, hrunning, hinc, hwr⟩ := hafter
  refine ⟨hreturned, hrunning, fun hnoticed => ?_⟩
  obtain ⟨wr, hrecord, hfields⟩ := Option.map_eq_some_iff.mp hwr
  obtain ⟨hboot, hlost⟩ := Prod.mk.inj hfields
  have hmarked := hnoticed ⟨1⟩ ⟨10⟩ wr hinc hrecord hboot
  rw [hlost] at hmarked
  cases hmarked

end Handler

end GpuFleet
