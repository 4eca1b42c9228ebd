import GpuFleet.Coordinator.ConnectionEnds
import GpuFleet.Coordinator.Sections
import GpuFleet.Lib.Channel
import GpuFleet.Transport.Stream

/-!
# A conversation with the coordinator

A peer and the coordinator on one connection, with the bytes that are under
way in both directions.  The peer sends messages with `send_all`, the handler
of the connection reads bytes, decodes, dispatches and replies, and the peer
reads bytes.  Sends are cut short, reads take any number of bytes, the
connection closes or is reset, and other threads of the coordinator make calls
of the store, at any point, also between two critical sections of a dispatch.

The result of `send_all` is ignored, so what is sent after a send that was cut
short may arrive with a hole in front of it.  The channel is spoiled then, and
what follows is about connections on which that does not happen.

`dispatched_in_order` says what the coordinator makes of the requests: it
dispatches a beginning of the messages that the peer sent, each once and in
order, and the sections of each are at points of the run, one after the other.
`replies_in_order` is the other direction: the peer reads a beginning of the
replies, and the reply at a place is the one to the request at that place.
-/

namespace GpuFleet

open Incremental FrameDecoder

/-- The size of the buffer that every receive loop has. -/
def kReceiveBuffer : Nat := 64 * 1024

/-- The frame that `send_message` makes of a message. -/
def Message.frame (m : Message) : Frame := ⟨m.type, encodeMessage m⟩

/-- The message can be received. -/
structure Message.Carried (m : Message) : Prop where
  reason : m.reason.length ≤ 4096
  size : 106 + m.reason.length + m.payload.length ≤ kMaxPayloadLength

instance (m : Message) : Decidable m.Carried :=
  decidable_of_iff
    (m.reason.length ≤ 4096 ∧ 106 + m.reason.length + m.payload.length ≤ kMaxPayloadLength)
    ⟨fun h => ⟨h.1, h.2⟩, fun h => ⟨h.reason, h.size⟩⟩

/-- All that a handler has sent so far. -/
def Handler.said (h : Handler) : List Message := h.handled.map Prod.snd ++ h.farewell.toList

/-- The end of a dispatch, with the reply that it has come to. -/
def Handler.answered (h : Handler) (msg reply : Message) : Handler :=
  { h with
    conn := h.conn.received msg
    place := .again
    handled := h.handled ++ [(msg, reply)] }

/-- The store is another one now. -/
def Handler.withStore (h : Handler) (s : FleetStateStore) : Handler :=
  { h with coordinator := h.coordinator.withStore s }

/-- A dispatch that has begun: its message, the reading of the clock and what the
file system does in it, and what is left of it. -/
structure Work where
  msg : Message
  now : Timestamp
  io : FileOutcomes
  left : Sections

/-- A peer, its connection, and the handler of the connection. -/
structure Conversation where
  handler : Handler
  /-- The dispatch that the handler is in. -/
  work : Option Work := none
  /-- The messages that the peer has handed to `send_all`. -/
  sent : List Message := []
  requests : Channel UInt8 := {}
  replies : Channel UInt8 := {}

/-- A step of the peer, of the handler, of the network or of another
thread. -/
inductive Exchange
  /-- The peer sends a message, with these calls of `::send`. -/
  | send (msg : Message) (calls : List TcpStream.SendCall)
  /-- The handler receives bytes that are under way. -/
  | deliver (now : Timestamp) (count : Nat) (calls : List TcpStream.SendCall)
  /-- Nothing can be received any more: a clean close or a reset. -/
  | disconnect (now : Timestamp) (clean : Bool)
  /-- `decode_message`, and the beginning of `dispatch`. -/
  | decode (now : Timestamp) (io : FileOutcomes) (calls : List TcpStream.SendCall)
  /-- The next critical section of the dispatch. -/
  | enter
  /-- The end of the dispatch, where the reply is sent. -/
  | reply (calls : List TcpStream.SendCall)
  | feed (calls : List TcpStream.SendCall)
  | mark
  | stop
  /-- A call of the store in another thread. -/
  | others (op : Op)
  /-- The disk is another one now. -/
  | files (disk : Disk)
  /-- The peer receives bytes that are under way. -/
  | collect (count : Nat)

namespace Conversation

/-- A call of `send_all` on an open stream. -/
def transmit (channel : Channel UInt8) (data : ByteString) (calls : List TcpStream.SendCall) :
    Channel UInt8 :=
  channel.write data (TcpStream.sendLoop data calls).written.length

/-- The handler goes on, and sends the message that is new in what it says, if
any. -/
def put (s : Conversation) (handler : Handler) (calls : List TcpStream.SendCall) : Conversation :=
  { s with
    handler := handler
    replies := match handler.said.drop s.handler.said.length with
      | [] => s.replies
      | msg :: _ => transmit s.replies (sendMessage msg) calls }

/-- The handler is in `recv_some_opt`. -/
def listening (h : Handler) : Bool :=
  match h.conn.phase, h.place with
  | .reading, .receiving => h.running
  | _, _ => false

/-- The handler goes on from a frame that is ready. -/
def decode (s : Conversation) (now : Timestamp) (io : FileOutcomes)
    (calls : List TcpStream.SendCall) : Conversation :=
  match s.handler.conn.phase, s.handler.place, s.work with
  | .reading, .ready frame, none =>
    match decodeMessage frame.payload with
    | .error err => s.put (s.handler.drop err.message) calls
    | .ok msg =>
      { s with work := some ⟨msg, now, io,
        Coordinator.dispatchSections s.handler.coordinator.opts now io msg⟩ }
  | _, _, _ => s

/-- The handler enters the next section. -/
def enter (s : Conversation) : Conversation :=
  match s.work with
  | some ⟨msg, now, io, .access a next⟩ =>
    { s with
      handler := s.handler.withStore (a.apply s.handler.store)
      work := some ⟨msg, now, io, next s.handler.store⟩ }
  | _ => s

/-- The handler leaves `dispatch`. -/
def reply (s : Conversation) (calls : List TcpStream.SendCall) : Conversation :=
  match s.work with
  | some ⟨msg, _, _, .done reply⟩ =>
    { s.put (s.handler.answered msg reply) calls with work := none }
  | _ => s

/-- One step of the peer, the handler, the network or another thread. -/
def step (s : Conversation) : Exchange → Conversation
  | .send msg calls =>
    { s with
      sent := s.sent ++ [msg]
      requests := transmit s.requests (sendMessage msg) calls }
  | .deliver now count calls =>
    let count := min count kReceiveBuffer
    if !listening s.handler || (s.requests.front count).isEmpty then s
    else
      ({ s with requests := s.requests.take count } : Conversation).put
        (s.handler.step (.receive now (.bytes (s.requests.front count)))) calls
  | .disconnect now clean =>
    s.put (s.handler.step (.receive now (if clean then .bytes [] else .failed))) []
  | .decode now io calls => s.decode now io calls
  | .enter => s.enter
  | .reply calls => s.reply calls
  | .feed calls => s.put (s.handler.step .feed) calls
  | .mark => s.put (s.handler.step .mark) []
  | .stop => s.put (s.handler.step .stop) []
  | .others op => { s with handler := s.handler.withStore (s.handler.store.step op) }
  | .files disk =>
    { s with
      handler := { s.handler with coordinator := { s.handler.coordinator with disk := disk } } }
  | .collect count => { s with replies := s.replies.take (min count kReceiveBuffer) }

/-- A connection that was just accepted. -/
def start (c : Coordinator) : Conversation where
  handler := .start c

/-- Steps of everybody, in their order. -/
def run (s : Conversation) (steps : List Exchange) : Conversation := Run.run step s steps

/-- The messages that the peer sends in a run. -/
def sends : List Exchange → List Message :=
  List.filterMap fun
    | .send msg _ => some msg
    | _ => none

end Conversation

/-! ## What the handler makes of the bytes -/

theorem Message.Carried.payload_le {m : Message} (h : m.Carried) :
    m.payload.length ≤ kMaxBytesLen := by
  have hsize := h.size
  have hbound : kMaxPayloadLength ≤ kMaxBytesLen := by decide
  omega

theorem Message.Carried.decode {m : Message} (h : m.Carried) :
    decodeMessage m.frame.payload = .ok m :=
  decode_readsAll (readsAll_encodeMessage h.reason h.payload_le)

theorem Message.Carried.frame_le {m : Message} (h : m.Carried) :
    m.frame.payload.length ≤ kMaxPayloadLength := by
  have hsize := h.size
  rw [← length_encodeMessage h.reason] at hsize
  exact hsize

/-- A stream of messages that can be received means just these messages. -/
theorem scans_messages {msgs : List Message} (h : ∀ m ∈ msgs, m.Carried) :
    Scans feed (encodeFrames (msgs.map Message.frame)) (msgs.map Message.frame) .needMore := by
  apply scans_encodeFrames
  intro f hf
  obtain ⟨m, hm, rfl⟩ := List.mem_map.mp hf
  exact (h m hm).frame_le

namespace Handler

variable {h : Handler} {sent : List Message}

/-- From the beginning of a stream of messages come the frames of the first of
them, and the decoder waits for the next one. -/
theorem Tracks.frames_of_begins (ht : h.Tracks) (hcarried : ∀ m ∈ sent, m.Carried)
    (hreceived : h.received <+: encodeFrames (sent.map Message.frame)) :
    h.frames <+: sent.map Message.frame ∧ ∃ more, Scans feed h.dec more .needMore := by
  obtain ⟨frames, hframes, hscans⟩ :=
    scans_of_begins lawful_feed (scans_messages hcarried) hreceived
  obtain ⟨more, last, hdec⟩ := exists_scans lawful_feed h.dec
  have hall := scans_append ht.bounded hdec
  rw [← ht.conserved] at hall
  obtain ⟨rfl, rfl⟩ := hall.unique hscans
  exact ⟨List.IsPrefix.trans ⟨more, rfl⟩ hframes, more, hdec⟩

/-- The frame that is ready holds the message after those that were
handled. -/
theorem Tracks.next_message (ht : h.Tracks) (hcarried : ∀ m ∈ sent, m.Carried)
    (hreceived : h.received <+: encodeFrames (sent.map Message.frame))
    (horder : h.handled.map Prod.fst <+: sent) (hphase : h.conn.phase = .reading) {frame : Frame}
    (hplace : h.place = .ready frame) :
    ∃ msg, decodeMessage frame.payload = .ok msg ∧ h.handled.map Prod.fst ++ [msg] <+: sent := by
  obtain ⟨before, hframes, hdecoded⟩ := ht.position.of_ready hphase hplace
  obtain ⟨hbegins, -⟩ := ht.frames_of_begins hcarried hreceived
  rw [hframes] at hbegins
  obtain ⟨tail, htail⟩ := hbegins
  -- the messages that were handled are as many as the frames before this one
  have hlength : before.length = (h.handled.map Prod.fst).length := by
    rw [List.length_map]
    exact hdecoded.length_eq
  obtain ⟨rest, hrest⟩ := horder
  have hcount := congrArg List.length htail
  have hsent := congrArg List.length hrest
  simp only [List.length_append, List.length_map, List.length_singleton] at hcount hsent hlength
  cases rest with
  | nil =>
    rw [List.length_nil] at hsent
    omega
  | cons msg rest =>
    have hframe : msg.frame = frame := by
      rw [← hrest, List.map_append, List.append_assoc] at htail
      have hright := List.append_inj_right htail (by
        rw [List.length_map, List.length_map, hlength])
      exact (List.cons.inj hright).1.symm
    have hmsg : msg ∈ sent := by
      rw [← hrest]
      exact List.mem_append_right _ List.mem_cons_self
    refine ⟨msg, ?_, rest, ?_⟩
    · rw [← hframe]
      exact (hcarried msg hmsg).decode
    · rw [List.append_assoc, List.singleton_append]
      exact hrest

/-- While a frame is ready, nothing but its dispatch moves the handler. -/
theorem step_of_ready {frame : Frame} (hphase : h.conn.phase = .reading)
    (hplace : h.place = .ready frame) {m : Move} (hm : ∀ now io, m ≠ .dispatch now io) :
    (h.step m).conn = h.conn ∧ (h.step m).place = h.place := by
  cases m with
  | dispatch now io => exact absurd rfl (hm now io)
  | stop => exact ⟨rfl, rfl⟩
  | others e => exact ⟨rfl, rfl⟩
  | _ => simp [step, hphase, hplace]

/-- What a move other than a dispatch does, as long as the bytes are those of the
messages. -/
theorem Tracks.step_quiet (ht : h.Tracks) {m : Move} (hm : ∀ now io, m ≠ .dispatch now io)
    (hcarried : ∀ m ∈ sent, m.Carried)
    (hreceived : (h.step m).received <+: encodeFrames (sent.map Message.frame)) :
    (h.step m).farewell = h.farewell ∧ (h.step m).handled = h.handled := by
  have ht' := ht.step m
  cases step_cases h m with
  | outside c running he =>
    rw [he]
    exact ⟨rfl, rfl⟩
  | closes now _ _ he =>
    rw [he]
    exact ⟨rfl, rfl⟩
  | fed data _ _ he =>
    rw [he] at ht' hreceived ⊢
    rcases push_cases h data with ⟨hpush, -⟩ | ⟨frame, rest, hpush, -⟩ | ⟨perr, hpush, hfails⟩
    · rw [hpush]
      exact ⟨rfl, rfl⟩
    · rw [hpush]
      exact ⟨rfl, rfl⟩
    · -- the decoder waits on the beginning of such a stream
      rw [hpush] at ht' hreceived
      obtain ⟨-, more, hdec⟩ := ht'.frames_of_begins hcarried hreceived
      cases (hdec.unique (.fails hfails)).2
  | handled now io frame hphase hplace he =>
    -- only a dispatch leaves this place
    obtain ⟨hconn, hsame⟩ := step_of_ready hphase hplace hm
    rw [he] at hconn hsame
    unfold Handler.handle at hconn hsame
    split at hsame
    · next err hmsg =>
      rw [hmsg] at hconn
      have hended : (h.drop err.message).conn.phase = .ended := phase_dropped hphase
      have hreading : (h.drop err.message).conn.phase = .reading := by
        rw [← hphase]
        exact congrArg Connection.phase hconn
      cases hreading.symm.trans hended
    · rw [hplace] at hsame
      cases hsame
  | marked now _ he =>
    rw [he]
    exact ⟨rfl, rfl⟩

theorem received_push (h : Handler) (data : ByteString) :
    (h.push data).received = h.received ++ data := by
  rcases push_cases h data with ⟨hpush, -⟩ | ⟨frame, rest, hpush, -⟩ | ⟨perr, hpush, -⟩
  · rw [hpush]
  · rw [hpush]
  · rw [hpush]

/-- Only a receive adds to what was received. -/
theorem received_step {m : Move} (hdispatch : ∀ now io, m ≠ .dispatch now io)
    (hm : ∀ now data, m = .receive now (.bytes data) → data = []) :
    (h.step m).received = h.received := by
  cases m with
  | receive now recv =>
    simp only [step]
    split
    · split
      · cases recv with
        | failed => rfl
        | nothing => rfl
        | bytes data =>
          rw [hm now data rfl]
          rfl
      · rfl
    · rfl
  | dispatch now io => exact absurd rfl (hdispatch now io)
  | feed =>
    simp only [step]
    split
    · rw [received_push, List.append_nil]
    · rfl
  | mark =>
    simp only [step]
    split <;> rfl
  | stop => rfl
  | others e => rfl

/-- A handler that listens takes what there is. -/
theorem received_deliver (hlisten : Conversation.listening h = true) (now : Timestamp)
    {data : ByteString} (hdata : data ≠ []) :
    (h.step (.receive now (.bytes data))).received = h.received ++ data := by
  unfold Conversation.listening at hlisten
  split at hlisten
  · next hphase hplace =>
    have hempty : data.isEmpty = false := by
      rw [List.isEmpty_eq_false_iff]
      exact hdata
    simp only [step, hphase, hplace, hlisten, if_true, receive, hempty, Bool.false_eq_true,
      if_false, received_push]
  · cases hlisten

end Handler

/-! ## The invariant -/

theorem encodeFrames_concat (frames : List Frame) (f : Frame) :
    encodeFrames (frames ++ [f]) = encodeFrames frames ++ encodeFrame f.type f.payload := by
  rw [encodeFrames, List.flatMap_append, List.flatMap_singleton]
  rfl

namespace Conversation

/-- What is known of the handler in a dispatch. -/
structure Busy (h : Handler) (w : Work) : Prop where
  phase : h.conn.phase = .reading
  frame : ∃ frame, h.place = .ready frame ∧ decodeMessage frame.payload = .ok w.msg
  left : w.left.Every (Coordinator.ReplyTo w.msg)

/-- What holds of a connection at any time, if all that the peer sends can be
received and the requests are not spoiled. -/
structure Sound (s : Conversation) : Prop where
  tracks : s.handler.Tracks
  requests : s.requests.Sound
  replies : s.replies.Sound
  busy : ∀ w, s.work = some w → Busy s.handler w
  carried : ∀ m ∈ s.sent, m.Carried
  offered : s.requests.offered = encodeFrames (s.sent.map Message.frame)
  received : s.handler.received = s.requests.taken
  quiet : s.handler.farewell = none
  inOrder : s.handler.handled.map Prod.fst <+: s.sent
  answered : ∀ e ∈ s.handler.handled, Coordinator.ReplyTo e.1 e.2
  said : s.replies.offered = encodeFrames (s.handler.said.map Message.frame)
  writes : s.replies.writes = s.handler.handled.length

theorem sound_transmit {channel : Channel UInt8} (h : channel.Sound) (data : ByteString)
    (calls : List TcpStream.SendCall) : (transmit channel data calls).Sound :=
  h.write data _

theorem sound_start (c : Coordinator) : (start c).Sound where
  tracks := Handler.tracks_start c
  requests := Channel.sound_new
  replies := Channel.sound_new
  busy := fun w hw => by cases hw
  carried := List.forall_mem_nil _
  offered := rfl
  received := rfl
  quiet := rfl
  inOrder := ⟨[], rfl⟩
  answered := List.forall_mem_nil _
  said := rfl
  writes := rfl

/-- What the handler has received is a beginning of the messages. -/
theorem Sound.begins {s : Conversation} (h : s.Sound) (hspoiled : s.requests.spoiled = false) :
    s.handler.received <+: encodeFrames (s.sent.map Message.frame) := by
  rw [h.received, ← h.offered]
  exact h.requests.taken_begins hspoiled

theorem Sound.said_eq {s : Conversation} (h : s.Sound) :
    s.handler.said = s.handler.handled.map Prod.snd := by
  rw [Handler.said, h.quiet, Option.toList_none, List.append_nil]

/-- A step of the handler in which it sends nothing. -/
theorem Sound.put_same {s : Conversation} (h : s.Sound) {handler : Handler}
    {requests : Channel UInt8} (hrequests : requests.Sound)
    (hoffered : requests.offered = s.requests.offered) (htracks : handler.Tracks)
    (hreceived : handler.received = requests.taken) (hquiet : handler.farewell = none)
    (hhandled : handler.handled = s.handler.handled)
    (hbusy : ∀ w, s.work = some w → Busy handler w) (calls : List TcpStream.SendCall) :
    (({ s with requests := requests } : Conversation).put handler calls).Sound := by
  have hsaid : handler.said = s.handler.said := by
    rw [Handler.said, hhandled, hquiet, h.said_eq, Option.toList_none, List.append_nil]
  have hput : ({ s with requests := requests } : Conversation).put handler calls
      = { s with requests := requests, handler := handler } := by
    unfold put
    simp only [hsaid, List.drop_length]
  rw [hput]
  exact {
    tracks := htracks
    requests := hrequests
    replies := h.replies
    busy := hbusy
    carried := h.carried
    offered := hoffered.trans h.offered
    received := hreceived
    quiet := hquiet
    inOrder := by rw [hhandled]; exact h.inOrder
    answered := by rw [hhandled]; exact h.answered
    said := by rw [hsaid]; exact h.said
    writes := by rw [hhandled]; exact h.writes }

/-- A move that is not a dispatch. -/
theorem Sound.move {s : Conversation} (h : s.Sound) {m : Move}
    (hm : ∀ now io, m ≠ .dispatch now io) {requests : Channel UInt8} (hrequests : requests.Sound)
    (hoffered : requests.offered = s.requests.offered) (hspoiled : requests.spoiled = false)
    (hreceived : (s.handler.step m).received = requests.taken) (calls : List TcpStream.SendCall) :
    (({ s with requests := requests } : Conversation).put (s.handler.step m) calls).Sound := by
  have hbytes : (s.handler.step m).received <+: encodeFrames (s.sent.map Message.frame) := by
    rw [hreceived, ← h.offered, ← hoffered]
    exact hrequests.taken_begins hspoiled
  obtain ⟨hquiet, hhandled⟩ := h.tracks.step_quiet hm h.carried hbytes
  apply h.put_same hrequests hoffered (h.tracks.step m) hreceived (hquiet.trans h.quiet) hhandled
  intro w hw
  obtain ⟨hphase, ⟨frame, hplace, hmsg⟩, hleft⟩ := h.busy w hw
  obtain ⟨hconn, hsame⟩ := Handler.step_of_ready hphase hplace hm
  refine ⟨?_, ⟨frame, hsame.trans hplace, hmsg⟩, hleft⟩
  rw [hconn]
  exact hphase

/-- A move in which the handler receives nothing. -/
theorem Sound.move_same {s : Conversation} (h : s.Sound) {m : Move}
    (hdispatch : ∀ now io, m ≠ .dispatch now io) (hspoiled : s.requests.spoiled = false)
    (hm : ∀ now data, m = .receive now (.bytes data) → data = [])
    (calls : List TcpStream.SendCall) : (s.put (s.handler.step m) calls).Sound :=
  h.move hdispatch h.requests rfl hspoiled
    ((Handler.received_step hdispatch hm).trans h.received) calls

/-- What is outside of the connection changes nothing in it. -/
theorem Sound.outside {s : Conversation} (h : s.Sound) (c : Coordinator) {work : Option Work}
    (hwork : ∀ w', work = some w' → ∃ w, s.work = some w ∧ w'.msg = w.msg ∧
      (w.left.Every (Coordinator.ReplyTo w.msg) → w'.left.Every (Coordinator.ReplyTo w.msg))) :
    ({ s with handler := { s.handler with coordinator := c }, work := work } :
      Conversation).Sound where
  tracks := h.tracks.outside c s.handler.running
  requests := h.requests
  replies := h.replies
  busy := by
    intro w' hw'
    obtain ⟨w, hw, hmsg, hleft⟩ := hwork w' hw'
    have hbusy := h.busy w hw
    refine ⟨hbusy.phase, ?_, ?_⟩
    · rw [hmsg]
      exact hbusy.frame
    · rw [hmsg]
      exact hleft hbusy.left
  carried := h.carried
  offered := h.offered
  received := h.received
  quiet := h.quiet
  inOrder := h.inOrder
  answered := h.answered
  said := h.said
  writes := h.writes

/-- The message of the dispatch is the one after those that were handled. -/
theorem Sound.next {s : Conversation} (h : s.Sound) (hspoiled : s.requests.spoiled = false)
    {w : Work} (hw : s.work = some w) : s.handler.handled.map Prod.fst ++ [w.msg] <+: s.sent := by
  obtain ⟨hphase, ⟨frame, hplace, hmsg⟩, -⟩ := h.busy w hw
  obtain ⟨msg, hdecode, hnext⟩ :=
    h.tracks.next_message h.carried (h.begins hspoiled) h.inOrder hphase hplace
  rw [hmsg] at hdecode
  rw [Except.ok.inj hdecode]
  exact hnext

theorem Sound.decode {s : Conversation} (h : s.Sound) (hspoiled : s.requests.spoiled = false)
    (now : Timestamp) (io : FileOutcomes) (calls : List TcpStream.SendCall) :
    (s.decode now io calls).Sound := by
  unfold Conversation.decode
  split
  · next frame hphase hplace hnone =>
    obtain ⟨msg, hdecode, -⟩ :=
      h.tracks.next_message h.carried (h.begins hspoiled) h.inOrder hphase hplace
    rw [hdecode]
    exact {
      tracks := h.tracks
      requests := h.requests
      replies := h.replies
      busy := by
        intro w hw
        cases hw
        exact ⟨hphase, ⟨frame, hplace, hdecode⟩, Coordinator.every_dispatchSections _ now io msg⟩
      carried := h.carried
      offered := h.offered
      received := h.received
      quiet := h.quiet
      inOrder := h.inOrder
      answered := h.answered
      said := h.said
      writes := h.writes }
  · exact h

theorem Sound.enter {s : Conversation} (h : s.Sound) : s.enter.Sound := by
  unfold Conversation.enter
  split
  · next msg now io a next hw =>
    apply h.outside
    intro w' hw'
    cases hw'
    exact ⟨_, hw, rfl, fun hevery => hevery s.handler.store⟩
  · exact h

theorem Sound.reply {s : Conversation} (h : s.Sound) (hspoiled : s.requests.spoiled = false)
    (calls : List TcpStream.SendCall) : (s.reply calls).Sound := by
  unfold Conversation.reply
  split
  · next msg now io reply hw =>
    obtain ⟨hphase, ⟨frame, hplace, hmsg⟩, hreply⟩ := h.busy _ hw
    have hnext := h.next hspoiled hw
    have hsaid : (s.handler.answered msg reply).said = s.handler.said ++ [reply] := by
      rw [h.said_eq, Handler.said, Handler.answered, h.quiet, Option.toList_none, List.append_nil,
        List.map_append]
      rfl
    have hput : s.put (s.handler.answered msg reply) calls
        = { s with
            handler := s.handler.answered msg reply
            replies := transmit s.replies (sendMessage reply) calls } := by
      unfold put
      simp only [hsaid, List.drop_left]
    rw [hput]
    exact {
      tracks := h.tracks.answered hphase hplace hmsg s.handler.coordinator hreply.acked
      requests := h.requests
      replies := sound_transmit h.replies _ calls
      busy := fun w hw => by cases hw
      carried := h.carried
      offered := h.offered
      received := h.received
      quiet := h.quiet
      inOrder := by
        show (s.handler.handled ++ [(msg, reply)]).map Prod.fst <+: s.sent
        rw [List.map_append]
        exact hnext
      answered := by
        intro e he
        rcases List.mem_append.mp he with he | he
        · exact h.answered e he
        · rw [List.mem_singleton.mp he]
          exact hreply
      said := by
        show s.replies.offered ++ sendMessage reply = encodeFrames (_)
        rw [hsaid, List.map_append, List.map_singleton, encodeFrames_concat, h.said]
        rfl
      writes := by
        show s.replies.writes + 1 = (s.handler.handled ++ [(msg, reply)]).length
        rw [List.length_append, h.writes, List.length_singleton] }
  · exact h

/-- A step keeps the invariant. -/
theorem Sound.step {s : Conversation} (h : s.Sound) {i : Exchange}
    (hi : ∀ msg calls, i = .send msg calls → msg.Carried)
    (hspoiled : s.requests.spoiled = false) : (s.step i).Sound := by
  cases i with
  | send msg calls =>
    exact {
      tracks := h.tracks
      requests := sound_transmit h.requests _ calls
      replies := h.replies
      busy := h.busy
      carried := by
        intro m hm
        rcases List.mem_append.mp hm with hm | hm
        · exact h.carried m hm
        · rw [List.mem_singleton.mp hm]
          exact hi msg calls rfl
      offered := by
        show s.requests.offered ++ sendMessage msg
          = encodeFrames ((s.sent ++ [msg]).map Message.frame)
        rw [List.map_append, List.map_singleton, encodeFrames_concat, h.offered]
        rfl
      received := h.received
      quiet := h.quiet
      inOrder := h.inOrder.trans ( List.prefix_append _ _)
      answered := h.answered
      said := h.said
      writes := h.writes }
  | deliver now count calls =>
    simp only [Conversation.step]
    split
    · exact h
    · next hgo =>
      rw [Bool.or_eq_true, not_or, Bool.not_eq_true', Bool.not_eq_false] at hgo
      apply h.move (fun _ _ => Move.noConfusion) (h.requests.take _) rfl hspoiled
      rw [Handler.received_deliver hgo.1 now (by simpa using hgo.2), h.received]
      rfl
  | disconnect now clean =>
    apply h.move_same (fun _ _ => Move.noConfusion) hspoiled
    intro now' data hm
    cases clean with
    | true =>
      cases hm
      rfl
    | false => cases hm
  | decode now io calls => exact h.decode hspoiled now io calls
  | enter => exact h.enter
  | reply calls => exact h.reply hspoiled calls
  | feed calls =>
    apply h.move_same (fun _ _ => Move.noConfusion) hspoiled
    intro now data hm
    cases hm
  | mark =>
    apply h.move_same (fun _ _ => Move.noConfusion) hspoiled
    intro now data hm
    cases hm
  | stop =>
    apply h.move_same (fun _ _ => Move.noConfusion) hspoiled
    intro now data hm
    cases hm
  | others op => exact h.outside _ fun w hw => ⟨w, hw, rfl, id⟩
  | files disk => exact h.outside _ fun w hw => ⟨w, hw, rfl, id⟩
  | collect count =>
    exact ⟨h.tracks, h.requests, h.replies.take _, h.busy, h.carried, h.offered, h.received,
      h.quiet, h.inOrder, h.answered, h.said, h.writes⟩

/-! ## Runs -/

theorem sends_append (steps more : List Exchange) :
    sends (steps ++ more) = sends steps ++ sends more :=
  List.filterMap_append

/-- The requests after a step that is not a send. -/
theorem requests_step (s : Conversation) {i : Exchange} (hsend : ∀ msg calls, i ≠ .send msg calls) :
    (s.step i).sent = s.sent ∧
      ((s.step i).requests = s.requests ∨
        ∃ count, (s.step i).requests = s.requests.take count) := by
  cases i with
  | send msg calls => exact absurd rfl (hsend msg calls)
  | deliver now count calls =>
    simp only [step]
    split
    · exact ⟨rfl, Or.inl rfl⟩
    · exact ⟨rfl, Or.inr ⟨_, rfl⟩⟩
  | decode now io calls =>
    simp only [step, decode]
    split
    · split
      · exact ⟨rfl, Or.inl rfl⟩
      · exact ⟨rfl, Or.inl rfl⟩
    · exact ⟨rfl, Or.inl rfl⟩
  | enter =>
    simp only [step, enter]
    split
    · exact ⟨rfl, Or.inl rfl⟩
    · exact ⟨rfl, Or.inl rfl⟩
  | reply calls =>
    simp only [step, reply]
    split
    · exact ⟨rfl, Or.inl rfl⟩
    · exact ⟨rfl, Or.inl rfl⟩
  | _ => exact ⟨rfl, Or.inl rfl⟩

/-- The replies after a step. -/
theorem replies_step (s : Conversation) (i : Exchange) :
    (s.step i).replies = s.replies ∨ (∃ count, (s.step i).replies = s.replies.take count) ∨
      ∃ data calls, (s.step i).replies = transmit s.replies data calls := by
  have hput : ∀ (requests : Channel UInt8) (handler : Handler) calls,
      let t := ({ s with requests := requests } : Conversation).put handler calls
      t.replies = s.replies ∨ (∃ count, t.replies = s.replies.take count) ∨
        ∃ data calls, t.replies = transmit s.replies data calls := by
    intro requests handler calls
    unfold put
    dsimp only
    split
    · exact Or.inl rfl
    · exact Or.inr (Or.inr ⟨_, _, rfl⟩)
  have hown := hput s.requests
  cases i with
  | deliver now count calls =>
    simp only [step]
    split
    · exact Or.inl rfl
    · exact hput _ _ calls
  | disconnect now clean => exact hown _ []
  | decode now io calls =>
    simp only [step, decode]
    split
    · split
      · exact hown _ calls
      · exact Or.inl rfl
    · exact Or.inl rfl
  | enter =>
    simp only [step, enter]
    split
    · exact Or.inl rfl
    · exact Or.inl rfl
  | reply calls =>
    simp only [step, reply]
    split
    · exact hown _ calls
    · exact Or.inl rfl
  | feed calls => exact hown _ calls
  | mark => exact hown _ []
  | stop => exact hown _ []
  | collect count => exact Or.inr (Or.inl ⟨_, rfl⟩)
  | _ => exact Or.inl rfl

/-- Requests that are not spoiled after a step were not before it. -/
theorem spoiled_step {s : Conversation} {i : Exchange} (h : (s.step i).requests.spoiled = false) :
    s.requests.spoiled = false := by
  by_cases hsend : ∃ msg calls, i = .send msg calls
  · obtain ⟨msg, calls, rfl⟩ := hsend
    exact Channel.spoiled_write h
  · rw [not_exists] at hsend
    rcases (s.requests_step fun msg calls hi => hsend msg ⟨calls, hi⟩).2 with hsame | ⟨count, htake⟩
    · rwa [hsame] at h
    · rwa [htake] at h

/-- In neither direction has anything got in after a send that was cut short. -/
structure Intact (s : Conversation) : Prop where
  requests : s.requests.spoiled = false
  replies : s.replies.spoiled = false

theorem Intact.of_step {s : Conversation} {i : Exchange} (h : (s.step i).Intact) : s.Intact where
  requests := spoiled_step h.requests
  replies := by
    have hreplies := h.replies
    rcases s.replies_step i with hsame | ⟨count, htake⟩ | ⟨data, calls, hsent⟩
    · rwa [hsame] at hreplies
    · rwa [htake] at hreplies
    · rw [hsent] at hreplies
      exact Channel.spoiled_write hreplies

theorem Intact.of_run {s : Conversation} {steps : List Exchange} (h : (s.run steps).Intact) :
    s.Intact := by
  induction steps generalizing s with
  | nil => exact h
  | cons i rest ih => exact (ih h).of_step

/-- Every message of the peer is one write. -/
theorem peer_run (c : Coordinator) (steps : List Exchange) :
    ((start c).run steps).sent = sends steps ∧ ((start c).run steps).requests.Sound ∧
      ((start c).run steps).requests.writes = (sends steps).length := by
  induction steps using List.reverseRecOn with
  | nil => exact ⟨rfl, Channel.sound_new, rfl⟩
  | append_singleton rest i ih =>
    obtain ⟨hsent, hsound, hwrites⟩ := ih
    rw [sends_append, List.length_append, ← hwrites, ← hsent, run, Run.run_concat]
    change ((((start c).run rest).step i).sent = _ ∧ (((start c).run rest).step i).requests.Sound ∧
      (((start c).run rest).step i).requests.writes = _)
    by_cases hsend : ∃ msg calls, i = .send msg calls
    · obtain ⟨msg, calls, rfl⟩ := hsend
      exact ⟨rfl, sound_transmit hsound _ calls, rfl⟩
    · rw [not_exists] at hsend
      have hnone : sends [i] = [] := by
        cases i with
        | send msg calls => exact absurd ⟨calls, rfl⟩ (hsend msg)
        | _ => rfl
      obtain ⟨hsame, hrequests⟩ :=
        ((start c).run rest).requests_step fun msg calls hi => hsend msg ⟨calls, hi⟩
      rw [hnone, List.append_nil, hsame]
      rcases hrequests with hrequests | ⟨count, hrequests⟩
      · rw [hrequests]
        exact ⟨rfl, hsound, rfl⟩
      · rw [hrequests]
        exact ⟨rfl, hsound.take count, rfl⟩

theorem sent_run (c : Coordinator) (steps : List Exchange) :
    ((start c).run steps).sent = sends steps :=
  (peer_run c steps).1

/-- If all that the peer sends can be received, and the requests are not spoiled,
then the invariant holds. -/
theorem sound_run (c : Coordinator) {steps : List Exchange} (h : ∀ m ∈ sends steps, m.Carried)
    (hspoiled : ((start c).run steps).requests.spoiled = false) : ((start c).run steps).Sound := by
  induction steps using List.reverseRecOn with
  | nil => exact sound_start c
  | append_singleton rest i ih =>
    rw [sends_append] at h
    rw [run, Run.run_concat] at hspoiled ⊢
    have hbefore : ((start c).run rest).requests.spoiled = false := spoiled_step hspoiled
    refine (ih (fun m hm => h m (List.mem_append_left _ hm)) hbefore).step ?_ hbefore
    intro msg calls hi
    rw [hi] at h
    exact h msg (List.mem_append_right _ (List.mem_singleton_self msg))

/-! ## The dispatches of a run -/

/-- The store before step `n` of a run. -/
def storeAt (c : Coordinator) (steps : List Exchange) (n : Nat) : FleetStateStore :=
  ((start c).run (steps.take n)).handler.store

/-- A dispatch that was carried out, with the points of the run at which it entered
its sections. -/
structure Service where
  msg : Message
  now : Timestamp
  io : FileOutcomes
  reply : Message
  points : List Nat

/-- The dispatches that were carried out in a run, one after the other. -/
structure Executed (c : Coordinator) (steps : List Exchange) (services : List Service) : Prop where
  ordered : (services.flatMap Service.points).Pairwise (· < ·)
  entered : ∀ p ∈ services.flatMap Service.points, steps[p]? = some .enter
  own : ∀ sv ∈ services, ∀ p ∈ sv.points,
    ((start c).run (steps.take p)).work.map Work.msg = some sv.msg
  sections : ∀ sv ∈ services, (Coordinator.dispatchSections c.opts sv.now sv.io sv.msg).Reaches
    Section.apply (storeAt c steps) sv.points (.done sv.reply)

/-- What a step is to the dispatches. -/
inductive Effect (s : Conversation) (i : Exchange) (t : Conversation) : Prop
  | none (hhandled : t.handler.handled = s.handler.handled) (hwork : t.work = s.work)
  | began (msg : Message) (now : Timestamp) (io : FileOutcomes) (hidle : s.work = .none)
      (hhandled : t.handler.handled = s.handler.handled)
      (hwork : t.work
        = some ⟨msg, now, io, Coordinator.dispatchSections s.handler.coordinator.opts now io msg⟩)
  | entered (msg : Message) (now : Timestamp) (io : FileOutcomes) (a : Section)
      (next : FleetStateStore → Sections) (hi : i = .enter)
      (hbusy : s.work = some ⟨msg, now, io, .access a next⟩)
      (hhandled : t.handler.handled = s.handler.handled)
      (hwork : t.work = some ⟨msg, now, io, next s.handler.store⟩)
      (hstore : t.handler.store = a.apply s.handler.store)
  | ended (msg : Message) (now : Timestamp) (io : FileOutcomes) (reply : Message)
      (hbusy : s.work = some ⟨msg, now, io, .done reply⟩)
      (hhandled : t.handler.handled = s.handler.handled ++ [(msg, reply)])
      (hwork : t.work = .none)

/-- What the handler does between two dispatches. -/
theorem kept_step (h : Handler) {m : Move} (hdispatch : ∀ now io, m ≠ .dispatch now io)
    (hothers : ∀ e, m ≠ .others e) :
    (h.step m).handled = h.handled ∧ (h.step m).coordinator.opts = h.coordinator.opts := by
  have hpush : ∀ data, (h.push data).handled = h.handled ∧
      (h.push data).coordinator.opts = h.coordinator.opts := by
    intro data
    rcases Handler.push_cases h data with ⟨he, -⟩ | ⟨frame, rest, he, -⟩ | ⟨perr, he, -⟩
    · rw [he]; exact ⟨rfl, rfl⟩
    · rw [he]; exact ⟨rfl, rfl⟩
    · rw [he]; exact ⟨rfl, rfl⟩
  cases m with
  | receive now recv =>
    simp only [Handler.step]
    split
    · split
      · cases recv with
        | failed => exact ⟨rfl, rfl⟩
        | nothing => exact ⟨rfl, rfl⟩
        | bytes data =>
          simp only [Handler.receive]
          split
          · exact ⟨rfl, rfl⟩
          · exact hpush data
      · exact ⟨rfl, rfl⟩
    · exact ⟨rfl, rfl⟩
  | dispatch now io => exact absurd rfl (hdispatch now io)
  | feed =>
    simp only [Handler.step]
    split
    · exact hpush []
    · exact ⟨rfl, rfl⟩
  | mark =>
    simp only [Handler.step]
    split
    · exact ⟨rfl, rfl⟩
    · exact ⟨rfl, rfl⟩
  | stop => exact ⟨rfl, rfl⟩
  | others e => exact absurd rfl (hothers e)

/-- A step leaves the options alone, and is one of four things to the dispatches. -/
theorem effect_step (s : Conversation) (i : Exchange) :
    (s.step i).handler.coordinator.opts = s.handler.coordinator.opts ∧ s.Effect i (s.step i) := by
  have hmove : ∀ m requests calls, (∀ now io, m ≠ .dispatch now io) → (∀ e, m ≠ .others e) →
      let t := ({ s with requests := requests } : Conversation).put (s.handler.step m) calls
      t.handler.coordinator.opts = s.handler.coordinator.opts ∧ s.Effect i t := by
    intro m requests calls hdispatch hothers
    obtain ⟨hhandled, hopts⟩ := kept_step s.handler hdispatch hothers
    exact ⟨hopts, .none hhandled rfl⟩
  have hown : ∀ m calls, (∀ now io, m ≠ .dispatch now io) → (∀ e, m ≠ .others e) →
      (s.put (s.handler.step m) calls).handler.coordinator.opts = s.handler.coordinator.opts ∧
        s.Effect i (s.put (s.handler.step m) calls) :=
    fun m calls => hmove m s.requests calls
  cases i with
  | deliver now count calls =>
    simp only [step]
    split
    · exact ⟨rfl, .none rfl rfl⟩
    · exact hmove _ _ calls (fun _ _ => Move.noConfusion) fun _ => Move.noConfusion
  | disconnect now clean =>
    exact hown _ [] (fun _ _ => Move.noConfusion) fun _ => Move.noConfusion
  | decode now io calls =>
    simp only [step, decode]
    split
    · next frame _ _ hidle =>
      split
      · exact ⟨rfl, .none rfl rfl⟩
      · next msg _ => exact ⟨rfl, .began msg now io hidle rfl rfl⟩
    · exact ⟨rfl, .none rfl rfl⟩
  | enter =>
    simp only [step, enter]
    split
    · next msg now io a next hbusy => exact ⟨rfl, .entered msg now io a next rfl hbusy rfl rfl rfl⟩
    · exact ⟨rfl, .none rfl rfl⟩
  | reply calls =>
    simp only [step, reply]
    split
    · next msg now io reply hbusy => exact ⟨rfl, .ended msg now io reply hbusy rfl rfl⟩
    · exact ⟨rfl, .none rfl rfl⟩
  | feed calls => exact hown _ calls (fun _ _ => Move.noConfusion) fun _ => Move.noConfusion
  | mark => exact hown _ [] (fun _ _ => Move.noConfusion) fun _ => Move.noConfusion
  | stop => exact hown _ [] (fun _ _ => Move.noConfusion) fun _ => Move.noConfusion
  | _ => exact ⟨rfl, .none rfl rfl⟩

section Later

variable {c : Coordinator} {rest : List Exchange} {i : Exchange}

/-- A step that is later changes nothing at the points before it. -/
theorem run_take_concat {n : Nat} (h : n ≤ rest.length) :
    (start c).run ((rest ++ [i]).take n) = (start c).run (rest.take n) := by
  rw [List.take_append_of_le_length h]

theorem storeAt_concat {n : Nat} (h : n ≤ rest.length) :
    storeAt c (rest ++ [i]) n = storeAt c rest n := by
  rw [storeAt, run_take_concat h]
  rfl

/-- The store at the end of a run. -/
theorem storeAt_length (c : Coordinator) (steps : List Exchange) :
    storeAt c steps steps.length = ((start c).run steps).handler.store := by
  rw [storeAt, List.take_length]

theorem lt_of_entered {points : List Nat} (h : ∀ p ∈ points, rest[p]? = some .enter) :
    ∀ p ∈ points, p < rest.length :=
  fun p hp => (List.getElem?_eq_some_iff.mp (h p hp)).1

theorem entered_concat {points : List Nat} (h : ∀ p ∈ points, rest[p]? = some .enter) :
    ∀ p ∈ points, (rest ++ [i])[p]? = some .enter := by
  intro p hp
  rw [List.getElem?_append_left (lt_of_entered h p hp)]
  exact h p hp

theorem reaches_concat {script left : Sections} {points : List Nat}
    (h : script.Reaches Section.apply (storeAt c rest) points left)
    (hpoints : ∀ p ∈ points, p < rest.length) :
    script.Reaches Section.apply (storeAt c (rest ++ [i])) points left := by
  apply h.congr
  intro n hn
  have hlt := hpoints n hn
  exact ⟨storeAt_concat (Nat.le_of_lt hlt), storeAt_concat hlt⟩

theorem own_concat {points : List Nat} {msg : Message}
    (h : ∀ p ∈ points, ((start c).run (rest.take p)).work.map Work.msg = some msg)
    (hpoints : ∀ p ∈ points, p < rest.length) :
    ∀ p ∈ points, ((start c).run ((rest ++ [i]).take p)).work.map Work.msg = some msg := by
  intro p hp
  rw [run_take_concat (Nat.le_of_lt (hpoints p hp))]
  exact h p hp

theorem Executed.lt {services : List Service} (h : Executed c rest services) {sv : Service}
    (hsv : sv ∈ services) : ∀ p ∈ sv.points, p < rest.length :=
  fun p hp => lt_of_entered h.entered p (List.mem_flatMap.mpr ⟨sv, hsv, hp⟩)

theorem Executed.concat {services : List Service} (h : Executed c rest services) :
    Executed c (rest ++ [i]) services where
  ordered := h.ordered
  entered := entered_concat h.entered
  own := fun sv hsv => own_concat (h.own sv hsv) (h.lt hsv)
  sections := fun sv hsv => reaches_concat (h.sections sv hsv) (h.lt hsv)

end Later

/-- What is known of the dispatches at any time: `services` have been carried out,
and the one that is under way has entered its sections at `current`. -/
structure Serviced (c : Coordinator) (steps : List Exchange) (services : List Service)
    (current : List Nat) : Prop where
  executed : Executed c steps services
  ordered : (services.flatMap Service.points ++ current).Pairwise (· < ·)
  entered : ∀ p ∈ current, steps[p]? = some .enter
  handled : ((start c).run steps).handler.handled = services.map fun sv => (sv.msg, sv.reply)
  opts : ((start c).run steps).handler.coordinator.opts = c.opts
  idle : ((start c).run steps).work = none → current = []
  busy : ∀ w, ((start c).run steps).work = some w →
    (∀ p ∈ current, ((start c).run (steps.take p)).work.map Work.msg = some w.msg) ∧
      (Coordinator.dispatchSections c.opts w.now w.io w.msg).Reaches Section.apply
        (storeAt c steps) current w.left

theorem serviced_start (c : Coordinator) : Serviced c [] [] [] where
  executed := ⟨.nil, List.forall_mem_nil _, List.forall_mem_nil _, List.forall_mem_nil _⟩
  ordered := .nil
  entered := List.forall_mem_nil _
  handled := rfl
  opts := rfl
  idle := fun _ => rfl
  busy := fun w hw => by cases hw

/-- A step keeps the dispatches, and may end the one that is under way. -/
theorem Serviced.step {c : Coordinator} {rest : List Exchange} {services : List Service}
    {current : List Nat} (h : Serviced c rest services current) (i : Exchange) :
    ∃ services' current', Serviced c (rest ++ [i]) services' current' := by
  obtain ⟨hopts, heffect⟩ := effect_step ((start c).run rest) i
  have hrun : (start c).run (rest ++ [i]) = ((start c).run rest).step i := Run.run_concat _ _ _
  have hlt := lt_of_entered h.entered
  rw [← hrun] at hopts heffect
  cases heffect with
  | none hhandled hwork =>
    refine ⟨services, current, h.executed.concat, h.ordered, entered_concat h.entered,
      hhandled.trans h.handled, hopts.trans h.opts, fun hidle => h.idle (hwork.symm.trans hidle),
      fun w hw => ?_⟩
    obtain ⟨hown, hreaches⟩ := h.busy w (hwork.symm.trans hw)
    exact ⟨own_concat hown hlt, reaches_concat hreaches hlt⟩
  | began msg now io hidle hhandled hwork =>
    obtain rfl := h.idle hidle
    refine ⟨services, [], h.executed.concat, h.ordered, List.forall_mem_nil _,
      hhandled.trans h.handled, hopts.trans h.opts, fun _ => rfl, fun w hw => ?_⟩
    obtain rfl := Option.some.inj (hwork.symm.trans hw)
    refine ⟨List.forall_mem_nil _, ?_⟩
    rw [h.opts]
    exact .start _
  | entered msg now io a next hi hbusy hhandled hwork hstore =>
    obtain ⟨hown, hreaches⟩ := h.busy _ hbusy
    have hhere : (rest ++ [i]).take rest.length = rest := List.take_left
    refine ⟨services, current ++ [rest.length], h.executed.concat, ?_, ?_, hhandled.trans h.handled,
      hopts.trans h.opts, fun hidle => ?_, fun w hw => ?_⟩
    · rw [← List.append_assoc, List.pairwise_append]
      refine ⟨h.ordered, List.pairwise_singleton _ _, ?_⟩
      intro p hp q hq
      rw [List.mem_singleton.mp hq]
      rcases List.mem_append.mp hp with hp | hp
      · exact lt_of_entered h.executed.entered p hp
      · exact hlt p hp
    · intro p hp
      rcases List.mem_append.mp hp with hp | hp
      · exact entered_concat h.entered p hp
      · rw [List.mem_singleton.mp hp, List.getElem?_concat_length, hi]
    · cases hwork.symm.trans hidle
    · obtain rfl := Option.some.inj (hwork.symm.trans hw)
      refine ⟨fun p hp => ?_, ?_⟩
      · rcases List.mem_append.mp hp with hp | hp
        · exact own_concat hown hlt p hp
        · rw [List.mem_singleton.mp hp, hhere, hbusy]
          rfl
      · have hbefore : storeAt c (rest ++ [i]) rest.length
            = ((start c).run rest).handler.store := by
          rw [storeAt_concat (Nat.le_refl _), storeAt_length]
        have hafter : storeAt c (rest ++ [i]) (rest.length + 1)
            = ((start c).run (rest ++ [i])).handler.store := by
          rw [← storeAt_length, List.length_append, List.length_singleton]
        have hmore := (reaches_concat (i := i) hreaches hlt).concat (n := rest.length)
          (by rw [hbefore, hafter, hstore])
        rw [hbefore] at hmore
        exact hmore
  | ended msg now io reply hbusy hhandled hwork =>
    obtain ⟨hown, hreaches⟩ := h.busy _ hbusy
    have hpoints : (services ++ [(⟨msg, now, io, reply, current⟩ : Service)]).flatMap Service.points
        = services.flatMap Service.points ++ current := by
      rw [List.flatMap_append, List.flatMap_singleton]
    refine ⟨services ++ [⟨msg, now, io, reply, current⟩], [], ⟨?_, ?_, ?_, ?_⟩, ?_,
      List.forall_mem_nil _, ?_, hopts.trans h.opts, fun _ => rfl, fun w hw => ?_⟩
    · rw [hpoints]
      exact h.ordered
    · rw [hpoints]
      intro p hp
      rcases List.mem_append.mp hp with hp | hp
      · exact entered_concat h.executed.entered p hp
      · exact entered_concat h.entered p hp
    · intro sv hsv
      rcases List.mem_append.mp hsv with hsv | hsv
      · exact h.executed.concat.own sv hsv
      · rw [List.mem_singleton.mp hsv]
        exact own_concat hown hlt
    · intro sv hsv
      rcases List.mem_append.mp hsv with hsv | hsv
      · exact h.executed.concat.sections sv hsv
      · rw [List.mem_singleton.mp hsv]
        exact reaches_concat hreaches hlt
    · rw [hpoints, List.append_nil]
      exact h.ordered
    · rw [hhandled, h.handled, List.map_append]
      rfl
    · cases hwork.symm.trans hw

/-- All that was handled was carried out. -/
theorem executed_run (c : Coordinator) (steps : List Exchange) :
    ∃ services, Executed c steps services ∧
      ((start c).run steps).handler.handled = services.map fun sv => (sv.msg, sv.reply) := by
  have hserviced : ∃ services current, Serviced c steps services current := by
    induction steps using List.reverseRecOn with
    | nil => exact ⟨[], [], serviced_start c⟩
    | append_singleton rest i ih =>
      obtain ⟨services, current, h⟩ := ih
      exact h.step i
  obtain ⟨services, current, h⟩ := hserviced
  exact ⟨services, h.executed, h.handled⟩

/-! ## Requests -/

/-- If no other thread changes the store between its sections, then a dispatch is one
step of the coordinator. -/
theorem Executed.dispatch_of_quiet {c : Coordinator} {steps : List Exchange}
    {services : List Service} (h : Executed c steps services) {sv : Service} (hsv : sv ∈ services)
    {n : Nat} (hn : n ∈ sv.points.head?)
    (hquiet : sv.points.IsChain fun p q => storeAt c steps (p + 1) = storeAt c steps q) :
    sv.reply = ((c.withStore (storeAt c steps n)).dispatch sv.now sv.io sv.msg).reply := by
  obtain ⟨rest, hpoints⟩ := List.head?_eq_some_iff.mp hn
  have hsections := h.sections sv hsv
  rw [hpoints] at hsections hquiet
  have hfinish := hsections.finish_eq hquiet
  have hdispatch :=
    (c.withStore (storeAt c steps n)).finish_dispatchSections sv.now sv.io sv.msg
  exact congrArg Prod.snd (hfinish.symm.trans hdispatch)

/-- In every run on a connection whose peer sends nothing that is too long, and
whose requests are not spoiled, however the bytes are cut, whatever is lost at the
end and whatever other threads do: the messages that are dispatched are the first
of those that were sent, each of them once.  Their sections are steps of the run, one
after the other.  In each dispatch, one of them at most changes the store, and if
nothing else changes it between them, the reply is that of one step. -/
theorem dispatched_in_order (c : Coordinator) (steps : List Exchange)
    (hsends : ∀ m ∈ sends steps, m.Carried)
    (hspoiled : ((start c).run steps).requests.spoiled = false) :
    ((start c).run steps).handler.handled.map Prod.fst <+: sends steps ∧
      ((start c).run steps).handler.farewell = none ∧
      ∃ services, Executed c steps services ∧
        ((start c).run steps).handler.handled = services.map (fun sv => (sv.msg, sv.reply)) ∧
        ∀ sv ∈ services,
          (∀ p ∈ sv.points, ∀ q ∈ sv.points, storeAt c steps (p + 1) ≠ storeAt c steps p →
            storeAt c steps (q + 1) ≠ storeAt c steps q → p = q) ∧
          ∀ n ∈ sv.points.head?,
            (sv.points.IsChain fun p q => storeAt c steps (p + 1) = storeAt c steps q) →
            sv.reply = ((c.withStore (storeAt c steps n)).dispatch sv.now sv.io sv.msg).reply := by
  have hsound := sound_run c hsends hspoiled
  obtain ⟨services, hexecuted, hhandled⟩ := executed_run c steps
  refine ⟨?_, hsound.quiet, services, hexecuted, hhandled, fun sv hsv => ⟨?_, ?_⟩⟩
  · rw [← sent_run c steps]
    exact hsound.inOrder
  · exact (hexecuted.sections sv hsv).once (fun _ => Section.apply_of_isLook)
      (Coordinator.once_dispatchSections c.opts sv.now sv.io sv.msg)
  · exact fun n hn => hexecuted.dispatch_of_quiet hsv hn

/-- A greeting in two pieces, and a request for a snapshot.  Another thread rolls
the epoch after the snapshot is taken, and before the epoch is read. -/
def sampleExchange : List Exchange :=
  [.send { type := .hello, requestId := 7 } [.sent 100, .failed 10035, .sent 100],
    .deliver 0 9 [], .send { type := .snapshotRequest, requestId := 8 } [.sent 500],
    .others (.markWorkerLost ⟨1⟩ 5), .deliver 1 500 [],
    .decode 2 {} [], .enter, .reply [.sent 500], .feed [],
    .decode 3 {} [], .enter, .others (.rollEpoch ⟨4⟩), .enter, .reply [.sent 500], .feed [],
    .collect 200]

theorem sampleExchange_carried : ∀ m ∈ sends sampleExchange, m.Carried := by decide

theorem sampleExchange_dispatched :
    ∃ services, Executed (.create {} fun _ => none) sampleExchange services ∧
      services.map (fun sv => (sv.reply.requestId, sv.reply.epoch)) = [(7, ⟨1⟩), (8, ⟨4⟩)] := by
  have hspoiled :
      ((start (.create {} fun _ => none)).run sampleExchange).requests.spoiled = false := by
    decide +kernel
  have hreplies : ((start (.create {} fun _ => none)).run sampleExchange).handler.handled.map
      (fun e => (e.2.requestId, e.2.epoch)) = [(7, ⟨1⟩), (8, ⟨4⟩)] := by
    decide +kernel
  obtain ⟨-, -, services, hexecuted, hhandled, -⟩ :=
    dispatched_in_order _ sampleExchange sampleExchange_carried hspoiled
  refine ⟨services, hexecuted, ?_⟩
  rw [hhandled, List.map_map] at hreplies
  exact hreplies

/-! ## Replies -/

/-- Every reply can be received, if every snapshot can. -/
theorem Sound.carried_replies {s : Conversation} (h : s.Sound)
    (hfits : ∀ e ∈ s.handler.handled, e.1.type = .snapshotRequest → e.2.Carried) :
    ∀ e ∈ s.handler.handled, e.2.Carried := by
  intro e he
  have hanswers := (h.answered e he).answers
  by_cases htype : e.1.type = .snapshotRequest
  · exact hfits e he htype
  · have hreason := hanswers.reason
    have hpayload := hanswers.payload htype
    have hmax : kMaxPayloadLength = 16777216 := rfl
    exact ⟨by omega, by omega⟩

/-- What the peer has received is the beginning of the replies, if all of them
can be received. -/
theorem Sound.answered_of_begins {s : Conversation} (h : s.Sound)
    (hspoiled : s.replies.spoiled = false)
    (hfits : ∀ e ∈ s.handler.handled, e.1.type = .snapshotRequest → e.2.Carried)
    {bytes : ByteString} (hbytes : bytes <+: s.replies.taken) :
    ∃ answered, answered <+: s.handler.handled ∧ (∀ e ∈ answered, e.2.Carried) ∧
      Scans feed bytes (answered.map fun e => e.2.frame) .needMore := by
  have hcarried := h.carried_replies hfits
  have hmessages : ∀ m ∈ s.handler.said, m.Carried := by
    intro m hm
    rw [h.said_eq] at hm
    obtain ⟨e, he, rfl⟩ := List.mem_map.mp hm
    exact hcarried e he
  have hbegins := hbytes.trans (h.replies.taken_begins hspoiled)
  rw [h.said] at hbegins
  obtain ⟨frames, hframes, hscans⟩ :=
    scans_of_begins lawful_feed (scans_messages hmessages) hbegins
  rw [h.said_eq, List.map_map] at hframes
  have htake : frames = (s.handler.handled.take frames.length).map fun e => e.2.frame := by
    rw [List.map_take]
    exact List.prefix_iff_eq_take.mp hframes
  have hanswered : s.handler.handled.take frames.length <+: s.handler.handled :=
    List.take_prefix _ _
  refine ⟨s.handler.handled.take frames.length, hanswered, ?_, ?_⟩
  · intro e he
    exact hcarried e (hanswered.subset he)
  · rw [← htake]
    exact hscans

/-- In every such run in which the replies are not spoiled either, and every snapshot
that is asked for fits into a frame: whatever the peer has received by now, and
however it was cut, means the first of the replies.  No frame in it is broken, and
the reply at a place is the one to the request at that place and carries its id. -/
theorem replies_in_order (c : Coordinator) (steps : List Exchange)
    (hsends : ∀ m ∈ sends steps, m.Carried)
    (hintact : ((start c).run steps).Intact)
    (hfits : ∀ e ∈ ((start c).run steps).handler.handled, e.1.type = .snapshotRequest →
      e.2.Carried)
    (chunks : List ByteString)
    (hchunks : chunks.flatten = ((start c).run steps).replies.taken) :
    (drain chunks).last = .needMore ∧
      ∃ answered, answered <+: ((start c).run steps).handler.handled ∧
        (drain chunks).emitted.map (fun f => decodeMessage f.payload)
          = answered.map (fun e => .ok e.2) ∧
        answered.map Prod.fst <+: sends steps ∧
        ∀ e ∈ answered, e.2.requestId = e.1.requestId := by
  have hsound := sound_run c hsends hintact.requests
  rw [← sent_run c steps]
  generalize (start c).run steps = s at hsound hintact hfits hchunks ⊢
  obtain ⟨answered, hanswered, hcarried, hscans⟩ :=
    hsound.answered_of_begins hintact.replies hfits (List.prefix_refl _)
  rw [← hchunks] at hscans
  obtain ⟨hemitted, hlast⟩ := (scans_drain chunks).unique hscans
  refine ⟨hlast, answered, hanswered, ?_, (hanswered.map Prod.fst).trans hsound.inOrder, ?_⟩
  · rw [hemitted, List.map_map]
    apply List.map_congr_left
    intro e he
    exact (hcarried e he).decode
  · intro e he
    exact (hsound.answered e (hanswered.subset he)).answers.requestId

/-- The first reply has arrived, and a part of the second. -/
theorem sampleExchange_answered :
    ∃ answered : List (Message × Message), answered.map Prod.fst <+: sends sampleExchange ∧
      (drain [((start (.create {} fun _ => none)).run sampleExchange).replies.taken]).emitted.map
        (fun f => decodeMessage f.payload) = answered.map fun e => .ok e.2 := by
  have hspoiled :
      ((start (.create {} fun _ => none)).run sampleExchange).requests.spoiled = false ∧
        ((start (.create {} fun _ => none)).run sampleExchange).replies.spoiled = false ∧
        ∀ e ∈ ((start (.create {} fun _ => none)).run sampleExchange).handler.handled,
          e.1.type = .snapshotRequest → e.2.Carried := by
    decide +kernel
  obtain ⟨hrequests, hreplies, hfits⟩ := hspoiled
  obtain ⟨-, answered, -, hdecoded, hsent, -⟩ := replies_in_order _ sampleExchange
    sampleExchange_carried ⟨hrequests, hreplies⟩ hfits _ (List.flatten_singleton ..)
  exact ⟨answered, hsent, hdecoded⟩

end Conversation

end GpuFleet
