import GpuFleet.Coordinator.Connections
import GpuFleet.Protocol.Codec
import GpuFleet.Protocol.FrameStream

/-!
# The bytes of a connection

`handle_connection` of `coordinator/coordinator.cpp`, from the bytes that
`recv_some_opt` delivers.  A `Move` is what the thread does between two
accesses to what it shares with others, or a step of another thread: these
may come anywhere, so a list of moves is the life of a connection in any
interleaving.  A move that the thread is not ready for does nothing.

`Connection` has the local variables, as in the model of the threads, and
`step_process` says that a move of the handler is a list of actions of that
model.
-/

namespace GpuFleet

/-- What `recv_some_opt` answers: an error, no data yet, or some bytes.  No
bytes are a clean close. -/
inductive Recv
  | failed
  | nothing
  | bytes (data : ByteString)

/-- Where the thread is while it reads: at the top of the outer loop, in the
inner loop with a frame, or after the dispatch of its message. -/
inductive Place
  | receiving
  | ready (frame : Frame)
  | again

/-- `handle_connection` with what it shares with the other threads. -/
structure Handler where
  coordinator : Coordinator
  running : Bool := true
  conn : Connection := {}
  dec : FrameDecoder := []
  place : Place := .receiving
  /-- The ERROR that is sent before an early `return`. -/
  farewell : Option Message := none
  /-- The bytes that were received, for the record. -/
  received : ByteString := []
  /-- The frames that the decoder made ready, for the record. -/
  frames : List Frame := []
  /-- The messages that were dispatched, each with its reply, for the record. -/
  handled : List (Message × Message) := []

/-- A step of `handle_connection`, or of another thread. -/
inductive Move
  /-- The top of the outer loop, with the first call of `feed`. -/
  | receive (now : Timestamp) (recv : Recv)
  /-- `decode_message` and `dispatch`. -/
  | dispatch (now : Timestamp) (io : FileOutcomes)
  /-- The call of `feed` at the end of the inner loop. -/
  | feed
  /-- The call of `mark_worker_lost`. -/
  | mark
  | stop
  /-- A step of the coordinator that another thread takes. -/
  | others (e : Coordinator.Event)

namespace Handler

/-- `store_`. -/
def store (h : Handler) : FleetStateStore := h.coordinator.store

/-- The handler of a connection that was just accepted. -/
def start (c : Coordinator) : Handler where
  coordinator := c

/-- `send_message(stream, err); return;`. -/
def drop (h : Handler) (reason : ByteString) : Handler :=
  { h with
    conn := h.conn.dropped
    farewell := some { type := .error, reason := reason } }

/-- A call of `feed`, and what the loops do with its result. -/
def push (h : Handler) (data : ByteString) : Handler :=
  let (res, dec) := FrameDecoder.feed h.dec data
  let h := { h with dec := dec, received := h.received ++ data }
  match res with
  | .needMore => { h with place := .receiving }
  | .ready frame => { h with place := .ready frame, frames := h.frames ++ [frame] }
  | .error perr => h.drop perr

/-- The body of the outer loop up to the inner loop, and its exits. -/
def receive (h : Handler) (now : Timestamp) : Recv → Handler
  | .failed => { h with conn := h.conn.closed h.running now }
  | .nothing => h
  | .bytes data =>
    if data.isEmpty then { h with conn := h.conn.closed h.running now } else h.push data

/-- The body of the inner loop up to the next call of `feed`. -/
def handle (h : Handler) (now : Timestamp) (io : FileOutcomes) (frame : Frame) : Handler :=
  match decodeMessage frame.payload with
  | .error err => h.drop err.message
  | .ok msg =>
    let d := h.coordinator.dispatch now io msg
    { h with
      coordinator := d.coordinator
      conn := h.conn.received msg
      place := .again
      handled := h.handled ++ [(msg, d.reply)] }

/-- One step of `handle_connection` or of another thread. -/
def step (h : Handler) : Move → Handler
  | .receive now recv =>
    match h.conn.phase, h.place with
    | .reading, .receiving =>
      if h.running then h.receive now recv
      else { h with conn := h.conn.closed h.running now }
    | _, _ => h
  | .dispatch now io =>
    match h.conn.phase, h.place with
    | .reading, .ready frame => h.handle now io frame
    | _, _ => h
  | .feed =>
    match h.conn.phase, h.place with
    | .reading, .again => h.push []
    | _, _ => h
  | .mark =>
    match h.conn.phase with
    | .marking now =>
      { h with
        coordinator := h.coordinator.step (.workerLost h.conn.connectedWorker now)
        conn := h.conn.marked }
    | _ => h
  | .stop => { h with running := false }
  | .others e => { h with coordinator := h.coordinator.step e }

/-- Steps of a connection, one after the other. -/
def run (h : Handler) (moves : List Move) : Handler := Run.run step h moves

/-- `handle_connection` has returned. -/
def Returned (h : Handler) : Prop := h.conn.phase = .ended

instance (h : Handler) : Decidable h.Returned := inferInstanceAs (Decidable (h.conn.phase = .ended))

/-! ## Calls of `feed` -/

/-- The three results of a call of `feed`. -/
theorem push_cases (h : Handler) (data : ByteString) :
    (h.push data = { h with
        dec := h.dec ++ data, received := h.received ++ data, place := .receiving } ∧
      (FrameDecoder.feed [] (h.dec ++ data)).1 = .needMore) ∨
    (∃ frame rest, h.push data = { h with
        dec := rest, received := h.received ++ data, place := .ready frame,
        frames := h.frames ++ [frame] } ∧
      FrameDecoder.feed [] (h.dec ++ data) = (.ready frame, rest)) ∨
    ∃ perr, h.push data = { h with
        dec := h.dec ++ data, received := h.received ++ data, conn := h.conn.dropped,
        farewell := some { type := .error, reason := perr } } ∧
      (FrameDecoder.feed [] (h.dec ++ data)).1 = .error perr := by
  have hlawful := FrameDecoder.lawful_feed
  unfold push
  rw [hlawful.feed_nil]
  rcases hres : FrameDecoder.feed [] (h.dec ++ data) with ⟨res, dec⟩
  cases res with
  | needMore =>
    have hdec := hlawful.waits _ _ hres
    exact Or.inl ⟨by rw [hdec], rfl⟩
  | ready frame => exact Or.inr (Or.inl ⟨frame, dec, rfl, rfl⟩)
  | error perr =>
    have hdec := (hlawful.fails _ _ _ hres).1
    exact Or.inr (Or.inr ⟨perr, by rw [hdec]; rfl, rfl⟩)

/-! ## The threads -/

/-- The connection of the handler is a connection of the process. -/
structure ShownBy (h : Handler) (p : Process) (i : Nat) : Prop where
  conn : p.connections[i]? = some h.conn
  coordinator : p.coordinator = h.coordinator
  running : p.running = h.running

section Threads

variable {h : Handler} {p : Process} {i : Nat}

theorem getElem?_modify_conn (hp : h.ShownBy p i) (f : Connection → Connection) :
    (p.connections.modify i f)[i]? = some (f h.conn) := by
  rw [List.getElem?_modify_eq, hp.conn]
  rfl

theorem ShownBy.drop (hp : h.ShownBy p i) (reason : ByteString) :
    (h.drop reason).ShownBy (p.run [.drop i]) i where
  conn := getElem?_modify_conn hp Connection.dropped
  coordinator := hp.coordinator
  running := hp.running

theorem ShownBy.close (hp : h.ShownBy p i) (now : Timestamp) :
    ShownBy { h with conn := h.conn.closed h.running now } (p.run [.close i now]) i where
  conn := by
    rw [← hp.running]
    exact getElem?_modify_conn hp fun conn => conn.closed p.running now
  coordinator := hp.coordinator
  running := hp.running

theorem ShownBy.push (hp : h.ShownBy p i) (data : ByteString) :
    ∃ actions, (h.push data).ShownBy (p.run actions) i := by
  rcases push_cases h data with ⟨hpush, -⟩ | ⟨frame, rest, hpush, -⟩ | ⟨perr, hpush, -⟩
  · rw [hpush]
    exact ⟨[], hp.conn, hp.coordinator, hp.running⟩
  · rw [hpush]
    exact ⟨[], hp.conn, hp.coordinator, hp.running⟩
  · rw [hpush]
    have hdrop := hp.drop perr
    exact ⟨[.drop i], hdrop.conn, hdrop.coordinator, hdrop.running⟩

theorem ShownBy.handle (hp : h.ShownBy p i) (hphase : h.conn.phase = .reading) (now : Timestamp)
    (io : FileOutcomes) (frame : Frame) :
    ∃ actions, (h.handle now io frame).ShownBy (p.run actions) i := by
  unfold Handler.handle
  cases decodeMessage frame.payload with
  | error err => exact ⟨[.drop i], hp.drop err.message⟩
  | ok msg =>
    have hevent : p.event (.message i now io msg) = some (.message now io msg) := by
      simp only [Process.event, hp.conn, if_pos hphase]
    have hcoordinator : (p.step (.message i now io msg)).coordinator
        = (h.coordinator.dispatch now io msg).coordinator := by
      show p.coordinator.advance (p.event (.message i now io msg)) = _
      rw [hevent, hp.coordinator]
      rfl
    refine ⟨[.message i now io msg], ?_, hcoordinator, hp.running⟩
    exact getElem?_modify_conn hp fun conn => conn.received msg

theorem ShownBy.mark (hp : h.ShownBy p i) {now : Timestamp} (hphase : h.conn.phase = .marking now) :
    ShownBy { h with
        coordinator := h.coordinator.step (.workerLost h.conn.connectedWorker now)
        conn := h.conn.marked } (p.run [.markClosed i]) i where
  conn := getElem?_modify_conn hp Connection.marked
  coordinator := by
    have hevent : p.event (.markClosed i) = some (.workerLost h.conn.connectedWorker now) := by
      simp only [Process.event, hp.conn, hphase]
    show p.coordinator.advance (p.event (.markClosed i)) = _
    rw [hevent, hp.coordinator]
    rfl
  running := hp.running

/-- What the thread does is what a connection of the process does. -/
theorem step_process (hp : h.ShownBy p i) {m : Move} (hm : ∀ e, m ≠ .others e) :
    ∃ actions, (h.step m).ShownBy (p.run actions) i := by
  have hstay : ∃ actions, h.ShownBy (p.run actions) i := ⟨[], hp⟩
  cases m with
  | receive now recv =>
    simp only [Handler.step]
    split
    · split
      · cases recv with
        | failed => exact ⟨_, hp.close now⟩
        | nothing => exact hstay
        | bytes data =>
          simp only [Handler.receive]
          split
          · exact ⟨_, hp.close now⟩
          · exact hp.push data
      · exact ⟨_, hp.close now⟩
    · exact hstay
  | dispatch now io =>
    simp only [Handler.step]
    split
    · next frame hphase _ => exact hp.handle hphase now io frame
    · exact hstay
  | feed =>
    simp only [Handler.step]
    split
    · exact hp.push []
    · exact hstay
  | mark =>
    simp only [Handler.step]
    split
    · next now hphase => exact ⟨_, hp.mark hphase⟩
    · exact hstay
  | stop => exact ⟨[.stop], hp.conn, hp.coordinator, rfl⟩
  | others e => exact absurd rfl (hm e)

end Threads

end Handler

end GpuFleet
