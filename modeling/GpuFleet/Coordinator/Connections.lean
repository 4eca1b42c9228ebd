import GpuFleet.Coordinator.Calls

/-!
# The threads of the coordinator

`handle_connection` and `liveness_loop` of `coordinator/coordinator.cpp`, with
one program counter for each connection and one for the liveness loop.  An
`Action` is what one thread does between two accesses to what it shares with
the others, which is the store and `running_`.  Any list of actions is a run,
so a fact about every run is a fact about every interleaving.

A thread reads `running_` at the top of its loop only, so it may still handle a
message or take a snapshot after a `stop`.  An action that its thread is not
ready for does nothing.

A dispatch takes the lock of the store several times and is one action here.
`Coordinator/Interleaving.lean` takes its critical sections one by one.
-/

namespace GpuFleet

/-! ## Connections -/

/-- Where a thread is in `handle_connection`: in the receive loop, after the
check of `running_` at the end and before the call of `mark_worker_lost`, or
past it. -/
inductive Phase
  | reading
  | marking (now : Timestamp)
  | ended
  deriving DecidableEq, Repr

/-- The local variables of `handle_connection`. -/
structure Connection where
  connectedWorker : WorkerId := {}
  workerBound : Bool := false
  phase : Phase := .reading
  deriving DecidableEq, Repr

namespace Connection

/-- What the loop does after the dispatch of a message, whatever the answer
was. -/
def received (conn : Connection) (msg : Message) : Connection :=
  if conn.phase = .reading ∧ msg.type = .register then
    { conn with connectedWorker := msg.worker, workerBound := true }
  else conn

/-- The `return` after a payload or a frame that does not decode. -/
def dropped (conn : Connection) : Connection :=
  if conn.phase = .reading then { conn with phase := .ended } else conn

/-- The end of the loop: a reset, a clean close, or `running_` is false. -/
def closed (conn : Connection) (running : Bool) (now : Timestamp) : Connection :=
  if conn.phase = .reading then
    { conn with phase := if conn.workerBound && running then .marking now else .ended }
  else conn

/-- After the call of `mark_worker_lost`. -/
def marked (conn : Connection) : Connection :=
  match conn.phase with
  | .marking _ => { conn with phase := .ended }
  | _ => conn

/-- The thread is to mark the worker lost when the connection closes. -/
def BoundTo (conn : Connection) (w : WorkerId) : Prop :=
  conn.connectedWorker = w ∧
    match conn.phase with
    | .reading => conn.workerBound = true
    | .marking _ => True
    | .ended => False

/-- Only a REGISTER binds a connection to a worker that it was not bound to. -/
theorem boundTo_received {conn : Connection} {msg : Message} {w : WorkerId}
    (h : (conn.received msg).BoundTo w) :
    conn.BoundTo w ∨ (conn.phase = .reading ∧ msg.type = .register ∧ msg.worker = w) := by
  unfold received at h
  by_cases hc : conn.phase = .reading ∧ msg.type = .register
  · rw [if_pos hc] at h
    exact Or.inr ⟨hc.1, hc.2, h.1⟩
  · rw [if_neg hc] at h
    exact Or.inl h

theorem boundTo_dropped {conn : Connection} {w : WorkerId} (h : conn.dropped.BoundTo w) :
    conn.BoundTo w := by
  unfold dropped at h
  by_cases hc : conn.phase = .reading
  · rw [if_pos hc] at h
    exact absurd h.2 fun hf => hf
  · rw [if_neg hc] at h
    exact h

theorem boundTo_closed {conn : Connection} {running : Bool} {now : Timestamp} {w : WorkerId}
    (h : (conn.closed running now).BoundTo w) : conn.BoundTo w := by
  unfold closed at h
  by_cases hc : conn.phase = .reading
  · rw [if_pos hc] at h
    refine ⟨h.1, ?_⟩
    rw [hc]
    by_cases hbound : conn.workerBound = true
    · exact hbound
    · have hended := h.2
      simp [hbound] at hended
  · rw [if_neg hc] at h
    exact h

theorem boundTo_marked {conn : Connection} {w : WorkerId} (h : conn.marked.BoundTo w) :
    conn.BoundTo w := by
  unfold marked at h
  split at h
  · exact absurd h.2 fun hf => hf
  · exact h

end Connection

/-! ## The process -/

/-- The local variables of `liveness_loop` in the loop over a snapshot: the
reading of the clock and the entries that are still to be looked at. -/
structure Scan where
  now : Timestamp
  entries : List (WorkerId × WorkerRecord)

/-- A coordinator with its threads: `running_`, one connection for each thread of
`conn_threads_`, and the pass that `liveness_loop` is in. -/
structure Process where
  coordinator : Coordinator
  running : Bool := true
  connections : List Connection := []
  scan : Option Scan := none

/-- What one thread does between two accesses to what it shares with the others.  A
dispatch is one action here; `Threads` has a turn for each of its critical sections. -/
inductive Action
  /-- `accept_loop` starts the thread of a new connection. -/
  | accept
  /-- The connection dispatches a message. -/
  | message (i : Nat) (now : Timestamp) (io : FileOutcomes) (msg : Message)
  | drop (i : Nat)
  | close (i : Nat) (now : Timestamp)
  /-- The call of `mark_worker_lost` at the end of `handle_connection`. -/
  | markClosed (i : Nat)
  /-- `liveness_loop` reads the clock and takes a snapshot of the store. -/
  | look (now : Timestamp)
  /-- The body of the loop over the snapshot, for the next entry. -/
  | visit
  | stop
  /-- A call of the store from elsewhere: the `restore` of `load_state`, or any
  other method through `Coordinator::store`. -/
  | operate (op : Op) (h : ¬op.IsLoss)

/-- The test of `liveness_loop`. -/
def expired (timeout : DurationMs) (now : Timestamp) (wr : WorkerRecord) : Bool :=
  wr.alive && !wr.lost && !wr.fenced && decide (wr.lastHeartbeat ≠ kInvalidTimestamp) &&
    decide (now - wr.lastHeartbeat > timeout)

/-- The coordinator after a step that may not be taken. -/
def Coordinator.advance (c : Coordinator) : Option Coordinator.Event → Coordinator
  | none => c
  | some e => c.step e

namespace Process

open FleetStateStore

/-- `store_`. -/
def store (p : Process) : FleetStateStore := p.coordinator.store

/-- The timeout of `liveness_loop`. -/
def timeout (p : Process) : DurationMs := p.coordinator.opts.heartbeatTimeoutMs

/-- The step of the coordinator that an action takes. -/
def event (p : Process) : Action → Option Coordinator.Event
  | .message i now io msg =>
    match p.connections[i]? with
    | some conn => if conn.phase = .reading then some (.message now io msg) else none
    | none => none
  | .markClosed i =>
    match p.connections[i]? with
    | some conn =>
      match conn.phase with
      | .marking now => some (.workerLost conn.connectedWorker now)
      | _ => none
    | none => none
  | .visit =>
    match p.scan with
    | some ⟨now, (w, wr) :: _⟩ =>
      if expired p.timeout now wr then some (.workerLost w now) else none
    | _ => none
  | _ => none

/-- The connections after an action. -/
def nextConnections (p : Process) : Action → List Connection
  | .accept => p.connections ++ [{}]
  | .message i _ _ msg => p.connections.modify i fun conn => conn.received msg
  | .drop i => p.connections.modify i Connection.dropped
  | .close i now => p.connections.modify i fun conn => conn.closed p.running now
  | .markClosed i => p.connections.modify i Connection.marked
  | _ => p.connections

/-- The pass of `liveness_loop` after an action. -/
def nextScan (p : Process) : Action → Option Scan
  | .look now =>
    match p.scan with
    | none => some ⟨now, p.store.snapshot.workers.toList⟩
    | some scan => some scan
  | .visit =>
    match p.scan with
    | some ⟨now, _ :: rest⟩ => some ⟨now, rest⟩
    | _ => none
  | _ => p.scan

/-- The coordinator after an action. -/
def nextCoordinator (p : Process) : Action → Coordinator
  | .operate op _ => { p.coordinator with store := p.store.step op }
  | a => p.coordinator.advance (p.event a)

/-- One action of one thread. -/
def step (p : Process) (a : Action) : Process where
  coordinator := p.nextCoordinator a
  running :=
    match a with
    | .stop => false
    | _ => p.running
  connections := p.nextConnections a
  scan := p.nextScan a

/-- A process that was just constructed. -/
def create (opts : Options) (disk : Disk) : Process where
  coordinator := .create opts disk

/-- Actions of all threads, in the order of the interleaving. -/
def run (p : Process) (actions : List Action) : Process := Run.run step p actions

/-- The actions of a run, each with the process it was taken in. -/
def history (p : Process) (actions : List Action) : List (Process × Action) :=
  Run.history step p actions

/-! ## The calls of an action -/

/-- The store call that an action makes. -/
def call (p : Process) : Action → Option Op
  | .operate op _ => some op
  | a => (p.event a).bind p.coordinator.call

theorem advance_store (c : Coordinator) (e : Option Coordinator.Event) :
    (c.advance e).store = Coordinator.perform c.store (e.bind c.call) := by
  cases e with
  | none => rfl
  | some e => exact c.step_store e

theorem step_store (p : Process) (a : Action) :
    (p.step a).store = Coordinator.perform p.store (p.call a) := by
  cases a with
  | operate op h => rfl
  | _ => exact advance_store p.coordinator _

/-- The thread of the connection is in its receive loop. -/
def Reading (p : Process) (i : Nat) : Prop :=
  ∃ conn, p.connections[i]? = some conn ∧ conn.phase = .reading

theorem event_message {p : Process} {i : Nat} {now : Timestamp} {io : FileOutcomes}
    {msg : Message} {e : Coordinator.Event} (h : p.event (.message i now io msg) = some e) :
    p.Reading i ∧ e = .message now io msg := by
  simp only [event] at h
  cases hconn : p.connections[i]? with
  | none =>
    rw [hconn] at h
    cases h
  | some conn =>
    rw [hconn] at h
    by_cases hphase : conn.phase = .reading
    · simp only [if_pos hphase, Option.some.injEq] at h
      exact ⟨⟨conn, hconn, hphase⟩, h.symm⟩
    · simp only [if_neg hphase] at h
      cases h

theorem event_markClosed {p : Process} {i : Nat} {e : Coordinator.Event}
    (h : p.event (.markClosed i) = some e) :
    ∃ conn now, p.connections[i]? = some conn ∧ conn.phase = .marking now ∧
      e = .workerLost conn.connectedWorker now := by
  simp only [event] at h
  cases hconn : p.connections[i]? with
  | none =>
    rw [hconn] at h
    cases h
  | some conn =>
    rw [hconn] at h
    cases hphase : conn.phase with
    | marking now =>
      simp only [hphase, Option.some.injEq] at h
      exact ⟨conn, now, rfl, hphase, h.symm⟩
    | _ =>
      simp only [hphase] at h
      cases h

theorem event_visit {p : Process} {e : Coordinator.Event} (h : p.event .visit = some e) :
    ∃ now w wr rest, p.scan = some ⟨now, (w, wr) :: rest⟩ ∧ expired p.timeout now wr = true ∧
      e = .workerLost w now := by
  simp only [event] at h
  split at h
  · next now w wr rest hscan =>
    by_cases hexpired : expired p.timeout now wr = true
    · rw [if_pos hexpired] at h
      exact ⟨now, w, wr, rest, hscan, hexpired, (Option.some.inj h).symm⟩
    · rw [if_neg hexpired] at h
      cases h
  · cases h

/-- Where a store call comes from: a message, a connection that closes, an
entry of the liveness loop that expired, or elsewhere. -/
inductive CallOrigin (p : Process) : Action → Op → Prop
  | message {op : Op} (i : Nat) (now : Timestamp) (io : FileOutcomes) (msg : Message)
      (hreading : p.Reading i) (hcall : p.coordinator.callOf now msg = some op) :
      CallOrigin p (.message i now io msg) op
  | closed (i : Nat) (conn : Connection) (now : Timestamp)
      (hconn : p.connections[i]? = some conn) (hphase : conn.phase = .marking now) :
      CallOrigin p (.markClosed i) (.markWorkerLost conn.connectedWorker now)
  | expired (now : Timestamp) (w : WorkerId) (wr : WorkerRecord)
      (rest : List (WorkerId × WorkerRecord)) (hscan : p.scan = some ⟨now, (w, wr) :: rest⟩)
      (hexpired : expired p.timeout now wr = true) :
      CallOrigin p .visit (.markWorkerLost w now)
  | elsewhere (op : Op) (hop : ¬op.IsLoss) : CallOrigin p (.operate op hop) op

theorem call_origin {p : Process} {a : Action} {op : Op} (h : p.call a = some op) :
    p.CallOrigin a op := by
  cases a with
  | message i now io msg =>
    obtain ⟨e, he, hcall⟩ := Option.bind_eq_some_iff.mp h
    obtain ⟨hreading, rfl⟩ := event_message he
    exact .message i now io msg hreading hcall
  | markClosed i =>
    obtain ⟨e, he, hcall⟩ := Option.bind_eq_some_iff.mp h
    obtain ⟨conn, now, hconn, hphase, rfl⟩ := event_markClosed he
    cases hcall
    exact .closed i conn now hconn hphase
  | visit =>
    obtain ⟨e, he, hcall⟩ := Option.bind_eq_some_iff.mp h
    obtain ⟨now, w, wr, rest, hscan, hexpired, rfl⟩ := event_visit he
    cases hcall
    exact .expired now w wr rest hscan hexpired
  | operate op' hop =>
    obtain rfl := Option.some.inj h
    exact .elsewhere op' hop
  | _ => cases h

/-- A registration comes from a REGISTER on a connection, or from elsewhere. -/
theorem call_registerWorker {p : Process} {a : Action} {reg : Registration} {now : Timestamp}
    (h : p.call a = some (.registerWorker reg now)) :
    (∃ i io msg, a = .message i now io msg ∧ p.Reading i ∧ msg.type = .register ∧
        decodeRegistration msg.payload = .ok reg) ∨
      ∃ op hop, a = .operate op hop := by
  cases call_origin h with
  | message i now' io msg hreading hcall =>
    obtain ⟨htype, hreg, rfl⟩ := Coordinator.callOf_registerWorker hcall
    exact Or.inl ⟨i, io, msg, rfl, hreading, htype, hreg⟩
  | elsewhere op hop => exact Or.inr ⟨_, hop, rfl⟩

/-- No thread of the coordinator restores a snapshot. -/
theorem call_restore {p : Process} {a : Action} {snap : StateSnapshot}
    (h : p.call a = some (.restore snap)) : ∃ op hop, a = .operate op hop := by
  cases call_origin h with
  | message i now io msg hreading hcall =>
    exact absurd trivial (Coordinator.callOf_not_isRestore hcall)
  | elsewhere op hop => exact ⟨_, hop, rfl⟩

/-- A worker is marked lost by a closing connection or by the liveness loop. -/
theorem call_markWorkerLost {p : Process} {a : Action} {w : WorkerId} {now : Timestamp}
    (h : p.call a = some (.markWorkerLost w now)) :
    (∃ i conn, a = .markClosed i ∧ p.connections[i]? = some conn ∧ conn.BoundTo w) ∨
      (a = .visit ∧ ∃ wr rest, p.scan = some ⟨now, (w, wr) :: rest⟩ ∧
        expired p.timeout now wr = true) := by
  cases call_origin h with
  | message i now' io msg hreading hcall =>
    exact absurd hcall (Coordinator.callOf_not_markWorkerLost _ now' msg w now)
  | closed i conn now hconn hphase =>
    refine Or.inl ⟨i, conn, rfl, hconn, rfl, ?_⟩
    rw [hphase]
    trivial
  | expired now w wr rest hscan hexpired => exact Or.inr ⟨rfl, wr, rest, hscan, hexpired⟩
  | elsewhere op hop => exact absurd trivial hop

/-- An entry after a `modify` is an entry from before, or the image of the one
that was modified. -/
theorem getElem?_of_modify {α : Type} {l : List α} {i j : Nat} {f : α → α} {x : α}
    (h : (l.modify j f)[i]? = some x) :
    l[i]? = some x ∨ (j = i ∧ ∃ x₀, l[i]? = some x₀ ∧ f x₀ = x) := by
  rw [List.getElem?_modify] at h
  by_cases hj : j = i
  · subst hj
    simp only [if_pos, Option.map_eq_map, Option.map_eq_some_iff] at h
    exact Or.inr ⟨rfl, h⟩
  · simp only [if_neg hj, id_map'] at h
    exact Or.inl h

/-- A connection is bound to a worker after an action because it was before, or
because it dispatched a REGISTER that names the worker in its envelope. -/
theorem boundTo_step {p : Process} {a : Action} {i : Nat} {conn : Connection} {w : WorkerId}
    (hconn : (p.step a).connections[i]? = some conn) (hbound : conn.BoundTo w) :
    (∃ conn₀, p.connections[i]? = some conn₀ ∧ conn₀.BoundTo w) ∨
      (∃ now io msg, a = .message i now io msg ∧ p.Reading i ∧ msg.type = .register ∧
        msg.worker = w) := by
  cases a with
  | accept =>
    have h : (p.connections ++ [({} : Connection)])[i]? = some conn := hconn
    rw [List.getElem?_append] at h
    split at h
    · exact Or.inl ⟨conn, h, hbound⟩
    · rw [List.getElem?_singleton] at h
      split at h
      · cases h
        cases hbound.2
      · cases h
  | message j now io msg =>
    rcases getElem?_of_modify hconn with h | ⟨rfl, conn₀, hconn₀, rfl⟩
    · exact Or.inl ⟨conn, h, hbound⟩
    · rcases Connection.boundTo_received hbound with h | ⟨hphase, htype, hw⟩
      · exact Or.inl ⟨conn₀, hconn₀, h⟩
      · exact Or.inr ⟨now, io, msg, rfl, ⟨conn₀, hconn₀, hphase⟩, htype, hw⟩
  | drop j =>
    rcases getElem?_of_modify hconn with h | ⟨rfl, conn₀, hconn₀, rfl⟩
    · exact Or.inl ⟨conn, h, hbound⟩
    · exact Or.inl ⟨conn₀, hconn₀, Connection.boundTo_dropped hbound⟩
  | close j now =>
    rcases getElem?_of_modify hconn with h | ⟨rfl, conn₀, hconn₀, rfl⟩
    · exact Or.inl ⟨conn, h, hbound⟩
    · exact Or.inl ⟨conn₀, hconn₀, Connection.boundTo_closed hbound⟩
  | markClosed j =>
    rcases getElem?_of_modify hconn with h | ⟨rfl, conn₀, hconn₀, rfl⟩
    · exact Or.inl ⟨conn, h, hbound⟩
    · exact Or.inl ⟨conn₀, hconn₀, Connection.boundTo_marked hbound⟩
  | _ => exact Or.inl ⟨conn, hconn, hbound⟩

end Process

end GpuFleet
