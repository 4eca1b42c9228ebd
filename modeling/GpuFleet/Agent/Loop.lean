import GpuFleet.Agent.Publishing
import GpuFleet.Lib.Run
import GpuFleet.Protocol.Await

/-!
# The loop of an agent

`reconnect_loop` of `agent/agent.cpp`, with all that it calls:
`connect_and_register`, `read_one_message`, `publish_snapshot`, `handle_admin`
and `send_heartbeat`.  An `AgentLoop` is the loop between two calls that it
waits for, and a `LoopInput` is what such a call comes to: a connection, bytes,
a look at the devices, the end of a sleep.  So a list of inputs is the life of
an agent process over any number of connections.

The agent makes no promise about what arrives, but it keeps one about what it
sends (`generations_consecutive`): the batches of the whole process have the
generations 1, 2, 3 and so on, and all that it sends on one connection after
the greeting carries one epoch.
-/

namespace GpuFleet

open Incremental FrameDecoder

/-- The error of `read_one_message` when its loop ends without a message. -/
def AwaitFailure.readFailure : AwaitFailure → WorkerAgent.ReadFailure
  | .recv _ => .recv
  | .closed => .closed
  | .frame _ => .frame
  | .exhausted => .timeout

namespace WorkerAgent

/-- The agent in an epoch that it has read. -/
def inEpoch (a : WorkerAgent) (epoch : CoordinatorEpoch) : WorkerAgent :=
  { a with lastKnownEpoch := epoch }

/-- `handle_admin`: what the agent answers, if it answers. -/
def handleAdmin (a : WorkerAgent) (msg : Message) : Option Message :=
  if msg.type = .ack ∨ msg.type = .error ∨ msg.type = .registerAck ∨
      msg.type = .snapshotResponse then none
  else some {
    type := .ack
    ok := true
    requestId := msg.requestId
    workerBoot := a.opts.boot
    worker := a.opts.worker }

/-- The message of `send_heartbeat`. -/
def Publisher.heartbeat (a : Publisher) : Message where
  type := .heartbeat
  worker := a.opts.worker
  workerBoot := a.opts.boot
  epoch := a.lastKnownEpoch
  healthGen := a.healthGen

/-- What the loop over the frames of a chunk comes to: the messages for
`handle_admin`, the last answer of `feed`, and the decoder. -/
structure Pulled where
  messages : List Message
  last : Answer Frame ByteString
  dec : FrameDecoder

/-- The loop over the frames of a chunk, from a call of `feed` on.  A frame
whose payload does not decode is passed over. -/
def pull : Nat → FrameDecoder → ByteString → Pulled
  | 0, dec, data => ⟨[], .needMore, dec ++ data⟩
  | n + 1, dec, data =>
    match feed dec data with
    | (.needMore, dec) => ⟨[], .needMore, dec⟩
    | (.error perr, dec) => ⟨[], .error perr, dec⟩
    | (.ready frame, dec) =>
      let rest := pull n dec []
      match decodeMessage frame.payload with
      | .ok msg => { rest with messages := msg :: rest.messages }
      | .error _ => rest

end WorkerAgent

/-- The messages in frames, without those that do not decode. -/
def decodedMessages (frames : List Frame) : List Message :=
  frames.filterMap fun f => (decodeMessage f.payload).toOption

/-- The loop over the frames of a chunk goes through the frames that the bytes
mean. -/
theorem pull_of_scans {n : Nat} {bytes : ByteString} {frames : List Frame}
    {last : Answer Frame ByteString} (h : Scans feed bytes frames last) (hn : bytes.length < n)
    {dec : FrameDecoder} {data : ByteString} (hbytes : dec ++ data = bytes) :
    (WorkerAgent.pull n dec data).messages = decodedMessages frames ∧
      (WorkerAgent.pull n dec data).last = last ∧
      (last = .needMore → bytes = encodeFrames frames ++ (WorkerAgent.pull n dec data).dec) := by
  induction h generalizing n dec data with
  | @waits buf hwaits =>
    obtain ⟨n, rfl⟩ := Nat.exists_eq_succ_of_ne_zero (Nat.ne_of_gt (Nat.zero_lt_of_lt hn))
    rcases hout : feed [] buf with ⟨answer, rest⟩
    rw [hout] at hwaits
    obtain rfl : answer = .needMore := hwaits
    obtain rfl := lawful_feed.waits _ _ hout
    rw [WorkerAgent.pull, lawful_feed.feed_nil, hbytes, hout]
    exact ⟨rfl, rfl, fun _ => rfl⟩
  | @fails buf perr hfails =>
    obtain ⟨n, rfl⟩ := Nat.exists_eq_succ_of_ne_zero (Nat.ne_of_gt (Nat.zero_lt_of_lt hn))
    rcases hout : feed [] buf with ⟨answer, rest⟩
    rw [hout] at hfails
    obtain rfl : answer = .error perr := hfails
    rw [WorkerAgent.pull, lawful_feed.feed_nil, hbytes, hout]
    exact ⟨rfl, rfl, fun h => by cases h⟩
  | @yields buf rest frame frames last hready _ ih =>
    obtain ⟨n, rfl⟩ := Nat.exists_eq_succ_of_ne_zero (Nat.ne_of_gt (Nat.zero_lt_of_lt hn))
    obtain ⟨hsplit, hne, -⟩ := lawful_feed.yields _ _ _ hready
    have hlength := congrArg List.length hsplit
    have hpos := List.length_pos_iff.mpr hne
    rw [List.length_append] at hlength
    have hrest : rest.length < n := by omega
    obtain ⟨hmessages, hlast, hleft⟩ := ih hrest (List.append_nil rest)
    have hbuf : last = .needMore →
        buf = encodeFrames (frame :: frames) ++ (WorkerAgent.pull n rest []).dec := by
      intro hmore
      rw [hsplit, encodeFrames, List.flatMap_cons, List.append_assoc]
      exact congrArg (encodeFrame frame.type frame.payload ++ ·) (hleft hmore)
    rw [WorkerAgent.pull, lawful_feed.feed_nil, hbytes, hready]
    dsimp only
    split
    · next msg hdecode =>
      refine ⟨?_, hlast, hbuf⟩
      simp only [decodedMessages, List.filterMap_cons, hdecode, Except.toOption]
      exact congrArg (msg :: ·) hmessages
    · next err hdecode =>
      refine ⟨?_, hlast, hbuf⟩
      simp only [decodedMessages, List.filterMap_cons, hdecode, Except.toOption]
      exact hmessages

/-- Where `reconnect_loop` waits: for a connection, in one of the reads of
`connect_and_register`, for the devices, in a call of `recv_some_opt` with its
number, or for the heartbeat that is due. -/
inductive LoopPlace
  | idle
  | helloRead (a : Await)
  | registerRead (a : Await)
  | publishing
  | draining (i : Nat)
  | beating
  | stopped

/-- `for (int i = 0; i < 16; ++i)`. -/
def kDrainAttempts : Nat := 16

/-- The process of an agent. -/
structure AgentLoop where
  agent : WorkerAgent.Publisher
  running : Bool := true
  place : LoopPlace := .idle
  dec : FrameDecoder := []
  /-- The two reads of `connect_and_register` on this connection, once they
  have ended, for the record. -/
  hello : Option Await := none
  register : Option Await := none
  /-- What the loop after them has received on this connection, for the
  record: the bytes, the messages in them, and whether the decoder has
  reported an error. -/
  drained : ByteString := []
  served : List Message := []
  broken : Bool := false
  /-- The messages that were handed to `send_all`, each with the number of its
  connection, for the record. -/
  connections : Nat := 0
  sent : List (Nat × Message) := []

/-- What the loop meets with: the stream, the backend, the clock, and a call
of `stop`. -/
inductive LoopInput
  /-- What `TcpStream::connect` returns, and the `send_all` of the HELLO. -/
  | connect (connected : Bool) (sent : Except Error Unit)
  /-- What `recv_some_opt` returns.  If that leads to a REGISTER, then `found` is
  what the backend enumerates and `sent` what `send_all` returns. -/
  | recv (r : Result (Option ByteString)) (found : WorkerAgent.Enumeration)
      (sent : Except Error Unit)
  | publish (backend : DeviceBackend) (clock : Nat → Timestamp)
  | beat
  | stop

namespace AgentLoop

/-- The end of a connection. -/
def leave (s : AgentLoop) : AgentLoop :=
  { s with place := if s.running then .idle else .stopped }

/-- What `reconnect_loop` does when `connect_and_register` returns. -/
def returns (s : AgentLoop) (returned : Except Error Unit) : AgentLoop :=
  let registered := (ResultVoid.ofReturn returned).ok
  if !registered then { s with place := .idle } else { s with place := .publishing, dec := [] }

/-- The top of `reconnect_loop`, up to the first read. -/
def connect (s : AgentLoop) (connected : Bool) (sent : Except Error Unit) :
    AgentLoop × List Message :=
  if !s.running then ({ s with place := .stopped }, [])
  else if !connected then (s, [])
  else
    let s := { s with
      dec := []
      hello := none
      register := none
      drained := []
      served := []
      broken := false
      connections := s.connections + 1 }
    match WorkerAgent.helloSent sent with
    | .error err => (s.returns (.error err), [s.agent.hello])
    | .ok () => ({ s with place := .helloRead {} }, [s.agent.hello])

/-- The read of the answer to the HELLO has ended. -/
def greeted (s : AgentLoop) (outcome : Except AwaitFailure Message)
    (found : WorkerAgent.Enumeration) (sent : Except Error Unit) : AgentLoop × List Message :=
  match s.agent.helloRead (outcome.mapError AwaitFailure.readFailure) with
  | .error err => (s.returns (.error err), [])
  | .ok agent =>
    let s := { s with agent := { s.agent with toWorkerAgent := agent } }
    match WorkerAgent.registerSent sent with
    | .error err => (s.returns (.error err), [agent.register found])
    | .ok () => ({ s with place := .registerRead {} }, [agent.register found])

/-- The read of the answer to the REGISTER has ended. -/
def registered (s : AgentLoop) (outcome : Except AwaitFailure Message) : AgentLoop :=
  match s.agent.registerRead (outcome.mapError AwaitFailure.readFailure) with
  | .error err => s.returns (.error err)
  | .ok agent => { s with agent := { s.agent with toWorkerAgent := agent } }.returns (.ok ())

/-- The body of the loop that drains the connection. -/
def drain (s : AgentLoop) (i : Nat) : Result (Option ByteString) → AgentLoop × List Message
  | .error _ => (s.leave, [])
  | .ok none => ({ s with place := .beating }, [])
  | .ok (some data) =>
    if data.isEmpty then (s.leave, [])
    else
      let pulled := WorkerAgent.pull ((s.dec ++ data).length + 1) s.dec data
      let acks := pulled.messages.filterMap s.agent.handleAdmin
      let s := { s with
        dec := pulled.dec
        drained := s.drained ++ data
        served := s.served ++ pulled.messages }
      match pulled.last with
      | .error _ => ({ s with broken := true }.leave, acks)
      | _ =>
        ({ s with place := if i + 1 < kDrainAttempts then .draining (i + 1) else .beating }, acks)

/-- One input: the process after it, and what it hands to `send_all`. -/
def act (s : AgentLoop) : LoopInput → AgentLoop × List Message
  | .connect connected sent =>
    match s.place with
    | .idle => s.connect connected sent
    | _ => (s, [])
  | .recv r found sent =>
    match s.place with
    | .helloRead a =>
      let a := a.step r
      match a.outcome with
      | none => ({ s with place := .helloRead a }, [])
      | some outcome => { s with hello := some a }.greeted outcome found sent
    | .registerRead a =>
      let a := a.step r
      match a.outcome with
      | none => ({ s with place := .registerRead a }, [])
      | some outcome => ({ s with register := some a }.registered outcome, [])
    | .draining i => s.drain i r
    | _ => (s, [])
  | .publish backend clock =>
    match s.place with
    | .publishing =>
      if !s.running then (s.leave, [])
      else
        let (agent, msg) := s.agent.publishSnapshot backend clock
        ({ s with agent := agent, place := .draining 0 }, msg.toList)
    | _ => (s, [])
  | .beat =>
    match s.place with
    | .beating => ({ s with place := .publishing }, [s.agent.heartbeat])
    | _ => (s, [])
  | .stop => ({ s with running := false }, [])

/-- The messages are written down. -/
def note (out : AgentLoop × List Message) : AgentLoop :=
  { out.1 with sent := out.1.sent ++ out.2.map fun m => (out.1.connections, m) }

/-- An input of the loop, with what it sends on record. -/
def step (s : AgentLoop) (i : LoopInput) : AgentLoop := note (s.act i)

/-- The inputs of a process, one after the other. -/
def run (s : AgentLoop) (inputs : List LoopInput) : AgentLoop := Run.run step s inputs

/-- A process that was just started. -/
def start (opts : WorkerAgent.Options) : AgentLoop where
  agent := { opts := opts }

/-! ## What one input does -/

variable {s : AgentLoop}

/-- The process always takes it that it is registered. -/
theorem returns_eq (s : AgentLoop) (returned : Except Error Unit) :
    s.returns returned = { s with place := .publishing, dec := [] } := by
  simp only [returns, ResultVoid.ofReturn_ok, Bool.not_true, Bool.false_eq_true, if_false]

/-- A process that connects sends a HELLO and waits for the answer. -/
theorem connect_eq (hrunning : s.running = true) (sent : Except Error Unit) :
    s.connect true sent = ({ s with
      dec := []
      hello := none
      register := none
      drained := []
      served := []
      broken := false
      connections := s.connections + 1
      place := .helloRead {} }, [s.agent.hello]) := by
  simp only [connect, hrunning, WorkerAgent.helloSent, WorkerAgent.checkSent_ok, Bool.not_true,
    Bool.false_eq_true, if_false]

/-- After the first read, the process sends a REGISTER in the epoch that it has
read, or in epoch 0. -/
theorem greeted_eq (s : AgentLoop) (outcome : Except AwaitFailure Message)
    (found : WorkerAgent.Enumeration) (sent : Except Error Unit) :
    ∃ agent : WorkerAgent, agent = s.agent.inEpoch (WorkerAgent.readOneMessage
        (outcome.mapError AwaitFailure.readFailure)).1.epoch ∧
      s.greeted outcome found sent
        = ({ s with
            agent := { s.agent with toWorkerAgent := agent }
            place := .registerRead {} }, [agent.register found]) := by
  refine ⟨_, rfl, ?_⟩
  simp only [greeted, WorkerAgent.helloRead_eq, WorkerAgent.registerSent,
    WorkerAgent.checkSent_ok, WorkerAgent.inEpoch]

/-- After the second read, it publishes. -/
theorem registered_eq (s : AgentLoop) (outcome : Except AwaitFailure Message) :
    ∃ gen : RegistrationGeneration, s.registered outcome = { s with
      agent := { s.agent with regGen := gen }
      place := .publishing
      dec := [] } := by
  rcases s.agent.registerRead_cases (outcome.mapError AwaitFailure.readFailure) with
    hread | ⟨ack2, -, -, hread⟩
  · exact ⟨s.agent.regGen.next, by simp only [registered, hread, returns_eq]⟩
  · exact ⟨s.agent.regGen, by simp only [registered, hread, returns_eq]⟩

/-- The answers of `handle_admin` are acknowledgements. -/
theorem type_of_handleAdmin {a : WorkerAgent} {msg ack : Message}
    (h : a.handleAdmin msg = some ack) : ack.type = .ack := by
  unfold WorkerAgent.handleAdmin at h
  split at h
  · cases h
  · cases h
    rfl

/-- What an input can do to the agent, and what is sent. -/
inductive ActCase (s : AgentLoop) (out : AgentLoop × List Message) : Prop
  /-- Nothing is sent, and the greeting does not begin. -/
  | quiet (gen : RegistrationGeneration) (hsent : out.2 = [])
      (hagent : out.1.agent = { s.agent with regGen := gen })
      (hnumber : out.1.connections = s.connections)
      (hplace : ∀ a, out.1.place = .helloRead a → ∃ b, s.place = .helloRead b)
  | greets (hsent : out.2 = [s.agent.hello]) (hagent : out.1.agent = s.agent)
      (hnumber : out.1.connections = s.connections + 1)
  | registers (a : Await) (epoch : CoordinatorEpoch) (found : WorkerAgent.Enumeration)
      (hwaits : s.place = .helloRead a)
      (hagent : out.1.agent = { s.agent with lastKnownEpoch := epoch })
      (hsent : out.2 = [out.1.agent.register found]) (hnumber : out.1.connections = s.connections)
      (hplace : ∀ a, out.1.place ≠ .helloRead a)
  | answers (hsent : ∀ m ∈ out.2, m.type = .ack) (hagent : out.1.agent = s.agent)
      (hnumber : out.1.connections = s.connections) (hplace : ∀ a, out.1.place ≠ .helloRead a)
  | publishes (backend : DeviceBackend) (clock : Nat → Timestamp)
      (hagent : out.1.agent = (s.agent.publishSnapshot backend clock).1)
      (hsent : out.2 = (s.agent.publishSnapshot backend clock).2.toList)
      (hnumber : out.1.connections = s.connections) (hplace : ∀ a, out.1.place ≠ .helloRead a)
  | beats (hsent : out.2 = [s.agent.heartbeat]) (hagent : out.1.agent = s.agent)
      (hnumber : out.1.connections = s.connections) (hplace : ∀ a, out.1.place ≠ .helloRead a)

theorem place_leave (s : AgentLoop) (a : Await) : s.leave.place ≠ .helloRead a := by
  unfold leave
  dsimp only
  split
  · exact LoopPlace.noConfusion
  · exact LoopPlace.noConfusion

/-- An input for which the process does not wait. -/
theorem ActCase.unchanged (s : AgentLoop) : s.ActCase (s, []) :=
  .quiet s.agent.regGen rfl rfl rfl fun a ha => ⟨a, ha⟩

theorem drain_cases (s : AgentLoop) (i : Nat) (r : Result (Option ByteString)) :
    s.ActCase (s.drain i r) := by
  have hleave : ∀ t : AgentLoop, t.agent = s.agent → t.connections = s.connections →
      ∀ acks : List Message, (∀ m ∈ acks, m.type = .ack) → s.ActCase (t.leave, acks) :=
    fun t hagent hnumber acks hacks => .answers hacks hagent hnumber (place_leave t)
  match r with
  | .error err => exact hleave s rfl rfl [] (List.forall_mem_nil _)
  | .ok none =>
    exact .quiet s.agent.regGen rfl rfl rfl fun a ha => LoopPlace.noConfusion ha
  | .ok (some data) =>
    unfold drain
    dsimp only
    have hacks : ∀ m ∈ (WorkerAgent.pull ((s.dec ++ data).length + 1) s.dec data).messages.filterMap
        s.agent.handleAdmin, m.type = .ack := by
      intro m hm
      obtain ⟨msg, -, hmsg⟩ := List.mem_filterMap.mp hm
      exact type_of_handleAdmin hmsg
    split
    · exact hleave s rfl rfl [] (List.forall_mem_nil _)
    · split
      · apply hleave _ _ _ _ hacks
        · rfl
        · rfl
      · refine .answers hacks rfl rfl ?_
        intro a
        dsimp only
        split
        · exact LoopPlace.noConfusion
        · exact LoopPlace.noConfusion

theorem act_cases (s : AgentLoop) (i : LoopInput) : s.ActCase (s.act i) := by
  cases i with
  | connect connected sent =>
    simp only [act]
    split
    · unfold connect
      split
      · exact .quiet s.agent.regGen rfl rfl rfl fun a ha => LoopPlace.noConfusion ha
      · next hrunning =>
        split
        · exact .unchanged s
        · simp only [WorkerAgent.helloSent, WorkerAgent.checkSent_ok]
          exact .greets rfl rfl rfl
    · exact .unchanged s
  | recv r found sent =>
    simp only [act]
    split
    · next a hplace =>
      split
      · exact .quiet s.agent.regGen rfl rfl rfl fun _ _ => ⟨a, hplace⟩
      · next outcome _ =>
        obtain ⟨agent, hagent, hgreeted⟩ :=
          greeted_eq { s with hello := some (a.step r) } outcome found sent
        rw [hgreeted]
        subst hagent
        exact .registers a _ found hplace rfl rfl rfl fun _ => LoopPlace.noConfusion
    · split
      · exact .quiet s.agent.regGen rfl rfl rfl fun a ha => LoopPlace.noConfusion ha
      · next outcome _ =>
        obtain ⟨gen, hregistered⟩ :=
          registered_eq { s with register := some _ } outcome
        rw [hregistered]
        exact .quiet gen rfl rfl rfl fun a ha => LoopPlace.noConfusion ha
    · exact drain_cases s _ r
    · exact .unchanged s
  | publish backend clock =>
    simp only [act]
    split
    · split
      · exact .answers (List.forall_mem_nil _) rfl rfl (place_leave s)
      · exact .publishes backend clock rfl rfl rfl fun _ => LoopPlace.noConfusion
    · exact .unchanged s
  | beat =>
    simp only [act]
    split
    · exact .beats rfl rfl rfl fun _ => LoopPlace.noConfusion
    · exact .unchanged s
  | stop => exact .quiet s.agent.regGen rfl rfl rfl fun a ha => ⟨a, ha⟩

end AgentLoop

/-- The types of the messages that an agent sends. -/
def agentTypes : List MessageType := [.hello, .register, .deviceSnapshot, .heartbeat, .ack]

theorem AgentLoop.type_of_act {s : AgentLoop} {i : LoopInput} {m : Message}
    (h : m ∈ (s.act i).2) : m.type ∈ agentTypes := by
  cases s.act_cases i with
  | quiet _ hsent =>
    rw [hsent] at h
    cases h
  | greets hsent =>
    rw [hsent] at h
    rw [List.mem_singleton.mp h]
    exact List.mem_cons_self
  | registers a epoch found _ _ hsent =>
    rw [hsent] at h
    rw [List.mem_singleton.mp h]
    exact List.mem_cons_of_mem _ List.mem_cons_self
  | answers hsent =>
    rw [hsent m h]
    decide
  | publishes backend clock _ hsent =>
    rw [hsent] at h
    unfold WorkerAgent.Publisher.publishSnapshot at h
    dsimp only at h
    split at h
    · cases h
    · rw [Option.toList_some] at h
      rw [List.mem_singleton.mp h]
      exact List.mem_cons_of_mem _ (List.mem_cons_of_mem _ List.mem_cons_self)
  | beats hsent =>
    rw [hsent] at h
    rw [List.mem_singleton.mp h]
    show MessageType.heartbeat ∈ agentTypes
    decide

/-! ## What a process publishes -/

/-- The message is the batch of generation `gen` of this process. -/
structure Message.Publishes (m : Message) (opts : WorkerAgent.Options) (gen : UInt64) :
    Prop where
  type : m.type = .deviceSnapshot
  worker : m.worker = opts.worker
  boot : m.workerBoot = opts.boot
  batch : ∃ batch, batch ≠ [] ∧ m.payload = encodeObservationBatch batch ∧
    ∀ o ∈ batch, o.observationGeneration = ⟨gen⟩ ∧ o.deviceGeneration = ⟨gen⟩ ∧
      o.healthGeneration = ⟨1⟩ ∧ o.epoch = m.epoch ∧ o.sourceWorker = opts.worker ∧
      o.sourceWorkerBoot = opts.boot ∧ o.sourceNode = opts.node

/-- The message depends on the epoch that the agent has read. -/
def Message.Dated (m : Message) : Prop := m.type ≠ .hello ∧ m.type ≠ .ack

namespace WorkerAgent.Publisher

variable {a : Publisher} {backend : DeviceBackend} {clock : Nat → Timestamp}

/-- Every observation of a batch is made in the name of the agent. -/
theorem metadata_of_mem_batch {o : DeviceObservation} (h : o ∈ a.batch backend clock) :
    o.observationGeneration = a.obsGen ∧ o.deviceGeneration = a.deviceGen ∧
      o.healthGeneration = a.healthGen ∧ o.epoch = a.lastKnownEpoch ∧
      o.sourceWorker = a.opts.worker ∧ o.sourceWorkerBoot = a.opts.boot ∧
      o.sourceNode = a.opts.node := by
  unfold batch at h
  split at h
  · cases h
  · obtain ⟨⟨d, i⟩, -, ho⟩ := List.mem_filterMap.mp h
    unfold observe at ho
    split at ho
    · cases ho
    · cases ho
      exact ⟨rfl, rfl, rfl, rfl, rfl, rfl, rfl⟩

/-- A publication sends nothing, or a batch after which the generations
move on. -/
theorem publishSnapshot_cases (a : Publisher) (backend : DeviceBackend)
    (clock : Nat → Timestamp) :
    a.publishSnapshot backend clock = (a, none) ∨
      ∃ m, a.publishSnapshot backend clock
          = ({ a with obsGen := a.obsGen.next, deviceGen := a.deviceGen.next }, some m) ∧
        m.epoch = a.lastKnownEpoch ∧
        (a.deviceGen.value = a.obsGen.value → a.healthGen = ⟨1⟩ →
          m.Publishes a.opts a.obsGen.value) := by
  unfold publishSnapshot
  dsimp only
  split
  · exact Or.inl rfl
  · next hbatch =>
    refine Or.inr ⟨_, rfl, rfl, ?_⟩
    intro hdevice hhealth
    refine ⟨rfl, rfl, rfl, _, fun h => hbatch (List.isEmpty_iff.mpr h), rfl, ?_⟩
    intro o ho
    obtain ⟨hobs, hdev, hh, hrest⟩ := metadata_of_mem_batch ho
    rw [hobs, hdev, hh, hhealth, ← hdevice]
    exact ⟨congrArg Generation.mk hdevice.symm, rfl, rfl, hrest⟩

end WorkerAgent.Publisher

namespace AgentLoop

/-- The batches that a process has sent, over all its connections. -/
def batches (s : AgentLoop) : List Message :=
  (s.sent.map Prod.snd).filter fun m => decide (m.type = .deviceSnapshot)

/-- All that depends on an epoch is sent in one epoch per connection, and that
is `epoch` on the last connection. -/
structure OneEpoch (sent : List (Nat × Message)) (number : Nat) (epoch : CoordinatorEpoch) :
    Prop where
  same : ∀ k m m', (k, m) ∈ sent → (k, m') ∈ sent → m.Dated → m'.Dated → m.epoch = m'.epoch
  numbers : ∀ e ∈ sent, e.1 ≤ number
  last : ∀ m, (number, m) ∈ sent → m.Dated → m.epoch = epoch

/-- The epoch can change with the connection, or as long as nothing depends
on it. -/
theorem OneEpoch.concat {sent : List (Nat × Message)} {number number' : Nat}
    {epoch epoch' : CoordinatorEpoch} (h : OneEpoch sent number epoch) {more : List Message}
    (hnumber : number' = number + 1 ∨ number' = number ∧
      (epoch' = epoch ∨ ∀ m, (number, m) ∈ sent → ¬m.Dated))
    (hmore : ∀ m ∈ more, m.Dated → m.epoch = epoch') :
    OneEpoch (sent ++ more.map fun m => (number', m)) number' epoch' := by
  have hnew : ∀ k m, (k, m) ∈ more.map (fun m => (number', m)) → k = number' ∧ m ∈ more := by
    intro k m hm
    obtain ⟨m', hm', he⟩ := List.mem_map.mp hm
    obtain ⟨rfl, rfl⟩ := Prod.mk.inj he
    exact ⟨rfl, hm'⟩
  -- what is on the last connection already has its epoch
  have hold : ∀ m, (number', m) ∈ sent → m.Dated → m.epoch = epoch' := by
    intro m hm hdated
    rcases hnumber with rfl | ⟨rfl, rfl | hnone⟩
    · exact absurd (h.numbers _ hm) (Nat.not_succ_le_self number)
    · exact h.last m hm hdated
    · exact absurd hdated (hnone m hm)
  have hlast : ∀ m, (number', m) ∈ sent ++ more.map (fun m => (number', m)) → m.Dated →
      m.epoch = epoch' := by
    intro m hm hdated
    rcases List.mem_append.mp hm with hm | hm
    · exact hold m hm hdated
    · exact hmore m (hnew _ m hm).2 hdated
  refine ⟨?_, ?_, hlast⟩
  · intro k m m' hm hm' hdated hdated'
    by_cases hk : k = number'
    · subst hk
      rw [hlast m hm hdated, hlast m' hm' hdated']
    · have hsent : ∀ m, (k, m) ∈ sent ++ more.map (fun m => (number', m)) → (k, m) ∈ sent := by
        intro m hm
        rcases List.mem_append.mp hm with hm | hm
        · exact hm
        · exact absurd (hnew k m hm).1 hk
      exact h.same k m m' (hsent m hm) (hsent m' hm') hdated hdated'
  · intro e he
    rcases List.mem_append.mp he with he | he
    · have hle := h.numbers e he
      omega
    · exact Nat.le_of_eq (hnew e.1 e.2 he).1

/-- What a process has sent, and how that fits its state. -/
structure Consecutive (opts : WorkerAgent.Options) (s : AgentLoop) : Prop where
  options : s.agent.opts = opts
  published : ∀ i m, s.batches[i]? = some m → Message.Publishes m opts (UInt64.ofNat (i + 1))
  obsGen : s.agent.obsGen.value = UInt64.ofNat (s.batches.length + 1)
  deviceGen : s.agent.deviceGen.value = s.agent.obsGen.value
  healthGen : s.agent.healthGen = ⟨1⟩
  epochs : OneEpoch s.sent s.connections s.agent.lastKnownEpoch
  greeting : ∀ a, s.place = .helloRead a → ∀ m, (s.connections, m) ∈ s.sent → ¬m.Dated

theorem consecutive_start (opts : WorkerAgent.Options) : Consecutive opts (start opts) where
  options := rfl
  published := by
    intro i m h
    cases h
  obsGen := rfl
  deviceGen := rfl
  healthGen := rfl
  epochs := {
    same := fun k m m' h => absurd h List.not_mem_nil
    numbers := List.forall_mem_nil _
    last := fun m h => absurd h List.not_mem_nil }
  greeting := fun a h => LoopPlace.noConfusion h

/-- The record is written by `note` only. -/
theorem act_sent (s : AgentLoop) (i : LoopInput) : (s.act i).1.sent = s.sent := by
  cases i with
  | connect connected sent =>
    simp only [act, connect, WorkerAgent.helloSent, WorkerAgent.checkSent_ok]
    split
    · split
      · rfl
      · split
        · rfl
        · rfl
    · rfl
  | recv r found sent =>
    simp only [act]
    split
    · split
      · rfl
      · next outcome _ =>
        obtain ⟨agent, -, hgreeted⟩ :=
          greeted_eq { s with hello := some _ } outcome found sent
        rw [hgreeted]
    · split
      · rfl
      · next outcome _ =>
        obtain ⟨gen, hregistered⟩ := registered_eq { s with register := some _ } outcome
        rw [hregistered]
    · match r with
      | .error err => rfl
      | .ok none => rfl
      | .ok (some data) =>
        simp only [drain]
        split
        · rfl
        · split
          · rfl
          · rfl
    · rfl
  | publish backend clock =>
    simp only [act]
    split
    · split
      · rfl
      · rfl
    · rfl
  | beat =>
    simp only [act]
    split
    · rfl
    · rfl
  | stop => rfl

theorem batches_note (s : AgentLoop) (i : LoopInput) :
    (s.step i).batches
      = s.batches ++ (s.act i).2.filter fun m => decide (m.type = .deviceSnapshot) := by
  show (((s.act i).1.sent ++ _).map Prod.snd).filter _ = _
  rw [act_sent, List.map_append, List.map_map, List.filter_append]
  congr 2
  exact List.map_id _

/-- An input that publishes nothing. -/
theorem Consecutive.keep {opts : WorkerAgent.Options} (h : Consecutive opts s) (i : LoopInput)
    (hnone : ∀ m ∈ (s.act i).2, m.type ≠ .deviceSnapshot)
    (hkept : (s.act i).1.agent.opts = s.agent.opts ∧ (s.act i).1.agent.obsGen = s.agent.obsGen ∧
      (s.act i).1.agent.deviceGen = s.agent.deviceGen ∧
      (s.act i).1.agent.healthGen = s.agent.healthGen)
    (hnumber : (s.act i).1.connections = s.connections + 1 ∨
      (s.act i).1.connections = s.connections ∧
        ((s.act i).1.agent.lastKnownEpoch = s.agent.lastKnownEpoch ∨
          ∀ m, (s.connections, m) ∈ s.sent → ¬m.Dated))
    (hdated : ∀ m ∈ (s.act i).2, m.Dated → m.epoch = (s.act i).1.agent.lastKnownEpoch)
    (hgreeting : ∀ a, (s.act i).1.place = .helloRead a →
      ∀ m, ((s.act i).1.connections, m) ∈ (s.step i).sent → ¬m.Dated) :
    Consecutive opts (s.step i) := by
  have hbatches : (s.step i).batches = s.batches := by
    rw [batches_note, List.filter_eq_nil_iff.mpr, List.append_nil]
    intro m hm
    simpa using hnone m hm
  obtain ⟨hopts, hobs, hdevice, hhealth⟩ := hkept
  refine ⟨hopts.trans h.options, ?_, ?_, ?_, hhealth.trans h.healthGen, ?_, hgreeting⟩
  · rw [hbatches]
    exact h.published
  · rw [hbatches, ← h.obsGen]
    exact congrArg Generation.value hobs
  · show (s.act i).1.agent.deviceGen.value = (s.act i).1.agent.obsGen.value
    rw [hdevice, hobs]
    exact h.deviceGen
  · show OneEpoch ((s.act i).1.sent ++ _) _ _
    rw [act_sent]
    exact h.epochs.concat hnumber hdated

/-- Every input keeps the generations in order. -/
theorem Consecutive.step {opts : WorkerAgent.Options} (h : Consecutive opts s) (i : LoopInput) :
    Consecutive opts (s.step i) := by
  have hnotes : ∀ a, (s.act i).1.place ≠ .helloRead a →
      (s.act i).1.place = .helloRead a → ∀ m, ((s.act i).1.connections, m) ∈ (s.step i).sent →
        ¬m.Dated :=
    fun a hne ha => absurd ha hne
  have hmem : ∀ k m, (k, m) ∈ (s.step i).sent ↔
      (k, m) ∈ s.sent ∨ m ∈ (s.act i).2 ∧ k = (s.act i).1.connections := by
    intro k m
    show (k, m) ∈ (s.act i).1.sent ++ _ ↔ _
    rw [act_sent, List.mem_append, List.mem_map]
    constructor
    · rintro (hm | ⟨m', hm', he⟩)
      · exact Or.inl hm
      · obtain ⟨rfl, rfl⟩ := Prod.mk.inj he
        exact Or.inr ⟨hm', rfl⟩
    · rintro (hm | ⟨hm, rfl⟩)
      · exact Or.inl hm
      · exact Or.inr ⟨m, hm, rfl⟩
  rcases act_cases s i with ⟨gen, hsent, hagent, hnumber, hplace⟩ | ⟨hsent, hagent, hnumber⟩ |
    ⟨a, epoch, found, hwaits, hagent, hsent, hnumber, hplace⟩ |
    ⟨hsent, hagent, hnumber, hplace⟩ | ⟨backend, clock, hagent, hsent, hnumber, hplace⟩ |
    ⟨hsent, hagent, hnumber, hplace⟩
  · -- nothing is sent
    refine h.keep i ?_ ?_ (Or.inr ⟨hnumber, Or.inl ?_⟩) ?_ ?_
    · rw [hsent]
      exact List.forall_mem_nil _
    · rw [hagent]
      exact ⟨rfl, rfl, rfl, rfl⟩
    · rw [hagent]
    · rw [hsent]
      exact List.forall_mem_nil _
    · intro a ha m hm
      obtain ⟨b, hb⟩ := hplace a ha
      rw [hmem, hsent, hnumber] at hm
      rcases hm with hm | ⟨hm, -⟩
      · exact h.greeting b hb m hm
      · cases hm
  · -- a connection, with a HELLO on it
    refine h.keep i ?_ ?_ (Or.inl hnumber) ?_ ?_
    · rw [hsent]
      intro m hm
      rw [List.mem_singleton.mp hm]
      exact MessageType.noConfusion
    · rw [hagent]
      exact ⟨rfl, rfl, rfl, rfl⟩
    · rw [hsent]
      intro m hm hdated
      rw [List.mem_singleton.mp hm] at hdated
      exact absurd rfl hdated.1
    · intro a _ m hm hdated
      rw [hmem, hsent, hnumber] at hm
      rcases hm with hm | ⟨hm, -⟩
      · exact absurd (h.epochs.numbers _ hm) (Nat.not_succ_le_self _)
      · rw [List.mem_singleton.mp hm] at hdated
        exact hdated.1 rfl
  · -- the first read has ended
    refine h.keep i ?_ ?_ (Or.inr ⟨hnumber, Or.inr (h.greeting a hwaits)⟩) ?_
      fun a => hnotes a (hplace a)
    · rw [hsent]
      intro m hm
      rw [List.mem_singleton.mp hm]
      exact MessageType.noConfusion
    · rw [hagent]
      exact ⟨rfl, rfl, rfl, rfl⟩
    · rw [hsent]
      intro m hm _
      rw [List.mem_singleton.mp hm]
      rfl
  · -- acknowledgements
    refine h.keep i ?_ ?_ (Or.inr ⟨hnumber, Or.inl ?_⟩) ?_ fun a => hnotes a (hplace a)
    · intro m hm htype
      cases (hsent m hm).symm.trans htype
    · rw [hagent]
      exact ⟨rfl, rfl, rfl, rfl⟩
    · rw [hagent]
    · intro m hm hdated
      exact absurd (hsent m hm) hdated.2
  · -- a publication
    rcases s.agent.publishSnapshot_cases backend clock with hnone | ⟨m, hsome, hepoch, hpublishes⟩
    · rw [hnone] at hagent hsent
      refine h.keep i ?_ ?_ (Or.inr ⟨hnumber, Or.inl ?_⟩) ?_ fun a => hnotes a (hplace a)
      · rw [hsent]
        exact List.forall_mem_nil _
      · rw [hagent]
        exact ⟨rfl, rfl, rfl, rfl⟩
      · rw [hagent]
      · rw [hsent]
        exact List.forall_mem_nil _
    · rw [hsome] at hagent hsent
      have hbatch := hpublishes h.deviceGen h.healthGen
      rw [h.options, h.obsGen] at hbatch
      have hbatches : (s.step i).batches = s.batches ++ [m] := by
        rw [batches_note, hsent]
        simp only [Option.toList_some, List.filter_cons, hbatch.type, decide_true, if_true,
          List.filter_nil]
      have hagent' : (s.step i).agent
          = { s.agent with obsGen := s.agent.obsGen.next, deviceGen := s.agent.deviceGen.next } :=
        hagent
      have hnext : ∀ n : Nat, UInt64.ofNat (n + 1) = UInt64.ofNat n + 1 := by
        intro n
        rw [UInt64.ofNat_add]
        rfl
      refine ⟨?_, ?_, ?_, ?_, ?_, ?_, fun a => hnotes a (hplace a)⟩
      · rw [hagent']
        exact h.options
      · intro j m' hm'
        rw [hbatches, List.getElem?_append] at hm'
        split at hm'
        · exact h.published j m' hm'
        · next hlength =>
          rw [List.getElem?_singleton] at hm'
          split at hm'
          · next hlast =>
            obtain rfl : j = s.batches.length := by omega
            rw [← Option.some.inj hm']
            exact hbatch
          · cases hm'
      · rw [hbatches, hagent', List.length_append, List.length_singleton]
        show s.agent.obsGen.value + 1 = _
        rw [h.obsGen, hnext (s.batches.length + 1)]
      · rw [hagent']
        show s.agent.deviceGen.value + 1 = s.agent.obsGen.value + 1
        rw [h.deviceGen]
      · rw [hagent']
        exact h.healthGen
      · show OneEpoch ((s.act i).1.sent ++ _) _ _
        rw [act_sent]
        refine h.epochs.concat (Or.inr ⟨hnumber, Or.inl ?_⟩) ?_
        · rw [hagent']
        · rw [hsent, hagent']
          intro m' hm' _
          rw [Option.toList_some] at hm'
          rw [List.mem_singleton.mp hm']
          exact hepoch
  · -- a heartbeat
    refine h.keep i ?_ ?_ (Or.inr ⟨hnumber, Or.inl ?_⟩) ?_ fun a => hnotes a (hplace a)
    · rw [hsent]
      intro m hm
      rw [List.mem_singleton.mp hm]
      exact MessageType.noConfusion
    · rw [hagent]
      exact ⟨rfl, rfl, rfl, rfl⟩
    · rw [hagent]
    · rw [hsent, hagent]
      intro m hm _
      rw [List.mem_singleton.mp hm]
      rfl

theorem consecutive_run (opts : WorkerAgent.Options) (inputs : List LoopInput) :
    Consecutive opts ((start opts).run inputs) := by
  induction inputs using List.reverseRecOn with
  | nil => exact consecutive_start opts
  | append_singleton rest i ih =>
    rw [run, Run.run_concat]
    exact ih.step i

/-- In the life of an agent process, over all its connections and whatever
arrives on them: the batches it sends have the generations 1, 2, 3 and so on,
so that none is left out and none is used twice.  Each is in the name of the
process and dated in one epoch, and everything that it sends on one connection,
apart from greetings and acknowledgements, is dated in one epoch. -/
theorem generations_consecutive (opts : WorkerAgent.Options) (inputs : List LoopInput) :
    (∀ i m, ((start opts).run inputs).batches[i]? = some m →
        Message.Publishes m opts (UInt64.ofNat (i + 1))) ∧
      ∀ k m m', (k, m) ∈ ((start opts).run inputs).sent →
        (k, m') ∈ ((start opts).run inputs).sent → m.Dated → m'.Dated → m.epoch = m'.epoch :=
  ⟨(consecutive_run opts inputs).published, (consecutive_run opts inputs).epochs.same⟩

end AgentLoop

end GpuFleet
