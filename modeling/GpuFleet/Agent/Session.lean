import GpuFleet.Agent.Agent
import GpuFleet.Coordinator.Dispatch
import GpuFleet.Lib.Run

/-!
# An agent and its coordinator

The session of an agent process with a coordinator, as a machine whose steps
are those of the agent, of the coordinator and of the network.  The agent runs
`connect_and_register` any number of times.  A send can fail, what is under
way can be lost in either direction, the connection can be gone at any point,
a request on a connection that the agent has left can still reach the
coordinator, and workers can be marked lost at any time.

`proceeds` says what the agent can do at one of its two reads.
-/

namespace GpuFleet

/-- Where `run` is: between two connections, at one of the reads of
`connect_and_register`, or in the loop that comes after it. -/
inductive AgentPhase
  | idle | helloSent | registerSent | serving
  deriving DecidableEq

/-- The agent, the coordinator and what is under way between them. -/
structure AgentSession where
  agent : WorkerAgent
  coordinator : Coordinator
  phase : AgentPhase := .idle
  /-- The HELLO that is under way. -/
  hello : Option Message := none
  /-- The REGISTER that is under way. -/
  register : Option Message := none
  replies : List Message := []
  /-- The connection is gone, and nothing comes back on it. -/
  cut : Bool := false
  /-- Requests on connections that the agent has left. -/
  late : List Message := []

/-- A step of the agent, of the coordinator or of the network. -/
inductive AgentStep
  /-- The agent has connected and sends a HELLO. -/
  | connect (sent : Except Error Unit)
  /-- The coordinator dispatches the HELLO. -/
  | deliverHello (now : Timestamp) (io : FileOutcomes)
  /-- The coordinator dispatches the REGISTER. -/
  | deliverRegister (now : Timestamp) (io : FileOutcomes)
  | loseHello
  | loseRegister
  | loseReply (i : Nat)
  | drop
  /-- The agent reads a reply and goes on.  If that is to send a REGISTER,
  `found` is what its backend enumerates and `sent` how `send_all` ends. -/
  | read (found : WorkerAgent.Enumeration) (sent : Except Error Unit)
  /-- The agent reads nothing and goes on. -/
  | readFails (why : WorkerAgent.ReadFailure) (found : WorkerAgent.Enumeration)
      (sent : Except Error Unit)
  /-- The agent leaves the connection. -/
  | leave
  /-- The coordinator dispatches a request that it finds on an old connection. -/
  | deliverLate (i : Nat) (now : Timestamp) (io : FileOutcomes)
  | loseLate (i : Nat)
  | workerLost (w : WorkerId) (now : Timestamp)
  /-- The coordinator dispatches something else: a report or a heartbeat, of
  this agent or of another one, an admin command, a foreign registration. -/
  | other (now : Timestamp) (io : FileOutcomes) (msg : Message)

/-- The message registers this process. -/
def WorkerAgent.registers (a : WorkerAgent) (msg : Message) : Bool :=
  decide (msg.type = .register) &&
    match decodeRegistration msg.payload with
    | .error _ => false
    | .ok reg => decide (reg.worker = a.opts.worker) && decide (reg.workerBoot = a.opts.boot)

/-- The generation in the record of a worker, if the record carries the boot
id. -/
def FleetStateStore.generationOf (s : FleetStateStore) (w : WorkerId) (boot : WorkerBootId) :
    Option RegistrationGeneration :=
  match s.workers[w]? with
  | none => none
  | some wr => if wr.boot = boot then some wr.registrationGeneration else none

namespace AgentSession

/-- A message whose `send_all` fails does not get under way. -/
def underWay (msg : Message) : Except Error Unit → Option Message
  | .ok () => some msg
  | .error _ => none

/-- The replies with one more. -/
def answered (s : AgentSession) (out : Dispatched) : List Message :=
  if s.cut then s.replies else s.replies ++ [out.reply]

/-- `stream.close` and the back-off. -/
def close (s : AgentSession) : AgentSession :=
  { s with
    phase := .idle
    hello := none
    register := none
    late := s.late ++ s.hello.toList ++ s.register.toList }

/-- What `run` does when `connect_and_register` returns. -/
def returns (s : AgentSession) (returned : Except Error Unit) : AgentSession :=
  let registered := (ResultVoid.ofReturn returned).ok
  if !registered then s.close else { s with phase := .serving }

/-- `connect_and_register` on a new connection, up to its first read. -/
def begin (s : AgentSession) (sent : Except Error Unit) : AgentSession :=
  let s := { s with hello := none, register := none, replies := [], cut := false }
  match WorkerAgent.helloSent sent with
  | .error err => s.returns (.error err)
  | .ok () => { s with phase := .helloSent, hello := underWay s.agent.hello sent }

/-- `connect_and_register`, from a read to the next one or to its end. -/
def proceed (s : AgentSession) (found : WorkerAgent.Enumeration) (sent : Except Error Unit)
    (answer : Except WorkerAgent.ReadFailure Message) : AgentSession :=
  match s.phase with
  | .helloSent =>
    match s.agent.helloRead answer with
    | .error err => s.returns (.error err)
    | .ok agent =>
      let s := { s with agent := agent }
      match WorkerAgent.registerSent sent with
      | .error err => s.returns (.error err)
      | .ok () =>
        { s with phase := .registerSent, register := underWay (agent.register found) sent }
  | .registerSent =>
    match s.agent.registerRead answer with
    | .error err => s.returns (.error err)
    | .ok agent => { s with agent := agent }.returns (.ok ())
  | .idle | .serving => s

/-- A boot id belongs to one process, so nobody else sends what would
register this one. -/
def step (s : AgentSession) : AgentStep → AgentSession
  | .connect sent => if s.phase = .idle then s.begin sent else s
  | .deliverHello now io =>
    match s.hello with
    | none => s
    | some msg =>
      let out := s.coordinator.dispatch now io msg
      { s with coordinator := out.coordinator, hello := none, replies := s.answered out }
  | .deliverRegister now io =>
    match s.register with
    | none => s
    | some msg =>
      let out := s.coordinator.dispatch now io msg
      { s with coordinator := out.coordinator, register := none, replies := s.answered out }
  | .loseHello => { s with hello := none }
  | .loseRegister => { s with register := none }
  | .loseReply i => { s with replies := s.replies.eraseIdx i }
  | .drop => { s with replies := [], cut := true }
  | .read found sent =>
    match s.replies with
    | [] => s
    | reply :: rest => { s with replies := rest }.proceed found sent (.ok reply)
  | .readFails why found sent => s.proceed found sent (.error why)
  | .leave => if s.phase = .serving then s.close else s
  | .deliverLate i now io =>
    match s.late[i]? with
    | none => s
    | some msg =>
      { s with
        coordinator := (s.coordinator.dispatch now io msg).coordinator
        late := s.late.eraseIdx i }
  | .loseLate i => { s with late := s.late.eraseIdx i }
  | .workerLost w now => { s with coordinator := s.coordinator.step (.workerLost w now) }
  | .other now io msg =>
    if s.agent.registers msg then s
    else { s with coordinator := s.coordinator.step (.message now io msg) }

/-- A process that was just constructed, and a coordinator likewise. -/
def create (agent : WorkerAgent.Options) (opts : Options) (disk : Disk) : AgentSession where
  agent := { opts := agent }
  coordinator := .create opts disk

/-- Steps of a session, one after the other. -/
def run (s : AgentSession) (steps : List AgentStep) : AgentSession := Run.run step s steps

/-- The steps of a session, each with the session before it. -/
def history (s : AgentSession) (steps : List AgentStep) : List (AgentSession × AgentStep) :=
  Run.history step s steps

/-- What the coordinator has on record for the agent. -/
def recorded (s : AgentSession) : Option RegistrationGeneration :=
  s.coordinator.store.generationOf s.agent.opts.worker s.agent.opts.boot

/-- The registration that the agent sends when it goes on from a read. -/
def announces (s : AgentSession) (found : WorkerAgent.Enumeration)
    (answer : Except WorkerAgent.ReadFailure Message) : Option Registration :=
  match s.phase with
  | .helloSent =>
    match s.agent.helloRead answer with
    | .error _ => none
    | .ok agent => some (agent.registration found)
  | _ => none

/-- The registration that the agent sends in a step. -/
def sends (s : AgentSession) : AgentStep → Option Registration
  | .read found _ =>
    match s.replies with
    | [] => none
    | reply :: _ => s.announces found (.ok reply)
  | .readFails why found _ => s.announces found (.error why)
  | _ => none

/-- A step in which `connect_and_register` is called. -/
def isAttempt : AgentSession × AgentStep → Bool
  | (s, .connect _) => decide (s.phase = .idle)
  | _ => false

/-- How often `connect_and_register` was called. -/
def attempts (past : List (AgentSession × AgentStep)) : Nat := past.countP isAttempt

/-! ## What the agent does at a read -/

variable {s : AgentSession} {i : AgentStep}

/-- `run` always goes on to its loop. -/
theorem returns_eq (s : AgentSession) (returned : Except Error Unit) :
    s.returns returned = { s with phase := .serving } := by
  simp only [returns, ResultVoid.ofReturn_ok, Bool.not_true, Bool.false_eq_true, if_false]

theorem begin_eq (s : AgentSession) (sent : Except Error Unit) :
    s.begin sent = { s with
      phase := .helloSent
      hello := underWay s.agent.hello sent
      register := none
      replies := []
      cut := false } := by
  simp only [begin, WorkerAgent.helloSent, WorkerAgent.checkSent_ok]

theorem mem_answered {out : Dispatched} {reply : Message} (h : reply ∈ s.answered out) :
    reply ∈ s.replies ∨ reply = out.reply := by
  unfold answered at h
  split at h
  · exact Or.inl h
  · rcases List.mem_append.mp h with h | h
    · exact Or.inl h
    · exact Or.inr (List.mem_singleton.mp h)

/-- What `proceed` can do. -/
inductive Proceeds (s : AgentSession) (found : WorkerAgent.Enumeration) (sent : Except Error Unit)
    (answer : Except WorkerAgent.ReadFailure Message) : Prop
  /-- The agent has an epoch and sends a REGISTER. -/
  | registers (agent : WorkerAgent) (hphase : s.phase = .helloSent)
      (hopts : agent.opts = s.agent.opts) (hgen : agent.regGen = s.agent.regGen)
      (hnext : s.proceed found sent answer = { s with
        agent := agent
        phase := .registerSent
        register := underWay (agent.register found) sent })
  /-- The agent takes it that it is registered. -/
  | advances (hphase : s.phase = .registerSent)
      (hnext : s.proceed found sent answer = { s with
        agent := { s.agent with regGen := s.agent.regGen.next }
        phase := .serving })
  /-- The agent has read that it was refused. -/
  | refused (ack2 : Message) (hphase : s.phase = .registerSent) (hanswer : answer = .ok ack2)
      (hok : ack2.ok = false)
      (hnext : s.proceed found sent answer = { s with phase := .serving })
  /-- It was not waiting. -/
  | stays (hidle : s.phase = .idle ∨ s.phase = .serving)
      (hnext : s.proceed found sent answer = s)

theorem proceeds (s : AgentSession) (found : WorkerAgent.Enumeration) (sent : Except Error Unit)
    (answer : Except WorkerAgent.ReadFailure Message) : s.Proceeds found sent answer := by
  cases hphase : s.phase with
  | helloSent =>
    refine .registers { s.agent with lastKnownEpoch := (WorkerAgent.readOneMessage answer).1.epoch }
      hphase rfl rfl ?_
    simp only [proceed, hphase, WorkerAgent.helloRead_eq, WorkerAgent.registerSent,
      WorkerAgent.checkSent_ok]
  | registerSent =>
    rcases s.agent.registerRead_cases answer with hread | ⟨ack2, hanswer, hok, hread⟩
    · exact .advances hphase (by simp only [proceed, hphase, hread, returns_eq])
    · exact .refused ack2 hphase hanswer hok (by simp only [proceed, hphase, hread, returns_eq])
  | idle => exact .stays (Or.inl hphase) (by simp only [proceed, hphase])
  | serving => exact .stays (Or.inr hphase) (by simp only [proceed, hphase])

/-- A REGISTER is sent at the first of the two reads, in the generation of the
agent. -/
theorem sends_eq_some {reg : Registration} (h : s.sends i = some reg) :
    s.phase = .helloSent ∧ reg.registrationGeneration = s.agent.regGen := by
  have hannounces : ∀ found answer, s.announces found answer = some reg →
      s.phase = .helloSent ∧ reg.registrationGeneration = s.agent.regGen := by
    intro found answer hreg
    simp only [announces, WorkerAgent.helloRead_eq] at hreg
    split at hreg
    · next hphase =>
      cases hreg
      exact ⟨hphase, rfl⟩
    · cases hreg
  cases i with
  | read found sent =>
    simp only [sends] at h
    split at h
    · cases h
    · next reply _ _ => exact hannounces found (.ok reply) h
  | readFails why found sent => exact hannounces found (.error why) h
  | _ => cases h

end AgentSession

end GpuFleet
