import GpuFleet.Device.Identity
import GpuFleet.Protocol.Framing
import GpuFleet.Protocol.PayloadRoundTrips

/-!
# The worker agent

The part of `agent/agent.cpp` that registers a worker.
`connect_and_register` sends a HELLO, takes the epoch from the answer, sends
a REGISTER in that epoch and waits for the answer to it.  The model has it in
pieces, one for each call of the stream.

The pieces test what the calls return, but a `Result<void>` always reports
success.  So a failed send is not noticed, and after a failed read the agent
goes on with the `Message` that it has constructed itself: the epoch is 0 and
`ok` is true.  `reg_gen_` stays only if the agent has read that its REGISTER
was refused (`registerRead_cases`).
-/

namespace GpuFleet

namespace WorkerAgent

/-- `WorkerAgent::Options`, without the address, the intervals and the choice
of a backend.  The boot id is the one of the process. -/
structure Options where
  node : NodeId := ⟨1⟩
  worker : WorkerId := ⟨1⟩
  boot : WorkerBootId := {}
  osPlatform : ByteString := text "unknown"

/-- What `enumerate` returns, and nothing when it fails.  The CUDA backend
counts its devices in an `int`, and the synthetic one has one device. -/
structure Enumeration where
  identities : List DeviceIdentity := []
  count : identities.length < 2 ^ 31 := by decide

/-- How `read_one_message` ends without a message. -/
inductive ReadFailure
  | recv | closed | frame | timeout
  deriving DecidableEq

/-- The error that `read_one_message` returns. -/
def ReadFailure.error : ReadFailure → Error
  | .recv => errorResult .io "recv error waiting for message"
  | .closed => errorResult .io "connection closed waiting for message"
  | .frame => errorResult .io "frame error waiting for message"
  | .timeout => errorResult .io "timeout waiting for message"

end WorkerAgent

/-- The state of an agent that its registrations depend on. -/
structure WorkerAgent where
  opts : WorkerAgent.Options
  lastKnownEpoch : CoordinatorEpoch := {}
  regGen : RegistrationGeneration := ⟨1⟩

namespace WorkerAgent

/-- The HELLO. -/
def hello (a : WorkerAgent) : Message where
  type := .hello
  worker := a.opts.worker
  workerBoot := a.opts.boot

/-- A `send_all` in `connect_and_register`, with the test of what it
returns. -/
def checkSent (failed : String) (sent : Except Error Unit) : Except Error Unit :=
  let s := ResultVoid.ofReturn sent
  if !s.ok then .error (errorResult .io failed) else .ok ()

/-- The HELLO is sent. -/
def helloSent (sent : Except Error Unit) : Except Error Unit :=
  checkSent "hello send failed" sent

/-- `read_one_message`: what `msg` holds after it, and its `return` statement.
If no message arrives, `msg` is as the caller has constructed it. -/
def readOneMessage : Except ReadFailure Message → Message × Except Error Unit
  | .ok msg => (msg, .ok ())
  | .error why => ({}, .error why.error)

/-- The answer to the HELLO is waited for. -/
def helloRead (a : WorkerAgent) (answer : Except ReadFailure Message) : Result WorkerAgent :=
  let (ack, returned) := readOneMessage answer
  let r := ResultVoid.ofReturn returned
  if !r.ok then .error (errorResult .io "no hello ack")
  else .ok { a with lastKnownEpoch := ack.epoch }

/-- The registration, with the epoch of the answer to the HELLO. -/
def registration (a : WorkerAgent) (found : Enumeration) : Registration where
  node := a.opts.node
  worker := a.opts.worker
  workerBoot := a.opts.boot
  agentVersion := ⟨1, 0, 0⟩
  protocolVersion := ⟨kProtocolVersion⟩
  osPlatform := a.opts.osPlatform
  registrationGeneration := a.regGen
  epoch := a.lastKnownEpoch
  enumeratedDevices := found.identities.map canonicalDeviceIdentity
  supportedCapabilities := [text "cuda", text "synthetic"]

/-- The REGISTER. -/
def register (a : WorkerAgent) (found : Enumeration) : Message where
  type := .register
  worker := a.opts.worker
  workerBoot := a.opts.boot
  epoch := a.lastKnownEpoch
  payload := encodeRegistration (a.registration found)

/-- The REGISTER is sent. -/
def registerSent (sent : Except Error Unit) : Except Error Unit :=
  checkSent "register send failed" sent

/-- The answer to the REGISTER is waited for. -/
def registerRead (a : WorkerAgent) (answer : Except ReadFailure Message) : Result WorkerAgent :=
  let (ack2, returned) := readOneMessage answer
  let r := ResultVoid.ofReturn returned
  if !r.ok then .error (errorResult .io "no register ack")
  else if !ack2.ok then
    .error { code := .rejected, message := text "registration rejected: " ++ ack2.reason }
  else .ok { a with regGen := a.regGen.next }

theorem checkSent_ok (failed : String) (sent : Except Error Unit) :
    checkSent failed sent = .ok () := by
  simp only [checkSent, ResultVoid.ofReturn_ok, Bool.not_true, Bool.false_eq_true, if_false]

/-- The agent takes an epoch from the HELLO in any case. -/
theorem helloRead_eq (a : WorkerAgent) (answer : Except ReadFailure Message) :
    a.helloRead answer = .ok { a with lastKnownEpoch := (readOneMessage answer).1.epoch } := by
  simp only [helloRead, ResultVoid.ofReturn_ok, Bool.not_true, Bool.false_eq_true, if_false]

/-- The generation moves on unless a refusal was read. -/
theorem registerRead_cases (a : WorkerAgent) (answer : Except ReadFailure Message) :
    a.registerRead answer = .ok { a with regGen := a.regGen.next } ∨
      ∃ ack2, answer = .ok ack2 ∧ ack2.ok = false ∧ a.registerRead answer = .error
        { code := .rejected, message := text "registration rejected: " ++ ack2.reason } := by
  simp only [registerRead, ResultVoid.ofReturn_ok, Bool.not_true, Bool.false_eq_true, if_false]
  cases answer with
  | error why => exact Or.inl rfl
  | ok ack2 =>
    cases hok : ack2.ok with
    | true =>
      left
      simp only [readOneMessage, hok, Bool.not_true, Bool.false_eq_true, if_false]
    | false =>
      right
      refine ⟨ack2, rfl, hok, ?_⟩
      simp only [readOneMessage, hok, Bool.not_false, if_true]

end WorkerAgent

/-! ## The registration on the other side -/

/-- The fields by which a registration is told from another one of its worker. -/
structure Registration.SameIncarnation (reg reg' : Registration) : Prop where
  worker : reg'.worker = reg.worker
  workerBoot : reg'.workerBoot = reg.workerBoot
  registrationGeneration : reg'.registrationGeneration = reg.registrationGeneration

/-- The registration of an agent arrives with its texts cut, if it arrives. -/
theorem WorkerAgent.decode_register {a : WorkerAgent} {found : Enumeration}
    {reg : Registration} (h : decodeRegistration (a.register found).payload = .ok reg) :
    reg = (a.registration found).cut := by
  have hdevices : CountFits (a.registration found).enumeratedDevices.length := by
    have hcount := found.count
    show (found.identities.map canonicalDeviceIdentity).length < 2 ^ 32
    rw [List.length_map]
    omega
  have hcapabilities : CountFits (a.registration found).supportedCapabilities.length := by
    show 2 < 2 ^ 32
    decide
  exact decode_encodeRegistration_eq hdevices hcapabilities h

/-- Texts are cut on the way, but a registration that arrives has its
generation. -/
theorem WorkerAgent.decode_registration {a : WorkerAgent} {found : Enumeration}
    {reg : Registration} (h : decodeRegistration (a.register found).payload = .ok reg) :
    (a.registration found).SameIncarnation reg := by
  rw [decode_register h]
  exact ⟨rfl, rfl, rfl⟩

end GpuFleet
