import GpuFleet.Lib.Handles
import GpuFleet.Transport.Stream

/-!
# Who owns a socket

The member functions of `TcpStream` and `TcpListener` in
`transport/transport.cpp`, call by call.

Threads may interrupt each other between any two calls to the operating system,
and between reading `sock_` and the call that it is read for.  The coordinator
depends on this: `stop` closes the listener while another thread is in `accept`
on it.  `accept` reads `sock_` again for each call, so it then goes on with a
socket that was closed, or with `INVALID_SOCKET`.

The operating system answers every call as it likes, with one promise: it does
not hand out a socket that is open.  A socket that was closed may come back at
once, so a wrapper that closed a socket twice could close one of somebody else.

`SocketProgram.step` is one step of a thread.  `SocketProgram.owned_run` says
that in every run each open socket is held by exactly one object or by one
function that is still running, that no socket is closed twice, and that only a
function whose object was closed under it makes a call on a socket that is not
its own.
-/

namespace GpuFleet

open Handles (Event Owned Routine opened)

/-! ## The calls on sockets -/

/-- A call on a socket, with what the code passes to it. -/
inductive SocketCall
  | ioctlsocket (nbio : Bool)
  | connect | getsockopt
  | select (timeoutMs : Int32)
  | setReceiveTimeout (ms : UInt32)
  | setSendTimeout (ms : UInt32)
  | setReuseAddress
  | bind | getsockname | listen | accept | send | recv | getpeername
  deriving DecidableEq

/-- What a call returns, and the code that `WSAGetLastError` has after it.  For
`getsockopt` the code is the value of `SO_ERROR`. -/
structure WinsockAnswer where
  value : Int32 := 0
  code : Nat := 0

/-- The sockets that were handed out and closed, in order. -/
abbrev SocketLog := List (Event Socket SocketCall)

/-- `::socket` and `::accept` hand out a socket or `INVALID_SOCKET`.  A socket
that is open is not handed out. -/
def handOut (log : SocketLog) (offer : Socket) : Socket × SocketLog :=
  if offer = invalidSocket ∨ offer ∈ opened log then (invalidSocket, log)
  else (offer, log ++ [.issued offer])

/-- `closesocket`. -/
def closesocket (log : SocketLog) (s : Socket) : SocketLog := log ++ [.released s]

/-- `TcpListener`. -/
structure TcpListener where
  sock : Socket := invalidSocket
  port : UInt16 := 0
  deriving DecidableEq, Repr

/-- What a function returns, as far as it is about sockets. -/
inductive SocketOutcome
  | stream (r : Result TcpStream)
  | listener (r : Result TcpListener)
  | other

/-- What is left of a function of the two classes. -/
abbrev SocketRoutine := Routine Socket SocketCall WinsockAnswer SocketOutcome

/-- `wrap_socket`. -/
def wrapSocket (s : Socket) : Result TcpStream :=
  if s = invalidSocket then .error (errorResult .io "invalid socket") else .ok ⟨s⟩

/-- `error_result(Status::Io, wsa_error_str(code))`. -/
def winsockFailure (code : Nat) : Error := { code := .io, message := wsaErrorStr code }

namespace SocketRoutine

/-- `if (sock_ == -1) return`, and what follows it. -/
def ifOpen (closed : SocketOutcome) (rest : SocketRoutine) : SocketRoutine :=
  .reads fun s => if s = invalidSocket then .returns closed else rest

/-- A call on `sock_`, which is read for it. -/
def onOwn (call : SocketCall) (next : WinsockAnswer → SocketRoutine) : SocketRoutine :=
  .reads fun s => .call s call next

/-- The socket is closed, and the function returns an error. -/
def closeAndFail (s : Socket) (outcome : WinsockAnswer → SocketOutcome) : SocketRoutine :=
  .closes s fun os => .returns (outcome os)

end SocketRoutine

open SocketRoutine

/-! ## Streams -/

namespace TcpStream

/-- The end of `connect` and of `accept`: the timeouts are set. -/
def timed (s : Socket) (timeoutMs : Int32) : SocketRoutine :=
  .call s (.setReceiveTimeout timeoutMs.toUInt32) fun _ =>
    .call s (.setSendTimeout timeoutMs.toUInt32) fun _ => .returns (.stream (wrapSocket s))

/-- The end of `connect`, with a connection. -/
def connected (s : Socket) (timeoutMs : Int32) : SocketRoutine :=
  .call s (.ioctlsocket false) fun _ => timed s timeoutMs

/-- `connect` after a `::connect` that would block. -/
def connecting (s : Socket) (timeoutMs : Int32) : SocketRoutine :=
  .call s (.select timeoutMs) fun sel =>
    if sel.value ≤ 0 then
      closeAndFail s fun _ => .stream (.error (errorResult .io "connect timeout"))
    else
      .call s .getsockopt fun soerr =>
        if soerr.code ≠ 0 then
          closeAndFail s fun _ => .stream (.error (winsockFailure soerr.code))
        else connected s timeoutMs

/-- `TcpStream::connect`.  The name resolves or not. -/
def connect (timeoutMs : Int32) (resolved : Bool) : SocketRoutine :=
  .opens fun s os =>
    if s = invalidSocket then .returns (.stream (.error (winsockFailure os.code)))
    else if !resolved then
      closeAndFail s fun _ => .stream (.error (errorResult .io "getaddrinfo failed"))
    else
      .call s (.ioctlsocket true) fun _ => .call s .connect fun rc =>
        if rc.value ≠ 0 then
          if rc.code ≠ wsaeWouldBlock then
            closeAndFail s fun _ => .stream (.error (winsockFailure rc.code))
          else connecting s timeoutMs
        else connected s timeoutMs

/-- Whether `send_all` calls `::send` again with the same bytes: it would block,
or has taken none. -/
def sendsAgain (os : WinsockAnswer) : Bool :=
  os.value = -1 ∧ os.code = wsaeWouldBlock ∨ os.value = 0

/-- The loop of `send_all` with `n` bytes left.  `::send` takes no more than it
is given. -/
def sending (n : Nat) : SocketRoutine :=
  if n = 0 then .returns .other
  else .spin .send sendsAgain fun os =>
    let sent := min os.value.toInt.toNat (min n 0x7FFFFFFF)
    if 0 < sent then sending (n - sent) else .returns .other
termination_by n
decreasing_by omega

/-- `send_all`. -/
def sends (data : ByteString) : SocketRoutine := ifOpen .other (sending data.length)

/-- `recv_some` and `recv_some_opt`. -/
def receives : SocketRoutine := ifOpen .other (onOwn .recv fun _ => .returns .other)

/-- `TcpStream::set_timeout`. -/
def setTimeout (ms : Int32) : SocketRoutine :=
  ifOpen .other (onOwn (.setReceiveTimeout ms.toUInt32) fun _ =>
    onOwn (.setSendTimeout ms.toUInt32) fun _ => .returns .other)

/-- `peer_desc`. -/
def peerDesc : SocketRoutine := ifOpen .other (onOwn .getpeername fun _ => .returns .other)

/-- `TcpStream::close`, which is also the destructor. -/
def close (t : TcpStream) (log : SocketLog) : SocketLog × TcpStream :=
  if t.isOpen then (closesocket log t.sock, ⟨invalidSocket⟩) else (log, t)

end TcpStream

/-! ## Listeners -/

namespace TcpListener

/-- `TcpListener::bind`.  The name resolves or not, and `getsockname` finds a
port.  The code of the last error is read after `closesocket`. -/
def bind (resolved : Bool) (actualPort : UInt16) : SocketRoutine :=
  .opens fun s os =>
    if s = invalidSocket then .returns (.listener (.error (winsockFailure os.code)))
    else
      .call s .setReuseAddress fun _ =>
        if !resolved then
          closeAndFail s fun _ => .listener (.error (errorResult .io "getaddrinfo failed"))
        else
          .call s .bind fun rc =>
            if rc.value ≠ 0 then
              closeAndFail s fun os => .listener (.error (winsockFailure os.code))
            else
              .call s .getsockname fun _ => .call s .listen fun rc =>
                if rc.value ≠ 0 then
                  closeAndFail s fun os => .listener (.error (winsockFailure os.code))
                else .returns (.listener (.ok ⟨s, actualPort⟩))

/-- `TcpListener::accept`.  The code of the last error is read after
`ioctlsocket`. -/
def accept (timeoutMs : Int32) : SocketRoutine :=
  ifOpen (.stream (.error (errorResult .io "listener closed")))
    (onOwn (.ioctlsocket true) fun _ => onOwn (.select timeoutMs) fun sel =>
      if sel.value ≤ 0 then
        onOwn (.ioctlsocket false) fun _ =>
          .returns (.stream (.error (errorResult .io "accept timeout")))
      else
        onOwn .accept fun _ => .opens fun c _ => onOwn (.ioctlsocket false) fun os =>
          if c = invalidSocket then .returns (.stream (.error (winsockFailure os.code)))
          else TcpStream.timed c timeoutMs)

/-- `TcpListener::close`, which is also the destructor.  The port stays. -/
def close (l : TcpListener) (log : SocketLog) : SocketLog × TcpListener :=
  if l.sock ≠ invalidSocket then (closesocket log l.sock, ⟨invalidSocket, l.port⟩) else (log, l)

end TcpListener

/-! ## Objects -/

/-- A function that is running, on an object or as a static function, with the
socket that it has opened.  It is overtaken when another thread has closed its
object since it was called. -/
structure RunningCall where
  object : Option Nat := none
  overtaken : Bool := false
  hand : Option Socket := none
  rest : SocketRoutine

namespace RunningCall

/-- The call that the function makes next, if that is a call on a socket. -/
def nextCall (c : RunningCall) : Option (Socket × SocketCall) :=
  match c.rest with
  | .call s call _ => some (s, call)
  | _ => none

end RunningCall

/-- An object of one of the two classes, a function that is running, or what is
left of an object after its destructor. -/
inductive SocketObject
  | stream (t : TcpStream)
  | listener (l : TcpListener)
  | running (c : RunningCall)
  | gone

/-- What a function returns is an object where the function was. -/
def SocketOutcome.object : SocketOutcome → SocketObject
  | .stream (.ok t) => .stream t
  | .listener (.ok l) => .listener l
  | _ => .gone

namespace SocketObject

/-- `sock_`, if there is one. -/
def sock : SocketObject → Socket
  | .stream t => t.sock
  | .listener l => l.sock
  | _ => invalidSocket

/-- The socket that an object or a running function holds, if it holds one. -/
def sockets : SocketObject → List Socket
  | .stream t => if t.sock = invalidSocket then [] else [t.sock]
  | .listener l => if l.sock = invalidSocket then [] else [l.sock]
  | .running c => c.hand.toList
  | .gone => []

/-- A listener, open or not. -/
def isListener : SocketObject → Bool
  | .listener _ => true
  | _ => false

/-- A stream, open or not. -/
def isStream : SocketObject → Bool
  | .stream _ => true
  | _ => false

/-- `close` of either class. -/
def close (log : SocketLog) : SocketObject → SocketLog × SocketObject
  | .stream t => ((t.close log).1, .stream (t.close log).2)
  | .listener l => ((l.close log).1, .listener (l.close log).2)
  | o => (log, o)

/-- What the move constructor and the move assignment leave of their source. -/
def movedFrom : SocketObject → SocketObject
  | .stream _ => .stream {}
  | .listener _ => .listener {}
  | o => o

/-- A function that is running on the object that another thread closes. -/
def overtake (i : Nat) : SocketObject → SocketObject
  | .running c => .running (if c.object = some i then { c with overtaken := true } else c)
  | o => o

/-- Whether this is a function that is running on an object. -/
def runsOn (i : Nat) : SocketObject → Bool
  | .running c => c.object == some i
  | _ => false

end SocketObject

/-- A running function makes its next step.  It finds `own` in its object, the
operating system offers it a socket if it asks for one, and answers its call. -/
def RunningCall.go (c : RunningCall) (own : Socket) (log : SocketLog) (offer : Socket)
    (os : WinsockAnswer) : SocketLog × SocketObject :=
  match c.rest with
  | .returns out => (log, out.object)
  | .reads next => (log, .running { c with rest := next own })
  | .spin call again next => (log, .running { c with rest := .spinning call again next own })
  | .opens next =>
    let (s, log) := handOut log offer
    (log, .running { c with hand := Routine.real invalidSocket s, rest := next s os })
  | .call _ _ next => (log, .running { c with rest := next os })
  | .closes s next => (closesocket log s, .running { c with hand := none, rest := next os })

/-! ## A program with sockets -/

/-- The sockets so far, and the objects in the order of their construction.
What a function will return gets its place when the function is called. -/
structure SocketProgram where
  log : SocketLog := []
  objects : List SocketObject := []

/-- A step of a thread.  Objects are named by their places.  A function is
called, or one that is running goes on. -/
inductive SocketStep
  | stream
  | listener
  | connect (timeoutMs : Int32) (resolved : Bool)
  | bind (resolved : Bool) (actualPort : UInt16)
  | accept (i : Nat) (timeoutMs : Int32)
  | sendAll (i : Nat) (data : ByteString)
  | recvSome (i : Nat)
  | setTimeout (i : Nat) (ms : Int32)
  | peerDesc (i : Nat)
  | go (k : Nat) (offer : Socket) (os : WinsockAnswer)
  | close (i : Nat)
  | moveConstruct (src : Nat)
  | moveAssign (dst src : Nat)
  | destroy (i : Nat)

namespace SocketProgram

/-- Whether a function is running on an object. -/
def busy (p : SocketProgram) (i : Nat) : Bool := p.objects.any (SocketObject.runsOn i)

/-- What a function finds in the `sock_` of its object. -/
def own (p : SocketProgram) (c : RunningCall) : Socket :=
  ((c.object.bind fun i => p.objects[i]?).map SocketObject.sock).getD invalidSocket

/-- An object is constructed, or a function called. -/
def add (p : SocketProgram) (o : SocketObject) : SocketProgram :=
  { p with objects := p.objects ++ [o] }

/-- A member function is called on an object of its class. -/
def call (p : SocketProgram) (ofClass : SocketObject → Bool) (i : Nat) (f : SocketRoutine) :
    SocketProgram :=
  if p.objects[i]?.any ofClass then p.add (.running { object := some i, rest := f }) else p

/-- An object is closed, and something else is put in its place. -/
def closeAs (p : SocketProgram) (i : Nat) (o : SocketObject)
    (left : SocketObject → SocketObject) : SocketProgram where
  log := (o.close p.log).1
  objects := p.objects.set i (left (o.close p.log).2)

/-- The functions that are running on an object are overtaken. -/
def overtake (p : SocketProgram) (i : Nat) : SocketProgram :=
  { p with objects := p.objects.map (SocketObject.overtake i) }

/-- `operator=` of two objects of one class: the target is closed, takes over
what the source holds, and the source is left empty. -/
def moveAssign (p : SocketProgram) (dst src : Nat) (target source : SocketObject) :
    SocketProgram where
  log := (target.close p.log).1
  objects := (p.objects.set src source.movedFrom).set dst source

/-- A step of a thread.  `close`, the moves and the destructors make one call to
the operating system at most, and two threads do not execute them on one object
at the same time, so each of them is one step.  Who reads `sock_` in the middle
of a `close` finds what was there before it.  An object is not moved and not
destroyed while a function is running on it, but it may be closed. -/
def step (p : SocketProgram) : SocketStep → SocketProgram
  | .stream => p.add (.stream {})
  | .listener => p.add (.listener {})
  | .connect timeoutMs resolved => p.add (.running { rest := TcpStream.connect timeoutMs resolved })
  | .bind resolved actualPort =>
    p.add (.running { rest := TcpListener.bind resolved actualPort })
  | .accept i timeoutMs => p.call SocketObject.isListener i (TcpListener.accept timeoutMs)
  | .sendAll i data => p.call SocketObject.isStream i (TcpStream.sends data)
  | .recvSome i => p.call SocketObject.isStream i TcpStream.receives
  | .setTimeout i ms => p.call SocketObject.isStream i (TcpStream.setTimeout ms)
  | .peerDesc i => p.call SocketObject.isStream i TcpStream.peerDesc
  | .go k offer os =>
    match p.objects[k]? with
    | some (.running c) =>
      { log := (c.go (p.own c) p.log offer os).1,
        objects := p.objects.set k (c.go (p.own c) p.log offer os).2 }
    | _ => p
  | .close i =>
    match p.objects[i]? with
    | some o => if o.sock ≠ invalidSocket then (p.overtake i).closeAs i o id else p
    | none => p
  | .moveConstruct src =>
    match p.objects[src]? with
    | some o =>
      if (o.isStream ∨ o.isListener) ∧ !p.busy src then
        { p with objects := p.objects.set src o.movedFrom ++ [o] }
      else p
    | none => p
  | .moveAssign dst src =>
    match p.objects[dst]?, p.objects[src]? with
    | some target, some source =>
      if (target.isStream ∧ source.isStream ∨ target.isListener ∧ source.isListener) ∧
          dst ≠ src ∧ !p.busy dst ∧ !p.busy src then
        p.moveAssign dst src target source
      else p
    | _, _ => p
  | .destroy i =>
    match p.objects[i]? with
    | some o =>
      if (o.isStream ∨ o.isListener) ∧ !p.busy i then p.closeAs i o fun _ => .gone else p
    | none => p

/-- Steps of all threads, in their order. -/
def run (p : SocketProgram) (steps : List SocketStep) : SocketProgram := Run.run step p steps

end SocketProgram

/-! ## What the functions do with sockets -/

/-- The function accounts for the socket that it opens, and makes its calls on
this one and on that of its object. -/
structure Careful (own hand : Option Socket) (f : SocketRoutine) : Prop where
  tidy : f.Tidy invalidSocket (fun out => out.object.sockets) hand
  sure : f.Sure invalidSocket own hand

namespace Careful

variable {own hand : Option Socket} {s : Socket} {f : SocketRoutine}

theorem returns_other : Careful own none (.returns .other) := ⟨rfl, trivial⟩

theorem returns_error {err : Error} : Careful own none (.returns (.stream (.error err))) :=
  ⟨rfl, trivial⟩

theorem call {c : SocketCall} {next : WinsockAnswer → SocketRoutine}
    (hs : own = some s ∨ hand = some s) (h : ∀ os, Careful own hand (next os)) :
    Careful own hand (.call s c next) :=
  ⟨fun os => (h os).tidy, hs, fun os => (h os).sure⟩

theorem onHand {c : SocketCall} {next : WinsockAnswer → SocketRoutine}
    (h : ∀ os, Careful own (some s) (next os)) : Careful own (some s) (.call s c next) :=
  call (Or.inr rfl) h

theorem closeAndFail {outcome : WinsockAnswer → SocketOutcome}
    (h : ∀ os, (outcome os).object = .gone) :
    Careful own (some s) (SocketRoutine.closeAndFail s outcome) := by
  refine ⟨⟨rfl, fun os => ?_⟩, fun _ => trivial⟩
  show (outcome os).object.sockets = []
  rw [h os]
  rfl

theorem opens {next : Socket → WinsockAnswer → SocketRoutine}
    (hnone : ∀ os, Careful own none (next invalidSocket os))
    (hsome : ∀ s os, s ≠ invalidSocket → Careful own (some s) (next s os)) :
    Careful own none (.opens next) := by
  have h : ∀ s os, Careful own (Routine.real invalidSocket s) (next s os) := by
    intro s os
    by_cases hs : s = invalidSocket
    · rw [hs, Routine.real_null]
      exact hnone os
    · rw [Routine.real_of_ne hs]
      exact hsome s os hs
  exact ⟨⟨rfl, fun s os => (h s os).tidy⟩, by cases own <;> exact fun s os => (h s os).sure⟩

/-- A function goes on if its object is open, and then it knows the socket. -/
theorem ifOpen {closed : SocketOutcome} (hclosed : closed.object = .gone)
    (h : ∀ s, Careful (some s) none f) : Careful none none (SocketRoutine.ifOpen closed f) := by
  constructor
  · intro s
    dsimp only
    split
    · show closed.object.sockets = []
      rw [hclosed]
      rfl
    · exact (h s).tidy
  · intro s
    dsimp only
    split
    · trivial
    · next hs =>
      rw [Routine.real_of_ne hs]
      exact (h s).sure

theorem onOwn {c : SocketCall} {next : WinsockAnswer → SocketRoutine}
    (h : ∀ os, Careful (some s) hand (next os)) :
    Careful (some s) hand (SocketRoutine.onOwn c next) :=
  ⟨fun _ os => (h os).tidy, Or.inl rfl, fun os => (h os).sure⟩

end Careful

namespace TcpStream

variable {own : Option Socket} {s : Socket}

theorem timed_careful (hs : s ≠ invalidSocket) (timeoutMs : Int32) :
    Careful own (some s) (timed s timeoutMs) := by
  refine .onHand fun _ => .onHand fun _ => ⟨?_, trivial⟩
  have hwrap : wrapSocket s = .ok ⟨s⟩ := if_neg hs
  have hsockets : (SocketObject.stream ⟨s⟩).sockets = [s] := if_neg hs
  show (SocketOutcome.stream (wrapSocket s)).object.sockets = [s]
  rw [hwrap]
  exact hsockets

theorem connected_careful (hs : s ≠ invalidSocket) (timeoutMs : Int32) :
    Careful own (some s) (connected s timeoutMs) :=
  .onHand fun _ => timed_careful hs timeoutMs

theorem connecting_careful (hs : s ≠ invalidSocket) (timeoutMs : Int32) :
    Careful own (some s) (connecting s timeoutMs) := by
  refine .onHand fun sel => ?_
  split
  · exact .closeAndFail fun _ => rfl
  refine .onHand fun soerr => ?_
  split
  · exact .closeAndFail fun _ => rfl
  · exact connected_careful hs timeoutMs

theorem connect_careful (timeoutMs : Int32) (resolved : Bool) :
    Careful none none (connect timeoutMs resolved) := by
  refine .opens (fun os => ?_) fun s os hs => ?_
  · rw [if_pos rfl]
    exact .returns_error
  rw [if_neg hs]
  split
  · exact .closeAndFail fun _ => rfl
  refine .onHand fun _ => .onHand fun rc => ?_
  split
  · split
    · exact .closeAndFail fun _ => rfl
    · exact connecting_careful hs timeoutMs
  · exact connected_careful hs timeoutMs

theorem sending_careful (s : Socket) (n : Nat) : Careful (some s) none (sending n) := by
  induction n using Nat.strongRecOn with
  | ind n ih =>
    unfold sending
    split
    · exact .returns_other
    next hn =>
    have hnext : ∀ sent : Nat, Careful (some s) none
        (if 0 < sent then sending (n - sent) else .returns .other) := by
      intro sent
      split
      · exact ih _ (by omega)
      · exact .returns_other
    exact ⟨fun os => (hnext _).tidy, fun os => (hnext _).sure⟩

theorem sends_careful (data : ByteString) : Careful none none (sends data) :=
  .ifOpen rfl fun s => sending_careful s _

theorem receives_careful : Careful none none receives :=
  .ifOpen rfl fun _ => .onOwn fun _ => .returns_other

theorem setTimeout_careful (ms : Int32) : Careful none none (setTimeout ms) :=
  .ifOpen rfl fun _ => .onOwn fun _ => .onOwn fun _ => .returns_other

theorem peerDesc_careful : Careful none none peerDesc :=
  .ifOpen rfl fun _ => .onOwn fun _ => .returns_other

end TcpStream

namespace TcpListener

theorem bind_careful (resolved : Bool) (actualPort : UInt16) :
    Careful none none (bind resolved actualPort) := by
  refine .opens (fun os => ?_) fun s os hs => ?_
  · rw [if_pos rfl]
    exact ⟨rfl, trivial⟩
  rw [if_neg hs]
  refine .onHand fun _ => ?_
  split
  · exact .closeAndFail fun _ => rfl
  refine .onHand fun rc => ?_
  split
  · exact .closeAndFail fun _ => rfl
  refine .onHand fun _ => .onHand fun rc => ?_
  split
  · exact .closeAndFail fun _ => rfl
  · exact ⟨if_neg hs, trivial⟩

/-- `accept` knows two sockets, that of the listener and the one it has opened. -/
theorem accept_careful (timeoutMs : Int32) : Careful none none (accept timeoutMs) := by
  refine .ifOpen rfl fun l => .onOwn fun _ => .onOwn fun sel => ?_
  split
  · exact .onOwn fun _ => .returns_error
  refine .onOwn fun _ => .opens (fun _ => .onOwn fun os => ?_) fun c _ hc => .onOwn fun os => ?_
  · rw [if_pos rfl]
    exact .returns_error
  · rw [if_neg hc]
    exact TcpStream.timed_careful hc timeoutMs

end TcpListener

/-! ## Every open socket has one owner -/

namespace SocketObject

/-- An object without a socket is left as it is by `close`, and one with a
socket releases that. -/
theorem close_cases (log : SocketLog) (o : SocketObject) :
    o.sock = invalidSocket ∧ o.close log = (log, o) ∨
      o.sock ≠ invalidSocket ∧ o.sockets = [o.sock] ∧
        (o.close log).1 = log ++ [.released o.sock] ∧ (o.close log).2.sock = invalidSocket ∧
        (o.close log).2.sockets = [] := by
  cases o with
  | gone => exact Or.inl ⟨rfl, rfl⟩
  | running c => exact Or.inl ⟨rfl, rfl⟩
  | stream t =>
    by_cases h : t.sock = invalidSocket
    · exact Or.inl ⟨h, by simp [close, TcpStream.close, TcpStream.isOpen, h]⟩
    · refine Or.inr ⟨h, if_neg h, ?_⟩
      simp [sock, sockets, close, TcpStream.close, TcpStream.isOpen, h, closesocket]
  | listener l =>
    by_cases h : l.sock = invalidSocket
    · exact Or.inl ⟨h, by simp [close, TcpListener.close, h]⟩
    · refine Or.inr ⟨h, if_neg h, ?_⟩
      simp [sock, sockets, close, TcpListener.close, h, closesocket]

@[simp] theorem sock_overtake (i : Nat) (o : SocketObject) : (o.overtake i).sock = o.sock := by
  cases o <;> rfl

@[simp] theorem sockets_overtake (i : Nat) (o : SocketObject) :
    (o.overtake i).sockets = o.sockets := by
  cases o with
  | running c =>
    show (if c.object = some i then { c with overtaken := true } else c).hand.toList
      = c.hand.toList
    split <;> rfl
  | stream t => rfl
  | listener l => rfl
  | gone => rfl

/-- An object, as opposed to a function and to what is gone. -/
def live (o : SocketObject) : Prop := o.isStream = true ∨ o.isListener = true

theorem movedFrom_empty {o : SocketObject} (h : o.live) :
    o.movedFrom.sock = invalidSocket ∧ o.movedFrom.sockets = [] := by
  cases o with
  | stream t => exact ⟨rfl, rfl⟩
  | listener l => exact ⟨rfl, rfl⟩
  | running c => rcases h with h | h <;> cases h
  | gone => rcases h with h | h <;> cases h

/-- An object holds the socket that is in its `sock_`. -/
theorem sockets_of_live {o : SocketObject} (h : o.live) :
    o.sockets = if o.sock = invalidSocket then [] else [o.sock] := by
  cases o with
  | stream t => rfl
  | listener l => rfl
  | running c => rcases h with h | h <;> cases h
  | gone => rcases h with h | h <;> cases h

theorem sockets_of_sock {o : SocketObject} (h : o.sock ≠ invalidSocket) :
    o.sockets = [o.sock] := by
  rcases o.close_cases [] with ⟨hnone, -⟩ | ⟨-, hsome, -⟩
  · exact absurd hnone h
  · exact hsome

end SocketObject

/-- A socket that is handed out is a new one. -/
theorem handOut_cases {log : SocketLog} {held : List Socket} (ho : Owned log held)
    (offer : Socket) :
    handOut log offer = (invalidSocket, log) ∨
      offer ≠ invalidSocket ∧ handOut log offer = (offer, log ++ [.issued offer]) ∧
        Owned (log ++ [.issued offer]) (offer :: held) := by
  unfold handOut
  split
  · exact Or.inl rfl
  · next hnew =>
    obtain ⟨hvalid, hclosed⟩ := not_or.mp hnew
    exact Or.inr ⟨hvalid, rfl, ho.issue hclosed⟩

namespace SocketProgram

variable {p q : SocketProgram} {c : RunningCall}

/-- The sockets that the objects and the running functions hold. -/
def held (p : SocketProgram) : List Socket := Handles.held SocketObject.sockets p.objects

/-- A running function is careful.  Unless it is overtaken, it also knows the
socket of its object. -/
structure Watched (p : SocketProgram) (c : RunningCall) : Prop where
  tidy : c.rest.Tidy invalidSocket (fun out => out.object.sockets) c.hand
  sure : c.overtaken = false → ∃ own, c.rest.Sure invalidSocket own c.hand ∧
    ∀ s, own = some s → s ≠ invalidSocket ∧ p.own c = s

/-- Each open socket is held by exactly one object or function, and the running
functions are careful. -/
structure Tidy (p : SocketProgram) : Prop where
  owned : Owned p.log p.held
  watched : ∀ c, .running c ∈ p.objects → p.Watched c

/-- A function that begins is watched. -/
theorem Watched.begin {f : SocketRoutine} (h : Careful none none f) (object : Option Nat) :
    p.Watched { object := object, rest := f } :=
  ⟨h.tidy, fun _ => ⟨none, h.sure, fun s hs => by cases hs⟩⟩

/-- It matters to a function only that its object keeps its socket. -/
theorem Watched.congr (h : p.Watched c)
    (hsame : c.overtaken = false → p.own c ≠ invalidSocket → q.own c = p.own c) :
    q.Watched c := by
  refine ⟨h.tidy, fun hnot => ?_⟩
  obtain ⟨own, hsure, hown⟩ := h.sure hnot
  refine ⟨own, hsure, fun s hs => ?_⟩
  obtain ⟨hvalid, hp⟩ := hown s hs
  exact ⟨hvalid, by rw [hsame hnot (by rw [hp]; exact hvalid), hp]⟩

theorem own_eq {i : Nat} {o : SocketObject} (hc : c.object = some i) (hi : p.objects[i]? = some o) :
    p.own c = o.sock := by
  rw [own, hc, Option.bind_some, hi]
  rfl

/-- What is put in the place of an object matters to the functions that run on
it. -/
theorem own_set {k : Nat} {old new : SocketObject} {log : SocketLog}
    (hk : p.objects[k]? = some old) (hne : c.object = some k → new.sock = old.sock) :
    own ⟨log, p.objects.set k new⟩ c = p.own c := by
  cases hobject : c.object with
  | none => rw [own, own, hobject]; rfl
  | some i =>
    by_cases hik : i = k
    · subst hik
      have hset : (p.objects.set i new)[i]? = some new :=
        List.getElem?_set_self (List.getElem?_eq_some_iff.mp hk).1
      rw [own_eq (p := ⟨log, p.objects.set i new⟩) hobject hset, own_eq hobject hk, hne hobject]
    · rw [own, own, hobject, Option.bind_some, Option.bind_some, List.getElem?_set_ne (Ne.symm hik)]

/-- An object that is added is not that of a function which is running. -/
theorem own_concat {o : SocketObject} {log : SocketLog} (hc : p.own c ≠ invalidSocket) :
    own ⟨log, p.objects ++ [o]⟩ c = p.own c := by
  cases hobject : c.object with
  | none => rw [own, own, hobject]; rfl
  | some i =>
    cases hi : p.objects[i]? with
    | none =>
      rw [own, hobject, Option.bind_some, hi] at hc
      exact absurd rfl hc
    | some old =>
      have hlater : (p.objects ++ [o])[i]? = some old := by
        rw [List.getElem?_append_left (List.getElem?_eq_some_iff.mp hi).1, hi]
      rw [own_eq (p := ⟨log, p.objects ++ [o]⟩) hobject hlater, own_eq hobject hi]

theorem not_busy {i : Nat} (h : p.busy i = false) (hc : .running c ∈ p.objects) :
    c.object ≠ some i := by
  intro hobject
  have hbusy : p.busy i = true :=
    List.any_eq_true.mpr ⟨_, hc, by rw [SocketObject.runsOn, hobject]; exact beq_self_eq_true _⟩
  rw [h] at hbusy
  cases hbusy

/-! ### A running function goes on -/

/-- What a running function becomes at its next step. -/
theorem Watched.put {k : Nat} {c' : RunningCall} {o : SocketObject} {log : SocketLog}
    (h : p.Watched c') (hk : p.objects[k]? = some (.running c)) :
    Watched ⟨log, p.objects.set k o⟩ c' := by
  refine h.congr fun _ hvalid => own_set hk fun hobject => ?_
  -- a function is no object that another one could run on
  rw [own_eq hobject hk] at hvalid
  exact absurd rfl hvalid

theorem Tidy.put {k : Nat} {o : SocketObject} {log : SocketLog} (hp : p.Tidy)
    (hk : p.objects[k]? = some (.running c))
    (howned : Owned log (Handles.held SocketObject.sockets (p.objects.set k o)))
    (ho : ∀ c', o = .running c' → p.Watched c') : Tidy ⟨log, p.objects.set k o⟩ := by
  refine ⟨howned, fun c' hc' => ?_⟩
  rcases List.mem_or_eq_of_mem_set hc' with hold | hnew
  · exact (hp.watched c' hold).put hk
  · exact (ho c' hnew.symm).put hk

/-- The function has found in its object what is there. -/
theorem Watched.reads {next : Socket → SocketRoutine} (h : p.Watched c)
    (hrest : c.rest = .reads next) : p.Watched { c with rest := next (p.own c) } := by
  obtain ⟨htidy, hsure⟩ := h
  rw [hrest] at htidy hsure
  refine ⟨htidy (p.own c), fun hnot => ?_⟩
  obtain ⟨own, hown, hfound⟩ := hsure hnot
  cases own with
  | none =>
    refine ⟨_, hown (p.own c), fun s hs => ?_⟩
    obtain ⟨hvalid, hs⟩ := Routine.real_eq_some.mp hs
    exact ⟨hs ▸ hvalid, hs⟩
  | some s =>
    have hs := (hfound s rfl).2
    refine ⟨some s, ?_, hfound⟩
    rw [hs]
    exact hown

theorem Watched.spins {call : SocketCall} {again : WinsockAnswer → Bool}
    {next : WinsockAnswer → SocketRoutine} (h : p.Watched c)
    (hrest : c.rest = .spin call again next) :
    p.Watched { c with rest := .spinning call again next (p.own c) } := by
  obtain ⟨htidy, hsure⟩ := h
  rw [hrest] at htidy hsure
  refine ⟨htidy.spinning _, fun hnot => ?_⟩
  obtain ⟨own, hown, hfound⟩ := hsure hnot
  cases own with
  | none => exact hown.elim
  | some s =>
    rw [(hfound s rfl).2]
    exact ⟨some s, hown.spinning, hfound⟩

theorem Watched.opens {next : Socket → WinsockAnswer → SocketRoutine} (h : p.Watched c)
    (hrest : c.rest = .opens next) (s : Socket) (os : WinsockAnswer) :
    p.Watched { c with hand := Routine.real invalidSocket s, rest := next s os } := by
  obtain ⟨htidy, hsure⟩ := h
  rw [hrest] at htidy hsure
  refine ⟨htidy.2 s os, fun hnot => ?_⟩
  obtain ⟨own, hown, hfound⟩ := hsure hnot
  exact ⟨own, by cases own <;> exact hown s os, hfound⟩

theorem Watched.calls {s : Socket} {call : SocketCall} {next : WinsockAnswer → SocketRoutine}
    (h : p.Watched c) (hrest : c.rest = .call s call next) (os : WinsockAnswer) :
    p.Watched { c with rest := next os } := by
  obtain ⟨htidy, hsure⟩ := h
  rw [hrest] at htidy hsure
  refine ⟨htidy os, fun hnot => ?_⟩
  obtain ⟨own, hown, hfound⟩ := hsure hnot
  exact ⟨own, by cases own <;> exact hown.2 os, hfound⟩

theorem Watched.closes {s : Socket} {next : WinsockAnswer → SocketRoutine} (h : p.Watched c)
    (hrest : c.rest = .closes s next) (os : WinsockAnswer) :
    p.Watched { c with hand := none, rest := next os } := by
  obtain ⟨htidy, hsure⟩ := h
  rw [hrest] at htidy hsure
  refine ⟨htidy.2 os, fun hnot => ?_⟩
  obtain ⟨own, hown, hfound⟩ := hsure hnot
  exact ⟨own, by cases own <;> exact hown os, hfound⟩

theorem tidy_go (hp : p.Tidy) {k : Nat} (hk : p.objects[k]? = some (.running c))
    (offer : Socket) (os : WinsockAnswer) :
    Tidy ⟨(c.go (p.own c) p.log offer os).1,
      p.objects.set k (c.go (p.own c) p.log offer os).2⟩ := by
  have hw := hp.watched c (List.mem_of_getElem? hk)
  have hkept : ∀ c', c'.hand = c.hand → p.Watched c' →
      Tidy ⟨p.log, p.objects.set k (.running c')⟩ := by
    intro c' hhand hc'
    refine hp.put hk (Owned.replace hp.owned hk ?_) fun d hd => ?_
    · show c'.hand.toList = c.hand.toList
      rw [hhand]
    · cases hd
      exact hc'
  unfold RunningCall.go
  cases hrest : c.rest with
  | returns out =>
    have htidy := hw.tidy
    rw [hrest] at htidy
    refine hp.put hk (Owned.replace hp.owned hk htidy) fun d hd => ?_
    cases out with
    | stream r => cases r <;> cases hd
    | listener r => cases r <;> cases hd
    | other => cases hd
  | reads next => exact hkept _ rfl (hw.reads hrest)
  | spin call again next => exact hkept _ rfl (hw.spins hrest)
  | call s call next => exact hkept _ rfl (hw.calls hrest os)
  | opens next =>
    have htidy := hw.tidy
    rw [hrest] at htidy
    have hempty : (SocketObject.running c).sockets = [] := by
      show c.hand.toList = []
      rw [htidy.1]
      rfl
    rcases handOut_cases hp.owned offer with hnone | ⟨hvalid, hsome, hs⟩
    · rw [hnone]
      refine hp.put hk (Owned.replace hp.owned hk ?_) fun d hd => ?_
      · rw [hempty]
        show (Routine.real invalidSocket invalidSocket).toList = []
        rw [Routine.real_null]
        rfl
      · cases hd
        exact hw.opens hrest _ os
    · rw [hsome]
      refine hp.put hk (Owned.moveIn hs hk hempty ?_) fun d hd => ?_
      · show (Routine.real invalidSocket offer).toList = [offer]
        rw [Routine.real_of_ne hvalid]
        rfl
      · cases hd
        exact hw.opens hrest _ os
  | closes s next =>
    have htidy := hw.tidy
    rw [hrest] at htidy
    refine hp.put hk (Owned.drop hp.owned hk ?_ rfl) fun d hd => ?_
    · show c.hand.toList = [s]
      rw [htidy.1]
      rfl
    · cases hd
      exact hw.closes hrest os

/-! ### Objects -/

theorem Tidy.add (hp : p.Tidy) {o : SocketObject} (hempty : o.sockets = [])
    (ho : ∀ c, o = .running c → p.Watched c) : (p.add o).Tidy := by
  refine ⟨Owned.add_empty hp.owned hempty, fun c hc => ?_⟩
  rcases List.mem_append.mp hc with hold | hnew
  · exact (hp.watched c hold).congr fun _ hvalid => own_concat hvalid
  · exact (ho c (List.mem_singleton.mp hnew).symm).congr fun _ hvalid => own_concat hvalid

/-- A function is called. -/
theorem Tidy.begin (hp : p.Tidy) {f : SocketRoutine} (hf : Careful none none f)
    (object : Option Nat) : (p.add (.running { object := object, rest := f })).Tidy := by
  refine hp.add rfl fun c hc => ?_
  cases hc
  exact .begin hf object

theorem Tidy.call (hp : p.Tidy) {f : SocketRoutine} (hf : Careful none none f)
    (ofClass : SocketObject → Bool) (i : Nat) : (p.call ofClass i f).Tidy := by
  unfold SocketProgram.call
  split
  · exact hp.begin hf (some i)
  · exact hp

/-- An object is exchanged on which no function is running, or none that is not
overtaken. -/
theorem Tidy.exchange (hp : p.Tidy) {i : Nat} {old new : SocketObject} {log : SocketLog}
    (hi : p.objects[i]? = some old)
    (howned : Owned log (Handles.held SocketObject.sockets (p.objects.set i new)))
    (hnew : ∀ c, new ≠ .running c)
    (hidle : ∀ c, .running c ∈ p.objects → c.overtaken = false → c.object ≠ some i) :
    Tidy ⟨log, p.objects.set i new⟩ := by
  refine ⟨howned, fun c hc => ?_⟩
  rcases List.mem_or_eq_of_mem_set hc with hold | heq
  · exact (hp.watched c hold).congr fun hnot _ =>
      own_set hi fun hobject => absurd hobject (hidle c hold hnot)
  · exact absurd heq.symm (hnew c)

theorem overtake_running {i : Nat} (h : .running c ∈ (p.overtake i).objects) :
    ∃ c', .running c' ∈ p.objects ∧
      c = if c'.object = some i then { c' with overtaken := true } else c' := by
  obtain ⟨o, ho, heq⟩ := List.mem_map.mp h
  cases o with
  | running c' => exact ⟨c', ho, (SocketObject.running.inj heq).symm⟩
  | stream t => cases heq
  | listener l => cases heq
  | gone => cases heq

/-- Nothing changes for a function, except that it may be overtaken. -/
theorem Tidy.overtake (hp : p.Tidy) (i : Nat) : (p.overtake i).Tidy := by
  have hheld : (p.overtake i).held = p.held := by
    unfold SocketProgram.held SocketProgram.overtake Handles.held
    rw [List.flatMap_map]
    exact congrArg (fun f => p.objects.flatMap f) (funext fun o => o.sockets_overtake i)
  have hown : ∀ c, (p.overtake i).own c = p.own c := by
    intro c
    unfold SocketProgram.own SocketProgram.overtake
    cases hobject : c.object with
    | none => rfl
    | some j =>
      rw [Option.bind_some, Option.bind_some, List.getElem?_map, Option.map_map]
      exact congrArg (fun f => ((p.objects[j]?).map f).getD invalidSocket)
        (funext fun o => o.sock_overtake i)
  refine ⟨?_, fun c hc => ?_⟩
  · rw [hheld]
    exact hp.owned
  · obtain ⟨c', hc', rfl⟩ := overtake_running hc
    have hw := (hp.watched c' hc').congr (q := p.overtake i) fun _ _ => hown c'
    split
    · exact ⟨hw.tidy, fun hnot => by cases hnot⟩
    · exact hw

/-- What `close` leaves of an object is not a function. -/
theorem close_running {log : SocketLog} {o : SocketObject} (h : o.live) (c : RunningCall) :
    (o.close log).2 ≠ .running c := by
  cases o with
  | stream t => exact fun heq => by cases heq
  | listener l => exact fun heq => by cases heq
  | running d => rcases h with h | h <;> cases h
  | gone => rcases h with h | h <;> cases h

theorem live_of_sock {o : SocketObject} (h : o.sock ≠ invalidSocket) : o.live := by
  cases o with
  | stream t => exact Or.inl rfl
  | listener l => exact Or.inr rfl
  | running c => exact absurd rfl h
  | gone => exact absurd rfl h

/-- An object is closed, and what takes its place is empty. -/
theorem owned_closeAs (hp : p.Tidy) {i : Nat} {o : SocketObject} (hi : p.objects[i]? = some o)
    (hlive : o.live) {left : SocketObject → SocketObject}
    (hleft : (o.close p.log).2.sockets = [] → (left (o.close p.log).2).sockets = []) :
    Owned (p.closeAs i o left).log (p.closeAs i o left).held := by
  rcases o.close_cases p.log with ⟨hnone, hclose⟩ | ⟨-, hsome, hlog, -, hafter⟩
  · have hempty : o.sockets = [] := by
      rw [SocketObject.sockets_of_live hlive, if_pos hnone]
    unfold SocketProgram.closeAs SocketProgram.held
    rw [hclose] at hleft ⊢
    exact Owned.replace hp.owned hi (by rw [hempty]; exact hleft hempty)
  · unfold SocketProgram.closeAs SocketProgram.held
    rw [hlog]
    exact Owned.drop hp.owned hi hsome (hleft hafter)

/-- An object may be closed while functions are running on it. -/
theorem Tidy.close (hp : p.Tidy) {i : Nat} {o : SocketObject} (hi : p.objects[i]? = some o)
    (hopen : o.sock ≠ invalidSocket) : ((p.overtake i).closeAs i o id).Tidy := by
  have hlive := live_of_sock hopen
  have hi' : (p.overtake i).objects[i]? = some o := by
    have hsame : o.overtake i = o := by
      cases o with
      | running c => exact absurd rfl hopen
      | stream t => rfl
      | listener l => rfl
      | gone => rfl
    rw [SocketProgram.overtake, List.getElem?_map, hi, Option.map_some, hsame]
  refine (hp.overtake i).exchange hi' (owned_closeAs (hp.overtake i) hi' hlive id)
    (close_running hlive) fun c hc hnot hobject => ?_
  obtain ⟨c', -, rfl⟩ := overtake_running hc
  split at hnot
  · cases hnot
  · next hother =>
    rw [if_neg hother] at hobject
    exact hother hobject

theorem Tidy.destroy (hp : p.Tidy) {i : Nat} {o : SocketObject} (hi : p.objects[i]? = some o)
    (hlive : o.live) (hidle : p.busy i = false) : (p.closeAs i o fun _ => .gone).Tidy := by
  have howned : Owned (p.closeAs i o fun _ => .gone).log (p.closeAs i o fun _ => .gone).held :=
    owned_closeAs hp hi hlive fun _ => rfl
  exact hp.exchange hi howned (fun c heq => by cases heq) fun c hc _ => not_busy hidle hc

/-- A move leaves the number of owners as it is. -/
theorem Tidy.moveConstruct (hp : p.Tidy) {src : Nat} {o : SocketObject}
    (hsrc : p.objects[src]? = some o) (hlive : o.live) (hidle : p.busy src = false) :
    Tidy { p with objects := p.objects.set src o.movedFrom ++ [o] } := by
  have hempty := (SocketObject.movedFrom_empty hlive).2
  have howned : Owned p.log
      (Handles.held SocketObject.sockets (p.objects.set src o.movedFrom ++ [o])) := by
    have hsockets := SocketObject.sockets_of_live hlive
    split at hsockets
    · refine Owned.add_empty (Owned.replace hp.owned hsrc ?_) hsockets
      rw [hsockets, hempty]
    · exact Owned.add (Owned.moveOut hp.owned hsrc hsockets hempty) hsockets
  have hnew : ∀ c, o ≠ .running c := by
    rintro c rfl
    rcases hlive with h | h <;> cases h
  have hold : ∀ c, o.movedFrom ≠ .running c := by
    intro c
    cases o with
    | running d => exact absurd rfl (hnew d)
    | stream t => exact fun heq => by cases heq
    | listener l => exact fun heq => by cases heq
    | gone => exact fun heq => by cases heq
  refine ⟨howned, fun c hc => ?_⟩
  rcases List.mem_append.mp hc with hc | hc
  · rcases List.mem_or_eq_of_mem_set hc with hc | heq
    · refine (hp.watched c hc).congr fun _ hvalid => ?_
      have hset : own ⟨p.log, p.objects.set src o.movedFrom⟩ c = p.own c :=
        own_set hsrc fun hobject => absurd hobject (not_busy hidle hc)
      have hlater : own ⟨p.log, p.objects.set src o.movedFrom ++ [o]⟩ c
          = own ⟨p.log, p.objects.set src o.movedFrom⟩ c :=
        own_concat (by rw [hset]; exact hvalid)
      exact hlater.trans hset
    · exact absurd heq.symm (hold c)
  · exact absurd (List.mem_singleton.mp hc).symm (hnew c)

theorem Tidy.moveAssign (hp : p.Tidy) {dst src : Nat} {target source : SocketObject}
    (hdst : p.objects[dst]? = some target) (hsrc : p.objects[src]? = some source)
    (htarget : target.live) (hsource : source.live) (hne : dst ≠ src)
    (hidle : p.busy dst = false) (hidle' : p.busy src = false) :
    (p.moveAssign dst src target source).Tidy := by
  -- first the target is closed, then the source is emptied, then the target is filled
  have hclosed : Owned (p.closeAs dst target id).log (p.closeAs dst target id).held :=
    owned_closeAs hp hdst htarget id
  have hsrc' : (p.closeAs dst target id).objects[src]? = some source := by
    rw [SocketProgram.closeAs, List.getElem?_set_ne hne, hsrc]
  have hdst' : ((p.closeAs dst target id).objects.set src source.movedFrom)[dst]?
      = some (target.close p.log).2 := by
    rw [SocketProgram.closeAs, List.getElem?_set_ne hne.symm,
      List.getElem?_set_self (List.getElem?_eq_some_iff.mp hdst).1, id]
  have hempty : (target.close p.log).2.sockets = [] := by
    rcases target.close_cases p.log with ⟨hnone, hclose⟩ | ⟨-, -, -, -, h⟩
    · rw [hclose, SocketObject.sockets_of_live htarget, if_pos hnone]
    · exact h
  have hmoved := (SocketObject.movedFrom_empty hsource).2
  have hfilled : (p.moveAssign dst src target source).objects
      = ((p.closeAs dst target id).objects.set src source.movedFrom).set dst source := by
    rw [SocketProgram.closeAs, List.set_comm _ _ hne, List.set_set]
    rfl
  have howned : Owned (p.moveAssign dst src target source).log
      (p.moveAssign dst src target source).held := by
    unfold SocketProgram.held
    rw [hfilled]
    have hsockets := SocketObject.sockets_of_live hsource
    split at hsockets
    · refine Owned.replace (Owned.replace hclosed hsrc' ?_) hdst' ?_
      · rw [hsockets, hmoved]
      · rw [hsockets, hempty]
    · exact Owned.moveIn (Owned.moveOut hclosed hsrc' hsockets hmoved) hdst' hempty hsockets
  refine ⟨howned, fun c hc => ?_⟩
  have hrunning : ∀ o : SocketObject, o.live → .running c ≠ o := by
    rintro o hlive rfl
    rcases hlive with h | h <;> cases h
  have hmovedLive : source.movedFrom.live := by
    cases source with
    | stream t => exact Or.inl rfl
    | listener l => exact Or.inr rfl
    | running d => exact hsource
    | gone => exact hsource
  rcases List.mem_or_eq_of_mem_set hc with hc | heq
  · rcases List.mem_or_eq_of_mem_set hc with hc | heq
    · refine (hp.watched c hc).congr fun _ _ => ?_
      have hset : own ⟨p.log, p.objects.set src source.movedFrom⟩ c = p.own c :=
        own_set hsrc fun hobject => absurd hobject (not_busy hidle' hc)
      have hdst'' : (p.objects.set src source.movedFrom)[dst]? = some target := by
        rw [List.getElem?_set_ne hne.symm, hdst]
      have hlater :
          own ⟨(target.close p.log).1, (p.objects.set src source.movedFrom).set dst source⟩ c
            = own ⟨p.log, p.objects.set src source.movedFrom⟩ c :=
        own_set (p := ⟨p.log, p.objects.set src source.movedFrom⟩) hdst''
          fun hobject => absurd hobject (not_busy hidle hc)
      exact hlater.trans hset
    · exact absurd heq (hrunning _ hmovedLive)
  · exact absurd heq (hrunning _ hsource)

/-! ### Runs -/

/-- What one step of a thread preserves. -/
theorem tidy_step (hp : p.Tidy) (st : SocketStep) : (p.step st).Tidy := by
  cases st with
  | stream => exact hp.add rfl fun c hc => by cases hc
  | listener => exact hp.add rfl fun c hc => by cases hc
  | connect timeoutMs resolved => exact hp.begin (TcpStream.connect_careful timeoutMs resolved) none
  | bind resolved actualPort => exact hp.begin (TcpListener.bind_careful resolved actualPort) none
  | accept i timeoutMs => exact hp.call (TcpListener.accept_careful timeoutMs) _ i
  | sendAll i data => exact hp.call (TcpStream.sends_careful data) _ i
  | recvSome i => exact hp.call TcpStream.receives_careful _ i
  | setTimeout i ms => exact hp.call (TcpStream.setTimeout_careful ms) _ i
  | peerDesc i => exact hp.call TcpStream.peerDesc_careful _ i
  | go k offer os =>
    rw [step]
    split
    · next c hk => exact tidy_go hp hk offer os
    · exact hp
  | close i =>
    rw [step]
    split
    · next o hi =>
      split
      · next hopen => exact hp.close hi hopen
      · exact hp
    · exact hp
  | moveConstruct src =>
    rw [step]
    split
    · next o hsrc =>
      split
      · next hmoves => exact hp.moveConstruct hsrc hmoves.1 (by simpa using hmoves.2)
      · exact hp
    · exact hp
  | moveAssign dst src =>
    rw [step]
    split
    · next target source hdst hsrc =>
      split
      · next hmoves =>
        obtain ⟨hclass, hne, hidle, hidle'⟩ := hmoves
        have hlive : target.live ∧ source.live := by
          rcases hclass with ⟨ht, hs⟩ | ⟨ht, hs⟩
          · exact ⟨Or.inl ht, Or.inl hs⟩
          · exact ⟨Or.inr ht, Or.inr hs⟩
        exact hp.moveAssign hdst hsrc hlive.1 hlive.2 hne (by simpa using hidle)
          (by simpa using hidle')
      · exact hp
    · exact hp
  | destroy i =>
    rw [step]
    split
    · next o hi =>
      split
      · next hidle => exact hp.destroy hi hidle.1 (by simpa using hidle.2)
      · exact hp
    · exact hp

theorem tidy_run (steps : List SocketStep) : (run {} steps).Tidy := by
  induction steps using List.reverseRecOn with
  | nil => exact ⟨Owned.nil, fun c hc => by cases hc⟩
  | append_singleton steps st ih =>
    rw [run, Run.run_concat]
    exact tidy_step ih st

/-- A function that is not overtaken makes its calls on a socket that is open,
which it has opened or which its object holds. -/
theorem Tidy.called (hp : p.Tidy) (hc : .running c ∈ p.objects) (hnot : c.overtaken = false)
    {s : Socket} {call : SocketCall} (hnext : c.nextCall = some (s, call)) :
    s ∈ opened p.log ∧ (c.hand = some s ∨ p.own c = s) := by
  obtain ⟨own, hsure, hown⟩ := (hp.watched c hc).sure hnot
  unfold RunningCall.nextCall at hnext
  split at hnext
  · next s' call' next hrest =>
    cases hnext
    rw [hrest] at hsure
    have huse : own = some s ∨ c.hand = some s := by cases own <;> exact hsure.1
    rcases huse with hs | hs
    · obtain ⟨hvalid, hs⟩ := hown s hs
      refine ⟨hp.owned.mem_opened.mpr ?_, Or.inr hs⟩
      rw [← hs] at hvalid ⊢
      unfold SocketProgram.own at hvalid ⊢
      cases hobject : c.object.bind fun i => p.objects[i]? with
      | none =>
        rw [hobject] at hvalid
        exact absurd rfl hvalid
      | some o =>
        rw [hobject] at hvalid
        obtain ⟨i, -, hi⟩ := Option.bind_eq_some_iff.mp hobject
        refine Handles.mem_held (List.mem_of_getElem? hi) ?_
        rw [SocketObject.sockets_of_sock hvalid]
        exact List.mem_singleton_self _
    · refine ⟨hp.owned.mem_opened.mpr (Handles.mem_held hc ?_), Or.inl hs⟩
      show s ∈ c.hand.toList
      rw [hs]
      exact List.mem_singleton_self _
  · cases hnext

/-- In every run, the open sockets are those that the objects and the running
functions hold, each of them in one place, no socket is closed that is not
open, and each was closed as often as it was handed out, but for the one time
that it is held.  A function that is about to make a call on a socket has
opened it or finds it in its object, and it is open, unless another thread has
closed the object since the function was called. -/
theorem owned_run (steps : List SocketStep) :
    Handles.Proper (run {} steps).log ∧ (opened (run {} steps).log).Perm (run {} steps).held ∧
      (run {} steps).held.Nodup ∧
      (∀ s, (run {} steps).log.count (.issued s)
        = (run {} steps).log.count (.released s) + if s ∈ (run {} steps).held then 1 else 0) ∧
      ∀ c, .running c ∈ (run {} steps).objects → ∀ s call, c.nextCall = some (s, call) →
        c.overtaken = true ∨
          s ∈ opened (run {} steps).log ∧ (c.hand = some s ∨ (run {} steps).own c = s) := by
  have htidy := tidy_run steps
  refine ⟨htidy.owned.proper, htidy.owned.perm, htidy.owned.nodup, ?_, ?_⟩
  · intro s
    rw [htidy.owned.balance s, htidy.owned.nodup.count]
  · intro c hc s call hnext
    cases hnot : c.overtaken with
    | true => exact Or.inl rfl
    | false => exact Or.inr (htidy.called hc hnot hnext)

/-- A listener on socket 7, and a function that is in `accept` on it. -/
def sampleAccept : List SocketStep :=
  .bind true 9000 :: List.replicate 7 (.go 0 7 {}) ++ .accept 0 100 :: List.replicate 3 (.go 1 0 {})

/-- The coordinator stops meanwhile, and the number of the socket comes back as
that of a connection.  `accept` goes on to poll this one, which has one owner. -/
example :
    (run {} (sampleAccept ++ [.close 0, .connect 5000 true, .go 2 7 {}])).held = [7] ∧
      (run {} (sampleAccept ++ [.go 1 0 {}, .close 0])).objects.any
        (fun o => match o with
          | .running c => c.overtaken && c.nextCall == some (7, .select 100)
          | _ => false) := by
  decide

end SocketProgram

end GpuFleet
