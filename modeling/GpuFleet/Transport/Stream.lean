import GpuFleet.Core.Types

/-!
# Sending and receiving

`send_all`, `recv_some` and `recv_some_opt` of `transport/transport.cpp`, over
what `::send` and `::recv` of the operating system do.  `::send` may take a
part of what it is given, so `send_all` calls it in a loop, and a call that
would block is made again.

`send_all` is the only writer of a stream.  What it writes is the beginning of
what it was given, and all of it exactly when it returns without an error
(`sendAll_cases`).
-/

namespace GpuFleet

/-! ## Sockets -/

/-- `SOCKET`, which a stream keeps as a `std::uintptr_t`. -/
abbrev Socket := UInt64

/-- `INVALID_SOCKET`, and the `-1` of a stream without a socket. -/
def invalidSocket : Socket := -1

/-- `WSAEWOULDBLOCK`. -/
def wsaeWouldBlock : Nat := 10035

/-- `WSAETIMEDOUT`. -/
def wsaeTimedOut : Nat := 10060

/-- `wsa_error_str`. -/
def wsaErrorStr (code : Nat) : ByteString := text "winsock error " ++ decimal code

/-- `TcpStream`. -/
structure TcpStream where
  sock : Socket := invalidSocket
  deriving DecidableEq, Repr

namespace TcpStream

/-- `TcpStream::open`. -/
def isOpen (s : TcpStream) : Bool := decide (s.sock ≠ invalidSocket)

/-! ## Sending -/

/-- What a call of `::send` does. -/
inductive SendCall
  | sent (count : Nat)
  | failed (code : Nat)

/-- What `send_all` has written, and its `return` statement unless it is still
in the loop. -/
structure Sent where
  written : ByteString
  returned : Option (Except Error Unit)
  deriving DecidableEq

/-- The loop of `send_all` with `n` bytes left at `p`.  `::send` takes its
length as an `int`, and it takes no more than it is given. -/
def sendLoop (p : ByteString) : List SendCall → Sent
  | [] => if p.isEmpty then ⟨[], some (.ok ())⟩ else ⟨[], none⟩
  | call :: calls =>
    if p.isEmpty then ⟨[], some (.ok ())⟩
    else match call with
      | .failed code =>
        if code = wsaeWouldBlock then sendLoop p calls
        else ⟨[], some (.error { code := .io, message := wsaErrorStr code })⟩
      | .sent count =>
        let sent := min count (min p.length 0x7FFFFFFF)
        let rest := sendLoop (p.drop sent) calls
        ⟨p.take sent ++ rest.written, rest.returned⟩

/-- `send_all`. -/
def sendAll (s : TcpStream) (data : ByteString) (calls : List SendCall) : Sent :=
  if !s.isOpen then ⟨[], some (.error (errorResult .io "socket closed"))⟩
  else sendLoop data calls

/-! ## Receiving -/

/-- What a call of `::recv` does.  No bytes are a clean close. -/
inductive RecvCall
  | received (data : ByteString)
  | failed (code : Nat)

/-- `recv_some`, for a buffer of a given size. -/
def recvSome (s : TcpStream) (size : Nat) (call : RecvCall) : Result ByteString :=
  if !s.isOpen then .error (errorResult .io "socket closed")
  else match call with
    | .received data => .ok (data.take size)
    | .failed code =>
      if code = wsaeWouldBlock ∨ code = wsaeTimedOut then .error (errorResult .io "timeout")
      else .error { code := .io, message := wsaErrorStr code }

/-- `recv_some_opt`, which tells a timeout from an error. -/
def recvSomeOpt (s : TcpStream) (size : Nat) (call : RecvCall) : Result (Option ByteString) :=
  if !s.isOpen then .error (errorResult .io "socket closed")
  else match call with
    | .received data => .ok (some (data.take size))
    | .failed code =>
      if code = wsaeWouldBlock ∨ code = wsaeTimedOut then .ok none
      else .error { code := .io, message := wsaErrorStr code }

/-- The two differ in a timeout only. -/
theorem recvSome_eq (s : TcpStream) (size : Nat) (call : RecvCall) :
    s.recvSome size call = match s.recvSomeOpt size call with
      | .ok (some data) => .ok data
      | .ok none => .error (errorResult .io "timeout")
      | .error err => .error err := by
  unfold recvSome recvSomeOpt
  split
  · rfl
  · cases call with
    | received data => rfl
    | failed code =>
      dsimp only
      split <;> rfl

/-! ## What is written -/

/-- The three ways a call of `send_all` can stand. -/
inductive SendCase (data : ByteString) (sent : Sent) : Prop
  | whole (hwritten : sent.written = data) (hreturned : sent.returned = some (.ok ()))
  | waiting (rest : ByteString) (hrest : rest ≠ []) (hdata : data = sent.written ++ rest)
      (hreturned : sent.returned = none)
  | cut (rest : ByteString) (err : Error) (hdata : data = sent.written ++ rest)
      (hcode : err.code = .io) (hreturned : sent.returned = some (.error err))

theorem sendLoop_cases (p : ByteString) (calls : List SendCall) :
    SendCase p (sendLoop p calls) := by
  induction calls generalizing p with
  | nil =>
    unfold sendLoop
    split
    · next hempty => exact .whole (List.isEmpty_iff.mp hempty).symm rfl
    · next hleft => exact .waiting p (fun h => hleft (List.isEmpty_iff.mpr h)) rfl rfl
  | cons call calls ih =>
    unfold sendLoop
    split
    · next hempty => exact .whole (List.isEmpty_iff.mp hempty).symm rfl
    · next hleft =>
      cases call with
      | failed code =>
        dsimp only
        split
        · exact ih p
        · exact .cut p _ rfl rfl rfl
      | sent count =>
        dsimp only
        generalize min count (min p.length 0x7FFFFFFF) = k
        have hsplit : p = p.take k ++ p.drop k := (List.take_append_drop k p).symm
        cases ih (p.drop k) with
        | whole hwritten hreturned =>
          refine .whole ?_ hreturned
          dsimp only
          rw [hwritten, ← hsplit]
        | waiting rest hrest hdata hreturned =>
          refine .waiting rest hrest ?_ hreturned
          dsimp only
          rw [List.append_assoc, ← hdata, ← hsplit]
        | cut rest err hdata hcode hreturned =>
          refine .cut rest err ?_ hcode hreturned
          dsimp only
          rw [List.append_assoc, ← hdata, ← hsplit]

theorem sendAll_cases (s : TcpStream) (data : ByteString) (calls : List SendCall) :
    SendCase data (s.sendAll data calls) := by
  unfold sendAll
  split
  · exact .cut data _ rfl rfl rfl
  · exact sendLoop_cases data calls

theorem SendCase.begins {data : ByteString} {sent : Sent} (h : SendCase data sent) :
    sent.written <+: data := by
  cases h with
  | whole hwritten _ => exact ⟨[], by rw [List.append_nil, hwritten]⟩
  | waiting rest _ hdata _ => exact ⟨rest, hdata.symm⟩
  | cut rest _ hdata _ _ => exact ⟨rest, hdata.symm⟩

end TcpStream

end GpuFleet
