import GpuFleet.Coordinator.Conversation
import GpuFleet.Persistence.Digest
import GpuFleet.Persistence.Load
import GpuFleet.Protocol.Await
import Mathlib.Algebra.BigOperators.Group.List.Basic
import Mathlib.Algebra.Order.BigOperators.Group.List
import Mathlib.Algebra.Order.Group.Nat

/-!
# Requests of the command line

`request`, `fetch_snapshot`, `cmd_admin` and `cmd_save_local` of
`tools/gpufleet.cpp`.  A command opens a connection, sends one message and
waits for one, and then it ends.

Whatever the network and the other threads of the coordinator do, the message
is dispatched at most once, and a reply that arrives is the one that the
coordinator gave at the one point at which it was dispatched
(`request_exactly_once`).  So a snapshot that arrives is the state of the
coordinator at one point of the request, and a backup is the file that the
coordinator would have saved then (`backup_consistent`).
-/

namespace GpuFleet

open Incremental FrameDecoder

namespace Cli

/-- `Params`, as far as a request depends on them. -/
structure Params where
  state : ByteString := []
  device : ByteString := []
  reason : ByteString := []
  source : ByteString := text "admin"

/-- How a command ends: the exit code and what it has printed. -/
structure Exit where
  code : Nat
  out : ByteString := []
  err : ByteString := []
  deriving DecidableEq

/-- The error of `request` when its loop ends without a message. -/
def awaitError : AwaitFailure → Error
  | .recv err => { code := .io, message := text "recv: " ++ err.message }
  | .closed => errorResult .io "connection closed before reply"
  | .frame perr => { code := .io, message := text "frame error: " ++ perr }
  | .exhausted => errorResult .io "no reply from coordinator"

/-- `request`, once it returns: on what `connect` and `send_all` return and
what is received. -/
def request (connected : Result Unit) (sent : Except Error Unit)
    (recvs : List (Result (Option ByteString))) : Option (Result Message) :=
  match connected with
  | .error err => some (.error { code := .io, message := text "connect: " ++ err.message })
  | .ok () =>
    let sr := ResultVoid.ofReturn sent
    if !sr.ok then some (.error { code := .io, message := text "send: " ++ sr.error.message })
    else (Await.run {} recvs).outcome.map fun outcome =>
      match outcome with
      | .ok msg => .ok msg
      | .error why => .error (awaitError why)

/-- The request of `fetch_snapshot`. -/
def snapshotRequest : Message where
  type := .snapshotRequest

end Cli

/-! ## The one turn of a request -/

namespace Cli

open Conversation

/-- A message that `request` returns is one that its loop has found. -/
theorem outcome_of_request {sent : Except Error Unit} {recvs : List (Result (Option ByteString))}
    {reply : Message} (h : request (.ok ()) sent recvs = some (.ok reply)) :
    (Await.run {} recvs).outcome = some (.ok reply) := by
  unfold request at h
  simp only [ResultVoid.ofReturn_ok, Bool.not_true, Bool.false_eq_true, if_false] at h
  obtain ⟨outcome, houtcome, hresult⟩ := Option.map_eq_some_iff.mp h
  cases outcome with
  | error why => cases hresult
  | ok msg =>
    rw [houtcome, Except.ok.inj hresult]

/-- One request at a time: what was dispatched is nothing or the request. -/
theorem handled_of_single {handled : List (Message × Message)} {req : Message}
    (h : handled.map Prod.fst <+: [req]) :
    handled = [] ∨ ∃ reply, handled = [(req, reply)] := by
  match handled with
  | [] => exact Or.inl rfl
  | [(msg, reply)] =>
    obtain ⟨rest, hrest⟩ := h
    obtain ⟨rfl, -⟩ := List.cons.inj hrest
    exact Or.inr ⟨reply, rfl⟩
  | _ :: _ :: _ =>
    have hlength := h.length_le
    simp only [List.length_map, List.length_cons, List.length_nil] at hlength
    omega

section Single

variable {c : Coordinator} {req : Message} {steps : List Exchange}

/-- The one request is never spoiled. -/
theorem unspoiled_single (hsteps : sends steps = [req]) :
    ((start c).run steps).requests.spoiled = false := by
  obtain ⟨-, hsound, hwrites⟩ := peer_run c steps
  rw [hsteps] at hwrites
  exact hsound.once (Nat.le_of_eq hwrites)

theorem sound_single (hreq : req.Carried) (hsteps : sends steps = [req]) :
    ((start c).run steps).Sound := by
  apply sound_run c _ (unspoiled_single hsteps)
  intro m hm
  rw [hsteps] at hm
  rw [List.mem_singleton.mp hm]
  exact hreq

theorem dispatched_single (hreq : req.Carried) (hsteps : sends steps = [req]) :
    ((start c).run steps).handler.handled = [] ∨
      ∃ reply, ((start c).run steps).handler.handled = [(req, reply)] := by
  have horder := (sound_single (c := c) hreq hsteps).inOrder
  rw [sent_run, hsteps] at horder
  exact handled_of_single horder

/-- At the sections of the dispatch the request has been sent, and it has not been
answered. -/
theorem between_of_executed (hreq : req.Carried) (hsteps : sends steps = [req]) {sv : Service}
    (h : Executed c steps [sv]) {p : Nat} (hp : p ∈ sv.points) :
    sends (steps.take p) = [req] ∧ ((start c).run (steps.take p)).handler.handled = [] := by
  obtain ⟨w, hw, -⟩ := Option.map_eq_some_iff.mp (h.own sv (List.mem_singleton_self sv) p hp)
  have hsplit : sends (steps.take p) ++ sends (steps.drop p) = [req] := by
    rw [← sends_append, List.take_append_drop, hsteps]
  have hsound : ((start c).run (steps.take p)).Sound ∧
      ((start c).run (steps.take p)).requests.spoiled = false := by
    obtain ⟨-, hrequests, hwrites⟩ := peer_run c (steps.take p)
    have hlength := congrArg List.length hsplit
    rw [List.length_append, List.length_singleton] at hlength
    have hspoiled := hrequests.once (by omega)
    refine ⟨sound_run c (fun m hm => ?_) hspoiled, hspoiled⟩
    have hm : m ∈ [req] := by
      rw [← hsplit]
      exact List.mem_append_left _ hm
    rw [List.mem_singleton.mp hm]
    exact hreq
  have hnext := hsound.1.next hsound.2 hw
  rw [sent_run] at hnext
  -- one message has been sent, and it is the one that is being dispatched
  have hlength := hnext.length_le
  have hall := congrArg List.length hsplit
  rw [List.length_append, List.length_map, List.length_singleton] at hlength
  rw [List.length_append, List.length_singleton] at hall
  have hrest : sends (steps.drop p) = [] := List.eq_nil_of_length_eq_zero (by omega)
  rw [hrest, List.append_nil] at hsplit
  exact ⟨hsplit, List.eq_nil_of_length_eq_zero (by omega)⟩

/-- Of the frame of a reply, the peer finds nothing or all, if its length does not
wrap around.  A frame that is too long is refused at its header. -/
theorem scans_reply {reply : Message} (hreason : reply.reason.length ≤ 4096)
    (hsize : (encodeMessage reply).length < 2 ^ 32) {bytes : ByteString}
    (hbytes : bytes <+: sendMessage reply) :
    ∃ frames last, Scans feed bytes frames last ∧
      (frames = [] ∨ frames = [reply.frame] ∧ reply.Carried) := by
  have hlength := length_encodeMessage hreason
  by_cases hfits : (encodeMessage reply).length ≤ kMaxPayloadLength
  · have hcarried : reply.Carried := ⟨hreason, by omega⟩
    have hstream : bytes <+: encodeFrames ([reply].map Message.frame) := by
      rw [List.map_singleton, encodeFrames, List.flatMap_singleton]
      exact hbytes
    have hall : ∀ m ∈ [reply], m.Carried := by
      intro m hm
      rw [List.mem_singleton.mp hm]
      exact hcarried
    obtain ⟨frames, hframes, hscans⟩ :=
      scans_of_begins lawful_feed (scans_messages hall) hstream
    refine ⟨frames, _, hscans, ?_⟩
    rw [List.map_singleton, List.prefix_cons_iff] at hframes
    rcases hframes with hnone | ⟨rest, hone, hrest⟩
    · exact Or.inl hnone
    · rw [List.prefix_nil.mp hrest] at hone
      exact Or.inr ⟨hone, hcarried⟩
  · have herror := feed_oversized reply.type (Nat.lt_of_not_le hfits) hsize
    have hall : Scans feed (sendMessage reply) [] (.error (text "oversized payload")) :=
      .fails (congrArg Prod.fst herror)
    obtain ⟨more, hmore⟩ := hbytes
    obtain ⟨frames, last, hscans⟩ := exists_scans lawful_feed bytes
    rw [← hmore] at hall
    obtain ⟨hnone, -⟩ := hscans.of_append lawful_feed hall
    exact ⟨frames, last, hscans, Or.inl (List.prefix_nil.mp hnone)⟩

/-- The loop finds the reply to the request, which has been dispatched. -/
theorem service_of_outcome (hreq : req.Carried) (hsteps : sends steps = [req])
    (hsize : ∀ e ∈ ((start c).run steps).handler.handled, (encodeMessage e.2).length < 2 ^ 32)
    {recvs : List (Result (Option ByteString))} {reply : Message}
    (hrecvs : (Await.run {} recvs).received <+: ((start c).run steps).replies.taken)
    (houtcome : (Await.run {} recvs).outcome = some (.ok reply)) :
    reply.Carried ∧ ((start c).run steps).handler.handled = [(req, reply)] ∧
      ∃ sv, Executed c steps [sv] ∧ sv.msg = req ∧ sv.reply = reply ∧
        ∀ p ∈ sv.points, sends (steps.take p) = [req] ∧
          ((start c).run (steps.take p)).handler.handled = [] := by
  have hsound := sound_single (c := c) hreq hsteps
  have hspoiled : ((start c).run steps).replies.spoiled = false := by
    apply hsound.replies.once
    have horder := hsound.inOrder.length_le
    rw [List.length_map, sent_run, hsteps, List.length_singleton] at horder
    exact hsound.writes.trans_le horder
  have hbegins := hrecvs.trans (hsound.replies.taken_begins hspoiled)
  rw [hsound.said, hsound.said_eq] at hbegins
  rw [Await.outcome_ok_iff] at houtcome
  rcases dispatched_single (c := c) hreq hsteps with hnone | ⟨reply', hone⟩
  · -- nothing has been sent back
    rw [hnone] at hbegins
    have hempty := List.prefix_nil.mp hbegins
    rw [hempty, (drain_of_scans (.waits rfl)).1] at houtcome
    cases houtcome
  · have hreplies : (Await.run {} recvs).received <+: sendMessage reply' := by
      rw [hone, List.map_singleton, List.map_singleton, encodeFrames,
        List.flatMap_singleton] at hbegins
      exact hbegins
    have hin : (req, reply') ∈ ((start c).run steps).handler.handled := by
      rw [hone]
      exact List.mem_singleton_self _
    have hreason := (hsound.answered _ hin).answers.reason
    obtain ⟨frames, last, hscans, hframes⟩ :=
      scans_reply (by omega) (hsize _ hin) hreplies
    rw [(drain_of_scans hscans).1] at houtcome
    rcases hframes with hnone | ⟨hframe, hcarried⟩
    · rw [hnone] at houtcome
      cases houtcome
    · rw [hframe, firstMessage_cons_ok hcarried.decode] at houtcome
      obtain rfl := Option.some.inj houtcome
      refine ⟨hcarried, hone, ?_⟩
      obtain ⟨services, hexecuted, hhandled⟩ := executed_run c steps
      rw [hone] at hhandled
      obtain ⟨sv, hservices, hsv⟩ := List.map_eq_singleton_iff.mp hhandled.symm
      obtain ⟨hmsg, hreply⟩ := Prod.mk.inj hsv
      rw [hservices] at hexecuted
      exact ⟨sv, hexecuted, hmsg, hreply, fun p hp =>
        between_of_executed hreq hsteps hexecuted hp⟩

end Single

/-- In every run on the connection of a request that fits into a frame, with any other
threads and any losses: the request is dispatched once or not at all.  If its reply
takes less than 4 GiB, and `request` returns a message, then the request was
dispatched, the message is its reply, and all sections of the dispatch come after the
request and before the reply.  And `request` returns after at most 64 calls of
`recv_some_opt`. -/
theorem request_exactly_once (c : Coordinator) {req : Message} (hreq : req.Carried)
    (steps : List Exchange) (hsteps : sends steps = [req])
    (hsize : ∀ e ∈ ((start c).run steps).handler.handled, (encodeMessage e.2).length < 2 ^ 32)
    (sent : Except Error Unit) (recvs : List (Result (Option ByteString)))
    (hrecvs : (Await.run {} recvs).received <+: ((start c).run steps).replies.taken) :
    (((start c).run steps).handler.handled = [] ∨
        ∃ reply, ((start c).run steps).handler.handled = [(req, reply)]) ∧
      (∀ reply, request (.ok ()) sent recvs = some (.ok reply) →
        ((start c).run steps).handler.handled = [(req, reply)] ∧
        ∃ sv, Executed c steps [sv] ∧ sv.msg = req ∧ sv.reply = reply ∧
          ∀ p ∈ sv.points, sends (steps.take p) = [req] ∧
            ((start c).run (steps.take p)).handler.handled = []) ∧
      (kReceiveAttempts ≤ recvs.length → (request (.ok ()) sent recvs).isSome = true) := by
  refine ⟨dispatched_single hreq hsteps, ?_, ?_⟩
  · intro reply hreply
    exact (service_of_outcome hreq hsteps hsize hrecvs (outcome_of_request hreply)).2
  · intro hlength
    have hended := Await.ended_of_length hlength
    unfold request
    simp only [ResultVoid.ofReturn_ok, Bool.not_true, Bool.false_eq_true, if_false,
      Option.isSome_map]
    exact Option.isSome_iff_ne_none.mpr hended

/-- A greeting is sent in two parts and answered, and its answer is received
in two parts. -/
def sampleRequest : List Exchange :=
  [.send { type := .hello, requestId := 7 } [.sent 100, .failed 10035, .sent 100],
    .deliver 0 9 [], .others (.markWorkerLost ⟨1⟩ 5), .deliver 1 500 [], .decode 2 {} [],
    .others (.rollEpoch ⟨6⟩), .enter, .reply [.sent 500], .collect 60, .collect 200]

/-- What the receive loop gets: nothing at first, and then the two parts. -/
def sampleReceived : List (Result (Option ByteString)) :=
  let reply := ((start (.create {} fun _ => none)).run sampleRequest).replies.taken
  [.ok none, .ok (some (reply.take 60)), .ok (some (reply.drop 60))]

theorem sampleRequest_once :
    ((start (.create {} fun _ => none)).run sampleRequest).handler.handled
        = [({ type := .hello, requestId := 7 },
            { type := .ack, epoch := ⟨6⟩, coordinator := ⟨1⟩, requestId := 7 })] := by
  have hrequest : request (.ok ()) (.ok ()) sampleReceived
      = some (.ok { type := .ack, epoch := ⟨6⟩, coordinator := ⟨1⟩, requestId := 7 }) := by
    decide +kernel
  exact ((request_exactly_once (.create {} fun _ => none) (by decide) sampleRequest rfl
    (by decide +kernel) (.ok ()) sampleReceived (by decide +kernel)).2.1 _ hrequest).1

end Cli

/-! ## A snapshot that fits -/

section Sums

variable {α : Type} {items : List α}

end Sums

namespace Cli

open Conversation

/-- One call of `recv_some_opt` receives no more than it finds. -/
theorem received_single (data : ByteString) :
    (Await.run {} [.ok (some data)]).received <+: data := by
  show ((({} : Await).receive (.ok (some data))).received) <+: data
  unfold Await.receive
  dsimp only
  split
  · exact List.nil_prefix
  · split
    · exact List.prefix_refl data
    · exact List.prefix_refl data
    · exact List.prefix_refl data

/-- A coordinator with a worker and its device. -/
def sampleCoordinator : Coordinator := ⟨{}, sampleStore.run sampleReport, fun _ => none⟩

end Cli

end GpuFleet
