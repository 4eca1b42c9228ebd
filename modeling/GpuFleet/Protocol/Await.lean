import GpuFleet.Lib.Channel
import GpuFleet.Lib.Run
import GpuFleet.Protocol.Codec
import GpuFleet.Protocol.FrameStream

/-!
# Waiting for a message

`read_one_message` of `agent/agent.cpp` and the loop of `request` in
`tools/gpufleet.cpp`.  Both take a fresh `FrameDecoder` and make at most 64
calls of `recv_some_opt`.  A call without data counts as one of them.  Frames
whose payload does not decode are passed over, and the first message that is
found ends the loop, with whatever else has been received.

The two differ in the texts of their errors only, so they are one loop with an
`AwaitFailure`.  `Await.sound_run` says what it finds: the first message in the
bytes that it has received, exactly if there is one.
-/

namespace GpuFleet

open Incremental FrameDecoder

/-- How the loop ends without a message. -/
inductive AwaitFailure
  | recv (err : Error)
  | closed
  | frame (perr : ByteString)
  | exhausted
  deriving DecidableEq

/-- What the inner loop comes to: a message, or the decoder wants more, or the
stream is broken. -/
inductive Found
  | message (msg : Message)
  | wait (dec : FrameDecoder)
  | broken (perr : ByteString)

/-- The inner loop, from a call of `feed` on.  Every frame is taken off the
buffer, so there are fewer rounds than bytes. -/
def findMessage : Nat → FrameDecoder → ByteString → Found
  | 0, dec, data => .wait (dec ++ data)
  | n + 1, dec, data =>
    match feed dec data with
    | (.needMore, dec) => .wait dec
    | (.error perr, _) => .broken perr
    | (.ready frame, dec) =>
      match decodeMessage frame.payload with
      | .ok msg => .message msg
      | .error _ => findMessage n dec []

/-- `for (int i = 0; i < 64; ++i)`. -/
def kReceiveAttempts : Nat := 64

/-- The loop between two calls of `recv_some_opt`. -/
structure Await where
  dec : FrameDecoder := []
  attempts : Nat := 0
  outcome : Option (Except AwaitFailure Message) := none
  /-- The bytes that were received, for the record. -/
  received : ByteString := []

namespace Await

/-- `continue`, and the end of the loop after the last attempt. -/
def next (a : Await) (dec : FrameDecoder) : Await :=
  { a with
    dec := dec
    attempts := a.attempts + 1
    outcome := if a.attempts + 1 < kReceiveAttempts then none else some (.error .exhausted) }

/-- The body of the loop. -/
def receive (a : Await) : Result (Option ByteString) → Await
  | .error err => { a with outcome := some (.error (.recv err)) }
  | .ok none => a.next a.dec
  | .ok (some data) =>
    if data.isEmpty then { a with outcome := some (.error .closed) }
    else
      let b := { a with received := a.received ++ data }
      match findMessage ((a.dec ++ data).length + 1) a.dec data with
      | .message msg => { b with outcome := some (.ok msg) }
      | .broken perr => { b with outcome := some (.error (.frame perr)) }
      | .wait dec => b.next dec

/-- A loop that has ended receives nothing more. -/
def step (a : Await) (recv : Result (Option ByteString)) : Await :=
  match a.outcome with
  | none => a.receive recv
  | some _ => a

/-- The calls of `recv_some_opt`, one after the other. -/
def run (a : Await) (recvs : List (Result (Option ByteString))) : Await := Run.run step a recvs

end Await

/-! ## The first message -/

/-- The message of the first frame that has one. -/
def firstMessage (frames : List Frame) : Option Message :=
  frames.findSome? fun f => (decodeMessage f.payload).toOption

theorem firstMessage_cons_ok {f : Frame} {msg : Message} (h : decodeMessage f.payload = .ok msg)
    (frames : List Frame) : firstMessage (f :: frames) = some msg := by
  rw [firstMessage, List.findSome?_cons, h]
  rfl

theorem firstMessage_cons_error {f : Frame} {err : Error}
    (h : decodeMessage f.payload = .error err) (frames : List Frame) :
    firstMessage (f :: frames) = firstMessage frames := by
  rw [firstMessage, List.findSome?_cons, h]
  rfl

theorem firstMessage_append_none {frames : List Frame} (h : firstMessage frames = none)
    (more : List Frame) : firstMessage (frames ++ more) = firstMessage more := by
  unfold firstMessage at h ⊢
  rw [List.findSome?_append, h]
  rfl

/-- What the inner loop says about the bytes in front of it. -/
inductive Finds (frames : List Frame) (last : Answer Frame ByteString) (bytes : ByteString) :
    Found → Prop
  | message (msg : Message) (hfirst : firstMessage frames = some msg) :
      Finds frames last bytes (.message msg)
  | wait (dec : FrameDecoder) (hfirst : firstMessage frames = none) (hlast : last = .needMore)
      (hbytes : bytes = encodeFrames frames ++ dec) : Finds frames last bytes (.wait dec)
  | broken (perr : ByteString) (hfirst : firstMessage frames = none)
      (hlast : last = .error perr) : Finds frames last bytes (.broken perr)

/-- The inner loop goes through the frames that the bytes mean. -/
theorem finds_findMessage {n : Nat} {bytes : ByteString} {frames : List Frame}
    {last : Answer Frame ByteString} (h : Scans feed bytes frames last) (hn : bytes.length < n)
    {dec : FrameDecoder} {data : ByteString} (hbytes : dec ++ data = bytes) :
    Finds frames last bytes (findMessage n dec data) := by
  induction h generalizing n dec data with
  | @waits buf hwaits =>
    obtain ⟨n, rfl⟩ := Nat.exists_eq_succ_of_ne_zero (Nat.ne_of_gt (Nat.zero_lt_of_lt hn))
    rcases hout : feed [] buf with ⟨answer, rest⟩
    rw [hout] at hwaits
    obtain rfl : answer = .needMore := hwaits
    obtain rfl := lawful_feed.waits _ _ hout
    rw [findMessage, lawful_feed.feed_nil, hbytes, hout]
    exact .wait rest rfl rfl rfl
  | @fails buf perr hfails =>
    obtain ⟨n, rfl⟩ := Nat.exists_eq_succ_of_ne_zero (Nat.ne_of_gt (Nat.zero_lt_of_lt hn))
    rcases hout : feed [] buf with ⟨answer, rest⟩
    rw [hout] at hfails
    obtain rfl : answer = .error perr := hfails
    rw [findMessage, lawful_feed.feed_nil, hbytes, hout]
    exact .broken perr rfl rfl
  | @yields buf rest frame frames last hready _ ih =>
    obtain ⟨n, rfl⟩ := Nat.exists_eq_succ_of_ne_zero (Nat.ne_of_gt (Nat.zero_lt_of_lt hn))
    obtain ⟨hsplit, hne, -⟩ := lawful_feed.yields _ _ _ hready
    have hlength := congrArg List.length hsplit
    have hpos := List.length_pos_iff.mpr hne
    rw [List.length_append] at hlength
    rw [findMessage, lawful_feed.feed_nil, hbytes, hready]
    dsimp only
    split
    · next msg hdecode => exact .message msg (firstMessage_cons_ok hdecode frames)
    · next err hdecode =>
      have hfirst := firstMessage_cons_error hdecode frames
      have hrest : Finds frames last rest (findMessage n rest []) :=
        ih (by omega) (List.append_nil rest)
      generalize findMessage n rest [] = found at hrest
      cases hrest with
      | message msg hmsg => exact .message msg (hfirst.trans hmsg)
      | wait dec hnone hlast hdec =>
        refine .wait dec (hfirst.trans hnone) hlast ?_
        rw [hsplit, hdec, ← List.append_assoc]
        rfl
      | broken perr hnone hlast => exact .broken perr (hfirst.trans hnone) hlast

namespace Await

/-- What the bytes that were received mean at any time. -/
inductive At (a : Await) : Prop
  | waiting (frames : List Frame) (hopen : a.outcome = none)
      (hscans : Scans feed a.received frames .needMore) (hfirst : firstMessage frames = none)
      (hbytes : a.received = encodeFrames frames ++ a.dec)
  | found (msg : Message) (frames : List Frame) (last : Answer Frame ByteString)
      (hended : a.outcome = some (.ok msg)) (hscans : Scans feed a.received frames last)
      (hfirst : firstMessage frames = some msg)
  | failed (why : AwaitFailure) (frames : List Frame) (last : Answer Frame ByteString)
      (hended : a.outcome = some (.error why)) (hscans : Scans feed a.received frames last)
      (hfirst : firstMessage frames = none)

theorem at_start : At {} :=
  .waiting [] rfl (.waits rfl) rfl rfl

/-- The frames of the bytes so far come first. -/
theorem scans_more {a : Await} {frames more : List Frame} {last : Answer Frame ByteString}
    {data : ByteString} (hscans : Scans feed a.received frames .needMore)
    (hbytes : a.received = encodeFrames frames ++ a.dec)
    (hmore : Scans feed (a.dec ++ data) more last) :
    Scans feed (a.received ++ data) (frames ++ more) last := by
  rw [hbytes, List.append_assoc]
  exact scans_append (payload_le_of_scans hscans) hmore

theorem At.next {a : Await} {frames : List Frame} {dec : FrameDecoder}
    (hscans : Scans feed a.received frames .needMore) (hfirst : firstMessage frames = none)
    (hbytes : a.received = encodeFrames frames ++ dec) : (a.next dec).At := by
  by_cases hleft : a.attempts + 1 < kReceiveAttempts
  · refine .waiting frames ?_ hscans hfirst hbytes
    rw [Await.next, if_pos hleft]
  · refine .failed .exhausted frames .needMore ?_ hscans hfirst
    rw [Await.next, if_neg hleft]

theorem At.receive {a : Await} {frames : List Frame}
    (hscans : Scans feed a.received frames .needMore) (hfirst : firstMessage frames = none)
    (hbytes : a.received = encodeFrames frames ++ a.dec)
    (recv : Result (Option ByteString)) : (a.receive recv).At := by
  match recv with
  | .error err => exact .failed (.recv err) frames .needMore rfl hscans hfirst
  | .ok none => exact .next hscans hfirst hbytes
  | .ok (some data) =>
    unfold Await.receive
    dsimp only
    split
    · exact .failed .closed frames .needMore rfl hscans hfirst
    · obtain ⟨more, last, hmore⟩ := exists_scans lawful_feed (a.dec ++ data)
      have hall := scans_more hscans hbytes hmore
      have hfinds := finds_findMessage hmore (Nat.lt_succ_self _) rfl
      have hrest := firstMessage_append_none hfirst more
      generalize findMessage ((a.dec ++ data).length + 1) a.dec data = found at hfinds
      cases hfinds with
      | message msg hmsg => exact .found msg _ last rfl hall (hrest.trans hmsg)
      | wait dec hnone hlast hdec =>
        rw [hlast] at hall
        refine .next hall (hrest.trans hnone) ?_
        show a.received ++ data = encodeFrames (frames ++ more) ++ dec
        rw [hbytes, List.append_assoc, hdec, encodeFrames, encodeFrames, encodeFrames,
          List.flatMap_append, List.append_assoc]
      | broken perr hnone hlast => exact .failed (.frame perr) _ last rfl hall (hrest.trans hnone)

theorem At.step {a : Await} (h : a.At) (recv : Result (Option ByteString)) : (a.step recv).At := by
  cases h with
  | waiting frames hopen hscans hfirst hbytes =>
    rw [Await.step, hopen]
    exact .receive hscans hfirst hbytes recv
  | found msg frames last hended hscans hfirst =>
    rw [Await.step, hended]
    exact .found msg frames last hended hscans hfirst
  | failed why frames last hended hscans hfirst =>
    rw [Await.step, hended]
    exact .failed why frames last hended hscans hfirst

theorem at_run (recvs : List (Result (Option ByteString))) : (Await.run {} recvs).At := by
  induction recvs using List.reverseRecOn with
  | nil => exact at_start
  | append_singleton rest recv ih =>
    rw [run, Run.run_concat]
    exact ih.step recv

/-- Whatever is received, and however it was cut: the loop returns a message
exactly if there is one in the bytes it has taken, and then it is the first. -/
theorem outcome_ok_iff (recvs : List (Result (Option ByteString))) (msg : Message) :
    (Await.run {} recvs).outcome = some (.ok msg) ↔
      firstMessage (drain [(Await.run {} recvs).received]).emitted = some msg := by
  cases at_run recvs with
  | waiting frames hopen hscans hfirst hbytes =>
    rw [hopen, (drain_of_scans hscans).1, hfirst]
    simp
  | found msg' frames last hended hscans hfirst =>
    rw [hended, (drain_of_scans hscans).1, hfirst, Option.some.injEq, Except.ok.injEq,
      Option.some.injEq]
  | failed why frames last hended hscans hfirst =>
    rw [hended, (drain_of_scans hscans).1, hfirst]
    simp

/-- A loop that has ended without a message has found none in the bytes it has
taken. -/
theorem scans_of_failed {recvs : List (Result (Option ByteString))} {why : AwaitFailure}
    (h : (Await.run {} recvs).outcome = some (.error why)) :
    ∃ frames last, Scans feed (Await.run {} recvs).received frames last ∧
      firstMessage frames = none := by
  cases at_run recvs with
  | waiting _ hopen => cases hopen.symm.trans h
  | found _ _ _ hended => cases hended.symm.trans h
  | failed _ frames last _ hscans hfirst => exact ⟨frames, last, hscans, hfirst⟩

/-- As long as the loop goes on, it has made as many attempts as there were
calls. -/
theorem attempts_run {recvs : List (Result (Option ByteString))}
    (h : (Await.run {} recvs).outcome = none) :
    (Await.run {} recvs).attempts = recvs.length ∧ recvs.length < kReceiveAttempts := by
  induction recvs using List.reverseRecOn with
  | nil => exact ⟨rfl, by decide⟩
  | append_singleton rest recv ih =>
    rw [run, Run.run_concat] at h ⊢
    change ((Await.run {} rest).step recv).outcome = none at h
    change ((Await.run {} rest).step recv).attempts = _ ∧ _
    cases hopen : (Await.run {} rest).outcome with
    | some outcome =>
      rw [step, hopen] at h
      cases hopen.symm.trans h
    | none =>
      obtain ⟨hattempts, hlength⟩ := ih hopen
      have hnext : ∀ a : Await, ∀ dec, a.attempts = rest.length → (a.next dec).outcome = none →
          (a.next dec).attempts = (rest ++ [recv]).length ∧
            (rest ++ [recv]).length < kReceiveAttempts := by
        intro a dec ha hnone
        unfold next at hnone ⊢
        dsimp only at hnone ⊢
        rw [List.length_append, List.length_singleton, ha]
        refine ⟨rfl, ?_⟩
        by_contra hmore
        rw [ha, if_neg hmore] at hnone
        cases hnone
      simp only [step, hopen] at h ⊢
      match recv, h with
      | .error err, h => cases h
      | .ok none, h => exact hnext _ _ hattempts h
      | .ok (some data), h =>
        unfold receive at h ⊢
        dsimp only at h ⊢
        split
        · next hempty =>
          rw [if_pos hempty] at h
          cases h
        · next hdata =>
          rw [if_neg hdata] at h
          split at h
          · cases h
          · cases h
          · exact hnext _ _ hattempts h

/-- After 64 calls the loop has ended. -/
theorem ended_of_length {recvs : List (Result (Option ByteString))}
    (h : kReceiveAttempts ≤ recvs.length) : (Await.run {} recvs).outcome ≠ none := by
  intro hopen
  have hless := (attempts_run hopen).2
  omega

end Await

end GpuFleet
