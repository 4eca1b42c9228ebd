import GpuFleet.Protocol.Framing

/-!
# Frames in a stream of bytes

The loop of `handle_connection` around its `FrameDecoder`: a received chunk is
fed, and as long as a frame is ready the empty chunk is fed again.  The first
error ends it.  `framesAfter n` is the loop after `n` calls of `feed`, and
`drain` is the loop when it is over.

How TCP cuts a stream is not under anyone's control.  `drain_encodeFrames` and
`drain_chunk_independent` say that it does not matter, for the streams that a
peer means to send and for any others.
-/

namespace GpuFleet

open Incremental FrameDecoder

/-- The loop over the chunks of a connection after `n` calls of `feed`. -/
def framesAfter (n : Nat) (chunks : List ByteString) : Loop UInt8 Frame ByteString :=
  Loop.after feed n { pending := chunks }

/-- The loop over the chunks of a connection, when it is over. -/
def drain (chunks : List ByteString) : Loop UInt8 Frame ByteString :=
  framesAfter (chunks.length + chunks.flatten.length) chunks

/-- The frames as one stream. -/
def encodeFrames (frames : List Frame) : ByteString :=
  frames.flatMap fun f => encodeFrame f.type f.payload

theorem halted_framesAfter {chunks : List ByteString} {n : Nat}
    (hn : chunks.length + chunks.flatten.length ≤ n) : (framesAfter n chunks).Halted feed := by
  apply Loop.halted_after lawful_feed
  rw [Loop.work_start]
  exact hn

theorem scans_drain (chunks : List ByteString) :
    Scans feed chunks.flatten (drain chunks).emitted (drain chunks).last :=
  Loop.outcome_scans lawful_feed (halted_framesAfter (Nat.le_refl _))

/-- Encoded frames in front of a stream come out first. -/
theorem scans_append {frames more : List Frame} {rest : ByteString}
    {last : Answer Frame ByteString} (h : ∀ f ∈ frames, f.payload.length ≤ kMaxPayloadLength)
    (hrest : Scans feed rest more last) :
    Scans feed (encodeFrames frames ++ rest) (frames ++ more) last := by
  induction frames with
  | nil => exact hrest
  | cons f frames ih =>
    have hf := feed_encodeFrame f.type (h f List.mem_cons_self) (encodeFrames frames ++ rest)
    have hcons : encodeFrames (f :: frames) ++ rest
        = encodeFrame f.type f.payload ++ (encodeFrames frames ++ rest) :=
      List.append_assoc _ _ _
    rw [hcons, List.cons_append]
    exact .yields hf (ih fun g hg => h g (List.mem_cons_of_mem f hg))

/-- A stream of encoded frames means just these frames. -/
theorem scans_encodeFrames {frames : List Frame}
    (h : ∀ f ∈ frames, f.payload.length ≤ kMaxPayloadLength) :
    Scans feed (encodeFrames frames) frames .needMore := by
  have hscans := scans_append h (.waits rfl : Scans feed [] [] .needMore)
  rwa [List.append_nil, List.append_nil] at hscans

/-- What the loop over one chunk comes to. -/
theorem drain_of_scans {bytes : ByteString} {frames : List Frame}
    {last : Answer Frame ByteString} (h : Scans feed bytes frames last) :
    (drain [bytes]).emitted = frames ∧ (drain [bytes]).last = last := by
  have hscans := scans_drain [bytes]
  rw [List.flatten_singleton] at hscans
  exact hscans.unique h

/-- Frames with payloads of admissible size, encoded, put together and cut
anywhere, come out as they went in.  No call of `feed` answers an error, and
nothing is left in the buffer. -/
theorem drain_encodeFrames (frames : List Frame) (chunks : List ByteString)
    (hmax : ∀ f ∈ frames, f.payload.length ≤ kMaxPayloadLength)
    (hchunks : chunks.flatten = encodeFrames frames) :
    (drain chunks).Halted feed ∧ (drain chunks).emitted = frames ∧
      (drain chunks).last = .needMore ∧ buffered (drain chunks).buf = 0 ∧
      ∀ n e, (framesAfter n chunks).last ≠ .error e := by
  have hscans : Scans feed chunks.flatten frames .needMore := by
    rw [hchunks]
    exact scans_encodeFrames hmax
  have hhalted : (drain chunks).Halted feed := halted_framesAfter (Nat.le_refl _)
  obtain ⟨hemitted, hlast⟩ := (scans_drain chunks).unique hscans
  refine ⟨hhalted, hemitted, hlast, ?_, ?_⟩
  · have hfed : (drain chunks).fed ++ (drain chunks).pending.flatten = chunks.flatten :=
      Loop.fed_pending chunks _
    have hconserved : (drain chunks).fed = encodeFrames (drain chunks).emitted
        ++ (drain chunks).buf := Loop.conserved lawful_feed chunks _
    rw [Loop.pending_of_halted hhalted hlast, List.flatten_nil, List.append_nil, hchunks,
      hconserved, hemitted] at hfed
    rw [buffered, List.append_right_eq_self.mp hfed, List.length_nil]
  · intro n e herror
    have hscans' : Scans feed chunks.flatten (framesAfter n chunks).emitted
        (framesAfter n chunks).last :=
      Loop.outcome_scans lawful_feed (Loop.halted_of_error herror)
    have hsame := (hscans.unique hscans').2
    rw [herror] at hsame
    cases hsame

/-- No frame over the bound comes out of any stream. -/
theorem payload_le_of_scans {bytes : ByteString} {frames : List Frame}
    {last : Answer Frame ByteString} (h : Scans feed bytes frames last) :
    ∀ f ∈ frames, f.payload.length ≤ kMaxPayloadLength := by
  induction h with
  | waits _ => simp
  | fails _ => simp
  | yields hready _ ih => exact List.forall_mem_cons.mpr ⟨payload_le_of_ready hready, ih⟩

/-- A frame over the bound ends the loop, however it is cut. -/
theorem drain_oversized {type : MessageType} {payload : ByteString} {chunks : List ByteString}
    (h : kMaxPayloadLength < payload.length) (hcount : payload.length < 2 ^ 32)
    (hchunks : chunks.flatten = encodeFrame type payload) :
    (drain chunks).emitted = [] ∧ (drain chunks).last = .error (text "oversized payload") := by
  have hscans : Scans feed chunks.flatten [] (.error (text "oversized payload")) := by
    rw [hchunks]
    exact .fails (congrArg Prod.fst (feed_oversized type h hcount))
  exact (scans_drain chunks).unique hscans

/-- A greeting and a request to save, one byte at a time. -/
theorem drain_bytewise :
    (drain ((encodeFrames [⟨.hello, [1, 2]⟩, ⟨.save, []⟩]).map fun b => [b])).emitted
      = [⟨.hello, [1, 2]⟩, ⟨.save, []⟩] := by
  have hmax : ∀ f ∈ [(⟨.hello, [1, 2]⟩ : Frame), ⟨.save, []⟩],
      f.payload.length ≤ kMaxPayloadLength := by decide
  have hchunks : ∀ bs : ByteString, (bs.map fun b => [b]).flatten = bs := by
    intro bs
    induction bs with
    | nil => rfl
    | cons b bs ih => rw [List.map_cons, List.flatten_cons, ih]; rfl
  exact (drain_encodeFrames _ _ hmax (hchunks _)).2.1

/-- For every stream of bytes, valid or hostile, and every two ways to cut it:
the same frames come out and the same answer ends it.  At every point, what
was fed is the frames that came out and what is buffered; the loop is over
after as many calls as there are chunks and bytes; and while it waits, less
than one frame of the largest size is buffered. -/
theorem drain_chunk_independent (chunks chunks' : List ByteString)
    (h : chunks.flatten = chunks'.flatten) :
    (drain chunks).emitted = (drain chunks').emitted ∧
      (drain chunks).last = (drain chunks').last ∧
      (∀ n, (framesAfter n chunks).fed ++ (framesAfter n chunks).pending.flatten
        = chunks.flatten) ∧
      (∀ n, (framesAfter n chunks).fed
        = encodeFrames (framesAfter n chunks).emitted ++ (framesAfter n chunks).buf) ∧
      (∀ n ≥ chunks.length + chunks.flatten.length, (framesAfter n chunks).Halted feed) ∧
      ∀ n, (framesAfter n chunks).last = .needMore →
        buffered (framesAfter n chunks).buf < kFrameHeader + kMaxPayloadLength + kFrameTrailer := by
  have hscans := scans_drain chunks
  rw [h] at hscans
  obtain ⟨hemitted, hlast⟩ := hscans.unique (scans_drain chunks')
  refine ⟨hemitted, hlast, ?_, ?_, ?_, ?_⟩
  · intro n
    exact Loop.fed_pending chunks n
  · intro n
    exact Loop.conserved lawful_feed chunks n
  · intro n hn
    exact halted_framesAfter hn
  · intro n hwaits
    exact length_of_needMore ((Loop.settled_after lawful_feed chunks n).waits hwaits)

/-- Fifteen bytes that are no frame, in one piece and in two. -/
theorem drain_garbage :
    (drain [List.replicate 15 0]).last
      = (drain [List.replicate 7 0, List.replicate 8 0]).last :=
  (drain_chunk_independent _ _ (by decide)).2.1

end GpuFleet
