import Mathlib.Data.List.Basic
import Mathlib.Data.List.Flatten

/-!
# Incremental decoding of a stream

A stream arrives in chunks, and a decoder looks for items in it.  The decoder
keeps a buffer: `feed buf data` appends the data to it and answers that it
needs more, that an item is ready (and is taken off the buffer), or that the
stream is broken.

`step` is the loop around such a decoder.  After an item it feeds the empty
chunk, because the buffer may hold another one; otherwise it waits for the
next chunk, and an error ends it.  `after n` is the loop after `n` rounds.

`Lawful` is what a decoder must promise: an answer does not change when more
input arrives, and an item that is taken off the buffer is its encoding.
From that follow

* `conserved`: what was fed is what was emitted and what is in the buffer,
* `halted_after`: the loop ends, within a number of rounds that the input
  bounds,
* `outcome_scans`: what it emits and how it ends depend on the stream only,
  and not on how it was cut (`Scans`).
-/

namespace Incremental

variable {β φ ε : Type}

/-- The answer of a decoder. -/
inductive Answer (φ ε : Type)
  | needMore
  | ready (item : φ)
  | error (e : ε)
  deriving DecidableEq, Repr

/-- The loop: the chunks to come, what was fed and emitted so far, the buffer
and the last answer. -/
structure Loop (β φ ε : Type) where
  pending : List (List β)
  fed : List β := []
  emitted : List φ := []
  buf : List β := []
  last : Answer φ ε := .needMore

namespace Loop

variable (feed : List β → List β → Answer φ ε × List β)

/-- The items of an answer. -/
def items : Answer φ ε → List φ
  | .ready x => [x]
  | _ => []

/-- Feed one chunk. -/
def push (s : Loop β φ ε) (data : List β) (pending : List (List β)) : Loop β φ ε where
  pending := pending
  fed := s.fed ++ data
  emitted := s.emitted ++ items (feed s.buf data).1
  buf := (feed s.buf data).2
  last := (feed s.buf data).1

/-- One round, if there is one. -/
def step (s : Loop β φ ε) : Option (Loop β φ ε) :=
  match s.last, s.pending with
  | .ready _, pending => some (s.push feed [] pending)
  | .needMore, chunk :: pending => some (s.push feed chunk pending)
  | .needMore, [] => none
  | .error _, _ => none

/-- The loop after `n` rounds, or where it ended before. -/
def after : Nat → Loop β φ ε → Loop β φ ε
  | 0, s => s
  | n + 1, s => match s.step feed with
    | some s' => after n s'
    | none => s

/-- The loop has ended. -/
def Halted (s : Loop β φ ε) : Prop := s.step feed = none

end Loop

/-- What is asked of a decoder. -/
structure Lawful (feed : List β → List β → Answer φ ε × List β) (encode : φ → List β) :
    Prop where
  /-- Only the buffer and the data together matter. -/
  feed_nil : ∀ buf data, feed buf data = feed [] (buf ++ data)
  empty : (feed [] []).1 = .needMore
  waits : ∀ buf rest, feed [] buf = (.needMore, rest) → rest = buf
  fails : ∀ buf e rest, feed [] buf = (.error e, rest) →
    rest = buf ∧ ∀ more, (feed [] (buf ++ more)).1 = .error e
  yields : ∀ buf x rest, feed [] buf = (.ready x, rest) →
    buf = encode x ++ rest ∧ encode x ≠ [] ∧
      ∀ more, feed [] (buf ++ more) = (.ready x, rest ++ more)

/-- The meaning of a whole stream: the items in it, and what comes after the
last of them. -/
inductive Scans (feed : List β → List β → Answer φ ε × List β) :
    List β → List φ → Answer φ ε → Prop
  | waits {buf : List β} (h : (feed [] buf).1 = .needMore) : Scans feed buf [] .needMore
  | fails {buf : List β} {e : ε} (h : (feed [] buf).1 = .error e) : Scans feed buf [] (.error e)
  | yields {buf rest : List β} {x : φ} {xs : List φ} {v : Answer φ ε}
      (h : feed [] buf = (.ready x, rest)) (htail : Scans feed rest xs v) :
      Scans feed buf (x :: xs) v

/-- A stream has one meaning. -/
theorem Scans.unique {feed : List β → List β → Answer φ ε × List β} {buf : List β}
    {xs ys : List φ} {v w : Answer φ ε} (h : Scans feed buf xs v) (h' : Scans feed buf ys w) :
    xs = ys ∧ v = w := by
  induction h generalizing ys with
  | waits hv =>
    cases h' with
    | waits _ => exact ⟨rfl, rfl⟩
    | fails hw => cases hv.symm.trans hw
    | yields hw _ =>
      rw [hw] at hv
      cases hv
  | fails hv =>
    cases h' with
    | waits hw => cases hv.symm.trans hw
    | fails hw =>
      cases hv.symm.trans hw
      exact ⟨rfl, rfl⟩
    | yields hw _ =>
      rw [hw] at hv
      cases hv
  | yields hv _ ih =>
    cases h' with
    | waits hw =>
      rw [hv] at hw
      cases hw
    | fails hw =>
      rw [hv] at hw
      cases hw
    | yields hw htail' =>
      cases hv.symm.trans hw
      obtain ⟨rfl, rfl⟩ := ih htail'
      exact ⟨rfl, rfl⟩

namespace Loop

variable {feed : List β → List β → Answer φ ε × List β}

/-- A round feeds a chunk: the empty one after an item, the next one after
`needMore`. -/
theorem step_cases {s t : Loop β φ ε} (h : s.step feed = some t) :
    ((∃ x, s.last = .ready x) ∧ t = s.push feed [] s.pending) ∨
      s.last = .needMore ∧ ∃ chunk pending, s.pending = chunk :: pending ∧
        t = s.push feed chunk pending := by
  unfold step at h
  split at h
  · next x hlast => exact Or.inl ⟨⟨x, hlast⟩, (Option.some.inj h).symm⟩
  · next chunk pending hlast hpending =>
    exact Or.inr ⟨hlast, chunk, pending, hpending, (Option.some.inj h).symm⟩
  · cases h
  · cases h

/-- The rule for what holds throughout the loop. -/
theorem after_invariant {I : Loop β φ ε → Prop}
    (hstep : ∀ s t, I s → s.step feed = some t → I t) {s : Loop β φ ε} (h : I s) (n : Nat) :
    I (after feed n s) := by
  induction n generalizing s with
  | zero => exact h
  | succ n ih =>
    rw [after]
    split
    · next t ht => exact ih (hstep s t h ht)
    · exact h

/-- The state of the buffer between two rounds: unless an item was taken off
it, it is what the last answer was given on. -/
structure Settled (feed : List β → List β → Answer φ ε × List β) (s : Loop β φ ε) : Prop where
  waits : s.last = .needMore → (feed [] s.buf).1 = .needMore
  fails : ∀ e, s.last = .error e → (feed [] s.buf).1 = .error e

section Lawful

variable {encode : φ → List β} (hfeed : Lawful feed encode)
include hfeed

/-- The three outcomes of a chunk. -/
theorem push_cases (s : Loop β φ ε) (data : List β) (pending : List (List β)) :
    ((s.push feed data pending).last = .needMore ∧
        (s.push feed data pending).emitted = s.emitted ∧
        (s.push feed data pending).buf = s.buf ++ data ∧
        (feed [] (s.buf ++ data)).1 = .needMore) ∨
      (∃ e, (s.push feed data pending).last = .error e ∧
        (s.push feed data pending).emitted = s.emitted ∧
        (s.push feed data pending).buf = s.buf ++ data ∧
        (feed [] (s.buf ++ data)).1 = .error e) ∨
      ∃ x rest, (s.push feed data pending).last = .ready x ∧
        (s.push feed data pending).emitted = s.emitted ++ [x] ∧
        (s.push feed data pending).buf = rest ∧ feed [] (s.buf ++ data) = (.ready x, rest) := by
  simp only [push, hfeed.feed_nil s.buf data]
  rcases hout : feed [] (s.buf ++ data) with ⟨answer, rest⟩
  cases answer with
  | needMore => exact Or.inl ⟨rfl, List.append_nil _, hfeed.waits _ _ hout, rfl⟩
  | error e => exact Or.inr (Or.inl ⟨e, rfl, List.append_nil _, (hfeed.fails _ _ _ hout).1, rfl⟩)
  | ready x => exact Or.inr (Or.inr ⟨x, rest, rfl, rfl, rfl, rfl⟩)

theorem settled_push (s : Loop β φ ε) (data : List β) (pending : List (List β)) :
    Settled feed (s.push feed data pending) := by
  rcases push_cases hfeed s data pending with
    ⟨hlast, _, hbuf, hanswer⟩ | ⟨e, hlast, _, hbuf, hanswer⟩ | ⟨x, rest, hlast, _⟩
  · rw [← hbuf] at hanswer
    refine ⟨fun _ => hanswer, fun e he => ?_⟩
    cases hlast.symm.trans he
  · rw [← hbuf] at hanswer
    refine ⟨fun hw => ?_, fun e' he => ?_⟩
    · cases hlast.symm.trans hw
    · cases hlast.symm.trans he
      exact hanswer
  · refine ⟨fun hw => ?_, fun e he => ?_⟩
    · cases hlast.symm.trans hw
    · cases hlast.symm.trans he

theorem settled_step (s t : Loop β φ ε) (h : s.step feed = some t) : Settled feed t := by
  rcases step_cases h with ⟨_, rfl⟩ | ⟨_, chunk, pending, _, rfl⟩
  · exact settled_push hfeed s [] s.pending
  · exact settled_push hfeed s chunk pending

theorem settled_start (chunks : List (List β)) :
    Settled feed ({ pending := chunks } : Loop β φ ε) := by
  refine ⟨fun _ => hfeed.empty, fun e he => ?_⟩
  cases he

theorem settled_after (chunks : List (List β)) (n : Nat) :
    Settled feed (after feed n { pending := chunks }) :=
  after_invariant (fun s t _ ht => settled_step hfeed s t ht) (settled_start hfeed chunks) n

/-! ## Conservation -/

/-- At every point, what was fed is what was emitted and what is in the
buffer. -/
theorem conserved (chunks : List (List β)) (n : Nat) :
    (after feed n { pending := chunks }).fed
      = (after feed n { pending := chunks }).emitted.flatMap encode
        ++ (after feed n { pending := chunks }).buf := by
  apply after_invariant (I := fun s => s.fed = s.emitted.flatMap encode ++ s.buf)
  · have hpush : ∀ (s : Loop β φ ε) data pending, s.fed = s.emitted.flatMap encode ++ s.buf →
        (s.push feed data pending).fed = (s.push feed data pending).emitted.flatMap encode
          ++ (s.push feed data pending).buf := by
      intro s data pending hs
      have hfed : (s.push feed data pending).fed = s.fed ++ data := rfl
      rcases push_cases hfeed s data pending with
        ⟨_, hemitted, hbuf, _⟩ | ⟨e, _, hemitted, hbuf, _⟩ | ⟨x, rest, _, hemitted, hbuf, hready⟩
      · rw [hfed, hemitted, hbuf, hs, List.append_assoc]
      · rw [hfed, hemitted, hbuf, hs, List.append_assoc]
      · rw [hfed, hemitted, hbuf, hs, List.append_assoc, (hfeed.yields _ _ _ hready).1]
        simp
    intro s t hs ht
    rcases step_cases ht with ⟨_, rfl⟩ | ⟨_, chunk, pending, _, rfl⟩
    · exact hpush s [] s.pending hs
    · exact hpush s chunk pending hs
  · rfl

omit hfeed in
/-- What was fed and what is to come make up the stream. -/
theorem fed_pending (chunks : List (List β)) (n : Nat) :
    (after feed n { pending := chunks }).fed
      ++ (after feed n { pending := chunks }).pending.flatten = chunks.flatten := by
  apply after_invariant (I := fun s => s.fed ++ s.pending.flatten = chunks.flatten)
  · intro s t hs ht
    rcases step_cases ht with ⟨_, rfl⟩ | ⟨_, chunk, pending, hpending, rfl⟩
    · rw [push, List.append_nil]
      exact hs
    · rw [push, List.append_assoc, ← hs, hpending, List.flatten_cons]
  · rfl

/-! ## Termination -/

/-- What is left to do: the chunks, the bytes, and the round that an item
still calls for. -/
def work (s : Loop β φ ε) : Nat :=
  s.pending.length + s.buf.length + s.pending.flatten.length + (items s.last).length

omit hfeed in
theorem work_start (chunks : List (List β)) :
    work ({ pending := chunks } : Loop β φ ε) = chunks.length + chunks.flatten.length := by
  simp [work, items]

/-- An item takes more off the buffer than the round it calls for. -/
theorem length_push (s : Loop β φ ε) (data : List β) (pending : List (List β)) :
    (s.push feed data pending).buf.length + (items (s.push feed data pending).last).length
      ≤ s.buf.length + data.length := by
  rcases push_cases hfeed s data pending with
    ⟨hlast, _, hbuf, _⟩ | ⟨e, hlast, _, hbuf, _⟩ | ⟨x, rest, hlast, _, hbuf, hready⟩
  · rw [hlast, hbuf]
    simp [items]
  · rw [hlast, hbuf]
    simp [items]
  · obtain ⟨hsplit, hne, _⟩ := hfeed.yields _ _ _ hready
    have hlength := congrArg List.length hsplit
    have hpos := List.length_pos_iff.mpr hne
    rw [List.length_append, List.length_append] at hlength
    rw [hlast, hbuf]
    simp only [items, List.length_singleton]
    omega

/-- Every round leaves less to do. -/
theorem work_step {s t : Loop β φ ε} (h : s.step feed = some t) : t.work < s.work := by
  rcases step_cases h with ⟨⟨x, hx⟩, rfl⟩ | ⟨_, chunk, pending, hpending, rfl⟩
  · have hle := length_push hfeed s [] s.pending
    have hsame : (s.push feed [] s.pending).pending = s.pending := rfl
    have hitem : (items s.last).length = 1 := by
      rw [hx]
      rfl
    rw [List.length_nil] at hle
    unfold work
    rw [hsame, hitem]
    omega
  · have hle := length_push hfeed s chunk pending
    have hrest : (s.push feed chunk pending).pending = pending := rfl
    have hflatten : s.pending.flatten.length = chunk.length + pending.flatten.length := by
      rw [hpending, List.flatten_cons, List.length_append]
    have hcount : s.pending.length = pending.length + 1 := by rw [hpending, List.length_cons]
    unfold work
    rw [hrest, hflatten, hcount]
    omega

/-- The loop ends, within as many rounds as there are chunks and bytes. -/
theorem halted_after {s : Loop β φ ε} {n : Nat} (hn : s.work ≤ n) :
    (after feed n s).Halted feed := by
  induction n generalizing s with
  | zero =>
    rw [after, Halted]
    cases hs : s.step feed with
    | none => rfl
    | some t =>
      have hless := work_step hfeed hs
      omega
  | succ n ih =>
    rw [after]
    split
    · next t ht =>
      have hless := work_step hfeed ht
      exact ih (by omega)
    · next hs => exact hs

/-! ## The outcome -/

/-- An ended loop has an answer that is not an item, and the rest of the
stream adds nothing. -/
theorem scans_halted {s : Loop β φ ε} (hs : Settled feed s) (h : s.Halted feed) :
    Scans feed (s.buf ++ s.pending.flatten) [] s.last := by
  unfold Halted step at h
  split at h
  · cases h
  · cases h
  · next hlast hpending =>
    rw [hlast, hpending, List.flatten_nil, List.append_nil]
    exact .waits (hs.waits hlast)
  · next e hlast =>
    rw [hlast]
    rcases hout : feed [] s.buf with ⟨answer, rest⟩
    have hanswer := hs.fails e hlast
    rw [hout] at hanswer
    obtain rfl : answer = .error e := hanswer
    exact .fails ((hfeed.fails _ _ _ hout).2 _)

omit hfeed in
/-- An error ends the loop. -/
theorem halted_of_error {s : Loop β φ ε} {e : ε} (h : s.last = .error e) : s.Halted feed := by
  rw [Halted, step, h]

omit hfeed in
/-- A loop that has ended without an error has been fed the whole stream. -/
theorem pending_of_halted {s : Loop β φ ε} (h : s.Halted feed) (hlast : s.last = .needMore) :
    s.pending = [] := by
  rw [Halted, step, hlast] at h
  cases hpending : s.pending with
  | nil => rfl
  | cons chunk pending =>
    rw [hpending] at h
    cases h

/-- What the loop emits from here on, and how it ends, is what the rest of the
stream means. -/
theorem scans_after {s : Loop β φ ε} (hs : Settled feed s) {n : Nat}
    (h : (after feed n s).Halted feed) :
    ∃ xs, (after feed n s).emitted = s.emitted ++ xs ∧
      Scans feed (s.buf ++ s.pending.flatten) xs (after feed n s).last := by
  induction n generalizing s with
  | zero => exact ⟨[], (List.append_nil _).symm, scans_halted hfeed hs h⟩
  | succ n ih =>
    rw [after] at h ⊢
    cases hstep : s.step feed with
    | none => exact ⟨[], (List.append_nil _).symm, scans_halted hfeed hs hstep⟩
    | some t =>
      rw [hstep] at h
      simp only at h ⊢
      obtain ⟨xs, hemitted, hscans⟩ := ih (settled_step hfeed s t hstep) h
      have hround : ∃ data, t = s.push feed data t.pending ∧
          s.pending.flatten = data ++ t.pending.flatten := by
        rcases step_cases hstep with ⟨_, rfl⟩ | ⟨_, chunk, pending, hpending, rfl⟩
        · exact ⟨[], rfl, rfl⟩
        · exact ⟨chunk, rfl, by rw [hpending]; rfl⟩
      obtain ⟨data, ht, hflatten⟩ := hround
      rw [hflatten, ← List.append_assoc]
      rcases push_cases hfeed s data t.pending with
        ⟨_, hsame, hbuf, _⟩ | ⟨e, _, hsame, hbuf, _⟩ | ⟨x, rest, _, hitem, hbuf, hready⟩
      · rw [← ht] at hsame hbuf
        rw [hbuf] at hscans
        exact ⟨xs, by rw [hemitted, hsame], hscans⟩
      · rw [← ht] at hsame hbuf
        rw [hbuf] at hscans
        exact ⟨xs, by rw [hemitted, hsame], hscans⟩
      · rw [← ht] at hitem hbuf
        rw [hbuf] at hscans
        refine ⟨x :: xs, by rw [hemitted, hitem, List.append_assoc]; rfl, ?_⟩
        exact .yields ((hfeed.yields _ _ _ hready).2.2 _) hscans

/-- The outcome of a whole stream, however it was cut. -/
theorem outcome_scans {chunks : List (List β)} {n : Nat}
    (h : (after feed n { pending := chunks }).Halted feed) :
    Scans feed chunks.flatten (after feed n { pending := chunks }).emitted
      (after feed n { pending := chunks }).last := by
  obtain ⟨xs, hemitted, hscans⟩ := scans_after hfeed (settled_start hfeed chunks) h
  rw [hemitted]
  exact hscans

end Lawful

end Loop

end Incremental
