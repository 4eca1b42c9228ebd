import GpuFleet.Lib.Incremental

/-!
# One direction of a connection

A `Channel` carries items from a writer to a reader.  A write may be cut
short, and another write may come after it.  The reader takes any number of
items off the front, at any time.  `offered` and `taken` record what was to be
written and what was read.

If something gets in after a write that was cut short, then the channel is
spoiled: there is a hole in what the reader gets to see.  Otherwise the reader
has the beginning of what the writer had (`Sound.taken_begins`).  So a lawful
decoder on its side finds a beginning of the items that were encoded, each of
them whole, and never an error (`scans_of_begins`).  A channel that is written
once is never spoiled.
-/

namespace Incremental

variable {β φ ε : Type} {feed : List β → List β → Answer φ ε × List β} {encode : φ → List β}

/-! ## The beginning of a stream -/

/-- Every stream has a meaning. -/
theorem exists_scans (hfeed : Lawful feed encode) (buf : List β) :
    ∃ xs v, Scans feed buf xs v := by
  have hhalted := Loop.halted_after hfeed (Nat.le_refl
    (Loop.work ({ pending := [buf] } : Loop β φ ε)))
  have hscans := Loop.outcome_scans hfeed hhalted
  rw [List.flatten_singleton] at hscans
  exact ⟨_, _, hscans⟩

/-- The items of a stream begin with those of its beginning, and an error at
the beginning is the end of both. -/
theorem Scans.of_append (hfeed : Lawful feed encode) {buf more : List β} {xs ys : List φ}
    {v w : Answer φ ε} (h : Scans feed buf xs v) (h' : Scans feed (buf ++ more) ys w) :
    xs <+: ys ∧ ∀ e, v = .error e → ys = xs ∧ w = v := by
  induction h generalizing ys with
  | waits _ =>
    refine ⟨?_, fun e he => ?_⟩
    · exact List.nil_prefix
    · cases he
  | @fails buf e hfails =>
    rcases hout : feed [] buf with ⟨answer, rest⟩
    rw [hout] at hfails
    obtain rfl : answer = .error e := hfails
    obtain ⟨rfl, rfl⟩ := h'.unique (.fails ((hfeed.fails _ _ _ hout).2 more))
    refine ⟨?_, fun _ _ => ⟨rfl, rfl⟩⟩
    exact List.nil_prefix
  | @yields buf rest x xs v hready _ ih =>
    have hmore := (hfeed.yields _ _ _ hready).2.2 more
    obtain ⟨zs, u, hrest⟩ := exists_scans hfeed (rest ++ more)
    obtain ⟨rfl, rfl⟩ := h'.unique (.yields hmore hrest)
    obtain ⟨hbegins, herror⟩ := ih hrest
    refine ⟨List.cons_prefix_cons.mpr ⟨rfl, hbegins⟩, fun e he => ?_⟩
    obtain ⟨hsame, hlast⟩ := herror e he
    exact ⟨by rw [hsame], hlast⟩

/-- A stream ends in an answer, which is not an item. -/
theorem Scans.last_ne_ready {buf : List β} {xs : List φ} {v : Answer φ ε}
    (h : Scans feed buf xs v) (x : φ) : v ≠ .ready x := by
  intro hv
  induction h with
  | waits _ => cases hv
  | fails _ => cases hv
  | yields _ _ ih => exact ih hv

/-- The beginning of a stream of items is a beginning of the items, and the
decoder waits for more. -/
theorem scans_of_begins (hfeed : Lawful feed encode) {bytes stream : List β} {items : List φ}
    (h : Scans feed stream items .needMore) (hbegins : bytes <+: stream) :
    ∃ xs, xs <+: items ∧ Scans feed bytes xs .needMore := by
  obtain ⟨more, rfl⟩ := hbegins
  obtain ⟨xs, v, hscans⟩ := exists_scans hfeed bytes
  obtain ⟨hitems, herror⟩ := hscans.of_append hfeed h
  refine ⟨xs, hitems, ?_⟩
  cases v with
  | needMore => exact hscans
  | ready x => exact absurd rfl (hscans.last_ne_ready x)
  | error e => cases (herror e rfl).2

end Incremental

/-! ## Channels -/

/-- The state of one direction. -/
structure Channel (β : Type) where
  /-- What the writer was to write. -/
  offered : List β := []
  /-- What has got in. -/
  written : List β := []
  /-- What the reader can still take. -/
  inFlight : List β := []
  /-- What the reader has. -/
  taken : List β := []
  /-- Some write was cut short. -/
  torn : Bool := false
  /-- Something got in after that. -/
  spoiled : Bool := false
  /-- The writes so far. -/
  writes : Nat := 0

namespace Channel

variable {β : Type}

/-- A write of which `count` items get in. -/
def write (c : Channel β) (data : List β) (count : Nat) : Channel β :=
  { c with
    offered := c.offered ++ data
    written := c.written ++ data.take count
    inFlight := c.inFlight ++ data.take count
    torn := c.torn || decide (count < data.length)
    spoiled := c.spoiled || c.torn && !(data.take count).isEmpty
    writes := c.writes + 1 }

/-- The items that the reader finds. -/
def front (c : Channel β) (count : Nat) : List β := c.inFlight.take count

/-- The reader takes them off. -/
def take (c : Channel β) (count : Nat) : Channel β :=
  { c with
    taken := c.taken ++ c.front count
    inFlight := c.inFlight.drop count }

/-- Nothing is lost in the channel, and what got in is the beginning of what was
to be written, unless it is spoiled.  That takes two writes. -/
structure Sound (c : Channel β) : Prop where
  conserved : c.written = c.taken ++ c.inFlight
  begins : c.spoiled = false → c.written <+: c.offered
  whole : c.torn = false → c.written = c.offered
  idle : c.writes = 0 → c.torn = false
  once : c.writes ≤ 1 → c.spoiled = false

theorem sound_new : ({} : Channel β).Sound where
  conserved := rfl
  begins := fun _ => List.nil_prefix
  whole := fun _ => rfl
  idle := fun _ => rfl
  once := fun _ => rfl

/-- A channel that is not spoiled after a write was not before it. -/
theorem spoiled_write {c : Channel β} {data : List β} {count : Nat}
    (h : (c.write data count).spoiled = false) : c.spoiled = false := by
  have hparts : (c.spoiled || c.torn && !(data.take count).isEmpty) = false := h
  rw [Bool.or_eq_false_iff] at hparts
  exact hparts.1

theorem Sound.write {c : Channel β} (h : c.Sound) (data : List β) (count : Nat) :
    (c.write data count).Sound where
  conserved := by
    show c.written ++ data.take count = c.taken ++ (c.inFlight ++ data.take count)
    rw [h.conserved, List.append_assoc]
  begins := by
    intro hspoiled
    have hparts : (c.spoiled || c.torn && !(data.take count).isEmpty) = false := hspoiled
    rw [Bool.or_eq_false_iff, Bool.and_eq_false_iff] at hparts
    show c.written ++ data.take count <+: c.offered ++ data
    rcases hparts.2 with hwhole | hempty
    · rw [h.whole hwhole, List.prefix_append_right_inj]
      exact List.take_prefix count data
    · -- after a write that was cut short nothing gets in
      have hnone : data.take count = [] := by simpa using hempty
      rw [hnone, List.append_nil]
      exact (h.begins hparts.1).trans (List.prefix_append _ _)
  whole := by
    intro htorn
    have hparts : (c.torn || decide (count < data.length)) = false := htorn
    rw [Bool.or_eq_false_iff] at hparts
    show c.written ++ data.take count = c.offered ++ data
    rw [h.whole hparts.1,
      List.take_of_length_le (Nat.le_of_not_lt (of_decide_eq_false hparts.2))]
  idle := fun hwrites => absurd hwrites (Nat.succ_ne_zero _)
  once := by
    intro hwrites
    have hzero : c.writes = 0 := Nat.le_zero.mp (Nat.le_of_succ_le_succ hwrites)
    have hbefore := h.once (by omega)
    show (c.spoiled || c.torn && !(data.take count).isEmpty) = false
    rw [hbefore, h.idle hzero]
    rfl

theorem Sound.take {c : Channel β} (h : c.Sound) (count : Nat) : (c.take count).Sound where
  conserved := by
    show c.written = c.taken ++ c.inFlight.take count ++ c.inFlight.drop count
    rw [List.append_assoc, List.take_append_drop]
    exact h.conserved
  begins := h.begins
  whole := h.whole
  idle := h.idle
  once := h.once

/-- The reader has the beginning of what the writer had. -/
theorem Sound.taken_begins {c : Channel β} (h : c.Sound) (hspoiled : c.spoiled = false) :
    c.taken <+: c.offered :=
  List.IsPrefix.trans ⟨c.inFlight, h.conserved.symm⟩ (h.begins hspoiled)

end Channel
