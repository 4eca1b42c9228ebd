import GpuFleet.Coordinator.Connections
import GpuFleet.Lib.Progress
import Mathlib.Algebra.GroupWithZero.Nat

/-!
# Stopping the coordinator

`stop`, `accept_loop` and the loops of `handle_connection` and `liveness_loop` of
`coordinator/coordinator.cpp`, with a place for every thread and for the call of
`stop`.  A step is what one thread does up to its next access to what it shares,
or its wait for another thread: `running_`, `conn_mu_`, the store, the end of a
thread that is joined, and what `recv_some_opt` and `accept` bring.  What the
threads do to the store is left to `Process`.

`stop` joins the thread of the acceptor before it takes `conn_mu_`, so no
connection can come in any more when it joins their threads.  After it has
returned nothing happens any more (`stop_quiesces`).

A reply goes out through `send_all`, which calls `::send` again as long as that
would block, and does not look at `running_`.  So a peer that does not read can
keep a thread there, and `stop` in its join.  Nothing else can: `stop` returns
unless a thread stays in `send_all` for ever (`stop_returns`).
-/

namespace GpuFleet

/-! ## Places -/

/-- `accept_loop`: before the check of `running_`, in `accept`, with a connection
and before the lock, after an error, and past the loop. -/
inductive AcceptPlace
  | top | accepting | accepted | pausing | done
  deriving DecidableEq

/-- `liveness_loop`: before the check of `running_`, before the snapshot, in the
loop over it, and past the outer loop. -/
inductive LivenessPlace
  | top | sleeping | visiting | done
  deriving DecidableEq

/-- `handle_connection`: before the check of `running_`, in `recv_some_opt`, with
a number of frames to come in the inner loop, in `send_all` with the reply of a
dispatch, in `send_all` with the ERROR before the connection is dropped, past the
outer loop, before `mark_worker_lost`, and past the end. -/
inductive ThreadPlace
  | top | receiving | body (left : Nat) | sending (left : Nat) | farewell | leaving | marking | done
  deriving DecidableEq

/-- The program that owns the coordinator: it has not called `stop`, it is at one
of the statements of `stop`, or `stop` has returned.  `joining k` is the loop
over `conn_threads_`, under the lock. -/
inductive MainPlace
  | serving | closing | joiningAccept | joiningLiveness | locking | joining (k : Nat) | returned
  deriving DecidableEq

/-- The coordinator with its threads, each at its place. -/
structure Lifecycle where
  process : Process
  main : MainPlace := .serving
  accept : AcceptPlace := .top
  liveness : LivenessPlace := .top
  /-- `conn_threads_`, with those that were joined. -/
  threads : List ThreadPlace := []

/-- What a thread of a connection meets with. -/
inductive ThreadInput
  | check
  /-- An error or a clean close. -/
  | over
  | nothing
  /-- Some bytes, with so many frames in them, and in what was left over. -/
  | frames (n : Nat)
  | dispatch (now : Timestamp) (io : FileOutcomes) (msg : Message)
  /-- `::send` would block, and is called again. -/
  | wouldBlock
  /-- `send_all` returns: the peer has taken all bytes, or a call has failed. -/
  | sent
  /-- A payload or a frame that does not decode. -/
  | malformed
  | needMore
  | leave (now : Timestamp)
  | mark

/-- What one thread, or the caller of `stop`, does. -/
inductive LifeStep
  | stop
  | main
  /-- The acceptor, with a connection or without one. -/
  | accept (got : Bool)
  | liveness (now : Timestamp)
  | thread (i : Nat) (input : ThreadInput)

namespace Lifecycle

/-- The coordinator after `start`. -/
def start (c : Coordinator) : Lifecycle where
  process := { coordinator := c }

/-! ## Steps -/

/-- What a thread does to what it shares. -/
def act (l : Lifecycle) (a : Action) : Lifecycle := { l with process := l.process.step a }

/-- The thread of the connection `i` goes to a place. -/
def seat (l : Lifecycle) (i : Nat) (place : ThreadPlace) : Lifecycle :=
  { l with threads := l.threads.set i place }

/-- The end of `handle_connection`: there is a worker to mark, or there is not. -/
def afterLoop (l : Lifecycle) (i : Nat) : ThreadPlace :=
  match l.process.connections[i]? with
  | some conn => if conn.workerBound && l.process.running then .marking else .done
  | none => .done

/-- What the acceptor does.  It waits for `conn_mu_` as long as `stop` has it. -/
def stepAccept (l : Lifecycle) (got : Bool) : Lifecycle :=
  match l.accept with
  | .top => { l with accept := if l.process.running then .accepting else .done }
  | .accepting => { l with accept := if got then .accepted else .pausing }
  | .pausing => { l with accept := .top }
  | .accepted =>
    match l.main with
    | .joining _ => l
    | _ => { l.act .accept with accept := .top, threads := l.threads ++ [.top] }
  | .done => l

/-- What the liveness loop does, which visits the snapshot entry by entry. -/
def stepLiveness (l : Lifecycle) (now : Timestamp) : Lifecycle :=
  match l.liveness with
  | .top => { l with liveness := if l.process.running then .sleeping else .done }
  | .sleeping => { l.act (.look now) with liveness := .visiting }
  | .visiting =>
    match l.process.scan with
    | some ⟨_, _ :: _⟩ => l.act .visit
    | _ => { l.act .visit with liveness := .top }
  | .done => l

/-- What the thread of the connection `i` does.  A dispatch has done all that it
does to the store when its reply goes into `send_all`, and the result of that is
dropped. -/
def stepThread (l : Lifecycle) (i : Nat) (input : ThreadInput) : Lifecycle :=
  match l.threads[i]?, input with
  | some .top, .check => l.seat i (if l.process.running then .receiving else .leaving)
  | some .receiving, .over => l.seat i .leaving
  | some .receiving, .nothing => l.seat i .top
  | some .receiving, .frames n => l.seat i (.body n)
  | some (.body (n + 1)), .dispatch now io msg =>
    (l.act (.message i now io msg)).seat i (.sending n)
  | some (.sending n), .sent => l.seat i (.body n)
  | some (.body _), .malformed => l.seat i .farewell
  | some .farewell, .sent => (l.act (.drop i)).seat i .done
  | some (.body 0), .needMore => l.seat i .top
  | some .leaving, .leave now => (l.act (.close i now)).seat i (l.afterLoop i)
  | some .marking, .mark => (l.act (.markClosed i)).seat i .done
  | _, _ => l

/-- The statements of `stop` after the exchange of `running_`. -/
def stepMain (l : Lifecycle) : Lifecycle :=
  match l.main with
  | .serving => l
  | .closing => { l with main := .joiningAccept }
  | .joiningAccept => if l.accept = .done then { l with main := .joiningLiveness } else l
  | .joiningLiveness => if l.liveness = .done then { l with main := .locking } else l
  | .locking => { l with main := .joining 0 }
  | .joining k =>
    match l.threads[k]? with
    | some place => if place = .done then { l with main := .joining (k + 1) } else l
    | none => { l with main := .returned }
  | .returned => l

/-- One step of one thread, or of `stop`. -/
def step (l : Lifecycle) : LifeStep → Lifecycle
  | .stop =>
    match l.main with
    | .serving => { l.act .stop with main := .closing }
    | _ => l
  | .main => l.stepMain
  | .accept got => l.stepAccept got
  | .liveness now => l.stepLiveness now
  | .thread i input => l.stepThread i input

/-- Steps of all threads, in the order of the schedule. -/
def run (l : Lifecycle) (steps : List LifeStep) : Lifecycle := Run.run step l steps

/-! ## What a step can do -/

end Lifecycle

/-- The order of the places, from one check of `running_` to the end. -/
def AcceptPlace.rank : AcceptPlace → Nat
  | .accepting => 3
  | .accepted | .pausing => 2
  | .top => 1
  | .done => 0

/-- The order of the places of the liveness loop. -/
def LivenessPlace.rank : LivenessPlace → Nat
  | .sleeping => 3
  | .visiting => 2
  | .top => 1
  | .done => 0

/-- The order of the places of a connection's thread.  A reply is sent between
two frames. -/
def ThreadPlace.rank : ThreadPlace → Nat
  | .receiving => 5
  | .body _ | .sending _ => 4
  | .top => 3
  | .leaving | .farewell => 2
  | .marking => 1
  | .done => 0

/-- What is left of the inner loop: a dispatch and a `send_all` for each frame. -/
def ThreadPlace.left : ThreadPlace → Nat
  | .body n => 2 * n
  | .sending n => 2 * n + 1
  | _ => 0

/-- The thread is in `send_all`. -/
def ThreadPlace.Sending : ThreadPlace → Prop
  | .sending _ | .farewell => True
  | _ => False

/-- All steps but the return of `send_all`, which may wait for a peer. -/
def LifeStep.Own : LifeStep → Prop
  | .thread _ .sent => False
  | _ => True

/-- The place is one of the loops of `handle_connection`. -/
def ThreadPlace.Reading (place : ThreadPlace) : Prop := 2 ≤ place.rank

instance (place : ThreadPlace) : Decidable place.Reading :=
  inferInstanceAs (Decidable (2 ≤ place.rank))

theorem reading_body (n : Nat) : (ThreadPlace.body n).Reading := by
  simp [ThreadPlace.Reading, ThreadPlace.rank]

theorem reading_sending (n : Nat) : (ThreadPlace.sending n).Reading := by
  simp [ThreadPlace.Reading, ThreadPlace.rank]

/-- The place is one that `Process` calls by this phase. -/
def ThreadPlace.Matches (place : ThreadPlace) (phase : Phase) : Prop :=
  (place.Reading ∧ phase = .reading) ∨ (place = .marking ∧ ∃ now, phase = .marking now) ∨
    (place = .done ∧ phase = .ended)

theorem ThreadPlace.Matches.reading {place : ThreadPlace} {phase : Phase}
    (h : place.Matches phase) (hplace : place.Reading) : phase = .reading := by
  rcases h with ⟨-, h⟩ | ⟨rfl, -⟩ | ⟨rfl, -⟩
  · exact h
  · exact absurd hplace (by decide)
  · exact absurd hplace (by decide)

/-- `stop` has joined the acceptor. -/
def MainPlace.JoinedAccept : MainPlace → Prop
  | .joiningLiveness | .locking | .joining _ | .returned => True
  | _ => False

/-- `stop` has joined the liveness loop. -/
def MainPlace.JoinedLiveness : MainPlace → Prop
  | .locking | .joining _ | .returned => True
  | _ => False

/-- `stop` has joined the thread of the connection `i`. -/
def MainPlace.Joined (i : Nat) : MainPlace → Prop
  | .joining k => i < k
  | .returned => True
  | _ => False

theorem MainPlace.Joined.joinedLiveness {i : Nat} {m : MainPlace} (h : m.Joined i) :
    m.JoinedLiveness := by
  cases m <;> trivial

theorem MainPlace.JoinedLiveness.joinedAccept {m : MainPlace} (h : m.JoinedLiveness) :
    m.JoinedAccept := by
  cases m <;> trivial

namespace Lifecycle

variable {l : Lifecycle}

/-- What the acceptor can do: nothing, go on by itself, or start the thread of a
connection.  Once `running_` is false it only goes forward. -/
inductive AcceptMove (l : Lifecycle) : Lifecycle → Prop
  | idle : AcceptMove l l
  | goes (new : AcceptPlace) (hopen : l.accept ≠ .done)
      (hrank : l.process.running = false → new.rank < l.accept.rank) :
      AcceptMove l { l with accept := new }
  | starts (hplace : l.accept = .accepted) :
      AcceptMove l { l.act .accept with accept := .top, threads := l.threads ++ [.top] }

theorem stepAccept_move (l : Lifecycle) (got : Bool) : AcceptMove l (l.stepAccept got) := by
  unfold stepAccept
  cases hplace : l.accept with
  | top =>
    refine .goes _ (by simp [hplace]) fun hstopped => ?_
    simp [hplace, hstopped, AcceptPlace.rank]
  | accepting =>
    refine .goes _ (by simp [hplace]) fun _ => ?_
    cases got <;> simp [hplace, AcceptPlace.rank]
  | pausing =>
    refine .goes _ (by simp [hplace]) fun _ => ?_
    simp [hplace, AcceptPlace.rank]
  | accepted =>
    dsimp only
    split
    · exact .idle
    · exact .starts hplace
  | done => exact .idle

/-- What the liveness loop can do. -/
inductive LivenessMove (l : Lifecycle) : Lifecycle → Prop
  | idle : LivenessMove l l
  | checks (hplace : l.liveness = .top) :
      LivenessMove l { l with liveness := if l.process.running then .sleeping else .done }
  | looks (now : Timestamp) (hplace : l.liveness = .sleeping) :
      LivenessMove l { l.act (.look now) with liveness := .visiting }
  | visits (scan : Scan) (e : WorkerId × WorkerRecord) (rest : List (WorkerId × WorkerRecord))
      (hplace : l.liveness = .visiting) (hscan : l.process.scan = some ⟨scan.now, e :: rest⟩) :
      LivenessMove l (l.act .visit)
  | ends (hplace : l.liveness = .visiting) :
      LivenessMove l { l.act .visit with liveness := .top }

theorem stepLiveness_move (l : Lifecycle) (now : Timestamp) :
    LivenessMove l (l.stepLiveness now) := by
  unfold stepLiveness
  cases hplace : l.liveness with
  | top => exact .checks hplace
  | sleeping => exact .looks now hplace
  | visiting =>
    dsimp only
    split
    · next at' e rest hscan => exact .visits ⟨at', []⟩ e rest hplace hscan
    · exact .ends hplace
  | done => exact .idle

/-- What the thread of a connection can do: nothing, go on in its loops, handle
a frame, end a reply, drop the connection, leave the loops, or mark the worker
lost. -/
inductive ThreadMove (l : Lifecycle) (i : Nat) : Lifecycle → Prop
  | idle : ThreadMove l i l
  | goes (old new : ThreadPlace) (hi : l.threads[i]? = some old) (hold : old.Reading)
      (hnew : new.Reading) (hrank : l.process.running = false → new.rank < old.rank) :
      ThreadMove l i (l.seat i new)
  | handles (n : Nat) (now : Timestamp) (io : FileOutcomes) (msg : Message)
      (hi : l.threads[i]? = some (.body (n + 1))) :
      ThreadMove l i ((l.act (.message i now io msg)).seat i (.sending n))
  | sends (n : Nat) (hi : l.threads[i]? = some (.sending n)) : ThreadMove l i (l.seat i (.body n))
  | drops (hi : l.threads[i]? = some .farewell) :
      ThreadMove l i ((l.act (.drop i)).seat i .done)
  | leaves (now : Timestamp) (hi : l.threads[i]? = some .leaving) :
      ThreadMove l i ((l.act (.close i now)).seat i (l.afterLoop i))
  | marks (hi : l.threads[i]? = some .marking) :
      ThreadMove l i ((l.act (.markClosed i)).seat i .done)

theorem stepThread_move (l : Lifecycle) (i : Nat) (input : ThreadInput) :
    ThreadMove l i (l.stepThread i input) := by
  unfold stepThread
  split
  · next hi =>
    refine .goes _ _ hi (by decide) ?_ fun hstopped => ?_
    · split <;> decide
    · simp [hstopped, ThreadPlace.rank]
  · next hi => exact .goes _ _ hi (by decide) (by decide) fun _ => by decide
  · next hi => exact .goes _ _ hi (by decide) (by decide) fun _ => by decide
  · next n hi =>
    refine .goes _ _ hi (by decide) (reading_body n) fun _ => ?_
    simp [ThreadPlace.rank]
  · next n now io msg hi => exact .handles n now io msg hi
  · next n hi => exact .sends n hi
  · next n hi =>
    refine .goes _ _ hi (reading_body n) (by decide) fun _ => ?_
    simp [ThreadPlace.rank]
  · next hi => exact .drops hi
  · next hi => exact .goes _ _ hi (by decide) (by decide) fun _ => by decide
  · next now hi => exact .leaves now hi
  · next hi => exact .marks hi
  · exact .idle

/-! ## What `stop` has waited for -/

/-- `running_` is false once `stop` was called, and a thread that was joined is
past its end. -/
structure Settled (l : Lifecycle) : Prop where
  running : l.main ≠ .serving → l.process.running = false
  accept : l.main.JoinedAccept → l.accept = .done
  liveness : l.main.JoinedLiveness → l.liveness = .done
  threads : ∀ i place, l.main.Joined i → l.threads[i]? = some place → place = .done

theorem running_step {p : Process} (a : Action) (h : p.running = false) :
    (p.step a).running = false := by
  cases a <;> first | exact h | rfl

/-- A thread that has not ended goes on, with or without an action. -/
theorem Settled.seat (h : l.Settled) {i : Nat} {old : ThreadPlace}
    (hi : l.threads[i]? = some old) (hold : old ≠ .done) (new : ThreadPlace) {p : Process}
    (hp : l.process.running = false → p.running = false) :
    Settled ({ l with process := p }.seat i new) where
  running := fun hmain => hp (h.running hmain)
  accept := h.accept
  liveness := h.liveness
  threads := by
    intro j place hj hplace
    have hne : i ≠ j := by
      rintro rfl
      exact hold (h.threads i old hj hi)
    have hsame : l.threads[j]? = some place := by
      rw [← List.getElem?_set_ne hne (a := new)]
      exact hplace
    exact h.threads j place hj hsame

theorem ne_done_of_reading {place : ThreadPlace} (h : place.Reading) : place ≠ .done := by
  rintro rfl
  exact absurd h (by decide)

theorem settled_thread (h : l.Settled) {i : Nat} {l' : Lifecycle} (hmove : ThreadMove l i l') :
    l'.Settled := by
  cases hmove with
  | idle => exact h
  | goes old new hi hold hnew hrank => exact h.seat hi (ne_done_of_reading hold) new id
  | handles n now io msg hi => exact h.seat hi (by simp) _ (running_step _)
  | sends n hi => exact h.seat hi (by simp) _ id
  | drops hi => exact h.seat hi (by simp) _ (running_step _)
  | leaves now hi => exact h.seat hi (by simp) _ (running_step _)
  | marks hi => exact h.seat hi (by simp) _ (running_step _)

theorem settled_accept (h : l.Settled) {l' : Lifecycle} (hmove : AcceptMove l l') :
    l'.Settled := by
  cases hmove with
  | idle => exact h
  | goes new hopen hrank =>
    exact ⟨h.running, fun hjoined => absurd (h.accept hjoined) hopen, h.liveness, h.threads⟩
  | starts hplace =>
    -- the acceptor was not joined, so no connection was
    have hopen : ¬l.main.JoinedAccept := by
      intro hjoined
      rw [h.accept hjoined] at hplace
      cases hplace
    exact ⟨fun hmain => running_step _ (h.running hmain), fun hjoined => absurd hjoined hopen,
      h.liveness, fun i place hi => absurd hi.joinedLiveness.joinedAccept hopen⟩

theorem settled_liveness (h : l.Settled) {l' : Lifecycle} (hmove : LivenessMove l l') :
    l'.Settled := by
  have hrest : ∀ (p : Process) (new : LivenessPlace), l.liveness ≠ .done →
      (l.process.running = false → p.running = false) →
      Settled { l with process := p, liveness := new } := by
    intro p new hopen hp
    exact ⟨fun hmain => hp (h.running hmain), h.accept,
      fun hjoined => absurd (h.liveness hjoined) hopen, h.threads⟩
  cases hmove with
  | idle => exact h
  | checks hplace => exact hrest _ _ (by simp [hplace]) id
  | looks now hplace => exact hrest _ _ (by simp [hplace]) (running_step _)
  | visits scan e rest hplace hscan =>
    exact ⟨fun hmain => running_step _ (h.running hmain), h.accept, h.liveness, h.threads⟩
  | ends hplace => exact hrest _ _ (by simp [hplace]) (running_step _)

theorem settled_main (h : l.Settled) : l.stepMain.Settled := by
  unfold stepMain
  cases hmain : l.main with
  | serving => exact h
  | returned => exact h
  | closing =>
    exact ⟨fun _ => h.running (by simp [hmain]), fun hj => hj.elim, fun hj => hj.elim,
      fun i place hj => hj.elim⟩
  | joiningAccept =>
    dsimp only
    split
    · next hdone =>
      exact ⟨fun _ => h.running (by simp [hmain]), fun _ => hdone, fun hj => hj.elim,
        fun i place hj => hj.elim⟩
    · exact h
  | joiningLiveness =>
    have haccept := h.accept (by rw [hmain]; trivial)
    dsimp only
    split
    · next hdone =>
      exact ⟨fun _ => h.running (by simp [hmain]), fun _ => haccept, fun _ => hdone,
        fun i place hj => hj.elim⟩
    · exact h
  | locking =>
    have haccept := h.accept (by rw [hmain]; trivial)
    have hliveness := h.liveness (by rw [hmain]; trivial)
    exact ⟨fun _ => h.running (by simp [hmain]), fun _ => haccept, fun _ => hliveness,
      fun i place hj => absurd hj (Nat.not_lt_zero i)⟩
  | joining k =>
    have haccept := h.accept (by rw [hmain]; trivial)
    have hliveness := h.liveness (by rw [hmain]; trivial)
    have hearlier : ∀ i place, i < k → l.threads[i]? = some place → place = .done := by
      intro i place hi
      exact h.threads i place (by rw [hmain]; exact hi)
    dsimp only
    split
    · next place hk =>
      split
      · next hdone =>
        refine ⟨fun _ => h.running (by simp [hmain]), fun _ => haccept, fun _ => hliveness, ?_⟩
        intro i place' hi hplace
        rcases Nat.lt_succ_iff_lt_or_eq.mp hi with hlt | rfl
        · exact hearlier i place' hlt hplace
        · rw [hk] at hplace
          obtain rfl := Option.some.inj hplace
          exact hdone
      · exact h
    · next hk =>
      refine ⟨fun _ => h.running (by simp [hmain]), fun _ => haccept, fun _ => hliveness, ?_⟩
      intro i place _ hplace
      have hlength := List.getElem?_eq_none_iff.mp hk
      have hi := (List.getElem?_eq_some_iff.mp hplace).1
      exact hearlier i place (Nat.lt_of_lt_of_le hi hlength) hplace

theorem settled_step (h : l.Settled) (st : LifeStep) : (l.step st).Settled := by
  cases st with
  | stop =>
    rw [step]
    split
    · exact ⟨fun _ => rfl, fun hj => hj.elim, fun hj => hj.elim, fun i place hj => hj.elim⟩
    · exact h
  | main => exact settled_main h
  | accept got => exact settled_accept h (l.stepAccept_move got)
  | liveness now => exact settled_liveness h (l.stepLiveness_move now)
  | thread i input => exact settled_thread h (l.stepThread_move i input)

theorem settled_run (c : Coordinator) (steps : List LifeStep) :
    ((start c).run steps).Settled := by
  induction steps using List.reverseRecOn with
  | nil =>
    exact ⟨fun h => absurd rfl h, fun h => h.elim, fun h => h.elim, fun i place h => h.elim⟩
  | append_singleton steps st ih =>
    rw [run, Run.run_concat]
    exact settled_step ih st

/-! ## The places and the phases -/

/-- Every connection has its thread, and no action of a thread is one that
`Process` takes it not to be ready for. -/
structure Agrees (l : Lifecycle) : Prop where
  length : l.process.connections.length = l.threads.length
  places : ∀ (i : Nat) (place : ThreadPlace) (conn : Connection), l.threads[i]? = some place →
    l.process.connections[i]? = some conn → place.Matches conn.phase

theorem Agrees.seat (h : l.Agrees) {i : Nat} {old new : ThreadPlace} {p : Process}
    {f : Connection → Connection} (hi : l.threads[i]? = some old)
    (hp : p.connections = l.process.connections.modify i f)
    (hnew : ∀ conn, l.process.connections[i]? = some conn → old.Matches conn.phase →
      new.Matches (f conn).phase) :
    Agrees ({ l with process := p }.seat i new) where
  length := by
    show p.connections.length = (l.threads.set i new).length
    rw [hp, List.length_modify, List.length_set, h.length]
  places := by
    intro j place conn hplace hj
    have hplace' : (l.threads.set i new)[j]? = some place := hplace
    have hj' : p.connections[j]? = some conn := hj
    rw [hp] at hj'
    by_cases hij : i = j
    · subst hij
      rw [List.getElem?_set_self (List.getElem?_eq_some_iff.mp hi).1] at hplace'
      obtain rfl := Option.some.inj hplace'
      rw [List.getElem?_modify_eq] at hj'
      obtain ⟨conn₀, hconn₀, rfl⟩ := Option.map_eq_some_iff.mp hj'
      exact hnew conn₀ hconn₀ (h.places i old conn₀ hi hconn₀)
    · rw [List.getElem?_set_ne hij] at hplace'
      rw [List.getElem?_modify_ne f _ hij] at hj'
      exact h.places j place conn hplace' hj'

theorem agrees_thread (h : l.Agrees) {i : Nat} {l' : Lifecycle} (hmove : ThreadMove l i l') :
    l'.Agrees := by
  cases hmove with
  | idle => exact h
  | goes old new hi hold hnew hrank =>
    refine h.seat (f := id) hi (List.modify_id i _).symm ?_
    intro conn hconn hmatches
    exact Or.inl ⟨hnew, hmatches.reading hold⟩
  | handles n now io msg hi =>
    refine h.seat hi rfl ?_
    intro conn hconn hmatches
    have hreading : conn.phase = .reading := hmatches.reading (reading_body _)
    refine Or.inl ⟨reading_sending n, ?_⟩
    unfold Connection.received
    split <;> exact hreading
  | sends n hi =>
    refine h.seat (f := id) hi (List.modify_id i _).symm ?_
    intro conn hconn hmatches
    exact Or.inl ⟨reading_body n, hmatches.reading (reading_sending n)⟩
  | drops hi =>
    refine h.seat hi rfl ?_
    intro conn hconn hmatches
    have hreading : conn.phase = .reading := hmatches.reading (by decide)
    refine Or.inr (Or.inr ⟨rfl, ?_⟩)
    rw [Connection.dropped, if_pos hreading]
  | leaves now hi =>
    refine h.seat hi rfl ?_
    intro conn hconn hmatches
    have hreading : conn.phase = .reading := hmatches.reading (by decide)
    rw [Connection.closed, if_pos hreading, afterLoop, hconn]
    dsimp only
    by_cases hbound : (conn.workerBound && l.process.running) = true
    · rw [if_pos hbound, if_pos hbound]
      exact Or.inr (Or.inl ⟨rfl, now, rfl⟩)
    · rw [if_neg hbound, if_neg hbound]
      exact Or.inr (Or.inr ⟨rfl, rfl⟩)
  | marks hi =>
    refine h.seat hi rfl ?_
    intro conn hconn hmatches
    refine Or.inr (Or.inr ⟨rfl, ?_⟩)
    rcases hmatches with ⟨hreading, -⟩ | ⟨-, now, hnow⟩ | ⟨hdone, -⟩
    · exact absurd hreading (by decide)
    · simp only [Connection.marked, hnow]
    · cases hdone

theorem agrees_accept (h : l.Agrees) {l' : Lifecycle} (hmove : AcceptMove l l') :
    l'.Agrees := by
  cases hmove with
  | idle => exact h
  | goes new hopen hrank => exact ⟨h.length, h.places⟩
  | starts hplace =>
    refine ⟨?_, ?_⟩
    · show (l.process.connections ++ [({} : Connection)]).length
        = (l.threads ++ [ThreadPlace.top]).length
      rw [List.length_append, List.length_append, h.length]
      rfl
    · intro i place conn hi hconn
      have hi' : (l.threads ++ [ThreadPlace.top])[i]? = some place := hi
      have hconn' : (l.process.connections ++ [({} : Connection)])[i]? = some conn := hconn
      rw [List.getElem?_append] at hi' hconn'
      rw [h.length] at hconn'
      split at hi'
      · next hlt =>
        rw [if_pos hlt] at hconn'
        exact h.places i place conn hi' hconn'
      · next hlt =>
        rw [if_neg hlt, List.getElem?_singleton] at hconn'
        rw [List.getElem?_singleton] at hi'
        split at hi'
        · next hzero =>
          rw [if_pos hzero] at hconn'
          obtain rfl := Option.some.inj hi'
          obtain rfl := Option.some.inj hconn'
          exact Or.inl ⟨by decide, rfl⟩
        · cases hi'

theorem agrees_step (h : l.Agrees) (st : LifeStep) : (l.step st).Agrees := by
  cases st with
  | stop =>
    rw [step]
    split
    · exact ⟨h.length, h.places⟩
    · exact h
  | main =>
    show l.stepMain.Agrees
    unfold stepMain
    repeat' split
    all_goals exact ⟨h.length, h.places⟩
  | accept got => exact agrees_accept h (l.stepAccept_move got)
  | liveness now =>
    have hmove := l.stepLiveness_move now
    show (l.stepLiveness now).Agrees
    generalize l.stepLiveness now = l' at hmove ⊢
    cases hmove <;> exact ⟨h.length, h.places⟩
  | thread i input => exact agrees_thread h (l.stepThread_move i input)

theorem agrees_run (c : Coordinator) (steps : List LifeStep) : ((start c).run steps).Agrees := by
  induction steps using List.reverseRecOn with
  | nil =>
    refine ⟨rfl, ?_⟩
    intro i place conn hi
    cases hi
  | append_singleton steps st ih =>
    rw [run, Run.run_concat]
    exact agrees_step ih st

/-! ## After `stop` -/

/-- After `stop` has returned, no step does anything. -/
theorem step_of_returned (h : l.Settled) (hmain : l.main = .returned) (st : LifeStep) :
    l.step st = l := by
  have hjoined : l.main.JoinedAccept := by
    rw [hmain]
    trivial
  cases st with
  | stop => rw [step, hmain]
  | main =>
    show l.stepMain = l
    rw [stepMain, hmain]
  | accept got =>
    show l.stepAccept got = l
    rw [stepAccept, h.accept hjoined]
  | liveness now =>
    have hdone := h.liveness (by rw [hmain]; trivial)
    show l.stepLiveness now = l
    rw [stepLiveness, hdone]
  | thread i input =>
    have hmove := l.stepThread_move i input
    have hdone : ∀ place, l.threads[i]? = some place → place = .done := by
      intro place
      exact h.threads i place (by rw [hmain]; trivial)
    show l.stepThread i input = l
    generalize l.stepThread i input = l' at hmove ⊢
    cases hmove with
    | idle => rfl
    | goes old new hi hold hnew hrank => exact absurd (hdone _ hi) (ne_done_of_reading hold)
    | handles n now io msg hi => cases hdone _ hi
    | sends n hi => cases hdone _ hi
    | drops hi => cases hdone _ hi
    | leaves now hi => cases hdone _ hi
    | marks hi => cases hdone _ hi

theorem run_of_returned (h : l.Settled) (hmain : l.main = .returned) (more : List LifeStep) :
    l.run more = l := by
  induction more with
  | nil => rfl
  | cons st more ih =>
    rw [run, Run.run_cons, step_of_returned h hmain st]
    exact ih

/-- In every run in which `stop` has returned, every connection that was ever
accepted has ended, and whatever is tried then leaves the coordinator and its
store as they are. -/
theorem stop_quiesces (c : Coordinator) (steps more : List LifeStep)
    (hmain : ((start c).run steps).main = .returned) :
    (start c).run (steps ++ more) = (start c).run steps ∧
      ((start c).run steps).process.running = false ∧
      ∀ conn ∈ ((start c).run steps).process.connections, conn.phase = .ended := by
  have hsettled := settled_run c steps
  have hagrees := agrees_run c steps
  refine ⟨?_, hsettled.running (by rw [hmain]; simp), ?_⟩
  · rw [run, Run.run_append]
    exact run_of_returned hsettled hmain more
  · intro conn hconn
    obtain ⟨i, hi⟩ := List.getElem?_of_mem hconn
    have hlt := (List.getElem?_eq_some_iff.mp hi).1
    rw [hagrees.length] at hlt
    have hplace := List.getElem?_eq_getElem hlt
    have hdone := hsettled.threads i _ (by rw [hmain]; trivial) hplace
    rw [hdone] at hplace
    rcases hagrees.places i _ conn hplace hi with ⟨hreading, -⟩ | ⟨hmarking, -⟩ | ⟨-, hended⟩
    · exact absurd hreading (by decide)
    · cases hmarking
    · exact hended

/-- A connection comes in, `stop` is called while its thread waits for bytes, and
everybody goes on to the end. -/
def sampleStop : List LifeStep :=
  [.accept false, .accept true, .accept false, .thread 0 .check, .stop, .main, .accept false,
    .thread 0 .nothing, .main, .liveness 0, .main, .main, .thread 0 .check, .main,
    .thread 0 (.leave 7), .main, .main]

/-- Another connection and another check of the clock come too late. -/
theorem sampleStop_quiesces :
    ((start (.create {} fun _ => none)).run sampleStop).threads.length = 1 ∧
      (start (.create {} fun _ => none)).run (sampleStop ++ [.accept true, .liveness 9])
        = (start (.create {} fun _ => none)).run sampleStop :=
  ⟨by decide, (stop_quiesces (.create {} fun _ => none) sampleStop [.accept true, .liveness 9]
    (by decide)).1⟩

/-! ## `stop` returns -/

/-- How far the threads are from their ends, counted in checks, calls and
returns.  A connection that comes in counts less than the acceptor that has
it. -/
def ranks (l : Lifecycle) : Nat :=
  4 * l.accept.rank + l.liveness.rank + (l.threads.map ThreadPlace.rank).sum

/-- The entries that `liveness_loop` still has to visit. -/
def entriesLeft (p : Process) : Nat := (p.scan.map fun scan => scan.entries.length).getD 0

/-- The statements of `stop` that are left, and the threads to join. -/
def mainLeft (l : Lifecycle) : Nat :=
  match l.main with
  | .serving => 0
  | .closing => l.threads.length + 5
  | .joiningAccept => l.threads.length + 4
  | .joiningLiveness => l.threads.length + 3
  | .locking => l.threads.length + 2
  | .joining k => l.threads.length - k + 1
  | .returned => 0

/-- What is left to do between two checks: frames, entries of a snapshot, and
statements of `stop`. -/
def chores (l : Lifecycle) : Nat :=
  (l.threads.map ThreadPlace.left).sum + entriesLeft l.process + l.mainLeft

/-- What is left to do, the ranks first. -/
def measure (l : Lifecycle) : Nat × Nat := (l.ranks, l.chores)

/-- The ranks come first: a frame that comes in may bring any number of chores. -/
def Before : Nat × Nat → Nat × Nat → Prop := Prod.Lex (· < ·) (· < ·)

theorem before_wf : WellFounded Before :=
  WellFounded.prod_lex Nat.lt_wfRel.wf Nat.lt_wfRel.wf

theorem sum_map_set {α : Type} (f : α → Nat) {xs : List α} {i : Nat} {old : α}
    (hi : xs[i]? = some old) (new : α) :
    ((xs.set i new).map f).sum + f old = (xs.map f).sum + f new := by
  induction xs generalizing i with
  | nil => simp at hi
  | cons x xs ih =>
    cases i with
    | zero =>
      obtain rfl : x = old := by simpa using hi
      simp only [List.set_cons_zero, List.map_cons, List.sum_cons]
      omega
    | succ i =>
      have hrest := ih (i := i) (by simpa using hi)
      simp only [List.set_cons_succ, List.map_cons, List.sum_cons]
      omega

section Measure

variable {l' : Lifecycle}

theorem before_of_ranks (h : l'.ranks < l.ranks) : Before l'.measure l.measure :=
  Prod.Lex.left _ _ h

theorem before_of_chores (hranks : l'.ranks = l.ranks) (h : l'.chores < l.chores) :
    Before l'.measure l.measure := by
  unfold measure Before
  rw [hranks]
  exact Prod.Lex.right _ h

/-- A thread that steps down. -/
theorem ranks_seat {i : Nat} {old new : ThreadPlace} (hi : l.threads[i]? = some old)
    (hrank : new.rank < old.rank) (p : Process) :
    ({ l with process := p }.seat i new).ranks < l.ranks := by
  have hsum := sum_map_set ThreadPlace.rank hi new
  show 4 * l.accept.rank + l.liveness.rank + ((l.threads.set i new).map ThreadPlace.rank).sum
    < 4 * l.accept.rank + l.liveness.rank + (l.threads.map ThreadPlace.rank).sum
  omega

/-- A thread that goes on in the inner loop. -/
theorem before_seat {i : Nat} {old new : ThreadPlace} {p : Process}
    (hi : l.threads[i]? = some old) (hrank : new.rank = old.rank) (hleft : new.left < old.left)
    (hscan : entriesLeft p = entriesLeft l.process) :
    Before ({ l with process := p }.seat i new).measure l.measure := by
  have hranks := sum_map_set ThreadPlace.rank hi new
  have hlefts := sum_map_set ThreadPlace.left hi new
  refine before_of_chores ?_ ?_
  · show 4 * l.accept.rank + l.liveness.rank + ((l.threads.set i new).map ThreadPlace.rank).sum
      = 4 * l.accept.rank + l.liveness.rank + (l.threads.map ThreadPlace.rank).sum
    omega
  · have hmain : ({ l with process := p }.seat i new).mainLeft = l.mainLeft := by
      simp only [mainLeft, seat, List.length_set]
    show ((l.threads.set i new).map ThreadPlace.left).sum + entriesLeft p
        + ({ l with process := p }.seat i new).mainLeft
      < (l.threads.map ThreadPlace.left).sum + entriesLeft l.process + l.mainLeft
    rw [hmain, hscan]
    omega

theorem rank_afterLoop (l : Lifecycle) (i : Nat) :
    (l.afterLoop i).rank < ThreadPlace.leaving.rank := by
  unfold afterLoop
  split
  · split <;> decide
  · decide

theorem decreases_thread (hstopped : l.process.running = false) {i : Nat}
    (hmove : ThreadMove l i l') : l' = l ∨ Before l'.measure l.measure := by
  cases hmove with
  | idle => exact Or.inl rfl
  | goes old new hi hold hnew hrank =>
    exact Or.inr (before_of_ranks (ranks_seat hi (hrank hstopped) l.process))
  | handles n now io msg hi =>
    have hless : (ThreadPlace.sending n).left < (ThreadPlace.body (n + 1)).left := by
      simp only [ThreadPlace.left]
      omega
    exact Or.inr (before_seat hi rfl hless rfl)
  | sends n hi =>
    have hless : (ThreadPlace.body n).left < (ThreadPlace.sending n).left := Nat.lt_succ_self _
    exact Or.inr (before_seat hi rfl hless rfl)
  | drops hi => exact Or.inr (before_of_ranks (ranks_seat hi (by decide) _))
  | leaves now hi => exact Or.inr (before_of_ranks (ranks_seat hi (rank_afterLoop l i) _))
  | marks hi => exact Or.inr (before_of_ranks (ranks_seat hi (by decide) _))

theorem decreases_accept (hstopped : l.process.running = false) (hmove : AcceptMove l l') :
    l' = l ∨ Before l'.measure l.measure := by
  cases hmove with
  | idle => exact Or.inl rfl
  | goes new hopen hrank =>
    have hless := hrank hstopped
    refine Or.inr (before_of_ranks ?_)
    show 4 * new.rank + l.liveness.rank + (l.threads.map ThreadPlace.rank).sum
      < 4 * l.accept.rank + l.liveness.rank + (l.threads.map ThreadPlace.rank).sum
    omega
  | starts hplace =>
    -- the acceptor steps down by one, which counts four, and the thread begins at three
    refine Or.inr (before_of_ranks ?_)
    show 4 * 1 + l.liveness.rank + ((l.threads ++ [ThreadPlace.top]).map ThreadPlace.rank).sum
      < _
    simp only [ranks, hplace, AcceptPlace.rank, List.map_append, List.sum_append, List.map_cons,
      List.map_nil, List.sum_cons, List.sum_nil, ThreadPlace.rank]
    omega

theorem decreases_liveness (hstopped : l.process.running = false) (hmove : LivenessMove l l') :
    l' = l ∨ Before l'.measure l.measure := by
  cases hmove with
  | idle => exact Or.inl rfl
  | checks hplace =>
    refine Or.inr (before_of_ranks ?_)
    simp [ranks, hplace, hstopped, LivenessPlace.rank]
  | looks now hplace =>
    refine Or.inr (before_of_ranks ?_)
    simp [ranks, act, hplace, LivenessPlace.rank]
  | visits scan e rest hplace hscan =>
    refine Or.inr (before_of_chores rfl ?_)
    have hrest : entriesLeft (l.act .visit).process = rest.length := by
      simp [entriesLeft, act, Process.step, Process.nextScan, hscan]
    have hall : entriesLeft l.process = rest.length + 1 := by
      simp [entriesLeft, hscan]
    show (l.threads.map ThreadPlace.left).sum + entriesLeft (l.act .visit).process + l.mainLeft
      < (l.threads.map ThreadPlace.left).sum + entriesLeft l.process + l.mainLeft
    omega
  | ends hplace =>
    refine Or.inr (before_of_ranks ?_)
    simp [ranks, act, hplace, LivenessPlace.rank]

/-- A statement of `stop` leaves the threads where they are. -/
theorem before_of_main {new : MainPlace}
    (h : mainLeft { l with main := new } < l.mainLeft) :
    Before (measure { l with main := new }) l.measure := by
  refine before_of_chores rfl ?_
  show _ + _ + mainLeft { l with main := new } < _ + _ + l.mainLeft
  exact Nat.add_lt_add_left h _

theorem decreases_main (l : Lifecycle) : l.stepMain = l ∨ Before l.stepMain.measure l.measure := by
  unfold stepMain
  cases hmain : l.main with
  | serving => exact Or.inl rfl
  | returned => exact Or.inl rfl
  | closing => exact Or.inr (before_of_main (by simp [mainLeft, hmain]))
  | joiningAccept =>
    dsimp only
    split
    · exact Or.inr (before_of_main (by simp [mainLeft, hmain]))
    · exact Or.inl rfl
  | joiningLiveness =>
    dsimp only
    split
    · exact Or.inr (before_of_main (by simp [mainLeft, hmain]))
    · exact Or.inl rfl
  | locking => exact Or.inr (before_of_main (by simp [mainLeft, hmain]))
  | joining k =>
    dsimp only
    split
    · next place hk =>
      have hlt := (List.getElem?_eq_some_iff.mp hk).1
      split
      · refine Or.inr (before_of_main ?_)
        simp only [mainLeft, hmain]
        omega
      · exact Or.inl rfl
    · exact Or.inr (before_of_main (by simp [mainLeft, hmain]))

/-- `stop` was called. -/
def Stopping (l : Lifecycle) : Prop := l.Settled ∧ l.main ≠ .serving

/-- `stop` has returned. -/
def Returned (l : Lifecycle) : Prop := l.main = .returned

theorem step_ne_serving (h : l.main ≠ .serving) (st : LifeStep) : (l.step st).main ≠ .serving := by
  cases st with
  | stop =>
    rw [step]
    split
    · simp
    · exact h
  | main =>
    show l.stepMain.main ≠ .serving
    unfold stepMain
    repeat' split
    all_goals simp_all
  | accept got =>
    have hmove := l.stepAccept_move got
    show (l.stepAccept got).main ≠ .serving
    generalize l.stepAccept got = l' at hmove ⊢
    cases hmove <;> exact h
  | liveness now =>
    have hmove := l.stepLiveness_move now
    show (l.stepLiveness now).main ≠ .serving
    generalize l.stepLiveness now = l' at hmove ⊢
    cases hmove <;> exact h
  | thread i input =>
    have hmove := l.stepThread_move i input
    show (l.stepThread i input).main ≠ .serving
    generalize l.stepThread i input = l' at hmove ⊢
    cases hmove <;> exact h

/-- After the call of `stop` every step that changes something brings the end
nearer. -/
theorem decreases : Progress.Decreases step Before measure Stopping Returned := by
  rintro l st ⟨hsettled, hmain⟩ - hmoves
  have hstopped := hsettled.running hmain
  refine Or.inr ⟨⟨settled_step hsettled st, step_ne_serving hmain st⟩, ?_⟩
  suffices hbefore : l.step st = l ∨ Before (l.step st).measure l.measure from
    hbefore.resolve_left hmoves
  cases st with
  | stop =>
    refine Or.inl ?_
    rw [step]
    split
    · next hserving => exact absurd hserving hmain
    · rfl
  | main => exact decreases_main l
  | accept got => exact decreases_accept hstopped (l.stepAccept_move got)
  | liveness now => exact decreases_liveness hstopped (l.stepLiveness_move now)
  | thread i input => exact decreases_thread hstopped (l.stepThread_move i input)

/-! ## Nobody waits for ever -/

theorem seat_ne {i : Nat} {old new : ThreadPlace} (hi : l.threads[i]? = some old)
    (hne : new ≠ old) (p : Process) : { l with process := p }.seat i new ≠ l := by
  intro h
  have hthreads : l.threads.set i new = l.threads := congrArg Lifecycle.threads h
  have hnew : (l.threads.set i new)[i]? = some new :=
    List.getElem?_set_self (List.getElem?_eq_some_iff.mp hi).1
  rw [hthreads, hi] at hnew
  exact hne (Option.some.inj hnew).symm

/-- A thread that is not past its end can go on, whatever the others do, unless it
is in `send_all`. -/
theorem enabled_thread {i : Nat} {place : ThreadPlace} (hi : l.threads[i]? = some place)
    (hopen : place ≠ .done) (hfree : ¬place.Sending) :
    ∃ input, (LifeStep.thread i input).Own ∧ l.stepThread i input ≠ l := by
  cases place with
  | sending n => exact absurd trivial hfree
  | farewell => exact absurd trivial hfree
  | top =>
    refine ⟨.check, trivial, ?_⟩
    simp only [stepThread, hi]
    refine seat_ne hi ?_ l.process
    split <;> simp
  | receiving =>
    refine ⟨.over, trivial, ?_⟩
    simp only [stepThread, hi]
    exact seat_ne hi (by simp) l.process
  | body n =>
    refine ⟨.malformed, trivial, ?_⟩
    simp only [stepThread, hi]
    exact seat_ne hi (by simp) _
  | leaving =>
    refine ⟨.leave 0, trivial, ?_⟩
    simp only [stepThread, hi]
    refine seat_ne hi ?_ _
    intro h
    have hrank := l.rank_afterLoop i
    rw [h] at hrank
    exact Nat.lt_irrefl _ hrank
  | marking =>
    refine ⟨.mark, trivial, ?_⟩
    simp only [stepThread, hi]
    exact seat_ne hi (by simp) _
  | done => exact absurd rfl hopen

/-- The acceptor can go on unless it waits for the lock, which `stop` takes after
it has joined the acceptor. -/
theorem enabled_accept (h : l.Settled) (hopen : l.accept ≠ .done) :
    l.stepAccept false ≠ l := by
  intro hsame
  have haccept := congrArg Lifecycle.accept hsame
  unfold stepAccept at haccept
  cases hplace : l.accept with
  | top =>
    simp only [hplace] at haccept
    split at haccept <;> cases haccept
  | accepting =>
    simp only [hplace] at haccept
    cases haccept
  | pausing =>
    simp only [hplace] at haccept
    cases haccept
  | accepted =>
    have hfree : ¬l.main.JoinedAccept := fun hjoined => hopen (h.accept hjoined)
    simp only [hplace] at haccept
    split at haccept
    · next hmain => exact hfree (by rw [hmain]; trivial)
    · cases haccept
  | done => exact hopen hplace

theorem enabled_liveness (hopen : l.liveness ≠ .done) : l.stepLiveness 0 ≠ l := by
  intro hsame
  have hliveness := congrArg Lifecycle.liveness hsame
  have hscan := congrArg (fun l' => l'.process.scan) hsame
  unfold stepLiveness at hliveness hscan
  cases hplace : l.liveness with
  | top =>
    simp only [hplace] at hliveness
    split at hliveness <;> cases hliveness
  | sleeping =>
    simp only [hplace] at hliveness
    cases hliveness
  | visiting =>
    simp only [hplace] at hliveness hscan
    split at hscan
    · next now e rest hentries =>
      simp only [act, Process.step, Process.nextScan, hentries] at hscan
      have hlength := congrArg List.length (congrArg Scan.entries (Option.some.inj hscan))
      simp at hlength
    · next hentries =>
      split at hliveness
      · next now e rest hsome => exact hentries now e rest hsome
      · cases hliveness
  | done => exact hopen hplace

/-- When all the threads are past their ends, `stop` goes on. -/
theorem enabled_main (hmain : l.main ≠ .serving) (hreturned : l.main ≠ .returned)
    (haccept : l.accept = .done) (hliveness : l.liveness = .done)
    (hthreads : ∀ (i : Nat) (place : ThreadPlace), l.threads[i]? = some place → place = .done) :
    l.stepMain ≠ l := by
  intro hsame
  have hnext := congrArg Lifecycle.main hsame
  unfold stepMain at hnext
  cases hplace : l.main with
  | serving => exact hmain hplace
  | returned => exact hreturned hplace
  | closing =>
    simp only [hplace] at hnext
    cases hnext
  | joiningAccept =>
    simp only [hplace, haccept, if_true] at hnext
    cases hnext
  | joiningLiveness =>
    simp only [hplace, hliveness, if_true] at hnext
    cases hnext
  | locking =>
    simp only [hplace] at hnext
    cases hnext
  | joining k =>
    simp only [hplace] at hnext
    split at hnext
    · next place hk =>
      rw [if_pos (hthreads k place hk)] at hnext
      have hk := MainPlace.joining.inj hnext
      omega
    · cases hnext

/-- The thread of the connection `i` is in `send_all`. -/
def InSend (l : Lifecycle) (i : Nat) : Prop := ∃ place, l.threads[i]? = some place ∧ place.Sending

/-- As long as `stop` has not returned, somebody can go on, or a thread is in
`send_all`. -/
theorem own_or_inSend (l : Lifecycle) (h : l.Stopping) (hreturned : ¬l.Returned) :
    (∃ st, st.Own ∧ l.step st ≠ l) ∨ ∃ i, l.InSend i := by
  obtain ⟨hsettled, hmain⟩ := h
  by_cases haccept : l.accept = .done
  · by_cases hliveness : l.liveness = .done
    · by_cases hthreads : ∀ (i : Nat) (place : ThreadPlace),
          l.threads[i]? = some place → place = .done
      · exact Or.inl ⟨.main, trivial, enabled_main hmain hreturned haccept hliveness hthreads⟩
      · push Not at hthreads
        obtain ⟨i, place, hi, hopen⟩ := hthreads
        by_cases hsending : place.Sending
        · exact Or.inr ⟨i, place, hi, hsending⟩
        · obtain ⟨input, hown, hinput⟩ := enabled_thread hi hopen hsending
          exact Or.inl ⟨.thread i input, hown, hinput⟩
    · exact Or.inl ⟨.liveness 0, trivial, enabled_liveness hliveness⟩
  · exact Or.inl ⟨.accept false, trivial, enabled_accept hsettled haccept⟩

/-- A thread that is in `send_all` leaves it when the peer has taken the bytes. -/
theorem InSend.returns {i : Nat} (h : l.InSend i) : l.stepThread i .sent ≠ l := by
  obtain ⟨place, hi, hsending⟩ := h
  cases place with
  | sending n =>
    simp only [stepThread, hi]
    exact seat_ne hi (by simp) l.process
  | farewell =>
    simp only [stepThread, hi]
    exact seat_ne hi (by simp) _
  | top | receiving | body n | leaving | marking | done => exact hsending.elim

theorem enabled (l : Lifecycle) (h : l.Stopping) (hreturned : ¬l.Returned) :
    ∃ st, l.step st ≠ l := by
  rcases own_or_inSend l h hreturned with ⟨st, -, hst⟩ | ⟨i, hi⟩
  · exact ⟨st, hst⟩
  · exact ⟨.thread i .sent, hi.returns⟩

/-- After `stop` has returned, no thread is in `send_all`. -/
theorem not_inSend (h : l.Settled) (hreturned : l.Returned) (i : Nat) : ¬l.InSend i := by
  rintro ⟨place, hi, hsending⟩
  have hreturned : l.main = .returned := hreturned
  rw [h.threads i place (by rw [hreturned]; trivial) hi] at hsending
  exact hsending

/-- Wherever the threads are when `stop` is called, there is a way on to its
return.  A schedule in which something happens as long as a step is possible that
waits for no peer leads to this return, unless a thread of a connection stays in
`send_all` for ever; and then it does not. -/
theorem stop_returns (c : Coordinator) (steps : List LifeStep)
    (hcalled : ((start c).run steps).main ≠ .serving) :
    (∃ more, ((start c).run (steps ++ more)).Returned) ∧
      ∀ schedule, Progress.Fair step LifeStep.Own Returned ((start c).run steps) schedule →
        ((∃ n, (Progress.states step ((start c).run steps) schedule n).Returned) ↔
          ¬∃ i n, ∀ m, n ≤ m →
            (Progress.states step ((start c).run steps) schedule m).InSend i) := by
  have hstopping : ((start c).run steps).Stopping := ⟨settled_run c steps, hcalled⟩
  constructor
  · obtain ⟨more, hmore⟩ := Progress.drains before_wf decreases enabled hstopping
    refine ⟨more, ?_⟩
    rw [run, Run.run_append]
    exact hmore
  intro schedule hfair
  have hsettled : ∀ n, (Progress.states step ((start c).run steps) schedule n).Settled := by
    intro n
    induction n with
    | zero => exact hstopping.1
    | succ n ih => exact settled_step ih _
  constructor
  · rintro ⟨n, hreturned⟩ ⟨i, k, hsends⟩
    -- what has returned stays as it is
    have hlater : Progress.states step ((start c).run steps) schedule (n + k)
        = Progress.states step ((start c).run steps) schedule n := by
      clear hsends
      induction k with
      | zero => rfl
      | succ k ih =>
        rw [← Nat.add_assoc, Progress.states, ih]
        exact step_of_returned (hsettled n) hreturned _
    have hsend := hsends (n + k) (Nat.le_add_left k n)
    rw [hlater] at hsend
    exact not_inSend (hsettled n) hreturned i hsend
  · intro hfree
    rcases hfair.settles before_wf decreases hstopping with hdone | ⟨n, hn, hstuck, hstays⟩
    · exact hdone
    by_cases hreturned : (Progress.states step ((start c).run steps) schedule n).Returned
    · exact ⟨n, hreturned⟩
    rcases own_or_inSend _ hn hreturned with ⟨st, hown, hst⟩ | ⟨i, hi⟩
    · exact absurd (hstuck st hown) hst
    · refine absurd ⟨i, n, fun m hm => ?_⟩ hfree
      rw [hstays m hm]
      exact hi

/-- `stop` waits for a thread that is in `send_all`, and nobody else has anything
to do. -/
theorem own_of_waiting (hmain : l.main = .joining 0) (haccept : l.accept = .done)
    (hliveness : l.liveness = .done) (hthreads : l.threads = [.sending 0]) (st : LifeStep)
    (hown : st.Own) : l.step st = l := by
  cases st with
  | stop => rw [step, hmain]
  | main =>
    show l.stepMain = l
    simp [stepMain, hmain, hthreads]
  | accept got =>
    show l.stepAccept got = l
    rw [stepAccept, haccept]
  | liveness now =>
    show l.stepLiveness now = l
    rw [stepLiveness, hliveness]
  | thread i input =>
    show l.stepThread i input = l
    unfold stepThread
    cases i with
    | zero =>
      rw [hthreads]
      cases input with
      | sent => exact hown.elim
      | _ => rfl
    | succ i =>
      rw [hthreads]
      rfl

/-- A HELLO comes in, its reply would block, and `stop` is called. -/
def sampleSend : List LifeStep :=
  [.accept false, .accept true, .accept false, .thread 0 .check, .thread 0 (.frames 1),
    .thread 0 (.dispatch 0 {} {}), .stop, .main, .accept false, .main, .liveness 0, .main, .main]

/-- `stop` can return when the peer takes the reply, and it does not return if the
peer never does. -/
theorem sampleSend_returns :
    (∃ more, ((start (.create {} fun _ => none)).run (sampleSend ++ more)).Returned) ∧
      ¬∃ n, (Progress.states step ((start (.create {} fun _ => none)).run sampleSend)
        (fun _ => .thread 0 .wouldBlock) n).Returned := by
  have hthreads : ((start (.create {} fun _ => none)).run sampleSend).threads = [.sending 0] := by
    decide
  have hstuck : ∀ st : LifeStep, st.Own →
      ((start (.create {} fun _ => none)).run sampleSend).step st
        = (start (.create {} fun _ => none)).run sampleSend :=
    own_of_waiting (by decide) (by decide) (by decide) hthreads
  have hstays : ∀ n, Progress.states step ((start (.create {} fun _ => none)).run sampleSend)
      (fun _ => .thread 0 .wouldBlock) n = (start (.create {} fun _ => none)).run sampleSend := by
    intro n
    induction n with
    | zero => rfl
    | succ n ih =>
      rw [Progress.states, ih]
      exact hstuck _ trivial
  obtain ⟨hway, hreturns⟩ := stop_returns (.create {} fun _ => none) sampleSend (by decide)
  refine ⟨hway, fun hreturned => ?_⟩
  refine (hreturns _ ?_).mp hreturned ⟨0, 0, fun m _ => ?_⟩
  · rintro n - ⟨st, hown, hmoves⟩
    rw [hstays n, hstuck st hown] at hmoves
    exact absurd rfl hmoves
  · rw [hstays m]
    exact ⟨.sending 0, by rw [hthreads]; rfl, trivial⟩

end Measure

end Lifecycle

end GpuFleet
