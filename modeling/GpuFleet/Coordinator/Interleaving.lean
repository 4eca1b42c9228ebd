import GpuFleet.Coordinator.Conversation
import GpuFleet.Coordinator.Detector

/-!
# Dispatches section by section

In `Process` a dispatch is one action.  `Threads` has a turn for each of its
critical sections, and between two turns of a thread any other thread may have
one of its own.

`Process` loses nothing by that: whatever the order of the turns, the store is
that of a run of `Process`, and so is every connection that is not inside a
dispatch (`exists_run_follows`).  In that run a REGISTER is dispatched at the
point of its registration, and the call of any other message stands where its
thread made it, with the arguments it had there.  The thread of the REGISTER
binds its connection later, but it is inside `dispatch` until then and nobody
else looks at the connection.

So the store of every interleaving is that of a run of its calls, and what holds
of all runs of the store holds of all interleavings (`exists_ops`).

The files that a SAVE writes are left out, as no thread reads them.
-/

namespace GpuFleet

open FleetStateStore

/-! ## The threads -/

/-- A dispatch before its first section. -/
def Work.start (opts : Options) (now : Timestamp) (io : FileOutcomes) (msg : Message) : Work where
  msg := msg
  now := now
  io := io
  left := Coordinator.dispatchSections opts now io msg

/-- The threads of the coordinator, some of them inside a dispatch. -/
structure Threads where
  process : Process
  /-- The dispatch that the thread of a connection is in. -/
  work : Nat → Option Work := fun _ => none

/-- What one thread does in a turn. -/
inductive Turn
  /-- The connection has decoded a message and calls `dispatch`. -/
  | dispatch (i : Nat) (now : Timestamp) (io : FileOutcomes) (msg : Message)
  /-- The next critical section of its dispatch. -/
  | enter (i : Nat)
  /-- The end of its dispatch. -/
  | answer (i : Nat)
  /-- Anything that is no dispatch. -/
  | other (a : Action)

namespace Threads

/-- A thread that is inside a dispatch neither drops nor closes its connection. -/
def allows (t : Threads) : Action → Bool
  | .message .. => false
  | .drop i | .close i _ => (t.work i).isNone
  | _ => true

/-- The work of one thread is replaced. -/
def setWork (t : Threads) (i : Nat) (w : Option Work) : Nat → Option Work :=
  Function.update t.work i w

@[simp] theorem setWork_self (t : Threads) (i : Nat) (w : Option Work) : t.setWork i w i = w := by
  simp [setWork]

theorem setWork_of_ne (t : Threads) {i j : Nat} (h : j ≠ i) (w : Option Work) :
    t.setWork i w j = t.work j := by
  simp [setWork, h]

/-- One turn of one thread. -/
def step (t : Threads) : Turn → Threads
  | .dispatch i now io msg =>
    match t.process.connections[i]?, t.work i with
    | some conn, none =>
      if conn.phase = .reading then
        { t with work := t.setWork i (some (.start t.process.coordinator.opts now io msg)) }
      else t
    | _, _ => t
  | .enter i =>
    match t.work i with
    | some ⟨msg, now, io, .access a next⟩ =>
      { process := { t.process with
          coordinator := t.process.coordinator.withStore (a.apply t.process.store) }
        work := t.setWork i (some ⟨msg, now, io, next t.process.store⟩) }
    | _ => t
  | .answer i =>
    match t.work i with
    | some ⟨msg, _, _, .done _⟩ =>
      { process := { t.process with
          connections := t.process.connections.modify i fun conn => conn.received msg }
        work := t.setWork i none }
    | _ => t
  | .other a => if t.allows a then { t with process := t.process.step a } else t

/-- Turns of all threads, in the order of the interleaving. -/
def run (t : Threads) (turns : List Turn) : Threads := Run.run step t turns

end Threads

/-! ## Calls of a dispatch -/

namespace Coordinator

/-- What is left of a REGISTER: the registration is still to be made, or nothing is
left but to read. -/
def Registering (now : Timestamp) (msg : Message) (left : Sections) : Prop :=
  left.Only Section.IsLook ∨
    ∃ reg next, decodeRegistration msg.payload = .ok reg ∧
      left = .access (.call (.registerWorker reg now)) next ∧
      ∀ s, (next s).Only Section.IsLook

theorem registering_registerSections (now : Timestamp) (msg : Message) :
    Registering now msg (registerSections now msg) := by
  unfold Registering registerSections
  cases decodeRegistration msg.payload with
  | error err => exact Or.inl (only_ackSections msg false _)
  | ok reg =>
    refine Or.inr ⟨reg, _, rfl, rfl, fun s => ?_⟩
    dsimp only
    split
    · exact only_ackSections msg false _
    · exact ⟨trivial, fun s => ⟨trivial, fun _ => trivial⟩⟩

/-- A call depends on the store, and on nothing else of the coordinator. -/
theorem call_congr {c c' : Coordinator} (h : c.store = c'.store) (e : Event) :
    c.call e = c'.call e := by
  obtain ⟨opts, s, disk⟩ := c
  obtain ⟨opts', s', disk'⟩ := c'
  obtain rfl : s = s' := h
  rfl

end Coordinator

/-! ## The run of `Process` -/

/-- The next section makes a call. -/
def Sections.calls : Sections → Bool
  | .access (.call _) _ => true
  | _ => false

theorem Sections.calls_of_only {left : Sections} (h : left.Only Section.IsLook) :
    left.calls = false := by
  cases left with
  | done reply => rfl
  | access a next =>
    cases a with
    | look => rfl
    | call op => cases h.1

/-- What a dispatch keeps to. -/
structure Work.OnCourse (wk : Work) : Prop where
  lossless : wk.left.Only Section.Lossless
  registering : wk.msg.type = .register → Coordinator.Registering wk.now wk.msg wk.left

theorem Work.start_onCourse (opts : Options) (now : Timestamp) (io : FileOutcomes)
    (msg : Message) : (Work.start opts now io msg).OnCourse where
  lossless := (Coordinator.once_dispatchSections opts now io msg).only
    fun _ => Section.IsLook.lossless
  registering := by
    intro htype
    have htype' : msg.type = .register := htype
    simp only [Work.start, Coordinator.dispatchSections, htype']
    exact Coordinator.registering_registerSections now msg

/-- A REGISTER begins with its call if it decodes. -/
theorem Work.start_calls (opts : Options) (now : Timestamp) (io : FileOutcomes) {msg : Message}
    (htype : msg.type = .register) :
    (Work.start opts now io msg).left.calls
      = match decodeRegistration msg.payload with
        | .error _ => false
        | .ok _ => true := by
  simp only [Work.start, Coordinator.dispatchSections, htype, Coordinator.registerSections]
  cases decodeRegistration msg.payload with
  | error err => rfl
  | ok reg => rfl

/-- The connection, with what its thread does to it at the end of its dispatch if
the call of the dispatch has been made. -/
def Connection.ahead (wk : Option Work) (conn : Connection) : Connection :=
  match wk with
  | none => conn
  | some wk => if wk.left.calls then conn else conn.received wk.msg

namespace Connection

theorem received_of_ne {conn : Connection} {msg : Message} (h : msg.type ≠ .register) :
    conn.received msg = conn :=
  if_neg fun hc => h hc.2

theorem received_phase (conn : Connection) (msg : Message) :
    (conn.received msg).phase = conn.phase := by
  unfold received
  split <;> rfl

theorem ahead_of_ne {wk : Work} (h : wk.msg.type ≠ .register) (conn : Connection) :
    conn.ahead (some wk) = conn := by
  unfold ahead
  dsimp only
  rw [received_of_ne h, ite_self]

theorem ahead_of_calls {wk : Work} (h : wk.left.calls = true) (conn : Connection) :
    conn.ahead (some wk) = conn :=
  if_pos h

theorem ahead_of_not_calls {wk : Work} (h : wk.left.calls = false) (conn : Connection) :
    conn.ahead (some wk) = conn.received wk.msg :=
  if_neg (ne_true_of_eq_false h)

theorem ahead_phase (wk : Option Work) (conn : Connection) :
    (conn.ahead wk).phase = conn.phase := by
  cases wk with
  | none => rfl
  | some wk =>
    unfold ahead
    dsimp only
    split
    · rfl
    · exact received_phase conn wk.msg

theorem marked_of_reading {conn : Connection} (h : conn.phase = .reading) :
    conn.marked = conn := by
  unfold marked
  rw [h]

end Connection

/-- The store of a run of `Process` is that of a run of its calls. -/
theorem Process.exists_ops (p : Process) (actions : List Action) :
    ∃ ops, (p.run actions).store = p.store.run ops := by
  have hstep (q : Process) (s : FleetStateStore) (a : Action) (hq : q.store = s) :
      ∃ ops, (q.step a).store = s.run ops := by
    rw [Process.step_store, hq]
    cases q.call a with
    | none => exact ⟨[], rfl⟩
    | some op => exact ⟨[op], rfl⟩
  exact Run.exists_run_of_matched hstep rfl actions

namespace Threads

/-- The process is where the threads are, with the connections of those that have
made the call of their dispatch ahead. -/
structure Follows (t : Threads) (p : Process) : Prop where
  opts : p.coordinator.opts = t.process.coordinator.opts
  store : p.store = t.process.store
  running : p.running = t.process.running
  scan : p.scan = t.process.scan
  connections : ∀ i, p.connections[i]? =
    (t.process.connections[i]?).map (Connection.ahead (t.work i))
  /-- A thread inside a dispatch is in its receive loop. -/
  busy : ∀ i wk, t.work i = some wk → t.process.Reading i
  course : ∀ i wk, t.work i = some wk → wk.OnCourse

theorem follows_start (p : Process) : Follows ⟨p, fun _ => none⟩ p where
  opts := rfl
  store := rfl
  running := rfl
  scan := rfl
  connections := fun i => (congrFun Option.map_id p.connections[i]?).symm
  busy := fun _ _ h => by cases h
  course := fun _ _ h => by cases h

section Turns

variable {t : Threads} {p : Process} {i j : Nat}

/-- A connection that is modified in both. -/
theorem connections_modify {f : Connection → Connection} (h : t.Follows p)
    (hf : ∀ conn, t.process.connections[j]? = some conn →
      f (conn.ahead (t.work j)) = (f conn).ahead (t.work j)) (i : Nat) :
    (p.connections.modify j f)[i]?
      = ((t.process.connections.modify j f)[i]?).map (Connection.ahead (t.work i)) := by
  rw [List.getElem?_modify, List.getElem?_modify, h.connections i]
  by_cases hj : j = i
  · subst hj
    cases hconn : t.process.connections[j]? with
    | none => rfl
    | some conn => simpa using hf conn hconn
  · simp [hj]

theorem Follows.length (h : t.Follows p) :
    p.connections.length = t.process.connections.length := by
  apply Nat.le_antisymm
  · rw [← List.getElem?_eq_none_iff, h.connections, List.getElem?_eq_none (Nat.le_refl _)]
    rfl
  · have hnone := h.connections p.connections.length
    rw [List.getElem?_eq_none (Nat.le_refl _)] at hnone
    exact List.getElem?_eq_none_iff.mp (Option.map_eq_none_iff.mp hnone.symm)

/-- The thread of a new connection is not inside a dispatch. -/
theorem Follows.connections_accept (h : t.Follows p) (i : Nat) :
    (p.connections ++ [({} : Connection)])[i]?
      = ((t.process.connections ++ [({} : Connection)])[i]?).map (Connection.ahead (t.work i)) := by
  rw [List.getElem?_append, List.getElem?_append, h.length]
  by_cases hi : i < t.process.connections.length
  · rw [if_pos hi, if_pos hi]
    exact h.connections i
  · rw [if_neg hi, if_neg hi]
    cases hwork : t.work i with
    | none => exact (congrFun Option.map_id _).symm
    | some wk =>
      obtain ⟨conn, hconn, _⟩ := h.busy i wk hwork
      exact absurd (List.getElem?_eq_some_iff.mp hconn).1 hi

/-- A connection in its receive loop is so after a `modify` too, if it is another
one or the function keeps it there. -/
theorem reading_modify {f : Connection → Connection} (h : t.process.Reading i)
    (hf : j = i → ∀ conn, conn.phase = .reading → (f conn).phase = .reading) :
    ∃ conn, (t.process.connections.modify j f)[i]? = some conn ∧ conn.phase = .reading := by
  obtain ⟨conn, hconn, hphase⟩ := h
  rw [List.getElem?_modify, hconn]
  by_cases hj : j = i
  · exact ⟨f conn, by simp [hj], hf hj conn hphase⟩
  · exact ⟨conn, by simp [hj], hphase⟩

theorem Follows.timeout (h : t.Follows p) : p.timeout = t.process.timeout :=
  congrArg Options.heartbeatTimeoutMs h.opts

/-- An action that is no dispatch takes the same step of the coordinator. -/
theorem Follows.event_eq (h : t.Follows p) {a : Action} (ha : t.allows a = true) :
    p.event a = t.process.event a := by
  cases a with
  | message j now io msg => cases ha
  | markClosed j =>
    simp only [Process.event, h.connections j]
    cases hconn : t.process.connections[j]? with
    | none => rfl
    | some conn =>
      simp only [Option.map_some, Connection.ahead_phase]
      cases hphase : conn.phase with
      | marking now =>
        -- a thread that is marking is not inside a dispatch
        cases hwork : t.work j with
        | none => rfl
        | some wk =>
          obtain ⟨conn', hconn', hreading⟩ := h.busy j wk hwork
          rw [hconn, Option.some.injEq] at hconn'
          rw [← hconn', hphase] at hreading
          cases hreading
      | _ => rfl
  | visit => simp only [Process.event, h.scan, h.timeout]
  | _ => rfl

theorem Follows.call_eq (h : t.Follows p) {a : Action} (ha : t.allows a = true) :
    p.call a = t.process.call a := by
  cases a with
  | operate op hop => rfl
  | _ =>
    simp only [Process.call, h.event_eq ha]
    exact congrArg _ (funext fun e => Coordinator.call_congr h.store e)

theorem Follows.other (h : t.Follows p) {a : Action} (ha : t.allows a = true) :
    Follows { t with process := t.process.step a } (p.step a) where
  opts := by
    cases a with
    | operate op hop => exact h.opts
    | _ =>
      exact (Process.advance_opts p.coordinator _).trans
        (h.opts.trans (Process.advance_opts t.process.coordinator _).symm)
  store := by
    dsimp only
    rw [Process.step_store, Process.step_store, h.call_eq ha, h.store]
  running := by
    cases a with
    | stop => rfl
    | _ => exact h.running
  scan := by
    cases a with
    | look now => simp only [Process.step, Process.nextScan, h.scan, h.store]
    | visit => simp only [Process.step, Process.nextScan, h.scan]
    | _ => exact h.scan
  connections := by
    intro i
    cases a with
    | message j now io msg => cases ha
    | accept => exact h.connections_accept i
    | drop j =>
      have hwork : t.work j = none := Option.isNone_iff_eq_none.mp ha
      exact connections_modify h (fun conn _ => by rw [hwork]; rfl) i
    | close j now =>
      have hwork : t.work j = none := Option.isNone_iff_eq_none.mp ha
      have hclose : (p.step (.close j now)).connections
          = p.connections.modify j fun conn => conn.closed t.process.running now := by
        rw [← h.running]
        rfl
      rw [hclose]
      exact connections_modify h (fun conn _ => by rw [hwork]; rfl) i
    | markClosed j =>
      refine connections_modify h (fun conn hconn => ?_) i
      cases hwork : t.work j with
      | none => rfl
      | some wk =>
        obtain ⟨conn', hconn', hreading⟩ := h.busy j wk hwork
        rw [hconn, Option.some.injEq] at hconn'
        rw [← hconn'] at hreading
        rw [Connection.marked_of_reading hreading, Connection.marked_of_reading]
        rw [Connection.ahead_phase, hreading]
    | _ => exact h.connections i
  busy := by
    intro i wk hwork
    have hreading : t.process.Reading i := h.busy i wk hwork
    have hne : ∀ j, (t.work j).isNone = true → j ≠ i := by
      rintro j hj rfl
      rw [show t.work j = some wk from hwork] at hj
      cases hj
    cases a with
    | message j now io msg => cases ha
    | accept =>
      obtain ⟨conn, hconn, hphase⟩ := hreading
      exact ⟨conn, List.getElem?_append_left (List.getElem?_eq_some_iff.mp hconn).1 ▸ hconn, hphase⟩
    | drop j => exact reading_modify hreading fun hj => absurd hj (hne j ha)
    | close j now => exact reading_modify hreading fun hj => absurd hj (hne j ha)
    | markClosed j =>
      refine reading_modify hreading fun _ conn hphase => ?_
      rw [Connection.marked_of_reading hphase, hphase]
    | _ => exact hreading
  course := h.course

/-- A turn inside the dispatch of `i`, where the two go on to `q` and `q'`. -/
theorem Follows.replace (h : t.Follows p) {q q' : Process} {w : Option Work}
    (hopts : q.coordinator.opts = t.process.coordinator.opts)
    (hopts' : q'.coordinator.opts = p.coordinator.opts) (hstore : q'.store = q.store)
    (hrunning : q.running = t.process.running) (hrunning' : q'.running = p.running)
    (hscan : q.scan = t.process.scan) (hscan' : q'.scan = p.scan)
    (hconn : q'.connections[i]? = (q.connections[i]?).map (Connection.ahead w))
    (hrest : ∀ j, j ≠ i → q'.connections[j]? = p.connections[j]? ∧
      q.connections[j]? = t.process.connections[j]?)
    (hwork : ∀ wk, w = some wk → q.Reading i ∧ wk.OnCourse) :
    Follows ⟨q, t.setWork i w⟩ q' where
  opts := by rw [hopts, hopts', h.opts]
  store := hstore
  running := by rw [hrunning, hrunning', h.running]
  scan := by rw [hscan, hscan', h.scan]
  connections := by
    intro j
    dsimp only
    by_cases hj : j = i
    · subst hj
      rw [setWork_self]
      exact hconn
    · rw [setWork_of_ne t hj, (hrest j hj).1, (hrest j hj).2]
      exact h.connections j
  busy := by
    intro j wk hj
    dsimp only at hj ⊢
    by_cases hji : j = i
    · subst hji
      rw [setWork_self] at hj
      exact (hwork wk hj).1
    · rw [setWork_of_ne t hji] at hj
      obtain ⟨conn, hconn, hphase⟩ := h.busy j wk hj
      exact ⟨conn, (hrest j hji).2.trans hconn, hphase⟩
  course := by
    intro j wk hj
    dsimp only at hj
    by_cases hji : j = i
    · subst hji
      rw [setWork_self] at hj
      exact (hwork wk hj).2
    · rw [setWork_of_ne t hji] at hj
      exact h.course j wk hj

theorem Follows.reading (h : t.Follows p) (hreading : t.process.Reading i) : p.Reading i := by
  obtain ⟨conn, hconn, hphase⟩ := hreading
  refine ⟨conn.ahead (t.work i), ?_, ?_⟩
  · rw [h.connections i, hconn]
    rfl
  · rw [Connection.ahead_phase, hphase]

/-- A REGISTER is dispatched, and the connection bound. -/
theorem Follows.register (h : t.Follows p) {now : Timestamp} {io : FileOutcomes} {msg : Message}
    {q : Process} {wk : Work} {conn : Connection}
    (hconn : t.process.connections[i]? = some conn) (hphase : conn.phase = .reading)
    (hbehind : conn.ahead (t.work i) = conn)
    (hq : q.coordinator.opts = t.process.coordinator.opts ∧ q.running = t.process.running ∧
      q.scan = t.process.scan ∧ q.connections = t.process.connections)
    (hstore : q.store = Coordinator.perform p.store (p.coordinator.callOf now msg))
    (hcalls : wk.left.calls = false) (hmsg : wk.msg = msg) (hcourse : wk.OnCourse) :
    Follows ⟨q, t.setWork i (some wk)⟩ (p.step (.message i now io msg)) := by
  obtain ⟨hopts, hrunning, hscan, hconns⟩ := hq
  have hp : p.connections[i]? = some conn := by
    rw [h.connections i, hconn, Option.map_some, hbehind]
  have hevent : p.event (.message i now io msg) = some (.message now io msg) := by
    simp [Process.event, hp, hphase]
  have hcall : p.call (.message i now io msg) = p.coordinator.callOf now msg := by
    have hbind : p.call (.message i now io msg)
        = (p.event (.message i now io msg)).bind p.coordinator.call := rfl
    rw [hbind, hevent]
    rfl
  refine h.replace hopts (Process.advance_opts p.coordinator _) ?_ hrunning rfl hscan rfl ?_ ?_ ?_
  · rw [Process.step_store, hcall, hstore]
  · have hstep : (p.step (.message i now io msg)).connections
        = p.connections.modify i fun conn => conn.received msg := rfl
    rw [hstep, List.getElem?_modify, hp, hconns, hconn, Option.map_some,
      Connection.ahead_of_not_calls hcalls, hmsg]
    simp
  · intro j hj
    have hstep : (p.step (.message i now io msg)).connections
        = p.connections.modify i fun conn => conn.received msg := rfl
    rw [hstep, List.getElem?_modify, hconns]
    simp [hj.symm]
  · intro wk' hwk
    obtain rfl := Option.some.inj hwk
    exact ⟨⟨conn, by rw [hconns]; exact hconn, hphase⟩, hcourse⟩

/-- The beginning of a dispatch.  A REGISTER that does not decode makes no call, so
it is over for `Process`. -/
theorem Follows.dispatch (h : t.Follows p) (now : Timestamp) (io : FileOutcomes)
    (msg : Message) {conn : Connection} (hconn : t.process.connections[i]? = some conn)
    (hphase : conn.phase = .reading) (hwork : t.work i = none) :
    ∃ actions, Follows
      { t with work := t.setWork i (some (.start t.process.coordinator.opts now io msg)) }
      (p.run actions) := by
  have hbehind : conn.ahead (t.work i) = conn := by rw [hwork]; rfl
  have hcourse := Work.start_onCourse t.process.coordinator.opts now io msg
  -- nothing changes for the connection
  have hstay (hsame : conn.ahead (some (.start t.process.coordinator.opts now io msg)) = conn) :
      Follows { t with work := t.setWork i (some (.start t.process.coordinator.opts now io msg)) }
        p := by
    refine h.replace rfl rfl h.store rfl rfl rfl rfl ?_ (fun j _ => ⟨rfl, rfl⟩) ?_
    · rw [h.connections i, hconn, Option.map_some, Option.map_some, hbehind, hsame]
    · intro wk hwk
      obtain rfl := Option.some.inj hwk
      exact ⟨⟨conn, hconn, hphase⟩, hcourse⟩
  by_cases htype : msg.type = .register
  · have hcalls := Work.start_calls t.process.coordinator.opts now io htype
    cases hdecode : decodeRegistration msg.payload with
    | error err =>
      rw [hdecode] at hcalls
      refine ⟨[.message i now io msg], h.register hconn hphase hbehind ⟨rfl, rfl, rfl, rfl⟩ ?_
        hcalls rfl hcourse⟩
      simp only [Coordinator.callOf, htype, hdecode, Coordinator.perform]
      exact h.store.symm
    | ok reg =>
      rw [hdecode] at hcalls
      exact ⟨[], hstay (Connection.ahead_of_calls hcalls conn)⟩
  · exact ⟨[], hstay (Connection.ahead_of_ne htype conn)⟩

/-- A critical section of a dispatch.  The call of a REGISTER is its dispatch, for
`Process`. -/
theorem Follows.enter (h : t.Follows p) {msg : Message} {now : Timestamp} {io : FileOutcomes}
    {a : Section} {next : FleetStateStore → Sections}
    (hwork : t.work i = some ⟨msg, now, io, .access a next⟩) :
    ∃ actions, Follows
      { process := { t.process with
          coordinator := t.process.coordinator.withStore (a.apply t.process.store) }
        work := t.setWork i (some ⟨msg, now, io, next t.process.store⟩) } (p.run actions) := by
  obtain ⟨conn, hconn, hphase⟩ := h.busy i _ hwork
  have hlossless : (Script.access a next : Sections).Only Section.Lossless :=
    (h.course i _ hwork).lossless
  have hregistering : msg.type = .register → Coordinator.Registering now msg (.access a next) :=
    (h.course i _ hwork).registering
  have hrest : (next t.process.store).Only Section.Lossless := hlossless.2 t.process.store
  have hreading (q : Process) (hq : q.connections = t.process.connections) : q.Reading i :=
    ⟨conn, by rw [hq]; exact hconn, hphase⟩
  -- nothing changes for the connection
  have hstay (hcourse : Work.OnCourse ⟨msg, now, io, next t.process.store⟩)
      (hsame : conn.ahead (some ⟨msg, now, io, next t.process.store⟩)
        = conn.ahead (some ⟨msg, now, io, .access a next⟩)) {q' : Process}
      (hopts : q'.coordinator.opts = p.coordinator.opts)
      (hstore : q'.store = a.apply t.process.store) (hrunning : q'.running = p.running)
      (hscan : q'.scan = p.scan) (hconns : q'.connections = p.connections) :
      Follows
        { process := { t.process with
            coordinator := t.process.coordinator.withStore (a.apply t.process.store) }
          work := t.setWork i (some ⟨msg, now, io, next t.process.store⟩) } q' := by
    refine h.replace rfl hopts hstore rfl hrunning rfl hscan ?_
      (fun j _ => ⟨congrArg (·[j]?) hconns, rfl⟩) ?_
    · rw [hconns, h.connections i, hconn, hwork, Option.map_some, Option.map_some, hsame]
    · intro wk hwk
      obtain rfl := Option.some.inj hwk
      exact ⟨hreading _ rfl, hcourse⟩
  by_cases htype : msg.type = .register
  · rcases hregistering htype with hlooks | ⟨reg, next', hdecode, hleft, hnext⟩
    · -- the registration has been made
      have hcourse : Work.OnCourse ⟨msg, now, io, next t.process.store⟩ :=
        ⟨hrest, fun _ => Or.inl (hlooks.2 t.process.store)⟩
      have happly : a.apply t.process.store = t.process.store :=
        Section.apply_of_isLook hlooks.1 t.process.store
      have hbefore : conn.ahead (some ⟨msg, now, io, .access a next⟩) = conn.received msg :=
        Connection.ahead_of_not_calls (Sections.calls_of_only hlooks) conn
      have hafter : conn.ahead (some ⟨msg, now, io, next t.process.store⟩) = conn.received msg :=
        Connection.ahead_of_not_calls (Sections.calls_of_only (hlooks.2 t.process.store)) conn
      exact ⟨[], hstay hcourse (hafter.trans hbefore.symm) rfl (h.store.trans happly.symm)
        rfl rfl rfl⟩
    · -- the registration is made now
      obtain ⟨rfl, rfl⟩ := Script.access.inj hleft
      refine ⟨[.message i now io msg], h.register hconn hphase ?_ ⟨rfl, rfl, rfl, rfl⟩ ?_
        (Sections.calls_of_only (hnext t.process.store)) rfl
        ⟨hrest, fun _ => Or.inl (hnext t.process.store)⟩⟩
      · rw [hwork, Connection.ahead_of_calls rfl]
      · simp only [Coordinator.callOf, htype, hdecode, Coordinator.perform, h.store]
        rfl
  · have hcourse : Work.OnCourse ⟨msg, now, io, next t.process.store⟩ :=
      ⟨hrest, fun h => absurd h htype⟩
    have hsame : conn.ahead (some ⟨msg, now, io, next t.process.store⟩)
        = conn.ahead (some ⟨msg, now, io, .access a next⟩) := by
      rw [Connection.ahead_of_ne htype, Connection.ahead_of_ne htype]
    cases a with
    | look => exact ⟨[], hstay hcourse hsame rfl h.store rfl rfl rfl⟩
    | call op =>
      refine ⟨[.operate op hlossless.1], hstay hcourse hsame rfl ?_ rfl rfl rfl⟩
      rw [← h.store]
      rfl

/-- The end of a dispatch. -/
theorem Follows.answer (h : t.Follows p) {msg reply : Message} {now : Timestamp}
    {io : FileOutcomes} (hwork : t.work i = some ⟨msg, now, io, .done reply⟩) :
    Follows
      { process := { t.process with
          connections := t.process.connections.modify i fun conn => conn.received msg }
        work := t.setWork i none } p := by
  refine h.replace rfl rfl h.store rfl rfl rfl rfl ?_ ?_ (fun wk hwk => by cases hwk)
  · rw [h.connections i, hwork]
    dsimp only
    rw [List.getElem?_modify]
    cases t.process.connections[i]? with
    | none => rfl
    | some conn => simp [Connection.ahead, Sections.calls]
  · intro j hj
    dsimp only
    rw [List.getElem?_modify]
    simp [hj.symm]

/-- One turn of the threads is one action of `Process`, or none. -/
theorem Follows.step (h : t.Follows p) (turn : Turn) :
    ∃ actions, (t.step turn).Follows (p.run actions) := by
  have hstay : ∃ actions, t.Follows (p.run actions) := ⟨[], h⟩
  cases turn with
  | dispatch i now io msg =>
    cases hconn : t.process.connections[i]? with
    | none =>
      simp only [Threads.step, hconn]
      exact hstay
    | some conn =>
      cases hwork : t.work i with
      | some wk =>
        simp only [Threads.step, hconn, hwork]
        exact hstay
      | none =>
        simp only [Threads.step, hconn, hwork]
        split
        · next hphase => exact h.dispatch now io msg hconn hphase hwork
        · exact hstay
  | enter i =>
    simp only [Threads.step]
    split
    · next msg now io a next hwork => exact h.enter hwork
    · exact hstay
  | answer i =>
    simp only [Threads.step]
    split
    · next msg now io reply hwork => exact ⟨[], h.answer hwork⟩
    · exact hstay
  | other a =>
    simp only [Threads.step]
    split
    · next ha => exact ⟨[a], h.other ha⟩
    · exact hstay

end Turns

/-- However the critical sections of all dispatches and the other actions are
interleaved, `Process` has a run that leads to the same store, and to the same
connections but for those inside a dispatch. -/
theorem exists_run_follows (p : Process) (turns : List Turn) :
    ∃ actions, (run ⟨p, fun _ => none⟩ turns).Follows (p.run actions) :=
  Run.exists_run_of_matched (fun _ _ turn h => h.step turn) (follows_start p) turns

/-- In every interleaving of critical sections the store is that of a run of its calls,
so what holds of all runs of the store holds of all interleavings. -/
theorem exists_ops (opts : Options) (disk : Disk) (turns : List Turn) :
    ∃ ops, (run ⟨.create opts disk, fun _ => none⟩ turns).process.store
      = (empty opts.coordinatorId opts.initialEpoch).run ops := by
  obtain ⟨actions, hfollows⟩ := exists_run_follows (.create opts disk) turns
  obtain ⟨ops, hops⟩ := Process.exists_ops (.create opts disk) actions
  exact ⟨ops, hfollows.store.symm.trans hops⟩

end Threads

end GpuFleet
