import GpuFleet.Agent.Loop
import GpuFleet.Coordinator.Conversation

/-!
# An agent on its connection

The loop of an agent at one end of a connection, and the handler of the
coordinator at the other.  The two messages of `connect_and_register`, the
batches and the heartbeats go one way and the replies come back, as bytes.  The
bytes are cut anywhere, each side can be slow, the connection can break, and
other threads of the coordinator can do anything at any point.

The agent has three decoders on a connection, one for each read of
`connect_and_register` and one for the loop after them, and a decoder that is
given up takes with it what it has been fed.  Nothing in a reply says what it
replies to, so all depends on where a decoder starts.  `StartsAt k` says that
it starts at the reply number `k`.

What is said here is about agents whose messages fit into frames, and about
connections on which nothing gets in after a send that was cut short.

`reads_paired` says which replies the two reads find, `registered_truly` what
they mean for the record of the worker, and `serves_in_order` what the loop
after them finds.
-/

namespace GpuFleet

open Incremental FrameDecoder

/-! ## Where a decoder starts -/

theorem encodeFrames_append (as bs : List Frame) :
    encodeFrames (as ++ bs) = encodeFrames as ++ encodeFrames bs :=
  List.flatMap_append

/-- The frames of a stream are at its beginning. -/
theorem encodeFrames_begins {bytes : ByteString} {frames : List Frame}
    {last : Answer Frame ByteString} (h : Scans feed bytes frames last) :
    encodeFrames frames <+: bytes := by
  induction h with
  | waits _ => exact List.nil_prefix
  | fails _ => exact List.nil_prefix
  | @yields buf rest frame frames last hready _ ih =>
    rw [(lawful_feed.yields _ _ _ hready).1]
    exact (List.prefix_append_right_inj _).mpr ih

namespace Conversation

/-- The frames of the replies. -/
def replyFrames (handled : List (Message × Message)) : List Frame :=
  handled.map fun e => e.2.frame

/-- Of the bytes that the peer has read, `here` are those after the first `k`
replies. -/
structure StartsAt (s : Conversation) (k : Nat) (here : ByteString) : Prop where
  known : k ≤ s.handler.handled.length
  taken : s.replies.taken = encodeFrames (replyFrames (s.handler.handled.take k)) ++ here

/-- The other has dispatched more, and the peer has read `data`. -/
structure Later (s t : Conversation) (data : ByteString) : Prop where
  handled : s.handler.handled <+: t.handler.handled
  taken : t.replies.taken = s.replies.taken ++ data

variable {s t : Conversation} {k : Nat} {here data : ByteString}

theorem Later.refl (s : Conversation) : Later s s [] where
  handled := List.prefix_refl _
  taken := (List.append_nil _).symm

theorem Later.trans {u : Conversation} {more : ByteString} (h : Later s t data)
    (h' : Later t u more) : Later s u (data ++ more) where
  handled := h.handled.trans h'.handled
  taken := by rw [h'.taken, h.taken, List.append_assoc]

/-- A reply keeps its number. -/
theorem Later.getElem? {e : Message × Message} (h : Later s t data)
    (he : s.handler.handled[k]? = some e) : t.handler.handled[k]? = some e := by
  obtain ⟨more, hmore⟩ := h.handled
  rw [← hmore, List.getElem?_append_left (List.getElem?_eq_some_iff.mp he).1]
  exact he

theorem StartsAt.later (h : s.StartsAt k here) (hlater : Later s t data) :
    t.StartsAt k (here ++ data) := by
  obtain ⟨more, hmore⟩ := hlater.handled
  refine ⟨h.known.trans hlater.handled.length_le, ?_⟩
  rw [hlater.taken, h.taken, ← hmore, List.take_append_of_le_length h.known, List.append_assoc]

/-- What is read from there on is the beginning of the later replies. -/
theorem StartsAt.begins (h : s.StartsAt k here) (hsound : s.Sound) (hintact : s.Intact) :
    here <+: encodeFrames (replyFrames (s.handler.handled.drop k)) := by
  have hbegins := hsound.replies.taken_begins hintact.replies
  rw [hsound.said, hsound.said_eq, h.taken, List.map_map] at hbegins
  have hsplit : s.handler.handled.map (Message.frame ∘ Prod.snd)
      = replyFrames (s.handler.handled.take k) ++ replyFrames (s.handler.handled.drop k) := by
    rw [replyFrames, replyFrames, ← List.map_append, List.take_append_drop]
    rfl
  rw [hsplit, encodeFrames_append] at hbegins
  exact (List.prefix_append_right_inj _).mp hbegins

/-- So it is never broken, and means some of them, in order. -/
theorem StartsAt.scans (h : s.StartsAt k here) (hsound : s.Sound) (hintact : s.Intact)
    (hfits : ∀ e ∈ s.handler.handled, e.2.Carried) :
    ∃ n, Scans feed here (replyFrames ((s.handler.handled.drop k).take n)) .needMore := by
  have hall : Scans feed (encodeFrames (replyFrames (s.handler.handled.drop k)))
      (replyFrames (s.handler.handled.drop k)) .needMore := by
    apply scans_encodeFrames
    intro f hf
    obtain ⟨e, he, rfl⟩ := List.mem_map.mp hf
    exact (hfits e (List.drop_subset _ _ he)).frame_le
  obtain ⟨frames, hframes, hscans⟩ := scans_of_begins lawful_feed hall (h.begins hsound hintact)
  have htake : frames = replyFrames ((s.handler.handled.drop k).take frames.length) := by
    rw [replyFrames, List.map_take]
    exact List.prefix_iff_eq_take.mp hframes
  refine ⟨frames.length, ?_⟩
  rw [← htake]
  exact hscans

/-- A read that starts at a reply and finds a message has found this reply.  If
there is no other, it has taken all of it and no more. -/
theorem StartsAt.found (hsound : s.Sound) (hintact : s.Intact)
    (hfits : ∀ e ∈ s.handler.handled, e.2.Carried)
    {recvs : List (Result (Option ByteString))} {msg : Message}
    (h : s.StartsAt k (Await.run {} recvs).received)
    (hfound : (Await.run {} recvs).outcome = some (.ok msg)) :
    (∃ req, s.handler.handled[k]? = some (req, msg)) ∧
      (s.handler.handled.length ≤ k + 1 → s.StartsAt (k + 1) []) := by
  obtain ⟨n, hscans⟩ := h.scans hsound hintact hfits
  rw [Await.outcome_ok_iff, (drain_of_scans hscans).1] at hfound
  cases hdrop : s.handler.handled.drop k with
  | nil =>
    rw [hdrop, List.take_nil] at hfound
    cases hfound
  | cons e rest =>
    rw [hdrop] at hscans hfound
    have he : s.handler.handled[k]? = some e := by
      rw [← List.head?_drop, hdrop, List.head?_cons]
    have hmem : e ∈ s.handler.handled := List.mem_of_getElem? he
    cases n with
    | zero => cases hfound
    | succ n =>
      rw [List.take_succ_cons, replyFrames, List.map_cons,
        firstMessage_cons_ok (hfits e hmem).decode] at hfound
      obtain rfl := Option.some.inj hfound
      refine ⟨⟨e.1, he⟩, fun hlast => ?_⟩
      -- all that there is to read is this one reply
      obtain rfl : rest = [] := by
        have hlength := congrArg List.length hdrop
        rw [List.length_drop, List.length_cons] at hlength
        exact List.eq_nil_of_length_eq_zero (by omega)
      have hall := h.begins hsound hintact
      have hwhole := encodeFrames_begins hscans
      rw [hdrop] at hall
      rw [List.take_succ_cons, List.take_nil] at hwhole
      have hhere : (Await.run {} recvs).received = encodeFrames (replyFrames [e]) :=
        hall.eq_of_length_le hwhole.length_le
      have hknown : k < s.handler.handled.length := (List.getElem?_eq_some_iff.mp he).1
      refine ⟨hknown, ?_⟩
      rw [h.taken, hhere, ← encodeFrames_append, replyFrames, replyFrames, ← List.map_append,
        List.append_nil, List.take_add_one, he, Option.toList_some]
      rfl

/-- A read from the first reply on that has ended without a message, but not without
any bytes, has ended in the middle of this reply.  What is read next is the rest of it,
and what comes after it. -/
theorem StartsAt.torn (hsound : s.Sound) (hintact : s.Intact)
    (hfits : ∀ e ∈ s.handler.handled, e.2.Carried) {recvs : List (Result (Option ByteString))}
    {more : ByteString} (h : s.StartsAt 0 ((Await.run {} recvs).received ++ more))
    {why : AwaitFailure} (hended : (Await.run {} recvs).outcome = some (.error why))
    (hsome : (Await.run {} recvs).received ≠ []) :
    ∃ e rest, s.handler.handled[0]? = some e ∧ rest ≠ [] ∧
      sendMessage e.2 = (Await.run {} recvs).received ++ rest ∧
      more <+: rest ++ encodeFrames (replyFrames (s.handler.handled.drop 1)) := by
  have hbegins := h.begins hsound hintact
  obtain ⟨frames, last, hscans, hnone⟩ := Await.scans_of_failed hended
  generalize (Await.run {} recvs).received = got at hscans hbegins hsome ⊢
  rw [List.drop_zero] at hbegins
  cases hhandled : s.handler.handled with
  | nil =>
    rw [hhandled] at hbegins
    have hempty := List.append_eq_nil_iff.mp (List.prefix_nil.mp hbegins)
    exact absurd hempty.1 hsome
  | cons e later =>
    have hcarried : e.2.Carried := hfits e (by rw [hhandled]; exact List.mem_cons_self)
    have hstream : encodeFrames (replyFrames (e :: later))
        = sendMessage e.2 ++ encodeFrames (replyFrames later) := rfl
    rw [hhandled, hstream] at hbegins
    -- the whole reply would have been found
    have hshort : ¬sendMessage e.2 <+: got := by
      rintro ⟨tail, htail⟩
      obtain ⟨frames', last', htail'⟩ := exists_scans lawful_feed tail
      have hwhole : Scans feed (sendMessage e.2 ++ tail) ([e.2.frame] ++ frames') last' := by
        have hframe : ∀ f ∈ [e.2.frame], f.payload.length ≤ kMaxPayloadLength := by
          intro f hf
          rw [List.mem_singleton.mp hf]
          exact hcarried.frame_le
        have hall := scans_append hframe htail'
        rw [encodeFrames, List.flatMap_singleton] at hall
        exact hall
      rw [htail] at hwhole
      obtain ⟨rfl, -⟩ := hscans.unique hwhole
      rw [List.singleton_append, firstMessage_cons_ok hcarried.decode] at hnone
      cases hnone
    rcases List.prefix_or_prefix_of_prefix ((List.prefix_append got more).trans hbegins)
      (List.prefix_append (sendMessage e.2) _) with ⟨rest, hrest⟩ | hlong
    · refine ⟨e, rest, rfl, ?_, hrest.symm, ?_⟩
      · intro hempty
        rw [hempty, List.append_nil] at hrest
        exact hshort ⟨[], (List.append_nil _).trans hrest.symm⟩
      · rw [← hrest, List.append_assoc, List.prefix_append_right_inj] at hbegins
        exact hbegins
    · exact absurd hlong hshort

/-! ## What changes in a step -/

/-- Only the end of a dispatch adds to what was handled. -/
theorem handled_step (s : Conversation) (i : Exchange) :
    s.handler.handled <+: (s.step i).handler.handled := by
  cases (s.effect_step i).2 with
  | none hhandled _ => exact ⟨[], (List.append_nil _).trans hhandled.symm⟩
  | began _ _ _ _ hhandled _ => exact ⟨[], (List.append_nil _).trans hhandled.symm⟩
  | entered _ _ _ _ _ _ _ hhandled _ _ => exact ⟨[], (List.append_nil _).trans hhandled.symm⟩
  | ended _ _ _ _ _ hhandled _ =>
    rw [hhandled]
    exact List.prefix_append _ _

/-- A step in which the peer reads nothing. -/
theorem later_step (s : Conversation) {i : Exchange} (hi : ∀ n, i ≠ .collect n) :
    Later s (s.step i) [] where
  handled := s.handled_step i
  taken := by
    have hput : ∀ (requests : Channel UInt8) (handler : Handler) calls,
        (({ s with requests := requests } : Conversation).put handler calls).replies.taken
          = s.replies.taken := by
      intro requests handler calls
      unfold put
      dsimp only
      split
      · rfl
      · rfl
    have hown := hput s.requests
    rw [List.append_nil]
    cases i with
    | deliver now count calls =>
      simp only [step]
      split
      · rfl
      · exact hput _ _ calls
    | disconnect now clean => exact hown _ []
    | decode now io calls =>
      simp only [step, decode]
      split
      · split
        · exact hown _ calls
        · rfl
      · rfl
    | enter =>
      simp only [step, enter]
      split
      · rfl
      · rfl
    | reply calls =>
      simp only [step, reply]
      split
      · exact hown _ calls
      · rfl
    | feed calls => exact hown _ calls
    | mark => exact hown _ []
    | stop => exact hown _ []
    | collect count => exact absurd rfl (hi count)
    | _ => rfl

theorem later_collect (s : Conversation) (count : Nat) :
    Later s (s.step (.collect count)) (s.replies.front (min count kReceiveBuffer)) where
  handled := List.prefix_refl _
  taken := rfl

end Conversation

/-! ## The two ends -/

/-- What a call of `recv_some_opt` of the agent finds. -/
inductive Got
  | bytes (count : Nat)
  | nothing
  | closed
  | failed (err : Error)

/-- What `recv_some_opt` returns. -/
def Got.result (got : Got) (conv : Conversation) : Result (Option ByteString) :=
  match got with
  | .bytes count =>
    let data := conv.replies.front (min count kReceiveBuffer)
    if data.isEmpty then .ok none else .ok (some data)
  | .nothing => .ok none
  | .closed => .ok (some [])
  | .failed err => .error err

/-- What it takes off the connection. -/
def Got.taken (got : Got) (conv : Conversation) : Conversation :=
  match got with
  | .bytes count => conv.step (.collect count)
  | .nothing | .closed | .failed _ => conv

/-- The bytes that a call has found. -/
def Got.data (got : Got) (conv : Conversation) : ByteString :=
  match got with
  | .bytes count => conv.replies.front (min count kReceiveBuffer)
  | .nothing | .closed | .failed _ => []

/-- An agent and its connection. -/
structure AgentLink where
  loop : AgentLoop
  conv : Conversation

/-- A step of the agent, or of anybody else. -/
inductive LinkStep
  /-- The agent calls `recv_some_opt`, in whatever loop it is. -/
  | recv (got : Got) (found : WorkerAgent.Enumeration) (sent : Except Error Unit)
      (calls : Nat → List TcpStream.SendCall)
  | publish (backend : DeviceBackend) (clock : Nat → Timestamp)
      (calls : Nat → List TcpStream.SendCall)
  | beat (calls : Nat → List TcpStream.SendCall)
  | stop
  /-- Anything that the agent does not do itself. -/
  | world (e : Exchange)

/-- The loop is in a call of `recv_some_opt`. -/
def LoopPlace.receives : LoopPlace → Bool
  | .helloRead _ | .registerRead _ | .draining _ => true
  | .idle | .publishing | .beating | .stopped => false

/-- The worker is on record as the agent has announced it, in the epoch that the
agent works in. -/
structure FleetStateStore.HasAgent (s : FleetStateStore) (agent : WorkerAgent) : Prop where
  epoch : s.epoch = agent.lastKnownEpoch
  record : ∃ wr, s.workers[agent.opts.worker]? = some wr ∧ wr.boot = agent.opts.boot ∧
    wr.registrationGeneration = agent.regGen ∧ wr.alive = true ∧ wr.lost = false

/-- After a registration that succeeds, the worker is on record. -/
theorem FleetStateStore.record_of_registerWorker {s : FleetStateStore} {reg : Registration}
    {now : Timestamp} {id : RegistrationId} (h : (s.registerWorker reg now).result = .ok id) :
    (s.registerWorker reg now).store.epoch = reg.epoch ∧
      ∃ wr, (s.registerWorker reg now).store.workers[reg.worker]? = some wr ∧
        wr.boot = reg.workerBoot ∧ wr.registrationGeneration = reg.registrationGeneration ∧
        wr.alive = true ∧ wr.lost = false := by
  rcases s.registerWorker_cases reg now with ⟨hrefused, -⟩ | ⟨wr, hre, -, hdone⟩ | ⟨hin, hdone⟩
  · obtain ⟨⟨err, herr⟩, -⟩ := hrefused
    rw [h] at herr
    cases herr
  · rw [hdone.store]
    exact ⟨hre.epoch.symm, _, Std.ExtTreeMap.getElem?_insert_self, hre.boot, rfl, rfl, rfl⟩
  · rw [hdone.store]
    exact ⟨hin.epoch.symm, _, Std.ExtTreeMap.getElem?_insert_self, rfl, rfl, rfl, rfl⟩

/-- A REGISTER of an agent that is answered with `ok` has put its worker on record, in
one of its sections. -/
theorem Coordinator.hasAgent_of_ok {opts : Options} {now : Timestamp} {io : FileOutcomes}
    {agent : WorkerAgent} {found : WorkerAgent.Enumeration} {state : Nat → FleetStateStore}
    {points : List Nat} {reply : Message}
    (h : (dispatchSections opts now io (agent.register found)).Reaches Section.apply state points
      (.done reply)) (hok : reply.ok = true) :
    ∃ m ∈ points, (state (m + 1)).HasAgent agent := by
  change (registerSections now (agent.register found)).Reaches _ _ _ _ at h
  unfold registerSections at h
  have hrefused : ∀ reason points,
      ¬(ackSections (agent.register found) false reason).Reaches Section.apply state points
        (.done reply) := by
    intro reason points hack
    unfold ackSections at hack
    obtain ⟨n, rest, -, -, hrest⟩ := hack.of_access
    obtain ⟨-, hreply⟩ := hrest.of_done
    rw [Script.done.inj hreply] at hok
    cases hok
  cases hreg : decodeRegistration (agent.register found).payload with
  | error err =>
    rw [hreg] at h
    exact absurd h (hrefused _ _)
  | ok reg =>
    rw [hreg] at h
    obtain rfl := WorkerAgent.decode_register hreg
    obtain ⟨m, rest, rfl, heffect, hrest⟩ := h.of_access
    cases hout : ((state m).registerWorker (agent.registration found).cut now).result with
    | error err =>
      rw [hout] at hrest
      exact absurd hrest (hrefused _ _)
    | ok id =>
      obtain ⟨hepoch, hrecord⟩ := FleetStateStore.record_of_registerWorker hout
      refine ⟨m, List.mem_cons_self, ?_⟩
      rw [heffect]
      exact ⟨hepoch, hrecord⟩

/-- A HELLO is answered with the epoch that one of its sections has read. -/
theorem Coordinator.epoch_of_hello {opts : Options} {now : Timestamp} {io : FileOutcomes}
    {msg : Message} (htype : msg.type = .hello) {state : Nat → FleetStateStore} {points : List Nat}
    {reply : Message}
    (h : (dispatchSections opts now io msg).Reaches Section.apply state points (.done reply)) :
    ∃ n ∈ points, (state n).epoch = reply.epoch := by
  rw [dispatchSections, htype] at h
  obtain ⟨n, rest, rfl, -, hrest⟩ := h.of_access
  obtain ⟨-, hreply⟩ := hrest.of_done
  refine ⟨n, List.mem_cons_self, ?_⟩
  rw [Script.done.inj hreply]

/-- What a call of `recv_some_opt` is on the connection. -/
def Got.exchanges : Got → List Exchange
  | .bytes count => [.collect count]
  | .nothing | .closed | .failed _ => []

namespace AgentLink

/-- Messages that are handed to `send_all`, one after the other. -/
def spoken (msgs : List Message) (calls : Nat → List TcpStream.SendCall) : List Exchange :=
  msgs.zipIdx.map fun e => .send e.1 (calls e.2)

/-- The agent hands messages to `send_all`. -/
def say (conv : Conversation) (msgs : List Message) (calls : Nat → List TcpStream.SendCall) :
    Conversation :=
  conv.run (spoken msgs calls)

/-- An input of the loop, with what it sends on it. -/
def input (l : AgentLink) (i : LoopInput) (calls : Nat → List TcpStream.SendCall) :
    AgentLink where
  loop := l.loop.step i
  conv := say l.conv (l.loop.act i).2 calls

/-- One step of the agent or of the world. -/
def step (l : AgentLink) : LinkStep → AgentLink
  | .recv got found sent calls =>
    if !l.loop.place.receives then l
    else { l with conv := got.taken l.conv }.input (.recv (got.result l.conv) found sent) calls
  | .publish backend clock calls => l.input (.publish backend clock) calls
  | .beat calls => l.input .beat calls
  | .stop => l.input .stop fun _ => []
  | .world (.send _ _) => l
  | .world (.collect _) => l
  | .world e => { l with conv := l.conv.step e }

/-- Steps of the agent and of the world, in their order. -/
def run (l : AgentLink) (steps : List LinkStep) : AgentLink := Run.run step l steps

/-- An agent that connects. -/
def start (c : Coordinator) (a : WorkerAgent.Publisher)
    (calls : Nat → List TcpStream.SendCall) : AgentLink :=
  ({ loop := { agent := a }, conv := .start c } : AgentLink).input (.connect true (.ok ())) calls

/-- What a step is on the connection. -/
def exchanges (l : AgentLink) : LinkStep → List Exchange
  | .recv got found sent calls =>
    if !l.loop.place.receives then []
    else got.exchanges ++ spoken (l.loop.act (.recv (got.result l.conv) found sent)).2 calls
  | .publish backend clock calls => spoken (l.loop.act (.publish backend clock)).2 calls
  | .beat calls => spoken (l.loop.act .beat).2 calls
  | .stop => []
  | .world (.send _ _) => []
  | .world (.collect _) => []
  | .world e => [e]

/-- The connection of an agent, from its HELLO on. -/
def connection (c : Coordinator) (a : WorkerAgent.Publisher)
    (calls : Nat → List TcpStream.SendCall) (steps : List LinkStep) : List Exchange :=
  spoken [a.hello] calls
    ++ (Run.history step (start c a calls) steps).flatMap fun x => x.1.exchanges x.2

/-! ## What a step changes -/

theorem run_sends (conv : Conversation) (es : List (Message × Nat))
    (calls : Nat → List TcpStream.SendCall) :
    let conv' := conv.run (es.map fun e => .send e.1 (calls e.2))
    conv'.handler = conv.handler ∧ conv'.replies = conv.replies ∧
      conv'.sent = conv.sent ++ es.map Prod.fst := by
  induction es generalizing conv with
  | nil => exact ⟨rfl, rfl, (List.append_nil _).symm⟩
  | cons e es ih =>
    obtain ⟨hhandler, hreplies, hsent⟩ := ih (conv.step (.send e.1 (calls e.2)))
    refine ⟨hhandler, hreplies, hsent.trans ?_⟩
    rw [List.map_cons]
    exact List.append_assoc _ [e.1] _

/-- What the agent says changes nothing on the other side. -/
theorem later_say (conv : Conversation) (msgs : List Message)
    (calls : Nat → List TcpStream.SendCall) : conv.Later (say conv msgs calls) [] := by
  obtain ⟨hhandler, hreplies, -⟩ := run_sends conv msgs.zipIdx calls
  refine ⟨⟨[], ?_⟩, ?_⟩
  · rw [List.append_nil]
    exact congrArg Handler.handled hhandler.symm
  · rw [List.append_nil]
    exact congrArg Channel.taken hreplies

theorem sent_say (conv : Conversation) (msgs : List Message)
    (calls : Nat → List TcpStream.SendCall) : (say conv msgs calls).sent = conv.sent ++ msgs := by
  obtain ⟨-, -, hsent⟩ := run_sends conv msgs.zipIdx calls
  rw [List.zipIdx_map_fst] at hsent
  exact hsent

theorem later_taken (got : Got) (conv : Conversation) :
    conv.Later (got.taken conv) (got.data conv) := by
  cases got with
  | bytes count => exact conv.later_collect count
  | _ => exact .refl conv

theorem sent_taken (got : Got) (conv : Conversation) : (got.taken conv).sent = conv.sent := by
  cases got <;> rfl

/-- What the loop gets to see is what was taken. -/
theorem result_cases (got : Got) (conv : Conversation) :
    got.result conv = .ok (some (got.data conv)) ∧ got.data conv ≠ [] ∨
      got.data conv = [] ∧ ∀ data, got.result conv = .ok (some data) → data = [] := by
  cases got with
  | bytes count =>
    by_cases hempty : (conv.replies.front (min count kReceiveBuffer)).isEmpty
    · right
      refine ⟨List.isEmpty_iff.mp hempty, fun data hdata => ?_⟩
      simp only [Got.result, hempty, if_true] at hdata
      cases hdata
    · left
      refine ⟨?_, fun h => hempty (List.isEmpty_iff.mpr h)⟩
      simp only [Got.result, if_neg hempty]
      rfl
  | nothing =>
    refine Or.inr ⟨rfl, fun data hdata => ?_⟩
    cases hdata
  | closed =>
    refine Or.inr ⟨rfl, fun data hdata => ?_⟩
    cases hdata
    rfl
  | failed err =>
    refine Or.inr ⟨rfl, fun data hdata => ?_⟩
    cases hdata

/-- A read receives just what was taken off the connection. -/
theorem received_step (got : Got) (conv : Conversation) {a : Await} (hopen : a.outcome = none) :
    (a.step (got.result conv)).received = a.received ++ got.data conv := by
  rw [Await.step, hopen]
  rcases result_cases got conv with ⟨hresult, hdata⟩ | ⟨hdata, hresult⟩
  · rw [hresult]
    unfold Await.receive
    dsimp only
    rw [if_neg (by simpa using hdata)]
    split <;> rfl
  · rw [hdata, List.append_nil]
    cases hr : got.result conv with
    | error err => rfl
    | ok found =>
      cases found with
      | none => rfl
      | some data =>
        rw [hresult data hr]
        rfl

/-! ## The reads of the agent -/

/-- The REGISTER of an agent whose first read was `b`. -/
def Registers (a : WorkerAgent) (b : Await) (register : Message) : Prop :=
  ∃ recvs outcome found, b = Await.run {} recvs ∧ b.outcome = some outcome ∧
    register = (a.inEpoch (WorkerAgent.readOneMessage
      (outcome.mapError AwaitFailure.readFailure)).1.epoch).register found

/-- What the first read has found, and where the second one starts. -/
structure Greeted (conv : Conversation) (b : Await) (here : ByteString) : Prop where
  answered : ∀ ack, b.outcome = some (.ok ack) →
    (∃ req, conv.handler.handled[0]? = some (req, ack)) ∧ conv.StartsAt 1 here
  unanswered : (∀ ack, b.outcome ≠ some (.ok ack)) → conv.StartsAt 0 (b.received ++ here)

/-- What the two reads have found. -/
structure Paired (conv : Conversation) (b a : Await) : Prop where
  first : ∀ ack, b.outcome = some (.ok ack) → ∃ req, conv.handler.handled[0]? = some (req, ack)
  second : ∀ ack ack2, b.outcome = some (.ok ack) → a.outcome = some (.ok ack2) →
    ∃ req, conv.handler.handled[1]? = some (req, ack2)
  unanswered : (∀ ack, b.outcome ≠ some (.ok ack)) →
    ∃ more, conv.StartsAt 0 (b.received ++ (a.received ++ more))
  shifted : (∀ ack, b.outcome ≠ some (.ok ack)) → b.received = [] →
    ∀ ack2, a.outcome = some (.ok ack2) → ∃ req, conv.handler.handled[0]? = some (req, ack2)

/-- What the loop after them has found. -/
structure Served (l : AgentLink) : Prop where
  starts : l.conv.StartsAt 2 l.loop.drained
  frames : ∃ frames, Scans feed l.loop.drained frames .needMore ∧
    l.loop.drained = encodeFrames frames ++ l.loop.dec ∧
    l.loop.served = decodedMessages frames
  intact : l.loop.broken = false
  quiet : ∀ m ∈ l.conv.sent, m.type ≠ .ack

/-- The record of the loop after the reads is empty. -/
structure Fresh (s : AgentLoop) : Prop where
  drained : s.drained = []
  served : s.served = []
  broken : s.broken = false

/-- How far the agent has come on its connection. -/
inductive Stage (a : WorkerAgent.Publisher) (l : AgentLink) : Prop
  | greeting (recvs : List (Result (Option ByteString)))
      (hplace : l.loop.place = .helloRead (Await.run {} recvs))
      (hopen : (Await.run {} recvs).outcome = none) (hhello : l.loop.hello = none)
      (hregister : l.loop.register = none) (hfresh : Fresh l.loop) (hagent : l.loop.agent = a)
      (hsent : l.conv.sent = [a.hello]) (hstarts : l.conv.StartsAt 0 (Await.run {} recvs).received)
  | registering (b : Await) (recvs : List (Result (Option ByteString))) (register : Message)
      (hplace : l.loop.place = .registerRead (Await.run {} recvs))
      (hopen : (Await.run {} recvs).outcome = none) (hhello : l.loop.hello = some b)
      (hregister : l.loop.register = none) (hfresh : Fresh l.loop)
      (hregisters : Registers a.toWorkerAgent b register)
      (hsent : l.conv.sent = [a.hello, register])
      (hgreeted : Greeted l.conv b (Await.run {} recvs).received)
  | serving (b c : Await) (register : Message) (rest : List Message)
      (hplace : ∀ d, l.loop.place ≠ .helloRead d ∧ l.loop.place ≠ .registerRead d)
      (hhello : l.loop.hello = some b) (hregister : l.loop.register = some c)
      (hregisters : Registers a.toWorkerAgent b register)
      (hsent : l.conv.sent = a.hello :: register :: rest) (hpaired : Paired l.conv b c)
      (hserved : ∀ ack ack2, b.outcome = some (.ok ack) → c.outcome = some (.ok ack2) → l.Served)

variable {a : WorkerAgent.Publisher} {l : AgentLink}

theorem Greeted.later {conv conv' : Conversation} {b : Await} {here data : ByteString}
    (h : Greeted conv b here) (hlater : conv.Later conv' data) :
    Greeted conv' b (here ++ data) where
  answered := by
    intro ack hack
    obtain ⟨⟨req, hreq⟩, hstarts⟩ := h.answered ack hack
    exact ⟨⟨req, hlater.getElem? hreq⟩, hstarts.later hlater⟩
  unanswered := by
    intro hnone
    rw [← List.append_assoc]
    exact (h.unanswered hnone).later hlater

theorem Paired.later {conv conv' : Conversation} {b c : Await} {data : ByteString}
    (h : Paired conv b c) (hlater : conv.Later conv' data) : Paired conv' b c where
  first := by
    intro ack hack
    obtain ⟨req, hreq⟩ := h.first ack hack
    exact ⟨req, hlater.getElem? hreq⟩
  second := by
    intro ack ack2 hack hack2
    obtain ⟨req, hreq⟩ := h.second ack ack2 hack hack2
    exact ⟨req, hlater.getElem? hreq⟩
  unanswered := by
    intro hnone
    obtain ⟨more, hstarts⟩ := h.unanswered hnone
    refine ⟨more ++ data, ?_⟩
    have hlonger := hstarts.later hlater
    rwa [List.append_assoc, List.append_assoc] at hlonger
  shifted := by
    intro hnone hempty ack2 hack2
    obtain ⟨req, hreq⟩ := h.shifted hnone hempty ack2 hack2
    exact ⟨req, hlater.getElem? hreq⟩

/-- No more is handled than was sent. -/
theorem handled_le_sent {conv : Conversation} (hsound : conv.Sound) :
    conv.handler.handled.length ≤ conv.sent.length := by
  have hlength := hsound.inOrder.length_le
  rwa [List.length_map] at hlength

theorem sound_taken {conv : Conversation} (h : conv.Sound) (hintact : conv.Intact) (got : Got) :
    (got.taken conv).Sound := by
  cases got with
  | bytes count =>
    show (conv.step (.collect count)).Sound
    apply h.step _ hintact.requests
    intro msg calls he
    cases he
  | _ => exact h

theorem intact_taken {conv : Conversation} (h : conv.Intact) (got : Got) :
    (got.taken conv).Intact := by
  cases got <;> exact ⟨h.requests, h.replies⟩

theorem handled_taken (got : Got) (conv : Conversation) :
    (got.taken conv).handler.handled = conv.handler.handled := by
  cases got <;> rfl

theorem run_recv (recvs : List (Result (Option ByteString))) (r : Result (Option ByteString)) :
    (Await.run {} recvs).step r = Await.run {} (recvs ++ [r]) := by
  rw [Await.run, Await.run, Run.run_concat]

/-- The step in which the agent calls `recv_some_opt`. -/
theorem step_recv (hreceives : l.loop.place.receives = true) (got : Got)
    (found : WorkerAgent.Enumeration) (sent : Except Error Unit)
    (calls : Nat → List TcpStream.SendCall) :
    l.step (.recv got found sent calls)
      = { loop := l.loop.step (.recv (got.result l.conv) found sent)
          conv := say (got.taken l.conv)
            (l.loop.act (.recv (got.result l.conv) found sent)).2 calls } := by
  rw [step, hreceives]
  rfl

/-- The first read goes on, or it ends and the REGISTER is sent. -/
theorem Stage.recv_hello (hsound : l.conv.Sound) (hintact : l.conv.Intact)
    (hfits : ∀ e ∈ l.conv.handler.handled, e.2.Carried)
    {recvs : List (Result (Option ByteString))}
    (hplace : l.loop.place = .helloRead (Await.run {} recvs))
    (hopen : (Await.run {} recvs).outcome = none) (hhello : l.loop.hello = none)
    (hregister : l.loop.register = none) (hfresh : Fresh l.loop) (hagent : l.loop.agent = a)
    (hsent : l.conv.sent = [a.hello]) (hstarts : l.conv.StartsAt 0 (Await.run {} recvs).received)
    (got : Got) (found : WorkerAgent.Enumeration) (sent : Except Error Unit)
    (calls : Nat → List TcpStream.SendCall) : (l.step (.recv got found sent calls)).Stage a := by
  have hreceived := received_step got l.conv hopen
  have hrun := run_recv recvs (got.result l.conv)
  rw [step_recv (by rw [hplace]; rfl)]
  have hnow := hstarts.later (later_taken got l.conv)
  rw [← hreceived] at hnow
  cases hended : ((Await.run {} recvs).step (got.result l.conv)).outcome with
  | none =>
    have hact : l.loop.act (.recv (got.result l.conv) found sent)
        = ({ l.loop with place := .helloRead ((Await.run {} recvs).step (got.result l.conv)) },
          []) := by
      simp only [AgentLoop.act, hplace, hended]
    rw [AgentLoop.step, hact]
    rw [hrun] at hended hnow ⊢
    refine .greeting (recvs ++ [got.result l.conv]) rfl hended hhello hregister ?_ hagent ?_ hnow
    · exact ⟨hfresh.drained, hfresh.served, hfresh.broken⟩
    · exact (sent_taken got l.conv).trans hsent
  | some outcome =>
    obtain ⟨agent, hregistering, hgreeted⟩ := AgentLoop.greeted_eq
      { l.loop with hello := some ((Await.run {} recvs).step (got.result l.conv)) } outcome found
      sent
    have hact : l.loop.act (.recv (got.result l.conv) found sent)
        = ({ l.loop with
            hello := some ((Await.run {} recvs).step (got.result l.conv))
            agent := { l.loop.agent with toWorkerAgent := agent }
            place := .registerRead {} }, [agent.register found]) := by
      simp only [AgentLoop.act, hplace, hended]
      exact hgreeted
    rw [AgentLoop.step, hact]
    have hregisters : Registers a.toWorkerAgent ((Await.run {} recvs).step (got.result l.conv))
        (agent.register found) := by
      refine ⟨_, outcome, found, hrun, hended, ?_⟩
      rw [hregistering]
      dsimp only
      rw [hagent]
    have hlater := later_say (got.taken l.conv) [agent.register found] calls
    refine .registering _ [] (agent.register found) rfl rfl rfl hregister ?_ hregisters ?_ ?_
    · exact ⟨hfresh.drained, hfresh.served, hfresh.broken⟩
    · show (say (got.taken l.conv) [agent.register found] calls).sent = _
      rw [sent_say, sent_taken, hsent]
      rfl
    · refine ⟨?_, ?_⟩
      · intro ack hack
        rw [hrun] at hack hnow
        obtain ⟨⟨req, hreq⟩, hnext⟩ := hnow.found (sound_taken hsound hintact got)
          (intact_taken hintact got) (by rwa [handled_taken]) hack
        refine ⟨⟨req, hlater.getElem? hreq⟩, (hnext ?_).later hlater⟩
        have hle := handled_le_sent (sound_taken hsound hintact got)
        rw [sent_taken, hsent] at hle
        exact hle
      · intro _
        exact hnow.later hlater

/-- The second read goes on, or it ends and the loop after it begins. -/
theorem Stage.recv_register (hsound : l.conv.Sound) (hintact : l.conv.Intact)
    (hfits : ∀ e ∈ l.conv.handler.handled, e.2.Carried) {b : Await}
    {recvs : List (Result (Option ByteString))} {register : Message}
    (hplace : l.loop.place = .registerRead (Await.run {} recvs))
    (hopen : (Await.run {} recvs).outcome = none) (hhello : l.loop.hello = some b)
    (hregister : l.loop.register = none) (hfresh : Fresh l.loop)
    (hregisters : Registers a.toWorkerAgent b register) (hsent : l.conv.sent = [a.hello, register])
    (hgreeted : Greeted l.conv b (Await.run {} recvs).received)
    (got : Got) (found : WorkerAgent.Enumeration) (sent : Except Error Unit)
    (calls : Nat → List TcpStream.SendCall) : (l.step (.recv got found sent calls)).Stage a := by
  have hreceived := received_step got l.conv hopen
  have hrun := run_recv recvs (got.result l.conv)
  rw [step_recv (by rw [hplace]; rfl)]
  have hnow := hgreeted.later (later_taken got l.conv)
  rw [← hreceived] at hnow
  have hsent' : (got.taken l.conv).sent = [a.hello, register] :=
    (sent_taken got l.conv).trans hsent
  have hsound' := sound_taken hsound hintact got
  have hintact' := intact_taken hintact got
  have hfits' : ∀ e ∈ (got.taken l.conv).handler.handled, e.2.Carried := by
    rwa [handled_taken]
  cases hended : ((Await.run {} recvs).step (got.result l.conv)).outcome with
  | none =>
    have hact : l.loop.act (.recv (got.result l.conv) found sent)
        = ({ l.loop with place := .registerRead ((Await.run {} recvs).step (got.result l.conv)) },
          []) := by
      simp only [AgentLoop.act, hplace, hended]
    rw [AgentLoop.step, hact]
    rw [hrun] at hended hnow ⊢
    refine .registering b (recvs ++ [got.result l.conv]) register rfl hended hhello hregister ?_
      hregisters hsent' hnow
    exact ⟨hfresh.drained, hfresh.served, hfresh.broken⟩
  | some outcome =>
    obtain ⟨gen, hregistered⟩ := AgentLoop.registered_eq
      { l.loop with register := some ((Await.run {} recvs).step (got.result l.conv)) } outcome
    have hact : l.loop.act (.recv (got.result l.conv) found sent)
        = ({ l.loop with
            register := some ((Await.run {} recvs).step (got.result l.conv))
            agent := { l.loop.agent with regGen := gen }
            place := .publishing
            dec := [] }, []) := by
      simp only [AgentLoop.act, hplace, hended]
      exact congrArg (fun s => (s, ([] : List Message))) hregistered
    rw [AgentLoop.step, hact]
    rw [hrun] at hnow ⊢
    have hlength := handled_le_sent hsound'
    rw [hsent'] at hlength
    refine .serving b _ register [] (fun d => ⟨LoopPlace.noConfusion, LoopPlace.noConfusion⟩)
      hhello rfl hregisters hsent' ⟨?_, ?_, ?_, ?_⟩ ?_
    · intro ack hack
      exact (hnow.answered ack hack).1
    · intro ack ack2 hack hack2
      exact ((hnow.answered ack hack).2.found hsound' hintact' hfits' hack2).1
    · intro hnone
      refine ⟨[], ?_⟩
      rw [List.append_nil]
      exact hnow.unanswered hnone
    · intro hnone hempty ack2 hack2
      have hstarts := hnow.unanswered hnone
      rw [hempty, List.nil_append] at hstarts
      exact (hstarts.found hsound' hintact' hfits' hack2).1
    · intro ack ack2 hack hack2
      refine ⟨?_, ?_, hfresh.broken, ?_⟩
      · show (got.taken l.conv).StartsAt 2 l.loop.drained
        rw [hfresh.drained]
        exact ((hnow.answered ack hack).2.found hsound' hintact' hfits' hack2).2 hlength
      · show ∃ frames, Scans feed l.loop.drained frames .needMore ∧
          l.loop.drained = encodeFrames frames ++ [] ∧ l.loop.served = decodedMessages frames
        rw [hfresh.drained, hfresh.served]
        exact ⟨[], .waits rfl, rfl, rfl⟩
      · show ∀ m ∈ (got.taken l.conv).sent, m.type ≠ .ack
        rw [hsent']
        obtain ⟨-, outcome', found', -, -, rfl⟩ := hregisters
        intro m hm
        rcases List.mem_cons.mp hm with rfl | hm
        · exact MessageType.noConfusion
        · rw [List.mem_singleton.mp hm]
          exact MessageType.noConfusion

/-- The messages of replies that can be received. -/
theorem decodedMessages_replyFrames {handled : List (Message × Message)}
    (hfits : ∀ e ∈ handled, e.2.Carried) :
    decodedMessages (Conversation.replyFrames handled) = handled.map Prod.snd := by
  induction handled with
  | nil => rfl
  | cons e rest ih =>
    have hrest := ih fun x hx => hfits x (List.mem_cons_of_mem e hx)
    rw [Conversation.replyFrames, decodedMessages] at hrest ⊢
    simp only [List.map_cons, List.filterMap_cons, (hfits e List.mem_cons_self).decode,
      Except.toOption]
    exact congrArg (e.2 :: ·) hrest

/-- No reply of a coordinator is answered. -/
theorem handleAdmin_of_answers {agent : WorkerAgent} {reply msg : Message}
    (h : reply.Answers msg) : agent.handleAdmin reply = none := by
  have htype := h.type
  simp only [replyTypes, List.mem_cons, List.not_mem_nil, or_false] at htype
  unfold WorkerAgent.handleAdmin
  rw [if_pos htype]

/-- What the loop that drains the connection does, if its decoder has started
at the third reply. -/
theorem Served.recv (hsound : l.conv.Sound) (hfits : ∀ e ∈ l.conv.handler.handled, e.2.Carried)
    (h : l.Served) {data : ByteString} {conv' : Conversation} (hlater : l.conv.Later conv' data)
    (hsound' : conv'.Sound) (hintact' : conv'.Intact)
    (hhandled : conv'.handler.handled = l.conv.handler.handled) :
    ∃ frames, Scans feed (l.loop.drained ++ data) frames .needMore ∧
      let pulled := WorkerAgent.pull ((l.loop.dec ++ data).length + 1) l.loop.dec data
      l.loop.drained ++ data = encodeFrames frames ++ pulled.dec ∧
      l.loop.served ++ pulled.messages = decodedMessages frames ∧ pulled.last = .needMore ∧
      pulled.messages.filterMap l.loop.agent.handleAdmin = [] := by
  obtain ⟨frames, hscans, hbytes, hserved⟩ := h.frames
  obtain ⟨more, last, hmore⟩ := exists_scans lawful_feed (l.loop.dec ++ data)
  have hall := scans_append (payload_le_of_scans hscans) hmore
  rw [← List.append_assoc, ← hbytes] at hall
  obtain ⟨n, hreplies⟩ := (h.starts.later hlater).scans hsound' hintact' (by rwa [hhandled])
  obtain ⟨hframes, rfl⟩ := hall.unique hreplies
  obtain ⟨hmessages, hlast, hdec⟩ := pull_of_scans hmore (Nat.lt_succ_self _) rfl
  refine ⟨frames ++ more, hall, ?_, ?_, hlast, ?_⟩
  · rw [encodeFrames_append, List.append_assoc, ← hdec rfl, ← List.append_assoc, ← hbytes]
  · rw [hserved, hmessages, decodedMessages, decodedMessages, decodedMessages,
      List.filterMap_append]
  · -- all that it decodes are replies
    rw [List.filterMap_eq_nil_iff]
    intro m hm
    rw [hmessages] at hm
    have hin : m ∈ decodedMessages (frames ++ more) := by
      rw [decodedMessages, List.filterMap_append]
      exact List.mem_append_right _ hm
    rw [hframes, hhandled, decodedMessages_replyFrames fun e he =>
      hfits e (List.drop_subset _ _ (List.take_subset _ _ he))] at hin
    obtain ⟨e, he, rfl⟩ := List.mem_map.mp hin
    have hmem := List.drop_subset _ _ (List.take_subset _ _ he)
    exact handleAdmin_of_answers (hsound.answered e hmem).answers

/-! ## The loop after the reads -/

/-- The loop has received nothing and is not in one of the reads. -/
structure Kept (s s' : AgentLoop) : Prop where
  hello : s'.hello = s.hello
  register : s'.register = s.register
  drained : s'.drained = s.drained
  dec : s'.dec = s.dec
  served : s'.served = s.served
  broken : s'.broken = s.broken
  place : ∀ d, s'.place ≠ .helloRead d ∧ s'.place ≠ .registerRead d

theorem kept_leave (s : AgentLoop) : Kept s s.leave := by
  refine ⟨rfl, rfl, rfl, rfl, rfl, rfl, fun d => ⟨AgentLoop.place_leave s d, ?_⟩⟩
  unfold AgentLoop.leave
  dsimp only
  split
  · exact LoopPlace.noConfusion
  · exact LoopPlace.noConfusion

theorem Served.keep (h : l.Served) {l' : AgentLink} {more : List Message}
    (hkept : Kept l.loop l'.loop) (hlater : l.conv.Later l'.conv [])
    (hsent : l'.conv.sent = l.conv.sent ++ more) (hmore : ∀ m ∈ more, m.type ≠ .ack) :
    l'.Served where
  starts := by
    have hstarts := h.starts.later hlater
    rw [List.append_nil] at hstarts
    rw [hkept.drained]
    exact hstarts
  frames := by
    rw [hkept.drained, hkept.dec, hkept.served]
    exact h.frames
  intact := hkept.broken.trans h.intact
  quiet := by
    rw [hsent]
    intro m hm
    rcases List.mem_append.mp hm with hm | hm
    · exact h.quiet m hm
    · exact hmore m hm

/-- Without data, `drain` sends nothing and records nothing. -/
theorem drain_nothing (s : AgentLoop) (i : Nat) {r : Result (Option ByteString)}
    (hr : ∀ data, r = .ok (some data) → data = []) :
    (s.drain i r).2 = [] ∧ Kept s (s.drain i r).1 := by
  cases r with
  | error err => exact ⟨rfl, kept_leave s⟩
  | ok got =>
    cases got with
    | none =>
      refine ⟨rfl, rfl, rfl, rfl, rfl, rfl, rfl, fun d => ⟨?_, ?_⟩⟩
      · exact LoopPlace.noConfusion
      · exact LoopPlace.noConfusion
    | some data =>
      rw [hr data rfl]
      exact ⟨rfl, kept_leave s⟩

theorem place_drain (s : AgentLoop) (i : Nat) (data : ByteString) (d : Await) :
    (s.drain i (.ok (some data))).1.place ≠ .helloRead d ∧
      (s.drain i (.ok (some data))).1.place ≠ .registerRead d := by
  unfold AgentLoop.drain
  dsimp only
  split
  · exact (kept_leave s).place d
  · split
    · exact (kept_leave _).place d
    · dsimp only
      split
      · exact ⟨LoopPlace.noConfusion, LoopPlace.noConfusion⟩
      · exact ⟨LoopPlace.noConfusion, LoopPlace.noConfusion⟩

theorem hello_drain (s : AgentLoop) (i : Nat) (data : ByteString) :
    (s.drain i (.ok (some data))).1.hello = s.hello ∧
      (s.drain i (.ok (some data))).1.register = s.register := by
  unfold AgentLoop.drain
  dsimp only
  split
  · exact ⟨rfl, rfl⟩
  · split
    · exact ⟨rfl, rfl⟩
    · exact ⟨rfl, rfl⟩

/-- A step in the loop after the reads in which nothing is received. -/
theorem Stage.keep {b c : Await} {register : Message} {rest more : List Message}
    (hhello : l.loop.hello = some b) (hregister : l.loop.register = some c)
    (hregisters : Registers a.toWorkerAgent b register)
    (hsent : l.conv.sent = a.hello :: register :: rest) (hpaired : Paired l.conv b c)
    (hserved : ∀ ack ack2, b.outcome = some (.ok ack) → c.outcome = some (.ok ack2) → l.Served)
    {l' : AgentLink} (hkept : Kept l.loop l'.loop) (hlater : l.conv.Later l'.conv [])
    (hsent' : l'.conv.sent = l.conv.sent ++ more) (hmore : ∀ m ∈ more, m.type ≠ .ack) :
    l'.Stage a := by
  refine .serving b c register (rest ++ more) hkept.place (hkept.hello.trans hhello)
    (hkept.register.trans hregister) hregisters ?_ (hpaired.later hlater) ?_
  · rw [hsent', hsent]
    rfl
  · intro ack ack2 hack hack2
    exact (hserved ack ack2 hack hack2).keep hkept hlater hsent' hmore

/-- A call of the loop that drains the connection. -/
theorem Stage.recv_drain (hsound : l.conv.Sound) (hintact : l.conv.Intact)
    (hfits : ∀ e ∈ l.conv.handler.handled, e.2.Carried) {b c : Await} {register : Message}
    {rest : List Message} {i : Nat} (hplace : l.loop.place = .draining i)
    (hhello : l.loop.hello = some b) (hregister : l.loop.register = some c)
    (hregisters : Registers a.toWorkerAgent b register)
    (hsent : l.conv.sent = a.hello :: register :: rest) (hpaired : Paired l.conv b c)
    (hserved : ∀ ack ack2, b.outcome = some (.ok ack) → c.outcome = some (.ok ack2) → l.Served)
    (got : Got) (found : WorkerAgent.Enumeration) (sent : Except Error Unit)
    (calls : Nat → List TcpStream.SendCall) : (l.step (.recv got found sent calls)).Stage a := by
  have hact : l.loop.act (.recv (got.result l.conv) found sent)
      = l.loop.drain i (got.result l.conv) := by
    simp only [AgentLoop.act, hplace]
  rw [step_recv (by rw [hplace]; rfl), AgentLoop.step, hact]
  rcases result_cases got l.conv with ⟨hresult, hdata⟩ | ⟨hdata, hresult⟩
  · rw [hresult]
    have hlater := (later_taken got l.conv).trans
      (later_say (got.taken l.conv) (l.loop.drain i (.ok (some (got.data l.conv)))).2 calls)
    rw [List.append_nil] at hlater
    refine .serving b c register
      (rest ++ (l.loop.drain i (.ok (some (got.data l.conv)))).2)
      (place_drain l.loop i (got.data l.conv))
      ((hello_drain l.loop i (got.data l.conv)).1.trans hhello)
      ((hello_drain l.loop i (got.data l.conv)).2.trans hregister) hregisters ?_
      (hpaired.later hlater) ?_
    · show (say _ _ _).sent = _
      rw [sent_say, sent_taken, hsent]
      rfl
    · intro ack ack2 hack hack2
      have hthird := hserved ack ack2 hack hack2
      obtain ⟨frames, hscans, hbytes, hmessages, hlast, hacks⟩ := hthird.recv hsound hfits
        (later_taken got l.conv) (sound_taken hsound hintact got) (intact_taken hintact got)
        (handled_taken got l.conv)
      have hdrain : l.loop.drain i (.ok (some (got.data l.conv)))
          = ({ l.loop with
              dec := (WorkerAgent.pull ((l.loop.dec ++ got.data l.conv).length + 1) l.loop.dec
                (got.data l.conv)).dec
              drained := l.loop.drained ++ got.data l.conv
              served := l.loop.served ++ (WorkerAgent.pull
                ((l.loop.dec ++ got.data l.conv).length + 1) l.loop.dec (got.data l.conv)).messages
              place := if i + 1 < kDrainAttempts then .draining (i + 1) else .beating }, []) := by
        unfold AgentLoop.drain
        dsimp only
        rw [if_neg (by simpa using hdata), hlast, hacks]
      rw [hdrain] at hlater ⊢
      refine ⟨?_, ⟨frames, hscans, hbytes, hmessages⟩, hthird.intact, ?_⟩
      · exact hthird.starts.later hlater
      · show ∀ m ∈ (say (got.taken l.conv) [] calls).sent, m.type ≠ .ack
        rw [sent_say, sent_taken, List.append_nil]
        exact hthird.quiet
  · obtain ⟨hnone, hkept⟩ := drain_nothing l.loop i hresult
    have hlater := (later_taken got l.conv).trans (later_say (got.taken l.conv) [] calls)
    rw [hdata] at hlater
    rw [hnone]
    refine .keep hhello hregister hregisters hsent hpaired hserved ?_ hlater ?_
      (List.forall_mem_nil _)
    · exact ⟨hkept.hello, hkept.register, hkept.drained, hkept.dec, hkept.served, hkept.broken,
        hkept.place⟩
    · show (say (got.taken l.conv) [] calls).sent = _
      rw [sent_say, sent_taken]

/-! ## The stages of a connection -/

/-- Nothing happens to the loop that its stage depends on. -/
structure Untouched (s s' : AgentLoop) : Prop where
  place : s'.place = s.place
  agent : s'.agent = s.agent
  hello : s'.hello = s.hello
  register : s'.register = s.register
  drained : s'.drained = s.drained
  dec : s'.dec = s.dec
  served : s'.served = s.served
  broken : s'.broken = s.broken

theorem Stage.later (h : l.Stage a) {l' : AgentLink} (hloop : Untouched l.loop l'.loop)
    (hlater : l.conv.Later l'.conv []) (hsent' : l'.conv.sent = l.conv.sent) : l'.Stage a := by
  cases h with
  | greeting recvs hplace hopen hhello hregister hfresh hagent hsent hstarts =>
    have hstarts' := hstarts.later hlater
    rw [List.append_nil] at hstarts'
    exact .greeting recvs (hloop.place.trans hplace) hopen (hloop.hello.trans hhello)
      (hloop.register.trans hregister)
      ⟨hloop.drained.trans hfresh.drained, hloop.served.trans hfresh.served,
        hloop.broken.trans hfresh.broken⟩
      (hloop.agent.trans hagent) (hsent'.trans hsent) hstarts'
  | registering b recvs register hplace hopen hhello hregister hfresh hregisters hsent hgreeted =>
    have hgreeted' := hgreeted.later hlater
    rw [List.append_nil] at hgreeted'
    exact .registering b recvs register (hloop.place.trans hplace) hopen (hloop.hello.trans hhello)
      (hloop.register.trans hregister)
      ⟨hloop.drained.trans hfresh.drained, hloop.served.trans hfresh.served,
        hloop.broken.trans hfresh.broken⟩
      hregisters (hsent'.trans hsent) hgreeted'
  | serving b c register rest hplace hhello hregister hregisters hsent hpaired hserved =>
    refine .keep hhello hregister hregisters hsent hpaired hserved ?_ hlater ?_
      (List.forall_mem_nil _)
    · refine ⟨hloop.hello, hloop.register, hloop.drained, hloop.dec, hloop.served, hloop.broken, ?_⟩
      rw [hloop.place]
      exact hplace
    · rw [hsent', List.append_nil]

/-- An input for which the loop does not wait. -/
theorem Stage.unchanged (h : l.Stage a) {i : LoopInput} {s : AgentLoop}
    (hact : l.loop.act i = (s, [])) (hloop : Untouched l.loop s)
    (calls : Nat → List TcpStream.SendCall) : (l.input i calls).Stage a := by
  rw [input, AgentLoop.step, hact]
  refine h.later ?_ (later_say l.conv [] calls) ?_
  · exact ⟨hloop.place, hloop.agent, hloop.hello, hloop.register, hloop.drained, hloop.dec,
      hloop.served, hloop.broken⟩
  · exact (sent_say l.conv [] calls).trans (List.append_nil _)

theorem untouched_refl (s : AgentLoop) : Untouched s s :=
  ⟨rfl, rfl, rfl, rfl, rfl, rfl, rfl, rfl⟩

/-- An input in the loop after the reads. -/
theorem Stage.kept_input (h : l.Stage a)
    (hplace : ∀ d, l.loop.place ≠ .helloRead d ∧ l.loop.place ≠ .registerRead d) {i : LoopInput}
    (hkept : Kept l.loop (l.loop.act i).1) (hmore : ∀ m ∈ (l.loop.act i).2, m.type ≠ .ack)
    (calls : Nat → List TcpStream.SendCall) : (l.input i calls).Stage a := by
  cases h with
  | greeting recvs hread => exact absurd hread (hplace _).1
  | registering b recvs register hread => exact absurd hread (hplace _).2
  | serving b c register rest _ hhello hregister hregisters hsent hpaired hserved =>
    refine .keep hhello hregister hregisters hsent hpaired hserved ?_ (later_say _ _ calls)
      (sent_say _ _ calls) hmore
    exact ⟨hkept.hello, hkept.register, hkept.drained, hkept.dec, hkept.served, hkept.broken,
      hkept.place⟩

theorem Stage.publish (h : l.Stage a) (backend : DeviceBackend) (clock : Nat → Timestamp)
    (calls : Nat → List TcpStream.SendCall) : (l.input (.publish backend clock) calls).Stage a := by
  by_cases hplace : l.loop.place = .publishing
  · have hother : ∀ d, l.loop.place ≠ .helloRead d ∧ l.loop.place ≠ .registerRead d := by
      rw [hplace]
      exact fun d => ⟨LoopPlace.noConfusion, LoopPlace.noConfusion⟩
    by_cases hrunning : l.loop.running
    · have hact : l.loop.act (.publish backend clock)
          = ({ l.loop with
              agent := (l.loop.agent.publishSnapshot backend clock).1
              place := .draining 0 }, (l.loop.agent.publishSnapshot backend clock).2.toList) := by
        simp only [AgentLoop.act, hplace, hrunning, Bool.not_true, Bool.false_eq_true, if_false]
      apply h.kept_input hother
      · rw [hact]
        exact ⟨rfl, rfl, rfl, rfl, rfl, rfl,
          fun d => ⟨LoopPlace.noConfusion, LoopPlace.noConfusion⟩⟩
      · rw [hact]
        intro m hm
        unfold WorkerAgent.Publisher.publishSnapshot at hm
        dsimp only at hm
        split at hm
        · cases hm
        · rw [Option.toList_some] at hm
          rw [List.mem_singleton.mp hm]
          exact MessageType.noConfusion
    · have hact : l.loop.act (.publish backend clock) = (l.loop.leave, []) := by
        simp only [AgentLoop.act, hplace, hrunning, Bool.not_false, if_true]
      apply h.kept_input hother
      · rw [hact]
        exact kept_leave l.loop
      · rw [hact]
        exact List.forall_mem_nil _
  · apply h.unchanged _ (untouched_refl l.loop)
    unfold AgentLoop.act
    dsimp only
    split
    · next he => exact absurd he hplace
    · rfl

theorem Stage.beat (h : l.Stage a) (calls : Nat → List TcpStream.SendCall) :
    (l.input .beat calls).Stage a := by
  by_cases hplace : l.loop.place = .beating
  · have hact : l.loop.act .beat
        = ({ l.loop with place := .publishing }, [l.loop.agent.heartbeat]) := by
      simp only [AgentLoop.act, hplace]
    apply h.kept_input
    · rw [hplace]
      exact fun d => ⟨LoopPlace.noConfusion, LoopPlace.noConfusion⟩
    · rw [hact]
      exact ⟨rfl, rfl, rfl, rfl, rfl, rfl, fun d => ⟨LoopPlace.noConfusion, LoopPlace.noConfusion⟩⟩
    · rw [hact]
      intro m hm
      rw [List.mem_singleton.mp hm]
      exact MessageType.noConfusion
  · apply h.unchanged _ (untouched_refl l.loop)
    unfold AgentLoop.act
    dsimp only
    split
    · next he => exact absurd he hplace
    · rfl

theorem Stage.recv (h : l.Stage a) (hsound : l.conv.Sound) (hintact : l.conv.Intact)
    (hfits : ∀ e ∈ l.conv.handler.handled, e.2.Carried) (got : Got)
    (found : WorkerAgent.Enumeration) (sent : Except Error Unit)
    (calls : Nat → List TcpStream.SendCall) : (l.step (.recv got found sent calls)).Stage a := by
  by_cases hreceives : l.loop.place.receives = true
  · cases h with
    | greeting recvs hplace hopen hhello hregister hfresh hagent hsent hstarts =>
      exact .recv_hello hsound hintact hfits hplace hopen hhello hregister hfresh hagent hsent
        hstarts got found sent calls
    | registering b recvs register hplace hopen hhello hregister hfresh hregisters hsent hgreeted =>
      exact .recv_register hsound hintact hfits hplace hopen hhello hregister hfresh hregisters
        hsent hgreeted got found sent calls
    | serving b c register rest hplace hhello hregister hregisters hsent hpaired hserved =>
      cases hdraining : l.loop.place with
      | helloRead d => exact absurd hdraining (hplace d).1
      | registerRead d => exact absurd hdraining (hplace d).2
      | draining i =>
        exact .recv_drain hsound hintact hfits hdraining hhello hregister hregisters hsent hpaired
          hserved got found sent calls
      | _ =>
        rw [hdraining] at hreceives
        cases hreceives
  · have hsame : l.step (.recv got found sent calls) = l := by
      rw [step, Bool.eq_false_iff.mpr hreceives]
      rfl
    rw [hsame]
    exact h

theorem Stage.world (h : l.Stage a) (e : Exchange) : (l.step (.world e)).Stage a := by
  have hworld : (∀ m calls, e ≠ .send m calls) → (∀ n, e ≠ .collect n) →
      ({ l with conv := l.conv.step e } : AgentLink).Stage a := by
    intro hsend hcollect
    exact h.later (untouched_refl l.loop) (l.conv.later_step hcollect)
      (l.conv.requests_step hsend).1
  cases e with
  | send msg calls => exact h
  | collect count => exact h
  | _ =>
    apply hworld
    · intro m calls he
      cases he
    · intro n he
      cases he

theorem Stage.step (h : l.Stage a) (hsound : l.conv.Sound) (hintact : l.conv.Intact)
    (hfits : ∀ e ∈ l.conv.handler.handled, e.2.Carried) (i : LinkStep) : (l.step i).Stage a := by
  cases i with
  | recv got found sent calls => exact h.recv hsound hintact hfits got found sent calls
  | publish backend clock calls => exact h.publish backend clock calls
  | beat calls => exact h.beat calls
  | stop =>
    have hact : l.loop.act .stop = ({ l.loop with running := false }, []) := rfl
    exact h.unchanged hact ⟨rfl, rfl, rfl, rfl, rfl, rfl, rfl, rfl⟩ _
  | world e => exact h.world e

/-! ## Runs -/

theorem stage_start (c : Coordinator) (a : WorkerAgent.Publisher)
    (calls : Nat → List TcpStream.SendCall) : (start c a calls).Stage a := by
  have hact : ({ agent := a } : AgentLoop).act (.connect true (.ok ()))
      = ({ agent := a, place := .helloRead {}, connections := 1 }, [a.hello]) := by
    simp only [AgentLoop.act, AgentLoop.connect_eq]
  rw [start, input, AgentLoop.step, hact]
  refine .greeting [] rfl rfl rfl rfl ⟨rfl, rfl, rfl⟩ rfl ?_ ?_
  · exact sent_say (.start c) [a.hello] calls
  · have hstart : (Conversation.start c).StartsAt 0 [] := ⟨Nat.zero_le _, rfl⟩
    exact hstart.later (later_say (.start c) [a.hello] calls)

/-- A step is what it is on the connection. -/
theorem conv_step (l : AgentLink) (i : LinkStep) :
    (l.step i).conv = l.conv.run (l.exchanges i) := by
  cases i with
  | recv got found sent calls =>
    by_cases hreceives : l.loop.place.receives = true
    · have hexchanges : l.exchanges (.recv got found sent calls) = got.exchanges
          ++ spoken (l.loop.act (.recv (got.result l.conv) found sent)).2 calls := by
        rw [exchanges, hreceives]
        rfl
      rw [step_recv hreceives, hexchanges, Conversation.run, Run.run_append]
      cases got with
      | bytes count => rfl
      | _ => rfl
    · rw [step, exchanges, Bool.eq_false_iff.mpr hreceives]
      rfl
  | world e => cases e <;> rfl
  | _ => rfl

/-- The connection is a run of a conversation. -/
theorem conv_run (c : Coordinator) (a : WorkerAgent.Publisher)
    (calls : Nat → List TcpStream.SendCall) (steps : List LinkStep) :
    ((start c a calls).run steps).conv
      = (Conversation.start c).run (connection c a calls steps) := by
  induction steps using List.reverseRecOn with
  | nil =>
    have hact : ({ agent := a } : AgentLoop).act (.connect true (.ok ()))
        = ({ agent := a, place := .helloRead {}, connections := 1 }, [a.hello]) := by
      simp only [AgentLoop.act, AgentLoop.connect_eq]
    rw [connection, Run.history_nil, List.flatMap_nil, List.append_nil]
    show (start c a calls).conv = _
    rw [start, input, hact]
    rfl
  | append_singleton rest i ih =>
    have hstep := conv_step ((start c a calls).run rest) i
    rw [ih] at hstep
    rw [connection, Run.history_concat, List.flatMap_append, List.flatMap_singleton,
      ← List.append_assoc, ← connection, run, Run.run_concat, Conversation.run, Run.run_append]
    exact hstep

/-- What the agent sends, it sends by its loop. -/
theorem sent_step (l : AgentLink) (i : LinkStep) :
    ∃ more, (l.step i).conv.sent = l.conv.sent ++ more ∧ ∀ m ∈ more, m.type ∈ agentTypes := by
  have hinput : ∀ (l : AgentLink) (i : LoopInput) (calls : Nat → List TcpStream.SendCall),
      ∃ more, (l.input i calls).conv.sent = l.conv.sent ++ more ∧
        ∀ m ∈ more, m.type ∈ agentTypes :=
    fun l i calls => ⟨_, sent_say l.conv _ calls, fun _ => AgentLoop.type_of_act⟩
  have hsame : ∀ conv : Conversation, conv.sent = l.conv.sent →
      ∃ more, conv.sent = l.conv.sent ++ more ∧ ∀ m ∈ more, m.type ∈ agentTypes :=
    fun conv h => ⟨[], h.trans (List.append_nil _).symm, List.forall_mem_nil _⟩
  cases i with
  | recv got found sent calls =>
    by_cases hreceives : l.loop.place.receives = true
    · rw [step_recv hreceives]
      obtain ⟨more, hmore, htypes⟩ := hinput { l with conv := got.taken l.conv }
        (.recv (got.result l.conv) found sent) calls
      exact ⟨more, hmore.trans (by rw [sent_taken]), htypes⟩
    · rw [step, Bool.eq_false_iff.mpr hreceives]
      exact hsame _ rfl
  | publish backend clock calls => exact hinput l _ calls
  | beat calls => exact hinput l _ calls
  | stop => exact hinput l _ _
  | world e =>
    have hworld : (∀ m calls, e ≠ .send m calls) → ∃ more,
        (l.conv.step e).sent = l.conv.sent ++ more ∧ ∀ m ∈ more, m.type ∈ agentTypes :=
      fun hsend => hsame _ (l.conv.requests_step hsend).1
    cases e with
    | send msg calls => exact hsame _ rfl
    | collect count => exact hsame _ rfl
    | _ =>
      apply hworld
      intro m calls he
      cases he

theorem types_run (c : Coordinator) (a : WorkerAgent.Publisher)
    (calls : Nat → List TcpStream.SendCall) (steps : List LinkStep) :
    ∀ m ∈ ((start c a calls).run steps).conv.sent, m.type ∈ agentTypes := by
  induction steps using List.reverseRecOn with
  | nil =>
    intro m hm
    cases stage_start c a calls with
    | greeting _ hplace hopen hhello hregister hfresh hagent hsent =>
      change m ∈ (start c a calls).conv.sent at hm
      rw [hsent] at hm
      rw [List.mem_singleton.mp hm]
      exact List.mem_cons_self
    | registering b _ _ hplace _ hhello =>
      cases hhello
    | serving b _ _ _ hplace hhello => cases hhello
  | append_singleton rest i ih =>
    obtain ⟨more, hmore, htypes⟩ := sent_step ((start c a calls).run rest) i
    rw [run, Run.run_concat]
    intro m hm
    change m ∈ (((start c a calls).run rest).step i).conv.sent at hm
    rw [hmore] at hm
    rcases List.mem_append.mp hm with hm | hm
    · exact ih m hm
    · exact htypes m hm

/-- As long as what the agent sends fits into frames, the connection is sound,
and every reply can be received. -/
theorem sound_run {c : Coordinator} {a : WorkerAgent.Publisher}
    {calls : Nat → List TcpStream.SendCall} {steps : List LinkStep}
    (h : ∀ m ∈ ((start c a calls).run steps).conv.sent, m.Carried)
    (hintact : ((start c a calls).run steps).conv.Intact) :
    ((start c a calls).run steps).conv.Sound ∧
      ∀ e ∈ ((start c a calls).run steps).conv.handler.handled, e.2.Carried := by
  have htypes := types_run c a calls steps
  rw [conv_run] at h htypes hintact ⊢
  have hsound := Conversation.sound_run c (by rwa [Conversation.sent_run] at h) hintact.requests
  refine ⟨hsound, hsound.carried_replies ?_⟩
  intro e he hsnapshot
  obtain ⟨rest, hrest⟩ := hsound.inOrder
  have hmem : e.1 ∈ ((Conversation.start c).run (connection c a calls steps)).sent := by
    rw [← hrest]
    exact List.mem_append_left _ (List.mem_map_of_mem he)
  have htype := htypes e.1 hmem
  rw [hsnapshot] at htype
  exact absurd htype (by decide)

theorem stage_run {c : Coordinator} {a : WorkerAgent.Publisher}
    {calls : Nat → List TcpStream.SendCall} {steps : List LinkStep}
    (h : ∀ m ∈ ((start c a calls).run steps).conv.sent, m.Carried)
    (hintact : ((start c a calls).run steps).conv.Intact) :
    ((start c a calls).run steps).Stage a := by
  induction steps using List.reverseRecOn with
  | nil => exact stage_start c a calls
  | append_singleton rest i ih =>
    rw [run, Run.run_concat] at h hintact ⊢
    have hbefore : ((start c a calls).run rest).conv.Intact := by
      change (((start c a calls).run rest).step i).conv.Intact at hintact
      rw [conv_step] at hintact
      exact hintact.of_run
    obtain ⟨more, hmore, -⟩ := sent_step ((start c a calls).run rest) i
    have hrest : ∀ m ∈ ((start c a calls).run rest).conv.sent, m.Carried := by
      intro m hm
      apply h
      change m ∈ (((start c a calls).run rest).step i).conv.sent
      rw [hmore]
      exact List.mem_append_left _ hm
    obtain ⟨hsound, hfits⟩ := sound_run hrest hbefore
    exact (ih hrest hbefore).step hsound hbefore hfits i

/-- A list with a first and a second item. -/
theorem eq_cons_cons {α : Type} {items : List α} {x y : α} (hx : items[0]? = some x)
    (hy : items[1]? = some y) : ∃ rest, items = x :: y :: rest := by
  cases items with
  | nil => cases hx
  | cons x' items =>
    cases items with
    | nil => cases hy
    | cons y' rest =>
      cases hx
      cases hy
      exact ⟨rest, rfl⟩

/-! ## What the agent reads -/

section Run

variable {c : Coordinator} {a : WorkerAgent.Publisher} {calls : Nat → List TcpStream.SendCall}
  {steps : List LinkStep}

/-- A message that was dispatched is the message with its number. -/
theorem request_of_handled {conv : Conversation} (hsound : conv.Sound) {k : Nat}
    {req reply msg : Message} (hhandled : conv.handler.handled[k]? = some (req, reply))
    (hsent : conv.sent[k]? = some msg) : req = msg := by
  obtain ⟨rest, hrest⟩ := hsound.inOrder
  have hreq : (conv.handler.handled.map Prod.fst)[k]? = some req := by
    rw [List.getElem?_map, hhandled]
    rfl
  rw [← hrest, List.getElem?_append_left (List.getElem?_eq_some_iff.mp hreq).1, hreq] at hsent
  exact Option.some.inj hsent

/-- The answer to the HELLO, if the first read has found a message. -/
theorem hello_answered (hfits : ∀ m ∈ ((start c a calls).run steps).conv.sent, m.Carried)
    (hintact : ((start c a calls).run steps).conv.Intact)
    {b : Await} {ack : Message} (hb : ((start c a calls).run steps).loop.hello = some b)
    (hack : b.outcome = some (.ok ack)) :
    ((start c a calls).run steps).conv.handler.handled[0]? = some (a.hello, ack) := by
  obtain ⟨hsound, -⟩ := sound_run hfits hintact
  cases stage_run hfits hintact with
  | greeting _ _ _ hhello =>
    rw [hhello] at hb
    cases hb
  | registering b' _ register _ _ hhello _ _ _ hsent hgreeted =>
    rw [hhello] at hb
    cases hb
    obtain ⟨⟨req, hreq⟩, -⟩ := hgreeted.answered ack hack
    rw [hreq, request_of_handled hsound hreq (by rw [hsent]; rfl)]
  | serving b' _ register rest _ hhello _ _ hsent hpaired =>
    rw [hhello] at hb
    cases hb
    obtain ⟨req, hreq⟩ := hpaired.first ack hack
    rw [hreq, request_of_handled hsound hreq (by rw [hsent]; rfl)]

/-- The answer to the REGISTER, if both reads have found a message. -/
theorem register_answered (hfits : ∀ m ∈ ((start c a calls).run steps).conv.sent, m.Carried)
    (hintact : ((start c a calls).run steps).conv.Intact)
    {b d : Await} {ack ack2 : Message}
    (hb : ((start c a calls).run steps).loop.hello = some b) (hack : b.outcome = some (.ok ack))
    (hd : ((start c a calls).run steps).loop.register = some d)
    (hack2 : d.outcome = some (.ok ack2)) :
    ∃ found, ((start c a calls).run steps).conv.handler.handled[1]?
      = some ((a.inEpoch ack.epoch).register found,
          ack2) := by
  obtain ⟨hsound, -⟩ := sound_run hfits hintact
  cases stage_run hfits hintact with
  | greeting _ _ _ _ hregister =>
    rw [hregister] at hd
    cases hd
  | registering _ _ _ _ _ _ hregister =>
    rw [hregister] at hd
    cases hd
  | serving b' d' register rest _ hhello hregister hregisters hsent hpaired =>
    rw [hhello] at hb
    rw [hregister] at hd
    cases hb
    cases hd
    obtain ⟨-, outcome, found, -, houtcome, rfl⟩ := hregisters
    rw [hack] at houtcome
    cases houtcome
    obtain ⟨req, hreq⟩ := hpaired.second ack ack2 hack hack2
    refine ⟨found, ?_⟩
    rw [hreq, request_of_handled hsound hreq (by rw [hsent]; rfl)]
    rfl

/-- The answer to the HELLO, if the second read has found it. -/
theorem hello_shifted (hfits : ∀ m ∈ ((start c a calls).run steps).conv.sent, m.Carried)
    (hintact : ((start c a calls).run steps).conv.Intact)
    {b d : Await} {ack2 : Message} (hb : ((start c a calls).run steps).loop.hello = some b)
    (hnone : ∀ ack, b.outcome ≠ some (.ok ack)) (hempty : b.received = [])
    (hd : ((start c a calls).run steps).loop.register = some d)
    (hack2 : d.outcome = some (.ok ack2)) :
    ((start c a calls).run steps).conv.handler.handled[0]? = some (a.hello, ack2) := by
  obtain ⟨hsound, -⟩ := sound_run hfits hintact
  cases stage_run hfits hintact with
  | greeting _ _ _ hhello =>
    rw [hhello] at hb
    cases hb
  | registering _ _ _ _ _ _ hregister =>
    rw [hregister] at hd
    cases hd
  | serving b' d' register rest _ hhello hregister _ hsent hpaired =>
    rw [hhello] at hb
    rw [hregister] at hd
    cases hb
    cases hd
    obtain ⟨req, hreq⟩ := hpaired.shifted hnone hempty ack2 hack2
    rw [hreq, request_of_handled hsound hreq (by rw [hsent]; rfl)]

/-- Where the second read starts, if the first one has ended in the middle of the reply
to the HELLO. -/
theorem hello_torn (hfits : ∀ m ∈ ((start c a calls).run steps).conv.sent, m.Carried)
    (hintact : ((start c a calls).run steps).conv.Intact)
    {b : Await} (hb : ((start c a calls).run steps).loop.hello = some b)
    (hnone : ∀ ack, b.outcome ≠ some (.ok ack)) (hsome : b.received ≠ []) :
    ∃ ack rest, ((start c a calls).run steps).conv.handler.handled[0]? = some (a.hello, ack) ∧
      rest ≠ [] ∧ sendMessage ack = b.received ++ rest ∧
      ∀ d, ((start c a calls).run steps).loop.register = some d →
        d.received <+: rest ++ encodeFrames (Conversation.replyFrames
          (((start c a calls).run steps).conv.handler.handled.drop 1)) := by
  obtain ⟨hsound, hreplies⟩ := sound_run hfits hintact
  have hfailed : ∀ {recvs outcome}, b = Await.run {} recvs → b.outcome = some outcome →
      ∃ why, (Await.run {} recvs).outcome = some (.error why) := by
    intro recvs outcome hrun houtcome
    cases outcome with
    | error why => exact ⟨why, hrun ▸ houtcome⟩
    | ok ack => exact absurd houtcome (hnone ack)
  cases stage_run hfits hintact with
  | greeting _ _ _ hhello =>
    rw [hhello] at hb
    cases hb
  | registering b' _ register _ _ hhello hregister _ hregisters hsent hgreeted =>
    rw [hhello] at hb
    cases hb
    obtain ⟨recvs, outcome, -, hrun, houtcome, -⟩ := hregisters
    obtain ⟨why, hended⟩ := hfailed hrun houtcome
    have hstarts := hgreeted.unanswered hnone
    rw [hrun] at hstarts hsome ⊢
    obtain ⟨⟨req, ack⟩, rest, he, hrest, hsplit, -⟩ :=
      hstarts.torn hsound hintact hreplies hended hsome
    refine ⟨ack, rest, ?_, hrest, hsplit, fun d hd => ?_⟩
    · rw [he, request_of_handled hsound he (by rw [hsent]; rfl)]
    · rw [hregister] at hd
      cases hd
  | serving b' d' register _ _ hhello hregister hregisters hsent hpaired =>
    rw [hhello] at hb
    cases hb
    obtain ⟨recvs, outcome, -, hrun, houtcome, -⟩ := hregisters
    obtain ⟨why, hended⟩ := hfailed hrun houtcome
    obtain ⟨more, hstarts⟩ := hpaired.unanswered hnone
    rw [hrun] at hstarts hsome ⊢
    obtain ⟨⟨req, ack⟩, rest, he, hrest, hsplit, hnext⟩ :=
      hstarts.torn hsound hintact hreplies hended hsome
    refine ⟨ack, rest, ?_, hrest, hsplit, fun d hd => ?_⟩
    · rw [he, request_of_handled hsound he (by rw [hsent]; rfl)]
    · rw [hregister] at hd
      cases hd
      exact (List.prefix_append _ more).trans hnext

/-- What the two reads of `connect_and_register` find, in every run in which
what the agent sends fits into frames, and nothing gets in after a send that was cut
short.  If the first read finds a message, then that is the reply to the HELLO.  Then a
message that the second read finds is the reply to the REGISTER, which was sent in the
epoch of the first reply.  If the first read ended without a message, and nothing had
arrived, then what the second one finds is the reply to the HELLO.  If it ended without a
message, but something had arrived, then that is the beginning of the reply to the HELLO,
without its end, and the second read starts in the middle of this reply. -/
theorem reads_paired (c : Coordinator) (a : WorkerAgent.Publisher)
    (calls : Nat → List TcpStream.SendCall) (steps : List LinkStep)
    (hfits : ∀ m ∈ ((start c a calls).run steps).conv.sent, m.Carried)
    (hintact : ((start c a calls).run steps).conv.Intact) {b : Await}
    (hb : ((start c a calls).run steps).loop.hello = some b) :
    (∀ ack, b.outcome = some (.ok ack) →
      ((start c a calls).run steps).conv.handler.handled[0]? = some (a.hello, ack) ∧
      ∀ d ack2, ((start c a calls).run steps).loop.register = some d →
        d.outcome = some (.ok ack2) →
        ∃ found, ((start c a calls).run steps).conv.handler.handled[1]?
          = some ((a.inEpoch ack.epoch).register found, ack2)) ∧
    ((∀ ack, b.outcome ≠ some (.ok ack)) → b.received = [] →
      ∀ d ack2, ((start c a calls).run steps).loop.register = some d →
        d.outcome = some (.ok ack2) →
        ((start c a calls).run steps).conv.handler.handled[0]? = some (a.hello, ack2)) ∧
    ((∀ ack, b.outcome ≠ some (.ok ack)) → b.received ≠ [] →
      ∃ ack rest, ((start c a calls).run steps).conv.handler.handled[0]? = some (a.hello, ack) ∧
        rest ≠ [] ∧ sendMessage ack = b.received ++ rest ∧
        ∀ d, ((start c a calls).run steps).loop.register = some d →
          d.received <+: rest ++ encodeFrames (Conversation.replyFrames
            (((start c a calls).run steps).conv.handler.handled.drop 1))) := by
  refine ⟨fun ack hack => ⟨hello_answered hfits hintact hb hack, ?_⟩, ?_, ?_⟩
  · intro d ack2 hd hack2
    exact register_answered hfits hintact hb hack hd hack2
  · intro hnone hempty d ack2 hd hack2
    exact hello_shifted hfits hintact hb hnone hempty hd hack2
  · intro hnone hsome
    exact hello_torn hfits hintact hb hnone hsome

/-- What the loop after the reads finds, if both of them have found a message,
in every such run.  The messages that it hands to `handle_admin` are the replies after
the first two, in order.  No frame is ever broken, and the agent never answers: all that
it sends are the HELLO, the REGISTER, batches and heartbeats. -/
theorem serves_in_order (c : Coordinator) (a : WorkerAgent.Publisher)
    (calls : Nat → List TcpStream.SendCall) (steps : List LinkStep)
    (hfits : ∀ m ∈ ((start c a calls).run steps).conv.sent, m.Carried)
    (hintact : ((start c a calls).run steps).conv.Intact) {b d : Await}
    {ack ack2 : Message} (hb : ((start c a calls).run steps).loop.hello = some b)
    (hack : b.outcome = some (.ok ack))
    (hd : ((start c a calls).run steps).loop.register = some d)
    (hack2 : d.outcome = some (.ok ack2)) :
    ((start c a calls).run steps).loop.served
        <+: (((start c a calls).run steps).conv.handler.handled.drop 2).map Prod.snd ∧
      ((start c a calls).run steps).loop.broken = false ∧
      ∀ m ∈ ((start c a calls).run steps).conv.sent,
        m.type ∈ [MessageType.hello, .register, .deviceSnapshot, .heartbeat] := by
  obtain ⟨hsound, hreplies⟩ := sound_run hfits hintact
  cases stage_run hfits hintact with
  | greeting _ _ _ hhello =>
    rw [hhello] at hb
    cases hb
  | registering _ _ _ _ _ _ hregister =>
    rw [hregister] at hd
    cases hd
  | serving b' d' register rest _ hhello hregister _ hsent hpaired hserved =>
    rw [hhello] at hb
    rw [hregister] at hd
    cases hb
    cases hd
    have h := hserved ack ack2 hack hack2
    obtain ⟨frames, hscans, -, hmessages⟩ := h.frames
    obtain ⟨n, hstarts⟩ := h.starts.scans hsound hintact hreplies
    obtain ⟨hframes, -⟩ := hscans.unique hstarts
    refine ⟨?_, h.intact, ?_⟩
    · rw [hmessages, hframes, decodedMessages_replyFrames fun e he =>
        hreplies e (List.drop_subset _ _ (List.take_subset _ _ he)), List.map_take]
      exact List.take_prefix _ _
    · intro m hm
      have htype := types_run c a calls steps m hm
      have hack := h.quiet m hm
      simp only [agentTypes, List.mem_cons, List.not_mem_nil, or_false] at htype ⊢
      rcases htype with htype | htype | htype | htype | htype
      · exact Or.inl htype
      · exact Or.inr (Or.inl htype)
      · exact Or.inr (Or.inr (Or.inl htype))
      · exact Or.inr (Or.inr (Or.inr htype))
      · exact absurd htype hack

/-- An agent whose two reads have found a message, the second with `ok` in it,
is on record, in every such run.  The first dispatch on its connection is that of its
HELLO and the second one that of its REGISTER, with these replies.  A section of the
first one has found the epoch that the agent works in, and after a later one, of the
second, the worker was on record as the agent has announced it, in that same epoch. -/
theorem registered_truly (c : Coordinator) (a : WorkerAgent.Publisher)
    (calls : Nat → List TcpStream.SendCall) (steps : List LinkStep)
    (hfits : ∀ m ∈ ((start c a calls).run steps).conv.sent, m.Carried)
    (hintact : ((start c a calls).run steps).conv.Intact) {b d : Await}
    {ack ack2 : Message} (hb : ((start c a calls).run steps).loop.hello = some b)
    (hack : b.outcome = some (.ok ack))
    (hd : ((start c a calls).run steps).loop.register = some d)
    (hack2 : d.outcome = some (.ok ack2)) (hok : ack2.ok = true) :
    ∃ (hello register : Conversation.Service) (rest : List Conversation.Service),
      Conversation.Executed c (connection c a calls steps) (hello :: register :: rest) ∧
      hello.msg = a.hello ∧ hello.reply = ack ∧
      (∃ found, register.msg = (a.inEpoch ack.epoch).register found) ∧ register.reply = ack2 ∧
      ∃ n ∈ hello.points, ∃ m ∈ register.points, n < m ∧
        (Conversation.storeAt c (connection c a calls steps) n).epoch = ack.epoch ∧
        (Conversation.storeAt c (connection c a calls steps) (m + 1)).HasAgent
          (a.inEpoch ack.epoch) := by
  have hfirst := hello_answered hfits hintact hb hack
  obtain ⟨found, hsecond⟩ := register_answered hfits hintact hb hack hd hack2
  obtain ⟨services, hexecuted, hhandled⟩ := Conversation.executed_run c (connection c a calls steps)
  rw [conv_run] at hfirst hsecond
  rw [hhandled, List.getElem?_map] at hfirst hsecond
  obtain ⟨hello, hhello, hpair⟩ := Option.map_eq_some_iff.mp hfirst
  obtain ⟨register, hregister, hpair'⟩ := Option.map_eq_some_iff.mp hsecond
  obtain ⟨hmsg, hreply⟩ := Prod.mk.inj hpair
  obtain ⟨hmsg', hreply'⟩ := Prod.mk.inj hpair'
  obtain ⟨rest, rfl⟩ := eq_cons_cons hhello hregister
  have hsections := hexecuted.sections hello List.mem_cons_self
  have hsections' := hexecuted.sections register (by simp)
  rw [hmsg, hreply] at hsections
  rw [hmsg', hreply'] at hsections'
  have htype : a.hello.type = .hello := rfl
  obtain ⟨n, hn, hepoch⟩ := Coordinator.epoch_of_hello htype hsections
  obtain ⟨m, hm, hrecord⟩ := Coordinator.hasAgent_of_ok hsections' hok
  have horder : n < m := by
    have hordered := hexecuted.ordered
    rw [List.flatMap_cons, List.flatMap_cons, List.pairwise_append] at hordered
    exact hordered.2.2 n hn m (List.mem_append_left _ hm)
  exact ⟨hello, register, rest, hexecuted, hmsg, hreply, ⟨found, hmsg'⟩, hreply', n, hn, m, hm,
    horder, hepoch, hrecord⟩

end Run

/-! ## A sample connection -/

/-- Every send goes through at once. -/
def sampleCalls : Nat → List TcpStream.SendCall := fun _ => [.sent 500]

/-- A coordinator with an empty store. -/
def sampleCoordinator : Coordinator := .create {} fun _ => none

/-- An agent that has just been started. -/
def sampleAgent : WorkerAgent.Publisher := { opts := { boot := ⟨5⟩ } }

/-- A backend that fails. -/
def sampleBackend : DeviceBackend := ⟨.error {}, fun _ => .error {}⟩

theorem noDevices_count : ([] : List DeviceIdentity).length < 2 ^ 31 := by decide

/-- The backend finds no device. -/
def noDevices : WorkerAgent.Enumeration := ⟨[], noDevices_count⟩

/-- An agent registers, reading the first reply in two parts and waiting for the
second one, and has one heartbeat answered.  Other threads make calls in between. -/
def sampleSteps : List LinkStep :=
  [.world (.deliver 0 500 []), .world (.others (.markWorkerLost ⟨9⟩ 0)),
    .world (.decode 1 {} []), .world .enter, .world (.reply [.sent 500]), .world (.feed []),
    .recv (.bytes 60) noDevices (.ok ()) sampleCalls,
    .recv (.bytes 500) noDevices (.ok ()) sampleCalls,
    .world (.deliver 2 500 []), .world (.decode 3 {} []), .world .enter,
    .world (.others (.markWorkerLost ⟨9⟩ 0)), .world .enter, .world .enter,
    .world (.reply [.sent 500]), .world (.feed []),
    .recv .nothing noDevices (.ok ()) sampleCalls,
    .recv (.bytes 500) noDevices (.ok ()) sampleCalls,
    .publish sampleBackend (fun _ => 0) sampleCalls, .recv .nothing noDevices (.ok ()) sampleCalls,
    .beat sampleCalls, .world (.deliver 4 500 []), .world (.decode 5 {} []), .world .enter,
    .world .enter, .world (.reply [.sent 500]), .publish sampleBackend (fun _ => 0) sampleCalls,
    .recv (.bytes 500) noDevices (.ok ()) sampleCalls]

/-- The replies to the HELLO and to the REGISTER. -/
def sampleAck : Message where
  type := .ack
  epoch := ⟨1⟩
  coordinator := ⟨1⟩

/-- The reply to the REGISTER. -/
def sampleRegisterAck : Message where
  type := .registerAck
  epoch := ⟨1⟩
  workerBoot := ⟨5⟩
  worker := ⟨1⟩
  payload := [0, 0, 0, 0, 0, 0, 0, 1, 0, 0, 0, 0, 0, 0, 0, 1]

theorem sampleLink_fits :
    ∀ m ∈ ((start sampleCoordinator sampleAgent sampleCalls).run sampleSteps).conv.sent,
      m.Carried := by
  decide +kernel

theorem sampleLink_reads :
    (∃ b, ((start sampleCoordinator sampleAgent sampleCalls).run sampleSteps).loop.hello = some b ∧
        b.outcome = some (.ok sampleAck)) ∧
      ∃ d, ((start sampleCoordinator sampleAgent sampleCalls).run sampleSteps).loop.register
          = some d ∧ d.outcome = some (.ok sampleRegisterAck) := by
  have hreads : ((start sampleCoordinator sampleAgent sampleCalls).run sampleSteps).loop.hello.bind
        Await.outcome = some (.ok sampleAck) ∧
      ((start sampleCoordinator sampleAgent sampleCalls).run sampleSteps).loop.register.bind
        Await.outcome = some (.ok sampleRegisterAck) := by
    decide +kernel
  exact ⟨Option.bind_eq_some_iff.mp hreads.1, Option.bind_eq_some_iff.mp hreads.2⟩

theorem sampleLink_intact :
    ((start sampleCoordinator sampleAgent sampleCalls).run sampleSteps).conv.Intact :=
  ⟨by decide +kernel, by decide +kernel⟩

theorem sampleLink_paired :
    ((start sampleCoordinator sampleAgent sampleCalls).run sampleSteps).conv.handler.handled[0]?
        = some (sampleAgent.hello, sampleAck) ∧
      ∃ found, ((start sampleCoordinator sampleAgent sampleCalls).run
          sampleSteps).conv.handler.handled[1]?
        = some ((sampleAgent.inEpoch ⟨1⟩).register found, sampleRegisterAck) := by
  obtain ⟨b, hb, hack⟩ := sampleLink_reads.1
  obtain ⟨d, hd, hack2⟩ := sampleLink_reads.2
  obtain ⟨hfirst, hsecond⟩ :=
    (reads_paired _ _ _ _ sampleLink_fits sampleLink_intact hb).1 _ hack
  exact ⟨hfirst, hsecond d _ hd hack2⟩

theorem sampleLink_served :
    ((start sampleCoordinator sampleAgent sampleCalls).run sampleSteps).loop.served.length = 1 ∧
      ((start sampleCoordinator sampleAgent sampleCalls).run sampleSteps).loop.served
        <+: (((start sampleCoordinator sampleAgent sampleCalls).run
          sampleSteps).conv.handler.handled.drop 2).map Prod.snd := by
  obtain ⟨b, hb, hack⟩ := sampleLink_reads.1
  obtain ⟨d, hd, hack2⟩ := sampleLink_reads.2
  exact ⟨by decide +kernel,
    (serves_in_order _ _ _ _ sampleLink_fits sampleLink_intact hb hack hd hack2).1⟩

theorem sampleLink_registered :
    ∃ n, (Conversation.storeAt sampleCoordinator
      (connection sampleCoordinator sampleAgent sampleCalls sampleSteps) n).HasAgent
        (sampleAgent.inEpoch ⟨1⟩) := by
  obtain ⟨b, hb, hack⟩ := sampleLink_reads.1
  obtain ⟨d, hd, hack2⟩ := sampleLink_reads.2
  obtain ⟨hello, register, rest, -, -, -, -, -, -, -, m, -, -, -, hrecord⟩ :=
    registered_truly _ _ _ _ sampleLink_fits sampleLink_intact hb hack hd hack2 rfl
  exact ⟨m + 1, hrecord⟩

end AgentLink

end GpuFleet
