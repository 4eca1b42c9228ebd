import GpuFleet.Coordinator.Connections
import GpuFleet.Fleet.SignsOfLife
import GpuFleet.Fleet.Supersession
import GpuFleet.Protocol.PayloadRoundTrips

/-!
# Whom a loss verdict hits

`mark_worker_lost` takes a worker id, and fences whatever incarnation is on
record at the time of the call.  The two callers refer to an earlier time: a
connection to the last REGISTER it dispatched, accepted or not, and the
liveness loop to its snapshot.

`Justified` is what a verdict should rest on.  `Orderly` is the condition on
the actions of a run under which it does: a REGISTER is not refused to a
connection that it binds, no incarnation is installed while another connection
is bound to the worker, and the liveness loop does not act on a record that was
renewed after its snapshot.
-/

namespace GpuFleet

open Run

namespace Process

open FleetStateStore

/-! ## What a verdict rests on -/

/-- The action is a REGISTER on the connection `i` that the store accepts for
the incarnation `boot` of `w`. -/
def RegisteredOn (i : Nat) (w : WorkerId) (boot : WorkerBootId) (call : Process × Action) :
    Prop :=
  ∃ now io msg reg, call.2 = .message i now io msg ∧ call.1.Reading i ∧ msg.type = .register ∧
    decodeRegistration msg.payload = .ok reg ∧ reg.worker = w ∧ reg.workerBoot = boot ∧
    ¬(call.1.store.registerWorker reg now).Failed

/-- The action is a sign of life of an incarnation, at a time. -/
def Heard (w : WorkerId) (l : Life) (call : Process × Action) : Prop :=
  ∃ op, call.1.call call.2 = some op ∧ call.1.store.SignOfLife op w l

/-- The last sign of life of the incarnation `l.boot` of `w` was at the time
`l.lastHeartbeat`. -/
def LastHeard (past : List (Process × Action)) (w : WorkerId) (l : Life) : Prop :=
  Since (fun call => ∀ t, ¬Heard w ⟨l.boot, t⟩ call) (Heard w l) past

/-- If the action marks a worker lost, then it is the close of a connection on
which the incarnation on record was registered, or it is the liveness loop and
the incarnation on record was last heard more than the timeout ago. -/
def Justified (past : List (Process × Action)) (call : Process × Action) : Prop :=
  ∀ w now boot, call.1.call call.2 = some (.markWorkerLost w now) →
    call.1.store.recordedBoot w = some boot →
    (∃ i, call.2 = .markClosed i ∧ ∃ earlier ∈ past, RegisteredOn i w boot earlier) ∨
      (call.2 = .visit ∧ ∃ t, LastHeard past w ⟨boot, t⟩ ∧ now - t > call.1.timeout)

/-! ## When it does -/

/-- A REGISTER on the connection `i` that leaves every bound connection with
the incarnation on record. -/
structure OrderlyRegister (p : Process) (i : Nat) (now : Timestamp) (msg : Message) : Prop where
  /-- It is accepted for the worker that its envelope names; or the connection
  is bound to that worker already, or the worker is not on record. -/
  binds : (∃ reg, decodeRegistration msg.payload = .ok reg ∧ reg.worker = msg.worker ∧
      ¬(p.store.registerWorker reg now).Failed) ∨
    (∃ conn, p.connections[i]? = some conn ∧ conn.BoundTo msg.worker) ∨
    p.store.recordedBoot msg.worker = none
  /-- If it installs an incarnation, no other connection is bound to the
  worker. -/
  alone : ∀ reg, decodeRegistration msg.payload = .ok reg → p.store.Installs reg →
    ∀ j conn, j ≠ i → p.connections[j]? = some conn → ¬conn.BoundTo reg.worker

/-- The condition on an action and the process before it: a REGISTER binds its
connection to the incarnation it installs, and a visit finds the worker as silent as the
snapshot said. -/
def Orderly (call : Process × Action) : Prop :=
  match call.2 with
  | .message i now _ msg =>
    call.1.Reading i → msg.type = .register → OrderlyRegister call.1 i now msg
  | .visit => ∀ now w entry rest, call.1.scan = some ⟨now, (w, entry) :: rest⟩ →
      expired call.1.timeout now entry = true →
      ∀ wr : WorkerRecord, call.1.store.workers[w]? = some wr →
        now - wr.lastHeartbeat > call.1.timeout
  | .operate op _ => ∀ w, (call.1.store.step op).recordedBoot w ≠ call.1.store.recordedBoot w →
      ∀ (j : Nat) (conn : Connection), call.1.connections[j]? = some conn → ¬conn.BoundTo w
  | _ => True

/-! ## Signs of life -/

/-- The store has the time of the last sign of life of every incarnation on
record. -/
def LivesKept (past : List (Process × Action)) (p : Process) : Prop :=
  ∀ w l, p.store.lifeOf w = some l → LastHeard past w l

theorem LivesKept.step {past : List (Process × Action)} {p : Process} (h : LivesKept past p)
    (a : Action) : LivesKept (past ++ [(p, a)]) (p.step a) := by
  intro w l hl
  rw [step_store] at hl
  cases hcall : p.call a with
  | none =>
    rw [hcall] at hl
    refine (h w l hl).extend ?_
    rintro t ⟨op, hop, _⟩
    rw [hcall] at hop
    cases hop
  | some op =>
    rw [hcall] at hl
    cases step_lifeOf hl with
    | renewed hsign => exact .here ⟨op, hcall, hsign⟩
    | kept hsame hnone =>
      refine (h w l hsame).extend ?_
      rintro t ⟨op', hop', hsign⟩
      rw [hcall] at hop'
      cases hop'
      exact hnone _ hsign

/-! ## Bound connections -/

/-- The incarnation on record of a worker was registered on every connection
that is bound to the worker. -/
def BoundRegistered (past : List (Process × Action)) (p : Process) : Prop :=
  ∀ i conn w boot, p.connections[i]? = some conn → conn.BoundTo w →
    p.store.recordedBoot w = some boot → ∃ earlier ∈ past, RegisteredOn i w boot earlier

section Step

variable {past : List (Process × Action)} {p : Process} {a : Action} {i : Nat} {w : WorkerId}
  {boot : WorkerBootId}

/-- How a boot id got on record in an action: it was there, a REGISTER
installed it, or the store was called from elsewhere. -/
theorem recordedBoot_step (h : (p.step a).store.recordedBoot w = some boot) :
    p.store.recordedBoot w = some boot ∨
      (∃ j now io msg reg, a = .message j now io msg ∧ p.Reading j ∧ msg.type = .register ∧
        decodeRegistration msg.payload = .ok reg ∧ p.store.Installs reg ∧ reg.worker = w ∧
        reg.workerBoot = boot) ∨
      ∃ op hop, a = .operate op hop := by
  rw [step_store] at h
  cases hcall : p.call a with
  | none =>
    rw [hcall] at h
    exact Or.inl h
  | some op =>
    rw [hcall] at h
    rcases FleetStateStore.recordedBoot_step h with
      hsame | ⟨reg, now, rfl, hinstalls, hw, hboot⟩ | ⟨snap, wr, rfl, _, _⟩
    · exact Or.inl hsame
    · rcases call_registerWorker hcall with ⟨j, io, msg, rfl, hreading, htype, hreg⟩ | helsewhere
      · exact Or.inr (Or.inl
          ⟨j, now, io, msg, reg, rfl, hreading, htype, hreg, hinstalls, hw, hboot⟩)
      · exact Or.inr (Or.inr helsewhere)
    · exact Or.inr (Or.inr (call_restore hcall))

/-- The accepted REGISTER is the one that the connection is bound by. -/
theorem registeredOn_of_accepted {now : Timestamp} {io : FileOutcomes} {msg : Message}
    {reg : Registration} (hreading : p.Reading i) (htype : msg.type = .register)
    (hreg : decodeRegistration msg.payload = .ok reg)
    (hok : ¬(p.store.registerWorker reg now).Failed)
    (h : (p.step (.message i now io msg)).store.recordedBoot reg.worker = some boot) :
    RegisteredOn i reg.worker boot (p, .message i now io msg) := by
  refine ⟨now, io, msg, reg, rfl, hreading, htype, hreg, rfl, ?_, hok⟩
  have hcall : p.call (.message i now io msg) = some (.registerWorker reg now) := by
    obtain ⟨conn, hconn, hphase⟩ := hreading
    simp only [call, event, hconn, if_pos hphase, Option.bind_some, Coordinator.call,
      Coordinator.callOf, htype, hreg]
  rw [step_store, hcall, recordedBoot_eq_lifeOf] at h
  obtain ⟨l, hl, rfl⟩ := Option.map_eq_some_iff.mp h
  cases step_lifeOf hl with
  | renewed hsign =>
    cases hsign
    rfl
  | kept _ hnone => exact absurd (.registered reg now hok) (hnone _)

/-- A connection that was bound to the worker before. -/
theorem registered_of_bound (h : BoundRegistered past p) (horderly : Orderly (p, a))
    {conn : Connection} (hconn : p.connections[i]? = some conn) (hbound : conn.BoundTo w)
    (hboot : (p.step a).store.recordedBoot w = some boot) :
    ∃ earlier ∈ past ++ [(p, a)], RegisteredOn i w boot earlier := by
  by_cases hsame : p.store.recordedBoot w = some boot
  · obtain ⟨earlier, hmem, hregistered⟩ := h i conn w boot hconn hbound hsame
    exact ⟨earlier, List.mem_append_left _ hmem, hregistered⟩
  rcases recordedBoot_step hboot with
    hsame' | ⟨j, now, io, msg, reg, rfl, hreading, htype, hreg, hinstalls, rfl, rfl⟩ |
      ⟨op, hop, rfl⟩
  · exact absurd hsame' hsame
  · by_cases hij : i = j
    · subst hij
      have hok := ((installs_iff p.store reg now).mp hinstalls).1
      exact ⟨_, List.mem_append_right _ List.mem_cons_self,
        registeredOn_of_accepted hreading htype hreg hok hboot⟩
    · exact absurd hbound ((horderly hreading htype).alone reg hreg hinstalls i conn hij hconn)
  · refine absurd hbound (horderly w ?_ i conn hconn)
    intro heq
    exact hsame (heq.symm.trans hboot)

theorem BoundRegistered.step (h : BoundRegistered past p) (horderly : Orderly (p, a)) :
    BoundRegistered (past ++ [(p, a)]) (p.step a) := by
  intro i conn w boot hconn hbound hboot
  rcases boundTo_step hconn hbound with
    ⟨conn₀, hconn₀, hbound₀⟩ | ⟨now, io, msg, rfl, hreading, htype, rfl⟩
  · exact registered_of_bound h horderly hconn₀ hbound₀ hboot
  -- The connection was bound by this REGISTER.
  rcases (horderly hreading htype).binds with
    ⟨reg, hreg, hworker, hok⟩ | ⟨conn₀, hconn₀, hbound₀⟩ | hnone
  · rw [← hworker] at hboot ⊢
    exact ⟨_, List.mem_append_right _ List.mem_cons_self,
      registeredOn_of_accepted hreading htype hreg hok hboot⟩
  · exact registered_of_bound h horderly hconn₀ hbound₀ hboot
  · rcases recordedBoot_step hboot with
      hsame | ⟨j, now', io', msg', reg, heq, _, _, hreg, hinstalls, hworker, rfl⟩ |
        ⟨op, hop, heq⟩
    · rw [hnone] at hsame
      cases hsame
    · cases heq
      rw [← hworker] at hboot ⊢
      have hok := ((installs_iff p.store reg now).mp hinstalls).1
      exact ⟨_, List.mem_append_right _ List.mem_cons_self,
        registeredOn_of_accepted hreading htype hreg hok hboot⟩
    · cases heq

/-! ## Verdicts -/

/-- One action, from the two invariants. -/
theorem justified_of_orderly (hbound : BoundRegistered past p) (hlives : LivesKept past p)
    (horderly : Orderly (p, a)) : Justified past (p, a) := by
  intro w now boot hcall hboot
  rcases call_markWorkerLost hcall with ⟨i, conn, rfl, hconn, hw⟩ | ⟨rfl, entry, rest, hscan, hexp⟩
  · exact Or.inl ⟨i, rfl, hbound i conn w boot hconn hw hboot⟩
  · obtain ⟨wr, hwr, rfl⟩ := Option.map_eq_some_iff.mp hboot
    have hlast := hlives w wr.life (lifeOf_of_some hwr)
    exact Or.inr ⟨rfl, wr.lastHeartbeat, hlast, horderly now w entry rest hscan hexp wr hwr⟩

end Step

/-- In every run of the threads of the coordinator whose actions are orderly,
every loss verdict is about the incarnation on record. -/
theorem losses_justified (opts : Options) (disk : Disk) (actions : List Action)
    (h : Always (fun _ call => Orderly call) ((create opts disk).history actions)) :
    Always Justified ((create opts disk).history actions) := by
  have hinv := history_invariant (C := fun _ call => Orderly call)
    (I := fun past p => (BoundRegistered past p ∧ LivesKept past p) ∧ Always Justified past)
    (s := create opts disk) ?_ ?_ actions h
  · exact hinv.2
  · refine ⟨⟨?_, ?_⟩, always_nil _⟩
    · intro i conn w boot hconn
      simp [create] at hconn
    · intro w l hl
      simp [create, store, Coordinator.create, lifeOf, empty] at hl
  · rintro past p a horderly ⟨⟨hbound, hlives⟩, hjustified⟩
    exact ⟨⟨hbound.step horderly, hlives.step a⟩,
      always_concat.mpr ⟨hjustified, justified_of_orderly hbound hlives horderly⟩⟩

/-! ## Concrete runs -/

/-- A REGISTER with the sample registration of a worker. -/
def sampleRegister (worker boot : UInt64) : Message where
  type := .register
  worker := ⟨worker⟩
  workerBoot := ⟨boot⟩
  payload := encodeRegistration (sampleRegistration worker boot 1)

/-- A worker connects, registers and disconnects. -/
def sampleDisconnect : List Action :=
  [.accept, .message 0 1000 {} (sampleRegister 1 10), .close 0 2000, .markClosed 0]

theorem decode_sampleRegister (worker boot : UInt64) :
    decodeRegistration (sampleRegister worker boot).payload
      = .ok (sampleRegistration worker boot 1) := by
  have hfits : (sampleRegistration worker boot 1).Fits :=
    ⟨Nat.zero_le _, Nat.zero_le _, Nat.zero_le _, fun _ hx => absurd hx List.not_mem_nil,
      Nat.zero_le _, fun _ hx => absurd hx List.not_mem_nil⟩
  exact hfits.decode_encode

/-- The verdict at the end of the session of one worker. -/
theorem sampleDisconnect_justified :
    Always Justified ((create {} (fun _ => none)).history sampleDisconnect) := by
  apply losses_justified
  apply always_of_forall
  intro call hcall
  simp only [sampleDisconnect, history, Run.history, List.mem_cons, List.not_mem_nil,
    or_false] at hcall
  rcases hcall with rfl | rfl | rfl | rfl
  · trivial
  · intro _ _
    refine ⟨Or.inl ⟨sampleRegistration 1 10 1, decode_sampleRegister 1 10, rfl, ?_⟩, ?_⟩
    · rintro ⟨err, herr⟩
      cases herr
    · intro reg _ _ j conn hj hconn
      have hlast : ([{}] : List Connection)[j]? = some conn := hconn
      rw [List.getElem?_singleton, if_neg hj] at hlast
      cases hlast
  · trivial
  · trivial

/-- While a worker is connected, a second process with its worker id connects,
is refused and disconnects. -/
def sampleIntruder : List Action :=
  [.accept, .message 0 1000 {} (sampleRegister 1 10),
    .accept, .message 1 1500 {} (sampleRegister 1 11), .close 1 2000]

/-- The incarnation on record was not registered on the second connection. -/
theorem sampleIntruder_not_registered :
    ¬∃ earlier ∈ (create {} (fun _ => none)).history sampleIntruder,
      RegisteredOn 1 ⟨1⟩ ⟨10⟩ earlier := by
  rintro ⟨earlier, hmem, now, io, msg, reg, haction, _, _, hreg, _, hboot, _⟩
  simp only [sampleIntruder, history, Run.history, List.mem_cons, List.not_mem_nil,
    or_false] at hmem
  rcases hmem with rfl | rfl | rfl | rfl | rfl
  · cases haction
  · cases haction
  · cases haction
  · cases haction
    rw [decode_sampleRegister] at hreg
    cases hreg
    revert hboot
    decide
  · cases haction

/-- Its disconnect marks the worker lost, which is connected and was never
registered on the connection that closes. -/
theorem sampleIntruder_not_justified :
    ¬Always Justified
      ((create {} (fun _ => none)).history (sampleIntruder ++ [.markClosed 1])) := by
  rw [history, Run.history_concat, always_concat]
  rintro ⟨_, hlast⟩
  have hverdict := hlast ⟨1⟩ 2000 ⟨10⟩ rfl (by decide +kernel)
  rcases hverdict with ⟨i, haction, hregistered⟩ | ⟨haction, _⟩
  · cases haction
    exact sampleIntruder_not_registered hregistered
  · cases haction

end Process

end GpuFleet
