import GpuFleet.Agent.Session
import GpuFleet.Coordinator.Calls
import GpuFleet.Fleet.Effects

/-!
# Registering again

The coordinator moves the generation in its record when it accepts a
REGISTER.  The agent moves its own when `connect_and_register` is over, also
if it has read no answer.  It does not after it has read a refusal, and then
its REGISTER is not on record.  So whenever it registers it is ahead of the
record (`registers_ahead`), until its counter has gone round.

`Standing` is the invariant.  It has a case for each place where the two can
be between a REGISTER and the answer to it.
-/

namespace GpuFleet

open Run AgentSession

/-- What is sent is ahead of everything that was on record for this process,
and what arrives on the agent's connection is not refused as stale. -/
structure NeverStale (before : List (AgentSession × AgentStep)) (x : AgentSession × AgentStep) :
    Prop where
  ahead : ∀ reg, x.1.sends x.2 = some reg → ∀ y ∈ before ++ [x], ∀ g, y.1.recorded = some g →
    g < reg.registrationGeneration
  taken : ∀ now io msg, x.2 = .deliverRegister now io → x.1.register = some msg →
    (x.1.coordinator.dispatch now io msg).verdict
      ≠ some (.error (errorResult .stale "stale registration generation"))

/-! ## The record of one process -/

namespace FleetStateStore

variable {s : FleetStateStore} {w : WorkerId} {boot : WorkerBootId} {g : RegistrationGeneration}

theorem generationOf_eq_some :
    s.generationOf w boot = some g ↔
      ∃ wr, s.workers[w]? = some wr ∧ wr.boot = boot ∧ wr.registrationGeneration = g := by
  unfold generationOf
  cases hwr : s.workers[w]? with
  | none => simp
  | some wr =>
    by_cases hboot : wr.boot = boot
    · simp [hboot]
    · simp [hboot]

theorem generationOf_insert {t : FleetStateStore} {reg : Registration} {wr : WorkerRecord}
    (ht : t.workers = s.workers.insert reg.worker wr) (hboot : wr.boot = reg.workerBoot)
    (hgen : wr.registrationGeneration = reg.registrationGeneration)
    (h : t.generationOf w boot = some g) :
    s.generationOf w boot = some g ∨
      (reg.worker = w ∧ reg.workerBoot = boot ∧ reg.registrationGeneration = g) := by
  obtain ⟨wr', hwr', hboot', hgen'⟩ := generationOf_eq_some.mp h
  rw [ht, OrderedMap.getElem?_insert] at hwr'
  by_cases hw : reg.worker = w
  · rw [if_pos hw] at hwr'
    cases hwr'
    exact Or.inr ⟨hw, hboot.symm.trans hboot', hgen.symm.trans hgen'⟩
  · rw [if_neg hw] at hwr'
    exact Or.inl (generationOf_eq_some.mpr ⟨wr', hwr', hboot', hgen'⟩)

/-- A registration leaves what was on record, or it is accepted and brings
its own generation. -/
theorem generationOf_registerWorker {reg : Registration} {now : Timestamp}
    (h : (s.registerWorker reg now).store.generationOf w boot = some g) :
    s.generationOf w boot = some g ∨ (¬(s.registerWorker reg now).Failed ∧
      reg.worker = w ∧ reg.workerBoot = boot ∧ reg.registrationGeneration = g) := by
  rcases s.registerWorker_cases reg now with ⟨hrefused, _⟩ | ⟨wr, hre, _, hdone⟩ | ⟨_, hdone⟩
  · rw [hrefused.store] at h
    exact Or.inl h
  · rw [hdone.store] at h
    have hboot : (reaffirmed wr reg now).boot = reg.workerBoot := hre.boot
    exact (generationOf_insert rfl hboot rfl h).imp_right fun hreg => ⟨hdone.ok, hreg⟩
  · rw [hdone.store] at h
    exact (generationOf_insert rfl rfl rfl h).imp_right fun hreg => ⟨hdone.ok, hreg⟩

/-- A generation that is on record after a call was there before, or a
registration has just brought it. -/
theorem generationOf_step {op : Op} (hrestore : ¬op.IsRestore)
    (h : (s.step op).generationOf w boot = some g) :
    s.generationOf w boot = some g ∨ ∃ reg now, op = .registerWorker reg now ∧
      ¬(s.registerWorker reg now).Failed ∧ reg.worker = w ∧ reg.workerBoot = boot ∧
        reg.registrationGeneration = g := by
  by_cases hop : ∃ reg now, op = .registerWorker reg now
  · obtain ⟨reg, now, rfl⟩ := hop
    rcases generationOf_registerWorker h with h | hreg
    · exact Or.inl h
    · exact Or.inr ⟨reg, now, rfl, hreg⟩
  · -- the other calls write no generation into a record
    have hkept : WorkerInvariant (fun op => ¬op.IsRestore ∧ ∀ reg now, op ≠ .registerWorker reg now)
        (fun w' wr => w' = w → wr.boot = boot →
          s.generationOf w boot = some wr.registrationGeneration) := by
      refine ⟨?_, ?_, ?_, ?_, ?_, ?_, ?_⟩
      · intro reg now hallowed
        exact absurd rfl (hallowed.2 reg now)
      · intro reg now wr hallowed
        exact absurd rfl (hallowed.2 reg now)
      · exact fun _ _ hwr => hwr
      · exact fun _ _ _ hwr => hwr
      · exact fun _ _ _ hwr => hwr
      · exact fun _ _ _ hwr => hwr
      · intro snap hallowed
        exact absurd trivial hallowed.1
    have hstart : s.WorkersSatisfy (fun w' wr => w' = w → wr.boot = boot →
        s.generationOf w boot = some wr.registrationGeneration) := by
      rintro _ wr hwr rfl hboot
      exact generationOf_eq_some.mpr ⟨wr, hwr, hboot, rfl⟩
    obtain ⟨wr, hwr, hboot, hgen⟩ := generationOf_eq_some.mp h
    have hother : ∀ reg now, op ≠ .registerWorker reg now := fun reg now heq => hop ⟨reg, now, heq⟩
    have hsame := hkept.step hstart op ⟨hrestore, hother⟩ w wr hwr rfl hboot
    rw [hgen] at hsame
    exact Or.inl hsame

/-- The two texts of a stale registration differ in their first letter. -/
theorem epochText_ne (rest : ByteString) :
    text "registration epoch stale (" ++ rest ≠ text "stale registration generation" := by
  intro h
  have hfirst : (text "registration epoch stale (" ++ rest).head?
      = (text "registration epoch stale (").head? := rfl
  have hhead := congrArg List.head? h
  rw [hfirst] at hhead
  revert hhead
  decide

/-- A registration is refused as stale only when its process is on record in
the same generation or a later one. -/
theorem registerWorker_stale {reg : Registration} {now : Timestamp}
    (h : (s.registerWorker reg now).result
      = .error (errorResult .stale "stale registration generation")) :
    ∃ g, s.generationOf reg.worker reg.workerBoot = some g ∧ reg.registrationGeneration ≤ g := by
  unfold registerWorker at h
  split at h
  · have hmessage := congrArg Error.message (Except.error.inj h)
    simp only [List.append_assoc] at hmessage
    exact absurd hmessage (epochText_ne _)
  split at h
  · cases h
  split at h
  · cases h
  next wr hwr =>
  split at h
  · next hboot =>
    split at h
    · next hle => exact ⟨_, generationOf_eq_some.mpr ⟨wr, hwr, hboot, rfl⟩, hle⟩
    · cases h
  split at h
  · cases h
  · cases h

end FleetStateStore

namespace Coordinator

variable {c : Coordinator} {now : Timestamp} {io : FileOutcomes} {msg : Message}

/-- The message brings a generation: it is a REGISTER that is accepted. -/
structure Brings (c : Coordinator) (now : Timestamp) (msg : Message) (reg : Registration) :
    Prop where
  type : msg.type = .register
  decoded : decodeRegistration msg.payload = .ok reg
  accepted : ¬(c.store.registerWorker reg now).Failed

theorem generationOf_dispatch {w : WorkerId} {boot : WorkerBootId} {g : RegistrationGeneration}
    (h : (c.dispatch now io msg).coordinator.store.generationOf w boot = some g) :
    c.store.generationOf w boot = some g ∨ ∃ reg, c.Brings now msg reg ∧ reg.worker = w ∧
      reg.workerBoot = boot ∧ reg.registrationGeneration = g := by
  rw [dispatch_store] at h
  cases hcall : c.callOf now msg with
  | none =>
    rw [hcall] at h
    exact Or.inl h
  | some op =>
    rw [hcall] at h
    have hrestore := callOf_not_isRestore hcall
    rcases FleetStateStore.generationOf_step hrestore h with hsame | ⟨reg, now', rfl, hok, hreg⟩
    · exact Or.inl hsame
    · obtain ⟨htype, hdecode, rfl⟩ := callOf_registerWorker hcall
      exact Or.inr ⟨reg, ⟨htype, hdecode, hok⟩, hreg⟩

/-- An accepted REGISTER is answered so. -/
theorem Brings.reply {reg : Registration} (h : c.Brings now msg reg) :
    (c.dispatch now io msg).reply.ok = true := by
  unfold dispatch
  simp only [h.type, handleRegister, h.decoded]
  split
  · next err herr => exact absurd ⟨err, herr⟩ h.accepted
  · rfl

/-- What the REGISTER handler gets from the store. -/
theorem verdict_register {err : Error} (htype : msg.type = .register)
    (h : (c.dispatch now io msg).verdict = some (.error err)) :
    ∃ reg, decodeRegistration msg.payload = .ok reg ∧
      (c.store.registerWorker reg now).result = .error err := by
  unfold dispatch at h
  simp only [htype, handleRegister] at h
  split at h
  · cases h
  next reg hreg =>
  split at h
  · next err' herr =>
    cases h
    exact ⟨reg, hreg, herr⟩
  · cases h

theorem reply_hello (h : msg.type = .hello) : (c.dispatch now io msg).reply.ok = true := by
  unfold dispatch
  rw [h]

end Coordinator

/-! ## What is on record, and what can still come -/

namespace AgentSession

variable {s t : AgentSession} {past : List (AgentSession × AgentStep)} {i : AgentStep}
  {P : RegistrationGeneration → Prop} {g : RegistrationGeneration}

/-- The message is a REGISTER of the process in the generation `g`. -/
def IsRegister (opts : WorkerAgent.Options) (g : RegistrationGeneration) (msg : Message) : Prop :=
  ∃ (a : WorkerAgent) (found : WorkerAgent.Enumeration),
    a.opts = opts ∧ a.regGen = g ∧ msg = a.register found

theorem IsRegister.decoded {opts : WorkerAgent.Options} {msg : Message} {reg : Registration}
    (h : IsRegister opts g msg) (hreg : decodeRegistration msg.payload = .ok reg) :
    reg.worker = opts.worker ∧ reg.workerBoot = opts.boot ∧ reg.registrationGeneration = g := by
  obtain ⟨a, found, rfl, rfl, rfl⟩ := h
  have hsame := WorkerAgent.decode_registration hreg
  exact ⟨hsame.worker, hsame.workerBoot, hsame.registrationGeneration⟩

/-- The generations that were or are on record satisfy `P`, and so do those
that an old connection can still bring. -/
structure Within (past : List (AgentSession × AgentStep)) (s : AgentSession)
    (P : RegistrationGeneration → Prop) : Prop where
  recorded : ∀ g, s.recorded = some g → P g
  before : ∀ y ∈ past, ∀ g, y.1.recorded = some g → P g
  late : ∀ msg ∈ s.late, msg.type = .register → ∃ g, P g ∧ IsRegister s.agent.opts g msg

theorem Within.mono (h : Within past s P) {Q : RegistrationGeneration → Prop}
    (hpq : ∀ g, P g → Q g) : Within past s Q := by
  refine ⟨fun g hg => hpq g (h.recorded g hg), fun y hy g hg => hpq g (h.before y hy g hg), ?_⟩
  intro msg hmsg htype
  obtain ⟨g, hg, hregister⟩ := h.late msg hmsg htype
  exact ⟨g, hpq g hg, hregister⟩

/-- A step that brings nothing but what satisfies `P`. -/
theorem Within.extend (h : Within past s P) (hopts : t.agent.opts = s.agent.opts)
    (hrecorded : ∀ g, t.recorded = some g → s.recorded = some g ∨ P g)
    (hlate : ∀ msg ∈ t.late, msg ∈ s.late ∨
      (msg.type = .register → ∃ g, P g ∧ IsRegister s.agent.opts g msg)) :
    Within (past ++ [(s, i)]) t P := by
  refine ⟨?_, ?_, ?_⟩
  · intro g hg
    rcases hrecorded g hg with hs | hp
    · exact h.recorded g hs
    · exact hp
  · intro y hy g hg
    rcases List.mem_append.mp hy with hy | hy
    · exact h.before y hy g hg
    · obtain rfl := List.mem_singleton.mp hy
      exact h.recorded g hg
  · intro msg hmsg htype
    rw [hopts]
    rcases hlate msg hmsg with hs | hnew
    · exact h.late msg hs htype
    · exact hnew htype

/-- A step that brings nothing new. -/
theorem Within.same (h : Within past s P) (hopts : t.agent.opts = s.agent.opts)
    (hcoordinator : t.coordinator = s.coordinator) (hlate : t.late = s.late) :
    Within (past ++ [(s, i)]) t P := by
  refine h.extend hopts ?_ ?_
  · intro g hg
    rw [AgentSession.recorded, hopts, hcoordinator] at hg
    exact Or.inl hg
  · intro msg hmsg
    rw [hlate] at hmsg
    exact Or.inl hmsg

/-! ## Counting the attempts -/

theorem attempts_concat_of_not (h : isAttempt (s, i) = false) :
    attempts (past ++ [(s, i)]) = attempts past := by
  rw [attempts, List.countP_append, List.countP_singleton, h]
  rfl

theorem attempts_concat_of_attempt (h : isAttempt (s, i) = true) :
    attempts (past ++ [(s, i)]) = attempts past + 1 := by
  rw [attempts, List.countP_append, List.countP_singleton, h]
  rfl

/-- The agent has been through all generations. -/
def Spent (past : List (AgentSession × AgentStep)) : Prop := 2 ^ 64 ≤ attempts past + 1

theorem toNat_next_le (g : RegistrationGeneration) : g.next.value.toNat ≤ g.value.toNat + 1 := by
  show (g.value + 1).toNat ≤ g.value.toNat + 1
  rw [UInt64.toNat_add, UInt64.toNat_one]
  exact Nat.mod_le _ _

theorem lt_next (h : g.value.toNat + 1 < 2 ^ 64) : g < g.next := by
  show g.value.toNat < (g.value + 1).toNat
  rw [UInt64.toNat_add, UInt64.toNat_one, Nat.mod_eq_of_lt h]
  exact Nat.lt_succ_self _

/-- A generation that was used once is passed, unless it was the last one. -/
theorem lt_next_or_spent (hcount : g.value.toNat ≤ attempts past) : g < g.next ∨ Spent past := by
  by_cases hspent : Spent past
  · exact Or.inr hspent
  · unfold Spent at hspent
    exact Or.inl (lt_next (by omega))

/-! ## The invariant -/

/-- The agent is past what is on record.  Its REGISTER can still be under
way. -/
structure Away (past : List (AgentSession × AgentStep)) (s : AgentSession) : Prop where
  count : s.agent.regGen.value.toNat ≤ attempts past + 1
  slot : ∀ msg, s.register = some msg → ∃ g, IsRegister s.agent.opts g msg ∧
    Within past s (· < g) ∧ (g < s.agent.regGen ∨ Spent past)
  ahead : Within past s (· < s.agent.regGen) ∨ Spent past

/-- Where the agent and the record can be. -/
inductive Standing (past : List (AgentSession × AgentStep)) (s : AgentSession) : Prop
  /-- The agent is not in `connect_and_register`. -/
  | away (hphase : s.phase = .idle ∨ s.phase = .serving) (h : Away past s)
  /-- It waits for the answer to its HELLO. -/
  | greeting (hphase : s.phase = .helloSent)
      (hcount : s.agent.regGen.value.toNat ≤ attempts past) (hslot : s.register = none)
      (hreplies : ∀ reply ∈ s.replies, reply.ok = true)
      (hahead : Within past s (· < s.agent.regGen))
  /-- Its REGISTER is under way. -/
  | pending (msg : Message) (hphase : s.phase = .registerSent)
      (hcount : s.agent.regGen.value.toNat ≤ attempts past) (hslot : s.register = some msg)
      (hmsg : IsRegister s.agent.opts s.agent.regGen msg)
      (hreplies : ∀ reply ∈ s.replies, reply.ok = true)
      (hahead : Within past s (· < s.agent.regGen))
  /-- Its REGISTER was accepted or is lost, and it will not read a refusal. -/
  | settled (hphase : s.phase = .registerSent)
      (hcount : s.agent.regGen.value.toNat ≤ attempts past) (hslot : s.register = none)
      (hreplies : ∀ reply ∈ s.replies, reply.ok = true)
      (hreached : Within past s (· ≤ s.agent.regGen))
  /-- Its REGISTER was not accepted. -/
  | refused (hphase : s.phase = .registerSent)
      (hcount : s.agent.regGen.value.toNat ≤ attempts past) (hslot : s.register = none)
      (hahead : Within past s (· < s.agent.regGen))

theorem Standing.of_not_waiting (h : Standing past s)
    (hphase : s.phase = .idle ∨ s.phase = .serving) : Away past s := by
  cases h with
  | away _ h => exact h
  | greeting hwaiting | pending _ hwaiting | settled hwaiting | refused hwaiting =>
    rw [hwaiting] at hphase
    exact absurd hphase (by decide)

/-- A step that the agent does not take, and that leaves its REGISTER alone. -/
structure Calm (s : AgentSession) (i : AgentStep) : Prop where
  attempt : isAttempt (s, i) = false
  agent : (s.step i).agent = s.agent
  phase : (s.step i).phase = s.phase
  register : (s.step i).register = s.register
  replies : ∀ reply ∈ (s.step i).replies, reply ∈ s.replies ∨ reply.ok = true
  late : ∀ msg ∈ (s.step i).late, msg ∈ s.late
  recorded : ∀ g, (s.step i).recorded = some g → s.recorded = some g ∨
    ∃ msg ∈ s.late, msg.type = .register ∧ ∃ reg, decodeRegistration msg.payload = .ok reg ∧
      reg.registrationGeneration = g

theorem calm_of_eq (h : s.step i = s) (hattempt : isAttempt (s, i) = false) : s.Calm i := by
  refine ⟨hattempt, ?_, ?_, ?_, ?_, ?_, ?_⟩
  all_goals rw [h]
  · exact fun _ hreply => Or.inl hreply
  · exact fun _ hmsg => hmsg
  · exact fun _ hg => Or.inl hg

theorem Calm.within (hcalm : s.Calm i) (h : Within past s P) :
    Within (past ++ [(s, i)]) (s.step i) P := by
  refine h.extend (congrArg _ hcalm.agent) ?_ fun msg hmsg => Or.inl (hcalm.late msg hmsg)
  intro g hg
  rcases hcalm.recorded g hg with hs | ⟨msg, hmsg, htype, reg, hreg, rfl⟩
  · exact Or.inl hs
  · obtain ⟨g', hg', hregister⟩ := h.late msg hmsg htype
    rw [(hregister.decoded hreg).2.2]
    exact Or.inr hg'

theorem Standing.calm (h : Standing past s) (hcalm : s.Calm i) :
    Standing (past ++ [(s, i)]) (s.step i) := by
  have hattempts : attempts (past ++ [(s, i)]) = attempts past :=
    attempts_concat_of_not hcalm.attempt
  have hspent : Spent past → Spent (past ++ [(s, i)]) := by
    unfold Spent
    rw [hattempts]
    exact id
  have hok : (∀ reply ∈ s.replies, reply.ok = true) →
      ∀ reply ∈ (s.step i).replies, reply.ok = true := by
    intro hs reply hreply
    rcases hcalm.replies reply hreply with hbefore | hnew
    · exact hs reply hbefore
    · exact hnew
  cases h with
  | away hphase haway =>
    rw [← hcalm.phase] at hphase
    refine .away hphase ⟨?_, ?_, ?_⟩
    · rw [hcalm.agent, hattempts]
      exact haway.count
    · intro msg hmsg
      rw [hcalm.register] at hmsg
      obtain ⟨g, hregister, hwithin, hlt⟩ := haway.slot msg hmsg
      rw [hcalm.agent]
      exact ⟨g, hregister, hcalm.within hwithin, hlt.imp_right hspent⟩
    · rw [hcalm.agent]
      exact haway.ahead.imp hcalm.within hspent
  | greeting hphase hcount hslot hreplies hahead =>
    refine .greeting (hcalm.phase.trans hphase) ?_ (hcalm.register.trans hslot) (hok hreplies) ?_
    · rw [hcalm.agent, hattempts]
      exact hcount
    · rw [hcalm.agent]
      exact hcalm.within hahead
  | pending msg hphase hcount hslot hmsg hreplies hahead =>
    refine .pending msg (hcalm.phase.trans hphase) ?_ (hcalm.register.trans hslot) ?_
      (hok hreplies) ?_
    · rw [hcalm.agent, hattempts]
      exact hcount
    · rw [hcalm.agent]
      exact hmsg
    · rw [hcalm.agent]
      exact hcalm.within hahead
  | settled hphase hcount hslot hreplies hreached =>
    refine .settled (hcalm.phase.trans hphase) ?_ (hcalm.register.trans hslot) (hok hreplies) ?_
    · rw [hcalm.agent, hattempts]
      exact hcount
    · rw [hcalm.agent]
      exact hcalm.within hreached
  | refused hphase hcount hslot hahead =>
    refine .refused (hcalm.phase.trans hphase) ?_ (hcalm.register.trans hslot) ?_
    · rw [hcalm.agent, hattempts]
      exact hcount
    · rw [hcalm.agent]
      exact hcalm.within hahead

/-! ## The steps that the agent does not take -/

/-- What a dispatch puts on record. -/
theorem recorded_of_dispatch (s : AgentSession) (now : Timestamp) (io : FileOutcomes)
    (msg : Message) (h : t.recorded = some g) (hopts : t.agent.opts = s.agent.opts)
    (hcoordinator : t.coordinator = (s.coordinator.dispatch now io msg).coordinator) :
    s.recorded = some g ∨ ∃ reg, s.coordinator.Brings now msg reg ∧
      reg.worker = s.agent.opts.worker ∧ reg.workerBoot = s.agent.opts.boot ∧
        reg.registrationGeneration = g := by
  rw [recorded, hopts, hcoordinator] at h
  exact Coordinator.generationOf_dispatch h

theorem calm_deliverHello (hhello : ∀ msg, s.hello = some msg → msg.type = .hello)
    (now : Timestamp) (io : FileOutcomes) : s.Calm (.deliverHello now io) := by
  cases hslot : s.hello with
  | none => exact calm_of_eq (by simp only [step, hslot]) rfl
  | some msg =>
    have htype := hhello msg hslot
    have hstep : s.step (.deliverHello now io) = { s with
        coordinator := (s.coordinator.dispatch now io msg).coordinator
        hello := none
        replies := s.answered (s.coordinator.dispatch now io msg) } := by
      simp only [step, hslot]
    refine ⟨rfl, ?_, ?_, ?_, ?_, ?_, ?_⟩
    all_goals rw [hstep]
    · intro reply hreply
      rcases mem_answered hreply with hbefore | rfl
      · exact Or.inl hbefore
      · exact Or.inr (Coordinator.reply_hello htype)
    · exact fun _ hmsg => hmsg
    · intro g hg
      rcases recorded_of_dispatch s now io msg hg rfl rfl with hs | ⟨reg, hbrings, _⟩
      · exact Or.inl hs
      · have hnot := hbrings.type
        rw [htype] at hnot
        cases hnot

theorem calm_deliverLate (j : Nat) (now : Timestamp) (io : FileOutcomes) :
    s.Calm (.deliverLate j now io) := by
  cases hlate : s.late[j]? with
  | none => exact calm_of_eq (by simp only [step, hlate]) rfl
  | some msg =>
    have hstep : s.step (.deliverLate j now io) = { s with
        coordinator := (s.coordinator.dispatch now io msg).coordinator
        late := s.late.eraseIdx j } := by
      simp only [step, hlate]
    refine ⟨rfl, ?_, ?_, ?_, ?_, ?_, ?_⟩
    all_goals rw [hstep]
    · exact fun _ hreply => Or.inl hreply
    · exact fun _ hmsg => List.mem_of_mem_eraseIdx hmsg
    · intro g hg
      rcases recorded_of_dispatch s now io msg hg rfl rfl with hs | ⟨reg, hbrings, _, _, hgen⟩
      · exact Or.inl hs
      · exact Or.inr ⟨msg, List.mem_of_getElem? hlate, hbrings.type, reg, hbrings.decoded, hgen⟩

theorem calm_workerLost (w : WorkerId) (now : Timestamp) : s.Calm (.workerLost w now) := by
  refine ⟨rfl, rfl, rfl, rfl, fun _ hreply => Or.inl hreply, fun _ hmsg => hmsg, ?_⟩
  intro g hg
  have hrestore : ¬(Op.markWorkerLost w now).IsRestore := id
  rcases FleetStateStore.generationOf_step hrestore hg with hs | ⟨_, _, hop, _⟩
  · exact Or.inl hs
  · cases hop

theorem registers_of_brings {a : WorkerAgent} {c : Coordinator} {now : Timestamp} {msg : Message}
    {reg : Registration} (h : c.Brings now msg reg) (hworker : reg.worker = a.opts.worker)
    (hboot : reg.workerBoot = a.opts.boot) : a.registers msg = true := by
  simp only [WorkerAgent.registers, h.type, h.decoded, hworker, hboot, decide_true, Bool.and_self]

theorem calm_other (now : Timestamp) (io : FileOutcomes) (msg : Message) :
    s.Calm (.other now io msg) := by
  by_cases hforeign : s.agent.registers msg = true
  · exact calm_of_eq (if_pos hforeign) rfl
  · have hstep : s.step (.other now io msg) = { s with
        coordinator := (s.coordinator.dispatch now io msg).coordinator } := if_neg hforeign
    refine ⟨rfl, ?_, ?_, ?_, ?_, ?_, ?_⟩
    all_goals rw [hstep]
    · exact fun _ hreply => Or.inl hreply
    · exact fun _ hmsg => hmsg
    · intro g hg
      rcases recorded_of_dispatch s now io msg hg rfl rfl with
        hs | ⟨reg, hbrings, hworker, hboot, _⟩
      · exact Or.inl hs
      · exact absurd (registers_of_brings hbrings hworker hboot) hforeign

/-! ## The steps of the agent -/

theorem not_spent_of_attempt (hattempt : isAttempt (s, i) = true)
    (hattempts : attempts (past ++ [(s, i)]) < 2 ^ 64) : ¬Spent past := by
  rw [attempts_concat_of_attempt hattempt] at hattempts
  unfold Spent
  omega

theorem Standing.connect (h : Standing past s) (hidle : s.phase = .idle) (sent : Except Error Unit)
    (hattempts : attempts (past ++ [(s, .connect sent)]) < 2 ^ 64) :
    Standing (past ++ [(s, .connect sent)]) (s.step (.connect sent)) := by
  have hattempt : isAttempt (s, .connect sent) = true := decide_eq_true hidle
  have hstep : s.step (.connect sent) = s.begin sent := if_pos hidle
  have haway := h.of_not_waiting (Or.inl hidle)
  have hahead := haway.ahead.resolve_right (not_spent_of_attempt hattempt hattempts)
  rw [hstep, begin_eq]
  refine .greeting rfl ?_ rfl ?_ (hahead.same rfl rfl rfl)
  · rw [attempts_concat_of_attempt hattempt]
    exact haway.count
  · intro reply hreply
    cases hreply

theorem Standing.leave (h : Standing past s) (hserving : s.phase = .serving)
    (hhello : ∀ msg, s.hello = some msg → msg.type = .hello) :
    Standing (past ++ [(s, .leave)]) (s.step .leave) := by
  have hstep : s.step .leave = s.close := if_pos hserving
  have haway := h.of_not_waiting (Or.inr hserving)
  have hattempts : attempts (past ++ [(s, .leave)]) = attempts past := attempts_concat_of_not rfl
  rw [hstep]
  refine .away (Or.inl rfl) ⟨?_, ?_, ?_⟩
  · rw [hattempts]
    exact haway.count
  · intro msg hmsg
    cases hmsg
  · by_cases hspent : Spent past
    · right
      rw [Spent, hattempts]
      exact hspent
    · left
      have hahead := haway.ahead.resolve_right hspent
      refine hahead.extend rfl (fun g hg => Or.inl hg) ?_
      intro msg hmsg
      rcases List.mem_append.mp hmsg with hmsg | hmsg
      · rcases List.mem_append.mp hmsg with hmsg | hmsg
        · exact Or.inl hmsg
        · -- the HELLO registers nothing
          right
          intro htype
          rw [hhello msg (Option.mem_toList.mp hmsg)] at htype
          cases htype
      · right
        intro _
        obtain ⟨g, hregister, _, hlt⟩ := haway.slot msg (Option.mem_toList.mp hmsg)
        exact ⟨g, hlt.resolve_right hspent, hregister⟩

theorem Standing.deliverRegister (h : Standing past s) {msg : Message}
    (hmsg : s.register = some msg) (now : Timestamp) (io : FileOutcomes) :
    Standing (past ++ [(s, .deliverRegister now io)]) (s.step (.deliverRegister now io)) := by
  have hstep : s.step (.deliverRegister now io) = { s with
      coordinator := (s.coordinator.dispatch now io msg).coordinator
      register := none
      replies := s.answered (s.coordinator.dispatch now io msg) } := by
    simp only [step, hmsg]
  have hattempts : attempts (past ++ [(s, .deliverRegister now io)]) = attempts past :=
    attempts_concat_of_not rfl
  -- the REGISTER brings its own generation or none
  have hbrought : ∀ {g : RegistrationGeneration} {P : RegistrationGeneration → Prop},
      IsRegister s.agent.opts g msg → Within past s P → P g →
        Within (past ++ [(s, .deliverRegister now io)]) (s.step (.deliverRegister now io)) P := by
    intro g P hregister hwithin hg
    rw [hstep]
    refine hwithin.extend rfl ?_ fun _ hlate => Or.inl hlate
    intro g' hg'
    rcases recorded_of_dispatch s now io msg hg' rfl rfl with hs | ⟨reg, hbrings, _, _, rfl⟩
    · exact Or.inl hs
    · rw [(hregister.decoded hbrings.decoded).2.2]
      exact Or.inr hg
  cases h with
  | away hphase haway =>
    have hcount := haway.count
    obtain ⟨g, hregister, hwithin, hlt⟩ := haway.slot msg hmsg
    rw [← hattempts] at hcount
    have hahead : Within (past ++ [(s, .deliverRegister now io)])
        (s.step (.deliverRegister now io)) (· < s.agent.regGen) ∨
          Spent (past ++ [(s, .deliverRegister now io)]) := by
      rw [Spent, hattempts]
      by_cases hspent : Spent past
      · exact Or.inr hspent
      · exact Or.inl (hbrought hregister (haway.ahead.resolve_right hspent)
          (hlt.resolve_right hspent))
    rw [hstep] at hahead ⊢
    refine .away hphase ⟨hcount, ?_, hahead⟩
    intro msg' hmsg'
    cases hmsg'
  | pending msg' hphase hcount hslot hregister hreplies hahead =>
    rw [hmsg] at hslot
    cases hslot
    rw [← hattempts] at hcount
    by_cases hbrings : ∃ reg, s.coordinator.Brings now msg reg
    · -- accepted: the record has caught up, and the reply says so
      have hreached := hbrought hregister (hahead.mono fun _ => le_of_lt) le_rfl
      rw [hstep] at hreached ⊢
      refine .settled hphase hcount rfl ?_ hreached
      intro reply hreply
      obtain ⟨reg, hbrings⟩ := hbrings
      rcases mem_answered hreply with hbefore | rfl
      · exact hreplies reply hbefore
      · exact hbrings.reply
    · -- not accepted: the record stays
      rw [hstep]
      refine .refused hphase hcount rfl (hahead.extend rfl ?_ fun _ hlate => Or.inl hlate)
      intro g hg
      rcases recorded_of_dispatch s now io msg hg rfl rfl with hs | ⟨reg, hreg, _⟩
      · exact Or.inl hs
      · exact absurd ⟨reg, hreg⟩ hbrings
  | greeting _ _ hslot | settled _ _ hslot | refused _ _ hslot =>
    rw [hslot] at hmsg
    cases hmsg

theorem Standing.loseRegister (h : Standing past s) :
    Standing (past ++ [(s, .loseRegister)]) (s.step .loseRegister) := by
  have hattempts : attempts (past ++ [(s, .loseRegister)]) = attempts past :=
    attempts_concat_of_not rfl
  have hsame : ∀ {P : RegistrationGeneration → Prop}, Within past s P →
      Within (past ++ [(s, .loseRegister)]) (s.step .loseRegister) P :=
    fun hwithin => hwithin.same rfl rfl rfl
  cases h with
  | away hphase haway =>
    have hcount := haway.count
    rw [← hattempts] at hcount
    refine .away hphase ⟨hcount, ?_, ?_⟩
    · intro msg hmsg
      cases hmsg
    · rw [Spent, hattempts]
      exact haway.ahead.imp_left hsame
  | greeting hphase hcount _ hreplies hahead =>
    rw [← hattempts] at hcount
    exact .greeting hphase hcount rfl hreplies (hsame hahead)
  | pending _ hphase hcount _ _ hreplies hahead =>
    rw [← hattempts] at hcount
    exact .settled hphase hcount rfl hreplies (hsame (hahead.mono fun _ => le_of_lt))
  | settled hphase hcount _ hreplies hreached =>
    rw [← hattempts] at hcount
    exact .settled hphase hcount rfl hreplies (hsame hreached)
  | refused hphase hcount _ hahead =>
    rw [← hattempts] at hcount
    exact .refused hphase hcount rfl (hsame hahead)

/-- The end of `connect_and_register`, with a new generation or without. -/
theorem away_of_advance (hcount : s.agent.regGen.value.toNat ≤ attempts past)
    (hslot : ∀ msg, s.register = some msg → IsRegister s.agent.opts s.agent.regGen msg ∧
      Within past s (· < s.agent.regGen))
    (hreached : Within past s (· ≤ s.agent.regGen)) {rest : List Message}
    (hattempt : isAttempt (s, i) = false)
    (hstep : s.step i = { s with
      replies := rest
      agent := { s.agent with regGen := s.agent.regGen.next }
      phase := .serving }) :
    Standing (past ++ [(s, i)]) (s.step i) := by
  have hattempts : attempts (past ++ [(s, i)]) = attempts past := attempts_concat_of_not hattempt
  have hsame : ∀ {P : RegistrationGeneration → Prop}, Within past s P →
      Within (past ++ [(s, i)]) (s.step i) P := by
    intro P hwithin
    rw [hstep]
    exact hwithin.same rfl rfl rfl
  have hnext : s.agent.regGen < s.agent.regGen.next ∨ Spent (past ++ [(s, i)]) := by
    rw [Spent, hattempts]
    exact lt_next_or_spent hcount
  have hahead := hnext.imp_left fun hlt => hsame (hreached.mono fun _ hle => hle.trans_lt hlt)
  have hpassed := fun (hwithin : Within past s (· < s.agent.regGen)) => hsame hwithin
  rw [hstep] at hahead hpassed ⊢
  refine .away (Or.inr rfl) ⟨?_, ?_, hahead⟩
  · rw [hattempts]
    exact (toNat_next_le _).trans (Nat.succ_le_succ hcount)
  · intro msg hmsg
    obtain ⟨hregister, hwithin⟩ := hslot msg hmsg
    exact ⟨s.agent.regGen, hregister, hpassed hwithin, hnext⟩

/-- The REGISTER gets under way, or it is lost at once. -/
theorem Standing.registers (h : Standing past s) (hphase : s.phase = .helloSent)
    {rest : List Message} (hrest : ∀ reply ∈ rest, reply ∈ s.replies) {agent : WorkerAgent}
    (hopts : agent.opts = s.agent.opts) (hgen : agent.regGen = s.agent.regGen)
    {found : WorkerAgent.Enumeration} {sent : Except Error Unit}
    (hattempt : isAttempt (s, i) = false)
    (hstep : s.step i = { s with
      replies := rest
      agent := agent
      phase := .registerSent
      register := underWay (agent.register found) sent }) :
    Standing (past ++ [(s, i)]) (s.step i) := by
  cases h with
  | greeting _ hcount _ hreplies hahead =>
    have hok : ∀ reply ∈ rest, reply.ok = true := fun reply hreply =>
      hreplies reply (hrest reply hreply)
    have hcount' : agent.regGen.value.toNat ≤ attempts (past ++ [(s, i)]) := by
      rw [hgen, attempts_concat_of_not hattempt]
      exact hcount
    have hahead' : Within (past ++ [(s, i)]) (s.step i) (· < agent.regGen) := by
      rw [hstep, hgen]
      exact hahead.same hopts rfl rfl
    rw [hstep] at hahead' ⊢
    cases sent with
    | ok =>
      exact .pending (agent.register found) rfl hcount' rfl ⟨agent, found, rfl, rfl, rfl⟩ hok
        hahead'
    | error err => exact .settled rfl hcount' rfl hok (hahead'.mono fun _ => le_of_lt)
  | away hidle =>
    rw [hphase] at hidle
    exact absurd hidle (by decide)
  | pending _ hwaiting | settled hwaiting | refused hwaiting =>
    cases hwaiting.symm.trans hphase

/-- `connect_and_register` is over, and the generation goes on. -/
theorem Standing.advances (h : Standing past s) (hphase : s.phase = .registerSent)
    {rest : List Message} (hattempt : isAttempt (s, i) = false)
    (hstep : s.step i = { s with
      replies := rest
      agent := { s.agent with regGen := s.agent.regGen.next }
      phase := .serving }) :
    Standing (past ++ [(s, i)]) (s.step i) := by
  cases h with
  | pending msg _ hcount hslot hmsg _ hahead =>
    refine away_of_advance hcount ?_ (hahead.mono fun _ => le_of_lt) hattempt hstep
    intro msg' hmsg'
    cases hslot.symm.trans hmsg'
    exact ⟨hmsg, hahead⟩
  | settled _ hcount hslot _ hreached =>
    refine away_of_advance hcount ?_ hreached hattempt hstep
    intro msg hmsg
    cases hslot.symm.trans hmsg
  | refused _ hcount hslot hahead =>
    refine away_of_advance hcount ?_ (hahead.mono fun _ => le_of_lt) hattempt hstep
    intro msg hmsg
    cases hslot.symm.trans hmsg
  | away hidle =>
    rw [hphase] at hidle
    exact absurd hidle (by decide)
  | greeting hwaiting => cases hwaiting.symm.trans hphase

/-- A refusal is read only after the REGISTER was refused, so that the
generation is still to be used. -/
theorem Standing.readsRefusal (h : Standing past s) (hphase : s.phase = .registerSent)
    {rest : List Message} {ack2 : Message} (hack : ack2 ∈ s.replies) (hok : ack2.ok = false)
    (hattempt : isAttempt (s, i) = false)
    (hstep : s.step i = { s with replies := rest, phase := .serving }) :
    Standing (past ++ [(s, i)]) (s.step i) := by
  have hno : ¬∀ reply ∈ s.replies, reply.ok = true := by
    intro hreplies
    rw [hreplies ack2 hack] at hok
    cases hok
  cases h with
  | refused _ hcount hslot hahead =>
    rw [hstep]
    refine .away (Or.inr rfl) ⟨?_, ?_, Or.inl (hahead.same rfl rfl rfl)⟩
    · rw [attempts_concat_of_not hattempt]
      exact hcount.trans (Nat.le_succ _)
    · intro msg hmsg
      cases hslot.symm.trans hmsg
  | greeting _ _ _ hreplies | pending _ _ _ _ _ hreplies | settled _ _ _ hreplies =>
    exact absurd hreplies hno
  | away hidle =>
    rw [hphase] at hidle
    exact absurd hidle (by decide)

theorem Standing.proceed (h : Standing past s) {rest : List Message}
    {found : WorkerAgent.Enumeration} {sent : Except Error Unit}
    {answer : Except WorkerAgent.ReadFailure Message} (hrest : ∀ reply ∈ rest, reply ∈ s.replies)
    (hanswer : ∀ reply, answer = .ok reply → reply ∈ s.replies)
    (hattempt : isAttempt (s, i) = false)
    (hstep : s.step i = { s with replies := rest }.proceed found sent answer) :
    Standing (past ++ [(s, i)]) (s.step i) := by
  cases { s with replies := rest }.proceeds found sent answer with
  | registers agent hphase hopts hgen hnext =>
    exact h.registers hphase hrest hopts hgen hattempt (hstep.trans hnext)
  | advances hphase hnext => exact h.advances hphase hattempt (hstep.trans hnext)
  | refused ack2 hphase hack hok hnext =>
    exact h.readsRefusal hphase (hanswer ack2 hack) hok hattempt (hstep.trans hnext)
  | stays hidle hnext =>
    rw [hnext] at hstep
    refine h.calm ⟨hattempt, ?_, ?_, ?_, ?_, ?_, ?_⟩
    all_goals rw [hstep]
    · exact fun reply hreply => Or.inl (hrest reply hreply)
    · exact fun _ hmsg => hmsg
    · exact fun _ hg => Or.inl hg

/-! ## Every step -/

theorem proceed_hello (s : AgentSession) (found : WorkerAgent.Enumeration)
    (sent : Except Error Unit) (answer : Except WorkerAgent.ReadFailure Message) :
    (s.proceed found sent answer).hello = s.hello := by
  cases s.proceeds found sent answer with
  | registers _ _ _ _ hnext | advances _ hnext | refused _ _ _ _ hnext | stays _ hnext =>
    rw [hnext]

/-- Whatever is under way as a HELLO is one. -/
theorem step_hello (hhello : ∀ msg, s.hello = some msg → msg.type = .hello) (i : AgentStep)
    (msg : Message) (h : (s.step i).hello = some msg) : msg.type = .hello := by
  cases i with
  | connect sent =>
    simp only [step, begin_eq] at h
    split at h
    · cases sent with
      | ok =>
        cases h
        rfl
      | error err => cases h
    · exact hhello msg h
  | deliverHello now io =>
    simp only [step] at h
    split at h
    · exact hhello msg h
    · cases h
  | loseHello => cases h
  | read found sent =>
    simp only [step] at h
    split at h
    · exact hhello msg h
    · rw [proceed_hello] at h
      exact hhello msg h
  | readFails why found sent =>
    have hsame : (s.step (.readFails why found sent)).hello = s.hello :=
      s.proceed_hello found sent (.error why)
    rw [hsame] at h
    exact hhello msg h
  | leave =>
    simp only [step] at h
    split at h
    · cases h
    · exact hhello msg h
  | deliverRegister | deliverLate | other =>
    simp only [step] at h
    split at h
    · exact hhello msg h
    · exact hhello msg h
  | loseRegister | loseReply | drop | loseLate | workerLost => exact hhello msg h

/-- The invariant of a session: its HELLO is one, and its REGISTERs stand as they
should. -/
structure Tracks (past : List (AgentSession × AgentStep)) (s : AgentSession) : Prop where
  hello : ∀ msg, s.hello = some msg → msg.type = .hello
  standing : Standing past s

theorem Tracks.step (h : Tracks past s) (i : AgentStep)
    (hattempts : attempts (past ++ [(s, i)]) < 2 ^ 64) :
    Tracks (past ++ [(s, i)]) (s.step i) := by
  refine ⟨step_hello h.hello i, ?_⟩
  have hs := h.standing
  cases i with
  | connect sent =>
    by_cases hidle : s.phase = .idle
    · exact hs.connect hidle sent hattempts
    · exact hs.calm (calm_of_eq (if_neg hidle) (decide_eq_false hidle))
  | deliverHello now io => exact hs.calm (calm_deliverHello h.hello now io)
  | deliverRegister now io =>
    cases hslot : s.register with
    | none => exact hs.calm (calm_of_eq (by simp only [AgentSession.step, hslot]) rfl)
    | some msg => exact hs.deliverRegister hslot now io
  | loseHello =>
    exact hs.calm ⟨rfl, rfl, rfl, rfl, fun _ hreply => Or.inl hreply, fun _ hmsg => hmsg,
      fun _ hg => Or.inl hg⟩
  | loseRegister => exact hs.loseRegister
  | loseReply j =>
    refine hs.calm ⟨rfl, rfl, rfl, rfl, ?_, fun _ hmsg => hmsg, fun _ hg => Or.inl hg⟩
    exact fun _ hreply => Or.inl (List.mem_of_mem_eraseIdx hreply)
  | drop =>
    refine hs.calm ⟨rfl, rfl, rfl, rfl, ?_, fun _ hmsg => hmsg, fun _ hg => Or.inl hg⟩
    intro reply hreply
    cases hreply
  | read found sent =>
    cases hreplies : s.replies with
    | nil => exact hs.calm (calm_of_eq (by simp only [AgentSession.step, hreplies]) rfl)
    | cons reply rest =>
      have hstep : s.step (.read found sent)
          = { s with replies := rest }.proceed found sent (.ok reply) := by
        simp only [AgentSession.step, hreplies]
      refine hs.proceed ?_ ?_ rfl hstep
      · intro reply' hreply'
        rw [hreplies]
        exact List.mem_cons_of_mem reply hreply'
      · intro reply' hreply'
        cases hreply'
        rw [hreplies]
        exact List.mem_cons_self
  | readFails why found sent =>
    have hstep : s.step (.readFails why found sent) = s.proceed found sent (.error why) := rfl
    refine hs.proceed (fun _ hreply => hreply) ?_ rfl hstep
    intro reply hreply
    cases hreply
  | leave =>
    by_cases hserving : s.phase = .serving
    · exact hs.leave hserving h.hello
    · exact hs.calm (calm_of_eq (if_neg hserving) rfl)
  | deliverLate j now io => exact hs.calm (calm_deliverLate j now io)
  | loseLate j =>
    refine hs.calm ⟨rfl, rfl, rfl, rfl, fun _ hreply => Or.inl hreply, ?_, fun _ hg => Or.inl hg⟩
    exact fun _ hmsg => List.mem_of_mem_eraseIdx hmsg
  | workerLost w now => exact hs.calm (calm_workerLost w now)
  | other now io msg => exact hs.calm (calm_other now io msg)

theorem attempts_le_concat (x : AgentSession × AgentStep) :
    attempts past ≤ attempts (past ++ [x]) := by
  rw [attempts, attempts, List.countP_append]
  exact Nat.le_add_right _ _

theorem tracks_run (agent : WorkerAgent.Options) (opts : Options) (disk : Disk)
    (steps : List AgentStep)
    (hattempts : attempts ((create agent opts disk).history steps) < 2 ^ 64) :
    Tracks ((create agent opts disk).history steps) ((create agent opts disk).run steps) := by
  induction steps using List.reverseRecOn with
  | nil =>
    refine ⟨?_, .away (Or.inl rfl) ⟨le_rfl, ?_, Or.inl ⟨?_, ?_, ?_⟩⟩⟩
    · intro msg hmsg
      cases hmsg
    · intro msg hmsg
      cases hmsg
    · intro g hg
      cases hg
    · intro y hy
      cases hy
    · intro msg hmsg
      cases hmsg
  | append_singleton rest i ih =>
    rw [history, history_concat] at hattempts ⊢
    rw [run, run_concat]
    exact (ih ((attempts_le_concat _).trans_lt hattempts)).step i hattempts

/-! ## No REGISTER is stale -/

/-- A REGISTER that is ahead of the record is not refused as stale. -/
theorem verdict_ne_stale {msg : Message} (hregister : IsRegister s.agent.opts g msg)
    (hwithin : Within past s (· < g)) (now : Timestamp) (io : FileOutcomes) :
    (s.coordinator.dispatch now io msg).verdict
      ≠ some (.error (errorResult .stale "stale registration generation")) := by
  intro hverdict
  have htype : msg.type = .register := by
    obtain ⟨a, found, _, _, rfl⟩ := hregister
    rfl
  obtain ⟨reg, hreg, hresult⟩ := Coordinator.verdict_register htype hverdict
  obtain ⟨g', hg', hle⟩ := FleetStateStore.registerWorker_stale hresult
  obtain ⟨hworker, hboot, hgen⟩ := hregister.decoded hreg
  rw [hworker, hboot] at hg'
  rw [hgen] at hle
  exact not_le.mpr (hwithin.recorded g' hg') hle

theorem Standing.neverStale (h : Standing past s) (i : AgentStep) : NeverStale past (s, i) := by
  refine ⟨?_, ?_⟩
  · intro reg hreg y hy g hg
    obtain ⟨hphase, hgen⟩ := sends_eq_some hreg
    cases h with
    | greeting _ _ _ _ hahead =>
      rw [hgen]
      rcases List.mem_append.mp hy with hy | hy
      · exact hahead.before y hy g hg
      · obtain rfl := List.mem_singleton.mp hy
        exact hahead.recorded g hg
    | away hidle =>
      rw [show s.phase = .helloSent from hphase] at hidle
      exact absurd hidle (by decide)
    | pending _ hwaiting | settled hwaiting | refused hwaiting =>
      cases hwaiting.symm.trans hphase
  · intro now io msg _ hmsg
    cases h with
    | away _ haway =>
      obtain ⟨g, hregister, hwithin, _⟩ := haway.slot msg hmsg
      exact verdict_ne_stale hregister hwithin now io
    | pending _ _ _ hslot hregister _ hahead =>
      cases hslot.symm.trans hmsg
      exact verdict_ne_stale hregister hahead now io
    | greeting _ _ hslot | settled _ _ hslot | refused _ _ hslot =>
      cases hslot.symm.trans hmsg

/-- In every run in which `connect_and_register` is called less than 2^64
times, the agent is ahead of the record whenever it registers, and the
REGISTER on its connection is not refused as stale. -/
theorem registers_ahead (agent : WorkerAgent.Options) (opts : Options) (disk : Disk)
    (steps : List AgentStep)
    (hattempts : attempts ((create agent opts disk).history steps) < 2 ^ 64) :
    Always NeverStale ((create agent opts disk).history steps) := by
  induction steps using List.reverseRecOn with
  | nil => exact always_nil _
  | append_singleton rest i ih =>
    rw [history, history_concat] at hattempts
    have hrest := (attempts_le_concat _).trans_lt hattempts
    rw [history, history_concat, always_concat]
    exact ⟨ih hrest, (tracks_run agent opts disk rest hrest).standing.neverStale i⟩

/-- An agent in the generation `g` and a coordinator that has nothing on
record. -/
def sample (g : RegistrationGeneration) : AgentSession where
  agent := { opts := { boot := ⟨10⟩ }, regGen := g }
  coordinator := .create {} fun _ => none

/-- The acknowledgement is lost with the connection, and the agent registers
again. -/
def sampleLostAck : List AgentStep :=
  [.connect (.ok ()), .deliverHello 1000 {}, .read {} (.ok ()), .deliverRegister 1001 {}, .drop,
    .readFails .closed {} (.ok ()), .leave,
    .connect (.ok ()), .deliverHello 2000 {}, .read {} (.ok ()), .deliverRegister 2001 {},
    .read {} (.ok ())]

theorem lost_ack_registers :
    ((sample ⟨1⟩).run sampleLostAck).recorded = some ⟨2⟩ ∧
      Always NeverStale ((sample ⟨1⟩).history sampleLostAck) := by
  refine ⟨by decide +kernel, registers_ahead { boot := ⟨10⟩ } {} (fun _ => none) _ ?_⟩
  have hattempts : attempts ((sample ⟨1⟩).history sampleLostAck) = 2 := by decide +kernel
  exact hattempts.trans_lt (by decide)

/-- The agent connects, and both messages are lost. -/
def sampleLosses : List AgentStep :=
  [.connect (.ok ()), .loseHello, .readFails .timeout {} (.ok ()), .loseRegister,
    .readFails .timeout {} (.ok ()), .leave]

theorem run_sampleLosses (n : Nat) (v : UInt64) :
    (sample ⟨v⟩).run (List.replicate n sampleLosses).flatten
      = sample ⟨v + UInt64.ofNat n⟩ := by
  induction n generalizing v with
  | zero =>
    show sample ⟨v⟩ = sample ⟨v + 0⟩
    rw [UInt64.add_zero]
  | succ n ih =>
    have hone : (sample ⟨v⟩).run sampleLosses = sample ⟨v + 1⟩ := rfl
    have hadd : v + 1 + UInt64.ofNat n = v + UInt64.ofNat (n + 1) := by
      rw [UInt64.ofNat_add, UInt64.add_assoc, UInt64.add_comm (UInt64.ofNat n)]
      rfl
    rw [run] at hone
    rw [List.replicate_succ, List.flatten_cons, run, run_append, hone, ← hadd]
    exact ih (v + 1)

/-- The agent is registered in its last generation and connects again. -/
def sampleLast : List AgentStep :=
  [.connect (.ok ()), .deliverHello 1000 {}, .read {} (.ok ()), .deliverRegister 1001 {},
    .read {} (.ok ()), .leave, .connect (.ok ()), .deliverHello 2000 {}]

/-- A REGISTER arrives after its successor. -/
def sampleOvertaken : List AgentStep :=
  [.connect (.ok ()), .deliverHello 1000 {}, .read {} (.ok ()), .readFails .timeout {} (.ok ()),
    .leave,
    .connect (.ok ()), .deliverHello 2000 {}, .read {} (.ok ()), .deliverRegister 2001 {}]

/-- The counter goes round.  A REGISTER on an old connection can be refused as
stale before that. -/
theorem generations_run_out :
    ¬Always NeverStale ((sample ⟨1⟩).history
        ((List.replicate (2 ^ 64 - 2) sampleLosses).flatten ++ sampleLast
          ++ [.read {} (.ok ())])) ∧
      ((sample ⟨1⟩).run sampleOvertaken).late[0]?.map (fun msg =>
          (((sample ⟨1⟩).run sampleOvertaken).coordinator.dispatch 2002 {} msg).verdict)
        = some (some (.error (errorResult .stale "stale registration generation"))) := by
  refine ⟨?_, by decide +kernel⟩
  intro h
  rw [history, history_concat, run_append, always_concat] at h
  have hrun : Run.run step (sample ⟨1⟩) (List.replicate (2 ^ 64 - 2) sampleLosses).flatten
      = sample ⟨18446744073709551615⟩ :=
    run_sampleLosses (2 ^ 64 - 2) 1
  rw [hrun] at h
  have hrecorded : ((sample ⟨18446744073709551615⟩).run sampleLast).recorded
      = some ⟨18446744073709551615⟩ := by decide +kernel
  have hsent : (((sample ⟨18446744073709551615⟩).run sampleLast).sends (.read {} (.ok ()))).map
      (fun reg => reg.registrationGeneration) = some ⟨0⟩ := by decide +kernel
  obtain ⟨reg, hreg, hgen⟩ := Option.map_eq_some_iff.mp hsent
  have hlt := h.2.ahead reg hreg _ (List.mem_append_right _ (List.mem_singleton_self _)) _ hrecorded
  rw [hgen] at hlt
  revert hlt
  decide

end AgentSession

end GpuFleet
