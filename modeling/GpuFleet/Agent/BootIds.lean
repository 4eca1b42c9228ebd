import GpuFleet.Agent.Agent
import GpuFleet.Fleet.Supersession

/-!
# Boot ids

An agent that is started without a boot id makes one.  `make_fresh_boot_id` of
`agent/agent.cpp` takes the time, the process id and a counter, "so it is
unique per launch".  It shifts the time by 16 places and the process id by 8,
and the process id has 32 bits.  The two overlap, and a difference of the
process ids can undo one of the times (`Launch.Collides`).

`fresh_boot_ids_iff` says that there is no other way for two launches to get
one id.  After such a restart the coordinator takes the agent for its
predecessor, and refuses to register it (`Launch.Collides.refused`).
-/

namespace GpuFleet

namespace WorkerAgent

/-- What `make_fresh_boot_id` reads: `now_millis()`, `GetCurrentProcessId()`
and what `counter.fetch_add(1)` returns. -/
structure Launch where
  now : Timestamp
  pid : UInt32
  counter : UInt64 := 0
  deriving DecidableEq, Repr

namespace Launch

/-- `t` of `make_fresh_boot_id`. -/
def time (l : Launch) : UInt64 := l.now.toUInt64

/-- `make_fresh_boot_id`. -/
def makeFreshBootId (l : Launch) : UInt64 :=
  (l.time <<< 16) ^^^ (l.pid.toUInt64 <<< 8) ^^^ (l.counter &&& 0xFF)

/-- The process ids differ in just the bits in which the times do, 8 places
further up, and the counters agree in their low byte. -/
structure Collides (l l' : Launch) : Prop where
  pid : (l.time ^^^ l'.time) <<< 16 = (l.pid.toUInt64 ^^^ l'.pid.toUInt64) <<< 8
  counter : l.counter &&& 0xFF = l'.counter &&& 0xFF

end Launch

/-- The constructor of `WorkerAgent`, as far as the boot id goes. -/
def construct (opts : Options) (l : Launch) : WorkerAgent where
  opts := if opts.boot.isZero then { opts with boot := ⟨l.makeFreshBootId⟩ } else opts

/-- The agent `a'` is told from the agent `a` of an earlier incarnation.  No
record with the boot id of `a` is re-affirmed by a registration of `a'`, and
once the boot id of `a'` is on record, nothing is accepted from `a`. -/
structure FencedOff (a a' : WorkerAgent) : Prop where
  boot : a.opts.boot ≠ a'.opts.boot
  registration : ∀ found reg, decodeRegistration (a'.register found).payload = .ok reg →
    ∀ (s : FleetStateStore) wr, s.recordedBoot reg.worker = some a.opts.boot →
      ¬ s.Reaffirms reg wr
  heard : ∀ w (call : FleetStateStore × Op),
    call.1.recordedBoot w = some a'.opts.boot →
      ¬ FleetStateStore.Accepts w a.opts.boot call

/-! ## The bits of an id -/

section Words

theorem xor_eq_xor_iff (a b c d : UInt64) : a ^^^ b = c ^^^ d ↔ a ^^^ c = b ^^^ d := by
  rw [← UInt64.xor_eq_zero_iff, ← UInt64.xor_eq_zero_iff (a := a ^^^ c)]
  have hswap : a ^^^ b ^^^ (c ^^^ d) = a ^^^ c ^^^ (b ^^^ d) := by ac_rfl
  rw [hswap]

theorem xor_and_low (a b : UInt64) : (a ^^^ b) &&& 0xFF = (a &&& 0xFF) ^^^ (b &&& 0xFF) := by
  rw [← UInt64.toNat_inj, UInt64.toNat_and, UInt64.toNat_xor, Nat.and_xor_distrib_right,
    UInt64.toNat_xor, UInt64.toNat_and, UInt64.toNat_and]

/-- A word that was shifted by 8 places or more has an empty low byte. -/
theorem shiftLeft_and_low (a : UInt64) {k : UInt64} (hk : 8 ≤ k.toNat) (hk' : k.toNat < 64) :
    a <<< k &&& 0xFF = 0 := by
  have hdvd : 2 ^ 8 ∣ a.toNat <<< k.toNat := by
    rw [Nat.shiftLeft_eq]
    exact Dvd.dvd.mul_left (pow_dvd_pow 2 hk) _
  have hmask : (0xFF : UInt64).toNat = 2 ^ 8 - 1 := rfl
  rw [← UInt64.toNat_inj, UInt64.toNat_and, UInt64.toNat_shiftLeft, Nat.mod_eq_of_lt hk', hmask,
    Nat.and_two_pow_sub_one_eq_mod, Nat.mod_mod_of_dvd _ (pow_dvd_pow 2 (by decide))]
  exact Nat.mod_eq_zero_of_dvd hdvd

end Words

namespace Launch

theorem makeFreshBootId_and_low (l : Launch) :
    l.makeFreshBootId &&& 0xFF = l.counter &&& 0xFF := by
  have hlow : l.counter &&& 0xFF &&& 0xFF = l.counter &&& 0xFF := by
    rw [UInt64.and_assoc, UInt64.and_self]
  rw [makeFreshBootId, xor_and_low, xor_and_low, shiftLeft_and_low _ (by decide) (by decide),
    shiftLeft_and_low _ (by decide) (by decide), hlow, UInt64.xor_zero, UInt64.zero_xor]

theorem makeFreshBootId_eq_iff (l l' : Launch) :
    l.makeFreshBootId = l'.makeFreshBootId ↔ l.Collides l' := by
  have hwords : ∀ c : UInt64,
      (l.time <<< 16) ^^^ (l.pid.toUInt64 <<< 8) ^^^ c
        = (l'.time <<< 16) ^^^ (l'.pid.toUInt64 <<< 8) ^^^ c ↔
      (l.time ^^^ l'.time) <<< 16 = (l.pid.toUInt64 ^^^ l'.pid.toUInt64) <<< 8 := by
    intro c
    rw [UInt64.xor_left_inj, xor_eq_xor_iff, UInt64.shiftLeft_xor, UInt64.shiftLeft_xor]
  constructor
  · intro h
    have hcounter : l.counter &&& 0xFF = l'.counter &&& 0xFF := by
      rw [← l.makeFreshBootId_and_low, h, l'.makeFreshBootId_and_low]
    refine ⟨?_, hcounter⟩
    rw [makeFreshBootId, makeFreshBootId, hcounter] at h
    exact (hwords _).mp h
  · intro h
    rw [makeFreshBootId, makeFreshBootId, h.counter]
    exact (hwords _).mpr h.pid

/-- Launches that share an id are less than 2 ^ 24 milliseconds apart, which is
less than five hours. -/
theorem Collides.time_lt {l l' : Launch} (h : l.Collides l') (hl : l.time.toNat < 2 ^ 47)
    (hl' : l'.time.toNat < 2 ^ 47) : l'.time.toNat < l.time.toNat + 2 ^ 24 := by
  have htimes : l.time.toNat ^^^ l'.time.toNat < 2 ^ 47 := Nat.xor_lt_two_pow hl hl'
  have hpids : (l.pid ^^^ l'.pid).toNat < 2 ^ 32 := (l.pid ^^^ l'.pid).toNat_lt
  have hsame : (l.time.toNat ^^^ l'.time.toNat) * 2 ^ 16 = (l.pid ^^^ l'.pid).toNat * 2 ^ 8 := by
    have hpid := congrArg UInt64.toNat h.pid
    rw [← UInt32.toUInt64_xor, UInt64.toNat_shiftLeft, UInt64.toNat_shiftLeft, UInt64.toNat_xor,
      UInt32.toNat_toUInt64, Nat.shiftLeft_eq, Nat.shiftLeft_eq] at hpid
    change (l.time.toNat ^^^ l'.time.toNat) * 2 ^ 16 % 2 ^ 64
      = (l.pid ^^^ l'.pid).toNat * 2 ^ 8 % 2 ^ 64 at hpid
    omega
  have hhigh : l.time.toNat / 2 ^ 24 ^^^ l'.time.toNat / 2 ^ 24 = 0 := by
    rw [← Nat.xor_div_two_pow]
    omega
  have hquot : l.time.toNat / 2 ^ 24 = l'.time.toNat / 2 ^ 24 := Nat.xor_eq_zero_iff.mp hhigh
  omega

end Launch

/-! ## Agents -/

theorem construct_boot {opts : Options} (h : opts.boot.isZero = true) (l : Launch) :
    (construct opts l).opts.boot = ⟨l.makeFreshBootId⟩ := by
  show (if opts.boot.isZero then { opts with boot := ⟨l.makeFreshBootId⟩ } else opts).boot = _
  rw [if_pos h]

/-- Different boot ids are enough. -/
theorem FencedOff.of_ne {a a' : WorkerAgent} (h : a.opts.boot ≠ a'.opts.boot) :
    FencedOff a a' where
  boot := h
  registration := by
    intro found reg hreg s wr hrecord hreaffirms
    have hboot : reg.workerBoot = a'.opts.boot := (decode_registration hreg).workerBoot
    rw [FleetStateStore.recordedBoot, hreaffirms.record, Option.map_some, Option.some.injEq,
      hreaffirms.boot, hboot] at hrecord
    exact h hrecord.symm
  heard := by
    intro w call hrecord haccepts
    have hheard := FleetStateStore.recordedBoot_of_accepts haccepts
    exact h (Option.some.inj (hheard.symm.trans hrecord))

/-- An agent with the boot id of its predecessor is not registered in the place
of it. -/
theorem refused_of_boot_eq {a a' : WorkerAgent} {found : Enumeration} {reg : Registration}
    {s : FleetStateStore} {wr : WorkerRecord} (hboot : a.opts.boot = a'.opts.boot)
    (hgen : a'.regGen ≤ wr.registrationGeneration)
    (hreg : decodeRegistration (a'.register found).payload = .ok reg)
    (hrecord : s.workers[reg.worker]? = some wr) (hwr : wr.boot = a.opts.boot) (now : Timestamp) :
    (s.registerWorker reg now).Refused s := by
  have hsame := decode_registration hreg
  rcases s.registerWorker_cases reg now with ⟨h, _⟩ | ⟨wr', hreaffirms, _⟩ | ⟨hinstalls, _⟩
  · exact h
  · obtain rfl : wr = wr' := Option.some.inj (hrecord.symm.trans hreaffirms.record)
    have hlt := hreaffirms.generation
    rw [hsame.registrationGeneration] at hlt
    exact absurd hgen (not_le.mpr hlt)
  · refine absurd ?_ (hinstalls.vacant wr hrecord).1
    rw [hwr, hboot, hsame.workerBoot]
    rfl

/-- After a collision, the coordinator has the restarted agent on record
already, with a generation that is not older. -/
theorem Launch.Collides.refused {l l' : Launch} (h : l.Collides l') {opts opts' : Options}
    (hopts : opts.boot.isZero = true) (hopts' : opts'.boot.isZero = true) {found : Enumeration}
    {reg : Registration} {s : FleetStateStore} {wr : WorkerRecord}
    (hreg : decodeRegistration ((construct opts' l').register found).payload = .ok reg)
    (hrecord : s.workers[reg.worker]? = some wr) (hwr : wr.boot = (construct opts l).opts.boot)
    (hgen : ⟨1⟩ ≤ wr.registrationGeneration) (now : Timestamp) :
    (s.registerWorker reg now).Refused s := by
  have hboot : (construct opts l).opts.boot = (construct opts' l').opts.boot := by
    rw [construct_boot hopts, construct_boot hopts', (l.makeFreshBootId_eq_iff l').mpr h]
  exact refused_of_boot_eq hboot hgen hreg hrecord hwr now

/-- Two launches get different ids, and the agents that they start are fenced
off from each other, exactly if the process ids do not undo the difference of
the times. -/
theorem fresh_boot_ids_iff (l l' : Launch) :
    (l.makeFreshBootId ≠ l'.makeFreshBootId ∧
      ∀ opts opts' : Options, opts.boot.isZero = true → opts'.boot.isZero = true →
        FencedOff (construct opts l) (construct opts' l')) ↔ ¬ l.Collides l' := by
  rw [← Launch.makeFreshBootId_eq_iff]
  constructor
  · intro h
    exact h.1
  · intro hne
    refine ⟨hne, fun opts opts' hopts hopts' => .of_ne ?_⟩
    rw [construct_boot hopts, construct_boot hopts']
    exact fun h => hne (congrArg StrongId.value h)

/-- A restart after 64 milliseconds.  The process ids differ in one bit. -/
theorem restart_with_same_boot_id :
    (⟨1700000000000, 4096, 0⟩ : Launch).time < (⟨1700000000064, 20480, 0⟩ : Launch).time ∧
      (⟨1700000000064, 20480, 0⟩ : Launch).time.toNat < 2 ^ 47 ∧
      (⟨1700000000000, 4096, 0⟩ : Launch).makeFreshBootId
        = (⟨1700000000064, 20480, 0⟩ : Launch).makeFreshBootId ∧
      ¬ FencedOff (construct {} ⟨1700000000000, 4096, 0⟩)
        (construct {} ⟨1700000000064, 20480, 0⟩) := by
  have hsame : (⟨1700000000000, 4096, 0⟩ : Launch).makeFreshBootId
      = (⟨1700000000064, 20480, 0⟩ : Launch).makeFreshBootId := by decide
  refine ⟨by decide, by decide, hsame, fun hfenced => hfenced.boot ?_⟩
  rw [construct_boot rfl, construct_boot rfl, hsame]

end WorkerAgent

end GpuFleet
