import GpuFleet.Fleet.Effects
import Mathlib.Algebra.Group.Nat.Defs

/-!
# Accounting

`accounting` walks over the records of the workers and of the devices and
counts.  `accounting_eq` gives its totals in closed form: each is the number of
entries with some property, modulo 2^64.

`Accounting::is_valid` compares more than it says: it wants as many live workers
as there are stale ones.  `exact_throughout_iff` gives the runs that stay valid.
The difference between the two counts shrinks in one way only, by the loss of a
live worker.
-/

namespace GpuFleet

/-- `Accounting::is_valid`. -/
def Accounting.isValid (a : Accounting) : Bool :=
  decide (a.liveWorkers ≤ a.registeredWorkers) && decide (a.staleWorkers ≤ a.liveWorkers)

/-- What `accounting` counts as a live worker. -/
def WorkerRecord.isLive (wr : WorkerRecord) : Bool := wr.alive && !wr.lost && !wr.fenced

namespace FleetStateStore

/-! ## The totals -/

/-- A counter that goes up by one for every element with the property. -/
def tally {α : Type} (p : α → Bool) (l : List α) (n : UInt64) : UInt64 :=
  n + UInt64.ofNat (l.countP p)

section Tally

variable {α : Type} {p : α → Bool}

@[simp] theorem tally_nil (n : UInt64) : tally p [] n = n := UInt64.add_zero n

theorem tally_cons (x : α) (l : List α) (n : UInt64) :
    tally p (x :: l) n = tally p l (if p x then n + 1 else n) := by
  unfold tally
  by_cases hp : p x = true
  · rw [List.countP_cons_of_pos hp, if_pos hp, UInt64.ofNat_add, UInt64.add_assoc,
      UInt64.add_comm (UInt64.ofNat _)]
    rfl
  · rw [List.countP_cons_of_neg hp, if_neg hp]

end Tally

theorem foldl_countWorker (l : List (WorkerId × WorkerRecord)) (a : Accounting) :
    l.foldl (fun a e => countWorker a e.2) a = { a with
      registeredWorkers := tally (fun _ => true) l a.registeredWorkers
      liveWorkers := tally (fun e => e.2.isLive) l a.liveWorkers
      staleWorkers := tally (fun e => !e.2.isLive) l a.staleWorkers
      activeRegistrations := tally (fun e => e.2.isLive) l a.activeRegistrations } := by
  induction l generalizing a with
  | nil => simp
  | cons e l ih =>
    have hstale : (e.2.lost || e.2.fenced || !e.2.alive) = !e.2.isLive := by
      rw [WorkerRecord.isLive]
      cases e.2.alive <;> cases e.2.lost <;> cases e.2.fenced <;> rfl
    rw [List.foldl_cons, ih]
    simp only [tally_cons, countWorker, hstale, WorkerRecord.isLive, if_true]

theorem foldl_countDevice (l : List (ByteString × DeviceState)) (a : Accounting) :
    l.foldl (fun a e => countDevice a e.2) a = { a with
      devices := tally (fun _ => true) l a.devices
      eligibleDevices := tally (fun e => decide (e.2.eligibility = .eligible)) l a.eligibleDevices
      degradedDevices :=
        tally (fun e => decide (e.2.eligibility = .degradedEligible)) l a.degradedDevices
      quarantinedDevices :=
        tally (fun e => decide (e.2.eligibility = .quarantined)) l a.quarantinedDevices
      drainedDevices :=
        tally (fun e => decide (e.2.eligibility = .draining)) l a.drainedDevices } := by
  induction l generalizing a with
  | nil => simp
  | cons e l ih =>
    rw [List.foldl_cons, ih]
    simp only [tally_cons, countDevice, if_true]
    cases e.2.eligibility <;> simp

/-- The number of devices with a verdict. -/
def verdictCount (s : FleetStateStore) (verdict : EligibilityState) : Nat :=
  s.devices.toList.countP fun e => decide (e.2.eligibility = verdict)

/-- The number of live workers on record. -/
def liveCount (workers : Map WorkerId WorkerRecord) : Nat :=
  workers.toList.countP fun e => e.2.isLive

/-- The number of workers on record that are lost, fenced or silent. -/
def staleCount (workers : Map WorkerId WorkerRecord) : Nat :=
  workers.toList.countP fun e => !e.2.isLive

/-- The totals in closed form. -/
theorem accounting_eq (s : FleetStateStore) :
    s.accounting = {
      registeredWorkers := UInt64.ofNat s.workers.size
      liveWorkers := UInt64.ofNat (liveCount s.workers)
      staleWorkers := UInt64.ofNat (staleCount s.workers)
      devices := UInt64.ofNat s.devices.size
      eligibleDevices := UInt64.ofNat (s.verdictCount .eligible)
      degradedDevices := UInt64.ofNat (s.verdictCount .degradedEligible)
      quarantinedDevices := UInt64.ofNat (s.verdictCount .quarantined)
      drainedDevices := UInt64.ofNat (s.verdictCount .draining)
      activeRegistrations := UInt64.ofNat (liveCount s.workers)
      acceptedObservations := s.acceptedObservations } := by
  simp only [accounting, Std.ExtTreeMap.foldl_eq_foldl_toList, foldl_countWorker,
    foldl_countDevice, tally, List.countP_true, Std.ExtTreeMap.length_toList, UInt64.zero_add,
    liveCount, staleCount, verdictCount]

theorem liveCount_add_staleCount (workers : Map WorkerId WorkerRecord) :
    liveCount workers + staleCount workers = workers.size := by
  rw [← Std.ExtTreeMap.length_toList,
    List.length_eq_countP_add_countP fun e : WorkerId × WorkerRecord => e.2.isLive]
  simp only [liveCount, staleCount, Bool.decide_eq_false, Bool.not_eq_true]

/-- A device has one verdict. -/
theorem verdictCount_le (s : FleetStateStore) :
    s.verdictCount .eligible + s.verdictCount .degradedEligible + s.verdictCount .quarantined
      + s.verdictCount .draining ≤ s.devices.size := by
  rw [← Std.ExtTreeMap.length_toList]
  unfold verdictCount
  induction s.devices.toList with
  | nil => exact le_rfl
  | cons e l ih =>
    simp only [List.countP_cons, List.length_cons]
    cases e.2.eligibility <;> simp <;> omega

/-! ## The balance of live and stale workers -/

/-- There are as many live workers as stale ones, or more. -/
def Balanced (workers : Map WorkerId WorkerRecord) : Prop :=
  staleCount workers ≤ liveCount workers

section Balance

variable {workers : Map WorkerId WorkerRecord} {w : WorkerId} {wr wr' : WorkerRecord}

/-- A record that is live if the one it replaces was. -/
theorem Balanced.insert (h : Balanced workers)
    (hold : ∀ wr, workers[w]? = some wr → wr.isLive = true → wr'.isLive = true)
    (hnew : workers[w]? = none → wr'.isLive = true) : Balanced (workers.insert w wr') := by
  unfold Balanced staleCount liveCount at h ⊢
  rw [OrderedMap.countP_insert, OrderedMap.countP_insert]
  cases hwr : workers[w]? with
  | none =>
    rw [OrderedMap.countP_of_none hwr, OrderedMap.countP_of_none hwr] at h
    simp only [hnew hwr, Bool.not_true, Bool.false_eq_true, if_false, if_true]
    omega
  | some wr =>
    rw [OrderedMap.countP_of_some hwr, OrderedMap.countP_of_some hwr] at h
    cases hlive : wr.isLive with
    | true =>
      rw [hlive] at h
      simp only [hold wr hwr hlive, Bool.not_true, Bool.false_eq_true, if_false, if_true] at h ⊢
      exact h
    | false =>
      rw [hlive] at h
      simp only [Bool.not_false, Bool.false_eq_true, if_false, if_true] at h
      cases wr'.isLive <;> simp <;> omega

theorem Balanced.modify (h : Balanced workers) {f : WorkerRecord → WorkerRecord}
    (hf : ∀ wr, wr.isLive = true → (f wr).isLive = true) : Balanced (workers.modify w f) := by
  cases hwr : workers[w]? with
  | none =>
    rw [OrderedMap.modify_eq_self fun v hv => by rw [hwr] at hv; cases hv]
    exact h
  | some wr =>
    rw [← OrderedMap.insert_eq_modify hwr]
    refine h.insert ?_ fun hnone => ?_
    · intro wr₀ hwr₀ hlive
      obtain rfl := Option.some.inj (hwr.symm.trans hwr₀)
      exact hf wr hlive
    · rw [hwr] at hnone
      cases hnone

/-- A worker that is marked as lost changes sides if it was live. -/
theorem balanced_lose_iff (h : Balanced workers) (hwr : workers[w]? = some wr)
    (hlost : wr'.isLive = false) :
    Balanced (workers.insert w wr') ↔
      (wr.isLive = true → staleCount workers + 2 ≤ liveCount workers) := by
  unfold Balanced staleCount liveCount at *
  rw [OrderedMap.countP_of_some hwr, OrderedMap.countP_of_some hwr] at *
  rw [OrderedMap.countP_insert, OrderedMap.countP_insert, hlost]
  cases hlive : wr.isLive with
  | true =>
    rw [hlive] at h
    simp only [Bool.not_true, Bool.not_false, Bool.false_eq_true, if_false, if_true,
      true_imp_iff] at h ⊢
    omega
  | false =>
    rw [hlive] at h
    simp only [Bool.not_false, Bool.false_eq_true, if_false, if_true] at h ⊢
    exact iff_of_true h fun hf => hf.elim

end Balance

/-- The call keeps the balance: a live worker is lost only where the live ones
are two ahead, and a recovery brings a snapshot in balance. -/
def KeepsBalance (s : FleetStateStore) : Op → Prop
  | .markWorkerLost w _ => ∀ wr, s.workers[w]? = some wr → wr.isLive = true →
    staleCount s.workers + 2 ≤ liveCount s.workers
  | .restore snap => Balanced snap.workers
  | _ => True

/-- A sign of life makes no live worker stale. -/
theorem isLive_heard {wr wr' : WorkerRecord} (h : wr.isLive = true) (halive : wr'.alive = true)
    (hlost : wr'.lost = true → wr.lost = true) (hfenced : wr'.fenced = wr.fenced) :
    wr'.isLive = true := by
  simp only [WorkerRecord.isLive, Bool.and_eq_true, Bool.not_eq_true'] at h ⊢
  obtain ⟨⟨_, hnot⟩, hopen⟩ := h
  refine ⟨⟨halive, ?_⟩, hfenced.trans hopen⟩
  rw [Bool.eq_false_iff]
  intro hyes
  cases hnot.symm.trans (hlost hyes)

theorem ingestSnapshot_balanced {s : FleetStateStore} (h : Balanced s.workers)
    (worker : WorkerId) (obs : List DeviceObservation) (policy : ObservationPolicy)
    (now : Timestamp) :
    Balanced (s.ingestSnapshot worker obs policy now).store.workers := by
  apply ingestSnapshot_invariant (P := fun t _ => Balanced t.workers) [] h
  · intro _ _ o st _ hP
    unfold commit
    by_cases hknown : st.store.devices.contains o.key = true
    · simp only [hknown, if_true]
      exact hP
    · simp only [hknown]
      exact hP.modify fun wr hlive => hlive
  · intro _ _ _ _ hP _
    exact hP
  · intro t _ hP
    exact hP.modify fun wr hlive => isLive_heard hlive rfl id rfl

/-- A call leaves the balance as it is described above. -/
theorem balanced_step_iff {s : FleetStateStore} (h : Balanced s.workers) (op : Op) :
    Balanced (s.step op).workers ↔ s.KeepsBalance op := by
  by_cases hadmin : op.IsAdministrative
  · rw [(s.step_sameWorkers hadmin).workers]
    cases op with
    | markWorkerLost w now => exact hadmin.elim
    | restore snap => exact hadmin.elim
    | _ => exact iff_of_true h trivial
  unfold step
  cases op with
  | registerWorker reg now =>
    refine iff_of_true ?_ trivial
    rcases s.registerWorker_cases reg now with ⟨hdone, _⟩ | ⟨wr, hre, _, hdone⟩ | ⟨_, hdone⟩
    · rw [exec, Outcome.void, hdone.store]
      exact h
    · rw [exec, Outcome.void, hdone.store]
      refine h.insert ?_ fun hnone => ?_
      · intro wr' hwr' hlive
        obtain rfl := Option.some.inj (hre.record.symm.trans hwr')
        exact isLive_heard hlive rfl (fun h => by cases h) rfl
      · rw [hre.record] at hnone
        cases hnone
    · rw [exec, Outcome.void, hdone.store]
      exact h.insert (fun _ _ _ => rfl) fun _ => rfl
  | restore snap => exact Iff.rfl
  | markWorkerLost w now =>
    rcases s.markWorkerLost_cases w now with ⟨hnone, hdone⟩ | ⟨wr, hwr, hdone⟩
    · rw [exec, hdone.store]
      refine iff_of_true h fun wr hwr => ?_
      rw [hnone] at hwr
      cases hwr
    · rw [exec, hdone.store, balanced_lose_iff h hwr rfl]
      simp only [KeepsBalance, hwr, Option.some.injEq, forall_eq']
  | ingestSnapshot worker obs policy now =>
    exact iff_of_true (ingestSnapshot_balanced h worker obs policy now) trivial
  | heartbeat worker boot epoch now hg =>
    refine iff_of_true ?_ trivial
    rcases s.heartbeat_cases worker boot epoch now hg with ⟨hdone, _⟩ | ⟨wr, _, hwr, _, hdone⟩
    · rw [exec, hdone.store]
      exact h
    · rw [exec, hdone.store]
      refine h.insert ?_ fun hnone => ?_
      · intro wr' hwr' hlive
        obtain rfl := Option.some.inj (hwr.symm.trans hwr')
        exact isLive_heard hlive rfl (fun h => by cases h) rfl
      · rw [hwr] at hnone
        cases hnone
  | _ => exact absurd trivial hadmin

/-! ## Exact totals -/

/-- The totals are the numbers of records, they add up, and they are valid. -/
structure AccountingExact (s : FleetStateStore) : Prop where
  registered : s.accounting.registeredWorkers.toNat = s.workers.size
  sides : s.accounting.liveWorkers.toNat + s.accounting.staleWorkers.toNat
    = s.accounting.registeredWorkers.toNat
  registrations : s.accounting.activeRegistrations = s.accounting.liveWorkers
  devices : s.accounting.devices.toNat = s.devices.size
  verdicts : s.accounting.eligibleDevices.toNat + s.accounting.degradedDevices.toNat
    + s.accounting.quarantinedDevices.toNat + s.accounting.drainedDevices.toNat
    ≤ s.accounting.devices.toNat
  valid : s.accounting.isValid = true

/-- The numbers of records are 64-bit numbers. -/
structure CountersFit (s : FleetStateStore) : Prop where
  workers : s.workers.size < 2 ^ 64
  devices : s.devices.size < 2 ^ 64

theorem accountingExact_iff (s : FleetStateStore) :
    s.AccountingExact ↔ s.CountersFit ∧ Balanced s.workers := by
  have hworkers := liveCount_add_staleCount s.workers
  have hverdicts := s.verdictCount_le
  constructor
  · intro h
    have hfit : s.CountersFit := by
      refine ⟨?_, ?_⟩
      · rw [← h.registered]
        exact UInt64.toNat_lt _
      · rw [← h.devices]
        exact UInt64.toNat_lt _
    refine ⟨hfit, ?_⟩
    have hsize := hfit.workers
    have hvalid := h.valid
    rw [accounting_eq, Accounting.isValid, Bool.and_eq_true, decide_eq_true_iff,
      decide_eq_true_iff, UInt64.le_iff_toNat_le, UInt64.le_iff_toNat_le] at hvalid
    simp only [UInt64.toNat_ofNat', Balanced] at hvalid ⊢
    omega
  · rintro ⟨⟨hsize, hdevices⟩, hbalance⟩
    unfold Balanced at hbalance
    refine ⟨?_, ?_, ?_, ?_, ?_, ?_⟩
    all_goals rw [accounting_eq]
    · simp only [UInt64.toNat_ofNat']
      omega
    · simp only [UInt64.toNat_ofNat']
      omega
    · simp only [UInt64.toNat_ofNat']
      omega
    · simp only [UInt64.toNat_ofNat']
      omega
    · rw [Accounting.isValid, Bool.and_eq_true, decide_eq_true_iff, decide_eq_true_iff,
        UInt64.le_iff_toNat_le, UInt64.le_iff_toNat_le]
      simp only [UInt64.toNat_ofNat']
      omega

/-- The accounting is exact and valid in every state of a run exactly when the
counters hold the numbers of records and every call of the run keeps the balance
of live and stale workers. -/
theorem exact_throughout_iff (coord : CoordinatorId) (epoch : CoordinatorEpoch)
    (ops : List Op) :
    Run.Throughout step AccountingExact (empty coord epoch) ops ↔
      Run.Throughout step CountersFit (empty coord epoch) ops ∧
        Run.Always (fun _ call => call.1.KeepsBalance call.2)
          ((empty coord epoch).history ops) := by
  have hbalance : Run.Throughout step (fun s => Balanced s.workers) (empty coord epoch) ops ↔
      Run.Always (fun _ call => call.1.KeepsBalance call.2)
        ((empty coord epoch).history ops) := by
    apply Run.throughout_iff_always
    · have hnone : (empty coord epoch).workers.toList = [] :=
        Std.ExtTreeMap.toList_eq_nil_iff.mpr rfl
      rw [Balanced, staleCount, liveCount, hnone]
      exact le_rfl
    · intro before op _ _ h
      exact balanced_step_iff h op
  rw [← hbalance]
  simp only [Run.Throughout, accountingExact_iff]
  constructor
  · intro h
    exact ⟨fun before after he => (h before after he).1,
      fun before after he => (h before after he).2⟩
  · rintro ⟨hfit, hbal⟩ before after he
    exact ⟨hfit before after he, hbal before after he⟩

set_option maxRecDepth 4000 in
/-- The only worker is lost. -/
theorem one_loss_invalid :
    ¬(sampleStore.run (sampleReport ++ [.markWorkerLost ⟨1⟩ 6000])).AccountingExact := by
  intro h
  have hvalid := h.valid
  revert hvalid
  decide +kernel

end FleetStateStore

end GpuFleet
