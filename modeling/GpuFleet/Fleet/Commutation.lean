import GpuFleet.Fleet.Bounds
import GpuFleet.Fleet.ChangeLog
import GpuFleet.Lib.Footprint

/-!
# Ingests of independent workers

An ingest for a worker reads the epoch, the record of the worker, and the
devices that its batch brings or that the record lists: its footprint.  It
writes the record and the devices, and it appends to the log and adds to the
counter whatever these hold.

`Alike` relates two runs of the ingest on stores that agree on the footprint,
through the loop over the batch and through the disappearance loop, and
`ingest_within` says with it that the ingest is within its footprint.  The main
result, `independent_ingests_commute`, is then the rule of
`GpuFleet.Lib.Footprint` for two workers with disjoint footprints, with the log
and the counter beside it.
-/

namespace GpuFleet

/-- A part of the store that an ingest looks at or that it must leave alone. -/
inductive Cell
  | epoch
  | nodes
  | worker (w : WorkerId)
  | device (key : ByteString)

/-- What is in a cell. -/
def Cell.Value : Cell → Type
  | .epoch => CoordinatorEpoch
  | .nodes => Map NodeId NodeRecord
  | .worker _ => Option WorkerRecord
  | .device _ => Option DeviceState

namespace FleetStateStore

/-- The content of a cell. -/
def look (s : FleetStateStore) : (c : Cell) → c.Value
  | .epoch => s.epoch
  | .nodes => s.nodes
  | .worker w => s.workers[w]?
  | .device key => s.devices[key]?

/-- The devices on the list of a worker. -/
def listedFor (s : FleetStateStore) (worker : WorkerId) : List ByteString :=
  (s.workers[worker]?.map WorkerRecord.deviceIdentities).getD []

/-- The devices of a batch and the devices on the list of its worker. -/
def footprint (s : FleetStateStore) (worker : WorkerId) (obs : List DeviceObservation) :
    List ByteString :=
  obs.map DeviceObservation.key ++ s.listedFor worker

/-- The cells that an ingest writes. -/
def writesOf (worker : WorkerId) (keys : List ByteString) : Set Cell
  | .worker w => w = worker
  | .device key => key ∈ keys
  | _ => False

/-- The cells that an ingest reads. -/
def readsOf (worker : WorkerId) (keys : List ByteString) : Set Cell
  | .epoch => True
  | c => writesOf worker keys c

/-! ## Two runs of the loops -/

/-- Two states of the ingest loop, on stores that agree on the record of the
worker and on the devices `keys`.  The list of the worker stays within `keys`. -/
structure Alike (worker : WorkerId) (keys : List ByteString) (st tu : IngestState) : Prop where
  epoch : st.store.epoch = tu.store.epoch
  record : st.store.workers[worker]? = tu.store.workers[worker]?
  listed : ∀ key ∈ st.store.listedFor worker, key ∈ keys
  devices : ∀ key ∈ keys, st.store.devices[key]? = tu.store.devices[key]?
  seenKeys : st.seenKeys = tu.seenKeys
  last : st.last = tu.last
  logged : st.logged = tu.logged
  applied : st.applied = tu.applied

section Loops

variable {worker : WorkerId} {keys : List ByteString} {st tu : IngestState}

theorem Alike.applyTo (h : Alike worker keys st tu) {o : DeviceObservation} (ho : o.key ∈ keys)
    (policy : ObservationPolicy) (now : Timestamp) :
    st.store.applyTo o policy now = tu.store.applyTo o policy now := by
  unfold FleetStateStore.applyTo
  rw [h.epoch, h.devices o.key ho]

theorem Alike.stampOf (h : Alike worker keys st tu) {key : ByteString} (hkey : key ∈ keys) :
    st.store.stampOf key = tu.store.stampOf key := by
  unfold FleetStateStore.stampOf
  rw [h.devices key hkey]

theorem listedFor_commit (s : FleetStateStore) (worker : WorkerId) (o : DeviceObservation)
    (policy : ObservationPolicy) (now : Timestamp) {key : ByteString}
    (h : key ∈ (s.commit worker o policy now).listedFor worker) :
    key = o.key ∨ key ∈ s.listedFor worker := by
  unfold listedFor at h ⊢
  rw [commit_record] at h
  cases hwr : s.workers[worker]? with
  | none =>
    rw [hwr] at h
    cases h
  | some wr =>
    rw [hwr] at h
    rcases List.mem_append.mp h with h | h
    · exact Or.inr h
    · split at h
      · cases h
      · exact Or.inl (List.mem_singleton.mp h)

theorem Alike.commit (h : Alike worker keys st tu) {o : DeviceObservation} (ho : o.key ∈ keys)
    (policy : ObservationPolicy) (now : Timestamp) :
    Alike worker keys (st.commit worker o policy now) (tu.commit worker o policy now) where
  epoch := h.epoch
  record := by
    have hknown : st.store.devices.contains o.key = tu.store.devices.contains o.key := by
      rw [Std.ExtTreeMap.contains_eq_isSome_getElem?, Std.ExtTreeMap.contains_eq_isSome_getElem?,
        h.devices o.key ho]
    rw [IngestState.commit, IngestState.commit, commit_record, commit_record, hknown, h.record]
  listed := by
    intro key hkey
    rcases listedFor_commit _ _ _ _ _ hkey with rfl | hkey
    · exact ho
    · exact h.listed key hkey
  devices := by
    intro key hkey
    rw [IngestState.commit, IngestState.commit, commit_devices, commit_devices,
      h.applyTo ho, h.devices key hkey]
  seenKeys := by rw [IngestState.commit, IngestState.commit, h.seenKeys]
  last := h.applyTo ho policy now
  logged := by
    simp only [IngestState.commit]
    rw [h.logged, h.applyTo ho]
  applied := by
    simp only [IngestState.commit]
    rw [h.applied, h.applyTo ho]

theorem Alike.ingestLoop (h : Alike worker keys st tu) (boot : WorkerBootId)
    (policy : ObservationPolicy) (now : Timestamp) {obs : List DeviceObservation}
    (hobs : ∀ o ∈ obs, o.key ∈ keys) :
    Alike worker keys (ingestLoop worker boot policy now obs st).1
        (ingestLoop worker boot policy now obs tu).1 ∧
      (ingestLoop worker boot policy now obs st).2
        = (ingestLoop worker boot policy now obs tu).2 := by
  induction obs generalizing st tu with
  | nil => exact ⟨h, rfl⟩
  | cons o rest ih =>
    rw [List.forall_mem_cons] at hobs
    obtain ⟨ho, hrest⟩ := hobs
    simp only [FleetStateStore.ingestLoop, h.epoch, h.stampOf ho]
    cases gate tu.store.epoch worker boot (tu.store.stampOf o.key) o with
    | refuse err => exact ⟨h, rfl⟩
    | skip => exact ih h hrest
    | pass => exact ih (h.commit ho policy now) hrest

/-- The disappearance loop does the same to both as long as it goes through
devices on which the stores agree. -/
theorem Alike.disappear (h : Alike worker keys st tu) (seen : List ByteString) (now : Timestamp)
    {gone : List ByteString} (hgone : ∀ key ∈ gone, key ∈ keys) :
    Alike worker keys (gone.foldl (disappear seen now) st)
      (gone.foldl (disappear seen now) tu) := by
  induction gone generalizing st tu with
  | nil => exact h
  | cons key rest ih =>
    rw [List.forall_mem_cons] at hgone
    obtain ⟨hkey, hrest⟩ := hgone
    rw [List.foldl_cons, List.foldl_cons]
    refine ih ?_ hrest
    simp only [FleetStateStore.disappear, ← h.devices key hkey]
    split
    · exact h
    cases hd : st.store.devices[key]? with
    | none => exact h
    | some d =>
      refine { h with devices := ?_, logged := ?_ }
      · intro a ha
        rw [markDisappeared_devices, markDisappeared_devices, h.devices a ha]
      · simp only [h.logged, h.epoch]

theorem Alike.agree (h : Alike worker keys st tu) :
    Footprint.Agree look (writesOf worker keys) tu.store st.store := by
  intro c hc
  cases c with
  | worker w =>
    obtain rfl : w = worker := hc
    exact h.record.symm
  | device key => exact (h.devices key hc).symm
  | _ => exact absurd hc fun hf => hf

/-- The end of the ingest does the same to both. -/
theorem Alike.finishIngest (h : Alike worker keys st tu) (now : Timestamp) :
    (finishIngest tu worker now).result = (finishIngest st worker now).result ∧
      (finishIngest tu worker now).logged = (finishIngest st worker now).logged ∧
      (finishIngest tu worker now).applied = (finishIngest st worker now).applied ∧
      Footprint.Agree look (writesOf worker keys) (finishIngest tu worker now).store
        (finishIngest st worker now).store := by
  have hend := h.disappear st.seenKeys now h.listed
  simp only [FleetStateStore.finishIngest, ← h.record, ← h.seenKeys]
  refine ⟨congrArg Except.ok hend.last.symm, hend.logged.symm, hend.applied.symm, ?_⟩
  intro c hc
  cases c with
  | worker w =>
    obtain rfl : w = worker := hc
    simp only [look, touchWorker, OrderedMap.getElem?_modify_same]
    exact congrArg _ hend.record.symm
  | _ => exact hend.agree _ hc

end Loops

/-! ## The footprint of an ingest -/

section Ingest

variable (worker : WorkerId) (obs : List DeviceObservation) (policy : ObservationPolicy)
  (now : Timestamp)

/-- The call with everything it answers and records. -/
def ingestCall (s : FleetStateStore) :
    FleetStateStore × Except Error AppliedObservation × List ChangeRecord × List Application :=
  let out := s.ingestSnapshot worker obs policy now
  (out.store, out.result, out.logged, out.applied)

variable {worker obs policy now} {s t : FleetStateStore}

theorem ingestSnapshot_devices_of_not_mem {key : ByteString}
    (hkey : key ∉ s.footprint worker obs) :
    (s.ingestSnapshot worker obs policy now).store.devices[key]? = s.devices[key]? := by
  rw [footprint, List.mem_append, List.mem_map, not_or] at hkey
  obtain ⟨hnamed, hlisted⟩ := hkey
  cases hwr : s.workers[worker]? with
  | none => rw [ingestSnapshot_unregistered hwr]
  | some wr =>
    apply ingestSnapshot_kept hwr
    · rintro ⟨o, ho, rfl⟩
      exact hnamed ⟨o, (List.of_mem_zip ho).1, rfl⟩
    · intro hgone
      apply hlisted
      rw [listedFor, hwr]
      exact hgone.listed

/-- An ingest writes nothing outside its footprint. -/
theorem ingestSnapshot_frame {c : Cell} (hc : c ∉ writesOf worker (s.footprint worker obs)) :
    look (s.ingestSnapshot worker obs policy now).store c = s.look c := by
  cases c with
  | epoch => exact s.ingestSnapshot_epoch worker obs policy now
  | nodes => exact s.ingestSnapshot_nodes worker obs policy now
  | worker w => exact ingestSnapshot_workers_of_ne hc
  | device key => exact ingestSnapshot_devices_of_not_mem hc

/-- On stores that agree on its footprint, an ingest does the same. -/
theorem ingestSnapshot_alike
    (h : Footprint.Agree look (readsOf worker (s.footprint worker obs)) s t) :
    (ingestCall worker obs policy now t).2 = (ingestCall worker obs policy now s).2 ∧
      Footprint.Agree look (writesOf worker (s.footprint worker obs))
        (t.ingestSnapshot worker obs policy now).store
        (s.ingestSnapshot worker obs policy now).store := by
  have hrecord : s.workers[worker]? = t.workers[worker]? := h (.worker worker) rfl
  have hstart : Alike worker (s.footprint worker obs) { store := s } { store := t } :=
    { epoch := h .epoch trivial
      record := hrecord
      listed := fun key hkey => List.mem_append_right _ hkey
      devices := fun key hkey => h (.device key) hkey
      seenKeys := rfl, last := rfl, logged := rfl, applied := rfl }
  have hsame := hstart.agree
  cases hwr : s.workers[worker]? with
  | none =>
    rw [ingestCall, ingestCall, ingestSnapshot_unregistered hwr,
      ingestSnapshot_unregistered (hrecord ▸ hwr)]
    exact ⟨rfl, hsame⟩
  | some wr =>
    by_cases hdead : wr.lost = true ∨ wr.fenced = true
    · rw [ingestCall, ingestCall, ingestSnapshot_dead hwr hdead,
        ingestSnapshot_dead (hrecord ▸ hwr) hdead]
      exact ⟨rfl, hsame⟩
    rw [not_or, Bool.not_eq_true, Bool.not_eq_true] at hdead
    obtain ⟨hlost, hfenced⟩ := hdead
    have hkeys : ∀ o ∈ obs, o.key ∈ s.footprint worker obs :=
      fun o ho => List.mem_append_left _ (List.mem_map_of_mem ho)
    obtain ⟨halike, hresult⟩ := hstart.ingestLoop wr.boot policy now hkeys
    rw [ingestCall, ingestCall, ingestSnapshot_live hwr hlost hfenced,
      ingestSnapshot_live (hrecord ▸ hwr) hlost hfenced]
    generalize ingestLoop worker wr.boot policy now obs { store := s } = out at halike hresult
    generalize ingestLoop worker wr.boot policy now obs { store := t } = out' at halike hresult
    obtain ⟨st, res⟩ := out
    obtain ⟨tu, res'⟩ := out'
    obtain rfl : res = res' := hresult
    cases res with
    | error err =>
      have hlog : st.logged = tu.logged := halike.logged
      have happ : st.applied = tu.applied := halike.applied
      refine ⟨?_, halike.agree⟩
      simp only [hlog, happ]
    | ok _ =>
      obtain ⟨hres, hlog, happ, hagree⟩ := halike.finishIngest now
      refine ⟨?_, hagree⟩
      simp only [hres, hlog, happ]

variable (s worker obs policy now)

theorem ingest_within :
    Footprint.Within look (ingestCall worker obs policy now)
      (readsOf worker (s.footprint worker obs)) (writesOf worker (s.footprint worker obs)) s where
  writes_subset := by
    intro c hc
    cases c with
    | epoch => exact trivial
    | _ => exact hc
  frame := by
    intro t ht c hc
    apply ingestSnapshot_frame
    have hrecord : s.workers[worker]? = t.workers[worker]? := ht (.worker worker) rfl
    have hsame : t.footprint worker obs = s.footprint worker obs := by
      rw [footprint, footprint, listedFor, listedFor, hrecord]
    rw [hsame]
    exact hc
  answer := fun _ ht => (ingestSnapshot_alike ht).1
  written := fun _ ht => (ingestSnapshot_alike ht).2

/-- An ingest adds to the counter what it applied. -/
theorem ingestSnapshot_accepted :
    (s.ingestSnapshot worker obs policy now).store.acceptedObservations
      = s.acceptedObservations
        + UInt64.ofNat (s.ingestSnapshot worker obs policy now).applied.length := by
  apply ingestSnapshot_invariant
    (P := fun t apps => t.acceptedObservations
      = s.acceptedObservations + UInt64.ofNat apps.length) []
  · simp
  · intro _ _ o st _ h
    rw [List.length_append, UInt64.ofNat_add, ← UInt64.add_assoc, ← h]
    rfl
  · intro _ _ _ _ h _
    exact h
  · intro _ _ h
    exact h

end Ingest

/-! ## The log below its bound -/

theorem pushChange_of_lt {log : List ChangeRecord} (c : ChangeRecord)
    (h : log.length < kMaxChangeLog) : pushChange log c = log ++ [c] := by
  have hfits : ¬(log ++ [c]).length > kMaxChangeLog := by
    simp only [List.length_append, List.length_singleton]
    omega
  simp only [pushChange, if_neg hfits]

theorem length_le_pushChange (log : List ChangeRecord) (c : ChangeRecord) :
    log.length ≤ (pushChange log c).length := by
  simp only [pushChange]
  split <;> simp

@[simp] theorem pushChanges_cons (log : List ChangeRecord) (c : ChangeRecord)
    (cs : List ChangeRecord) :
    pushChanges log (c :: cs) = pushChanges (pushChange log c) cs := rfl

theorem length_le_pushChanges (log cs : List ChangeRecord) :
    log.length ≤ (pushChanges log cs).length := by
  induction cs generalizing log with
  | nil => exact le_rfl
  | cons c cs ih => exact (length_le_pushChange log c).trans (ih (pushChange log c))

/-- A log that ends below its bound has dropped nothing. -/
theorem pushChanges_of_lt {log cs : List ChangeRecord}
    (h : (pushChanges log cs).length < kMaxChangeLog) : pushChanges log cs = log ++ cs := by
  induction cs generalizing log with
  | nil => exact (List.append_nil log).symm
  | cons c cs ih =>
    have hfirst : (pushChange log c).length < kMaxChangeLog :=
      (length_le_pushChanges (pushChange log c) cs).trans_lt h
    rw [pushChanges_cons, ih h,
      pushChange_of_lt c ((length_le_pushChange log c).trans_lt hfirst), List.append_assoc,
      List.singleton_append]

/-- A log that has room for the records takes all of them. -/
theorem pushChanges_of_le {log cs : List ChangeRecord}
    (h : log.length + cs.length ≤ kMaxChangeLog) : pushChanges log cs = log ++ cs := by
  induction cs generalizing log with
  | nil => exact (List.append_nil log).symm
  | cons c cs ih =>
    rw [List.length_cons] at h
    have hroom : (log ++ [c]).length + cs.length ≤ kMaxChangeLog := by
      rw [List.length_append, List.length_singleton]
      omega
    rw [pushChanges_cons, pushChange_of_lt c (by omega), ih hroom, List.append_assoc,
      List.singleton_append]

/-- Two batches of records end up in the log in either order. -/
theorem pushChanges_perm {log cs₁ cs₂ : List ChangeRecord}
    (h : (pushChanges (pushChanges log cs₁) cs₂).length < kMaxChangeLog) :
    (pushChanges (pushChanges log cs₁) cs₂).Perm (pushChanges (pushChanges log cs₂) cs₁) := by
  have hfirst := pushChanges_of_lt ((length_le_pushChanges (pushChanges log cs₁) cs₂).trans_lt h)
  have hboth := pushChanges_of_lt h
  rw [hboth, hfirst] at h
  simp only [List.length_append] at h
  have hsecond : pushChanges log cs₂ = log ++ cs₂ := pushChanges_of_le (by omega)
  have hother : pushChanges (log ++ cs₂) cs₁ = log ++ cs₂ ++ cs₁ :=
    pushChanges_of_le (by rw [List.length_append]; omega)
  rw [hboth, hfirst, hsecond, hother, List.append_assoc, List.append_assoc]
  exact List.perm_append_comm.append_left log

/-! ## Two ingests -/

/-- Two ingests give the same answers and the same store in either order.  The
order shows in the change log only. -/
structure Commute (s : FleetStateStore)
    (call₁ call₂ : FleetStateStore → Outcome AppliedObservation) : Prop where
  result₁ : (call₁ s).result = (call₁ (call₂ s).store).result
  result₂ : (call₂ (call₁ s).store).result = (call₂ s).result
  devices : (call₂ (call₁ s).store).store.devices = (call₁ (call₂ s).store).store.devices
  workers : (call₂ (call₁ s).store).store.workers = (call₁ (call₂ s).store).store.workers
  nodes : (call₂ (call₁ s).store).store.nodes = (call₁ (call₂ s).store).store.nodes
  epoch : (call₂ (call₁ s).store).store.epoch = (call₁ (call₂ s).store).store.epoch
  accepted : (call₂ (call₁ s).store).store.acceptedObservations
    = (call₁ (call₂ s).store).store.acceptedObservations
  changeLog : (call₂ (call₁ s).store).store.changeLog.length < kMaxChangeLog →
    (call₂ (call₁ s).store).store.changeLog.Perm (call₁ (call₂ s).store).store.changeLog

/-- In every state, reachable or not, the ingests of two workers with disjoint
footprints commute. -/
theorem independent_ingests_commute (s : FleetStateStore) {w₁ w₂ : WorkerId} (hw : w₁ ≠ w₂)
    (obs₁ obs₂ : List DeviceObservation) (policy₁ policy₂ : ObservationPolicy)
    (now₁ now₂ : Timestamp)
    (hdisj : ∀ key ∈ s.footprint w₁ obs₁, key ∉ s.footprint w₂ obs₂) :
    s.Commute (fun t => t.ingestSnapshot w₁ obs₁ policy₁ now₁)
      (fun t => t.ingestSnapshot w₂ obs₂ policy₂ now₂) := by
  have h₁ := s.ingest_within w₁ obs₁ policy₁ now₁
  have h₂ := s.ingest_within w₂ obs₂ policy₂ now₂
  have h₁₂ : ∀ c ∈ writesOf w₁ (s.footprint w₁ obs₁), c ∉ readsOf w₂ (s.footprint w₂ obs₂) := by
    intro c hc₁ hc₂
    cases c with
    | worker w => exact hw (Eq.trans (Eq.symm hc₁) hc₂)
    | device key => exact hdisj key hc₁ hc₂
    | _ => exact hc₁
  have h₂₁ : ∀ c ∈ writesOf w₂ (s.footprint w₂ obs₂), c ∉ readsOf w₁ (s.footprint w₁ obs₁) := by
    intro c hc₂ hc₁
    cases c with
    | worker w => exact hw (Eq.trans (Eq.symm hc₁) hc₂)
    | device key => exact hdisj key hc₁ hc₂
    | _ => exact hc₂
  have hanswer₁ := h₂.answer_after h₁ h₂₁
  have hanswer₂ := h₁.answer_after h₂ h₁₂
  have hcells := h₁.commute h₂ h₁₂ h₂₁
  simp only [ingestCall, Prod.mk.injEq] at hanswer₁ hanswer₂
  obtain ⟨hresult₁, hlogged₁, happlied₁⟩ := hanswer₁
  obtain ⟨hresult₂, hlogged₂, happlied₂⟩ := hanswer₂
  refine ⟨hresult₁.symm, hresult₂, ?_, ?_, hcells .nodes, hcells .epoch, ?_, ?_⟩
  · exact Std.ExtTreeMap.ext_getElem? fun key => hcells (.device key)
  · exact Std.ExtTreeMap.ext_getElem? fun w => hcells (.worker w)
  · simp only [ingestSnapshot_accepted, happlied₁, happlied₂]
    rw [UInt64.add_assoc, UInt64.add_assoc, UInt64.add_comm (UInt64.ofNat _)]
  · simp only [ingestSnapshot_pushed, hlogged₁, hlogged₂]
    exact pushChanges_perm

/-- Two workers that report a device each. -/
theorem first_reports_commute :
    (sampleStore.run
        [.registerWorker (sampleRegistration 1 10 1) 1000,
          .registerWorker (sampleRegistration 2 20 1 [text "spare"]) 1000]).Commute
      (fun t => t.ingestSnapshot ⟨1⟩ [sampleObservation 1 10 1] {} 5000)
      (fun t => t.ingestSnapshot ⟨2⟩
        [{ sampleObservation 2 20 1 with identity := { uuid := ⟨text "GPU-1"⟩ } }] {} 6000) :=
  independent_ingests_commute _ (by decide) _ _ {} {} 5000 6000 (by decide +kernel)

end FleetStateStore

end GpuFleet
