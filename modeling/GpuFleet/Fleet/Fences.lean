import GpuFleet.Fleet.Effects

/-!
# Administrative fences

A device carries two fences that an operator sets: its drain level, and its
quarantine with the record that explains it.  `Fences` is that part of a
device state, and `fencesOf` is what the store holds of it under a key, as
`stampOf` is for the generations.

`ingest_snapshot` builds a whole new device state from every observation and
carries the fences over by hand.  `FenceStep` is the frame: a call keeps the
fences of a device, or it files the device for the first time without any,
or it is the administrative call that names the change and the device.
-/

namespace GpuFleet

/-- The administrative part of a device state. -/
structure Fences where
  drain : DrainState := .active
  quarantined : Bool := false
  quarantine : QuarantineRecord := {}
  deriving DecidableEq

/-- The administrative part of the state of a device. -/
def DeviceState.fences (d : DeviceState) : Fences := ⟨d.drain, d.quarantined, d.quarantine⟩

namespace FleetStateStore

/-- The fences of a device that is on file. -/
def fencesOf (s : FleetStateStore) (key : ByteString) : Option Fences :=
  s.devices[key]?.map DeviceState.fences

theorem fencesOf_of_some {s : FleetStateStore} {key : ByteString} {d : DeviceState}
    (h : s.devices[key]? = some d) : s.fencesOf key = some d.fences := by
  rw [fencesOf, h, Option.map_some]

/-! ## Calls that are not administrative -/

/-- The fences of a device are kept, or the device is new and has none. -/
inductive FenceEffect : Option Fences → Option Fences → Prop
  | kept (r : Option Fences) : FenceEffect r r
  | appeared : FenceEffect none (some {})

theorem FenceEffect.trans {r r' r'' : Option Fences} (h : FenceEffect r r')
    (h' : FenceEffect r' r'') : FenceEffect r r'' := by
  cases h with
  | kept => exact h'
  | appeared =>
    cases h' with
    | kept => exact .appeared

/-- The pipeline takes the fences over from the prior state, and the prior
state of a new device is the default one. -/
theorem commit_fencesOf (s : FleetStateStore) (worker : WorkerId) (o : DeviceObservation)
    (policy : ObservationPolicy) (now : Timestamp) (key : ByteString) :
    FenceEffect (s.fencesOf key) ((s.commit worker o policy now).fencesOf key) := by
  unfold fencesOf
  rw [commit_devices]
  by_cases hkey : o.key = key
  · subst hkey
    have hfences : (s.applyTo o policy now).state.fences
        = (s.devices[o.key]?.getD {}).fences := rfl
    rw [if_pos rfl, Option.map_some, hfences]
    cases s.devices[o.key]? with
    | none => exact .appeared
    | some d => exact .kept _
  · rw [if_neg hkey]
    exact .kept _

theorem markDisappeared_fencesOf {s : FleetStateStore} {gone : ByteString} {d : DeviceState}
    (hd : s.devices[gone]? = some d) (now : Timestamp) (key : ByteString) :
    (s.markDisappeared gone d now).fencesOf key = s.fencesOf key := by
  unfold fencesOf
  rw [markDisappeared_devices]
  by_cases hkey : gone = key
  · subst hkey
    rw [if_pos rfl, hd]
    rfl
  · rw [if_neg hkey]

theorem ingestSnapshot_fencesOf (s : FleetStateStore) (worker : WorkerId)
    (obs : List DeviceObservation) (policy : ObservationPolicy) (now : Timestamp)
    (key : ByteString) :
    FenceEffect (s.fencesOf key)
      ((s.ingestSnapshot worker obs policy now).store.fencesOf key) := by
  apply ingestSnapshot_invariant
    (P := fun t _ => FenceEffect (s.fencesOf key) (t.fencesOf key)) [] (.kept _)
  · intro wr before o st _ h
    exact h.trans (commit_fencesOf st.store worker o policy now key)
  · intro t as gone d h hd
    rw [markDisappeared_fencesOf hd]
    exact h
  · intro t as h
    exact h

theorem loseDevice_fences (d : DeviceState) : (loseDevice d).fences = d.fences := by
  unfold loseDevice
  by_cases hp : d.present = true
  · simp [hp, DeviceState.fences]
  · simp [hp, DeviceState.fences]

theorem markWorkerLost_fencesOf (s : FleetStateStore) (w : WorkerId) (now : Timestamp)
    (key : ByteString) : (s.markWorkerLost w now).store.fencesOf key = s.fencesOf key := by
  unfold fencesOf
  rcases s.markWorkerLost_cases w now with ⟨_, h⟩ | ⟨wr, _, h⟩
  · rw [h.store]
  · rw [h.store]
    simp only [OrderedMap.getElem?_foldl_modify loseDevice loseDevice_idem]
    split
    · rw [Option.map_map]
      congr 1
      funext d
      exact loseDevice_fences d
    · rfl

/-! ## Administrative calls -/

theorem setDrain_fencesOf (s : FleetStateStore) (w : WorkerId) (identity : ByteString)
    (level : DrainState) (now : Timestamp) (key : ByteString) :
    (s.setDrain w identity level now).store.fencesOf key = s.fencesOf key ∨
      identity = key ∧ ∃ f, s.fencesOf key = some f ∧
        (s.setDrain w identity level now).store.fencesOf key
          = some { f with drain := level } := by
  unfold setDrain
  split
  · exact Or.inl rfl
  next dev hdev =>
  split
  · exact Or.inl rfl
  · by_cases hkey : identity = key
    · subst hkey
      refine Or.inr ⟨rfl, dev.fences, fencesOf_of_some hdev, ?_⟩
      simp only [fencesOf, OrderedMap.getElem?_insert_same, Option.map_some]
      rfl
    · refine Or.inl ?_
      simp only [fencesOf, OrderedMap.getElem?_insert_of_ne hkey]

theorem setQuarantine_fencesOf (s : FleetStateStore) (w : WorkerId) (identity : ByteString)
    (q : QuarantineRecord) (now : Timestamp) (key : ByteString) :
    (s.setQuarantine w identity q now).store.fencesOf key = s.fencesOf key ∨
      identity = key ∧ ∃ f, s.fencesOf key = some f ∧
        (s.setQuarantine w identity q now).store.fencesOf key
          = some { f with quarantined := true, quarantine := q } := by
  unfold setQuarantine
  split
  · exact Or.inl rfl
  next dev hdev =>
  split
  · exact Or.inl rfl
  · by_cases hkey : identity = key
    · subst hkey
      refine Or.inr ⟨rfl, dev.fences, fencesOf_of_some hdev, ?_⟩
      simp only [fencesOf]
      split
      · rw [OrderedMap.getElem?_insert_same]
        rfl
      · rw [OrderedMap.getElem?_insert_same]
        rfl
    · refine Or.inl ?_
      simp only [fencesOf]
      split
      · rw [OrderedMap.getElem?_insert_of_ne hkey]
      · rw [OrderedMap.getElem?_insert_of_ne hkey]

theorem clearQuarantine_fencesOf (s : FleetStateStore) (w : WorkerId) (identity : ByteString)
    (epoch : CoordinatorEpoch) (now : Timestamp) (key : ByteString) :
    (s.clearQuarantine w identity epoch now).store.fencesOf key = s.fencesOf key ∨
      identity = key ∧ epoch = s.epoch ∧ ¬(s.clearQuarantine w identity epoch now).Failed ∧
        ∃ f, s.fencesOf key = some f ∧
          (s.clearQuarantine w identity epoch now).store.fencesOf key
            = some { f with quarantined := false, quarantine := {} } := by
  unfold clearQuarantine
  split
  · exact Or.inl rfl
  next hepoch =>
  split
  · exact Or.inl rfl
  next dev hdev =>
  split
  · exact Or.inl rfl
  · by_cases hkey : identity = key
    · subst hkey
      refine Or.inr ⟨rfl, not_not.mp hepoch, Outcome.not_failed_ok, dev.fences,
        fencesOf_of_some hdev, ?_⟩
      simp only [fencesOf, OrderedMap.getElem?_insert_same, Option.map_some]
      rfl
    · refine Or.inl ?_
      simp only [fencesOf, OrderedMap.getElem?_insert_of_ne hkey]

/-! ## All of them -/

/-- What a call does to the fences of one device. -/
inductive FenceStep (s : FleetStateStore) (op : Op) (key : ByteString) : Prop
  | untouched (heffect : FenceEffect (s.fencesOf key) ((s.step op).fencesOf key))
  | drained (w : WorkerId) (level : DrainState) (now : Timestamp) (f : Fences)
      (hop : op = .setDrain w key level now) (hbefore : s.fencesOf key = some f)
      (hafter : (s.step op).fencesOf key = some { f with drain := level })
  | quarantined (w : WorkerId) (q : QuarantineRecord) (now : Timestamp) (f : Fences)
      (hop : op = .setQuarantine w key q now) (hbefore : s.fencesOf key = some f)
      (hafter : (s.step op).fencesOf key
        = some { f with quarantined := true, quarantine := q })
  | cleared (w : WorkerId) (now : Timestamp) (f : Fences)
      (hop : op = .clearQuarantine w key s.epoch now) (hok : ¬(s.exec op).Failed)
      (hbefore : s.fencesOf key = some f)
      (hafter : (s.step op).fencesOf key
        = some { f with quarantined := false, quarantine := {} })

theorem FenceStep.same {s : FleetStateStore} {op : Op} {key : ByteString}
    (h : (s.step op).fencesOf key = s.fencesOf key) : FenceStep s op key := by
  refine .untouched ?_
  rw [h]
  exact .kept _

theorem step_fences {s : FleetStateStore} {op : Op} (hrestore : ¬op.IsRestore)
    (key : ByteString) : FenceStep s op key := by
  cases op with
  | rollEpoch ne =>
    apply FenceStep.same
    rcases s.rollEpoch_cases ne with ⟨_, h⟩ | ⟨_, h⟩
    · rw [step, exec, h.store]
    · rw [step, exec, h.store]
      rfl
  | registerWorker reg now =>
    apply FenceStep.same
    rw [step, exec, Outcome.void, fencesOf, registerWorker_devices]
    rfl
  | restore snap => exact absurd trivial hrestore
  | markWorkerLost w now => exact .same (s.markWorkerLost_fencesOf w now key)
  | ingestSnapshot worker obs policy now =>
    exact .untouched (s.ingestSnapshot_fencesOf worker obs policy now key)
  | heartbeat worker boot epoch now hg =>
    apply FenceStep.same
    rcases s.heartbeat_cases worker boot epoch now hg with ⟨h, _⟩ | ⟨_, _, _, _, h⟩
    · rw [step, exec, h.store]
    · rw [step, exec, h.store]
      rfl
  | setDrain w identity level now =>
    rcases s.setDrain_fencesOf w identity level now key with h | ⟨rfl, f, hbefore, hafter⟩
    · exact .same h
    · exact .drained w level now f rfl hbefore hafter
  | setQuarantine w identity q now =>
    rcases s.setQuarantine_fencesOf w identity q now key with h | ⟨rfl, f, hbefore, hafter⟩
    · exact .same h
    · exact .quarantined w q now f rfl hbefore hafter
  | clearQuarantine w identity epoch now =>
    rcases s.clearQuarantine_fencesOf w identity epoch now key with
      h | ⟨rfl, rfl, hok, f, hbefore, hafter⟩
    · exact .same h
    · exact .cleared w now f rfl hok hbefore hafter

/-! ## Runs -/

/-- The call treats the fences of the device as an operator's business. -/
structure FencesAdministered (s : FleetStateStore) (op : Op) (key : ByteString) : Prop where
  /-- A device stays on file. -/
  stays : ∀ d, s.devices[key]? = some d → ∃ d', (s.step op).devices[key]? = some d'
  drain : ∀ d d', s.devices[key]? = some d → (s.step op).devices[key]? = some d' →
    d'.drain ≠ d.drain → ∃ w now, op = .setDrain w key d'.drain now
  raised : ∀ d d', s.devices[key]? = some d → (s.step op).devices[key]? = some d' →
    d.quarantined = false → d'.quarantined = true → ∃ w q now, op = .setQuarantine w key q now
  lowered : ∀ d d', s.devices[key]? = some d → (s.step op).devices[key]? = some d' →
    d.quarantined = true → d'.quarantined = false →
      ∃ w now, op = .clearQuarantine w key s.epoch now
  record : ∀ d d', s.devices[key]? = some d → (s.step op).devices[key]? = some d' →
    d'.quarantine ≠ d.quarantine →
      (∃ w now, op = .setQuarantine w key d'.quarantine now) ∨
        ∃ w now, op = .clearQuarantine w key s.epoch now
  /-- A device that is filed for the first time has no fence. -/
  unfenced : ∀ d', s.devices[key]? = none → (s.step op).devices[key]? = some d' →
    d'.drain = .active ∧ d'.quarantined = false

/-- The states of a device on both sides of a call, from their fences. -/
theorem fences_of_step {s t : FleetStateStore} {key : ByteString} {d d' : DeviceState}
    {f f' : Fences} (hd : s.devices[key]? = some d) (hd' : t.devices[key]? = some d')
    (hbefore : s.fencesOf key = some f) (hafter : t.fencesOf key = some f') :
    d.fences = f ∧ d'.fences = f' := by
  rw [fencesOf_of_some hd] at hbefore
  rw [fencesOf_of_some hd'] at hafter
  exact ⟨Option.some.inj hbefore, Option.some.inj hafter⟩

/-- A call that keeps the fences meets the frame. -/
theorem FencesAdministered.of_effect {s : FleetStateStore} {op : Op} {key : ByteString}
    (h : FenceEffect (s.fencesOf key) ((s.step op).fencesOf key)) :
    FencesAdministered s op key := by
  have hsame : ∀ d d', s.devices[key]? = some d → (s.step op).devices[key]? = some d' →
      d'.fences = d.fences := by
    intro d d' hd hd'
    rw [fencesOf_of_some hd, fencesOf_of_some hd'] at h
    generalize d.fences = f, d'.fences = f' at h ⊢
    cases h with
    | kept => rfl
  refine ⟨?_, ?_, ?_, ?_, ?_, ?_⟩
  · intro d hd
    rw [fencesOf_of_some hd] at h
    generalize hr : (s.step op).fencesOf key = r at h
    cases h with
    | kept =>
      obtain ⟨d', hd', _⟩ := Option.map_eq_some_iff.mp hr
      exact ⟨d', hd'⟩
  · intro d d' hd hd' hne
    exact absurd (congrArg Fences.drain (hsame d d' hd hd')) hne
  · intro d d' hd hd' hq hq'
    have heq : d'.quarantined = d.quarantined :=
      congrArg Fences.quarantined (hsame d d' hd hd')
    rw [hq, hq'] at heq
    cases heq
  · intro d d' hd hd' hq hq'
    have heq : d'.quarantined = d.quarantined :=
      congrArg Fences.quarantined (hsame d d' hd hd')
    rw [hq, hq'] at heq
    cases heq
  · intro d d' hd hd' hne
    exact absurd (congrArg Fences.quarantine (hsame d d' hd hd')) hne
  · intro d' hd hd'
    rw [fencesOf, hd, Option.map_none, fencesOf_of_some hd'] at h
    generalize hr : d'.fences = r at h
    cases h with
    | appeared => exact ⟨congrArg Fences.drain hr, congrArg Fences.quarantined hr⟩

/-- A call that changes the fences of a device on file meets the frame when
the fields it changes are those it is allowed to change. -/
theorem FencesAdministered.of_change {s : FleetStateStore} {op : Op} {key : ByteString}
    {f f' : Fences} (hbefore : s.fencesOf key = some f)
    (hafter : (s.step op).fencesOf key = some f')
    (hdrain : f'.drain ≠ f.drain → ∃ w now, op = .setDrain w key f'.drain now)
    (hraised : f.quarantined = false → f'.quarantined = true →
      ∃ w q now, op = .setQuarantine w key q now)
    (hlowered : f.quarantined = true → f'.quarantined = false →
      ∃ w now, op = .clearQuarantine w key s.epoch now)
    (hrecord : f'.quarantine ≠ f.quarantine →
      (∃ w now, op = .setQuarantine w key f'.quarantine now) ∨
        ∃ w now, op = .clearQuarantine w key s.epoch now) :
    FencesAdministered s op key := by
  refine ⟨?_, ?_, ?_, ?_, ?_, ?_⟩
  · intro d _
    obtain ⟨d', hd', _⟩ := Option.map_eq_some_iff.mp hafter
    exact ⟨d', hd'⟩
  · intro d d' hd hd' hne
    obtain ⟨rfl, rfl⟩ := fences_of_step hd hd' hbefore hafter
    exact hdrain hne
  · intro d d' hd hd' hq hq'
    obtain ⟨rfl, rfl⟩ := fences_of_step hd hd' hbefore hafter
    exact hraised hq hq'
  · intro d d' hd hd' hq hq'
    obtain ⟨rfl, rfl⟩ := fences_of_step hd hd' hbefore hafter
    exact hlowered hq hq'
  · intro d d' hd hd' hne
    obtain ⟨rfl, rfl⟩ := fences_of_step hd hd' hbefore hafter
    exact hrecord hne
  · intro d' hd _
    rw [fencesOf, hd] at hbefore
    cases hbefore

/-- One call. -/
theorem fencesAdministered_step {s : FleetStateStore} {op : Op} (hrestore : ¬op.IsRestore)
    (key : ByteString) : FencesAdministered s op key := by
  cases step_fences hrestore key with
  | untouched heffect => exact .of_effect heffect
  | drained w level now f hop hbefore hafter =>
    refine .of_change hbefore hafter (fun _ => ⟨w, now, hop⟩) ?_ ?_ (fun h => absurd rfl h)
    · intro hq hq'
      rw [hq] at hq'
      cases hq'
    · intro hq hq'
      rw [hq] at hq'
      cases hq'
  | quarantined w q now f hop hbefore hafter =>
    refine .of_change hbefore hafter (fun h => absurd rfl h) (fun _ _ => ⟨w, q, now, hop⟩) ?_
      (fun _ => Or.inl ⟨w, now, hop⟩)
    intro _ hq'
    cases hq'
  | cleared w now f hop hok hbefore hafter =>
    refine .of_change hbefore hafter (fun h => absurd rfl h) ?_ (fun _ _ => ⟨w, now, hop⟩)
      (fun _ => Or.inr ⟨w, now, hop⟩)
    intro _ hq'
    cases hq'

/-- Along every run without a recovery: no device is removed, its drain level
changes only in a `set_drain` on it, it is quarantined only by a
`set_quarantine` on it and released only by a `clear_quarantine` on it in the
current epoch, its quarantine record changes only in these two calls, and a
device that is new is active and not quarantined. -/
theorem fences_administered (coord : CoordinatorId) (epoch : CoordinatorEpoch) (ops : List Op)
    (hops : ∀ op ∈ ops, ¬op.IsRestore) :
    ∀ call ∈ (empty coord epoch).history ops, ∀ key, FencesAdministered call.1 call.2 key := by
  intro call hcall key
  have hop : call.2 ∈ ops := by
    have hmem := List.mem_map_of_mem (f := Prod.snd) hcall
    rwa [history, Run.map_snd_history] at hmem
  exact fencesAdministered_step (hops call.2 hop) key

set_option maxRecDepth 4000 in
/-- The sample device stays on file when it is reported and then drained. -/
theorem fences_administered_drain :
    FencesAdministered (sampleStore.run sampleReport)
      (.setDrain ⟨1⟩ sampleKey .draining 6000) sampleKey := by
  refine fences_administered ⟨1⟩ ⟨1⟩ (sampleReport ++ [.setDrain ⟨1⟩ sampleKey .draining 6000])
    ?_ (sampleStore.run sampleReport, .setDrain ⟨1⟩ sampleKey .draining 6000) ?_ sampleKey
  · intro op hop
    simp only [sampleReport, List.cons_append, List.nil_append, List.mem_cons,
      List.not_mem_nil, or_false] at hop
    rcases hop with rfl | rfl | rfl <;> exact fun h => h
  · rw [history, Run.history_concat]
    exact List.mem_append_right _ List.mem_cons_self

end FleetStateStore

end GpuFleet
