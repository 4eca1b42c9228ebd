import GpuFleet.Lib.Rendering
import GpuFleet.Observation.Pipeline

/-!
# Changes without a record

`diffDeviceState` is said to emit every changed axis.  Each axis has a test of
its own, and three of the tests let some changes through (`Overlooked`): a
memory that becomes 0, capabilities that read the same when their names and
values are joined, and drain transitions that have no record.
`diffDeviceState_complete_iff` is the exact statement.

The joined text of the capabilities does not tell where a name ends, and it
has neither the kind, nor the id, nor the description.
-/

namespace GpuFleet

open Rendering

/-- The transitions of the drain state that have a record. -/
def DrainState.Recorded (d d' : DrainState) : Prop :=
  d = .active ∧ d' ≠ .active ∨ d = .draining ∧ d' = .drained

namespace DeviceState

/-- No axis of the device has changed.  An observation may become fresh
again. -/
structure Unchanged (prior cand : DeviceState) : Prop where
  present : prior.present = cand.present
  identity : prior.identity = cand.identity
  totalMemory : prior.totalMemory = cand.totalMemory
  health : prior.health = cand.health
  capabilities : prior.capabilities = cand.capabilities
  eligibility : prior.eligibility = cand.eligibility
  sourceWorkerBoot : prior.sourceWorkerBoot = cand.sourceWorkerBoot
  fresh : prior.observationFresh = true → cand.observationFresh = true
  drain : prior.drain = cand.drain
  quarantined : prior.quarantined = cand.quarantined

/-- The differences that a record is written for. -/
inductive Noticed (prior cand : DeviceState) : Prop
  | present (h : prior.present ≠ cand.present)
  | identity (h : prior.identity ≠ cand.identity)
  | totalMemory (h : prior.totalMemory ≠ cand.totalMemory) (hcand : cand.totalMemory ≠ 0)
  | health (h : prior.health ≠ cand.health)
  | capabilities (h : capsKey prior.capabilities ≠ capsKey cand.capabilities)
  | eligibility (h : prior.eligibility ≠ cand.eligibility)
  | sourceWorkerBoot (h : prior.sourceWorkerBoot ≠ cand.sourceWorkerBoot)
  | fresh (h : prior.observationFresh = true) (hcand : cand.observationFresh = false)
  | drain (h : prior.drain.Recorded cand.drain)
  | quarantined (h : prior.quarantined ≠ cand.quarantined)

/-- The differences that no record is written for. -/
inductive Overlooked (prior cand : DeviceState) : Prop
  | totalMemory (h : prior.totalMemory ≠ 0) (hcand : cand.totalMemory = 0)
  | capabilities (h : prior.capabilities ≠ cand.capabilities)
      (hkey : capsKey prior.capabilities = capsKey cand.capabilities)
  | drain (h : prior.drain ≠ cand.drain) (hrecorded : ¬ prior.drain.Recorded cand.drain)

end DeviceState

open DeviceState

/-! ## What has a record -/

section Records

variable {p q : Prop} [Decidable p] [Decidable q] {r r' : ChangeRecord}

theorem record_eq_nil_iff : (if p then [r] else []) = [] ↔ ¬ p := by
  by_cases hp : p
  · rw [if_pos hp]
    exact iff_of_false (List.cons_ne_nil _ _) (not_not_intro hp)
  · rw [if_neg hp]
    exact iff_of_true rfl hp

theorem record_eq_nil_iff₂ : (if p then [r] else if q then [r'] else []) = [] ↔ ¬ p ∧ ¬ q := by
  by_cases hp : p
  · rw [if_pos hp]
    exact iff_of_false (List.cons_ne_nil _ _) fun h => h.1 hp
  · rw [if_neg hp, record_eq_nil_iff]
    exact ⟨fun hq => ⟨hp, hq⟩, fun h => h.2⟩

/-- A flag that neither rises nor falls. -/
theorem flag_kept_iff (b b' : Bool) :
    ¬ (b = false ∧ b' = true) ∧ ¬ (b = true ∧ b' = false) ↔ b = b' := by
  revert b b'
  decide

end Records

/-- The list is empty exactly when nothing is noticed. -/
theorem diffDeviceState_eq_nil_iff (prior cand : DeviceState) (atTime : Timestamp)
    (gen : DeviceGeneration) (epoch : CoordinatorEpoch) :
    diffDeviceState prior cand atTime gen epoch = [] ↔ ¬ Noticed prior cand := by
  have hdriver : prior.identity = cand.identity →
      prior.identity.driverVersion.text = cand.identity.driverVersion.text := by
    intro h
    rw [h]
  unfold diffDeviceState
  simp only [List.append_eq_nil_iff, record_eq_nil_iff, record_eq_nil_iff₂, flag_kept_iff,
    Bool.and_eq_true, Bool.not_eq_true']
  constructor
  · rintro ⟨⟨⟨⟨⟨⟨⟨⟨⟨⟨hpresent, hidentity⟩, -⟩, hmemory⟩, hhealth⟩, hcaps⟩, helig⟩, hboot⟩,
      hfresh⟩, hdrain⟩, hquarantined⟩ hnoticed
    cases hnoticed with
    | present h => exact h hpresent
    | identity h => exact hidentity h
    | totalMemory h hcand => exact hmemory ⟨h, hcand⟩
    | health h => exact hhealth h
    | capabilities h => exact hcaps h
    | eligibility h => exact helig h
    | sourceWorkerBoot h => exact hboot h
    | fresh h hcand => exact hfresh ⟨h, hcand⟩
    | drain h => exact h.elim hdrain.1 hdrain.2
    | quarantined h => exact h hquarantined
  · intro h
    have hidentity : ¬ prior.identity ≠ cand.identity := fun hne => h (.identity hne)
    refine ⟨⟨⟨⟨⟨⟨⟨⟨⟨⟨?_, hidentity⟩, ?_⟩, ?_⟩, ?_⟩, ?_⟩, ?_⟩, ?_⟩, ?_⟩, ?_⟩, ?_⟩
    · exact not_not.mp fun hne => h (.present hne)
    · exact not_not_intro (hdriver (not_not.mp hidentity))
    · exact fun hne => h (.totalMemory hne.1 hne.2)
    · exact fun hne => h (.health hne)
    · exact fun hne => h (.capabilities hne)
    · exact fun hne => h (.eligibility hne)
    · exact fun hne => h (.sourceWorkerBoot hne)
    · exact fun hstale => h (.fresh hstale.1 hstale.2)
    · exact ⟨fun hrec => h (.drain (.inl hrec)), fun hrec => h (.drain (.inr hrec))⟩
    · exact not_not.mp fun hne => h (.quarantined hne)

/-! ## The text of the capabilities -/

/-- The name has no `=` in it, and the value has no `;`. -/
structure Capability.Plain (c : Capability) : Prop where
  name : 61 ∉ c.name
  value : 59 ∉ c.value

theorem capsKey_cons (c : Capability) (caps : List Capability) :
    capsKey (c :: caps) = c.name ++ 61 :: (c.value ++ 59 :: capsKey caps) := by
  simp only [capsKey, List.flatMap_cons, List.append_assoc]
  rfl

theorem capsKey_cons_ne_nil (c : Capability) (caps : List Capability) :
    capsKey (c :: caps) ≠ [] := by
  rw [capsKey_cons]
  exact List.append_ne_nil_of_right_ne_nil _ (List.cons_ne_nil _ _)

/-- Plain capabilities have the same text exactly when they have the same
names and values in the same order. -/
theorem capsKey_eq_iff {caps caps' : List Capability} (h : ∀ c ∈ caps, c.Plain)
    (h' : ∀ c ∈ caps', c.Plain) :
    capsKey caps = capsKey caps' ↔
      caps.map (fun c => (c.name, c.value)) = caps'.map (fun c => (c.name, c.value)) := by
  induction caps generalizing caps' with
  | nil =>
    cases caps' with
    | nil => exact iff_of_true rfl rfl
    | cons c' caps' =>
      exact iff_of_false (capsKey_cons_ne_nil c' caps').symm (List.cons_ne_nil _ _).symm
  | cons c caps ih =>
    obtain ⟨hc, hcaps⟩ := List.forall_mem_cons.mp h
    cases caps' with
    | nil => exact iff_of_false (capsKey_cons_ne_nil c caps) (List.cons_ne_nil _ _)
    | cons c' caps' =>
      obtain ⟨hc', hcaps'⟩ := List.forall_mem_cons.mp h'
      rw [capsKey_cons, capsKey_cons, append_sep_inj hc.name hc'.name,
        append_sep_inj hc.value hc'.value, ih hcaps hcaps', List.map_cons, List.map_cons,
        List.cons.injEq, Prod.mk.injEq, and_assoc]

/-- A value may have the text of a second capability in it. -/
example :
    capsKey [{ name := text "runtime", value := text "12;dtypes=fp32" }]
      = capsKey [{ name := text "runtime", value := text "12" },
          { name := text "dtypes", value := text "fp32" }] := by
  decide

/-! ## What has none -/

theorem DeviceState.Overlooked.not_unchanged {prior cand : DeviceState}
    (h : Overlooked prior cand) : ¬ Unchanged prior cand := by
  intro hsame
  cases h with
  | totalMemory h hcand => exact h (hsame.totalMemory.trans hcand)
  | capabilities h hkey => exact h hsame.capabilities
  | drain h hrecorded => exact h hsame.drain

/-- Every change is noticed or overlooked. -/
theorem DeviceState.Unchanged.of_not {prior cand : DeviceState} (hnoticed : ¬ Noticed prior cand)
    (hoverlooked : ¬ Overlooked prior cand) : Unchanged prior cand where
  present := not_not.mp fun h => hnoticed (.present h)
  identity := not_not.mp fun h => hnoticed (.identity h)
  totalMemory := by
    by_contra h
    by_cases hcand : cand.totalMemory = 0
    · rw [hcand] at h
      exact hoverlooked (.totalMemory h hcand)
    · exact hnoticed (.totalMemory h hcand)
  health := not_not.mp fun h => hnoticed (.health h)
  capabilities := by
    have hkey : capsKey prior.capabilities = capsKey cand.capabilities :=
      not_not.mp fun h => hnoticed (.capabilities h)
    exact not_not.mp fun h => hoverlooked (.capabilities h hkey)
  eligibility := not_not.mp fun h => hnoticed (.eligibility h)
  sourceWorkerBoot := not_not.mp fun h => hnoticed (.sourceWorkerBoot h)
  fresh := fun h => Bool.of_not_eq_false fun hcand => hnoticed (.fresh h hcand)
  drain := not_not.mp fun h => hoverlooked (.drain h fun hrec => hnoticed (.drain hrec))
  quarantined := not_not.mp fun h => hnoticed (.quarantined h)

/-- An observation does not touch the drain state, so what goes unnoticed when
it is applied is a loss of the memory or a change of the capabilities. -/
theorem applyObservation_overlooked {prior : DeviceState} {norm : DeviceObservation}
    {policy : ObservationPolicy} {now : Timestamp} {epoch : CoordinatorEpoch}
    (h : Overlooked prior (applyObservation prior norm policy now epoch).state) :
    (prior.totalMemory ≠ 0 ∧ norm.totalMemory = 0) ∨
      (prior.capabilities ≠ norm.capabilities ∧
        capsKey prior.capabilities = capsKey norm.capabilities) := by
  cases h with
  | totalMemory h hcand => exact Or.inl ⟨h, hcand⟩
  | capabilities h hkey => exact Or.inr ⟨h, hkey⟩
  | drain h hrecorded => exact absurd rfl h

/-- An empty list means that nothing has changed, unless there is a change
that is overlooked and none that is noticed. -/
theorem diffDeviceState_complete_iff (prior cand : DeviceState) (atTime : Timestamp)
    (gen : DeviceGeneration) (epoch : CoordinatorEpoch) :
    (diffDeviceState prior cand atTime gen epoch = [] → Unchanged prior cand) ↔
      (Overlooked prior cand → Noticed prior cand) := by
  rw [diffDeviceState_eq_nil_iff]
  constructor
  · intro hcomplete hoverlooked
    by_contra hnoticed
    exact hoverlooked.not_unchanged (hcomplete hnoticed)
  · intro hnoticed hquiet
    exact .of_not hquiet fun hoverlooked => hquiet (hnoticed hoverlooked)

/-- A device loses its memory, a capability is no longer validated, one
capability becomes two, and a drain is called off. -/
theorem changes_without_record :
    (diffDeviceState { totalMemory := 24 } {} 100 ⟨1⟩ ⟨1⟩ = [] ∧
      ¬ Unchanged { totalMemory := 24 } {}) ∧
    (diffDeviceState { capabilities := [{ name := text "graphs", kind := .validated }] }
        { capabilities := [{ name := text "graphs" }] } 100 ⟨1⟩ ⟨1⟩ = [] ∧
      ¬ Unchanged { capabilities := [{ name := text "graphs", kind := .validated }] }
        { capabilities := [{ name := text "graphs" }] }) ∧
    (diffDeviceState { capabilities := [{ name := text "a", value := text "1;b=2" }] }
        { capabilities := [{ name := text "a", value := text "1" },
          { name := text "b", value := text "2" }] } 100 ⟨1⟩ ⟨1⟩ = [] ∧
      ¬ Unchanged { capabilities := [{ name := text "a", value := text "1;b=2" }] }
        { capabilities := [{ name := text "a", value := text "1" },
          { name := text "b", value := text "2" }] }) ∧
    (diffDeviceState { drain := .draining } {} 100 ⟨1⟩ ⟨1⟩ = [] ∧
      ¬ Unchanged { drain := .draining } {}) := by
  refine ⟨⟨rfl, ?_⟩, ⟨rfl, ?_⟩, ⟨rfl, ?_⟩, ⟨rfl, ?_⟩⟩
  · exact fun h => absurd h.totalMemory (by decide)
  · exact fun h => absurd h.capabilities (by decide)
  · exact fun h => absurd h.capabilities (by decide)
  · exact fun h => absurd h.drain (by decide)

end GpuFleet
