import GpuFleet.Lib.Run

/-!
# Tenure of an office

An office is vacant, held by someone, or held by someone who was fenced off.
Three kinds of events happen to it: a holder is installed, the holder is
fenced, and everything else.  A holder is replaced legally only when the
office is vacant or its holder is fenced.

The state of the office forgets its past.  The lemmas below recover from the
state what must have happened: who was installed last, and whether the
fence came after that.
-/

namespace Tenure

open Run

variable {β : Type}

/-- The office is vacant, held, or held by somebody who is fenced. -/
inductive State (β : Type)
  | vacant
  | held (b : β)
  | fenced (b : β)

/-- Somebody is installed, the holder is fenced, or nothing happens. -/
inductive Event (β : Type)
  | install (b : β)
  | fence
  | idle

/-- Who holds the office, fenced or not. -/
def State.holder : State β → Option β
  | .vacant => none
  | .held b => some b
  | .fenced b => some b

/-- The office after an event. -/
def next : State β → Event β → State β
  | _, .install b => .held b
  | .held b, .fence => .fenced b
  | st, _ => st

/-- The event does not put a holder in the place of one that still holds. -/
def Legal : State β → Event β → Prop
  | .held _, .install _ => False
  | _, _ => True

/-- The event installs somebody. -/
def Event.IsInstall : Event β → Prop
  | .install _ => True
  | _ => False

theorem not_isInstall_fence : ¬(Event.fence : Event β).IsInstall := fun h => h

theorem not_isInstall_idle : ¬(Event.idle : Event β).IsInstall := fun h => h

@[simp] theorem next_install (st : State β) (b : β) : next st (.install b) = .held b := by
  cases st <;> rfl

@[simp] theorem next_idle (st : State β) : next st .idle = st := by
  cases st <;> rfl

/-- Only an installation changes the holder. -/
theorem holder_next (st : State β) {e : Event β} (h : ¬e.IsInstall) :
    (next st e).holder = st.holder := by
  cases e with
  | install b => exact absurd trivial h
  | fence => cases st <;> rfl
  | idle => cases st <;> rfl

/-- A holder that is legally replaced was fenced. -/
theorem fenced_of_holder_ne {st : State β} {e : Event β} {b b' : β} (hlegal : Legal st e)
    (h : st.holder = some b) (h' : (next st e).holder = some b') (hne : b ≠ b') :
    st = .fenced b := by
  cases e with
  | install c =>
    cases st with
    | vacant => cases h
    | held c' => exact absurd hlegal fun hl => hl
    | fenced c' =>
      obtain rfl : c' = b := Option.some.inj h
      rfl
  | fence =>
    rw [holder_next st not_isInstall_fence, h] at h'
    exact absurd (Option.some.inj h') hne
  | idle =>
    rw [holder_next st not_isInstall_idle, h] at h'
    exact absurd (Option.some.inj h') hne

/-- The holder is the one that was installed last. -/
theorem installed_since {events : List (Event β)} {b : β}
    (h : (run next .vacant events).holder = some b) :
    Since (fun e => ¬e.IsInstall) (fun e => e = .install b) events := by
  induction events using List.reverseRecOn with
  | nil => cases h
  | append_singleton events e ih =>
    rw [run_concat] at h
    cases e with
    | install c =>
      rw [next_install] at h
      obtain rfl : c = b := Option.some.inj h
      exact Since.here rfl
    | fence =>
      rw [holder_next _ not_isInstall_fence] at h
      exact (ih h).extend not_isInstall_fence
    | idle =>
      rw [holder_next _ not_isInstall_idle] at h
      exact (ih h).extend not_isInstall_idle

/-- A holder that was not fenced was installed after the last fence. -/
theorem held_since {events : List (Event β)} {b : β}
    (h : run next .vacant events = .held b) :
    Since (fun e => e ≠ .fence) (fun e => e = .install b) events := by
  induction events using List.reverseRecOn with
  | nil => cases h
  | append_singleton events e ih =>
    rw [run_concat] at h
    generalize run next .vacant events = st at h ih
    cases e with
    | install c =>
      rw [next_install] at h
      cases h
      exact Since.here rfl
    | fence => cases st <;> cases h
    | idle =>
      rw [next_idle] at h
      exact (ih h).extend fun he => by cases he

/-- A fenced holder was fenced after it was installed. -/
theorem fenced_since {events : List (Event β)} {b : β}
    (h : run next .vacant events = .fenced b) :
    Since (fun e => ¬e.IsInstall) (fun e => e = .fence) events := by
  induction events using List.reverseRecOn with
  | nil => cases h
  | append_singleton events e ih =>
    rw [run_concat] at h
    generalize run next .vacant events = st at h ih
    cases e with
    | install c =>
      rw [next_install] at h
      cases h
    | fence => exact Since.here rfl
    | idle =>
      rw [next_idle] at h
      exact (ih h).extend not_isInstall_idle

end Tenure
