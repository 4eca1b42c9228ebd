import GpuFleet.Lib.Run

/-!
# Getting somewhere

A system is to reach `Q` from `P`.  The ingredient is a measure that every step
from `P` makes smaller, unless it changes nothing or reaches `Q`.

`drains` says that there is a way to `Q`, if some step changes something as long
as `Q` is not reached.  `settles` says that every infinite schedule reaches `Q`
or comes to a state where it stays for ever.  If the schedule is `Fair` to some
of the steps, then none of these would lead out of that state.
-/

namespace Progress

open Run

variable {σ ι α : Type}

/-- The states of an infinite schedule. -/
def states (step : σ → ι → σ) (s : σ) (schedule : Nat → ι) : Nat → σ
  | 0 => s
  | n + 1 => step (states step s schedule n) (schedule n)

/-- As long as `Q` is not reached and one of these steps would change something,
something happens again. -/
def Fair (step : σ → ι → σ) (own : ι → Prop) (Q : σ → Prop) (s : σ) (schedule : Nat → ι) : Prop :=
  ∀ n, ¬Q (states step s schedule n) →
    (∃ i, own i ∧ step (states step s schedule n) i ≠ states step s schedule n) →
    ∃ m, n ≤ m ∧ states step s schedule (m + 1) ≠ states step s schedule m

/-- Every step that changes something reaches `Q`, or stays in `P` and makes the
measure smaller. -/
def Decreases (step : σ → ι → σ) (r : α → α → Prop) (measure : σ → α) (P Q : σ → Prop) : Prop :=
  ∀ s i, P s → ¬Q s → step s i ≠ s →
    Q (step s i) ∨ P (step s i) ∧ r (measure (step s i)) (measure s)

variable {step : σ → ι → σ}

/-- A schedule goes on from where it is. -/
theorem states_add (s : σ) (schedule : Nat → ι) (k n : Nat) :
    states step s schedule (k + n)
      = states step (states step s schedule k) (fun j => schedule (k + j)) n := by
  induction n with
  | zero => rfl
  | succ n ih => rw [← Nat.add_assoc, states, ih, states]

/-- A schedule that has left its first state has left it at some step. -/
theorem first_change {s : σ} {schedule : Nat → ι} {m : Nat}
    (h : states step s schedule m ≠ s) :
    ∃ k, states step s schedule k = s ∧ step s (schedule k) ≠ s := by
  induction m with
  | zero => exact absurd rfl h
  | succ m ih =>
    by_cases hsame : states step s schedule m = s
    · rw [states, hsame] at h
      exact ⟨m, hsame, h⟩
    · exact ih hsame

variable {r : α → α → Prop} {measure : σ → α} {P Q : σ → Prop}

/-- A schedule reaches `Q`, or it comes to a state where it stays. -/
theorem settles (hwf : WellFounded r) (hstep : Decreases step r measure P Q) {s : σ} (hs : P s)
    (schedule : Nat → ι) :
    (∃ n, Q (states step s schedule n)) ∨
      ∃ n, P (states step s schedule n) ∧
        ∀ m, n ≤ m → states step s schedule m = states step s schedule n := by
  induction hm : measure s using hwf.induction generalizing s schedule with
  | h a ih =>
    subst hm
    by_cases hQ : Q s
    · exact Or.inl ⟨0, hQ⟩
    by_cases hchanges : ∃ k, states step s schedule k = s ∧ step s (schedule k) ≠ s
    · obtain ⟨k, hk, hmoves⟩ := hchanges
      have hnext : states step s schedule (k + 1) = step s (schedule k) := by rw [states, hk]
      have hlater : ∀ n, states step s schedule (k + 1 + n)
          = states step (step s (schedule k)) (fun j => schedule (k + 1 + j)) n := by
        intro n
        rw [states_add, hnext]
      rcases hstep s (schedule k) hs hQ hmoves with hdone | ⟨hP, hless⟩
      · exact Or.inl ⟨k + 1, by rwa [hnext]⟩
      rcases ih _ hless hP (fun j => schedule (k + 1 + j)) rfl with ⟨n, hn⟩ | ⟨n, hn, hstays⟩
      · exact Or.inl ⟨k + 1 + n, by rwa [hlater]⟩
      · refine Or.inr ⟨k + 1 + n, by rwa [hlater], fun m hm => ?_⟩
        obtain ⟨d, rfl⟩ := Nat.exists_eq_add_of_le (Nat.le_trans (Nat.le_add_right _ n) hm)
        rw [hlater, hlater]
        exact hstays d (by omega)
    · refine Or.inr ⟨0, hs, fun m _ => ?_⟩
      by_cases hsame : states step s schedule m = s
      · exact hsame
      · exact absurd (first_change hsame) hchanges

/-- Where a fair schedule stays, none of the steps that it is fair to leads on. -/
theorem Fair.settles {own : ι → Prop} {s : σ} {schedule : Nat → ι}
    (hfair : Fair step own Q s schedule) (hwf : WellFounded r)
    (hstep : Decreases step r measure P Q) (hs : P s) :
    (∃ n, Q (states step s schedule n)) ∨
      ∃ n, P (states step s schedule n) ∧
        (∀ i, own i → step (states step s schedule n) i = states step s schedule n) ∧
        ∀ m, n ≤ m → states step s schedule m = states step s schedule n := by
  rcases Progress.settles hwf hstep hs schedule with hdone | ⟨n, hn, hstays⟩
  · exact Or.inl hdone
  by_cases hQ : Q (states step s schedule n)
  · exact Or.inl ⟨n, hQ⟩
  refine Or.inr ⟨n, hn, fun i hi => ?_, hstays⟩
  by_cases hsame : step (states step s schedule n) i = states step s schedule n
  · exact hsame
  obtain ⟨m, hm, hmoves⟩ := hfair n hQ ⟨i, hi, hsame⟩
  rw [hstays m hm, hstays (m + 1) (Nat.le_succ_of_le hm)] at hmoves
  exact absurd rfl hmoves

/-- If something can happen as long as `Q` is not reached, then `Q` can be
reached. -/
theorem drains (hwf : WellFounded r) (hstep : Decreases step r measure P Q)
    (henabled : ∀ s, P s → ¬Q s → ∃ i, step s i ≠ s) {s : σ} (hs : P s) :
    ∃ inputs, Q (run step s inputs) := by
  induction hm : measure s using hwf.induction generalizing s with
  | h a ih =>
    subst hm
    by_cases hQ : Q s
    · exact ⟨[], hQ⟩
    obtain ⟨i, hmoves⟩ := henabled s hs hQ
    rcases hstep s i hs hQ hmoves with hdone | ⟨hP, hless⟩
    · exact ⟨[i], hdone⟩
    · obtain ⟨inputs, hn⟩ := ih _ hless hP rfl
      exact ⟨i :: inputs, hn⟩

end Progress
