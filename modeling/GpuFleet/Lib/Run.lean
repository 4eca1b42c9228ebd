import Mathlib.Data.List.Basic
import Mathlib.Data.List.Induction

/-!
# Runs of a step function, and what can be said about their past

A deterministic labelled system is a step function `step : σ → ι → σ`.  A
run is a list of inputs, `run` is the state it ends in, and `history` is
the list of its steps: each input together with the state it was given to.

`Throughout D` says that the state satisfies `D` at every point of a run.

Two operators speak about a history.

* `Since P Q`: some step of the past satisfies `Q`, and every step after it
  satisfies `P`.
* `Always C`: every step satisfies `C`, which may look at the steps before
  it.  This is how a condition on the inputs of a whole run is written.
  `throughout_iff_always` finds the exact condition for a property of states.

`history_invariant` is the induction rule.  It carries the history along,
and its step may use a condition that the run meets at every step.
`run_simulation` relates the runs of two systems, and so does `exists_run_of_matched`
where a step of the one may be no step or several steps of the other.
-/

namespace Run

variable {σ ι α : Type}

/-! ## Runs -/

/-- The state that the inputs lead to. -/
def run (step : σ → ι → σ) (s : σ) (inputs : List ι) : σ :=
  inputs.foldl step s

/-- The steps of a run: each input with the state before it. -/
def history (step : σ → ι → σ) : σ → List ι → List (σ × ι)
  | _, [] => []
  | s, i :: rest => (s, i) :: history step (step s i) rest

variable {step : σ → ι → σ}

@[simp] theorem run_nil (s : σ) : run step s [] = s := rfl

@[simp] theorem run_cons (s : σ) (i : ι) (rest : List ι) :
    run step s (i :: rest) = run step (step s i) rest := rfl

theorem run_append (s : σ) (as bs : List ι) :
    run step s (as ++ bs) = run step (run step s as) bs :=
  List.foldl_append

@[simp] theorem run_concat (s : σ) (as : List ι) (i : ι) :
    run step s (as ++ [i]) = step (run step s as) i := by
  rw [run_append, run_cons, run_nil]

@[simp] theorem history_nil (s : σ) : history step s [] = [] := rfl

theorem history_append (s : σ) (as bs : List ι) :
    history step s (as ++ bs)
      = history step s as ++ history step (run step s as) bs := by
  induction as generalizing s with
  | nil => rfl
  | cons i as ih =>
    rw [List.cons_append, history, ih, history, run_cons, List.cons_append]

@[simp] theorem history_concat (s : σ) (as : List ι) (i : ι) :
    history step s (as ++ [i])
      = history step s as ++ [(run step s as, i)] := by
  rw [history_append]
  rfl

/-- The inputs can be read off the history. -/
theorem map_snd_history (s : σ) (as : List ι) :
    (history step s as).map Prod.snd = as := by
  induction as generalizing s with
  | nil => rfl
  | cons i as ih => rw [history, List.map_cons, ih]

/-- A step of the history is an input of the run, with the state that the inputs
before it lead to. -/
theorem exists_of_mem_history {s : σ} {inputs : List ι} {x : σ × ι}
    (h : x ∈ history step s inputs) :
    ∃ before i after, inputs = before ++ i :: after ∧ x = (run step s before, i) := by
  induction inputs generalizing s with
  | nil => cases h
  | cons i rest ih =>
    rcases List.mem_cons.mp h with rfl | hrest
    · exact ⟨[], i, rest, rfl, rfl⟩
    · obtain ⟨before, j, after, rfl, rfl⟩ := ih hrest
      exact ⟨i :: before, j, after, rfl, rfl⟩

/-- At every step, what was held and what comes in is what goes out and what is
held then.  So it is over a run. -/
theorem flow_conserved {held : σ → List α} {inflow outflow : σ × ι → List α}
    (hstep : ∀ s i, held s ++ inflow (s, i) = outflow (s, i) ++ held (step s i)) (s : σ)
    (inputs : List ι) :
    held s ++ (history step s inputs).flatMap inflow
      = (history step s inputs).flatMap outflow ++ held (run step s inputs) := by
  induction inputs generalizing s with
  | nil => simp
  | cons i rest ih =>
    have hrest := ih (step s i)
    rw [history, List.flatMap_cons, List.flatMap_cons, run_cons]
    calc held s ++ (inflow (s, i) ++ (history step (step s i) rest).flatMap inflow)
        = outflow (s, i) ++ held (step s i) ++ (history step (step s i) rest).flatMap inflow := by
          rw [← List.append_assoc, hstep]
      _ = outflow (s, i) ++ (history step (step s i) rest).flatMap outflow
            ++ held (run step (step s i) rest) := by
          rw [List.append_assoc, hrest, ← List.append_assoc]

/-- Every state of the run satisfies `D`, from the first to the last. -/
def Throughout (step : σ → ι → σ) (D : σ → Prop) (s : σ) (inputs : List ι) : Prop :=
  ∀ before after, inputs = before ++ after → D (run step s before)

theorem throughout_nil {D : σ → Prop} {s : σ} : Throughout step D s [] ↔ D s := by
  constructor
  · intro h
    exact h [] [] rfl
  · intro h before after he
    obtain ⟨rfl, rfl⟩ := List.append_eq_nil_iff.mp he.symm
    exact h

/-- The one-step unfolding of `Throughout`. -/
theorem throughout_concat {D : σ → Prop} {s : σ} {inputs : List ι} {i : ι} :
    Throughout step D s (inputs ++ [i]) ↔
      Throughout step D s inputs ∧ D (step (run step s inputs) i) := by
  constructor
  · intro h
    refine ⟨fun before after he => ?_, ?_⟩
    · exact h before (after ++ [i]) (by rw [he, List.append_assoc])
    · have hlast := h (inputs ++ [i]) [] (List.append_nil _).symm
      rwa [run_concat] at hlast
  · rintro ⟨hrest, hlast⟩ before after he
    rcases List.eq_nil_or_concat' after with rfl | ⟨after', z, rfl⟩
    · rw [List.append_nil] at he
      rw [← he, run_concat]
      exact hlast
    · rw [← List.append_assoc] at he
      exact hrest before after' (List.append_inj' he rfl).1

/-! ## Past-time operators -/

/-- Some step of the past satisfies `Q`, and every later one `P`. -/
def Since (P Q : α → Prop) (past : List α) : Prop :=
  ∃ before x after, past = before ++ x :: after ∧ Q x ∧ ∀ y ∈ after, P y

/-- Every step satisfies `C`, given the steps before it. -/
def Always (C : List α → α → Prop) (past : List α) : Prop :=
  ∀ before x after, past = before ++ x :: after → C before x

/-- A list ends in `x`, cut at an element: the element is `x` itself, or
the cut is in the rest. -/
theorem concat_eq_append_cons {as before after : List α} {x y : α}
    (h : as ++ [x] = before ++ y :: after) :
    (after = [] ∧ y = x ∧ before = as) ∨
      ∃ after', after = after' ++ [x] ∧ as = before ++ y :: after' := by
  rcases List.eq_nil_or_concat' after with rfl | ⟨after', z, rfl⟩
  · obtain ⟨rfl, he⟩ := List.append_inj' h rfl
    exact Or.inl ⟨rfl, (List.cons.inj he).1.symm, rfl⟩
  · have h' : as ++ [x] = (before ++ y :: after') ++ [z] := by
      rw [h, List.append_assoc, List.cons_append]
    obtain ⟨rfl, he⟩ := List.append_inj' h' rfl
    exact Or.inr ⟨after', by rw [(List.cons.inj he).1], rfl⟩

theorem since_map {ε : Type} {P Q : ε → Prop} {f : α → ε} {past : List α} :
    Since P Q (past.map f) ↔ Since (fun x => P (f x)) (fun x => Q (f x)) past := by
  constructor
  · rintro ⟨before, x, after, he, hq, hp⟩
    obtain ⟨before', rest, rfl, rfl, hrest⟩ := List.map_eq_append_iff.mp he
    obtain ⟨x', after', rfl, rfl, rfl⟩ := List.map_eq_cons_iff.mp hrest
    refine ⟨before', x', after', rfl, hq, ?_⟩
    intro y hy
    exact hp (f y) (List.mem_map_of_mem hy)
  · rintro ⟨before, x, after, rfl, hq, hp⟩
    refine ⟨before.map f, f x, after.map f, by simp, hq, ?_⟩
    intro y hy
    obtain ⟨z, hz, rfl⟩ := List.mem_map.mp hy
    exact hp z hz

theorem Since.mono {P P' Q Q' : α → Prop} {past : List α} (h : Since P Q past)
    (hP : ∀ x, P x → P' x) (hQ : ∀ x, Q x → Q' x) : Since P' Q' past := by
  obtain ⟨before, x, after, he, hq, hp⟩ := h
  exact ⟨before, x, after, he, hQ x hq, fun y hy => hP y (hp y hy)⟩

/-- The one-step unfolding of `Since`. -/
theorem since_concat {P Q : α → Prop} {past : List α} {x : α} :
    Since P Q (past ++ [x]) ↔ Q x ∨ P x ∧ Since P Q past := by
  constructor
  · rintro ⟨before, y, after, he, hq, hp⟩
    rcases concat_eq_append_cons he with ⟨rfl, rfl, rfl⟩ | ⟨after', rfl, rfl⟩
    · exact Or.inl hq
    · exact Or.inr ⟨hp x (by simp), before, y, after', rfl, hq,
        fun z hz => hp z (by simp [hz])⟩
  · rintro (hq | ⟨hp, before, y, after, rfl, hq, ha⟩)
    · exact ⟨past, x, [], rfl, hq, by simp⟩
    · refine ⟨before, y, after ++ [x], by simp, hq, fun z hz => ?_⟩
      rcases List.mem_append.mp hz with hz | hz
      · exact ha z hz
      · rw [List.mem_singleton.mp hz]
        exact hp

theorem Since.here {P Q : α → Prop} {past : List α} {x : α} (h : Q x) :
    Since P Q (past ++ [x]) :=
  since_concat.mpr (Or.inl h)

theorem Since.extend {P Q : α → Prop} {past : List α} {x : α}
    (h : Since P Q past) (hx : P x) : Since P Q (past ++ [x]) :=
  since_concat.mpr (Or.inr ⟨hx, h⟩)

/-- The last step that satisfies `Q`. -/
theorem Since.last {P Q : α → Prop} {past : List α} (h : Since P Q past) :
    Since (fun x => P x ∧ ¬Q x) Q past := by
  induction past using List.reverseRecOn with
  | nil =>
    obtain ⟨before, x, after, he, _⟩ := h
    simp at he
  | append_singleton past x ih =>
    by_cases hq : Q x
    · exact Since.here hq
    · rcases since_concat.mp h with hq' | ⟨hp, hpast⟩
      · exact absurd hq' hq
      · exact (ih hpast).extend ⟨hp, hq⟩

@[simp] theorem always_nil (C : List α → α → Prop) : Always C [] := by
  intro before x after h
  simp at h

/-- The one-step unfolding of `Always`. -/
theorem always_concat {C : List α → α → Prop} {past : List α} {x : α} :
    Always C (past ++ [x]) ↔ Always C past ∧ C past x := by
  constructor
  · intro h
    refine ⟨fun before y after he => ?_, h past x [] rfl⟩
    exact h before y (after ++ [x]) (by rw [he]; simp)
  · rintro ⟨hp, hx⟩ before y after he
    rcases concat_eq_append_cons he with ⟨rfl, rfl, rfl⟩ | ⟨after', rfl, rfl⟩
    · exact hx
    · exact hp before y after' rfl

theorem Always.and {C D : List α → α → Prop} {past : List α} (hC : Always C past)
    (hD : Always D past) : Always (fun before x => C before x ∧ D before x) past :=
  fun before x after h => ⟨hC before x after h, hD before x after h⟩

/-- A condition that does not look at the past. -/
theorem always_of_forall {C : α → Prop} {past : List α} (h : ∀ x ∈ past, C x) :
    Always (fun _ x => C x) past := by
  intro before x after he
  apply h
  rw [he]
  simp

/-- A condition on the inputs alone. -/
theorem always_of_forall_mem {p : ι → Prop} {s : σ} {inputs : List ι}
    (h : ∀ i ∈ inputs, p i) : Always (fun _ x => p x.2) (history step s inputs) := by
  apply always_of_forall
  intro x hmem
  apply h
  have hinput := List.mem_map_of_mem (f := Prod.snd) hmem
  rwa [map_snd_history] at hinput

/-- Where a step keeps `D` exactly when it meets `C`, a run stays in `D`
exactly when all of its steps meet `C`. -/
theorem throughout_iff_always {D : σ → Prop} {C : σ × ι → Prop} {s : σ} {inputs : List ι}
    (h0 : D s)
    (hstep : ∀ before i after, inputs = before ++ i :: after → D (run step s before) →
      (D (step (run step s before) i) ↔ C (run step s before, i))) :
    Throughout step D s inputs ↔ Always (fun _ x => C x) (history step s inputs) := by
  induction inputs using List.reverseRecOn with
  | nil => exact iff_of_true (throughout_nil.mpr h0) (always_nil _)
  | append_singleton rest i ih =>
    have hrest := ih fun before j after he =>
      hstep before j (after ++ [i]) (by rw [he, List.append_assoc, List.cons_append])
    rw [history_concat, always_concat, throughout_concat, ← hrest]
    refine and_congr_right fun hthroughout => ?_
    exact hstep rest i [] rfl (hthroughout rest [] (List.append_nil rest).symm)

/-! ## The induction rule -/

/-- A property of the history and the state that every step meeting `C`
preserves holds along every run whose steps all meet `C`. -/
theorem history_invariant {C : List (σ × ι) → σ × ι → Prop}
    {I : List (σ × ι) → σ → Prop} {s : σ} (h0 : I [] s)
    (hstep : ∀ past t i, C past (t, i) → I past t →
      I (past ++ [(t, i)]) (step t i))
    (inputs : List ι) (hC : Always C (history step s inputs)) :
    I (history step s inputs) (run step s inputs) := by
  induction inputs using List.reverseRecOn with
  | nil => exact h0
  | append_singleton rest i ih =>
    rw [history_concat] at hC ⊢
    rw [run_concat]
    obtain ⟨hrest, hi⟩ := always_concat.mp hC
    exact hstep _ _ _ hi (ih hrest)

/-! ## Simulation -/

/-- A view that follows an abstract step function at every step follows the
abstract run.  `event` says what a step is for the abstract system. -/
theorem run_simulation {τ ε : Type} {next : τ → ε → τ} (view : σ → τ) (event : σ × ι → ε)
    (inputs : List ι)
    (h : ∀ s, ∀ i ∈ inputs, view (step s i) = next (view s) (event (s, i))) (s : σ) :
    view (run step s inputs) = run next (view s) ((history step s inputs).map event) := by
  induction inputs generalizing s with
  | nil => rfl
  | cons i rest ih =>
    have hrest := ih (fun t j hj => h t j (List.mem_cons_of_mem i hj)) (step s i)
    rw [run_cons, hrest, h s i List.mem_cons_self, history, List.map_cons, run_cons]

/-- If every step of a system is matched by some steps of another, none or several,
then so is every run. -/
theorem exists_run_of_matched {τ ε : Type} {next : τ → ε → τ} {R : σ → τ → Prop}
    (hstep : ∀ s t i, R s t → ∃ events, R (step s i) (run next t events))
    {s : σ} {t : τ} (h : R s t) (inputs : List ι) :
    ∃ events, R (run step s inputs) (run next t events) := by
  induction inputs using List.reverseRecOn with
  | nil => exact ⟨[], h⟩
  | append_singleton rest i ih =>
    obtain ⟨events, hrest⟩ := ih
    obtain ⟨more, hmore⟩ := hstep _ _ i hrest
    refine ⟨events ++ more, ?_⟩
    rw [run_concat, run_append]
    exact hmore

end Run
