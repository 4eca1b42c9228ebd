import Mathlib.Data.Set.Basic

/-!
# Footprints of operations

A state is read through cells: `get s c` is what the state `s` holds in the
cell `c`, and every cell has a type of its own.  An operation takes a state to a
state and an answer.

`Within get op reads writes s` bounds what the operation does in `s` and in
every state that looks like `s` on `reads`: it writes no cell outside `writes`,
and what it writes and answers depends on `reads` only.  The sets may depend on
`s`, which is what an operation needs that finds its cells by looking at the
state.

`Within.commute` is the rule for two operations neither of which writes what
the other one reads.
-/

namespace Footprint

variable {σ ι ρ₁ ρ₂ : Type} {α : ι → Type} {get : σ → (c : ι) → α c}

/-- Two states hold the same in the cells of a set. -/
def Agree (get : σ → (c : ι) → α c) (cells : Set ι) (s t : σ) : Prop :=
  ∀ c ∈ cells, get s c = get t c

/-- Seen from `s`, the operation writes `writes` at most, and what it writes and
answers is determined by `reads`. -/
structure Within {ρ : Type} (get : σ → (c : ι) → α c) (op : σ → σ × ρ)
    (reads writes : Set ι) (s : σ) : Prop where
  writes_subset : writes ⊆ reads
  frame : ∀ t, Agree get reads s t → ∀ c ∉ writes, get (op t).1 c = get t c
  answer : ∀ t, Agree get reads s t → (op t).2 = (op s).2
  written : ∀ t, Agree get reads s t → Agree get writes (op t).1 (op s).1

section Commute

variable {op₁ : σ → σ × ρ₁} {op₂ : σ → σ × ρ₂} {reads₁ writes₁ reads₂ writes₂ : Set ι} {s : σ}

/-- An operation that writes nothing of a set leaves the state as it was there. -/
theorem Within.agree (h : Within get op₁ reads₁ writes₁ s)
    (hdisj : ∀ c ∈ writes₁, c ∉ reads₂) : Agree get reads₂ s (op₁ s).1 := by
  intro c hc
  exact (h.frame s (fun _ _ => rfl) c fun hw => hdisj c hw hc).symm

/-- After an operation that writes nothing the second one reads, the second one
answers as it would have before. -/
theorem Within.answer_after (h₁ : Within get op₁ reads₁ writes₁ s)
    (h₂ : Within get op₂ reads₂ writes₂ s) (hdisj : ∀ c ∈ writes₁, c ∉ reads₂) :
    (op₂ (op₁ s).1).2 = (op₂ s).2 :=
  h₂.answer _ (h₁.agree hdisj)

/-- Operations that write nothing the other one reads lead to the same cells in
either order. -/
theorem Within.commute (h₁ : Within get op₁ reads₁ writes₁ s)
    (h₂ : Within get op₂ reads₂ writes₂ s) (h₁₂ : ∀ c ∈ writes₁, c ∉ reads₂)
    (h₂₁ : ∀ c ∈ writes₂, c ∉ reads₁) (c : ι) :
    get (op₂ (op₁ s).1).1 c = get (op₁ (op₂ s).1).1 c := by
  have hafter₁ := h₁.agree h₁₂
  have hafter₂ := h₂.agree h₂₁
  by_cases hc₁ : c ∈ writes₁
  · -- Written by the first operation: the second one leaves it alone.
    have hc₂ : c ∉ writes₂ := fun hc => h₁₂ c hc₁ (h₂.writes_subset hc)
    rw [h₂.frame _ hafter₁ c hc₂, h₁.written _ hafter₂ c hc₁]
  · rw [h₁.frame _ hafter₂ c hc₁]
    by_cases hc₂ : c ∈ writes₂
    · exact h₂.written _ hafter₁ c hc₂
    · rw [h₂.frame _ hafter₁ c hc₂, h₂.frame s (fun _ _ => rfl) c hc₂,
        h₁.frame s (fun _ _ => rfl) c hc₁]

end Commute

end Footprint
