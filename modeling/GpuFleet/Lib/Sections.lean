import Mathlib.Data.List.Basic

/-!
# Programs in critical sections

A thread that shares a state with others gets at it under a lock, for one access
at a time.  A `Script` is what is left of its program: the next access, and how
the program goes on from the state that it finds there, or the result.  Other
threads may do anything between two accesses.

* `finish` executes a script without interruption.
* `Reaches` executes a script at some points of a run of the whole system.  If
  nothing has happened to the state between these points, the two agree
  (`Reaches.finish_eq`).
* `Every` and `Once` speak about all executions of a script: about its result,
  and about how many of its accesses change the state.
-/

/-- What is left of the program of a thread. -/
inductive Script (σ α ρ : Type)
  | done (result : ρ)
  | access (a : α) (next : σ → Script σ α ρ)

namespace Script

variable {σ α ρ : Type} {apply : α → σ → σ} {state state' : Nat → σ}
  {script left : Script σ α ρ} {points : List Nat} {r : ρ}

/-! ## Executions -/

/-- Execute a script without interruption: the state that it leaves, and its
result. -/
def finish (apply : α → σ → σ) : Script σ α ρ → σ → σ × ρ
  | .done r, s => (s, r)
  | .access a next, s => finish apply (next s) (apply a s)

/-- The script is executed up to `left`, with its accesses at these points of a
run.  `state n` is the state of the run before its step `n`.  An access finds
the state of its point, and the step is what it does to this state. -/
inductive Reaches (apply : α → σ → σ) (state : Nat → σ) :
    Script σ α ρ → List Nat → Script σ α ρ → Prop
  | start (script : Script σ α ρ) : Reaches apply state script [] script
  | access (a : α) (next : σ → Script σ α ρ) (n : Nat) (points : List Nat) (left : Script σ α ρ)
      (heffect : state (n + 1) = apply a (state n))
      (hrest : Reaches apply state (next (state n)) points left) :
      Reaches apply state (.access a next) (n :: points) left

/-- One more access. -/
theorem Reaches.concat {a : α} {next : σ → Script σ α ρ}
    (h : Reaches apply state script points (.access a next)) {n : Nat}
    (heffect : state (n + 1) = apply a (state n)) :
    Reaches apply state script (points ++ [n]) (next (state n)) := by
  generalize hleft : Script.access a next = left at h
  induction h with
  | start script =>
    rw [← hleft]
    exact .access a next n [] _ heffect (.start _)
  | access b other m points left hb hrest ih => exact .access b other m _ _ hb (ih hleft)

/-- An execution depends on the states at its points only. -/
theorem Reaches.congr (h : Reaches apply state script points left)
    (hsame : ∀ n ∈ points, state' n = state n ∧ state' (n + 1) = state (n + 1)) :
    Reaches apply state' script points left := by
  induction h with
  | start script => exact .start script
  | access a next n points left heffect hrest ih =>
    obtain ⟨hbefore, hafter⟩ := hsame n List.mem_cons_self
    refine .access a next n points left ?_ ?_
    · rw [hafter, hbefore]
      exact heffect
    · rw [hbefore]
      exact ih fun m hm => hsame m (List.mem_cons_of_mem n hm)

/-- A script that is done makes no access. -/
theorem Reaches.of_done (h : Reaches apply state (.done r) points left) :
    points = [] ∧ left = .done r := by
  cases h with
  | start _ => exact ⟨rfl, rfl⟩

/-- A script that has come to its end has made its first access. -/
theorem Reaches.of_access {a : α} {next : σ → Script σ α ρ}
    (h : Reaches apply state (.access a next) points (.done r)) :
    ∃ n rest, points = n :: rest ∧ state (n + 1) = apply a (state n) ∧
      Reaches apply state (next (state n)) rest (.done r) := by
  cases h with
  | access _ _ n rest _ heffect hrest => exact ⟨n, rest, rfl, heffect, hrest⟩

/-- If nothing has happened to the state between the accesses, then they amount to
an execution without interruption. -/
theorem Reaches.finish_eq {n : Nat} (h : Reaches apply state script (n :: points) (.done r))
    (hquiet : (n :: points).IsChain fun p q => state (p + 1) = state q) :
    script.finish apply (state n)
      = (state ((n :: points).getLast (List.cons_ne_nil _ _) + 1), r) := by
  induction points generalizing script n with
  | nil =>
    cases h with
    | access a next _ _ _ heffect hrest =>
      cases hnext : next (state n) with
      | access b other =>
        rw [hnext] at hrest
        cases hrest
      | done r' =>
        rw [hnext] at hrest
        obtain ⟨-, hr⟩ := hrest.of_done
        cases hr
        rw [finish, hnext, finish, List.getLast_singleton, heffect]
  | cons m points ih =>
    cases h with
    | access a next _ _ _ heffect hrest =>
      obtain ⟨hsame, hquiet⟩ := List.isChain_cons_cons.mp hquiet
      rw [finish, ← heffect, hsame, List.getLast_cons_cons]
      exact ih hrest hquiet

/-! ## All executions -/

/-- Whatever a script finds, its result has the property. -/
def Every (P : ρ → Prop) : Script σ α ρ → Prop
  | .done r => P r
  | .access _ next => ∀ s, Every P (next s)

theorem Reaches.every {P : ρ → Prop} (h : Reaches apply state script points left)
    (hscript : script.Every P) : left.Every P := by
  induction h with
  | start _ => exact hscript
  | access a next n points left _ _ ih => exact ih (hscript (state n))

/-- All accesses of a script are of this kind. -/
def Only (kind : α → Prop) : Script σ α ρ → Prop
  | .done _ => True
  | .access a next => kind a ∧ ∀ s, Only kind (next s)

/-- All accesses of a script but one, maybe, are of this kind, and that one is of
another. -/
def Once (kind other : α → Prop) : Script σ α ρ → Prop
  | .done _ => True
  | .access a next =>
    (kind a ∧ ∀ s, Once kind other (next s)) ∨ (other a ∧ ∀ s, Only kind (next s))

theorem Only.mono {kind kind' : α → Prop} (hkind : ∀ a, kind a → kind' a)
    (h : script.Only kind) : script.Only kind' := by
  induction script with
  | done _ => trivial
  | access a next ih => exact ⟨hkind a h.1, fun s => ih s (h.2 s)⟩

theorem Only.once {kind other : α → Prop} (hkind : ∀ a, kind a → other a)
    (h : script.Only kind) : script.Once kind other := by
  cases script with
  | done _ => trivial
  | access a next => exact Or.inr ⟨hkind a h.1, h.2⟩

theorem Once.only {kind other : α → Prop} (hkind : ∀ a, kind a → other a)
    (h : script.Once kind other) : script.Only other := by
  induction script with
  | done _ => trivial
  | access a next ih =>
    rcases h with ⟨ha, hnext⟩ | ⟨ha, hnext⟩
    · exact ⟨hkind a ha, fun s => ih s (hnext s)⟩
    · exact ⟨ha, fun s => (hnext s).mono hkind⟩

theorem Reaches.unchanged {kind : α → Prop} (hkind : ∀ a, kind a → ∀ s, apply a s = s)
    (h : Reaches apply state script points left) (honly : script.Only kind) :
    ∀ p ∈ points, state (p + 1) = state p := by
  induction h with
  | start _ => exact List.forall_mem_nil _
  | access a next n points left heffect _ ih =>
    refine List.forall_mem_cons.mpr ⟨?_, ih (honly.2 (state n))⟩
    rw [heffect]
    exact hkind a honly.1 (state n)

/-- If accesses of a kind change nothing, and all but one are of this kind, then
the state is changed at one point at most. -/
theorem Reaches.once {kind other : α → Prop} (hkind : ∀ a, kind a → ∀ s, apply a s = s)
    (h : Reaches apply state script points left) (honce : script.Once kind other) :
    ∀ p ∈ points, ∀ q ∈ points, state (p + 1) ≠ state p → state (q + 1) ≠ state q → p = q := by
  induction h with
  | start _ => exact List.forall_mem_nil _
  | access a next n points left heffect hrest ih =>
    intro p hp q hq hpchange hqchange
    rcases honce with ⟨ha, honce⟩ | ⟨-, honly⟩
    · -- the first access changes nothing
      have hsame : state (n + 1) = state n := heffect.trans (hkind a ha (state n))
      have hlater : ∀ m ∈ n :: points, state (m + 1) ≠ state m → m ∈ points := by
        intro m hm hchange
        rcases List.mem_cons.mp hm with rfl | hm
        · exact absurd hsame hchange
        · exact hm
      exact ih (honce (state n)) p (hlater p hp hpchange) q (hlater q hq hqchange) hpchange hqchange
    · -- all the others change nothing
      have hfirst : ∀ m ∈ n :: points, state (m + 1) ≠ state m → m = n := by
        intro m hm hchange
        rcases List.mem_cons.mp hm with rfl | hm
        · rfl
        · exact absurd (hrest.unchanged hkind (honly (state n)) m hm) hchange
      rw [hfirst p hp hpchange, hfirst q hq hqchange]

end Script
