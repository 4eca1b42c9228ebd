import GpuFleet.Lib.Run

/-!
# Handles

A kernel, a driver or an allocator issues handles, takes calls on them, and
takes them back.  A log is the list of these calls in their order, and
`opened` replays it: the handles that have been issued and not given back.  A
handle may be issued again after it was given back.

A log is `Proper` when every call was made on an open handle.  `Owned log held`
says in addition that the open handles are those in `held`, each once.  It is
what a program keeps true that knows of each handle in one place: there is one
rule for each kind of call, and the rules at the end are for programs whose
handles sit in the objects of a list.

`Owned.balance` says what follows for one handle: it was given back as often
as it was issued, except for the one time that it is held.

A `Routine` is what is left of a function that other threads may interrupt
between any two of its calls.  `Routine.Tidy` says that it accounts for the
handle it opens, whatever the others do, and `Routine.Sure` that it makes its
calls on open handles, unless somebody closes its object.
-/

namespace Handles

open Run

variable {H C O : Type}

/-! ## Logs -/

/-- A handle is issued, a call is made on it, or it is given back. -/
inductive Event (H C : Type)
  | issued (h : H)
  | used (h : H) (call : C)
  | released (h : H)
  deriving DecidableEq

/-- The calls that are made on one handle, one after the other. -/
def uses (h : H) (calls : List C) : List (Event H C) := calls.map (.used h)

section Replay

variable [DecidableEq H]

/-- The open handles after an event. -/
def next (held : List H) : Event H C → List H
  | .issued h => h :: held
  | .used _ _ => held
  | .released h => held.erase h

/-- The handles that are open after a log. -/
def opened (log : List (Event H C)) : List H := log.foldl next []

@[simp] theorem opened_nil : opened ([] : List (Event H C)) = [] := rfl

@[simp] theorem opened_concat (log : List (Event H C)) (e : Event H C) :
    opened (log ++ [e]) = next (opened log) e := by
  rw [opened, List.foldl_append]
  rfl

/-- An open handle is not issued, and a handle that is not open takes no call
and is not given back. -/
def Event.Allowed (held : List H) : Event H C → Prop
  | .issued h => h ∉ held
  | .used h _ => h ∈ held
  | .released h => h ∈ held

/-- Every call of the log was allowed when it was made. -/
def Proper (log : List (Event H C)) : Prop :=
  Always (fun before e => e.Allowed (opened before)) log

theorem proper_concat {log : List (Event H C)} {e : Event H C} :
    Proper (log ++ [e]) ↔ Proper log ∧ e.Allowed (opened log) :=
  always_concat

end Replay

/-! ## Ownership -/

/-- The log is proper, and the open handles are the held ones, each once. -/
structure Owned [DecidableEq H] (log : List (Event H C)) (held : List H) : Prop where
  proper : Proper log
  perm : (opened log).Perm held
  nodup : held.Nodup

namespace Owned

variable [DecidableEq H] {log : List (Event H C)} {held held' : List H} {h : H}

theorem nil : Owned ([] : List (Event H C)) ([] : List H) :=
  ⟨always_nil _, .nil, List.nodup_nil⟩

theorem mem_opened (ho : Owned log held) : h ∈ opened log ↔ h ∈ held :=
  ho.perm.mem_iff

/-- It does not matter in what order the handles are held. -/
theorem of_perm (ho : Owned log held) (hp : held.Perm held') : Owned log held' :=
  ⟨ho.proper, ho.perm.trans hp, hp.nodup_iff.mp ho.nodup⟩

theorem issue (ho : Owned log held) (hnew : h ∉ opened log) :
    Owned (log ++ [.issued h]) (h :: held) where
  proper := proper_concat.mpr ⟨ho.proper, hnew⟩
  perm := by
    rw [opened_concat]
    exact ho.perm.cons h
  nodup := List.nodup_cons.mpr ⟨fun hmem => hnew (ho.mem_opened.mpr hmem), ho.nodup⟩

theorem use (ho : Owned log held) (hmem : h ∈ held) (call : C) :
    Owned (log ++ [.used h call]) held where
  proper := proper_concat.mpr ⟨ho.proper, ho.mem_opened.mpr hmem⟩
  perm := by
    rw [opened_concat]
    exact ho.perm
  nodup := ho.nodup

theorem uses (ho : Owned log held) (hmem : h ∈ held) (calls : List C) :
    Owned (log ++ Handles.uses h calls) held := by
  induction calls generalizing log with
  | nil =>
    rw [Handles.uses, List.map_nil, List.append_nil]
    exact ho
  | cons call calls ih =>
    have hstep := ih (ho.use hmem call)
    rwa [List.append_assoc] at hstep

theorem release (ho : Owned log held) (hmem : h ∈ held) :
    Owned (log ++ [.released h]) (held.erase h) where
  proper := proper_concat.mpr ⟨ho.proper, ho.mem_opened.mpr hmem⟩
  perm := by
    rw [opened_concat]
    exact ho.perm.erase h
  nodup := ho.nodup.erase h

/-- The handle that was taken last is given back. -/
theorem release_cons (ho : Owned log (h :: held)) : Owned (log ++ [.released h]) held := by
  have hdone := ho.release List.mem_cons_self
  rwa [List.erase_cons_head] at hdone

/-- A handle was given back as often as it was issued, except for the time
that it is held. -/
theorem balance [DecidableEq C] (ho : Owned log held) (h : H) :
    log.count (.issued h) = log.count (.released h) + held.count h := by
  rw [← ho.perm.count_eq h]
  have hproper := ho.proper
  clear ho
  induction log using List.reverseRecOn with
  | nil => rfl
  | append_singleton log e ih =>
    obtain ⟨hlog, hallowed⟩ := proper_concat.mp hproper
    have hrest := ih hlog
    rw [opened_concat, List.count_append, List.count_append]
    cases e with
    | issued g =>
      by_cases hg : g = h
      · subst hg
        simp [next]
        omega
      · simp [next, hg, hrest]
    | used g call => simp [next, hrest]
    | released g =>
      have hmem : g ∈ opened log := hallowed
      by_cases hg : g = h
      · subst hg
        have hpos := List.count_pos_iff.mpr hmem
        simp [next]
        omega
      · have hkept := List.count_erase_of_ne (Ne.symm hg) (l := opened log)
        simp [next, hg, hrest, hkept]

end Owned

/-! ## Objects that hold handles -/

section Objects

variable (holds : O → List H)

/-- The handles in the objects of a list. -/
def held (objects : List O) : List H := objects.flatMap holds

variable {holds} {objects : List O}

theorem held_concat (o : O) : held holds (objects ++ [o]) = held holds objects ++ holds o := by
  rw [held, List.flatMap_append, List.flatMap_singleton]
  rfl

theorem mem_held {h : H} {o : O} (ho : o ∈ objects) (hh : h ∈ holds o) :
    h ∈ held holds objects :=
  List.mem_flatMap.mpr ⟨o, ho, hh⟩

/-- Replacing one object exchanges its handles. -/
theorem held_set (holds : O → List H) {i : Nat} {old : O} (hi : objects[i]? = some old) (new : O) :
    (holds old ++ held holds (objects.set i new)).Perm (holds new ++ held holds objects) := by
  induction objects generalizing i with
  | nil => simp at hi
  | cons o objects ih =>
    cases i with
    | zero =>
      obtain rfl : o = old := by simpa using hi
      have hswap : (holds o ++ (holds new ++ held holds objects)).Perm
          (holds new ++ (holds o ++ held holds objects)) := by
        rw [← List.append_assoc, ← List.append_assoc]
        exact List.perm_append_comm.append_right _
      exact hswap
    | succ i =>
      have hrest := ih (i := i) (by simpa using hi)
      have hmove : ∀ x y z : List H, (x ++ (y ++ z)).Perm (y ++ (x ++ z)) := by
        intro x y z
        rw [← List.append_assoc, ← List.append_assoc]
        exact List.perm_append_comm.append_right z
      show (holds old ++ (holds o ++ held holds (objects.set i new))).Perm
        (holds new ++ (holds o ++ held holds objects))
      exact (hmove _ _ _).trans ((hrest.append_left (holds o)).trans (hmove _ _ _))

namespace Owned

variable [DecidableEq H] {log : List (Event H C)} {h : H} {i j : Nat} {old new : O}

/-- An object comes to hold a handle that no object held. -/
theorem add (ho : Owned log (h :: held holds objects)) (hnew : holds new = [h]) :
    Owned log (held holds (objects ++ [new])) := by
  rw [held_concat, hnew]
  exact ho.of_perm (List.perm_append_singleton h _).symm

/-- An object without a handle is added. -/
theorem add_empty (ho : Owned log (held holds objects)) (hnew : holds new = []) :
    Owned log (held holds (objects ++ [new])) := by
  rw [held_concat, hnew, List.append_nil]
  exact ho

/-- An object is replaced by one with the same handles. -/
theorem replace (ho : Owned log (held holds objects)) (hi : objects[i]? = some old)
    (hsame : holds new = holds old) : Owned log (held holds (objects.set i new)) := by
  refine ho.of_perm ?_
  have hset := held_set holds hi new
  rw [hsame] at hset
  exact ((List.perm_append_left_iff _).mp hset).symm

/-- An object gives its handle back. -/
theorem drop (ho : Owned log (held holds objects)) (hi : objects[i]? = some old)
    (hold : holds old = [h]) (hnew : holds new = []) :
    Owned (log ++ [.released h]) (held holds (objects.set i new)) := by
  refine Owned.release_cons (ho.of_perm ?_)
  have hset := held_set holds hi new
  rw [hold, hnew] at hset
  exact hset.symm

/-- A handle is moved out of an object. -/
theorem moveOut (ho : Owned log (held holds objects)) (hi : objects[i]? = some old)
    (hold : holds old = [h]) (hnew : holds new = []) :
    Owned log (h :: held holds (objects.set i new)) := by
  refine ho.of_perm ?_
  have hset := held_set holds hi new
  rw [hold, hnew] at hset
  exact hset.symm

/-- A handle is moved into an object that has none. -/
theorem moveIn (ho : Owned log (h :: held holds objects)) (hi : objects[i]? = some old)
    (hold : holds old = []) (hnew : holds new = [h]) :
    Owned log (held holds (objects.set i new)) := by
  refine ho.of_perm ?_
  have hset := held_set holds hi new
  rw [hold, hnew] at hset
  exact hset.symm

end Owned

end Objects

/-! ## Functions that are running -/

/-- What is left of a function.  It reads the handle of its object, opens a
new one, makes a call on a handle, gives one back, and returns.  What a call
answers is known when it returns.  `spin` makes a call on the handle of its
object, and makes it again as long as the answer says so. -/
inductive Routine (H C A R : Type)
  | returns (r : R)
  | reads (next : H → Routine H C A R)
  | spin (c : C) (again : A → Bool) (next : A → Routine H C A R)
  | opens (next : H → A → Routine H C A R)
  | call (h : H) (c : C) (next : A → Routine H C A R)
  | closes (h : H) (next : A → Routine H C A R)

namespace Routine

variable [DecidableEq H] {A R : Type}

/-- A handle, unless it is the one that stands for none. -/
def real (null h : H) : Option H := if h = null then none else some h

/-- With `hand` for the handle that it has opened, the function opens a second
one never, gives back no other, and returns with what it still has. -/
def Tidy (null : H) (holds : R → List H) : Option H → Routine H C A R → Prop
  | hand, .returns r => holds r = hand.toList
  | hand, .reads next => ∀ h, (next h).Tidy null holds hand
  | hand, .spin _ _ next => ∀ a, (next a).Tidy null holds hand
  | hand, .opens next => hand = none ∧ ∀ h a, (next h a).Tidy null holds (real null h)
  | hand, .call _ _ next => ∀ a, (next a).Tidy null holds hand
  | hand, .closes h next => hand = some h ∧ ∀ a, (next a).Tidy null holds none

/-- With `own` for what it has found in its object, the function makes its
calls on this handle and on the one that it has opened, if each time that it
reads its object it finds the same. -/
def Sure (null : H) : Option H → Option H → Routine H C A R → Prop
  | _, _, .returns _ => True
  | none, hand, .reads next => ∀ h, (next h).Sure null (real null h) hand
  | some own, hand, .reads next => (next own).Sure null (some own) hand
  | none, _, .spin _ _ _ => False
  | some own, hand, .spin _ _ next => ∀ a, (next a).Sure null (some own) hand
  | own, _, .opens next => ∀ h a, (next h a).Sure null own (real null h)
  | own, hand, .call h _ next =>
    (own = some h ∨ hand = some h) ∧ ∀ a, (next a).Sure null own hand
  | own, _, .closes _ next => ∀ a, (next a).Sure null own none

/-- A `spin` has read the handle, and makes its call. -/
def spinning (c : C) (again : A → Bool) (next : A → Routine H C A R) (h : H) :
    Routine H C A R :=
  .call h c fun a => if again a then .spin c again next else next a

@[simp] theorem real_null (null : H) : real null null = none := if_pos rfl

theorem real_of_ne {null h : H} (hreal : h ≠ null) : real null h = some h := if_neg hreal

theorem real_eq_some {null h g : H} : real null h = some g ↔ h ≠ null ∧ h = g := by
  unfold real
  split
  · next hnull => simp [hnull]
  · next hreal => simp [hreal]

variable {null : H} {holds : R → List H} {hand : Option H} {c : C} {again : A → Bool}
  {next : A → Routine H C A R}

theorem Tidy.spinning (h : (Routine.spin c again next).Tidy null holds hand) (own : H) :
    (Routine.spinning c again next own).Tidy null holds hand := by
  intro a
  dsimp only
  split
  · exact h
  · exact h a

theorem Sure.spinning {own : H} (h : (Routine.spin c again next).Sure null (some own) hand) :
    (Routine.spinning c again next own).Sure null (some own) hand := by
  refine ⟨Or.inl rfl, fun a => ?_⟩
  dsimp only
  split
  · exact h
  · exact h a

end Routine

end Handles
