import Mathlib.Control.Basic
import Mathlib.Data.List.Basic
import Mathlib.Data.List.Forall2
import Mathlib.Logic.Basic

/-!
# Readers of a stream

A reader is a computation in `StateT (List β) m`: it takes items off the front
of a list and produces a value, or fails in the monad `m`.

* `Reads d bytes v`: in front of anything, the reader takes off exactly
  `bytes` and produces `v`.  This is what a round trip says about a decoder.
* `Ensures d P`: whatever the reader takes off, the value it produces
  satisfies `P`.  This is what a decoder promises about hostile input.

* `Yields d bytes P`: the reader may reject `bytes`, but it cannot read them as
  anything that does not satisfy `P`.
* `Spells d P`: what the reader takes off and the value it produces are
  related by `P`.  This is `Ensures` with the input in view.
* `Follows d e R`: where the reader `d` succeeds the reader `e` takes off the
  same items, and `R` relates what they produce.
* `Local d`: what the reader takes off decides the value, whatever follows.

`ReadsAll` is `Reads` for a reader that insists on the end of the input, and
`Delimited` says of such a reader that nothing it accepts goes on as something
else that it accepts.
There is a rule
for each way to put readers together.  A loop that runs a
reader a number of times is `times`, and one that threads an accumulator is
`fold`.
-/

namespace Reading

universe u

variable {β : Type} {m : Type → Type u} [Monad m] {α γ : Type}

/-! ## Loops -/

/-- Run a reader a number of times. -/
def times (item : StateT (List β) m α) : Nat → StateT (List β) m (List α)
  | 0 => pure []
  | n + 1 => do
    let v ← item
    let rest ← times item n
    pure (v :: rest)

/-- Run a reader a number of times, each time on what the last one left. -/
def fold (body : γ → StateT (List β) m γ) : Nat → γ → StateT (List β) m γ
  | 0, acc => pure acc
  | n + 1, acc => do
    let acc ← body acc
    fold body n acc

/-! ## What is read -/

/-- The reader takes exactly `bytes` off and produces `v`. -/
def Reads (d : StateT (List β) m α) (bytes : List β) (v : α) : Prop :=
  ∀ rest, d.run (bytes ++ rest) = pure (v, rest)

namespace Reads

variable [LawfulMonad m] {d : StateT (List β) m α} {f : α → StateT (List β) m γ}
  {bytes bytes' : List β} {v : α} {w : γ}

theorem bind (h : Reads d bytes v) (hf : Reads (f v) bytes' w) :
    Reads (d >>= f) (bytes ++ bytes') w := by
  intro rest
  rw [StateT.run_bind, List.append_assoc, h, pure_bind]
  exact hf rest

/-- A reader goes on with what follows the field. -/
theorem run_bind (h : Reads d bytes v) (rest : List β) :
    (d >>= f).run (bytes ++ rest) = (f v).run rest := by
  rw [StateT.run_bind, h, pure_bind]

/-- The last field of a record. -/
theorem last {g : α → γ} (h : Reads d bytes v) (hw : g v = w) :
    Reads (d >>= fun x => pure (g x)) bytes w := by
  intro rest
  rw [StateT.run_bind, h, pure_bind, hw]
  rfl

/-- A reader that takes nothing off. -/
theorem skip (h : Reads d [] v) (hf : Reads (f v) bytes w) : Reads (d >>= f) bytes w :=
  h.bind hf

omit [LawfulMonad m] in
theorem pure (v : α) : Reads (m := m) (Pure.pure v) ([] : List β) v := fun _ => rfl

/-- Items that are read as something else than what was written. -/
theorem timesMap {δ : Type} {item : StateT (List β) m α} {write : δ → List β} {g : δ → α}
    {items : List δ} (h : ∀ x ∈ items, Reads item (write x) (g x)) :
    Reads (Reading.times item items.length) (items.flatMap write) (items.map g) := by
  induction items with
  | nil => exact pure []
  | cons x items ih =>
    rw [List.flatMap_cons]
    refine (h x List.mem_cons_self).bind ?_
    exact (ih fun y hy => h y (List.mem_cons_of_mem x hy)).last rfl

theorem times {item : StateT (List β) m α} {write : α → List β} {items : List α}
    (h : ∀ x ∈ items, Reads item (write x) x) :
    Reads (Reading.times item items.length) (items.flatMap write) items := by
  have hmap := timesMap (g := id) h
  rwa [List.map_id] at hmap

/-- The loop reads its items when the body reads each of them, on the
accumulator that the ones before it leave. -/
theorem fold {body : γ → StateT (List β) m γ} {write : α → List β} {next : γ → α → γ}
    {items : List α} {acc : γ}
    (h : ∀ before x after, items = before ++ x :: after →
      Reads (body (before.foldl next acc)) (write x) (next (before.foldl next acc) x)) :
    Reads (Reading.fold body items.length acc) (items.flatMap write) (items.foldl next acc) := by
  induction items generalizing acc with
  | nil => exact pure acc
  | cons x items ih =>
    rw [List.flatMap_cons, List.foldl_cons]
    refine (h [] x items rfl).bind (ih fun before y after he => ?_)
    exact h (x :: before) y after (by rw [he, List.cons_append])

end Reads

/-- The reader takes all of `bytes` off, which is the whole input. -/
def ReadsAll (d : StateT (List β) m α) (bytes : List β) (v : α) : Prop :=
  d.run bytes = pure (v, [])

namespace ReadsAll

variable [LawfulMonad m] {d : StateT (List β) m α} {f : α → StateT (List β) m γ}
  {bytes bytes' : List β} {v : α} {w : γ}

theorem bind (h : Reads d bytes v) (hf : ReadsAll (f v) bytes' w) :
    ReadsAll (d >>= f) (bytes ++ bytes') w := by
  rw [ReadsAll, StateT.run_bind, h, pure_bind]
  exact hf

theorem skip (h : Reads d [] v) (hf : ReadsAll (f v) bytes w) : ReadsAll (d >>= f) bytes w :=
  bind h hf

/-- The end of the input. -/
theorem last {g : α → γ} (h : ReadsAll d bytes v) (hw : g v = w) :
    ReadsAll (d >>= fun x => pure (g x)) bytes w := by
  rw [ReadsAll] at h ⊢
  rw [StateT.run_bind, h, pure_bind, hw]
  rfl

end ReadsAll

/-! ## What is promised -/

/-- A monad in which a computation that succeeds has parts that succeeded. -/
class Fallible (m : Type → Type u) [Monad m] : Prop where
  pure_inj : ∀ {α : Type} {a b : α}, (pure a : m α) = pure b → a = b
  bind_eq_pure : ∀ {α γ : Type} {x : m α} {f : α → m γ} {b : γ}, x >>= f = pure b →
    ∃ a, x = pure a ∧ f a = pure b

instance : Fallible Option where
  pure_inj := Option.some.inj
  bind_eq_pure := by
    intro α γ x f b h
    cases x with
    | none => cases h
    | some a => exact ⟨a, rfl, h⟩

instance {ε : Type} : Fallible (Except ε) where
  pure_inj := Except.ok.inj
  bind_eq_pure := by
    intro α γ x f b h
    cases x with
    | error e => cases h
    | ok a => exact ⟨a, rfl, h⟩

/-- Every value that the reader can produce satisfies `P`. -/
def Ensures (d : StateT (List β) m α) (P : α → Prop) : Prop :=
  ∀ r v r', d.run r = pure (v, r') → P v

namespace Ensures

variable [Fallible m] {d : StateT (List β) m α} {f : α → StateT (List β) m γ}
  {P : α → Prop} {Q : γ → Prop}

theorem bind (h : Ensures d P) (hf : ∀ v, P v → Ensures (f v) Q) : Ensures (d >>= f) Q := by
  intro r w r' hrun
  rw [StateT.run_bind] at hrun
  obtain ⟨⟨v, r₁⟩, hd, hv⟩ := Fallible.bind_eq_pure hrun
  exact hf v (h r v r₁ hd) r₁ w r' hv

/-- A field that nothing is said about. -/
theorem any (hf : ∀ v, Ensures (f v) Q) : Ensures (d >>= f) Q :=
  bind (P := fun _ => True) (fun _ _ _ _ => trivial) fun v _ => hf v

theorem pure {v : α} (h : P v) : Ensures (m := m) (Pure.pure v : StateT (List β) m α) P := by
  intro r w r' hrun
  have hpair : (v, r) = (w, r') := Fallible.pure_inj (m := m) hrun
  obtain ⟨rfl, _⟩ := Prod.mk.inj hpair
  exact h

theorem times {item : StateT (List β) m α} (h : Ensures item P) (n : Nat) :
    Ensures (Reading.times item n) fun items => items.length = n ∧ ∀ x ∈ items, P x := by
  induction n with
  | zero =>
    apply pure
    simp
  | succ n ih =>
    refine h.bind fun x hx => ih.bind fun items hitems => pure ?_
    obtain ⟨hlength, hall⟩ := hitems
    refine ⟨by rw [List.length_cons, hlength], fun y hy => ?_⟩
    rcases List.mem_cons.mp hy with rfl | hy
    · exact hx
    · exact hall y hy

/-- An invariant of the accumulator, which may count the rounds. -/
theorem fold {body : γ → StateT (List β) m γ} {I : Nat → γ → Prop}
    (h : ∀ k acc, I k acc → Ensures (body acc) (I (k + 1))) (n : Nat) {k : Nat} {acc : γ}
    (hacc : I k acc) : Ensures (Reading.fold body n acc) (I (k + n)) := by
  induction n generalizing k acc with
  | zero => exact pure hacc
  | succ n ih =>
    refine (h k acc hacc).bind fun acc' hacc' => ?_
    rw [show k + (n + 1) = k + 1 + n by omega]
    exact ih hacc'

end Ensures

/-! ## What is read, if anything is -/

/-- On `bytes` in front of anything the reader may fail, but when it succeeds
it takes exactly `bytes` off and what it produces satisfies `P`. -/
def Yields (d : StateT (List β) m α) (bytes : List β) (P : α → Prop) : Prop :=
  ∀ rest v r', d.run (bytes ++ rest) = pure (v, r') → P v ∧ r' = rest

namespace Yields

variable [Fallible m] {d : StateT (List β) m α} {f : α → StateT (List β) m γ}
  {bytes bytes' : List β} {P : α → Prop} {Q : γ → Prop}

theorem of_reads {v : α} (h : Reads d bytes v) (hv : P v) : Yields d bytes P := by
  intro rest w r' hrun
  rw [h] at hrun
  have hpair : (v, rest) = (w, r') := Fallible.pure_inj (m := m) hrun
  obtain ⟨rfl, rfl⟩ := Prod.mk.inj hpair
  exact ⟨hv, rfl⟩

theorem bind (h : Yields d bytes P) (hf : ∀ v, P v → Yields (f v) bytes' Q) :
    Yields (d >>= f) (bytes ++ bytes') Q := by
  intro rest w r' hrun
  rw [StateT.run_bind, List.append_assoc] at hrun
  obtain ⟨⟨v, r₁⟩, hd, hv⟩ := Fallible.bind_eq_pure hrun
  obtain ⟨hP, rfl⟩ := h (bytes' ++ rest) v r₁ hd
  exact hf v hP rest w r' hv

/-- A field that is always read. -/
theorem field {v : α} (h : Reads d bytes v) (hf : Yields (f v) bytes' Q) :
    Yields (d >>= f) (bytes ++ bytes') Q := by
  refine (of_reads (P := fun w => w = v) h rfl).bind ?_
  rintro _ rfl
  exact hf

/-- A check, which takes nothing off. -/
theorem check (h : Yields d [] P) (hf : ∀ v, P v → Yields (f v) bytes Q) :
    Yields (d >>= f) bytes Q :=
  h.bind hf

theorem pure {v : α} (h : P v) : Yields (m := m) (Pure.pure v) ([] : List β) P :=
  of_reads (Reads.pure v) h

/-- A field and the value that is made of it. -/
theorem last {g : α → γ} (h : Yields d bytes P) (hQ : ∀ v, P v → Q (g v)) :
    Yields (d >>= fun x => Pure.pure (g x)) bytes Q := by
  rw [← List.append_nil bytes]
  exact h.bind fun v hv => pure (hQ v hv)

/-- A loop over items, with an invariant that knows the items before. -/
theorem fold {body : γ → StateT (List β) m γ} {write : α → List β} {I : List α → γ → Prop}
    {items : List α} {acc : γ} (hacc : I [] acc)
    (h : ∀ before x after acc, items = before ++ x :: after → I before acc →
      Yields (body acc) (write x) (I (before ++ [x]))) :
    Yields (Reading.fold body items.length acc) (items.flatMap write) (I items) := by
  have hfrom : ∀ after before acc, items = before ++ after → I before acc →
      Yields (Reading.fold body after.length acc) (after.flatMap write) (I items) := by
    intro after
    induction after with
    | nil =>
      intro before acc hitems hbefore
      rw [List.append_nil] at hitems
      rw [hitems]
      exact pure hbefore
    | cons x after ih =>
      intro before acc hitems hbefore
      rw [List.flatMap_cons]
      refine (h before x after acc hitems hbefore).bind fun acc' hacc' => ?_
      exact ih (before ++ [x]) acc' (by rw [hitems, List.append_assoc]; rfl) hacc'
  exact hfrom items [] acc rfl hacc

end Yields

/-! ## What is taken off -/

/-- The reader takes off some items in front of the rest that it leaves, and
`P` relates them to the value. -/
def Spells (d : StateT (List β) m α) (P : List β → α → Prop) : Prop :=
  ∀ r v r', d.run r = pure (v, r') → ∃ used, r = used ++ r' ∧ P used v

namespace Spells

variable [Fallible m] {d : StateT (List β) m α} {f : α → StateT (List β) m γ}
  {P : List β → α → Prop} {Q : List β → γ → Prop}

theorem bind (h : Spells d P)
    (hf : ∀ used v, P used v → Spells (f v) fun used' w => Q (used ++ used') w) :
    Spells (d >>= f) Q := by
  intro r w r' hrun
  rw [StateT.run_bind] at hrun
  obtain ⟨⟨v, r₁⟩, hd, hv⟩ := Fallible.bind_eq_pure hrun
  obtain ⟨used, rfl, hP⟩ := h r v r₁ hd
  obtain ⟨used', rfl, hQ⟩ := hf used v hP r₁ w r' hv
  exact ⟨used ++ used', (List.append_assoc used used' r').symm, hQ⟩

/-- A field of which the value tells the bytes. -/
theorem field {write : α → List β} (h : Spells d fun used v => used = write v)
    (hf : ∀ v, Spells (f v) fun used' w => Q (write v ++ used') w) : Spells (d >>= f) Q := by
  refine h.bind fun used v hused => ?_
  rw [hused]
  exact hf v

theorem pure {v : α} (h : P [] v) :
    Spells (m := m) (Pure.pure v : StateT (List β) m α) P := by
  intro r w r' hrun
  have hpair : (v, r) = (w, r') := Fallible.pure_inj (m := m) hrun
  obtain ⟨rfl, rfl⟩ := Prod.mk.inj hpair
  exact ⟨[], rfl, h⟩

omit [Fallible m] in
theorem mono {P' : List β → α → Prop} (h : Spells d P) (hP : ∀ used v, P used v → P' used v) :
    Spells d P' := by
  intro r v r' hrun
  obtain ⟨used, hr, hused⟩ := h r v r' hrun
  exact ⟨used, hr, hP used v hused⟩

end Spells

/-! ## Two readers of one format -/

section Follows

variable {n : Type → Type u} [Monad n] {δ ε : Type}

/-- Where `d` succeeds `e` does, on the same items. -/
def Follows (d : StateT (List β) m α) (e : StateT (List β) n δ) (R : α → δ → Prop) : Prop :=
  ∀ r v r', d.run r = pure (v, r') → ∃ w, e.run r = pure (w, r') ∧ R v w

namespace Follows

variable [Fallible m] [LawfulMonad n] {d : StateT (List β) m α} {f : α → StateT (List β) m γ}
  {e : StateT (List β) n δ} {g : δ → StateT (List β) n ε} {R : α → δ → Prop} {S : γ → ε → Prop}

theorem bind (h : Follows d e R) (hf : ∀ v w, R v w → Follows (f v) (g w) S) :
    Follows (d >>= f) (e >>= g) S := by
  intro r v r' hrun
  rw [StateT.run_bind] at hrun
  obtain ⟨⟨a, r₁⟩, hd, ha⟩ := Fallible.bind_eq_pure hrun
  obtain ⟨b, he, hR⟩ := h r a r₁ hd
  obtain ⟨w, hg, hS⟩ := hf a b hR r₁ v r' ha
  refine ⟨w, ?_, hS⟩
  rw [StateT.run_bind, he, pure_bind]
  exact hg

/-- A field that both readers read and that neither result shows. -/
theorem pass (h : Follows d e R) (hf : ∀ v w, Follows (f v) (g w) S) :
    Follows (d >>= f) (e >>= g) S :=
  h.bind fun v w _ => hf v w

omit [LawfulMonad n] in
/-- A check of `d` alone, which takes nothing off. -/
theorem check {P : α → Prop} (h : Spells d fun used v => used = [] ∧ P v) {e : StateT (List β) n ε}
    (hf : ∀ v, P v → Follows (f v) e S) : Follows (d >>= f) e S := by
  intro r v r' hrun
  rw [StateT.run_bind] at hrun
  obtain ⟨⟨a, r₁⟩, hd, ha⟩ := Fallible.bind_eq_pure hrun
  obtain ⟨used, rfl, rfl, hP⟩ := h r a r₁ hd
  exact hf a hP r₁ v r' ha

omit [LawfulMonad n] in
theorem pure {v : α} {w : δ} (h : R v w) :
    Follows (Pure.pure v : StateT (List β) m α) (Pure.pure w : StateT (List β) n δ) R := by
  intro r v' r' hrun
  have hpair : (v, r) = (v', r') := Fallible.pure_inj (m := m) hrun
  obtain ⟨rfl, rfl⟩ := Prod.mk.inj hpair
  exact ⟨w, rfl, h⟩

theorem times {item : StateT (List β) m α} {item' : StateT (List β) n δ}
    (h : Follows item item' R) (k : Nat) :
    Follows (Reading.times item k) (Reading.times item' k) (List.Forall₂ R) := by
  induction k with
  | zero => exact pure List.Forall₂.nil
  | succ k ih =>
    refine h.bind fun v w hvw => ih.bind fun vs ws hvws => pure ?_
    exact List.Forall₂.cons hvw hvws

/-- A field that the other reader keeps as it is. -/
theorem last {g : α → γ} {T : γ → δ → Prop} (h : Follows d e R)
    (hT : ∀ v w, R v w → T (g v) w) : Follows (d >>= fun v => Pure.pure (g v)) e T := by
  have hbind := h.bind fun v w hvw => pure (hT v w hvw)
  rwa [bind_pure] at hbind

/-- A loop with an accumulator follows one that collects its items. -/
theorem fold {body : γ → StateT (List β) m γ} {item : StateT (List β) n δ}
    {I : List δ → γ → Prop}
    (h : ∀ ws acc, I ws acc → Follows (body acc) item fun acc' w => I (ws ++ [w]) acc')
    (k : Nat) {acc : γ} (hacc : I [] acc) :
    Follows (Reading.fold body k acc) (Reading.times item k) fun acc' ws => I ws acc' := by
  have hfrom : ∀ k ws acc, I ws acc → Follows (Reading.fold body k acc) (Reading.times item k)
      fun acc' ws' => I (ws ++ ws') acc' := by
    intro k
    induction k with
    | zero =>
      intro ws acc hacc
      apply pure
      rwa [List.append_nil]
    | succ k ih =>
      intro ws acc hacc
      refine (h ws acc hacc).bind fun acc' w hw => ?_
      intro r v r' hrun
      obtain ⟨ws', hws', hI⟩ := ih (ws ++ [w]) acc' hw r v r' hrun
      refine ⟨w :: ws', ?_, ?_⟩
      · rw [StateT.run_bind, hws', pure_bind]
        rfl
      · rwa [List.append_assoc] at hI
  exact hfrom k [] acc hacc

end Follows

end Follows

/-! ## Locality -/

/-- What the reader takes off, it takes off whatever follows. -/
def Local (d : StateT (List β) m α) : Prop := Spells d (Reads d)

namespace Local

variable [Fallible m] [LawfulMonad m] {d : StateT (List β) m α} {f : α → StateT (List β) m γ}

theorem bind (h : Local d) (hf : ∀ v, Local (f v)) : Local (d >>= f) := by
  refine Spells.bind h fun used v hused => ?_
  exact (hf v).mono fun used' w hused' => hused.bind hused'

omit [Fallible m] [LawfulMonad m] in
/-- A reader that undoes a writer and takes off nothing else. -/
theorem of_write {write : α → List β} (h : Spells d fun used v => used = write v)
    (hread : ∀ v, Reads d (write v) v) : Local d := by
  refine h.mono fun used v hused => ?_
  rw [hused]
  exact hread v

omit [LawfulMonad m] in
theorem pure (v : α) : Local (m := m) (Pure.pure v : StateT (List β) m α) :=
  Spells.pure (Reads.pure v)

omit [Fallible m] [LawfulMonad m] in
/-- One of two readers, by a condition that does not look at the input. -/
theorem ite {p : Prop} [Decidable p] {d' : StateT (List β) m α} (h : Local d) (h' : Local d') :
    Local (if p then d else d') := by
  by_cases hp : p
  · rwa [if_pos hp]
  · rwa [if_neg hp]

theorem times {item : StateT (List β) m α} (h : Local item) (n : Nat) :
    Local (Reading.times item n) := by
  induction n with
  | zero => exact pure []
  | succ n ih => exact h.bind fun v => ih.bind fun rest => pure (v :: rest)

theorem fold {body : γ → StateT (List β) m γ} (h : ∀ acc, Local (body acc)) (n : Nat)
    (acc : γ) : Local (Reading.fold body n acc) := by
  induction n generalizing acc with
  | zero => exact pure acc
  | succ n ih => exact (h acc).bind fun acc' => ih acc'

end Local

/-- The reader leaves nothing. -/
def Finishes (d : StateT (List β) m α) : Prop :=
  ∀ r v r', d.run r = pure (v, r') → r' = []

namespace Finishes

variable [Fallible m] {d : StateT (List β) m α}

theorem bind {f : α → StateT (List β) m γ} (hf : ∀ v, Finishes (f v)) : Finishes (d >>= f) := by
  intro r w r' hrun
  rw [StateT.run_bind] at hrun
  obtain ⟨⟨v, r₁⟩, -, hv⟩ := Fallible.bind_eq_pure hrun
  exact hf v r₁ w r' hv

theorem last {g : α → γ} (h : Finishes d) : Finishes (d >>= fun x => pure (g x)) := by
  intro r w r' hrun
  rw [StateT.run_bind] at hrun
  obtain ⟨⟨v, r₁⟩, hd, hv⟩ := Fallible.bind_eq_pure hrun
  have hpair : (g v, r₁) = (w, r') := Fallible.pure_inj (m := m) hv
  obtain ⟨-, rfl⟩ := Prod.mk.inj hpair
  exact h r v r₁ hd

end Finishes

/-- No input that the reader accepts goes on as another one. -/
def Delimited (d : StateT (List β) m α) : Prop :=
  ∀ r more v r₁ w r₂, d.run r = pure (v, r₁) → d.run (r ++ more) = pure (w, r₂) → more = []

namespace Delimited

variable [Fallible m] {d : StateT (List β) m α} {f : α → StateT (List β) m γ}

theorem bind [LawfulMonad m] (h : Local d) (hf : ∀ v, Delimited (f v)) :
    Delimited (d >>= f) := by
  intro r more w r₁ w' r₂ hrun hrun'
  rw [StateT.run_bind] at hrun hrun'
  obtain ⟨⟨v, left⟩, hd, hv⟩ := Fallible.bind_eq_pure hrun
  obtain ⟨used, rfl, hused⟩ := h r v left hd
  -- the longer input begins with the same items, so they are read the same way
  rw [List.append_assoc, hused, pure_bind] at hrun'
  exact hf v left more w r₁ w' r₂ hv hrun'

/-- What comes after the end of the input does not matter. -/
theorem last (h : Delimited d) : Delimited (d >>= f) := by
  intro r more w r₁ w' r₂ hrun hrun'
  rw [StateT.run_bind] at hrun hrun'
  obtain ⟨⟨v, left⟩, hd, -⟩ := Fallible.bind_eq_pure hrun
  obtain ⟨⟨v', left'⟩, hd', -⟩ := Fallible.bind_eq_pure hrun'
  exact h r more v left v' left' hd hd'

end Delimited

end Reading
