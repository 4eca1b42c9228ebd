import GpuFleet.Lib.Reading

/-!
# How a reader fails

`Fails d P` says that every error of the reader `d` satisfies `P`.  A reader
that is put together fails where one of its parts does, so there is one rule
for each way to put readers together.
-/

namespace Reading

variable {β ε α γ : Type}

/-- Every error that the reader can end in satisfies `P`. -/
def Fails (d : StateT (List β) (Except ε) α) (P : ε → Prop) : Prop :=
  ∀ r e, d.run r = .error e → P e

namespace Fails

variable {d : StateT (List β) (Except ε) α} {f : α → StateT (List β) (Except ε) γ}
  {P : ε → Prop}

theorem bind (h : Fails d P) (hf : ∀ v, Fails (f v) P) : Fails (d >>= f) P := by
  intro r e hrun
  rw [StateT.run_bind] at hrun
  cases hd : d.run r with
  | error e' =>
    rw [hd] at hrun
    cases hrun
    exact h r e hd
  | ok out =>
    rw [hd] at hrun
    exact hf out.1 out.2 e hrun

/-- A reader that succeeds. -/
theorem pure (v : α) : Fails (Pure.pure v : StateT (List β) (Except ε) α) P := by
  intro r e hrun
  cases hrun

theorem times {item : StateT (List β) (Except ε) α} (h : Fails item P) (n : Nat) :
    Fails (Reading.times item n) P := by
  induction n with
  | zero => exact pure []
  | succ n ih => exact h.bind fun _ => ih.bind fun _ => pure _

end Fails

end Reading
