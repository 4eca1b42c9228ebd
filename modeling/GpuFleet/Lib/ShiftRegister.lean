import Mathlib.Logic.Function.Iterate
import Mathlib.Data.List.Basic
import Mathlib.Data.Nat.Bitwise

/-!
# Shift registers

A register of `w` bits that is shifted to the right, with feedback from a
polynomial when a one falls out, and takes symbols of `k` bits in at its low
end.  This is the reflected form of a cyclic redundancy check.

If the polynomial has its top bit, a shift loses nothing (`shift_injective`).
Symbols that fit in the register together have the effect of the one word that
they spell (`absorbAll_eq_word`).  So two inputs that differ in so few
consecutive symbols leave different registers (`absorbAll_ne`).
-/

namespace ShiftRegister

/-! ## Inputs that differ in a few places -/

section DifferWithin

variable {β : Type}

/-- The lists have one length, and the places at which they differ are among
`n` consecutive ones. -/
def DifferWithin (xs ys : List β) (start n : Nat) : Prop :=
  xs.length = ys.length ∧ ∀ i, xs[i]? ≠ ys[i]? → start ≤ i ∧ i < start + n

theorem DifferWithin.take_eq {xs ys : List β} {start n : Nat} (h : DifferWithin xs ys start n) :
    xs.take start = ys.take start := by
  apply List.ext_getElem?
  intro i
  by_cases hi : i < start
  · rw [List.getElem?_take_of_lt hi, List.getElem?_take_of_lt hi]
    by_contra hne
    have hstart := (h.2 i hne).1
    omega
  · rw [List.getElem?_take, List.getElem?_take, if_neg hi, if_neg hi]

theorem DifferWithin.drop_eq {xs ys : List β} {start n : Nat} (h : DifferWithin xs ys start n) :
    xs.drop (start + n) = ys.drop (start + n) := by
  apply List.ext_getElem?
  intro i
  rw [List.getElem?_drop, List.getElem?_drop]
  by_contra hne
  have hend := (h.2 (start + n + i) hne).2
  omega

theorem split_window (xs : List β) (start n : Nat) :
    xs = xs.take start ++ ((xs.drop start).take n ++ xs.drop (start + n)) := by
  rw [← List.drop_drop, List.take_append_drop, List.take_append_drop]

/-- The lists are the same around a window in which they differ. -/
theorem DifferWithin.split {xs ys : List β} {start n : Nat} (h : DifferWithin xs ys start n) :
    ∃ before window window' after, xs = before ++ (window ++ after) ∧
      ys = before ++ (window' ++ after) ∧ window.length = window'.length ∧ window.length ≤ n := by
  refine ⟨xs.take start, (xs.drop start).take n, (ys.drop start).take n, xs.drop (start + n),
    split_window xs start n, ?_, ?_, List.length_take_le n _⟩
  · rw [h.take_eq, h.drop_eq]
    exact split_window ys start n
  · simp only [List.length_take, List.length_drop, h.1]

/-- A window of the shorter lists. -/
theorem DifferWithin.of_append {xs ys zs : List β} {start n : Nat}
    (h : DifferWithin (xs ++ zs) (ys ++ zs) start n) : DifferWithin xs ys start n := by
  have hlength : xs.length = ys.length := by
    have happend := h.1
    rw [List.length_append, List.length_append] at happend
    omega
  refine ⟨hlength, fun i hne => ?_⟩
  by_cases hi : i < xs.length
  · apply h.2
    rwa [List.getElem?_append_left hi, List.getElem?_append_left (hlength ▸ hi)]
  · exact absurd (by rw [List.getElem?_eq_none (by omega), List.getElem?_eq_none (by omega)]) hne

theorem DifferWithin.map {γ : Type} {xs ys : List β} {start n : Nat}
    (h : DifferWithin xs ys start n) (f : β → γ) :
    DifferWithin (xs.map f) (ys.map f) start n := by
  refine ⟨by rw [List.length_map, List.length_map, h.1], fun i hne => h.2 i fun heq => hne ?_⟩
  rw [List.getElem?_map, List.getElem?_map, heq]

end DifferWithin

/-! ## One shift -/

variable {w : Nat} (poly : BitVec w)

/-- The register moves down by one bit, and the polynomial is added when the
bit that falls out is a one. -/
def shift (x : BitVec w) : BitVec w :=
  (x >>> 1) ^^^ (if x.getLsbD 0 then poly else 0#w)

theorem xor_left_cancel {a b c : BitVec w} (h : a ^^^ b = a ^^^ c) : b = c := by
  have hxor := congrArg (fun x => a ^^^ x) h
  simpa only [← BitVec.xor_assoc, BitVec.xor_self, BitVec.zero_xor] using hxor

theorem xor_right_cancel {a b c : BitVec w} (h : b ^^^ a = c ^^^ a) : b = c := by
  rw [BitVec.xor_comm b, BitVec.xor_comm c] at h
  exact xor_left_cancel h

/-- A shift is linear over exclusive or. -/
theorem shift_xor (x y : BitVec w) : shift poly (x ^^^ y) = shift poly x ^^^ shift poly y := by
  have hfeedback : (if (x ^^^ y).getLsbD 0 then poly else 0#w)
      = (if x.getLsbD 0 then poly else 0#w) ^^^ (if y.getLsbD 0 then poly else 0#w) := by
    rw [BitVec.getLsbD_xor]
    cases x.getLsbD 0 <;> cases y.getLsbD 0 <;> simp
  rw [shift, shift, shift, hfeedback, BitVec.ushiftRight_xor_distrib]
  ac_rfl

variable {poly}

/-- The bit that fell out is the top bit after the shift. -/
theorem shift_top {n : Nat} {poly : BitVec (n + 1)} (hpoly : poly.getLsbD n = true)
    (x : BitVec (n + 1)) : (shift poly x).getLsbD n = x.getLsbD 0 := by
  have hmoved : (x >>> 1).getLsbD n = false := by
    rw [BitVec.getLsbD_ushiftRight]
    exact BitVec.getLsbD_of_ge x (1 + n) (by omega)
  rw [shift, BitVec.getLsbD_xor, hmoved, Bool.false_xor]
  cases x.getLsbD 0 with
  | true => exact hpoly
  | false => exact BitVec.getLsbD_zero

theorem shift_injective {n : Nat} {poly : BitVec (n + 1)} (hpoly : poly.getLsbD n = true) :
    Function.Injective (shift poly) := by
  intro x y h
  have hlow : x.getLsbD 0 = y.getLsbD 0 := by
    rw [← shift_top hpoly x, h, shift_top hpoly y]
  have hhigh : x >>> 1 = y >>> 1 := by
    rw [shift, shift, hlow] at h
    exact xor_right_cancel h
  apply BitVec.eq_of_getLsbD_eq
  intro i hi
  cases i with
  | zero => exact hlow
  | succ i =>
    have hbit := congrArg (fun z => z.getLsbD i) hhigh
    simpa only [BitVec.getLsbD_ushiftRight, Nat.add_comm 1 i] using hbit

/-! ## Several shifts -/

/-- Shifts to the right undo a shift to the left that loses no bit. -/
theorem iterate_shift_shiftLeft (x : BitVec w) (k : Nat) (h : x.toNat * 2 ^ k < 2 ^ w) :
    (shift poly)^[k] (x <<< k) = x := by
  induction k with
  | zero => exact BitVec.shiftLeft_zero x
  | succ k ih =>
    have hfits : x.toNat * 2 ^ k * 2 < 2 ^ w := by rwa [Nat.mul_assoc, ← Nat.pow_succ]
    have htoNat : (x <<< k).toNat = x.toNat * 2 ^ k := by
      rw [BitVec.toNat_shiftLeft, Nat.shiftLeft_eq, Nat.mod_eq_of_lt (by omega)]
    have hlast : shift poly (x <<< (k + 1)) = x <<< k := by
      have heven : (x <<< (k + 1)).getLsbD 0 = false := by
        simp [BitVec.getLsbD_shiftLeft]
      rw [shift, heven, if_neg Bool.false_ne_true, BitVec.xor_zero]
      apply BitVec.eq_of_toNat_eq
      rw [BitVec.toNat_ushiftRight, BitVec.toNat_shiftLeft, htoNat, Nat.shiftLeft_eq,
        Nat.pow_succ, ← Nat.mul_assoc, Nat.mod_eq_of_lt hfits, Nat.shiftRight_eq_div_pow]
      omega
    rw [Function.iterate_succ_apply, hlast]
    exact ih (by omega)

theorem iterate_shift_xor (k : Nat) (x y : BitVec w) :
    (shift poly)^[k] (x ^^^ y) = (shift poly)^[k] x ^^^ (shift poly)^[k] y := by
  induction k generalizing x y with
  | zero => rfl
  | succ k ih => rw [Function.iterate_succ_apply, shift_xor, ih]; rfl

/-! ## Symbols -/

variable {k : Nat}

/-- A symbol is added at the low end and shifted through. -/
def absorb (poly : BitVec w) (r : BitVec w) (b : BitVec k) : BitVec w :=
  (shift poly)^[k] (r ^^^ b.setWidth w)

/-- Several symbols, one after the other. -/
def absorbAll (poly : BitVec w) (r : BitVec w) (bs : List (BitVec k)) : BitVec w :=
  bs.foldl (absorb poly) r

/-- The word that some symbols spell, the first one at its low end. -/
def word : List (BitVec k) → BitVec w
  | [] => 0#w
  | b :: bs => b.setWidth w ^^^ (word bs <<< k)

theorem word_lt (bs : List (BitVec k)) : (word (w := w) bs).toNat < 2 ^ (k * bs.length) := by
  induction bs with
  | nil => simp [word]
  | cons b bs ih =>
    rw [List.length_cons, word, BitVec.toNat_xor]
    apply Nat.xor_lt_two_pow
    · have hb := b.isLt
      have hle : 2 ^ k ≤ 2 ^ (k * (bs.length + 1)) :=
        Nat.pow_le_pow_right (by decide) (Nat.le_mul_of_pos_right k (by omega))
      rw [BitVec.toNat_setWidth]
      exact lt_of_le_of_lt (Nat.mod_le _ _) (by omega)
    · rw [BitVec.toNat_shiftLeft, Nat.shiftLeft_eq]
      refine lt_of_le_of_lt (Nat.mod_le _ _) ?_
      rw [Nat.mul_succ, Nat.pow_add]
      exact Nat.mul_lt_mul_of_pos_right ih (Nat.two_pow_pos k)

/-- As many symbols as the register has room for have the effect of their
word. -/
theorem absorbAll_eq_word (bs : List (BitVec k)) (r : BitVec w) (h : k * bs.length ≤ w) :
    absorbAll poly r bs = (shift poly)^[k * bs.length] (r ^^^ word bs) := by
  induction bs generalizing r with
  | nil => simp [absorbAll, word]
  | cons b bs ih =>
    rw [List.length_cons, Nat.mul_succ] at h
    have hfits : (word (w := w) bs).toNat * 2 ^ k < 2 ^ w := by
      refine lt_of_lt_of_le ?_ (Nat.pow_le_pow_right (by decide) h)
      rw [Nat.pow_add]
      exact Nat.mul_lt_mul_of_pos_right (word_lt bs) (Nat.two_pow_pos k)
    calc absorbAll poly r (b :: bs) = absorbAll poly (absorb poly r b) bs := rfl
      _ = (shift poly)^[k * bs.length] (absorb poly r b ^^^ word bs) := ih _ (by omega)
      _ = (shift poly)^[k * bs.length]
            ((shift poly)^[k] (r ^^^ b.setWidth w) ^^^ (shift poly)^[k] (word bs <<< k)) := by
          rw [iterate_shift_shiftLeft _ _ hfits, absorb]
      _ = (shift poly)^[k * bs.length] ((shift poly)^[k] (r ^^^ word (b :: bs))) := by
          rw [← iterate_shift_xor, BitVec.xor_assoc, word]
      _ = (shift poly)^[k * (b :: bs).length] (r ^^^ word (b :: bs)) := by
          rw [← Function.iterate_add_apply, List.length_cons, Nat.mul_succ]

theorem word_injective {bs bs' : List (BitVec k)} (hlength : bs.length = bs'.length)
    (hfits : k * bs.length ≤ w) (h : word (w := w) bs = word bs') : bs = bs' := by
  induction bs generalizing bs' with
  | nil => exact (List.length_eq_zero_iff.mp hlength.symm).symm
  | cons b bs ih =>
    cases bs' with
    | nil => cases hlength
    | cons b' bs' =>
      rw [List.length_cons, List.length_cons, Nat.succ_inj] at hlength
      rw [List.length_cons, Nat.mul_succ] at hfits
      rw [word, word] at h
      have hb : b = b' := by
        apply BitVec.eq_of_getLsbD_eq
        intro i hi
        have hbit := congrArg (fun x => x.getLsbD i) h
        have hiw : i < w := by omega
        simpa [BitVec.getLsbD_xor, BitVec.getLsbD_shiftLeft, BitVec.getLsbD_setWidth, hi, hiw]
          using hbit
      subst hb
      have hshifted := congrArg BitVec.toNat (xor_left_cancel h)
      have hroom : ∀ cs : List (BitVec k), cs.length = bs.length →
          (word (w := w) cs <<< k).toNat = (word (w := w) cs).toNat * 2 ^ k := by
        intro cs hcs
        rw [BitVec.toNat_shiftLeft, Nat.shiftLeft_eq]
        apply Nat.mod_eq_of_lt
        refine lt_of_lt_of_le ?_ (Nat.pow_le_pow_right (by decide) hfits)
        rw [Nat.pow_add, ← hcs]
        exact Nat.mul_lt_mul_of_pos_right (word_lt cs) (Nat.two_pow_pos k)
      rw [hroom bs rfl, hroom bs' hlength.symm] at hshifted
      have hword : word (w := w) bs = word bs' :=
        BitVec.eq_of_toNat_eq (Nat.eq_of_mul_eq_mul_right (Nat.two_pow_pos k) hshifted)
      rw [ih hlength (by omega) hword]

/-! ## Detection -/

section Detection

variable {n : Nat} {poly : BitVec (n + 1)} (hpoly : poly.getLsbD n = true)

include hpoly

theorem absorbAll_injective (bs : List (BitVec k)) :
    Function.Injective fun r => absorbAll poly r bs := by
  induction bs with
  | nil => exact fun r r' h => h
  | cons b bs ih =>
    intro r r' h
    have hfirst : absorb poly r b = absorb poly r' b := ih h
    exact xor_right_cancel ((shift_injective hpoly).iterate k hfirst)

/-- Inputs that differ in no more consecutive symbols than the register has
room for leave different registers. -/
theorem absorbAll_ne {xs ys : List (BitVec k)} {start symbols : Nat}
    (h : DifferWithin xs ys start symbols) (hfits : k * symbols ≤ n + 1) (hne : xs ≠ ys)
    (r : BitVec (n + 1)) : absorbAll poly r xs ≠ absorbAll poly r ys := by
  obtain ⟨before, window, window', after, rfl, rfl, hlength, hsymbols⟩ := h.split
  intro heq
  apply hne
  have hroom : k * window.length ≤ n + 1 := (Nat.mul_le_mul_left k hsymbols).trans hfits
  have hroom' : k * window'.length ≤ n + 1 := hlength ▸ hroom
  simp only [absorbAll, List.foldl_append] at heq
  -- what follows the window loses nothing, and neither does the shift of its word
  have hwindow := absorbAll_injective hpoly after heq
  change absorbAll poly _ window = absorbAll poly _ window' at hwindow
  rw [absorbAll_eq_word _ _ hroom, absorbAll_eq_word _ _ hroom', ← hlength] at hwindow
  have hword := xor_left_cancel ((shift_injective hpoly).iterate _ hwindow)
  rw [word_injective hlength hroom hword]

end Detection

end ShiftRegister
