import Mathlib

/-!
# Single-precision numbers that are no numbers

Lean's `Float32` is the binary32 format, and its operations are those of the
format on the unpacked bits.  A comparison with a NaN is false, so "not less"
is not "at least".  `not_lt_iff` says what it is, and the other lemmas say
where the operations give a NaN.
-/

open Float.Model Float.Model.UnpackedFloat

namespace Float32

/-! ## Bits -/

theorem isNaN_unpack (b : BitVec Format.binary32.numBits) :
    (UnpackedFloat.unpack Format.binary32 b).isNaN = true ↔
      unpackExponent b = -1#8 ∧ unpackMantissa b ≠ 0#23 := by
  unfold UnpackedFloat.unpack
  dsimp only
  by_cases hexponent : unpackExponent b = -1#8
  · by_cases hmantissa : unpackMantissa b = 0#23
    · rw [if_pos hexponent, if_pos hmantissa]
      exact iff_of_false Bool.false_ne_true fun h => h.2 hmantissa
    · rw [if_pos hexponent, if_neg hmantissa]
      exact iff_of_true rfl ⟨hexponent, hmantissa⟩
  · rw [if_neg hexponent]
    refine iff_of_false ?_ fun h => hexponent h.1
    split
    · split <;> exact Bool.false_ne_true
    · exact Bool.false_ne_true

/-- A NaN is packed as one, and nothing else is. -/
theorem isNaN_pack (x : UnpackedFloat) : (Model.pack x).isNaN = x.isNaN := by
  rw [Bool.eq_iff_iff]
  refine (isNaN_unpack (UnpackedFloat.pack Format.binary32 x)).trans ?_
  have hother : ∀ (sign : Sign) (exponent : BitVec 8) (mantissa : BitVec 23),
      (exponent = -1#8 → mantissa = 0#23) → x.isNaN = false →
      ((unpackExponent (packComponents Format.binary32 sign exponent mantissa) = -1#8 ∧
        unpackMantissa (packComponents Format.binary32 sign exponent mantissa) ≠ 0#23) ↔
        x.isNaN = true) := by
    intro sign exponent mantissa hzero hx
    rw [unpackExponent_packComponents, unpackMantissa_packComponents, hx]
    exact iff_of_false (fun h => h.2 (hzero h.1)) Bool.false_ne_true
  fun_cases UnpackedFloat.pack Format.binary32 x with
  | case1 => exact iff_of_true (by decide) rfl
  | case2 s => exact hother s _ _ (fun _ => rfl) rfl
  | case3 s => exact hother s _ _ (fun _ => rfl) rfl
  | case4 s m e hm biased hlarge => exact hother s _ _ (fun _ => rfl) rfl
  | case5 s m e hm bits biased hlarge hnormal =>
    refine hother s _ _ (fun h => ?_) rfl
    -- the exponent is below the largest one
    have hnat : biased % 256 = 255 := congrArg BitVec.toNat h
    have hsmall : ¬256 ≤ biased + 1 := hlarge
    omega
  | case6 s m e hm bits biased hlarge hsubnormal =>
    exact hother s _ _ (fun h => absurd h (by decide)) rfl

/-! ## Operations -/

theorem isNaN_abs (a : Float32) : a.abs.isNaN = a.isNaN := by
  refine (isNaN_pack _).trans ?_
  unfold Float32.isNaN Model.isNaN
  cases a.toModel.unpack <;> rfl

/-- Rounding gives a number. -/
theorem isNaN_normalize (mantissa : Int) (exponent : Int) (zero : Sign) :
    (UnpackedFloat.normalize Format.binary32 mantissa exponent zero).isNaN = false := by
  have hround : ∀ sign m e, (UnpackedFloat.round Format.binary32 sign m e).isNaN = false := by
    intro sign m e
    unfold UnpackedFloat.round roundWithAccuracy
    dsimp only
    split <;> rfl
  unfold UnpackedFloat.normalize
  split
  · exact hround _ _ _
  · rfl
  · exact hround _ _ _

/-- A difference from a finite number is a NaN only for a NaN. -/
theorem isNaN_sub (a : Float32) {b : Float32} (hb : b.isFinite = true) :
    (a - b).isNaN = a.isNaN := by
  refine (isNaN_pack _).trans ?_
  change b.toModel.unpack.isFinite = true at hb
  change _ = a.toModel.unpack.isNaN
  generalize a.toModel.unpack = x
  generalize b.toModel.unpack = y at hb
  cases y with
  | notANumber => cases hb
  | infinity s => cases hb
  | zero s =>
    cases x with
    | zero s' =>
      simp only [UnpackedFloat.sub]
      split <;> rfl
    | _ => rfl
  | finite s m e hm =>
    cases x with
    | finite s' m' e' hm' => exact isNaN_normalize _ _ _
    | _ => rfl

/-! ## Order -/

theorem compare_swap (x y : UnpackedFloat) :
    y.compare x = (x.compare y).map Ordering.swap := by
  have hsame : ∀ (e e' : Int) (m m' : Nat), (compare e' e).then (compare m' m)
      = ((compare e e').then (compare m m')).swap := by
    intro e e' m m'
    rw [Ordering.swap_then, ← Std.OrientedOrd.eq_swap, ← Std.OrientedOrd.eq_swap]
  rcases x with ⟨_ | _⟩ | _ | _ | ⟨_ | _, m, e, _⟩ <;>
    rcases y with ⟨_ | _⟩ | _ | _ | ⟨_ | _, m', e', _⟩
  case finite.negative.finite.negative =>
    exact congrArg (fun o => some o.swap) (hsame e e' m m')
  case finite.positive.finite.positive => exact congrArg some (hsame e e' m m')
  all_goals rfl

theorem compare_eq_none (x y : UnpackedFloat) :
    x.compare y = none ↔ x.isNaN = true ∨ y.isNaN = true := by
  fun_cases UnpackedFloat.compare x y <;> simp_all [UnpackedFloat.isNaN]

theorem lt_iff (a b : Float32) : a < b ↔ a.toModel.unpack.lt b.toModel.unpack = true :=
  decide_eq_true_iff

theorem le_iff (a b : Float32) : a ≤ b ↔ a.toModel.unpack.le b.toModel.unpack = true :=
  decide_eq_true_iff

/-- Not less is at least, or one of the two is a NaN. -/
theorem not_lt_iff (a b : Float32) : ¬a < b ↔ a.isNaN = true ∨ b.isNaN = true ∨ b ≤ a := by
  rw [lt_iff, le_iff, ← or_assoc]
  change _ ↔ (a.toModel.unpack.isNaN = true ∨ b.toModel.unpack.isNaN = true) ∨ _
  rw [← compare_eq_none, UnpackedFloat.lt, UnpackedFloat.le,
    compare_swap a.toModel.unpack b.toModel.unpack]
  generalize a.toModel.unpack.compare b.toModel.unpack = order
  cases order with
  | none => simp
  | some o => cases o <;> simp
end Float32
