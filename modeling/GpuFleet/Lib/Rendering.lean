import Mathlib.Data.List.Basic

/-!
# Renderings that can be read back

A text that is made of fields with a separator between them determines the
fields if the separator is in none of them.  A numeral determines its number,
also when it is padded with zeros, if the symbols of the digits are different
(`evaluate` reads them).
-/

namespace Rendering

/-! ## Separators -/

section Separators

variable {α : Type} [DecidableEq α] {sep : α}

/-- The text in front of the first separator, and the text behind it. -/
theorem append_sep_inj {xs xs' ys ys' : List α} (h : sep ∉ xs) (h' : sep ∉ xs') :
    xs ++ sep :: ys = xs' ++ sep :: ys' ↔ xs = xs' ∧ ys = ys' := by
  constructor
  · intro heq
    have hsplit := congrArg (List.splitOn sep) heq
    rw [List.splitOn_append_cons_self_of_not_mem h,
      List.splitOn_append_cons_self_of_not_mem h'] at hsplit
    obtain ⟨hfront, -⟩ := List.cons.inj hsplit
    subst hfront
    exact ⟨rfl, (List.cons.inj (List.append_cancel_left heq)).2⟩
  · rintro ⟨rfl, rfl⟩
    rfl

/-- Fields that do not contain the separator. -/
theorem intercalate_inj {ls ls' : List (List α)} (h : ∀ l ∈ ls, sep ∉ l) (h' : ∀ l ∈ ls', sep ∉ l)
    (hne : ls ≠ []) (hne' : ls' ≠ []) :
    [sep].intercalate ls = [sep].intercalate ls' ↔ ls = ls' := by
  constructor
  · intro heq
    have hsplit := congrArg (List.splitOn sep) heq
    rwa [List.splitOn_intercalate sep h hne, List.splitOn_intercalate sep h' hne'] at hsplit
  · intro heq
    rw [heq]

end Separators

/-! ## Numerals -/

section Numerals

variable {α : Type} {sym : Char → α} {val : α → Nat} {b : Nat}

/-- The number that the digits stand for. -/
def evaluate (val : α → Nat) (b : Nat) (digits : List α) : Nat :=
  digits.foldl (fun n d => b * n + val d) 0

theorem evaluate_concat (digits : List α) (d : α) :
    evaluate val b (digits ++ [d]) = b * evaluate val b digits + val d := by
  rw [evaluate, List.foldl_append]
  rfl

/-- A leading zero does not count. -/
theorem evaluate_padded {zero : α} (hzero : val zero = 0) (k : Nat) (digits : List α) :
    evaluate val b (List.replicate k zero ++ digits) = evaluate val b digits := by
  induction k with
  | zero => rfl
  | succ k ih =>
    rw [List.replicate_succ, List.cons_append, ← ih, evaluate, List.foldl_cons, hzero]
    rfl

/-- The symbols of a numeral are those of digits. -/
theorem exists_digit_of_mem_toDigits (hb : 1 < b) {n : Nat} {c : Char}
    (h : c ∈ Nat.toDigits b n) : ∃ d < b, c = d.digitChar := by
  induction n using Nat.base_induction b hb with
  | single m hm =>
    rw [Nat.toDigits_of_lt_base hm, List.mem_singleton] at h
    exact ⟨m, hm, h⟩
  | digit m k hk hm ih =>
    rw [← Nat.toDigits_append_toDigits hb hm hk, Nat.toDigits_of_lt_base hk, List.mem_append,
      List.mem_singleton] at h
    rcases h with h | h
    · exact ih h
    · exact ⟨k, hk, h⟩

theorem evaluate_toDigits (hb : 1 < b) (hval : ∀ d < b, val (sym d.digitChar) = d) (n : Nat) :
    evaluate val b ((Nat.toDigits b n).map sym) = n := by
  induction n using Nat.base_induction b hb with
  | single m hm =>
    rw [Nat.toDigits_of_lt_base hm]
    show b * 0 + val (sym m.digitChar) = m
    rw [hval m hm, Nat.mul_zero, Nat.zero_add]
  | digit m k hk hm ih =>
    rw [← Nat.toDigits_append_toDigits hb hm hk, Nat.toDigits_of_lt_base hk, List.map_append,
      List.map_singleton, evaluate_concat, ih, hval k hk]

/-- Numerals that are the same, however far they are padded, are of one number. -/
theorem padded_inj (hb : 1 < b) (hval : ∀ d < b, val (sym d.digitChar) = d) {k k' n n' : Nat}
    (h : List.replicate k (sym '0') ++ (Nat.toDigits b n).map sym
      = List.replicate k' (sym '0') ++ (Nat.toDigits b n').map sym) : n = n' := by
  have hzero : val (sym '0') = 0 := hval 0 (Nat.zero_lt_of_lt hb)
  have heval := congrArg (evaluate val b) h
  rwa [evaluate_padded hzero, evaluate_padded hzero, evaluate_toDigits hb hval,
    evaluate_toDigits hb hval] at heval

end Numerals

end Rendering
