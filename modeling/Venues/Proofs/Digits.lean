import Mathlib.Data.List.Lex
import Mathlib.Data.String.Basic
import Venues.Number.Padded
import Venues.Number.Power

/-! # The order of numerals

Numerals of the same width stand as their numbers do, whatever is written behind them.
-/

namespace Venues

/-- Lists of the same length compare before what is behind them does. -/
theorem append_lt_append_iff {α : Type} [LinearOrder α] {xs ys as bs : List α} (same : xs.length = ys.length) :
    xs ++ as < ys ++ bs ↔ xs < ys ∨ xs = ys ∧ as < bs := by
  induction xs generalizing ys with
  | nil =>
    cases List.length_eq_zero_iff.mp same.symm
    simp
  | cons x xs ih =>
    cases ys with
    | nil => cases same
    | cons y ys =>
      simp only [List.cons_append, List.cons_lt_cons_iff, ih (Nat.succ.inj same), List.cons.injEq]
      tauto

/-- Numbers compare as their quotients do, and then as their remainders. -/
theorem lt_iff_div_mod {m n : Nat} (k : Nat) : m < n ↔ m / k < n / k ∨ m / k = n / k ∧ m % k < n % k := by
  have parts (i : Nat) : k * (i / k) + i % k = i := Nat.div_add_mod i k
  rcases lt_trichotomy (m / k) (n / k) with below | level | above
  · exact iff_of_true (Nat.lt_of_div_lt_div below) (.inl below)
  · have same : k * (m / k) = k * (n / k) := congrArg (k * ·) level
    have := parts m
    have := parts n
    omega
  · have := Nat.lt_of_div_lt_div above
    omega

section Padded

variable {base width m n : Nat} {as bs : List Char} (positive : 0 < base) (few : base ≤ 16)
include positive few

/-- Different numbers have different padded digits, as far as these reach. -/
theorem paddedDigits_inj (hm : m < base ^ width) (hn : n < base ^ width)
    (same : paddedDigits base width m = paddedDigits base width n) : m = n := by
  have digit : ∀ a < 16, ∀ b < 16, Nat.digitChar a = Nat.digitChar b → a = b := by decide
  induction width generalizing m n with
  | zero => exact (Nat.lt_one_iff.mp hm).trans (Nat.lt_one_iff.mp hn).symm
  | succ width ih =>
    rw [Nat.pow_succ'] at hm hn
    obtain ⟨front, last⟩ := List.append_inj' same rfl
    have quotients : m / base = n / base := ih (Nat.div_lt_of_lt_mul hm) (Nat.div_lt_of_lt_mul hn) front
    have remainders : m % base = n % base := digit _ ((Nat.mod_lt m positive).trans_le few) _
      ((Nat.mod_lt n positive).trans_le few) (List.singleton_inj.mp last)
    rw [← Nat.div_add_mod m base, ← Nat.div_add_mod n base, quotients, remainders]

/-- Padded digits compare as their numbers do. -/
theorem paddedDigits_lt_iff (hm : m < base ^ width) (hn : n < base ^ width) :
    paddedDigits base width m < paddedDigits base width n ↔ m < n := by
  have digit : ∀ a < 16, ∀ b < 16, (Nat.digitChar a < Nat.digitChar b ↔ a < b) := by decide
  induction width generalizing m n with
  | zero => simp_all [paddedDigits]
  | succ width ih =>
    -- the last digit is the remainder, and the digits before it are those of the quotient
    rw [Nat.pow_succ'] at hm hn
    have front := Nat.div_lt_of_lt_mul hm
    have front' := Nat.div_lt_of_lt_mul hn
    have same : paddedDigits base width (m / base) = paddedDigits base width (n / base) ↔ m / base = n / base :=
      ⟨paddedDigits_inj positive few front front', fun same => same ▸ rfl⟩
    have last : [Nat.digitChar (m % base)] < [Nat.digitChar (n % base)] ↔ m % base < n % base := by
      simp [List.cons_lt_cons_iff, digit _ ((Nat.mod_lt m positive).trans_le few) _
        ((Nat.mod_lt n positive).trans_le few)]
    have first : paddedDigits base width (m / base) < paddedDigits base width (n / base) ↔ m / base < n / base :=
      ih front front'
    rw [paddedDigits, paddedDigits, append_lt_append_iff (by rw [length_paddedDigits, length_paddedDigits]),
      first, same, last, ← lt_iff_div_mod]

/-- Texts that begin with padded digits of one width compare as the numbers do, and then behind them. -/
theorem paddedDigits_append_lt_iff (hm : m < base ^ width) (hn : n < base ^ width) :
    paddedDigits base width m ++ as < paddedDigits base width n ++ bs ↔ m < n ∨ m = n ∧ as < bs := by
  rw [append_lt_append_iff (by rw [length_paddedDigits, length_paddedDigits]), paddedDigits_lt_iff positive few hm hn]
  exact or_congr_right (and_congr_left' ⟨paddedDigits_inj positive few hm hn, fun same => same ▸ rfl⟩)

end Padded
end Venues
