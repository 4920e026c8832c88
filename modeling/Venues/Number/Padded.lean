/-! # Numerals of a fixed width

Dates and identifiers are written with a fixed number of digits, so that their texts can be compared
character by character.
-/

namespace Venues

/-- The last `width` digits of a number in a base of at most sixteen, leading zeros included. -/
def paddedDigits (base : Nat) : Nat → Nat → List Char
  | 0, _ => []
  | width + 1, n => paddedDigits base width (n / base) ++ [Nat.digitChar (n % base)]

@[simp] theorem length_paddedDigits (base width n : Nat) :
    (paddedDigits base width n).length = width := by
  induction width generalizing n with
  | zero => rfl
  | succ width ih => simp [paddedDigits, ih]

end Venues
