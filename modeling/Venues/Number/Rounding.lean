/-! # Rounding a quotient

`roundDiv a b` is the whole number nearest to `a / b`; a quotient halfway between two whole numbers
goes to the even one. With `roundUpDiv` it goes to the larger one.
-/

namespace Venues

/-- The whole number nearest to a quotient, a half going to the even neighbour. -/
def roundDiv (num den : Nat) : Nat :=
  let low := num / den
  let twice := 2 * (num % den)
  if twice < den then low
  else if den < twice then low + 1
  else if low % 2 = 0 then low else low + 1

/-- The whole number nearest to a quotient, a half going up. -/
def roundUpDiv (num den : Nat) : Nat := (2 * num + den) / (2 * den)

end Venues
