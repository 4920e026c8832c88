import Venues.Number.Power
import Venues.Number.Rounding

/-! # Numbers to a given precision

An exact quotient is written with a given number of decimal places, or rounded to a given number of
significant digits. How a quotient halfway between two neighbours is rounded is a parameter: a
function such as `roundDiv`.
-/

namespace Venues

/-! ## Decimal places -/

/-- The digits in front of the point and those behind it, of a number of units of the last place. -/
def splitPlaces (places units : Nat) : List Char × List Char :=
  let ds := Nat.toDigits 10 units
  let ds := List.replicate (places + 1 - ds.length) '0' ++ ds
  (ds.take (ds.length - places), ds.drop (ds.length - places))

/-- A quotient rounded to a number of decimal places: the digits in front of the point and those
behind it. -/
def decimalPlaces (round : Nat → Nat → Nat) (places num den : Nat) : List Char × List Char :=
  splitPlaces places (round (num * 10 ^ places) den)

/-! ## Significant digits -/

/-- The number of decimal digits of a positive quotient in front of the point; negative for leading
zeros behind it. Quotients below `10 ^ -340` are not told apart. -/
def pointPosition (num den : Nat) : Int := ((Nat.toDigits 10 (num * 10 ^ 340 / den)).length : Int) - 340

/-- A quotient rounded to `n` significant digits: the digits, and the position of the point counted
from the first of them. Zero has its point behind the first digit. -/
def significantDigits (round : Nat → Nat → Nat) (n num den : Nat) : List Char × Int :=
  if num = 0 then (List.replicate n '0', 1)
  else
    let point := pointPosition num den
    let k := point - n
    let ds := Nat.toDigits 10 (round (num * 10 ^ (-k).toNat) (den * 10 ^ k.toNat))
    -- Rounding up may have carried into a new digit, and then all behind it are zeros.
    if n < ds.length then (ds.take n, point + 1) else (ds, point)

end Venues
