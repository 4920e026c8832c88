import Venues.Number.Power

/-! # Exact magnitudes

Whole numbers and floating-point numbers are compared by the exact number they stand for. Every
finite double is a whole multiple of `2 ^ -1074`, so a finite magnitude is an integer that counts
these units, and the order of numbers is the order of the integers.
-/

namespace Venues

/-- Whether a whole number has at most 64 bits. -/
def isShort (n : Int) : Bool := decide (-(2 ^ 63 : Int) ≤ n) && decide (n < 2 ^ 63)

/-! ## Magnitudes -/

/-- The exact size of a number; `undefined` is the size of a number that is not one. -/
inductive Magnitude where
  | undefined
  | lowest
  | units (count : Int)
  | highest
  deriving DecidableEq, Inhabited

namespace Magnitude

/-- The binary exponent of the unit in which finite magnitudes are counted. -/
def unitBits : Nat := 1074

def ofInt (n : Int) : Magnitude := .units (n * (2 : Int) ^ unitBits)

/-- The magnitude whose sign, biased exponent and fraction are the fields of a double. -/
def ofFields (negative : Bool) (exponent fraction : Nat) : Magnitude :=
  if exponent = 2047 then
    if fraction ≠ 0 then .undefined else if negative then .lowest else .highest
  else
    let count := if exponent = 0 then fraction else (2 ^ 52 + fraction) * 2 ^ (exponent - 1)
    .units (if negative then -(count : Int) else count)

def ofFloat (x : Float) : Magnitude :=
  let bits := x.toBits.toNat
  ofFields (bits / 2 ^ 63 % 2 = 1) (bits / 2 ^ 52 % 2048) (bits % 2 ^ 52)

/-! ## Comparison -/

/-- Strict comparison; nothing is below or above an undefined magnitude. -/
def lt : Magnitude → Magnitude → Bool
  | .undefined, _ | _, .undefined => false
  | .lowest, .lowest => false
  | .lowest, _ => true
  | _, .lowest => false
  | .highest, _ => false
  | .units _, .highest => true
  | .units a, .units b => decide (a < b)

/-- Equality of numbers; an undefined magnitude differs from every magnitude, itself included. -/
def same (a b : Magnitude) : Bool := decide (a ≠ .undefined) && decide (a = b)

/-- Whether a magnitude is that of a finite number. -/
def isFinite : Magnitude → Bool
  | .units _ => true
  | _ => false

/-- The whole number a magnitude stands for, cut toward zero; none unless it is finite. -/
def truncate? : Magnitude → Option Int
  | .units n => some (n.tdiv ((2 : Int) ^ unitBits))
  | _ => none

/-- Whether a magnitude is that of a whole number. -/
def isWhole : Magnitude → Bool
  | .units n => n.tmod ((2 : Int) ^ unitBits) == 0
  | _ => false

end Magnitude
end Venues
