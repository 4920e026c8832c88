import Venues.Number.Magnitude
import Venues.Text.Blank
import Venues.Text.Digit

/-! # Reading numbers

A decimal is read as digits and a power of ten, and rounded once. A *free* numeral may use the
decimal digits of any script and single underscores between two digits; it may carry a sign, and
white space at its ends.
-/

namespace Venues

open Text

/-! ## Decimals -/

/-- The number `digits * 10 ^ exponent` with a sign. -/
structure Decimal where
  negative : Bool
  digits : Nat
  exponent : Int

namespace Decimal

/-- The double nearest to a decimal. Exponents far outside the range of doubles are decided first. -/
def toFloat (d : Decimal) : Float :=
  let size := d.exponent + (Nat.toDigits 10 d.digits).length
  let magnitude : Float :=
    if d.digits = 0 ∨ size < -400 then 0
    else if 400 < size then 1 / 0
    else Float.ofScientific d.digits (d.exponent < 0) d.exponent.natAbs
  if d.negative then -magnitude else magnitude

end Decimal

/-- The floating-point number nearest to a whole number, unless that is too large. -/
def realOfInt? (n : Int) : Option Float :=
  let x := Decimal.toFloat ⟨n < 0, n.natAbs, 0⟩
  if (Magnitude.ofFloat x).isFinite then some x else none

/-! ## Parts of a numeral -/

/-- Splits a sign off a numeral; the flag is set for a minus. -/
def splitSign : List Char → Bool × List Char
  | '-' :: cs => (true, cs)
  | '+' :: cs => (false, cs)
  | cs => (false, cs)

/-- Splits off the ASCII digits in front, as their values. -/
def spanDigits : List Char → List Nat × List Char
  | [] => ([], [])
  | c :: cs =>
    match asciiDigit? c with
    | some d => let (ds, rest) := spanDigits cs; (d :: ds, rest)
    | none => ([], c :: cs)

/-- Reads the exponent part of a decimal, which may be missing. -/
def readExponent? : List Char → Option Int
  | [] => some 0
  | c :: cs =>
    if c = 'e' ∨ c = 'E' then
      let (negative, rest) := splitSign cs
      match spanDigits rest with
      | ([], _) | (_, _ :: _) => none
      | (ds, []) => some (if negative then -(ofDigits ds : Int) else ofDigits ds)
    else none

/-- Reads a decimal: digits with at most one point, at least one digit, and an optional exponent. -/
def readDecimal? (cs : List Char) : Option Decimal :=
  let (negative, cs) := splitSign cs
  let (whole, cs) := spanDigits cs
  let (places, rest) :=
    match cs with
    | '.' :: tail => spanDigits tail
    | _ => ([], cs)
  if whole.isEmpty && places.isEmpty then none
  else (readExponent? rest).map fun e =>
    { negative := negative, digits := ofDigits (whole ++ places), exponent := e - places.length }

/-- The words for numbers that have no numeral. -/
def readWord? (cs : List Char) : Option Float :=
  let (negative, word) := splitSign cs
  match String.ofList (word.map Char.toLower) with
  | "inf" | "infinity" => some (if negative then -1 / 0 else 1 / 0)
  | "nan" => some (0 / 0)
  | _ => none

def readFloat? (cs : List Char) : Option Float :=
  (readDecimal? cs).map Decimal.toFloat <|> readWord? cs

/-! ## Free numerals -/

/-- Writes the decimal digits of every script as ASCII digits. -/
def plainDigit (c : Char) : Char :=
  match digitValue? c with
  | some d => Char.ofNat (48 + d)
  | none => c

/-- Removes underscores that stand between two ASCII digits; fails at any other underscore. -/
def joinDigits? : List Char → Option (List Char)
  | [] => some []
  | '_' :: _ => none
  | c :: '_' :: d :: cs =>
    if (asciiDigit? c).isSome && (asciiDigit? d).isSome then (joinDigits? (d :: cs)).map (c :: ·)
    else none
  | c :: cs => (joinDigits? cs).map (c :: ·)

def plainNumeral? (s : String) : Option (List Char) :=
  joinDigits? ((dropEnds isSpace s.toList).map plainDigit)

def readFreeFloat? (s : String) : Option Float := (plainNumeral? s).bind readFloat?

/-- The most digits that a whole numeral may have. -/
def maxDigits : Nat := 4300

/-- Why a whole numeral was refused. -/
inductive NumeralFault where
  | malformed
  | tooLong (digits : Nat)
  deriving DecidableEq

/-- Whether a character belongs to the digits of a numeral in plain hand. -/
def isNumeralChar (c : Char) : Bool := (asciiDigit? c).isSome || c == '_'

/-- The whole number of a sign and a list of digits. -/
def signed (negative : Bool) (ds : List Nat) : Int :=
  if negative then -(ofDigits ds : Int) else ofDigits ds

/-- Reads a free numeral of at most `maxDigits` digits as a whole number. The length is judged before
what stands behind the digits. -/
def readFreeInt (s : String) : Except NumeralFault Int :=
  let (negative, cs) := splitSign ((dropEnds isSpace s.toList).map plainDigit)
  match joinDigits? (cs.takeWhile isNumeralChar) with
  | none => .error .malformed
  | some digits =>
    if maxDigits < digits.length then .error (.tooLong digits.length)
    else if digits.isEmpty || !(cs.dropWhile isNumeralChar).isEmpty then .error .malformed
    else .ok (signed negative (spanDigits digits).1)

end Venues
