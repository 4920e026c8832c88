import Venues.Number.Magnitude
import Venues.Number.Precision

/-! # Decimal text of floating-point numbers

A floating-point number is written with the fewest decimal digits that read back as the same number
and, among these, with the digits nearest to it; a tie goes to the even digit. The digits are found
in exact arithmetic: for one, two, and so on up to seventeen digits, the two neighbours of the number
on the grid of decimals with that many digits are tested against the interval of numbers that read
back. `fixedText` writes a given number of decimal places instead.
-/

namespace Venues

/-! ## The interval that reads back -/

/-- An exact quotient `num / den` with the interval `low / den` to `high / den` around it, whose
ends belong to it when `closed` holds. -/
structure Enclosure where
  num : Nat
  low : Nat
  high : Nat
  den : Nat
  closed : Bool

namespace Enclosure

/-- The reals that round to the positive double with the given biased exponent and fraction. -/
def ofFields (exponent fraction : Nat) : Enclosure :=
  let m := if exponent = 0 then fraction else 2 ^ 52 + fraction
  let e := max exponent 1
  let gap := if fraction = 0 && 1 < exponent then 1 else 2
  -- The number is `4 * m * 2 ^ (e - 1077)`, counted in quarters of its last binary digit.
  let scale := 2 ^ (e - 1077)
  let den := 2 ^ (1077 - e)
  { num := 4 * m * scale, low := (4 * m - gap) * scale, high := (4 * m + 2) * scale, den := den,
    closed := m % 2 == 0 }

/-- Whether the decimal `c * 10 ^ k` lies in the interval. -/
def holds (i : Enclosure) (c : Nat) (k : Int) : Bool :=
  let value := c * 10 ^ k.toNat * i.den
  let unit := 10 ^ (-k).toNat
  if i.closed then i.low * unit ≤ value && value ≤ i.high * unit
  else i.low * unit < value && value < i.high * unit

/-- How far the decimal `c * 10 ^ k` lies from the number, on a scale fixed by `k`. -/
def distance (i : Enclosure) (c : Nat) (k : Int) : Nat :=
  let value := c * 10 ^ k.toNat * i.den
  let number := i.num * 10 ^ (-k).toNat
  (value - number) + (number - value)

/-- Which of two neighbours on a grid of decimals is nearer to the number; of two that are equally
near it is the even one. -/
def nearest (i : Enclosure) (c : Nat) (k : Int) : Nat :=
  let below := i.distance c k
  let above := i.distance (c + 1) k
  if above < below || (above == below && c % 2 == 1) then c + 1 else c

/-- The decimal with `n` digits that lies in the interval and nearest to the number, if any does. -/
def withDigits? (i : Enclosure) (n : Nat) : Option (Nat × Int) :=
  let k := pointPosition i.num i.den - n
  let c := i.num * 10 ^ (-k).toNat / (i.den * 10 ^ k.toNat)
  match i.holds c k, i.holds (c + 1) k with
  | true, true => some (i.nearest c k, k)
  | true, false => some (c, k)
  | false, true => some (c + 1, k)
  | false, false => none

/-- The shortest decimal in the interval, as digits and a power of ten. -/
def shortest (i : Enclosure) : Nat × Int :=
  ((List.range 17).findSome? fun n => i.withDigits? (n + 1)).getD (0, 0)

end Enclosure

/-! ## Layout -/

/-- Takes zeros off the end of a list of digits. -/
def dropTrailingZeros (ds : List Char) : List Char := (ds.reverse.dropWhile (· == '0')).reverse

/-- The text of an exponent: a sign and at least two digits. -/
def exponentText (e : Int) : String :=
  let ds := Nat.toDigits 10 e.natAbs
  (if e < 0 then "-" else "+") ++ String.ofList (if ds.length < 2 then '0' :: ds else ds)

/-- Where the positional form of a number ends, and how the form with an exponent looks. -/
structure DigitLayout where
  /-- The most digits in front of the point that the positional form has. -/
  most : Int
  /-- Whether the digits in front of an exponent always have a point. -/
  pointed : Bool

/-- The layout of numbers in messages: positional below `10 ^ 16`, and no point without need. -/
def messageLayout : DigitLayout := ⟨16, false⟩

/-- Lays out decimal digits with the point after the first `point` of them: positional from `0.0001`
on as far as the layout allows, with an exponent outside. -/
def DigitLayout.write (layout : DigitLayout) (ds : List Char) (point : Int) : String :=
  if -4 < point && point ≤ layout.most then
    if point ≤ 0 then "0." ++ String.ofList (List.replicate (-point).toNat '0' ++ ds)
    else
      let whole := ds.take point.toNat
      let behind := ds.drop point.toNat
      String.ofList (whole ++ List.replicate (point.toNat - whole.length) '0') ++ "."
        ++ (if behind.isEmpty then "0" else String.ofList behind)
  else
    let behind := ds.drop 1
    let behind := if behind.isEmpty && layout.pointed then ['0'] else behind
    String.ofList (ds.take 1) ++ (if behind.isEmpty then "" else "." ++ String.ofList behind)
      ++ "e" ++ exponentText (point - 1)

/-- The text of the positive double with the given biased exponent and fraction. -/
def positiveText (exponent fraction : Nat) : String :=
  let (c, k) := (Enclosure.ofFields exponent fraction).shortest
  let ds := Nat.toDigits 10 c
  messageLayout.write (dropTrailingZeros ds) (ds.length + k)

/-- The shortest text of a floating-point number. -/
def floatText (x : Float) : String :=
  let bits := x.toBits.toNat
  let exponent := bits / 2 ^ 52 % 2048
  let fraction := bits % 2 ^ 52
  let sign := if bits / 2 ^ 63 % 2 = 1 then "-" else ""
  if exponent = 2047 then if fraction ≠ 0 then "nan" else sign ++ "inf"
  else if exponent = 0 && fraction = 0 then sign ++ "0.0"
  else sign ++ positiveText exponent fraction

/-! ## Fixed places -/

/-- A floating-point number rounded to three decimal places. -/
def fixedText (x : Float) : String :=
  let negative := x.toBits.toNat / 2 ^ 63 % 2 = 1
  match Magnitude.ofFloat x with
  | .undefined => "nan"
  | .lowest => "-inf"
  | .highest => "inf"
  | .units n =>
    let (whole, places) := decimalPlaces roundDiv 3 n.natAbs (2 ^ Magnitude.unitBits)
    (if negative then "-" else "") ++ String.ofList (whole ++ '.' :: places)

end Venues
