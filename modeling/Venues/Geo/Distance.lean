import Venues.Fault
import Venues.Number.Read
import Venues.Text.LowerCase

/-! # Distances

A distance is written as a numeral, an optional unit, and blanks anywhere around the two. A numeral
without a unit counts meters.
-/

namespace Venues

open Text

/-! ## Units -/

def lengthUnits : List (String × Float) := [
  ("mm", 0.001), ("cm", 0.01), ("m", 1.0), ("meters", 1.0), ("km", 1000.0), ("kilometers", 1000.0),
  ("mi", 1609.344), ("miles", 1609.344), ("yd", 0.9144), ("yards", 0.9144), ("ft", 0.3048),
  ("feet", 0.3048), ("in", 0.0254), ("nmi", 1852.0), ("nm", 1852.0)]

/-! ## Written distances -/

/-- A written distance: the digits before and after the point, and the length of its unit. -/
structure Distance where
  whole : List Nat
  places : List Nat
  factor : Float

namespace Distance

def meters (d : Distance) : Float :=
  Decimal.toFloat ⟨false, ofDigits (d.whole ++ d.places), -(d.places.length : Int)⟩ * d.factor

/-- Splits off the decimal digits in front, as their values. -/
def spanDecimal : List Char → List Nat × List Char
  | [] => ([], [])
  | c :: cs =>
    match digitValue? c with
    | some d => let (ds, rest) := spanDecimal cs; (d :: ds, rest)
    | none => ([], c :: cs)

/-- Splits off a point with digits behind it. -/
def spanPlaces : List Char → List Nat × List Char
  | '.' :: cs =>
    match spanDecimal cs with
    | ([], _) => ([], '.' :: cs)
    | (ds, rest) => (ds, rest)
  | cs => ([], cs)

/-- Whether a character is one of the letters of which unit names are made. -/
def isUnitLetter (c : Char) : Bool := 'a' ≤ c && c ≤ 'z'

/-- Splits a lower-case text into the digits of its numeral and the name of its unit. -/
def split? (cs : List Char) : Option (List Nat × List Nat × List Char) :=
  let (whole, rest) := spanDecimal (cs.dropWhile isBlank)
  let (places, rest) := spanPlaces rest
  let rest := rest.dropWhile isBlank
  let unit := rest.takeWhile isUnitLetter
  let rest := (rest.dropWhile isUnitLetter).dropWhile isBlank
  if whole.isEmpty || !rest.isEmpty then none else some (whole, places, unit)

/-- Reads a written distance. -/
def parse (s : String) : Except Misuse Distance :=
  match split? (lower s.toList) with
  | none => .error (.malformedDistance s)
  | some (whole, places, unit) =>
    let name := String.ofList unit
    match lengthUnits.lookup (if name = "" then "m" else name) with
    | none => .error (.unknownUnit name s)
    | some factor => .ok ⟨whole, places, factor⟩

def parseMeters (s : String) : Except Misuse Float := (parse s).map meters

/-- The meters of a value that should be a written distance. -/
def metersOf : Value → Outcome Float
  | .text s => (parseMeters s).mapError .misuse
  | _ => .error .missingAttribute

end Distance
end Venues
