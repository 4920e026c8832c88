import Venues.Number.Read

/-! # Plain numerals

A plain numeral has ASCII digits only, and may have white space at its ends. Zeros in front of a
whole numeral are dropped before its sign is looked at, and places behind its point may hold nothing
but zeros. Single underscores are allowed inside a numeral.
-/

namespace Venues

open Text

/-- Removes single underscores inside a numeral; one at an end, or two in a row, are refused. -/
def dropUnderscores? (cs : List Char) : Option (List Char) :=
  let doubled := (cs.zip (cs.drop 1)).any fun p => p.1 == '_' && p.2 == '_'
  if cs.head? == some '_' || cs.getLast? == some '_' || doubled then none
  else some (cs.filter (· != '_'))

/-! ## Floating-point numbers -/

/-- Reads a plain numeral as a floating-point number. One with underscores has no white space. -/
def readPlainFloat? (s : String) : Option Float :=
  readFloat? (dropEnds isSpace s.toList) <|> (dropUnderscores? s.toList).bind readFloat?

/-! ## Whole numbers -/

/-- What is left behind zeros and underscores, `last` being the last of these: a digit that is no
zero or a minus sign begins the number, a point keeps the character before it, and nothing else may
follow. -/
def behindZeros? (last : Char) : List Char → Option (List Char)
  | [] => some [last]
  | c :: cs =>
    if c = '0' ∨ c = '_' then behindZeros? c cs
    else if (asciiDigit? c).isSome ∨ c = '-' then some (c :: cs)
    else if c = '.' then some (last :: c :: cs)
    else none

/-- A whole numeral without a plus sign and without zeros in front. A plus sign excludes a minus
sign right behind it. -/
def dropLeadingZeros? (cs : List Char) : Option (List Char) :=
  let unsigned :=
    match cs with
    | '+' :: '-' :: _ => []
    | '+' :: rest => rest
    | _ => cs
  match unsigned with
  | '0' :: rest => behindZeros? '0' rest
  | c :: rest => if (asciiDigit? c).isSome ∨ c = '-' then some (c :: rest) else none
  | [] => none

/-- Takes off a point with at least one zero behind it and nothing else. -/
def dropZeroPlaces (cs : List Char) : List Char :=
  match cs.span (· != '.') with
  | (whole, _ :: places) => if !places.isEmpty && places.all (· == '0') then whole else cs
  | _ => cs

/-- Reads ASCII digits with an optional minus sign. -/
def readDigits (cs : List Char) : Except NumeralFault Int :=
  let (negative, digits) :=
    match cs with
    | '-' :: rest => (true, rest)
    | _ => (false, cs)
  match spanDigits digits with
  | ([], _) | (_, _ :: _) => .error .malformed
  | (ds, []) => .ok (signed negative ds)

/-- Reads a plain numeral of at most `maxDigits` characters as a whole number. -/
def readPlainInt (s : String) : Except NumeralFault Int :=
  let cs := dropEnds isSpace s.toList
  if maxDigits < cs.length then .error (.tooLong cs.length)
  else
    match (dropLeadingZeros? cs).bind fun cs => dropUnderscores? (dropZeroPlaces cs) with
    | none => .error .malformed
    | some cs => readDigits cs

end Venues
