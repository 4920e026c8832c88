import Venues.Number.Magnitude
import Venues.Number.Read
import Venues.Timestamp

/-! # Reading timestamps

A timestamp is read from a date with an optional time of day and offset, or from a number of seconds
since 1970. Numbers beyond the year 2603 are taken to count milliseconds.
-/

namespace Venues.Timestamp

open Text

/-! ## Numbers -/

/-- The largest number that counts seconds; larger ones count milliseconds. -/
def watershed : Int := 20000000000

/-- The earliest second, counted from 1970, that a number can name: the first of the year 0. -/
def firstSecond : Int := -62167219200

/-- The latest second, counted from 1970, that a number can name: the last of the year 9999. -/
def lastSecond : Int := 253402300799

/-- The timestamp that lies the given microseconds after the start of 1970, unless it is too far
away. -/
def ofMicros? (micros : Int) : Option Timestamp :=
  let s := micros.fdiv second
  if firstSecond ≤ s ∧ s ≤ lastSecond then some (ofEpoch micros) else none

/-- The timestamp named by a whole number of seconds, or of milliseconds past the watershed. -/
def ofCount? (count : Int) : Option Timestamp :=
  ofMicros? (if count.natAbs ≤ watershed.natAbs then count * second else count * 1000)

/-- The timestamp named by a floating-point number of seconds, or of milliseconds past the
watershed. Its part of a second is rounded to microseconds, a half going up. -/
def ofFloat? (x : Float) : Option Timestamp :=
  if (Magnitude.ofFloat x).isFinite then
    let seconds := if (Magnitude.ofInt watershed).lt (Magnitude.ofFloat x.abs) then x / 1000 else x
    let part := (seconds - seconds.floor) * 1000000
    ofMicros? (seconds.floor.toInt64.toInt * second + part.round.toInt64.toInt)
  else none

/-! ## Written forms -/

def takeDigits? (count : Nat) (cs : List Char) : Option (Nat × List Char) := do
  let ds ← (cs.take count).mapM asciiDigit?
  if ds.length = count then some (ofDigits ds, cs.drop count) else none

def takeChar? (c : Char) : List Char → Option (List Char)
  | d :: cs => if c = d then some cs else none
  | [] => none

/-- Reads year, month and day with dashes, as the number of the day. -/
def takeDate? (cs : List Char) : Option (Int × List Char) := do
  let (y, cs) ← takeDigits? 4 cs
  let (m, cs) ← takeDigits? 2 (← takeChar? '-' cs)
  let (d, cs) ← takeDigits? 2 (← takeChar? '-' cs)
  if Calendar.isDate y m d then some (Calendar.dayNumber y m d, cs) else none

/-- Reads an optional fraction of a second; places past the sixth are dropped. -/
def takeFraction? : List Char → Option (Nat × List Char)
  | [] => some (0, [])
  | c :: cs =>
    if c = '.' ∨ c = ',' then
      match spanDigits cs with
      | ([], _) => none
      | (ds, rest) => some (ofDigits ((ds ++ List.replicate 6 0).take 6), rest)
    else some (0, c :: cs)

/-- Reads a time of day, seconds and their fraction being optional, as microseconds. -/
def takeClock? (cs : List Char) : Option (Nat × List Char) := do
  let (h, cs) ← takeDigits? 2 cs
  let (m, cs) ← takeDigits? 2 (← takeChar? ':' cs)
  if h > 23 ∨ m > 59 then none
  else
    match cs with
    | ':' :: rest =>
      let (s, rest) ← takeDigits? 2 rest
      if s > 59 then none
      else
        let (f, rest) ← takeFraction? rest
        some (((h * 60 + m) * 60 + s) * 1000000 + f, rest)
    | _ => some ((h * 60 + m) * 60000000, cs)

/-- Reads the rest of a timestamp as its offset, which may be missing. -/
def readOffset? : List Char → Option (Option Offset)
  | [] => some none
  | ['Z'] | ['z'] => some (some 0)
  | sign :: cs => do
    let negative ←
      if sign = '+' then some false else if sign = '-' ∨ sign = '−' then some true else none
    let (h, cs) ← takeDigits? 2 cs
    let (m, cs) ← takeDigits? 2 (match cs with | ':' :: rest => rest | _ => cs)
    if h > 23 ∨ m > 59 ∨ !cs.isEmpty then none
    else
      let n : Int := (h * 60 + m) * 60
      some (some (.ofSeconds (if negative then -n else n)))

/-- Reads a date, or a date and a time of day with an optional offset. -/
def ofWritten? (cs : List Char) : Option Timestamp := do
  let (dayNumber, cs) ← takeDate? cs
  match cs with
  | [] => some ⟨dayNumber * day, none⟩
  | c :: cs =>
    if c = 'T' ∨ c = 't' ∨ c = ' ' ∨ c = '_' then
      let (micros, cs) ← takeClock? cs
      let offset ← readOffset? cs
      some ⟨dayNumber * day + micros, offset⟩
    else none

/-- Reads a number of seconds: ASCII digits, or a decimal whose first character behind the digits in
front is its point. -/
def ofNumeral? (cs : List Char) : Option Timestamp :=
  let (negative, unsigned) := splitSign cs
  match spanDigits unsigned with
  | ([], []) => none
  | (whole, []) => ofCount? (signed negative whole)
  | (_, '.' :: _) => (readDecimal? cs).bind fun d => ofFloat? d.toFloat
  | _ => none

/-- Reads a timestamp in any of its forms. The year 0 can be written, but no moment lies in it. -/
def ofText? (s : String) : Option Timestamp := ofWritten? s.toList <|> ofNumeral? s.toList

end Venues.Timestamp
