import Venues.Timestamp.Read

/-! # The text of stored timestamps

A stored timestamp is written as a date and, behind a character of any kind, a time of day with an
optional offset. The text is taken apart first, and then its parts are put together: a text of the
right shape may still name a day or a time of day that there is not.
-/

namespace Venues.Timestamp

/-! ## Faults -/

/-- Why a text is no timestamp: it has not the shape of one, or a part of it is out of range. -/
inductive IsoFault where
  | malformed
  | offset
  | year
  | month
  | day
  | hour
  | minute
  | second
  deriving DecidableEq

/-! ## Parts -/

/-- A time of day, or the distance from universal time. -/
structure Span where
  hours : Nat := 0
  minutes : Nat := 0
  seconds : Nat := 0
  micros : Nat := 0

namespace Span

def inSeconds (s : Span) : Nat := (s.hours * 60 + s.minutes) * 60 + s.seconds

def inMicros (s : Span) : Nat := s.inSeconds * 1000000 + s.micros

/-- The part of a time of day that is out of range, if there is one. -/
def fault? (s : Span) : Option IsoFault :=
  if 23 < s.hours then some .hour
  else if 59 < s.minutes then some .minute
  else if 59 < s.seconds then some .second
  else none

end Span

/-- The parts of the text of a timestamp. -/
structure IsoParts where
  year : Nat
  month : Nat
  day : Nat
  clock : Span := {}
  /-- The offset, if there is one, and whether it is negative. -/
  offset : Option (Bool × Span) := none

namespace IsoParts

/-- The part that is out of range, if there is one. -/
def fault? (p : IsoParts) : Option IsoFault :=
  if p.offset.any fun o => 86400 ≤ o.2.inSeconds then some .offset
  else if p.year = 0 then some .year
  else if p.month = 0 ∨ 12 < p.month then some .month
  else if !Calendar.isDate p.year p.month p.day then some .day
  else p.clock.fault?

/-- The timestamp with some parts. An offset of less than a second counts as none from universal time. -/
def timestamp (p : IsoParts) : Timestamp where
  wall := Calendar.dayNumber p.year p.month p.day * Timestamp.day + p.clock.inMicros
  offset := p.offset.map fun o =>
    if o.2.inSeconds = 0 then 0 else if o.1 then ⟨-(o.2.inMicros : Int)⟩ else ⟨o.2.inMicros⟩

end IsoParts

/-! ## Reading -/

/-- Reads a span of hours, minutes and seconds, of two digits each. Minutes, seconds and a fraction
may be missing, and so may the colons. -/
def readSpan? (cs : List Char) : Option Span := do
  let (h, cs) ← takeDigits? 2 cs
  let isSpaced := cs.head? == some ':'
  let next (cs : List Char) : Option (Nat × List Char) :=
    if cs.isEmpty then some (0, [])
    else (if isSpaced then takeChar? ':' cs else some cs).bind (takeDigits? 2)
  let (m, cs) ← next cs
  let (s, cs) ← next cs
  let (f, cs) ← takeFraction? cs
  if cs.isEmpty then some ⟨h, m, s, f⟩ else none

/-- Reads year, month and day, with dashes or without. -/
def takeDateParts? (cs : List Char) : Option (IsoParts × List Char) := do
  let (y, cs) ← takeDigits? 4 cs
  let isDashed := cs.head? == some '-'
  let next (cs : List Char) : Option (Nat × List Char) :=
    (if isDashed then takeChar? '-' cs else some cs).bind (takeDigits? 2)
  let (m, cs) ← next cs
  let (d, cs) ← next cs
  some (⟨y, m, d, {}, none⟩, cs)

/-- Takes the text of a timestamp apart. -/
def isoParts? (s : String) : Option IsoParts := do
  let (date, cs) ← takeDateParts? s.toList
  let isZone (c : Char) : Bool := c == '-' || c == '+' || c == 'Z'
  let clock := (cs.drop 1).takeWhile (!isZone ·)
  match (cs.drop 1).dropWhile (!isZone ·) with
  | [] => if cs.isEmpty then some date else (readSpan? clock).map ({ date with clock := · })
  | ['Z'] => do some { date with clock := ← readSpan? clock, offset := some (false, {}) }
  | sign :: zone =>
    if sign = 'Z' then none
    else do
      let clock ← readSpan? clock
      some { date with clock := clock, offset := some (sign == '-', ← readSpan? zone) }

/-- Reads the text of a timestamp. -/
def ofIso (s : String) : Except IsoFault Timestamp :=
  match isoParts? s with
  | none => .error .malformed
  | some parts =>
    match parts.fault? with
    | some fault => .error fault
    | none => .ok parts.timestamp

end Venues.Timestamp
