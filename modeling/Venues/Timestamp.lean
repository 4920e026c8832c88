import Venues.Calendar
import Venues.Number.Padded

/-! # Timestamps

A timestamp is a reading of a wall clock, in microseconds, with or without the clock's distance from
universal time. Two timestamps with a known distance are compared as instants, two without one as
readings; between the two kinds nothing is equal and nothing is earlier.
-/

namespace Venues

/-! ## Offsets -/

/-- The distance of a clock from universal time. -/
structure Offset where
  /-- Microseconds by which the clock is ahead of universal time. -/
  micros : Int
  deriving DecidableEq, Inhabited

namespace Offset

def ofSeconds (n : Int) : Offset := ⟨n * 1000000⟩

/-- Numerals count seconds. -/
instance {n : Nat} : OfNat Offset n := ⟨ofSeconds n⟩

@[simp] theorem micros_zero : (0 : Offset).micros = 0 := rfl

end Offset

/-! ## Timestamps -/

/-- A wall-clock reading, with the clock's offset from universal time where it is known. -/
structure Timestamp where
  /-- Microseconds on the wall clock since the first moment of the year 1. -/
  wall : Int
  offset : Option Offset
  deriving DecidableEq, Inhabited

namespace Timestamp

def second : Int := 1000000

def day : Int := 86400 * second

/-- The first reading that lies past the year 9999. -/
def endOfTime : Int := Calendar.totalDays * day

/-- Whether a reading lies in the years 1 to 9999. -/
def inRange (wall : Int) : Bool := 0 ≤ wall && wall < endOfTime

/-- The reading of the moment from which seconds are counted, the first of the year 1970. -/
def epoch : Int := Calendar.dayNumber 1970 1 1 * day

/-- The timestamp in universal time that lies the given microseconds after the start of 1970. -/
def ofEpoch (micros : Int) : Timestamp := ⟨epoch + micros, some 0⟩

/-- The reading that a clock showing universal time has at the same moment; a timestamp without an
offset is taken to be in universal time already. -/
def instant (t : Timestamp) : Int := t.wall - (t.offset.getD 0).micros

/-- The same moment on a clock that shows universal time; none outside the years 1 to 9999. -/
def toUtc? (t : Timestamp) : Option Timestamp :=
  if inRange t.instant then some ⟨t.instant, some 0⟩ else none

def naive (t : Timestamp) : Timestamp := ⟨t.wall, none⟩

/-! ## Comparison -/

/-- Whether two timestamps are comparable at all: both have an offset, or neither has. -/
def comparable (a b : Timestamp) : Bool := a.offset.isSome == b.offset.isSome

/-- Equality of moments, or of readings where no offset is known. -/
def same (a b : Timestamp) : Bool := a.comparable b && a.instant == b.instant

/-- Strict order; none between a timestamp with an offset and one without. -/
def lt? (a b : Timestamp) : Option Bool :=
  if a.comparable b then some (decide (a.instant < b.instant)) else none

/-! ## Writing -/

def dateText (dayNumber : Nat) : List Char :=
  let (y, m, d) := Calendar.dateOfDay dayNumber
  paddedDigits 10 4 y ++ '-' :: paddedDigits 10 2 m ++ '-' :: paddedDigits 10 2 d

def clockText (seconds : Nat) : List Char :=
  paddedDigits 10 2 (seconds / 3600) ++ ':' :: paddedDigits 10 2 (seconds / 60 % 60)
    ++ ':' :: paddedDigits 10 2 (seconds % 60)

/-- Six decimal places after a point, or nothing for a whole second. -/
def fractionText (micros : Nat) : List Char :=
  if micros = 0 then [] else '.' :: paddedDigits 10 6 micros

/-- The distance from universal time as hours and minutes, and seconds with their fraction where there are
some. -/
def offsetText (o : Offset) : List Char :=
  let micros := o.micros.natAbs
  let n := micros / 1000000
  (if o.micros < 0 then '-' else '+') :: paddedDigits 10 2 (n / 3600)
    ++ ':' :: paddedDigits 10 2 (n / 60 % 60)
    ++ (if micros % 60000000 = 0 then []
      else ':' :: paddedDigits 10 2 (n % 60) ++ fractionText (micros % 1000000))

/-- Date and time of day of a reading, with a separator between them. -/
def wallText (separator : Char) (wall : Int) : List Char :=
  let micros := wall.toNat
  dateText (micros / 86400000000) ++ separator :: clockText (micros / 1000000 % 86400)
    ++ fractionText (micros % 1000000)

/-- The standard text: date, `T`, time of day, and the offset where it is known. -/
def isoText (t : Timestamp) : String :=
  String.ofList (wallText 'T' t.wall ++ (t.offset.map offsetText).getD [])

/-- The text with a blank in place of the `T`. -/
def spacedText (t : Timestamp) : String :=
  String.ofList (wallText ' ' t.wall ++ (t.offset.map offsetText).getD [])

/-- The text for listings: universal time is written `Z`. The offset counts in whole seconds, rounded down, and these
are left out. -/
def zuluText (t : Timestamp) : String :=
  String.ofList (wallText 'T' t.wall ++
    match t.offset.map fun o => o.micros.fdiv second with
    | none => []
    | some 0 => ['Z']
    | some n => (if n < 0 then '-' else '+') :: paddedDigits 10 2 (n.natAbs / 3600)
        ++ ':' :: paddedDigits 10 2 (n.natAbs / 60 % 60))

/-- The numbers with commas between them, the zeros at their end left out but for the first five. -/
def partTexts (parts : List Nat) : List String :=
  let kept := ((parts.drop 5).reverse.dropWhile (· == 0)).reverse
  (parts.take 5 ++ kept).map toString

/-- The text of a distance from universal time by its parts: whole days, which may be negative, seconds
and microseconds, those that are zero being left out. -/
def offsetParts (o : Offset) : String :=
  if o = 0 then "datetime.timezone.utc"
  else
    let rest := (o.micros.emod day).toNat
    let part (name : String) (n : Nat) : List String := if n = 0 then [] else [name ++ toString n]
    let parts := (if o.micros < 0 then ["days=-1"] else []) ++ part "seconds=" (rest / 1000000)
      ++ part "microseconds=" (rest % 1000000)
    "datetime.timezone(datetime.timedelta(" ++ ", ".intercalate parts ++ "))"

/-- The text that shows what a timestamp is made of: its parts from the year on, seconds and their
fraction only where they count, and the offset where it is known. -/
def partsText (t : Timestamp) : String :=
  let micros := t.wall.toNat
  let (year, month, day) := Calendar.dateOfDay (micros / 86400000000)
  let seconds := micros / 1000000 % 86400
  let parts := partTexts [year, month, day, seconds / 3600, seconds / 60 % 60, seconds % 60,
    micros % 1000000]
  let offset := (t.offset.map fun n => "tzinfo=" ++ offsetParts n).toList
  "datetime.datetime(" ++ ", ".intercalate (parts ++ offset) ++ ")"

end Timestamp
end Venues
