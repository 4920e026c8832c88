import Venues.Number.Shortest
import Venues.Value

/-! # Cells

A cell is what a table holds in one column of a row. Truth values are kept as 0 and 1, timestamps as
readings of a wall clock without an offset, and a number that is not one as null. Cells of one kind
are ordered by what they hold; across kinds numbers come first, and the others are ordered by the
texts that stand for them.
-/

namespace Venues.Store

/-- The content of one column of a row. -/
inductive Cell where
  | null
  | whole (n : Int)
  | real (x : Float)
  | text (s : String)
  | uuid (u : Uuid)
  /-- Microseconds on the wall clock since the first moment of the year 1. -/
  | moment (wall : Int)
  deriving Inhabited

namespace Cell

/-! ## Contents -/

def isNull : Cell → Bool
  | .null => true
  | _ => false

def ofFloat (x : Float) : Cell := if x.isNaN then .null else .real x

/-- The cell in which a value of a row is kept. -/
def ofValue : Value → Cell
  | .bool b => .whole (if b then 1 else 0)
  | .int n => .whole n
  | .float x => ofFloat x
  | .text s => .text s
  | .uuid u => .uuid u
  | .time t => .moment t.wall
  | _ => .null

/-- The size of a cell that holds a number. -/
def magnitude? : Cell → Option Magnitude
  | .whole n => some (.ofInt n)
  | .real x => some (.ofFloat x)
  | _ => none

/-- The text of a wall-clock reading, with six decimal places. -/
def momentText (wall : Int) : List Char :=
  let micros := wall.toNat
  Timestamp.dateText (micros / 86400000000) ++ ' ' :: Timestamp.clockText (micros / 1000000 % 86400)
    ++ '.' :: paddedDigits 10 6 (micros % 1000000)

/-- The layout of numbers in a table: positional below `10 ^ 15`, and a point in every number. -/
def tableLayout : DigitLayout := ⟨15, true⟩

/-- The text of a floating-point number: at most fifteen significant digits, a half going up. Zero
has no sign. -/
def realText (x : Float) : String :=
  match Magnitude.ofFloat x with
  | .undefined => ""
  | .lowest => "-Inf"
  | .highest => "Inf"
  | .units 0 => "0.0"
  | .units n =>
    let (ds, point) := significantDigits roundUpDiv 15 n.natAbs (2 ^ Magnitude.unitBits)
    (if n < 0 then "-" else "") ++ tableLayout.write (dropTrailingZeros ds) point

/-- The text that stands for the content of a cell. -/
def chars : Cell → List Char
  | .null => []
  | .whole n => (toString n).toList
  | .real x => (realText x).toList
  | .text s => s.toList
  | .uuid u => u.hex
  | .moment wall => momentText wall

/-! ## Order -/

/-- How two cells that are not null compare. -/
def order : Cell → Cell → Ordering
  | .whole a, .whole b => compare a b
  | .text a, .text b => compareOfLessAndEq a b
  | .uuid a, .uuid b => compare a.bits b.bits
  | .moment a, .moment b => compare a b
  | a, b =>
    match a.magnitude?, b.magnitude? with
    | some x, some y => if x.lt y then .lt else if y.lt x then .gt else .eq
    | some _, none => .lt
    | none, some _ => .gt
    | none, none => compareOfLessAndEq a.chars b.chars

/-- Whether the first of two cells comes strictly after the second in a sort, where null comes last
in both directions. -/
def isAfter (descending : Bool) (a b : Cell) : Bool :=
  match a, b with
  | .null, .null => false
  | .null, _ => true
  | _, .null => false
  | a, b => a.order b == if descending then .lt else .gt

end Cell
end Venues.Store
