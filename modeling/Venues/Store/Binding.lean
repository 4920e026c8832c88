import Venues.Fault
import Venues.FieldKind
import Venues.Store.Cell
import Venues.Value.Order

/-! # Binding values

Values are handed to the store to be compared with a column or to be kept in one. Each is handed over
in a form, and not every value can take every form. Into a column a value goes in two steps:
`FieldKind.prepare` is done for all rows of a statement before any of them is written, and
`FieldKind.keep` when its row is written; it says what the column holds from then on.
-/

namespace Venues

/-! ## Numbers and truth values -/

/-- The number that a column of floating-point numbers is given: numerals count, and truth values as
0 and 1. -/
def Value.real? : Value → Option Float
  | .bool b => some (if b then 1 else 0)
  | .int n => realOfInt? n
  | .float x => some x
  | .text s => readFreeFloat? s
  | _ => none

/-- The truth value that a column of truth values is given: of the numbers only 0 and 1 count. -/
def Value.truth? (v : Value) : Option Bool :=
  match v with
  | .bool _ | .int _ | .float _ =>
    if v.same (.int 0) then some false else if v.same (.int 1) then some true else none
  | _ => none

namespace Store

/-! ## Forms -/

/-- The form in which a value is handed to the store. -/
inductive Form where
  | identifier
  | moment
  | truth
  | real
  | plain
  deriving DecidableEq

/-- The form of the values of a kind. Texts and whole numbers are handed over as they are. -/
def Form.ofKind : FieldKind → Form
  | .uuid => .identifier
  | .time => .moment
  | .truth => .truth
  | .real => .real
  | .text | .whole => .plain

/-- The form of a value that is compared with a column. It is the value's own, but for an identifier
column a text counts as an identifier, and lists and objects take the form of the column. -/
def Form.of (kind : FieldKind) : Value → Form
  | .uuid _ => .identifier
  | .time _ => .moment
  | .bool _ => .truth
  | .float _ => .real
  | .text _ => if kind = .uuid then .identifier else .plain
  | .list _ | .object _ => .ofKind kind
  | .int _ | .null => .plain

/-- Hands a value to the store. -/
def Form.bind : Form → Value → Outcome Cell
  | _, .null => .ok .null
  | .identifier, .uuid u => .ok (.uuid u)
  | .identifier, .float _ => .error .unstorable
  | .identifier, _ => .error .unbindable
  | .moment, .time t => .ok (.moment t.wall)
  | .moment, _ => .error .unbindable
  | .truth, v =>
    match v.truth? with
    | some b => .ok (.whole (if b then 1 else 0))
    | none => .error .unbindable
  | .real, v =>
    match v.real? with
    | some x => .ok (.ofFloat x)
    | none => .error .unbindable
  | .plain, .int n => if isShort n then .ok (.whole n) else .error .overflow
  | .plain, .bool b => .ok (.whole (if b then 1 else 0))
  | .plain, .float x => .ok (.ofFloat x)
  | .plain, .text s => .ok (.text s)
  | .plain, .time t => .ok (.text t.spacedText)
  | .plain, _ => .error .unstorable

/-! ## Comparisons -/

/-- The number that a text is, ASCII white space around it aside. Digits alone make a whole number,
if it is short; all else makes a floating-point number. -/
def numberOf? (s : String) : Option Cell :=
  let cs := Text.dropEnds Text.isAsciiSpace s.toList
  (readDecimal? cs).map fun d =>
    let n : Int := if d.negative then -d.digits else d.digits
    let digitsAlone := (splitSign cs).2.all fun c => (Text.asciiDigit? c).isSome
    if digitsAlone && isShort n then .whole n else .real d.toFloat

/-- The cell in the way a column of a kind compares: where texts are kept numbers become texts, and
where numbers are kept texts become numbers if they are numerals. -/
def Cell.adapted (kind : FieldKind) (cell : Cell) : Cell :=
  match kind, cell with
  | .text, .whole n => .text (String.ofList (Cell.whole n).chars)
  | .text, .real x => .text (String.ofList (Cell.real x).chars)
  | .uuid, .whole n => .text (String.ofList (Cell.whole n).chars)
  | .uuid, .real x => .text (String.ofList (Cell.real x).chars)
  | .text, c | .uuid, c => c
  | _, .text s => (numberOf? s).getD (.text s)
  | _, c => c

/-- Hands a value to the store for a comparison with a column. -/
def bindTo (kind : FieldKind) (v : Value) : Outcome Cell :=
  ((Form.of kind v).bind v).map (Cell.adapted kind)

/-- Whether a value was refused because it has not the form that was asked for. -/
def isRefused : Outcome Cell → Bool
  | .error .unbindable => true
  | _ => false

/-- Hands several values over; without a null among them all take the form of the first. That a value
has not its form is found out before anything else. -/
def bindAll (kind : FieldKind) (vs : List Value) : Outcome (List Cell) :=
  let form (v : Value) : Form :=
    if vs.any Value.isNull then Form.of kind v else Form.of kind (vs.headD .null)
  let handed := vs.map fun v => ((form v).bind v).map (Cell.adapted kind)
  if handed.any isRefused then .error .unbindable else handed.mapM id

/-! ## Columns -/

/-- The cell as a column of whole numbers keeps it: a floating-point number without a fraction is a
whole number, if it has less than 64 bits. -/
def Cell.shortened (cell : Cell) : Cell :=
  match cell with
  | .real x =>
    let size := Magnitude.ofFloat x
    match size.truncate? with
    | some n => if size.isWhole && isSmall n then .whole n else cell
    | none => cell
  | c => c

/-- The cell as a column of a kind keeps it. -/
def Cell.kept (kind : FieldKind) (cell : Cell) : Cell :=
  if kind = .whole then (cell.adapted kind).shortened else cell.adapted kind

/-- The value that is read from a cell of a column. -/
def Cell.toValue (kind : FieldKind) : Cell → Value
  | .null => .null
  | .whole n => if kind = .truth then .bool (n != 0) else .int n
  | .real x => .float x
  | .text s => .text s
  | .uuid u => .uuid u
  | .moment wall => .time ⟨wall, none⟩

end Store

namespace FieldKind

open Store (Form Cell)

/-- Prepares a value for a column: one that cannot take the form of the column is refused. -/
def prepare (kind : FieldKind) (v : Value) : Outcome Value :=
  match (Form.ofKind kind).bind v with
  | .error .unbindable => .error .unbindable
  | _ => .ok v

/-- What a column keeps of a value. Texts and whole numbers are kept as the column compares them, a
timestamp without its offset, and a number that is not one as null. -/
def keep (kind : FieldKind) (v : Value) : Outcome Value :=
  ((Form.ofKind kind).bind v).map fun cell => (cell.kept kind).toValue kind

end FieldKind
end Venues
