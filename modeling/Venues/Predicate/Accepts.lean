import Venues.Fault
import Venues.Predicate
import Venues.Text.Infix
import Venues.Text.LowerCase
import Venues.Value.Order

/-! # Evaluating predicates

A row is an object whose fields are its columns and its relations; a field it does not have is null.
Evaluation goes from left to right and stops as soon as the answer is known, so an incomparable pair
of values behind that point does no harm.
-/

namespace Venues

/-- Whether the text of a value holds a text, whatever its case. -/
def Value.holds (v : Value) (needle : String) : Bool :=
  Text.isPartOf (Text.lower needle.toList) (Text.lower v.display.toList)

/-- Whether the text of a value holds what is looked for, which must be a text; null holds nothing. -/
def Value.contains (v needle : Value) : Outcome Bool :=
  match v, needle with
  | .null, _ => .ok false
  | v, .text s => .ok (v.holds s)
  | _, _ => .error .missingAttribute

/-- Whether one value is below another, which must be comparable. -/
def Value.isBelow (a b : Value) : Outcome Bool :=
  match a.lt? b with
  | some answer => .ok answer
  | none => .error .incomparable

/-- Whether a value lies between two bounds; null lies nowhere. -/
def Value.between (v least most : Value) : Outcome Bool :=
  if v.isNull then .ok false
  else do
    let tooLow ← if least.isNull then .ok false else v.isBelow least
    if tooLow then .ok false
    else do
      let tooHigh ← if most.isNull then .ok false else most.isBelow v
      .ok (!tooHigh)

/-- Whether some item satisfies a test; the first one that does ends the search. -/
def someItem {α : Type} (test : α → Outcome Bool) : List α → Outcome Bool
  | [] => .ok false
  | a :: as => do
    if ← test a then .ok true else someItem test as

namespace Predicate

mutual

/-- Whether a row satisfies a predicate. -/
def accepts : Predicate → Value → Outcome Bool
  | .equals field value, row => .ok ((row.fields.get field).same value)
  | .range field least most, row => (row.fields.get field).between least most
  | .oneOf field values, row => .ok (values.any fun v => (row.fields.get field).same v)
  | .contains field needle, row =>
    (row.fields.get field).contains needle
  | .related relation inner, row =>
    match row.fields.get relation with
    | .null => .ok false
    | .list items => someItem (fun item => accepts inner item) items
    | item => accepts inner item
  | .all parts, row => allAccept parts row
  | .any parts, row => anyAccept parts row

def allAccept : List Predicate → Value → Outcome Bool
  | [], _ => .ok true
  | p :: ps, row => do
    if ← accepts p row then allAccept ps row else .ok false

def anyAccept : List Predicate → Value → Outcome Bool
  | [], _ => .ok false
  | p :: ps, row => do
    if ← accepts p row then .ok true else anyAccept ps row

end

end Predicate
end Venues
