import Venues.Fault
import Venues.Number.Read
import Venues.Page

/-! # Cursors

An offset cursor is the position of the next row in decimal digits. It is not protected: whatever
does not read as a position inside the result window means the first page again. A keyset cursor is
the identity of the last row of the page before.
-/

namespace Venues.Cursor

/-! ## Offset cursors -/

/-- The cursor of a position; positions before the first row count as the first. -/
def ofOffset (offset : Int) : String := toString (max 0 offset)

/-- The position of a written numeral, 0 for any other text. -/
def position (cs : List Char) : Nat :=
  if cs.length ≤ maxDigits then (Text.readDigits? cs).getD 0 else 0

/-- The position that a cursor stands for, if a page of `limit` rows there ends in the window. -/
def toOffset (cursor : String) (limit : Int) : Int :=
  let n : Int := position (Text.dropEnds Text.isBlank cursor.toList)
  if resultWindow < n + max 0 limit then 0 else n

/-- The position of an optional cursor: none means the first row. -/
def toOffset? (cursor? : Option String) (limit : Int) : Int :=
  match cursor? with
  | none => 0
  | some c => toOffset c limit

/-! ## Keyset cursors -/

/-- The cursor of the row that ended a page: the text of its identity. -/
def ofItem (item : Value) (idField : String) : Outcome String :=
  let id := item.fields.get idField
  if id.isNull then .error (.misuse (.itemWithoutField idField)) else .ok id.display

/-- The anchor that a keyset cursor stands for: the row with this identity. -/
def toAnchor (cursor : String) (idField : String) : String × String := (idField, Text.strip cursor)

end Venues.Cursor
