import Venues.Value

/-! # Written values

In an answer, identifiers and timestamps are written as texts, and the absent parts of an object may
be left out.
-/

namespace Venues

mutual

/-- A value in which identifiers and timestamps are replaced by their texts. -/
def Value.written : Value → Value
  | .uuid u => .text u.text
  | .time t => .text t.zuluText
  | .list items => .list (writtenItems items)
  | .object fs => .object (writtenFields fs)
  | v => v

def Value.writtenItems : List Value → List Value
  | [] => []
  | v :: vs => Value.written v :: writtenItems vs

def Value.writtenFields : List (String × Value) → List (String × Value)
  | [] => []
  | (name, v) :: fs => (name, Value.written v) :: writtenFields fs

end

/-- An object of the fields that are not null. -/
def Value.compact (fs : Fields) : Value := .object (fs.filter fun f => !f.2.isNull)

end Venues
