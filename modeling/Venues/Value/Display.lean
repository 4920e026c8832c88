import Venues.Number.Shortest
import Venues.Text.Quoted
import Venues.Value

/-! # Text of values

`display` is the text that a value has inside a message: a text stands for itself. `quoted` is the
text that shows the kind of a value too, so a text stands between quotes; it is also the form of the
items of a list and the fields of an object. `json` is the form of data exchange.
-/

namespace Venues.Value

/-! ## Messages -/

mutual

/-- The text of a value that shows its kind. -/
def quoted : Value → String
  | .null => "None"
  | .bool b => if b then "True" else "False"
  | .int n => toString n
  | .float x => floatText x
  | .text s => Text.quoted s
  | .uuid u => "UUID('" ++ u.text ++ "')"
  | .time t => t.partsText
  | .list items => "[" ++ quotedItems items ++ "]"
  | .object fs => "\x7b" ++ quotedFields fs ++ "\x7d"

/-- The items of a list, with commas between them. -/
def quotedItems : List Value → String
  | [] => ""
  | [v] => quoted v
  | v :: vs => quoted v ++ ", " ++ quotedItems vs

/-- The fields of an object, with commas between them. -/
def quotedFields : List (String × Value) → String
  | [] => ""
  | [(name, v)] => Text.quoted name ++ ": " ++ quoted v
  | (name, v) :: fs => Text.quoted name ++ ": " ++ quoted v ++ ", " ++ quotedFields fs

end

def display : Value → String
  | .text s => s
  | .uuid u => u.text
  | .time t => t.spacedText
  | v => v.quoted

/-! ## Data exchange -/

/-- A floating-point number for data exchange. -/
def jsonFloat (x : Float) : String :=
  match floatText x with
  | "nan" => "NaN"
  | "inf" => "Infinity"
  | "-inf" => "-Infinity"
  | s => s

mutual

/-- A value on one line, for data exchange. -/
def json : Value → String
  | .null => "null"
  | .bool b => if b then "true" else "false"
  | .int n => toString n
  | .float x => jsonFloat x
  | .text s => Text.jsonQuoted s
  | .uuid u => Text.jsonQuoted u.text
  | .time t => Text.jsonQuoted t.isoText
  | .list items => "[" ++ jsonItems items ++ "]"
  | .object fs => "\x7b" ++ jsonFields fs ++ "\x7d"

def jsonItems : List Value → String
  | [] => ""
  | [v] => json v
  | v :: vs => json v ++ ", " ++ jsonItems vs

def jsonFields : List (String × Value) → String
  | [] => ""
  | [(name, v)] => Text.jsonQuoted name ++ ": " ++ json v
  | (name, v) :: fs => Text.jsonQuoted name ++ ": " ++ json v ++ ", " ++ jsonFields fs

end

/-! ## Indented data exchange -/

/-- A line break and the blanks that stand before a line at a depth. -/
def lineBreak (depth : Nat) : String := "\n" ++ String.ofList (List.replicate (2 * depth) ' ')

mutual

/-- A value over several lines, two blanks deeper at each level. -/
def jsonLines (depth : Nat) : Value → String
  | .list (v :: vs) =>
    "[" ++ lineBreak (depth + 1) ++ itemLines (depth + 1) (v :: vs) ++ lineBreak depth ++ "]"
  | .object (f :: fs) =>
    "\x7b" ++ lineBreak (depth + 1) ++ fieldLines (depth + 1) (f :: fs) ++ lineBreak depth ++ "\x7d"
  | v => json v

/-- The items of a list, each on a line of its own. -/
def itemLines (depth : Nat) : List Value → String
  | [] => ""
  | [v] => jsonLines depth v
  | v :: vs => jsonLines depth v ++ "," ++ lineBreak depth ++ itemLines depth vs

/-- The fields of an object, each on a line of its own. -/
def fieldLines (depth : Nat) : List (String × Value) → String
  | [] => ""
  | [(name, v)] => Text.jsonQuoted name ++ ": " ++ jsonLines depth v
  | (name, v) :: fs =>
    Text.jsonQuoted name ++ ": " ++ jsonLines depth v ++ "," ++ lineBreak depth ++ fieldLines depth fs

end

end Venues.Value
