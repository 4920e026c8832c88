import Venues.Number.Magnitude
import Venues.Timestamp
import Venues.Uuid

/-! # Values

Requests, filters, index documents and replies are made of dynamic values: those of a JSON document,
with whole and floating-point numbers kept apart, together with identifiers and timestamps. The
fields of an object keep the order in which they were written.
-/

namespace Venues

/-- A dynamic value. -/
inductive Value where
  | null
  | bool (b : Bool)
  | int (n : Int)
  | float (x : Float)
  | text (s : String)
  | uuid (u : Uuid)
  | time (t : Timestamp)
  | list (items : List Value)
  | object (fields : List (String × Value))
  deriving Inhabited

abbrev Fields := List (String × Value)

namespace Fields

def get? (fields : Fields) (name : String) : Option Value := fields.lookup name

/-- The value of a field, null if there is none. -/
def get (fields : Fields) (name : String) : Value := (fields.get? name).getD .null

/-- Whether a field is present, be its value null or not. -/
def has (fields : Fields) (name : String) : Bool := (fields.get? name).isSome

/-- Sets a field: a present one keeps its place, a new one goes last. -/
def put (fields : Fields) (name : String) (value : Value) : Fields :=
  match fields with
  | [] => [(name, value)]
  | (n, v) :: rest => if n = name then (n, value) :: rest else (n, v) :: put rest name value

end Fields

namespace Value

def isNull : Value → Bool
  | .null => true
  | _ => false

/-- Whether a value is a list or an object. -/
def isNested : Value → Bool
  | .list _ | .object _ => true
  | _ => false

/-- The fields of an object; other values have none. -/
def fields : Value → Fields
  | .object fs => fs
  | _ => []

/-- Whether a value counts as true: it is not null, false, zero or empty. -/
def truthy : Value → Bool
  | .null => false
  | .bool b => b
  | .int n => n != 0
  | .float x => Magnitude.ofFloat x != .units 0
  | .text s => s != ""
  | .uuid _ | .time _ => true
  | .list items => !items.isEmpty
  | .object fs => !fs.isEmpty

/-- The value itself if it counts as true, else another. -/
def orElse (v other : Value) : Value := if v.truthy then v else other

def ofOption (v? : Option Value) : Value := v?.getD .null

def ofText? (s? : Option String) : Value := (s?.map .text).getD .null

def texts (xs : List String) : Value := .list (xs.map .text)

end Value
end Venues
