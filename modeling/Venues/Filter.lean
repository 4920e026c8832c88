import Venues.Value

/-! # Filters

A filter puts a condition on each of some fields. Conditions are listed in the order in which their
fields were first named.
-/

namespace Venues

/-- A condition on the value of one field. -/
inductive Condition where
  /-- The value equals a given one. -/
  | equals (value : Value)
  /-- The value lies between two bounds, both included; a null bound is open. -/
  | range (least most : Value)
  /-- The value is one of those listed. -/
  | oneOf (values : List Value)
  /-- The value holds a text, whatever its case. -/
  | contains (needle : String)

abbrev Conditions := List (String × Condition)

namespace Conditions

def get? (conditions : Conditions) (name : String) : Option Condition := conditions.lookup name

def has (conditions : Conditions) (name : String) : Bool := (conditions.get? name).isSome

/-- Sets the condition on a field: a present one keeps its place, a new one goes last. -/
def put (conditions : Conditions) (name : String) (condition : Condition) : Conditions :=
  match conditions with
  | [] => [(name, condition)]
  | (n, c) :: rest =>
    if n = name then (n, condition) :: rest else (n, c) :: put rest name condition

end Conditions
end Venues
