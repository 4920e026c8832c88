import Venues.Fault
import Venues.Filter

/-! # Raw filters

Raw filters are an object of values. Objects inside it name the fields of related rows: their names
are joined by points. The kind of a value then decides on its condition: a list asks for one of its
items, a text with a star for a part of the text, the endings `_from` and `_to` of a name for the two
ends of a range, and anything else for equality. Null puts no condition on its field.
-/

namespace Venues.Filter

/-! ## Flattening -/

mutual

/-- Adds a value under a full name, or the values of an object under longer names. -/
def flattenValue (name : String) (flat : Fields) : Value → Fields
  | .object fs => flattenFields (name ++ ".") flat fs
  | v => flat.put name v

def flattenFields (lead : String) : Fields → List (String × Value) → Fields
  | flat, [] => flat
  | flat, (name, v) :: rest => flattenFields lead (flattenValue (lead ++ name) flat v) rest

end

/-- The values of an object by full name, where objects inside it are replaced by their values. -/
def flatten (raw : Fields) : Fields := flattenFields "" [] raw

/-! ## Conditions -/

/-- The mark in a text that asks for a part of a text. -/
def wildcard : Char := '*'

/-- The ends of a range. -/
inductive Bound where
  | least
  | most
  deriving DecidableEq

/-- The endings of names that give an end of a range. -/
def Bound.ending : Bound → List Char
  | .least => "_from".toList
  | .most => "_to".toList

/-- Splits an ending off a name, if a name remains. -/
def dropEnding? (name : String) (ending : List Char) : Option String :=
  let cs := name.toList
  if ending.isSuffixOf cs && ending.length < cs.length then
    some (String.ofList (cs.take (cs.length - ending.length)))
  else none

/-- The field and the end of a range that a name stands for. -/
def bound? (name : String) : Option (String × Bound) :=
  match dropEnding? name Bound.least.ending with
  | some base => some (base, .least)
  | none => (dropEnding? name Bound.most.ending).map fun base => (base, .most)

/-- Sets one end of the range on a field; any other condition on it is replaced. -/
def setBound (conditions : Conditions) (base : String) (bound : Bound) (value : Value) : Conditions :=
  let (least, most) :=
    match conditions.get? base with
    | some (.range least most) => (least, most)
    | _ => (.null, .null)
  conditions.put base <|
    match bound with
    | .least => .range value most
    | .most => .range least value

/-- The condition that a value asks for by its kind. -/
def conditionOf : Value → Condition
  | .list items => .oneOf items
  | .text s =>
    if s.toList.contains wildcard then .contains (String.ofList (s.toList.filter (· != wildcard)))
    else .equals (.text s)
  | v => .equals v

/-- Adds the condition that one raw value asks for. -/
def classifyEntry (conditions : Conditions) (entry : String × Value) : Conditions :=
  if entry.2.isNull then conditions
  else
    match bound? entry.1 with
    | some (base, bound) => setBound conditions base bound entry.2
    | none => conditions.put entry.1 (conditionOf entry.2)

/-- The conditions that raw values ask for, without regard to nesting. -/
def classify (raw : Fields) : Conditions := raw.foldl classifyEntry []

def parse (raw : Fields) : Conditions := classify (flatten raw)

end Venues.Filter
