import Venues.Value.Display

/-! # Issues

An issue is one reason why a value does not fit where it stands. A violation is an issue together
with the place of the value, a list of field names and positions. `Checked` collects violations: two
checks that both fail report the violations of both, in order.
-/

namespace Venues

/-! ## Reasons -/

/-- Why a value is refused. -/
inductive Issue where
  | missing
  | extra
  | notText
  | notTruth
  | unreadableTruth
  | notWhole
  | unreadableWhole
  | fractional
  | notFinite
  | tooManyDigits
  | notNumber
  | unreadableNumber
  | notUuid
  | malformedUuid
  | notTime
  | timeOutOfRange
  | unreadableTime
  | below (bound : String)
  | above (bound : String)
  | notAmong (allowed : List String)
  | notObject
  | notRecord
  | notAttributes
  | notList
  | notTuple
  | noTag
  | unknownTag
  | refused (reason : String)
  deriving DecidableEq

namespace Issue

/-- The short name of an issue. -/
def code : Issue → String
  | .missing => "missing"
  | .extra => "extra_forbidden"
  | .notText => "string_type"
  | .notTruth => "bool_type"
  | .unreadableTruth => "bool_parsing"
  | .notWhole => "int_type"
  | .unreadableWhole => "int_parsing"
  | .fractional => "int_from_float"
  | .notFinite => "finite_number"
  | .tooManyDigits => "int_parsing_size"
  | .notNumber => "float_type"
  | .unreadableNumber => "float_parsing"
  | .notUuid => "uuid_type"
  | .malformedUuid => "uuid_parsing"
  | .notTime => "datetime_type"
  | .timeOutOfRange => "datetime_parsing"
  | .unreadableTime => "datetime_from_date_parsing"
  | .below _ => "greater_than_equal"
  | .above _ => "less_than_equal"
  | .notAmong _ => "literal_error"
  | .notObject => "dict_type"
  | .notRecord => "model_type"
  | .notAttributes => "model_attributes_type"
  | .notList => "list_type"
  | .notTuple => "tuple_type"
  | .noTag => "union_tag_not_found"
  | .unknownTag => "union_tag_invalid"
  | .refused _ => "value_error"

def alternatives : List String → String
  | [] => ""
  | [a] => a
  | [a, b] => a ++ " or " ++ b
  | a :: rest => a ++ ", " ++ alternatives rest

/-- The sentence that explains an issue. -/
def sentence : Issue → String
  | .missing => "Field required"
  | .extra => "Extra inputs are not permitted"
  | .notText => "Input should be a valid string"
  | .notTruth => "Input should be a valid boolean"
  | .unreadableTruth => "Input should be a valid boolean, unable to interpret input"
  | .notWhole => "Input should be a valid integer"
  | .unreadableWhole => "Input should be a valid integer, unable to parse string as an integer"
  | .fractional => "Input should be a valid integer, got a number with a fractional part"
  | .notFinite => "Input should be a finite number"
  | .tooManyDigits => "Unable to parse input string as an integer, exceeded maximum size"
  | .notNumber => "Input should be a valid number"
  | .unreadableNumber => "Input should be a valid number, unable to parse string as a number"
  | .notUuid => "UUID input should be a string, bytes or UUID object"
  | .malformedUuid => "Input should be a valid UUID"
  | .notTime => "Input should be a valid datetime"
  | .timeOutOfRange => "Input should be a valid datetime"
  | .unreadableTime => "Input should be a valid datetime or date"
  | .below bound => "Input should be greater than or equal to " ++ bound
  | .above bound => "Input should be less than or equal to " ++ bound
  | .notAmong allowed => "Input should be " ++ alternatives (allowed.map Text.quoted)
  | .notObject => "Input should be a valid dictionary"
  | .notRecord => "Input should be a valid dictionary"
  | .notAttributes => "Input should be a valid dictionary or object to extract fields from"
  | .notList => "Input should be a valid list"
  | .notTuple => "Input should be a valid tuple"
  | .noTag => "Unable to extract tag"
  | .unknownTag => "Input tag does not match any of the expected tags"
  | .refused reason => "Value error, " ++ reason

end Issue

/-! ## Violations -/

/-- An issue and the place where it was found. -/
structure Violation where
  place : List String
  issue : Issue
  deriving DecidableEq

namespace Violation

/-- The place of a violation, with points between its parts. -/
def field (v : Violation) : String := ".".intercalate v.place

/-- The violation as seen from one level further out. -/
def under (name : String) (v : Violation) : Violation := { v with place := name :: v.place }

end Violation

/-! ## Collecting violations -/

/-- A value that passed its checks, or the violations found, at least one. -/
abbrev Checked (α : Type) := Except (List Violation) α

namespace Checked

def fault {α : Type} (issue : Issue) : Checked α := .error [⟨[], issue⟩]

def inField {α : Type} (name : String) : Checked α → Checked α
  | .ok a => .ok a
  | .error vs => .error (vs.map (Violation.under name))

/-- Both of two checks; the violations of the first come first. -/
def both {α β : Type} : Checked α → Checked β → Checked (α × β)
  | .ok a, .ok b => .ok (a, b)
  | .ok _, .error ws => .error ws
  | .error vs, .ok _ => .error vs
  | .error vs, .error ws => .error (vs ++ ws)

/-- A check of every item; each is reported at its position. -/
def items {α β : Type} (check : α → Checked β) : Nat → List α → Checked (List β)
  | _, [] => .ok []
  | i, a :: as =>
    (both ((check a).inField (toString i)) (items check (i + 1) as)).map fun p => p.1 :: p.2

end Checked
end Venues
