import Venues.Value

/-! # Equality and order of values

Numbers are compared by magnitude whatever their kind, and a truth value counts as 0 or 1. Values of
different kinds are unequal and have no order: `lt?` answers nothing for them. Lists are compared
item by item; the first unequal pair decides, and else the shorter list comes first. Objects are
equal when they have the same fields, in any order, and are never ordered.
-/

namespace Venues.Value

/-! ## Numbers -/

/-- The magnitude of a value that is a number or a truth value. -/
def magnitude? : Value → Option Magnitude
  | .bool b => some (.ofInt (if b then 1 else 0))
  | .int n => some (.ofInt n)
  | .float x => some (.ofFloat x)
  | _ => none

/-! ## Equality -/

mutual

/-- Whether two values are equal. -/
def same : Value → Value → Bool
  | .null, .null => true
  | .int a, .int b => a == b
  | .text a, .text b => a == b
  | .uuid a, .uuid b => a == b
  | .time a, .time b => a.same b
  | .list as, .list bs => sameItems as bs
  | .object as, .object bs => as.length == bs.length && sameFields as bs
  | a, b =>
    match a.magnitude?, b.magnitude? with
    | some x, some y => x.same y
    | _, _ => false

def sameItems : List Value → List Value → Bool
  | [], [] => true
  | a :: as, b :: bs => same a b && sameItems as bs
  | _, _ => false

/-- Whether each of the fields stands with an equal value among some others. -/
def sameFields : List (String × Value) → List (String × Value) → Bool
  | [], _ => true
  | (name, a) :: as, bs =>
    (match bs.lookup name with
      | some b => same a b
      | none => false) && sameFields as bs

end

/-! ## Order -/

mutual

/-- Whether one value comes before another; nothing if the two have no order. -/
def lt? : Value → Value → Option Bool
  | .int a, .int b => some (decide (a < b))
  | .text a, .text b => some (decide (a < b))
  | .uuid a, .uuid b => some (a.lt b)
  | .time a, .time b => a.lt? b
  | .list as, .list bs => ltItems? as bs
  | a, b =>
    match a.magnitude?, b.magnitude? with
    | some x, some y => some (x.lt y)
    | _, _ => none

def ltItems? : List Value → List Value → Option Bool
  | _, [] => some false
  | [], _ :: _ => some true
  | a :: as, b :: bs => if same a b then ltItems? as bs else lt? a b

end

end Venues.Value
