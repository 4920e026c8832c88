import Venues.Filter

/-! # Predicates

A predicate is a condition on a row and its related rows, independent of where the row is kept. It
can be evaluated against a row at hand (`Predicate.accepts`) and compiled to a test on the columns
of a table (`Predicate.compile`).
-/

namespace Venues

/-- A condition on a row. -/
inductive Predicate where
  /-- A field equals a value. -/
  | equals (field : String) (value : Value)
  /-- A field lies between two bounds, both included; a null bound is open. -/
  | range (field : String) (least most : Value)
  /-- A field equals one of several values. -/
  | oneOf (field : String) (values : List Value)
  /-- A field holds a text, whatever its case. Only a text can be looked for. -/
  | contains (field : String) (needle : Value)
  /-- The related row, or some of several related rows, satisfies a predicate. -/
  | related (relation : String) (inner : Predicate)
  /-- All parts hold. -/
  | all (parts : List Predicate)
  /-- Some part holds. -/
  | any (parts : List Predicate)
  deriving Inhabited

namespace Predicate

def ofCondition (field : String) : Condition → Predicate
  | .equals v => .equals field v
  | .range least most => .range field least most
  | .oneOf vs => .oneOf field vs
  | .contains needle => .contains field (.text needle)

mutual

/-- How many relations a predicate follows in a row. -/
def depth : Predicate → Nat
  | .related _ inner => inner.depth + 1
  | .all parts | .any parts => depthOfParts parts
  | _ => 0

/-- How many relations some of several predicates follow in a row. -/
def depthOfParts : List Predicate → Nat
  | [] => 0
  | p :: ps => max p.depth (depthOfParts ps)

end

/-- The parts of a conjunction; any other predicate is a conjunction of itself alone. -/
def conjuncts : Predicate → List Predicate
  | .all parts => parts
  | p => [p]

/-- All of some predicates, conjunctions among them being dissolved. -/
def merge (ps : List (Option Predicate)) : Predicate :=
  .all ((ps.filterMap id).flatMap conjuncts)

end Predicate
end Venues
