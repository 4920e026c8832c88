import Venues.Filter.Raw
import Venues.Predicate
import Venues.Surface

/-! # Building predicates

Raw filters become a predicate with their field names as they are: an object asks for a related row.
Conditions that were checked against a surface are addressed by the surface's paths; those on one
relation go together, so that a single related row has to satisfy them all.
-/

namespace Venues.Predicate

/-! ## Raw filters -/

def isObject : Value → Bool
  | .object _ => true
  | _ => false

/-- The predicates of the values that are not objects. -/
def ofLeaves (raw : Fields) : List Predicate :=
  (Filter.classify (raw.filter fun f => !isObject f.2)).map fun c => ofCondition c.1 c.2

mutual

/-- The predicate on the relation that an object names. -/
def ofObject (name : String) : Value → List Predicate
  | .object fs => [.related name (.all (ofObjects fs ++ ofLeaves fs))]
  | _ => []

/-- The predicates on relations, in the order of their objects. -/
def ofObjects : List (String × Value) → List Predicate
  | [] => []
  | (name, v) :: rest => ofObject name v ++ ofObjects rest

end

/-- The predicate of raw filters: relations first, then fields. -/
def ofRaw (raw : Fields) : Predicate := .all (ofObjects raw ++ ofLeaves raw)

/-! ## Checked conditions -/

/-- Adds a predicate to those on a relation; relations keep the order of their first mention. -/
def addRelated (groups : List (String × List Predicate)) (relation : String) (p : Predicate) :
    List (String × List Predicate) :=
  match groups with
  | [] => [(relation, [p])]
  | (r, ps) :: rest =>
    if r = relation then (r, ps ++ [p]) :: rest else (r, ps) :: addRelated rest relation p

/-- The predicates on a row's own fields, and those on its relations. -/
structure Placed where
  own : List Predicate := []
  related : List (String × List Predicate) := []

def Placed.add (placed : Placed) (d : FieldDef) (condition : Condition) : Placed :=
  let p := ofCondition d.column condition
  match d.relation with
  | some r => { placed with related := addRelated placed.related r p }
  | none => { placed with own := placed.own ++ [p] }

def place (s : Surface) (conditions : Conditions) : Outcome Placed :=
  conditions.foldlM (fun placed c =>
    match s.field? c.1 with
    | some d => .ok (placed.add d c.2)
    | none => .error .missingKey) {}

def ofConditions (s : Surface) (conditions : Conditions) : Outcome Predicate := do
  let placed ← place s conditions
  .ok (.all (placed.own ++ placed.related.map fun g => .related g.1 (.all g.2)))

/-- The same for a surface that may not be given; without one no path is known. -/
def ofConditionsOn (s? : Option Surface) (conditions : Conditions) : Outcome Predicate :=
  match s? with
  | some s => ofConditions s conditions
  | none => .error (.misuse .noSurface)

/-- The conditions that every row of a surface satisfies. -/
def base (s : Surface) : Predicate := .all (s.baseValues.map fun f => .equals f.1 f.2)

/-! ## Terms -/

/-- Some of some fields holds a term; nothing for a blank term or without fields. -/
def ofTerm (term : Option String) (fields : List String) : Option Predicate :=
  match term with
  | none => none
  | some t =>
    let needle := Text.strip t
    if needle = "" ∨ fields.isEmpty then none
    else some (.any (fields.map fun field => .contains field (.text needle)))

/-! ## Queries -/

def ofQuery (s : Surface) (q : Query) : Outcome Predicate := do
  let conditions ← ofConditions s q.conditions
  .ok (merge [some (base s), some conditions, ofTerm q.term s.searchFields])

end Venues.Predicate
