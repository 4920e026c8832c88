import Venues.Selection

/-! # Written predicates and selections

Written out, a predicate is a tree of nodes. A selection shows its predicate, its order, and the
portion of rows that it takes.
-/

namespace Venues

/-! ## Predicates -/

namespace Predicate

/-- A node of a written predicate: its name, and what belongs to it. -/
def node (name : String) (parts : Fields) : Value := .object (("node", .text name) :: parts)

mutual

/-- The written form of a predicate. -/
def toValue : Predicate → Value
  | .equals field v => node "Equals" [("field", .text field), ("value", v)]
  | .range field least most =>
    node "Range" [("field", .text field), ("gte", least), ("lte", most)]
  | .oneOf field vs => node "In" [("field", .text field), ("values", .list vs)]
  | .contains field needle => node "Contains" [("field", .text field), ("value", needle)]
  | .related relation p =>
    node "Nested" [("relation", .text relation), ("predicate", p.toValue)]
  | .all ps => node "And" [("parts", .list (toValues ps))]
  | .any ps => node "Or" [("parts", .list (toValues ps))]

def toValues : List Predicate → List Value
  | [] => []
  | p :: ps => p.toValue :: toValues ps

end

end Predicate

/-! ## Selections -/

def RowOrder.toValue (order : RowOrder) : Value :=
  .list (order.map fun o => .texts [o.1, o.2.text])

def Portion.fields (p : Portion) : Fields :=
  [("skip", .int p.skip), ("take", .int p.take),
   ("cursor", .ofOption (p.anchor.map fun a => .object [(a.1, .text a.2)]))]

def Selection.toValue (s : Selection) : Value :=
  .object ([("where", s.filter.toValue), ("order_by", RowOrder.toValue s.order)] ++
    s.portion.fields ++ [("include", .texts s.relations)])

end Venues
