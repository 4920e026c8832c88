import Venues.Fault
import Venues.Query

/-! # Written queries

Written out, a query shows all of its parts, and beside them what follows from them: the radius in
meters, the number of rows asked for, and whether the page is addressed by a cursor.
-/

namespace Venues

def Condition.toValue : Condition → Value
  | .equals v => .object [("op", .text "eq"), ("value", v)]
  | .range least most => .object [("op", .text "range"), ("gte", least), ("lte", most)]
  | .oneOf vs => .object [("op", .text "in"), ("values", .list vs)]
  | .contains s => .object [("op", .text "contains"), ("value", .text s)]

/-- The written form of conditions: each one with the name of its field, in order. -/
def Conditions.toValue (cs : Conditions) : Value :=
  .list (cs.map fun c => .list [.text c.1, c.2.toValue])

/-- The written form of a page that is asked for. -/
def Page.toValue : Page → Value
  | .offset number limit start? => .object [("mode", .text "offset"), ("page", .int number),
      ("limit", .int limit), ("offset", .ofOption (start?.map .int))]
  | .cursor cursor? limit => .object [("mode", .text "cursor"), ("cursor", .ofText? cursor?),
      ("limit", .int limit)]

/-- The written form of an area, whose radius must be a distance. -/
def Area.toValue (a : Area) : Outcome Value := do
  let meters ← a.radiusMeters.mapError .misuse
  .ok (.object [("lat", .float a.center.lat), ("lon", .float a.center.lon),
    ("radius", .text a.radius), ("radius_meters", .float meters)])

def Sorting.toValue (s : Sorting) : Value :=
  .object [("field", .text s.key.text), ("direction", .text s.direction.text)]

/-- The written form of a query. -/
def Query.toValue (q : Query) : Outcome Value := do
  let area ← match q.area with
    | none => .ok .null
    | some a => a.toValue
  .ok (.object [("term", .ofText? q.term), ("field_filters", Conditions.toValue q.conditions),
    ("geo", area), ("sort", q.sorting.toValue), ("page", q.page.toValue),
    ("include_relations", .bool q.withRelations), ("limit", .int q.limit),
    ("is_cursor_mode", .bool q.page.isCursor)])

end Venues
