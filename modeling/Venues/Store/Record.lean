import Venues.Predicate.Accepts
import Venues.Store.Order

/-! # Rows as records

A record is the value of a row: its columns, and under the name of each relation the records of the
rows it leads to, down to a depth. Predicates can be evaluated on records without the store.
-/

namespace Venues.Store

namespace Tables

/-- The record of a row, with related rows down to a depth. -/
def record (t : Tables) : Nat → Row → Value
  | 0, r => .object r.values
  | depth + 1, .facility f =>
    .object (f.values ++ [("courts", .list ((t.courtsOf f).map fun c => t.record depth (.court c)))])
  | depth + 1, .court c =>
    .object (c.values ++
      [("facility", .ofOption ((t.facilityOf? c).map fun f => t.record depth (.facility f)))])

/-- The rows of a model that a predicate accepts when it is evaluated on their records. -/
def accepted (t : Tables) (m : Model) (p : Predicate) : Outcome (List Row) := do
  t.need m
  if p.depth ≠ 0 then [Model.facility, Model.court].forM t.need
  (t.rows m).filterM fun r => p.accepts (t.record (p.depth + 1) r)

end Tables
end Venues.Store
