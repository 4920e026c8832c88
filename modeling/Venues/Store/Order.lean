import Venues.Selection
import Venues.Store.Model

/-! # Orders

Rows are sorted by columns, each in a direction of its own; null comes last in both directions. Rows
that agree in all columns keep their places. A table is walked along an index if one begins with the
first column of the order, and then rows that agree come as they stand in the index: a falling order
walks it from its end.
-/

namespace Venues.Store

/-- Whether the sort keys of one row come strictly after those of another. -/
def comesAfter (order : RowOrder) (a b : String → Cell) : Bool :=
  match order with
  | [] => false
  | (column, direction) :: rest =>
    let descending := direction == .desc
    (a column).isAfter descending (b column)
      || (!(b column).isAfter descending (a column) && comesAfter rest a b)

def sortRows (order : RowOrder) (rows : List Row) : List Row :=
  rows.mergeSort fun a b => !comesAfter order a.cell b.cell

/-- The indexes of the table of a model: the first column of each, and those that decide behind it. -/
def Model.indexes : Model → List (String × List String)
  | .facility => [("id", []), ("slug", []), ("city", []), ("owner_id", []), ("created_at", ["id"])]
  | .court => [("id", []), ("facility_id", []), ("sport", [])]

/-- The rows of a model in an order, walked along an index if one begins with its first column. -/
def walk (m : Model) (order : RowOrder) (rows : List Row) : List Row :=
  match order with
  | [] => rows
  | (column, direction) :: _ =>
    match m.indexes.lookup column with
    | none => sortRows order rows
    | some behind =>
      let rows := if direction = .desc then rows.reverse else rows
      sortRows (order ++ behind.map fun c => (c, direction)) rows

/-- The order of the courts of a facility: by creation, then by identity. -/
def courtOrder : RowOrder := [("created_at", .asc), ("id", .asc)]

def Tables.courtsOf (t : Tables) (f : Facility) : List Court :=
  (t.courts.filter (Tables.owns f)).mergeSort fun a b =>
    !comesAfter courtOrder (Row.court a).cell (Row.court b).cell

end Venues.Store
