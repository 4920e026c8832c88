import Venues.Store.Binding
import Venues.Store.Model

/-! # Changing rows

A statement inserts rows into the table of a model or changes some that are there. The values of all
its rows are prepared before the first of them is written. Columns that must not be null may have a
default, and no two rows of a table may have the same identity, nor two facilities the same slug.
-/

namespace Venues

/-! ## Values of columns -/

namespace Value

/-- The text that a column shows for a value. -/
def columnText : Value → Option String
  | .text s => some s
  | _ => none

/-- The identifier that a column shows for a value. -/
def columnUuid : Value → Option Uuid
  | .uuid u => some u
  | .text s => Uuid.ofText? s
  | _ => none

/-- The timestamp that a column shows for a value. -/
def columnTime : Value → Option Timestamp
  | .time t => some t
  | _ => none

/-- The truth value that a column shows for a value. -/
def columnTruth (v : Value) : Option Bool := if v.isNull then none else some v.truthy

end Value

/-- Sets the value of a column; a name that is no column changes nothing. -/
def Facility.set (f : Facility) (column : String) (v : Value) : Facility :=
  match column with
  | "id" => { f with id := v.columnUuid.getD f.id }
  | "owner_id" => { f with ownerId := v.columnUuid }
  | "name" => { f with name := v.columnText }
  | "slug" => { f with slug := v.columnText }
  | "description" => { f with description := v.columnText }
  | "phone" => { f with phone := v.columnText }
  | "address" => { f with address := v.columnText }
  | "ward" => { f with ward := v.columnText }
  | "city" => { f with city := v.columnText }
  | "latitude" => { f with latitude := v.real? }
  | "longitude" => { f with longitude := v.real? }
  | "is_published" => { f with isPublished := v.columnTruth }
  | "rating" => { f with rating := v.real? }
  | "created_at" => { f with createdAt := v.columnTime }
  | "updated_at" => { f with updatedAt := v.columnTime }
  | "deleted_at" => { f with deletedAt := v.columnTime }
  | _ => f

/-- The facility that has some values, and null in all other columns. -/
def Facility.ofValues (values : Fields) : Facility :=
  values.foldl (fun f v => f.set v.1 v.2) default

/-- Sets the value of a column; a name that is no column changes nothing. -/
def Court.set (c : Court) (column : String) (v : Value) : Court :=
  match column with
  | "id" => { c with id := v.columnUuid.getD c.id }
  | "facility_id" => { c with facilityId := v.columnUuid }
  | "name" => { c with name := v.columnText }
  | "sport" => { c with sport := v.columnText }
  | "surface" => { c with surface := v.columnText }
  | "indoor" => { c with indoor := v.columnTruth }
  | "is_active" => { c with isActive := v.columnTruth }
  | "price_per_hour" => { c with price := v }
  | "created_at" => { c with createdAt := v.columnTime }
  | "updated_at" => { c with updatedAt := v.columnTime }
  | "deleted_at" => { c with deletedAt := v.columnTime }
  | _ => c

/-- The court that has some values, and null in all other columns. -/
def Court.ofValues (values : Fields) : Court :=
  values.foldl (fun c v => c.set v.1 v.2) default

namespace Store

namespace Row

def set (r : Row) (column : String) (v : Value) : Row :=
  match r with
  | .facility f => .facility (f.set column v)
  | .court c => .court (c.set column v)

def setAll (r : Row) (values : Fields) : Row := values.foldl (fun r f => r.set f.1 f.2) r

/-- Whether two rows cannot be in the table of their model together. -/
def conflicts (a b : Row) : Bool :=
  match a, b with
  | .facility f, .facility g => f.id == g.id || (f.slug.isSome && f.slug == g.slug)
  | .court c, .court d => c.id == d.id
  | _, _ => false

end Row

namespace Model

/-- The row of a model that has some values, and null in all other columns. -/
def row : Model → Fields → Row
  | .facility, values => .facility (.ofValues values)
  | .court, values => .court (.ofValues values)

def needed : Model → List String
  | .facility => ["id", "owner_id", "name", "slug", "address", "is_published", "created_at",
      "updated_at"]
  | .court => ["id", "facility_id", "name", "sport", "indoor", "is_active", "created_at",
      "updated_at"]

/-- The defaults of the columns that have one, at a moment. -/
def defaults (now : Timestamp) : Model → Fields
  | .facility => [("address", .text ""), ("is_published", .bool false), ("created_at", .time now),
      ("updated_at", .time now)]
  | .court => [("indoor", .bool false), ("is_active", .bool true), ("created_at", .time now),
      ("updated_at", .time now)]

/-- The values of columns among some fields, in the order of the columns. -/
def columnsOf (m : Model) (values : Fields) : Fields :=
  m.columns.filterMap fun c => (values.get? c.1).map fun v => (c.1, v)

/-- Binds the values of columns, one after the other. -/
def bindColumns (m : Model) (bind : FieldKind → Value → Outcome Value) (values : Fields) :
    Outcome Fields :=
  (m.columnsOf values).mapM fun f => (bind ((m.column? f.1).getD .text) f.2).map fun v => (f.1, v)

/-- The values of a new row, with defaults in place of nulls. -/
def withDefaults (m : Model) (now : Timestamp) (values : Fields) : Fields :=
  (m.defaults now).foldl
    (fun vs f => if (Fields.get vs f.1).isNull then Fields.put vs f.1 f.2 else vs) values

/-- The columns with a default that are given a value of their own. -/
def givenDefaults (m : Model) (now : Timestamp) (values : Fields) : List String :=
  ((m.defaults now).map (·.1)).filter fun c => !(values.get c).isNull

end Model

/-! ## Statements -/

namespace Tables

/-- The tables with other rows of a model. -/
def withRows (t : Tables) (m : Model) (rows : List Row) : Tables :=
  match m with
  | .facility => { t with facilities := rows.filterMap fun
      | .facility f => some f
      | .court _ => none }
  | .court => { t with courts := rows.filterMap fun
      | .court c => some c
      | .facility _ => none }

/-- Writes a new row, which has prepared values. -/
def insertRow (m : Model) (t : Tables) (values : Fields) : Outcome Tables := do
  let values ← m.bindColumns FieldKind.keep values
  let row := m.row values
  let rows := t.rows m
  if m.needed.any (fun c => (values.get c).isNull) || rows.any row.conflicts then .error .conflict
  else .ok (t.withRows m (rows ++ [row]))

/-- Writes prepared values into the row with an identity; without such a row nothing happens. -/
def updateRow (m : Model) (t : Tables) (change : Uuid × Fields) : Outcome Tables := do
  let values ← m.bindColumns FieldKind.keep change.2
  let rows := t.rows m
  match t.find? m change.1 with
  | none => .ok t
  | some old =>
    let row := old.setAll values
    if values.any (fun f => f.2.isNull && m.needed.contains f.1)
        || rows.any (fun r => r.id != change.1 && row.conflicts r) then .error .conflict
    else .ok (t.withRows m (rows.map fun r => if r.id == change.1 then row else r))

def insertAll (m : Model) (t : Tables) (rows : List Fields) : Outcome Tables := do
  let rows ← rows.mapM (m.bindColumns FieldKind.prepare)
  t.need m
  rows.foldlM (insertRow m) t

def updateAll (m : Model) (t : Tables) (changes : List (Uuid × Fields)) : Outcome Tables := do
  let changes ← changes.mapM fun c =>
    (m.bindColumns FieldKind.prepare c.2).map fun values => (c.1, values)
  t.need m
  changes.foldlM (updateRow m) t

def delete (t : Tables) (m : Model) (id : Uuid) : Outcome Tables := do
  t.need m
  .ok (t.withRows m ((t.rows m).filter fun r => r.id != id))

end Tables
end Store
end Venues
