import Venues.Facility
import Venues.Fault
import Venues.FieldKind
import Venues.Store.Cell

/-! # Models

There are two models of rows, facilities and courts. A model says which columns its rows have, of
which kind they are, and to which rows of the other model they are related: a facility to all of its
courts, and a court to the facility it belongs to.
-/

namespace Venues.Store

/-! ## Models -/

/-- The models of rows. -/
inductive Model where
  | facility
  | court
  deriving DecidableEq

namespace Model

def name : Model → String
  | .facility => "Facility"
  | .court => "Court"

def table : Model → String
  | .facility => "facilities"
  | .court => "courts"

/-- The columns of a model with the kinds of their values. -/
def columns : Model → List (String × FieldKind)
  | .facility => [("id", .uuid), ("owner_id", .uuid), ("name", .text), ("slug", .text),
      ("description", .text), ("phone", .text), ("address", .text), ("ward", .text),
      ("city", .text), ("latitude", .real), ("longitude", .real), ("is_published", .truth),
      ("rating", .real), ("created_at", .time), ("updated_at", .time), ("deleted_at", .time)]
  | .court => [("id", .uuid), ("facility_id", .uuid), ("name", .text), ("sport", .text),
      ("surface", .text), ("indoor", .truth), ("is_active", .truth), ("price_per_hour", .whole),
      ("created_at", .time), ("updated_at", .time), ("deleted_at", .time)]

def column? (m : Model) (column : String) : Option FieldKind := m.columns.lookup column

def relation? : Model → String → Option Model
  | .facility, "courts" => some .court
  | .court, "facility" => some .facility
  | _, _ => none

/-- The model to which a relation of some model leads. -/
def ofRelation? (relation : String) : Option Model :=
  [facility, court].findSome? fun m => m.relation? relation

end Model

/-! ## Rows -/

/-- A row of one of the models. -/
inductive Row where
  | facility (f : Facility)
  | court (c : Court)

namespace Row

def model : Row → Model
  | .facility _ => .facility
  | .court _ => .court

def values : Row → Fields
  | .facility f => f.values
  | .court c => c.values

def id : Row → Uuid
  | .facility f => f.id
  | .court c => c.id

def cell (r : Row) (column : String) : Cell := Cell.ofValue (r.values.get column)

end Row

/-! ## Tables -/

/-- The rows of both models, in the order in which they were inserted. A table may be lost. -/
structure Tables where
  facilities : List Facility := []
  courts : List Court := []
  lost : List Model := []

namespace Tables

def rows (t : Tables) : Model → List Row
  | .facility => t.facilities.map .facility
  | .court => t.courts.map .court

def owns (f : Facility) (c : Court) : Bool := c.facilityId == some f.id

def related (t : Tables) (r : Row) (relation : String) : List Row :=
  match r, relation with
  | .facility f, "courts" => (t.courts.filter (owns f)).map .court
  | .court c, "facility" => (t.facilities.filter fun f => owns f c).map .facility
  | _, _ => []

def facilityOf? (t : Tables) (c : Court) : Option Facility := t.facilities.find? fun f => owns f c

/-- Stops if the table of a model is lost. -/
def need (t : Tables) (m : Model) : Outcome Unit :=
  if t.lost.contains m then .error (.noTable m.table) else .ok ()

def find? (t : Tables) (m : Model) (id : Uuid) : Option Row := (t.rows m).find? fun r => r.id == id

end Tables
end Venues.Store
