import Venues.Geo
import Venues.Query.Schema
import Venues.Value.Written

/-! # Index documents

The index holds one document per facility, with a summary of each of its courts. `Document.source`
is the form in which a document is written, and `Schema.document` reads it back. Fields are written
in camel case; the plain names of the columns are read as well.
-/

namespace Venues

/-- A court as part of a document. -/
structure CourtSummary where
  id : String
  name : String
  sport : String
  surface : Option String
  indoor : Bool
  isActive : Bool

/-- A facility in the index. -/
structure Document where
  id : String
  name : String
  slug : String
  address : String
  ward : Option String
  city : Option String
  description : Option String
  location : Point
  isPublished : Bool
  ownerId : String
  /-- The lowest price of an hour on an active court. -/
  priceFrom : Option Int
  rating : Option Float
  courts : List CourtSummary
  createdAt : String
  updatedAt : String

/-! ## Writing -/

def CourtSummary.source (c : CourtSummary) : Value :=
  .object [("id", .text c.id), ("name", .text c.name), ("sport", .text c.sport),
    ("surface", .ofText? c.surface), ("indoor", .bool c.indoor), ("isActive", .bool c.isActive)]

def Point.source (p : Point) : Value := .object [("lat", .float p.lat), ("lon", .float p.lon)]

/-- The written form of a document. -/
def Document.source (d : Document) : Value :=
  .object [("id", .text d.id), ("name", .text d.name), ("slug", .text d.slug),
    ("address", .text d.address), ("ward", .ofText? d.ward), ("city", .ofText? d.city),
    ("description", .ofText? d.description), ("location", d.location.source),
    ("isPublished", .bool d.isPublished), ("ownerId", .text d.ownerId),
    ("priceFrom", .ofOption (d.priceFrom.map .int)), ("rating", .ofOption (d.rating.map .float)),
    ("courts", .list (d.courts.map CourtSummary.source)), ("createdAt", .text d.createdAt),
    ("updatedAt", .text d.updatedAt)]

/-- The written form of a court summary without its absent parts. -/
def CourtSummary.written (c : CourtSummary) : Value := .compact c.source.fields

/-- The written form of a document without its absent parts. -/
def Document.written (d : Document) : Value :=
  .compact (Fields.put d.source.fields "courts" (.list (d.courts.map CourtSummary.written)))

/-! ## Reading -/

namespace Schema

open Checked

/-- Reads a field that has a plain name beside its written one. -/
def aliased {α : Type} (fs : Fields) (name plain : String) (missing? : Option α)
    (read : Value → Checked α) : Checked α :=
  match fs.get? name, fs.get? plain, missing? with
  | some v, _, _ => (read v).inField name
  | none, some v, _ => (read v).inField plain
  | none, none, some a => .ok a
  | none, none, none => (fault .missing).inField name

def textField (fs : Fields) (name plain : String) : Checked String :=
  aliased fs name plain none (Schema.plain readText)

/-- Reads a text field of a document that may be null or missing. -/
def textField? (fs : Fields) (name : String) : Checked (Option String) :=
  optional fs name none (nullable (plain readText))

/-- Reads a court summary. -/
def courtSummary : Value → Checked CourtSummary
  | .object fs => do
    let (id, name, sport, surface, indoor, isActive) ←
      both (textField fs "id" "id")
        (both (textField fs "name" "name")
          (both (textField fs "sport" "sport")
            (both (textField? fs "surface")
              (both (optional fs "indoor" false (plain readTruth))
                (aliased fs "isActive" "is_active" (some true) (plain readTruth))))))
    .ok ⟨id, name, sport, surface, indoor, isActive⟩
  | _ => fault .notRecord

def point : Value → Checked Point
  | .object fs => do
    let (lat, lon) ← both (required fs "lat" (plain readReal)) (required fs "lon" (plain readReal))
    .ok ⟨lat, lon⟩
  | _ => fault .notRecord

def courtList : Value → Checked (List CourtSummary)
  | .list vs => items courtSummary 0 vs
  | _ => fault .notList

/-- Reads a document. -/
def document : Value → Checked Document
  | .object fs => do
    let (id, name, slug, address, ward, city, description, location, isPublished, ownerId, priceFrom,
        rating, courts, createdAt, updatedAt) ←
      both (textField fs "id" "id")
        (both (textField fs "name" "name")
          (both (textField fs "slug" "slug")
            (both (optional fs "address" "" (plain readText))
              (both (textField? fs "ward")
                (both (textField? fs "city")
                  (both (textField? fs "description")
                    (both (required fs "location" point)
                      (both (aliased fs "isPublished" "is_published" none (plain readTruth))
                        (both (textField fs "ownerId" "owner_id")
                          (both (aliased fs "priceFrom" "price_from" (some none)
                              (nullable (wholeBetween none none)))
                            (both (optional fs "rating" none (nullable (plain readReal)))
                              (both (optional fs "courts" [] courtList)
                                (both (textField fs "createdAt" "created_at")
                                  (textField fs "updatedAt" "updated_at"))))))))))))))
    .ok ⟨id, name, slug, address, ward, city, description, location, isPublished, ownerId, priceFrom,
      rating, courts, createdAt, updatedAt⟩
  | _ => fault .notRecord

end Schema
end Venues
