import Venues.FieldKind
import Venues.Query

/-! # Surfaces

A surface is the closed contract of one listing: which fields a filter may name, of which kind their
values are and where they are found, what the listing can be sorted by, and its defaults. Whatever a
surface does not register is refused.
-/

namespace Venues

/-- Where the rows of a listing come from. -/
inductive Backend where
  | index
  | relational
  deriving DecidableEq

def Backend.text : Backend → String
  | .index => "index"
  | .relational => "relational"

/-- Where a filter field is found, and the kind of its values. A field of related rows names the
relation first. -/
structure FieldDef where
  relation : Option String := none
  column : String
  kind : FieldKind := .text

def FieldDef.path (d : FieldDef) : String :=
  match d.relation with
  | some r => r ++ "." ++ d.column
  | none => d.column

/-- The contract of one listing. -/
structure Surface where
  name : String
  backend : Backend
  defaultLimit : Int
  defaultSort : Sorting
  /-- The column of each sort key. -/
  sortColumns : List (SortKey × String)
  /-- The fields that a filter may name. -/
  fields : List (String × FieldDef)
  /-- The fields in which a term is looked up. -/
  searchFields : List String
  relations : List String := []
  idField : String := "id"
  /-- Values that every row listed must have. -/
  baseValues : Fields := []

namespace Surface

def field? (s : Surface) (name : String) : Option FieldDef := s.fields.lookup name

def sortColumn? (s : Surface) (key : SortKey) : Option String := s.sortColumns.lookup key

/-- The sort keys of a surface, in the order in which they are offered. -/
def sortKeys (s : Surface) : List SortKey :=
  SortKey.all.filter fun key => (s.sortColumn? key).isSome

/-- The names of the filter fields in alphabetical order. -/
def fieldNames (s : Surface) : List String := (s.fields.map (·.1)).mergeSort fun a b => decide (a ≤ b)

/-! ## The three listings -/

/-- Facility search in the index. -/
def facilitySearch : Surface where
  name := "facility_search"
  backend := .index
  defaultLimit := 20
  defaultSort := ⟨.relevance, .desc⟩
  sortColumns := [
    (.relevance, "_score"),
    (.distance, "_geo_distance"),
    (.createdAt, "createdAt"),
    (.name, "name.keyword"),
    (.price, "priceFrom"),
    (.rating, "rating")]
  fields := [
    ("city", { column := "city" }),
    ("ward", { column := "ward" }),
    ("ownerId", { column := "ownerId", kind := .uuid }),
    ("isPublished", { column := "isPublished", kind := .truth }),
    ("createdAt", { column := "createdAt", kind := .time }),
    ("priceFrom", { column := "priceFrom", kind := .whole }),
    ("rating", { column := "rating", kind := .real }),
    ("courts.sport", { relation := some "courts", column := "sport" }),
    ("courts.indoor", { relation := some "courts", column := "indoor", kind := .truth }),
    ("courts.surface", { relation := some "courts", column := "surface" })]
  searchFields := ["name^3", "address^1", "description^0.5"]

/-- The listing of facilities in the store. -/
def facilityListing : Surface where
  name := "facility_listing"
  backend := .relational
  defaultLimit := 10
  defaultSort := ⟨.createdAt, .desc⟩
  sortColumns := [(.createdAt, "created_at"), (.name, "name"), (.rating, "rating")]
  fields := [
    ("name", { column := "name" }),
    ("slug", { column := "slug" }),
    ("city", { column := "city" }),
    ("ward", { column := "ward" }),
    ("ownerId", { column := "owner_id", kind := .uuid }),
    ("isPublished", { column := "is_published", kind := .truth }),
    ("createdAt", { column := "created_at", kind := .time }),
    ("rating", { column := "rating", kind := .real }),
    ("courts.sport", { relation := some "courts", column := "sport" }),
    ("courts.indoor", { relation := some "courts", column := "indoor", kind := .truth }),
    ("courts.isActive", { relation := some "courts", column := "is_active", kind := .truth })]
  searchFields := ["name", "description", "address"]
  relations := ["courts"]
  baseValues := [("deleted_at", .null)]

/-- The listing of courts in the store. -/
def courtListing : Surface where
  name := "court_listing"
  backend := .relational
  defaultLimit := 10
  defaultSort := ⟨.createdAt, .desc⟩
  sortColumns := [(.createdAt, "created_at"), (.name, "name"), (.price, "price_per_hour")]
  fields := [
    ("facilityId", { column := "facility_id", kind := .uuid }),
    ("name", { column := "name" }),
    ("sport", { column := "sport" }),
    ("surface", { column := "surface" }),
    ("indoor", { column := "indoor", kind := .truth }),
    ("isActive", { column := "is_active", kind := .truth }),
    ("price", { column := "price_per_hour", kind := .whole }),
    ("createdAt", { column := "created_at", kind := .time })]
  searchFields := ["name"]
  baseValues := [("deleted_at", .null)]

def all : List Surface := [facilitySearch, facilityListing, courtListing]

def ofName? (name : String) : Option Surface := all.find? fun s => s.name == name

end Surface
end Venues
