import Venues.Page.Result
import Venues.Selection
import Venues.Store.Reading
import Venues.Surface.Request

/-! # Listings

A listing answers a request on a relational surface with one page of rows. In offset mode the number
of all rows decides whether another page follows; in cursor mode one row more than the page holds is
read, and the last row of the page is the cursor of the next one.
-/

namespace Venues

open Store (Model Row Tables Reading)

/-! ## Rows -/

def facilityColumns : List String :=
  ["id", "owner_id", "name", "slug", "description", "phone", "address", "ward", "city", "latitude",
   "longitude", "is_published", "rating", "created_at", "updated_at"]

def courtColumns : List String :=
  ["id", "facility_id", "name", "sport", "surface", "indoor", "is_active", "price_per_hour",
   "created_at", "updated_at"]

def listed (columns : List String) (values : Fields) : Fields :=
  columns.map fun c => (c, values.get c)

/-- The written form of a court in a listing. Its price must be a whole number. -/
def Court.listing (c : Court) : Outcome Value :=
  let price : Checked (Option Int) := Schema.nullable (Schema.plain readWhole) c.price
  match price.inField "price_per_hour" with
  | .error found => .error (.schema found)
  | .ok price? =>
    let values := Fields.put c.values "price_per_hour" (.ofOption (price?.map .int))
    .ok (Value.compact (listed courtColumns values)).written

/-- The written form of a facility in a listing, with its courts if they are asked for. Deleted
courts are not shown. -/
def Facility.listing (f : Facility) (courts? : Option (List Court)) : Outcome Value := do
  let courts ← match courts? with
    | some courts => ((courts.filter Court.isLive).mapM Court.listing).map .list
    | none => .ok .null
  .ok (Value.compact (listed facilityColumns f.values ++ [("courts", courts)])).written

/-- The written form of a row in a listing. -/
def Store.Row.listing (t : Tables) (withRelations : Bool) : Row → Outcome Value
  | .facility f => f.listing (if withRelations then some (t.courtsOf f) else none)
  | .court c => c.listing

/-! ## Pages -/

/-- The reading of a selection. In cursor mode it asks for one row more than the page holds. -/
def Selection.reading (s : Selection) (isCursor : Bool) : Reading where
  filter := some s.filter
  order := s.order
  skip := s.portion.skip
  take := some (if isCursor then s.portion.take + 1 else s.portion.take)
  anchor := s.portion.anchor.map fun a => .text a.2
  relations := s.relations

/-- A page of rows with its metadata. -/
structure RowPage where
  rows : List Row
  total : Int
  details : PageMeta

/-- A listing: the rows of a model, with the contract of a surface. -/
structure Listing where
  surface : Surface
  model : Model

namespace Listing

def facilities : Listing := ⟨.facilityListing, .facility⟩

def courts : Listing := ⟨.courtListing, .court⟩

/-- The page of rows that a query asks for. -/
def pageOf (l : Listing) (t : Tables) (q : Query) : Outcome RowPage := do
  let s ← l.surface.select q
  let total ← t.count l.model (some s.filter)
  let rows ← t.findMany l.model (s.reading q.page.isCursor)
  if q.page.isCursor then
    let shown := rows.take s.portion.take.toNat
    let items := shown.map fun r => Value.object r.values
    let details ← PageMeta.atKey q.page.cursor? q.limit items
      (decide (s.portion.take < rows.length)) l.surface.idField
    .ok ⟨shown, total, details⟩
  else
    .ok ⟨rows, total, PageMeta.atOffset s.portion.skip q.limit rows.length total none⟩

def page (l : Listing) (t : Tables) (request : Value) : Outcome ResultPage := do
  let q ← l.surface.normalize request
  let p ← l.pageOf t q
  let rows ← p.rows.mapM (Row.listing t q.withRelations)
  .ok { rows := rows, total := p.total, details := p.details }

end Listing

/-! ## Walks -/

/-- A request for the page at a cursor; null means the first page. -/
def atCursor (request : Value) (cursor? : Option String) : Value :=
  .object (Fields.put request.fields "cursor" (.ofText? cursor?))

/-- Follows the cursors from page to page, for at most `fuel` pages. -/
def walk {μ : Type → Type} {α : Type} [Monad μ] (page : Option String → μ (α × Option String)) :
    Nat → Option String → μ (List α)
  | 0, _ => pure []
  | fuel + 1, cursor? => do
    let (items, next?) ← page cursor?
    match next? with
    | none => pure [items]
    | some next => return items :: (← walk page fuel (some next))

/-- The identities on the pages of a listing, from the first page on, for at most `fuel` pages. -/
def Listing.walk (l : Listing) (t : Tables) (request : Value) (fuel : Nat) :
    Outcome (List (List Uuid)) :=
  let page (cursor? : Option String) : Outcome (List Uuid × Option String) := do
    let q ← l.surface.normalize (atCursor request cursor?)
    let p ← l.pageOf t q
    .ok (p.rows.map Row.id, p.details.nextCursor)
  Venues.walk page fuel none

end Venues
