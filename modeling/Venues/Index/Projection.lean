import Venues.Facility
import Venues.Index.Document
import Venues.Value.Order

/-! # Projection

The document of a facility is computed from its row and its courts alone, so that projecting the same
rows twice gives the same document. A facility without a name or without coordinates has none.
-/

namespace Venues

/-! ## Coordinates -/

/-- Whether a facility has coordinates on the globe. -/
def Facility.hasValidCoordinates (f : Facility) : Bool :=
  let between (bound : Int) (x : Float) : Bool :=
    let size := Magnitude.ofFloat x
    let reaches (a b : Magnitude) : Bool := a.lt b || a.same b
    reaches (.ofInt (-bound)) size && reaches size (.ofInt bound)
  match f.latitude, f.longitude with
  | some lat, some lon => between 90 lat && between 180 lon
  | _, _ => false

/-! ## Courts -/

/-- Whether a court is shown in the index: it is active and not deleted. -/
def Court.isActiveNow (c : Court) : Bool := c.isActive.getD false && c.isLive

/-- The moment by which courts are sorted; courts without one count from the first of all days. -/
def Court.age (c : Court) : Int := (c.createdAt.map Timestamp.instant).getD 0

/-- Whether a court stands before another or level with it: by creation, then by identity. -/
def Court.le (a b : Court) : Bool :=
  decide (a.age < b.age) || (a.age == b.age && !b.id.lt a.id)

def activeCourts (courts : List Court) : List Court :=
  (courts.filter Court.isActiveNow).mergeSort Court.le

/-- The lower of two prices, which must be comparable; the first of equal ones. -/
def lowerPrice (a b : Value) : Outcome Value :=
  match b.lt? a with
  | some isLower => .ok (if isLower then b else a)
  | none => .error .incomparable

/-- The lowest of some prices, null if there are none. -/
def lowestPrice (prices : List Value) : Outcome Value :=
  match prices.filter fun p => !p.isNull with
  | [] => .ok .null
  | p :: ps => ps.foldlM lowerPrice p

/-- The summary of a court. -/
def Court.summary (c : Court) : Outcome CourtSummary :=
  match c.name, c.sport with
  | some name, some sport =>
    .ok ⟨c.id.text, name, sport, c.surface, c.indoor.getD false, c.isActive.getD false⟩
  | name?, sport? =>
    .error (.schema ((if name?.isNone then [⟨["name"], .notText⟩] else [])
      ++ if sport?.isNone then [⟨["sport"], .notText⟩] else []))

/-! ## Documents -/

/-- The text of a moment in the index: universal time, so that texts sort like moments. -/
def momentText (t : Timestamp) : Outcome String :=
  match t.toUtc? with
  | some utc => .ok utc.isoText
  | none => .error .overflow

/-- The text of a moment that may be missing. -/
def momentText? (t? : Option Timestamp) : Outcome (Option String) :=
  match t? with
  | some t => (momentText t).map some
  | none => .ok none

/-- Whether a name is worth the name: it is there and not blank. -/
def hasName (name? : Option String) : Bool :=
  match name? with
  | some name => !Text.isBlankText name
  | none => false

def requiredText (name : String) : Option String → Checked String
  | some s => .ok s
  | none => (Checked.fault .notText).inField name

/-- A price that a document takes: a whole number, or nothing for null. -/
def wholePrice (price : Value) : Checked (Option Int) :=
  Schema.nullable (Schema.plain readWhole) price

/-- The document of a facility and its courts. -/
def project (f : Facility) (courts : List Court) : Outcome Document :=
  if !hasName f.name then .error (.projection (.noName f.id))
  else
    match f.latitude, f.longitude with
    | some lat, some lon => do
      let active := activeCourts courts
      let price ← lowestPrice (active.map Court.price)
      let summaries ← active.mapM Court.summary
      let createdAt? ← momentText? f.createdAt
      let updatedAt? ← momentText? (f.updatedAt <|> f.createdAt)
      let parts :=
        Checked.both (requiredText "slug" f.slug)
          (Checked.both ((wholePrice price).inField "price_from")
            (Checked.both (requiredText "created_at" createdAt?)
              (requiredText "updated_at" updatedAt?)))
      match parts with
      | .error found => .error (.schema found)
      | .ok (slug, priceFrom, createdAt, updatedAt) =>
        .ok { id := f.id.text, name := f.name.getD "", slug := slug, address := f.address.getD "",
              ward := f.ward, city := f.city, description := f.description, location := ⟨lat, lon⟩,
              isPublished := f.isPublished.getD false,
              ownerId := (f.ownerId.map Uuid.text).getD "None", priceFrom := priceFrom,
              rating := f.rating, courts := summaries, createdAt := createdAt, updatedAt := updatedAt }
    | _, _ => .error (.projection (.noCoordinates f.id))

end Venues
