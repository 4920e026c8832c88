import Venues.Value

/-! # Facilities and courts

A facility is a bookable venue, a court a place to play inside one. A row holds a value for each
column of its table; only the identity is always there. Deleted rows stay, with the time of their
deletion.
-/

namespace Venues

/-- A place to play inside a facility. -/
structure Court where
  id : Uuid
  facilityId : Option Uuid
  name : Option String
  sport : Option String
  surface : Option String
  indoor : Option Bool
  isActive : Option Bool
  /-- The price of an hour in minor units of currency. Its column takes texts and all numbers, so it
  need not be a whole number. -/
  price : Value
  createdAt : Option Timestamp
  updatedAt : Option Timestamp
  deletedAt : Option Timestamp
  deriving Inhabited

/-- A bookable venue. -/
structure Facility where
  id : Uuid
  ownerId : Option Uuid
  name : Option String
  slug : Option String
  description : Option String
  phone : Option String
  address : Option String
  ward : Option String
  city : Option String
  latitude : Option Float
  longitude : Option Float
  isPublished : Option Bool
  rating : Option Float
  createdAt : Option Timestamp
  updatedAt : Option Timestamp
  deletedAt : Option Timestamp
  deriving Inhabited

/-! ## Columns -/

namespace Court

/-- The values of a court by column. -/
def values (c : Court) : Fields := [
  ("id", .uuid c.id),
  ("facility_id", .ofOption (c.facilityId.map .uuid)),
  ("name", .ofText? c.name),
  ("sport", .ofText? c.sport),
  ("surface", .ofText? c.surface),
  ("indoor", .ofOption (c.indoor.map .bool)),
  ("is_active", .ofOption (c.isActive.map .bool)),
  ("price_per_hour", c.price),
  ("created_at", .ofOption (c.createdAt.map .time)),
  ("updated_at", .ofOption (c.updatedAt.map .time)),
  ("deleted_at", .ofOption (c.deletedAt.map .time))]

def isLive (c : Court) : Bool := c.deletedAt.isNone

end Court

namespace Facility

/-- The values of a facility by column. -/
def values (f : Facility) : Fields := [
  ("id", .uuid f.id),
  ("owner_id", .ofOption (f.ownerId.map .uuid)),
  ("name", .ofText? f.name),
  ("slug", .ofText? f.slug),
  ("description", .ofText? f.description),
  ("phone", .ofText? f.phone),
  ("address", .ofText? f.address),
  ("ward", .ofText? f.ward),
  ("city", .ofText? f.city),
  ("latitude", .ofOption (f.latitude.map .float)),
  ("longitude", .ofOption (f.longitude.map .float)),
  ("is_published", .ofOption (f.isPublished.map .bool)),
  ("rating", .ofOption (f.rating.map .float)),
  ("created_at", .ofOption (f.createdAt.map .time)),
  ("updated_at", .ofOption (f.updatedAt.map .time)),
  ("deleted_at", .ofOption (f.deletedAt.map .time))]

/-- Whether a facility is to be found in the index: it is published and not deleted. -/
def isIndexable (f : Facility) : Bool := f.isPublished.getD false && f.deletedAt.isNone

end Facility
end Venues
