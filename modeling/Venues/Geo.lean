import Venues.Geo.Distance

/-! # Great circles and areas

`haversine` is the length of the great-circle arc between two points, in meters, on a sphere of mean
earth radius. An `Area` is the disc of all points within a radius of its center.
-/

namespace Venues

/-! ## Points -/

/-- A point by latitude and longitude, in degrees. -/
structure Point where
  lat : Float
  lon : Float

def earthRadius : Float := 6371008.7714

def radians (degrees : Float) : Float := degrees * (3.141592653589793 / 180.0)

/-- The square of half the chord between two points on the unit sphere. -/
def halfChordSquared (a b : Point) : Float :=
  let latA := radians a.lat
  let latB := radians b.lat
  let sinLat := Float.sin ((latB - latA) / 2)
  let sinLon := Float.sin ((radians b.lon - radians a.lon) / 2)
  Float.pow sinLat 2 + Float.cos latA * Float.cos latB * Float.pow sinLon 2

def haversine (a b : Point) : Float :=
  let chord := Float.sqrt (halfChordSquared a b)
  let chord := if chord < 1 then chord else 1
  earthRadius * (2 * Float.asin chord)

/-- Whether the distance between two points can be computed: sines and cosines are taken of finite
angles only, and square roots of what is not negative. -/
def hasDistance (a b : Point) : Bool :=
  let infinite (x : Float) := Magnitude.ofFloat x == .lowest || Magnitude.ofFloat x == .highest
  !(infinite a.lat || infinite b.lat || infinite (radians b.lon - radians a.lon)
    || halfChordSquared a b < 0)

/-- The great-circle distance between two points, where it can be computed. -/
def distance? (a b : Point) : Outcome Float :=
  if hasDistance a b then .ok (haversine a b) else .error (.misuse .infiniteAngle)

/-! ## Areas -/

/-- A disc on the globe; the radius is kept as it was written, in normal form. -/
structure Area where
  center : Point
  radius : String

namespace Area

def radiusMeters (a : Area) : Except Misuse Float := Distance.parseMeters a.radius

/-- The normal form of a written radius: no blanks at its ends, lower case, no spaces inside. -/
def normalRadius (s : String) : String :=
  String.ofList ((Text.lower (Text.strip s).toList).filter (· != ' '))

end Area
end Venues
