import Venues.Predicate.Build
import Venues.Surface.Conditions

/-! # Candidates for the index

A full reindex loads the facilities that are not deleted and, unless it is told otherwise, published.
A filter on publication takes the place of that rule.
-/

namespace Venues.Reindex

/-- The facilities that a reindex loads. -/
def candidates (filters : Value) (includeUnpublished : Bool) : Outcome Predicate := do
  let surface := Surface.facilityListing
  let conditions ← surface.readFilters filters
  let chosen ← Predicate.ofConditions surface conditions
  let published : Option Predicate :=
    if includeUnpublished || conditions.has "isPublished" then none
    else some (.equals "is_published" (.bool true))
  .ok (Predicate.merge [some (Predicate.base surface), some chosen, published])

end Venues.Reindex
