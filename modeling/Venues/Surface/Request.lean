import Venues.Query.Schema
import Venues.Surface.Conditions
import Venues.Value.Whole

/-! # Requests

A request is an object of optional parts, some with two names. `Surface.normalize` turns it into a
query: it fills in the defaults of the surface and refuses whatever the surface does not offer,
before any backend is asked. A limit out of range is refused, never cut. `Surface.accept` checks a
finished query against a surface.
-/

namespace Venues.Surface

/-! ## Finished queries -/

/-- Sorting by distance needs a point to measure from. -/
def checkDistance (q : Query) : Outcome Unit :=
  if q.sorting.key = .distance ∧ q.area.isNone then refuse .distanceWithoutGeo else .ok ()

/-- An offset page of the index must end inside the result window. -/
def checkWindow (q : Query) : Outcome Unit :=
  match q.page with
  | .offset number limit start? =>
    let start := Page.startOf number limit start?
    if resultWindow < start + limit then refuse (.pastWindow start limit resultWindow) else .ok ()
  | .cursor .. => .ok ()

/-- Checks a finished query against a surface. -/
def accept (s : Surface) (q : Query) : Outcome Query := do
  let _ ← s.readConditions q.conditions
  if (s.sortColumn? q.sorting.key).isNone then refuse (.unsupportedSort q.sorting.key.text none)
  if q.area.isSome ∧ s.backend ≠ .index then refuse (.geoUnavailable s.name)
  if s.backend = .index then checkWindow q
  checkDistance q
  .ok q

/-! ## Parts of a request -/

/-- The keys that a request may have, in alphabetical order. -/
def requestKeys : List String := [
  "cursor", "filters", "geo", "includeRelations", "include_relations", "keyword", "lat", "limit",
  "lon", "offset", "page", "radius", "sort", "sortBy", "sortDirection", "term"]

def checkKeys (raw : Fields) : Outcome Unit :=
  match (raw.map (·.1)).filter fun key => !requestKeys.contains key with
  | [] => .ok ()
  | unknown => refuse (.unknownKeys (unknown.mergeSort fun a b => decide (a ≤ b)) requestKeys)

/-- The whole number that a limit stands for at first sight; a truth value stands for none. -/
def limitOf (limit : Value) : Outcome (Option Int) :=
  match limit, limit.whole with
  | .bool _, _ => .ok none
  | _, .ok n => .ok (some n)
  | _, .error .overflow => .error .overflow
  | _, .error _ => .ok none

/-- Refuses a limit that is no number in range. -/
def checkLimit (limit : Value) : Outcome Unit :=
  if limit.isNull then .ok ()
  else
    match limitOf limit with
    | .error fault => .error fault
    | .ok none => refuse (.limitOutOfRange limit.quoted)
    | .ok (some n) =>
      if n < minLimit ∨ maxLimit < n then refuse (.limitOutOfRange limit.quoted) else .ok ()

/-- The term of a request: a text that is not blank. -/
def readTerm (raw : Fields) : Outcome (Option String) :=
  match (raw.get? "term").getD (raw.get "keyword") with
  | .null => .ok none
  | .text s => let t := Text.strip s; .ok (if t = "" then none else some t)
  | _ => refuse .termNotText

/-- The area of a request, given as an object or by its parts at the top. -/
def readArea (raw : Fields) : Outcome (Option Fields) :=
  match raw.get "geo" with
  | .null =>
    if raw.has "lat" || raw.has "lon" then
      let present (key : String) : Option (String × Value) :=
        if (raw.get key).isNull then none else some (key, raw.get key)
      .ok (some (["lat", "lon", "radius"].filterMap present))
    else .ok none
  | .object fs => .ok (some fs)
  | _ => refuse .geoNotObject

/-- The sort field and direction that a request names, null where it names none. -/
def rawSort (raw : Fields) : Outcome (Value × Value) :=
  match raw.get "sort" with
  | .null => .ok (raw.get "sortBy", raw.get "sortDirection")
  | .object fs => .ok (Fields.get fs "field", Fields.get fs "direction")
  | .text field => .ok (.text field, .null)
  | _ => refuse .sortNotObject

/-- The sort key named by a value, if the surface offers it. -/
def readSortKey (s : Surface) (field : Value) : Outcome SortKey :=
  let key? : Option SortKey :=
    match field with
    | .text name => SortKey.ofText? name
    | _ => none
  match field, key?.filter fun key => (s.sortColumn? key).isSome with
  | .list _, _ | .object _, _ => .error .incomparable
  | _, some key => .ok key
  | _, none => refuse (.unsupportedSort field.display (some (s.sortKeys.map SortKey.text)))

/-- The direction named by a value; upper and lower case are alike. -/
def readDirection : Value → Outcome Direction
  | .text name =>
    match Direction.ofText? (String.ofList (Text.lower name.toList)) with
    | some direction => .ok direction
    | none => refuse (.unsupportedDirection name)
  | v => refuse (.unsupportedDirection v.display)

/-- The sorting of a request. Without a direction, distances go up and everything else goes down. -/
def readSorting (s : Surface) (raw : Fields) : Outcome Sorting := do
  let (field, direction) ← rawSort raw
  let key ← if field.isNull then .ok s.defaultSort.key else s.readSortKey field
  let fallback : Direction :=
    if field.isNull then s.defaultSort.direction else if key = .distance then .asc else .desc
  let direction ← if direction.truthy then readDirection direction else .ok fallback
  .ok ⟨key, direction⟩

/-- The page of a request, still to be checked. A cursor, even a null one, makes it a cursor page. -/
def rawPage (s : Surface) (raw : Fields) : Fields :=
  let limit := if (raw.get "limit").isNull then .int s.defaultLimit else raw.get "limit"
  match raw.get? "cursor" with
  | some cursor =>
    let text := if cursor.isNull then "" else Text.strip cursor.display
    [("mode", .text "cursor"), ("cursor", if text = "" then .null else .text text), ("limit", limit)]
  | none =>
    let present (key : String) : Fields :=
      if (raw.get key).isNull then [] else [(key, raw.get key)]
    [("mode", .text "offset"), ("limit", limit)] ++ present "page" ++ present "offset"

def wantsRelations (raw : Fields) : Bool :=
  ((raw.get? "includeRelations").getD ((raw.get? "include_relations").getD (.bool false))).truthy

/-! ## Requests -/

/-- The fields of a request; null and every empty value are a request without fields. -/
def requestFields (raw : Value) : Outcome Fields :=
  match raw with
  | .object fs => .ok fs
  | v => if v.truthy then refuse .notObject else .ok []

/-- Reads the area and the page of a request, collecting the violations of both. -/
def readPlace (area? : Option Fields) (page : Fields) : Outcome (Option Area × Page) :=
  let area : Checked (Option Area) :=
    match area? with
    | none => .ok none
    | some fs => ((Schema.area (.object fs)).inField "geo").map some
  match Checked.both area ((Schema.page (.object page)).inField "page") with
  | .ok place => .ok place
  | .error found => refuse (.violations found)

/-- The query that a request stands for on a surface. -/
def normalize (s : Surface) (raw : Value) : Outcome Query := do
  let raw ← requestFields raw
  checkKeys raw
  checkLimit (raw.get "limit")
  let term ← readTerm raw
  let conditions ← s.readFilters (raw.get "filters")
  let area? ← readArea raw
  let sorting ← s.readSorting raw
  let (area, page) ← readPlace area? (s.rawPage raw)
  s.accept ⟨term, conditions, area, sorting, page, wantsRelations raw⟩

end Venues.Surface
