import Venues.FieldKind
import Venues.Query

/-! # The schema of queries

A query can be written down in full: every part of it is checked, none is filled in from a surface.
All violations are reported, part after part. The parts with alternatives, pages and conditions, say
by a tag which one they are.
-/

namespace Venues.Schema

open Checked

/-! ## Records -/

def optional {α : Type} (fs : Fields) (name : String) (missing : α) (read : Value → Checked α) :
    Checked α :=
  match fs.get? name with
  | some v => (read v).inField name
  | none => .ok missing

def required {α : Type} (fs : Fields) (name : String) (read : Value → Checked α) : Checked α :=
  match fs.get? name with
  | some v => (read v).inField name
  | none => (fault .missing).inField name

def noExtras (known : List String) (fs : Fields) : Checked Unit :=
  match fs.filter fun f => !known.contains f.1 with
  | [] => .ok ()
  | extras => .error (extras.map fun f => ⟨[f.1], .extra⟩)

def nullable {α : Type} (read : Value → Checked α) : Value → Checked (Option α)
  | .null => .ok none
  | v => (read v).map some

def plain {α : Type} (read : Value → Except Issue α) (v : Value) : Checked α :=
  match read v with
  | .ok a => .ok a
  | .error issue => fault issue

/-- Reads a whole number with optional bounds. -/
def wholeBetween (least? most? : Option Int) (v : Value) : Checked Int :=
  match readWhole v with
  | .error issue => fault issue
  | .ok n =>
    match most?, least? with
    | some most, some least =>
      if most < n then fault (.above (toString most))
      else if n < least then fault (.below (toString least)) else .ok n
    | some most, none => if most < n then fault (.above (toString most)) else .ok n
    | none, some least => if n < least then fault (.below (toString least)) else .ok n
    | none, none => .ok n

/-! ## Areas -/

/-- Reads a coordinate of at most `bound` degrees in size. -/
def coordinate (bound : Nat) (v : Value) : Checked Float :=
  match readReal v with
  | .error issue => fault issue
  | .ok x =>
    let size := Magnitude.ofFloat x
    let most := Magnitude.ofInt bound
    let least := Magnitude.ofInt (-bound)
    if !(size.lt most || size.same most) then fault (.above (toString bound))
    else if size.lt least then fault (.below ("-" ++ toString bound))
    else .ok x

def defaultRadius : String := "50km"

/-- Reads a radius: a written distance above zero, or a number of meters. -/
def radius (v : Value) : Checked String :=
  let text? : Option String :=
    match v with
    | .text s => some s
    | .int _ | .float _ => some (v.display ++ "m")
    | _ => none
  match text? with
  | none => fault (.refused "radius must be a distance string such as '10km'")
  | some s =>
    match Distance.parseMeters s with
    | .error misuse => fault (.refused misuse.message)
    | .ok meters =>
      if meters ≤ 0 then fault (.refused "radius must be greater than zero")
      else .ok (Area.normalRadius s)

/-- Reads an area. -/
def area : Value → Checked Area
  | .object fs => do
    let (lat, lon, radius, _) ←
      both (required fs "lat" (coordinate 90))
        (both (required fs "lon" (coordinate 180))
          (both (optional fs "radius" defaultRadius radius)
            (noExtras ["lat", "lon", "radius"] fs)))
    .ok ⟨⟨lat, lon⟩, radius⟩
  | _ => fault .notRecord

/-! ## Sorting -/

def word {α : Type} (ofText? : String → Option α) (allowed : List String) : Value → Checked α
  | .text s => ((ofText? s).map .ok).getD (fault (.notAmong allowed))
  | _ => fault (.notAmong allowed)

/-- Reads a sort key and its direction. -/
def sorting : Value → Checked Sorting
  | .object fs => do
    let (key, direction, _) ←
      both (required fs "field" (word SortKey.ofText? (SortKey.all.map SortKey.text)))
        (both (required fs "direction" (word Direction.ofText? ["asc", "desc"]))
          (noExtras ["field", "direction"] fs))
    .ok ⟨key, direction⟩
  | _ => fault .notRecord

/-! ## Pages -/

/-- Checks the tag of a page, which may be left out where only one kind of page can stand. -/
def pageTag (tag : String) (fs : Fields) : Checked Unit :=
  optional fs "mode" () (word (fun s => if s = tag then some () else none) [tag])

def limit (fs : Fields) : Checked Int := required fs "limit" (wholeBetween minLimit maxLimit)

/-- Reads an offset page. -/
def offsetPage (fs : Fields) : Checked Page := do
  let (_, number, limit, start?, _) ←
    both (pageTag "offset" fs)
      (both (optional fs "page" 1 (wholeBetween (some 1) none))
        (both (limit fs)
          (both (optional fs "offset" none (nullable (wholeBetween (some 0) none)))
            (noExtras ["mode", "page", "limit", "offset"] fs))))
  .ok (.offset number limit start?)

/-- Reads a cursor page. -/
def cursorPage (fs : Fields) : Checked Page := do
  let (_, cursor?, limit, _) ←
    both (pageTag "cursor" fs)
      (both (optional fs "cursor" none (nullable (plain readText)))
        (both (limit fs) (noExtras ["mode", "cursor", "limit"] fs)))
  .ok (.cursor cursor? limit)

/-- Reads a page of either kind. -/
def page : Value → Checked Page
  | .object fs =>
    match Fields.get? fs "mode" with
    | none => fault .noTag
    | some (.text "offset") => (offsetPage fs).inField "offset"
    | some (.text "cursor") => (cursorPage fs).inField "cursor"
    | some _ => fault .unknownTag
  | _ => fault .notAttributes

/-! ## Conditions -/

def anyList : Value → Checked (List Value)
  | .list items => .ok items
  | _ => fault .notTuple

/-- Reads the condition that a value equals a given one. -/
def equalsCondition (fs : Fields) : Checked Condition := do
  let (value, _) ← both (required fs "value" .ok) (noExtras ["op", "value"] fs)
  .ok (.equals value)

/-- Reads the condition that a value lies in a range. -/
def rangeCondition (fs : Fields) : Checked Condition := do
  let (least, most, _) ←
    both (optional fs "gte" .null .ok)
      (both (optional fs "lte" .null .ok) (noExtras ["op", "gte", "lte"] fs))
  .ok (.range least most)

/-- Reads the condition that a value is one of several. -/
def oneOfCondition (fs : Fields) : Checked Condition := do
  let (values, _) ← both (required fs "values" anyList) (noExtras ["op", "values"] fs)
  .ok (.oneOf values)

/-- Reads the condition that a value holds a text. -/
def containsCondition (fs : Fields) : Checked Condition := do
  let (needle, _) ← both (required fs "value" (plain readText)) (noExtras ["op", "value"] fs)
  .ok (.contains needle)

/-- Reads a condition of any kind. -/
def condition : Value → Checked Condition
  | .object fs =>
    match Fields.get? fs "op" with
    | none => fault .noTag
    | some (.text "eq") => (equalsCondition fs).inField "eq"
    | some (.text "range") => (rangeCondition fs).inField "range"
    | some (.text "in") => (oneOfCondition fs).inField "in"
    | some (.text "contains") => (containsCondition fs).inField "contains"
    | some _ => fault .unknownTag
  | _ => fault .notAttributes

def conditionList : Fields → Checked Conditions
  | [] => .ok []
  | (name, v) :: rest =>
    (both ((condition v).inField name) (conditionList rest)).map fun r => (name, r.1) :: r.2

def conditions : Value → Checked Conditions
  | .object fs => conditionList fs
  | _ => fault .notObject

/-! ## Queries -/

def parts : List String := ["term", "field_filters", "geo", "sort", "page", "include_relations"]

/-- Reads a query that is written down in full. -/
def query : Value → Checked Query
  | .object fs => do
    let (term, conditions, area, sorting, page, withRelations, _) ←
      both (optional fs "term" none (nullable (plain readText)))
        (both (optional fs "field_filters" [] conditions)
          (both (optional fs "geo" none (nullable area))
            (both (required fs "sort" sorting)
              (both (required fs "page" page)
                (both (optional fs "include_relations" false (plain readTruth))
                  (noExtras parts fs))))))
    .ok ⟨term, conditions, area, sorting, page, withRelations⟩
  | _ => fault .notRecord

end Venues.Schema
