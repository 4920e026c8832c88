import Venues.Predicate.Build
import Venues.Page.Cursor

/-! # Selections

A selection is what the store is asked for: which rows, in which order, how many to skip and to take,
and the row behind which to start. The order always ends with the identity column, so that no two
rows tie.
-/

namespace Venues

/-! ## Orders -/

/-- Sort columns with their directions, the most important one first. -/
abbrev RowOrder := List (String × Direction)

/-- The order of rows sorted by a column: rows that tie are sorted by identity. -/
def Surface.ordering (s : Surface) (sorting : Sorting) : Outcome RowOrder :=
  match s.sortColumn? sorting.key with
  | none => .error .missingKey
  | some column =>
    .ok <| (column, sorting.direction) ::
      if column = s.idField then [] else [(s.idField, sorting.direction)]

def defaultOrder : List (Value × Direction) := [(.text "createdAt", .desc)]

/-- Reads one sort item; an item that names no field is passed over. -/
def readOrderItem (item : Value) : Outcome (List (Value × Direction)) :=
  let field := item.fields.get "field"
  let direction := ((item.fields.get "direction").orElse (.text "asc")).display
  let name := String.ofList (Text.lower direction.toList)
  if !field.truthy then .ok []
  else
    match Direction.ofText? name with
    | some d => .ok [(field, d)]
    | none => refuse (.unsupportedDirection name)

/-- Reads a sort item or a list of them. -/
def readOrder (sort : Value) : Outcome (List (Value × Direction)) := do
  let items := match sort with
    | .null => []
    | .list items => items
    | item => [item]
  let pairs := (← items.mapM readOrderItem).flatten
  .ok (if pairs.isEmpty then defaultOrder else pairs)

/-! ## Portions -/

/-- How many rows to skip and to take, and the row from which to count. -/
structure Portion where
  skip : Int
  take : Int
  anchor : Option (String × String) := none

/-- The portion of a listing that a page is. A keyset cursor starts at its anchor, which is the row
to skip. -/
def Page.portion (idField : String) : Page → Portion
  | .offset number limit start? => { skip := startOf number limit start?, take := limit }
  | .cursor none limit => { skip := 0, take := limit }
  | .cursor (some c) limit => { skip := 1, take := limit, anchor := some (Cursor.toAnchor c idField) }

/-! ## Selections -/

/-- What the store is asked for. -/
structure Selection where
  filter : Predicate
  order : RowOrder
  portion : Portion
  relations : List String

def Surface.select (s : Surface) (q : Query) : Outcome Selection := do
  let filter ← Predicate.ofQuery s q
  let order ← s.ordering q.sorting
  .ok { filter := filter, order := order, portion := q.page.portion s.idField,
        relations := if q.withRelations then s.relations else [] }

/-- Refuses a surface whose rows are not kept in the store. -/
def Surface.requireRelational (s : Surface) : Outcome Unit :=
  if s.backend = .relational then .ok () else .error (.misuse (.notRelational s.name))

/-- Refuses a surface whose rows are not kept in the index. -/
def Surface.requireIndex (s : Surface) : Outcome Unit :=
  if s.backend = .index then .ok () else .error (.misuse (.notIndexed s.name))

end Venues
