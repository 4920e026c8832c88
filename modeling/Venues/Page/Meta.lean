import Venues.Page.Cursor

/-! # Page metadata

With every page goes a note on where it lies and whether another one follows. Exactly when another
one follows there is a cursor for it.
-/

namespace Venues

/-- Where a page lies, and the cursor of the page behind it. -/
structure PageMeta where
  limit : Int
  offset : Option Int := none
  cursor : Option String := none
  hasMore : Bool
  nextCursor : Option String := none

namespace PageMeta

/-- The note on a page that starts at a position and holds `count` of `total` rows. With a window, a
next page that would end past it is out of reach and counts as not there. -/
def atOffset (offset limit count total : Int) (window? : Option Int) : PageMeta :=
  let reachable := match window? with
    | some window => decide (offset + count + limit ≤ window)
    | none => true
  let hasMore := decide (offset + count < total) && reachable
  { limit := limit, offset := some offset, hasMore := hasMore,
    nextCursor := if hasMore then some (Cursor.ofOffset (offset + count)) else none }

/-- The same note on a page that was addressed by a cursor. -/
def atCursor (cursor : Option String) (offset limit count total : Int) (window? : Option Int) :
    PageMeta :=
  { atOffset offset limit count total window? with offset := none, cursor := cursor }

/-- The note on a page of rows read behind a keyset cursor; the last row's identity is the cursor of
the page behind it, if there is one. -/
def atKey (cursor : Option String) (limit : Int) (items : List Value) (hasMore : Bool)
    (idField : String) : Outcome PageMeta :=
  match hasMore, items.getLast? with
  | true, some last => do
    let next ← Cursor.ofItem last idField
    .ok { limit := limit, cursor := cursor, hasMore := true, nextCursor := some next }
  | _, _ => .ok { limit := limit, cursor := cursor, hasMore := false }

def toValue (m : PageMeta) : Value :=
  .object [("limit", .int m.limit), ("offset", .ofOption (m.offset.map .int)),
    ("cursor", .ofText? m.cursor), ("has_more", .bool m.hasMore),
    ("next_cursor", .ofText? m.nextCursor)]

end PageMeta
end Venues
