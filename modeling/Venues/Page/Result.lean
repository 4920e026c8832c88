import Venues.Page.Meta
import Venues.Query.Schema
import Venues.Value.Written

/-! # Result pages

A result page holds the rows of one page, the number of all rows, and the page's metadata. Written
out, absent parts are left out.
-/

namespace Venues

def PageMeta.written (m : PageMeta) : Value := .compact m.toValue.fields

/-! ## Result pages -/

/-- One page of rows, each in its written form. -/
structure ResultPage where
  rows : List Value
  total : Int
  maxScore : Option Float := none
  details : PageMeta

namespace ResultPage

def written (p : ResultPage) : Value :=
  .compact [("data", .list p.rows), ("total", .int p.total),
    ("max_score", .ofOption (p.maxScore.map .float)), ("meta", p.details.written)]

end ResultPage

/-! ## Reading -/

namespace Schema

open Checked

/-- Reads page metadata; unknown fields are ignored. -/
def pageMeta (fs : Fields) : Checked PageMeta := do
  let (limit, offset, cursor, hasMore, nextCursor) ←
    both (required fs "limit" (wholeBetween none none))
      (both (optional fs "offset" none (nullable (wholeBetween none none)))
        (both (optional fs "cursor" none (nullable (plain readText)))
          (both (required fs "has_more" (plain readTruth))
            (optional fs "next_cursor" none (nullable (plain readText))))))
  .ok ⟨limit, offset, cursor, hasMore, nextCursor⟩

/-- Reads the parts of a result page around its metadata. -/
def resultPage (details : PageMeta) (data total maxScore : Value) : Checked ResultPage := do
  let (rows, total, maxScore) ←
    both ((match data with
        | .list items => .ok (items.map Value.written)
        | _ => fault .notList : Checked (List Value)).inField "data")
      (both ((wholeBetween none none total).inField "total")
        ((nullable (plain readReal) maxScore).inField "max_score"))
  .ok ⟨rows, total, maxScore, details⟩

end Schema
end Venues
