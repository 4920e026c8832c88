import Venues.Index.Clause
import Venues.Value.Order
import Venues.Value.Whole

/-! # Search responses

The index answers a search with a written response. Its hits are read into documents; a distance goes
with each of them whenever the query has an area, taken from the sort if that is by distance.
-/

namespace Venues.Index

/-! ## Parts of a reply -/

/-- The fields of a reply that should be an object. -/
def replyFields : Value → Outcome Fields
  | .object fs => .ok fs
  | _ => .error .missingAttribute

/-- The items of a reply that should be a list. -/
def replyItems : Value → Outcome (List Value)
  | .list vs => .ok vs
  | .object fs => .ok (fs.map fun f => .text f.1)
  | .text s => .ok (s.toList.map fun c => .text (String.ofList [c]))
  | _ => .error .incomparable

/-- A field of an item of a reply, which must be there. -/
def replyField (item : Value) (name : String) : Outcome Value :=
  match item with
  | .object fs => ((Fields.get? fs name).map .ok).getD (.error .missingKey)
  | _ => .error .incomparable

/-- The number that a value of a reply stands for. -/
def replyNumber : Value → Outcome Float
  | .text s => ((readFreeFloat? s).map .ok).getD (.error (.misuse (.unreadableNumber s)))
  | .bool b => .ok (if b then 1 else 0)
  | .float x => .ok x
  | .int n => ((realOfInt? n).map .ok).getD (.error .overflow)
  | _ => .error .incomparable

/-- The first of the sort values of a hit. -/
def firstSortValue : Value → Outcome Value
  | .list (v :: _) => .ok v
  | .text s => .ok (.text (String.ofList (s.toList.take 1)))
  | .object _ => .error .missingKey
  | _ => .error .incomparable

/-- The number of all results, as it is written in a reply. -/
def replyTotal (part : Value) : Outcome Value :=
  match part with
  | .object fs => .ok ((Fields.get? fs "value").getD (.int 0))
  | v =>
    if v.truthy then v.whole.map .int else .ok (.int 0)

/-- Reads the number of all results of a page. -/
def readTotal (total : Value) : Outcome Int :=
  match total.magnitude? with
  | none => .error .incomparable
  | some _ =>
    match readWhole total with
    | .ok n => .ok n
    | .error issue => .error (.schema [⟨["total"], issue⟩])

/-! ## Hits -/

/-- One search result. -/
structure Hit where
  document : Document
  score : Float
  distance : Option Float

def Hit.written (h : Hit) : Value :=
  .compact [("document", h.document.written), ("score", .float h.score),
    ("distance_meters", .ofText? (h.distance.map fixedText))]

/-- The distance that goes with a hit of a query. -/
def hitDistance (q : Query) (hit : Fields) (document : Document) : Outcome (Option Float) :=
  match q.area with
  | none => .ok none
  | some area =>
    let sort := hit.get "sort"
    if q.sorting.key = .distance ∧ sort.truthy then do
      let first ← firstSortValue sort
      (replyNumber first).map some
    else (distance? area.center document.location).map some

/-- Reads one hit. -/
def readHit (q : Query) (hit : Value) : Outcome Hit := do
  let source ← replyField hit "_source"
  let document ← (Schema.document source).mapError .schema
  let distance ← hitDistance q hit.fields document
  let score ← replyNumber ((hit.fields.get "_score").orElse (.float 0))
  .ok ⟨document, score, distance⟩

/-! ## Pages -/

/-- A page of search results. -/
structure HitPage where
  hits : List Hit
  total : Int
  maxScore : Float
  details : PageMeta

def HitPage.page (p : HitPage) : ResultPage where
  rows := p.hits.map Hit.written
  total := p.total
  maxScore := some p.maxScore
  details := p.details

/-- The metadata of a page of search results, which knows where the result window ends. -/
def searchMeta (q : Query) (count total : Int) : PageMeta :=
  let offset := startOfPage q.page
  if q.page.isCursor then
    PageMeta.atCursor q.page.cursor? offset q.limit count total (some resultWindow)
  else PageMeta.atOffset offset q.limit count total (some resultWindow)

/-- Reads the response to the search body of a query. -/
def readResponse (q : Query) (response : Value) : Outcome HitPage := do
  let fs ← replyFields response
  let found ← replyFields ((fs.get? "hits").getD (.object []))
  let total ← replyTotal ((found.get? "total").getD (.int 0))
  let hits ← (← replyItems ((found.get? "hits").getD (.list []))).mapM (readHit q)
  let maxScore ← if q.hasTerm then replyNumber ((found.get "max_score").orElse (.float 0)) else .ok 0
  let total ← readTotal total
  .ok ⟨hits, total, maxScore, searchMeta q hits.length total⟩

end Venues.Index
