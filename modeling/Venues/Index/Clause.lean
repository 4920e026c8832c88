import Venues.Index.Document
import Venues.Page.Result
import Venues.Selection
import Venues.Surface.Request

/-! # Search bodies

A search body is what the index is asked for: clauses that score, clauses that only select, the sort
with its tie-breaks, and the portion of the results. `SearchBody.ofQuery` builds it from a query.
-/

namespace Venues.Index

/-! ## Clauses -/

/-- A condition on the documents of an index. -/
inductive Clause where
  /-- Every document. -/
  | matchAll
  /-- The words of a term occur, up to a few typing errors, in one of some weighted fields. -/
  | multiMatch (term : String) (fields : List String)
  /-- A field has a value. -/
  | term (field : String) (value : Value)
  /-- A field has one of several values. -/
  | terms (field : String) (values : List Value)
  /-- A field lies between two bounds, both included; a null bound is open. -/
  | range (field : String) (least most : Value)
  /-- The text of a field fits a pattern, whatever its case. -/
  | wildcard (field : String) (pattern : String)
  /-- The location lies in an area. -/
  | within (area : Area)
  /-- One of the inner documents at a path satisfies all of some clauses. -/
  | nested (path : String) (clauses : List Clause)

/-- What documents are sorted by. -/
inductive SortClause where
  | distance (center : Point) (direction : Direction)
  | score (direction : Direction)
  | field (name : String) (direction : Direction) (marksMissing : Bool)

namespace SortClause

def direction : SortClause → Direction
  | .distance _ d | .score d | .field _ d _ => d

end SortClause

/-- What the index is asked for. -/
structure SearchBody where
  must : Clause
  filters : List Clause
  sort : List SortClause
  start : Int
  size : Int
  tracksScores : Bool

/-! ## Written form -/

mutual

/-- The written form of a clause. -/
def Clause.written : Clause → Value
  | .matchAll => .object [("match_all", .object [])]
  | .multiMatch term fields =>
    .object [("multi_match", .object [("query", .text term), ("fields", .texts fields),
      ("type", .text "best_fields"), ("fuzziness", .text "AUTO"), ("operator", .text "or")])]
  | .term field value => .object [("term", .object [(field, value)])]
  | .terms field values => .object [("terms", .object [(field, .list values)])]
  | .range field least most =>
    .object [("range", .object [(field, .compact [("gte", least), ("lte", most)])])]
  | .wildcard field pattern =>
    .object [("wildcard", .object [(field,
      .object [("value", .text pattern), ("case_insensitive", .bool true)])])]
  | .within area =>
    .object [("geo_distance", .object [("distance", .text area.radius),
      ("location", area.center.source)])]
  | .nested path clauses =>
    .object [("nested", .object [("path", .text path),
      ("query", .object [("bool", .object [("filter", .list (writtenClauses clauses))])])])]

def writtenClauses : List Clause → List Value
  | [] => []
  | c :: cs => Clause.written c :: writtenClauses cs

end

/-- The written form of a sort clause. -/
def SortClause.written : SortClause → Value
  | .distance center direction =>
    .object [("_geo_distance", .object [("location", center.source),
      ("order", .text direction.text), ("unit", .text "m"), ("distance_type", .text "arc")])]
  | .score direction => .object [("_score", .object [("order", .text direction.text)])]
  | .field name direction marksMissing =>
    .object [(name, .object (("order", .text direction.text) ::
      if marksMissing then [("missing", .text "_last")] else []))]

/-- The written form of a search body. -/
def SearchBody.written (b : SearchBody) : Value :=
  .object [
    ("query", .object [("bool", .object [("must", .list [b.must.written]),
      ("filter", .list (writtenClauses b.filters))])]),
    ("sort", .list (b.sort.map SortClause.written)), ("from", .int b.start), ("size", .int b.size),
    ("track_scores", .bool b.tracksScores), ("track_total_hits", .bool true)]

/-! ## Clauses of conditions -/

/-- A value as it stands in the index, where identifiers and timestamps are texts. -/
def indexed : Value → Value
  | .uuid u => .text u.text
  | .time t => .text t.isoText
  | v => v

def Clause.ofCondition (path : String) : Condition → Clause
  | .equals v => .term path (indexed v)
  | .oneOf vs => .terms path (vs.map indexed)
  | .range least most => .range path (indexed least) (indexed most)
  | .contains needle => .wildcard path ("*" ++ needle ++ "*")

def courtsPath : String := "courts"

/-- The clauses on a document itself and those on its courts. -/
structure Split where
  own : List Clause := []
  courts : List Clause := []

/-- Splits the clauses of conditions by their paths. -/
def splitConditions (s : Surface) (conditions : Conditions) : Outcome Split :=
  conditions.foldlM (fun split c =>
    match s.field? c.1 with
    | none => .error .missingKey
    | some d =>
      let clause := Clause.ofCondition d.path c.2
      .ok (if d.relation = some courtsPath then { split with courts := split.courts ++ [clause] }
        else { split with own := split.own ++ [clause] })) {}

/-- The clauses that select documents: published ones unless the query says otherwise, those in the
area of the query, those that meet its conditions, and those with an active court that meets the
conditions on courts. -/
def filterClauses (s : Surface) (q : Query) : Outcome (List Clause) := do
  let split ← splitConditions s q.conditions
  let published := if q.conditions.has "isPublished" then [] else [.term "isPublished" (.bool true)]
  let area := match q.area with
    | some a => [.within a]
    | none => []
  let courts := if split.courts.isEmpty then []
    else [.nested courtsPath (.term "courts.isActive" (.bool true) :: split.courts)]
  .ok (published ++ area ++ split.own ++ courts)

/-! ## Bodies of queries -/

/-- Documents that tie are sorted by creation, the latest first, and then by identity. -/
def tieBreaks : List SortClause := [.field "createdAt" .desc false, .field "id" .asc false]

/-- The sort of a query, which may need a point to measure from. -/
def sortClauses (s : Surface) (q : Query) : Outcome (List SortClause) :=
  let direction := q.sorting.direction
  match q.sorting.key, q.area with
  | .distance, none => refuse .distanceWithoutGeo
  | .distance, some a => .ok (.distance a.center direction :: tieBreaks)
  | .relevance, _ => .ok (.score direction :: tieBreaks)
  | .createdAt, _ => .ok [.field "createdAt" direction false, .field "id" .asc false]
  | key, _ =>
    match s.sortColumn? key with
    | some column => .ok (.field column direction true :: tieBreaks)
    | none => .error .missingKey

/-- The clause that scores the documents of a query. -/
def scoreClause (s : Surface) (q : Query) : Clause :=
  match q.term with
  | some t => if t = "" then .matchAll else .multiMatch t s.searchFields
  | none => .matchAll

/-- The position of the first document of a page. -/
def startOfPage : Page → Int
  | .offset number limit start? => Page.startOf number limit start?
  | .cursor cursor? limit => Cursor.toOffset? cursor? limit

/-- The search body of a query. -/
def SearchBody.ofQuery (s : Surface) (q : Query) : Outcome SearchBody := do
  Surface.checkWindow q
  let sort ← sortClauses s q
  let filters ← filterClauses s q
  .ok { must := scoreClause s q, filters := filters, sort := sort, start := startOfPage q.page,
        size := q.limit, tracksScores := q.sorting.key ≠ .relevance }

end Venues.Index
