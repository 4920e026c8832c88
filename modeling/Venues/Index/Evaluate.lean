import Venues.Index.Clause
import Venues.Index.Relevance
import Venues.Index.Response
import Venues.Index.Wildcard
import Venues.Predicate.Accepts

/-! # Evaluating searches

`SearchBody.search` says what a search finds in a list of documents. A field with several values
satisfies a clause if one of them does, and a missing field satisfies none. Results are sorted
stably, so documents that tie keep their order in the index, and missing values go last in both
directions.
-/

namespace Venues.Index

/-! ## Fields -/

/-- The part of a value under a name: of a list, the parts of its objects. -/
def partOf (v : Value) (name : String) : Value :=
  match v with
  | .list items => .list (items.filterMap fun item =>
      match item with
      | .object fs => some (Fields.get fs name)
      | _ => none)
  | .object fs => Fields.get fs name
  | _ => .null

/-- The names on the way to a field. The variant of a text that is kept whole is the text itself. -/
def pathNames (field : String) : List String :=
  let names := (field.toList.splitOn '.').map String.ofList
  if names.length > 1 && names.getLast? == some "keyword" then names.dropLast else names

def fieldValue (document : Value) (field : String) : Value :=
  (pathNames field).foldl partOf document

/-- The values of a field of a document; null counts as no value. -/
def fieldValues (document : Value) (field : String) : List Value :=
  match fieldValue document field with
  | .null => []
  | .list items => items.filter fun v => !v.isNull
  | v => [v]

/-! ## Places -/

/-- The degrees that a value of a document stands for. -/
def degreesOf : Value → Outcome Float
  | .bool b => .ok (if b then 1 else 0)
  | .float x => .ok x
  | .int n =>
    let x := Decimal.toFloat ⟨n < 0, n.natAbs, 0⟩
    if (Magnitude.ofFloat x).isFinite then .ok x else .error .overflow
  | _ => .error .incomparable

/-- The point that a location stands for. -/
def pointOf (location : Value) : Outcome Point := do
  let lat ← replyField location "lat"
  let lon ← replyField location "lon"
  let lat ← degreesOf lat
  let lon ← degreesOf lon
  .ok ⟨lat, lon⟩

def distanceFrom (center : Point) (document : Value) : Outcome Float := do
  let location ← pointOf (fieldValue document "location")
  distance? center location

/-! ## Conditions -/

def innerDocuments (document : Value) (path : String) : Outcome (List Value) := do
  let fs ← replyFields document
  let found := Fields.get fs path
  if found.truthy then replyItems found else .ok []

mutual

/-- Whether a clause holds of a document. -/
def Clause.holds (document : Value) : Clause → Outcome Bool
  | .matchAll => .ok true
  | .multiMatch words fields => .ok (decide (0 < score words fields (fieldValue document)))
  | .term field value => .ok ((fieldValues document field).any value.same)
  | .terms field values => .ok ((fieldValues document field).any fun v => values.any v.same)
  | .range field least most => someItem (fun v => v.between least most) (fieldValues document field)
  | .wildcard field pattern =>
    .ok ((fieldValues document field).any fun v => fitsAnyCase pattern v.display)
  | .within area => do
    let radius ← area.radiusMeters.mapError .misuse
    if (fieldValue document "location").truthy then
      (distanceFrom area.center document).map fun d => decide (d ≤ radius)
    else .ok false
  | .nested path clauses => do
    let inner ← innerDocuments document path
    someItem (fun item => allHold (.object [(path, item)]) clauses) inner

/-- Whether all of some clauses hold of a document; those behind the first that does not are not
looked at. -/
def allHold (document : Value) : List Clause → Outcome Bool
  | [] => .ok true
  | c :: cs => do if ← c.holds document then allHold document cs else .ok false

end

/-- The score of a document that satisfies the scoring clause. -/
def Clause.scoreOf (document : Value) : Clause → Float
  | .matchAll => 1
  | .multiMatch words fields => score words fields (fieldValue document)
  | _ => 0

/-! ## Sorting -/

/-- The lowest of some values. -/
def lowestValue : List Value → Outcome Value
  | [] => .ok .null
  | v :: vs => vs.foldlM (fun low v =>
      match v.lt? low with
      | some true => .ok v
      | some false => .ok low
      | none => .error .incomparable) v

/-- The value by which a document is sorted. -/
def SortClause.valueOf (document : Value) (score : Float) : SortClause → Outcome Value
  | .distance center _ => (distanceFrom center document).map .float
  | .score _ => .ok (.float score)
  | .field name _ _ =>
    match fieldValue document name with
    | .list items => lowestValue items
    | v => .ok v

/-- How two lists of sort values compare: nothing if they have no order. -/
def compareKeys : List SortClause → List Value → List Value → Option Ordering
  | c :: cs, a :: as, b :: bs =>
    if a.same b then compareKeys cs as bs
    else if a.isNull then some .gt
    else if b.isNull then some .lt
    else (a.lt? b).map fun before => if before == (c.direction == .asc) then .lt else .gt
  | _, _, _ => some .eq

/-- A document that a search has found. -/
structure Found where
  id : String
  source : Value
  score : Float
  keys : List Value

/-- Whether each of some found documents can be compared with all behind it. -/
def areComparable (sort : List SortClause) : List Found → Bool
  | [] => true
  | f :: fs =>
    fs.all (fun g => (compareKeys sort f.keys g.keys).isSome) && areComparable sort fs

def sortFound (sort : List SortClause) (found : List Found) : Outcome (List Found) :=
  if areComparable sort found then
    .ok (found.mergeSort fun f g => compareKeys sort f.keys g.keys != some .gt)
  else .error .incomparable

/-! ## Searches -/

/-- A document as found by a search, or nothing if the search does not select it. -/
def SearchBody.find? (b : SearchBody) (id : String) (document : Value) : Outcome (Option Found) := do
  if ← allHold document (b.must :: b.filters) then
    let score := b.must.scoreOf document
    let keys ← b.sort.mapM (SortClause.valueOf document score)
    .ok (some ⟨id, document, score, keys⟩)
  else .ok none

def SearchBody.search (b : SearchBody) (documents : List (String × Value)) : Outcome (List Found) := do
  let found ← documents.mapM fun d => b.find? d.1 d.2
  sortFound b.sort (found.filterMap id)

def highestScore : List Found → Option Float
  | [] => none
  | f :: fs => some (fs.foldl (fun best g => if best < g.score then g.score else best) f.score)

/-- The items of a list from one position up to another. -/
def portionOf {α : Type} (start size : Int) (items : List α) : List α :=
  (items.drop start.toNat).take size.toNat

end Venues.Index
