import Venues.Filter
import Venues.Geo
import Venues.Page

/-! # Queries

A query is a listing request in normal form: it names no backend, and every backend gives it the
same meaning.
-/

namespace Venues

/-! ## Sorting -/

/-- What a listing is sorted by. -/
inductive SortKey where
  | relevance
  | distance
  | createdAt
  | name
  | price
  | rating
  deriving DecidableEq

namespace SortKey

/-- The sort keys in the order in which they are offered. -/
def all : List SortKey := [.relevance, .distance, .createdAt, .name, .price, .rating]

/-- The name of a sort key in requests. -/
def text : SortKey → String
  | .relevance => "relevance"
  | .distance => "distance"
  | .createdAt => "createdAt"
  | .name => "name"
  | .price => "price"
  | .rating => "rating"

def ofText? (s : String) : Option SortKey := all.find? fun key => key.text == s

end SortKey

/-- Smallest first or largest first. -/
inductive Direction where
  | asc
  | desc
  deriving DecidableEq

namespace Direction

def text : Direction → String
  | .asc => "asc"
  | .desc => "desc"

def ofText? : String → Option Direction
  | "asc" => some .asc
  | "desc" => some .desc
  | _ => none

end Direction

/-- A sort key and its direction. -/
structure Sorting where
  key : SortKey
  direction : Direction
  deriving DecidableEq

/-! ## Queries -/

/-- A listing request in normal form. -/
structure Query where
  term : Option String
  conditions : Conditions
  area : Option Area
  sorting : Sorting
  page : Page
  withRelations : Bool

namespace Query

def limit (q : Query) : Int := q.page.limit

def hasTerm (q : Query) : Bool :=
  match q.term with
  | some t => t != ""
  | none => false

end Query
end Venues
