import Venues.Number.Read
import Venues.Text.LowerCase
import Venues.Text.Word
import Venues.Value.Display

/-! # Relevance

A document is relevant to a search term by the words that the term and a field have in common. Words
count as the same up to a number of typing errors that grows with their length. Each field has a
weight, and the best field decides.
-/

namespace Venues.Index

/-! ## Words -/

/-- The words of a value, in lower case; null has none. -/
def wordsOf (v : Value) : List (List Char) :=
  if v.isNull then [] else Text.words (Text.lower v.display.toList)

/-- One row of the table of edit distances: the row of a longer text, from the row before it. -/
def editRow (c : Char) : List Char → Nat → List Nat → List Nat
  | d :: ds, left, diagonal :: up :: above =>
    let here := min (min (up + 1) (left + 1)) (diagonal + if c = d then 0 else 1)
    here :: editRow c ds here (up :: above)
  | _, _, _ => []

/-- The number of letters to insert, delete or replace to turn one word into another. -/
def editDistance (a b : List Char) : Nat :=
  let step (row : List Nat) (c : Char) : List Nat :=
    let first := row.headD 0 + 1
    first :: editRow c b first row
  (a.foldl step (List.range (b.length + 1))).getLastD 0

/-- The number of typing errors that a word may have. -/
def allowedErrors (word : List Char) : Nat :=
  if word.length ≤ 2 then 0 else if word.length ≤ 5 then 1 else 2

/-- Whether one of some words is a given word, up to the typing errors this may have. -/
def occurs (word : List Char) (candidates : List (List Char)) : Bool :=
  candidates.any fun candidate => editDistance word candidate ≤ allowedErrors word

/-! ## Scores -/

/-- The name and the weight of a field that is written with `^` between them. -/
def weighted (field : String) : String × Float :=
  match field.toList.span (· != '^') with
  | (name, _ :: weight) =>
    (String.ofList name, if weight.isEmpty then 1 else (readFreeFloat? (String.ofList weight)).getD 1)
  | (name, []) => (String.ofList name, 1)

/-- The score of a term in some weighted fields: the number of its words that occur times the
weight, for the best field. -/
def score (term : String) (fields : List String) (valueOf : String → Value) : Float :=
  let wanted := wordsOf (.text term)
  fields.foldl (fun best field =>
    let (name, weight) := weighted field
    let candidates := wordsOf (valueOf name)
    let here := (wanted.countP fun word => occurs word candidates).toFloat * weight
    if best < here then here else best) 0

end Venues.Index
