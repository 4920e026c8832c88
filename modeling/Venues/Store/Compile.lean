import Venues.Predicate
import Venues.Store.Binding
import Venues.Store.Formula
import Venues.Store.Order

/-! # Compiling predicates

A predicate on the rows of a model becomes a formula: names are looked up among the columns and
relations of the model, and values take the form in which the store compares them. `keyset` is the
formula of the rows that come behind a given one in an order.
-/

namespace Venues.Store

/-! ## Leaves -/

def Formula.with {α : Type} (handed : Outcome α) (formula : α → Formula) : Formula :=
  match handed with
  | .ok a => formula a
  | .error f => .broken f

def Model.kindOf (m : Model) (column : String) : Outcome FieldKind :=
  match m.column? column with
  | some kind => .ok kind
  | none => refuse (.unknownColumn column m.name)

/-- The formula that compares a column with a value. Truth values have no order. -/
def compareFormula (column : String) (kind : FieldKind) (how : Comparison) (v : Value) :
    Outcome Formula :=
  match v, how with
  | .null, .equal => .ok (.isNull column)
  | .bool _, .equal => .ok (.with (bindTo kind v) (.compare column how))
  | .null, _ | .bool _, _ => .error .misusedColumn
  | _, _ => .ok (.with (bindTo kind v) (.compare column how))

/-- The formula of a bound, or nothing for an open one. -/
def boundFormula (column : String) (kind : FieldKind) (how : Comparison) (bound : Value) :
    Outcome (List Formula) :=
  if bound.isNull then .ok [] else (compareFormula column kind how bound).map ([·])

/-- The formula of the texts that hold a text. Identifiers have no such formula. -/
def containsFormula (column : String) (kind : FieldKind) : Value → Outcome Formula
  | .text needle =>
    .ok (if kind = .uuid then .broken .unbindable else .like column (Like.holding needle.toList))
  | _ => .error .missingAttribute

/-! ## Predicates -/

mutual

/-- The formula of a predicate on the rows of a model. -/
def compile (m : Model) : Predicate → Outcome Formula
  | .equals field v => do compareFormula field (← m.kindOf field) .equal v
  | .range field least most => do
    let kind ← m.kindOf field
    let low ← boundFormula field kind .atLeast least
    let high ← boundFormula field kind .atMost most
    .ok (if (low ++ high).isEmpty then .isPresent field else .all (low ++ high))
  | .oneOf field vs => do
    let kind ← m.kindOf field
    if vs.any Value.isNull && vs.any Value.isNested then .error .incomparable
    else .ok (.with (bindAll kind vs) (.isIn field))
  | .contains field needle => do containsFormula field (← m.kindOf field) needle
  | .related relation inner =>
    match m.relation? relation with
    | some target => do .ok (.related relation (← compile target inner))
    | none => refuse (.unknownRelation relation m.name)
  | .all ps => do .ok (.conjunction (← compileParts m ps))
  | .any ps => do .ok (.disjunction (← compileParts m ps))

/-- The formulas of several predicates. -/
def compileParts (m : Model) : List Predicate → Outcome (List Formula)
  | [] => .ok []
  | p :: ps => do
    let f ← compile m p
    let fs ← compileParts m ps
    .ok (f :: fs)

end

/-! ## Keysets -/

/-- The formula of the rows whose key comes after a value in a direction; nothing comes after null. -/
def afterFormula (column : String) (kind : FieldKind) (direction : Direction) (key : Value) :
    Outcome Formula :=
  if key.isNull then .ok (.any [])
  else do
    let how := if direction = .desc then Comparison.below else .above
    let beyond ← compareFormula column kind how key
    .ok (.any [beyond, .isNull column])

/-- The branches of a keyset formula: for each column, the rows that agree with the keys before it
and come after the key in it. The first part holds the tests for agreement so far. -/
def keysetBranches (m : Model) (keys : Fields) (equal : List Formula) :
    RowOrder → Outcome (List Formula × List Formula)
  | [] => .ok (equal, [])
  | (column, direction) :: rest => do
    let kind ← m.kindOf column
    match keys.get? column with
    | none => .error .missingKey
    | some key =>
      let after ← afterFormula column kind direction key
      let same ← compareFormula column kind .equal key
      let (equal', branches) ← keysetBranches m keys (equal ++ [same]) rest
      let branch := if equal.isEmpty then after else .conjunction (equal ++ [after])
      .ok (equal', branch :: branches)

/-- The formula of the rows that come after some sort keys in an order where null comes last, or, if
`inclusive`, that have these keys. -/
def keyset (m : Model) (keys : Fields) (order : RowOrder) (inclusive : Bool) : Outcome Formula := do
  let (equal, branches) ← keysetBranches m keys [] order
  .ok (.disjunction (if inclusive then branches ++ [.conjunction equal] else branches))

end Venues.Store
