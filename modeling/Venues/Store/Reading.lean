import Venues.Store.Compile

/-! # Reading rows

A reading asks for the rows of a model that satisfy a predicate, in an order, from one position on,
up to a number. It may start at a row given by its identity, or behind a row of which only the sort
keys are known. A lost table is reported as a store that is not available.
-/

namespace Venues.Store

/-- What is asked of the store. -/
structure Reading where
  filter : Option Predicate := none
  order : RowOrder := []
  skip : Int := 0
  take : Option Int := none
  /-- The identity of the row at which to start. -/
  anchor : Option Value := none
  /-- The relations that are read along with the rows. -/
  relations : List String := []
  /-- The sort keys of the row behind which to start. -/
  after : Option Fields := none

namespace Tables

variable {α : Type}

/-! ## Carrying out formulas -/

def view (t : Tables) : View Row := ⟨Row.cell, t.related⟩

/-- The rows of a model that a formula selects. -/
def selected (t : Tables) (m : Model) (f : Formula) : List Row :=
  (t.rows m).filter (f.selects t.view)

/-- Whether a fault stops a formula before the store is asked at all. -/
def stopsEarly : Fault → Bool
  | .unbindable => true
  | _ => false

/-- Stops if a formula cannot be carried out: for a value without a form, for a lost table, or for
any other value that the store does not take. -/
def check (t : Tables) (m : Model) (f : Formula) (limits : List Int) : Outcome Unit := do
  match f.faults.find? stopsEarly with
  | some fault => .error fault
  | none =>
    (m :: f.relations.filterMap Model.ofRelation?).forM t.need
    match f.faults with
    | fault :: _ => .error fault
    | [] => if limits.all isShort then .ok () else .error .overflow

/-- Reports a lost table as a store that is not available. -/
def guarded (x : Outcome α) : Outcome α :=
  x.mapError fun
    | .noTable name => .backend (.storeFailed ("no such table: " ++ name))
    | f => f

/-! ## Identities -/

def identity? : Value → Option Uuid
  | .uuid u => some u
  | v => Uuid.ofText? v.display

/-- The row of a model that a value names. -/
def named (t : Tables) (m : Model) (id : Value) : Outcome (Option Row) :=
  match identity? id with
  | none => .ok none
  | some u => do
    t.need m
    .ok (t.find? m u)

/-! ## Readings -/

def compileOptional (m : Model) : Option Predicate → Outcome Formula
  | some p => compile m p
  | none => .ok (.all [])

def keysOf (order : RowOrder) (row : Row) : Outcome Fields :=
  order.mapM fun o =>
    match row.values.get? o.1 with
    | some v => .ok (o.1, v)
    | none => if (row.model.relation? o.1).isSome then .ok (o.1, .null) else .error .missingAttribute

/-- Refuses names that are no relations of a model. -/
def checkRelation (m : Model) (name : String) : Outcome Unit :=
  if (m.relation? name).isSome then .ok ()
  else if (m.column? name).isSome then .error .misusedColumn
  else .error .missingAttribute

/-- Reads the tables of relations along with some rows. -/
def readRelations (t : Tables) (relations : List String) (rows : List Row) : Outcome Unit :=
  if rows.isEmpty then .ok () else (relations.filterMap Model.ofRelation?).forM t.need

/-- The items of a list behind a number of them, up to another number; a negative number of items
to take means all. -/
def portion (skip : Int) (take : Option Int) (items : List α) : List α :=
  let rest := items.drop skip.toNat
  match take with
  | some n => if n < 0 then rest else rest.take n.toNat
  | none => rest

/-- The rows of a model that all of some formulas select, in the order and the portion of a reading. -/
def fetch (t : Tables) (m : Model) (q : Reading) (parts : List Formula) : Outcome (List Row) := do
  let behind ← match q.after with
    | some keys => (keyset m keys q.order false).map fun f => Formula.conjunction (parts ++ [f])
    | none => .ok (.conjunction parts)
  q.relations.forM (checkRelation m)
  q.order.forM fun o => (m.kindOf o.1).map fun _ => ()
  t.check m behind (q.take.toList ++ [q.skip])
  let rows := portion q.skip q.take (walk m q.order (t.selected m behind))
  t.readRelations q.relations rows
  .ok rows

/-- The rows that a reading asks for. -/
def findMany (t : Tables) (m : Model) (q : Reading) : Outcome (List Row) :=
  guarded do
    let f ← compileOptional m q.filter
    match q.anchor with
    | none => t.fetch m q [f]
    | some id =>
      match ← t.named m id with
      | none => .ok []
      | some row =>
        let g ← keyset m (← keysOf q.order row) q.order true
        t.fetch m q [f, g]

/-- The row of a model that a value names, with some relations. -/
def findUnique (t : Tables) (m : Model) (id : Value) (relations : List String) :
    Outcome (Option Row) :=
  guarded do
    if (identity? id).isNone then .ok none
    else
      relations.forM (checkRelation m)
      let row? ← t.named m id
      t.readRelations relations row?.toList
      .ok row?

/-- The number of rows of a model that satisfy a predicate. -/
def count (t : Tables) (m : Model) (filter : Option Predicate) : Outcome Int :=
  guarded do
    let f ← compileOptional m filter
    t.check m f []
    .ok (t.selected m f).length

end Tables
end Venues.Store
