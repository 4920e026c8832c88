import Venues.Outbox.Emission
import Venues.Store.Change
import Venues.Store.Order

/-! # Sessions

A session collects changes to rows and carries them out at a flush, in an order of its own: changed
rows before new ones, facilities before courts, and removals last. What was flushed lasts when it is
committed. With each commit go the facilities that its flushes touched, for which events are to be
written; a rollback forgets them.

Rows with changes that wait are held as they were read, with their new values beside them; so are rows
that were pinned, until they are released.
-/

namespace Venues.Store

open Outbox (Pending Touched Flush)

/-! ## Held rows -/

/-- How a held row stands. -/
inductive Standing where
  | present
  /-- Its removal was flushed. -/
  | removed
  /-- Its removal was committed. -/
  | detached
  deriving DecidableEq

/-- A row that a session holds. -/
structure Held where
  /-- The row as it was read. -/
  row : Row
  /-- The new values that wait for a flush. -/
  waiting : Fields := []
  /-- Whether the row is held although nothing waits. -/
  isPinned : Bool := false
  standing : Standing := .present

namespace Held

/-- Whether this is the row of a model with an identity. -/
def isOf (h : Held) (m : Model) (id : Uuid) : Bool := h.row.model == m && h.row.id == id

/-- What the row shows: the new values where there are some. -/
def shown (h : Held) : Row := h.row.setAll h.waiting

def value (h : Held) (column : String) : Value :=
  (h.waiting.get? column).getD (h.row.values.get column)

/-- The new values that differ from those that were read. -/
def news (h : Held) : Fields := h.waiting.filter fun f => !f.2.same (h.row.values.get f.1)

end Held

/-- The values of a changed row: with a change goes the time of the change. -/
def stamped (now : Timestamp) (values : Fields) : Fields :=
  if values.has "updated_at" then values else values ++ [("updated_at", .time now)]

/-! ## Sessions -/

/-- A new row with the values that it is given. -/
structure Draft where
  model : Model
  values : Fields

def Draft.id? (d : Draft) : Option Uuid := (d.values.get "id").columnUuid

/-- A session over the tables. -/
structure Session where
  now : Timestamp
  committed : Tables
  /-- The rows as the session reads them: with everything that was flushed. -/
  rows : Tables
  /-- Whether anything was done since the last commit. -/
  isOpen : Bool := false
  held : List Held := []
  added : List Draft := []
  /-- The rows that wait to be removed. -/
  removed : List (Model × Uuid) := []
  /-- The facilities touched since the last commit. -/
  pending : Pending := []
  /-- The facilities for which commits have asked for events. -/
  emitted : Pending := []

/-- A change in a session. -/
inductive Change where
  | insert (row : Draft)
  | update (m : Model) (id : Value) (values : Fields)
  | delete (m : Model) (id : Value)
  /-- Changes a row at once, unseen by the collection of touched facilities. -/
  | updateDirectly (m : Model) (id : Value) (values : Fields)
  | deleteDirectly (m : Model) (id : Value)
  | flush
  | commit
  | rollback
  /-- A change that cannot be tried. -/
  | invalid (fault : Fault)

namespace Session

def start (now : Timestamp) (t : Tables) : Session := { now := now, committed := t, rows := t }

/-! ## Rows at hand -/

def isRemoved (s : Session) (m : Model) (id : Uuid) : Bool := s.removed.contains (m, id)

/-- A row that was read, as it is held. -/
def atHand (s : Session) (r : Row) : Held :=
  (s.held.find? fun h => h.isOf r.model r.id && h.standing == .present).getD { row := r }

def hold (s : Session) (h : Held) : Session :=
  let isSame (o : Held) : Bool := o.isOf h.row.model h.row.id
  if s.held.any isSame then { s with held := s.held.map fun o => if isSame o then h else o }
  else { s with held := s.held ++ [h] }

def identity : Value → Outcome Uuid
  | .uuid u => .ok u
  | .text s => ((Uuid.ofText? s).map .ok).getD (.error (.misuse .malformedUuid))
  | _ => .error .noRow

/-- The row that a value names, which must be there. -/
def theRow (s : Session) (m : Model) (id : Value) : Outcome Held := do
  let id ← identity id
  s.rows.need m
  match s.rows.find? m id with
  | some r => .ok (s.atHand r)
  | none => .error .noRow

/-! ## Collecting -/

/-- The name of an identity among touched facilities, where lists and objects cannot stand. -/
def touchedKey (v : Value) : Outcome Value := if v.isNested then .error .incomparable else .ok v

/-- The facility that an object touches, given the values of its columns. -/
def touched (m : Model) (value : String → Value) : Outcome Touched :=
  match m with
  | .facility => (touchedKey (value "id")).map .facility
  | .court => (touchedKey (value "facility_id")).map .court

def changed (s : Session) : List Held :=
  s.held.filter fun h => !h.waiting.isEmpty && !s.isRemoved h.row.model h.row.id

/-- What the next flush does. -/
def nextFlush (s : Session) : Outcome Flush := do
  let ofHeld (h : Held) : Outcome Touched := touched h.row.model h.value
  let removed := s.removed.filterMap fun r => s.held.find? fun h => h.isOf r.1 r.2
  .ok {
    added := ← s.added.mapM fun d => touched d.model d.values.get,
    changed := ← s.changed.mapM ofHeld,
    removed := ← removed.mapM ofHeld }

/-! ## Flushing -/

/-- The changes that a flush writes to the rows of a model: new rows first that take the place of rows
to be removed, then held ones by identity. -/
def changesOf (s : Session) (m : Model) : List (Uuid × Fields) :=
  let replacing := s.added.filterMap fun d =>
    match d.id? with
    | some id =>
      if d.model == m && s.isRemoved m id then some (id, d.values.filter fun f => f.1 != "id") else none
    | none => none
  let held := (s.changed.filter fun h => h.row.model == m).mergeSort fun a b => !b.row.id.lt a.row.id
  let changes := replacing ++ held.map fun h => (h.row.id, h.news)
  (changes.filter fun c => !c.2.isEmpty).map fun c => (c.1, m.columnsOf (stamped s.now c.2))

/-- The new rows of a model that a flush inserts. -/
def insertsOf (s : Session) (m : Model) : List Fields :=
  (s.added.filter fun d => d.model == m && !d.id?.any (s.isRemoved m)).map Draft.values

/-- Changes rows by statements, one for each run of changes to the same columns. A changed row must be
there. -/
def writeChanges (s : Session) (m : Model) (t : Tables) : Outcome Tables :=
  let agree (a b : Uuid × Fields) : Bool := a.2.map (·.1) == b.2.map (·.1)
  ((s.changesOf m).splitBy agree).foldlM (fun t changes => do
    let written ← t.updateAll m changes
    if changes.all fun c => (t.find? m c.1).isSome then .ok written else .error .staleRow) t

/-- Inserts rows by statements, one for each run of rows with the same defaults. -/
def writeInserts (s : Session) (m : Model) (t : Tables) : Outcome Tables :=
  let agree (a b : Fields) : Bool := m.givenDefaults s.now a == m.givenDefaults s.now b
  ((s.insertsOf m).splitBy agree).foldlM (fun t rows =>
    t.insertAll m (rows.map (m.withDefaults s.now))) t

/-- Removes the rows of a model that wait for it, unless a new row takes their place. -/
def writeRemovals (s : Session) (m : Model) (t : Tables) : Outcome Tables :=
  let isTaken (id : Uuid) : Bool := s.added.any fun d => d.model == m && d.id? == some id
  ((s.removed.filter fun r => r.1 == m && !isTaken r.2).map (·.2)).foldlM (fun t id => t.delete m id) t

def write (s : Session) : Outcome Tables := do
  let t ← s.writeInserts .facility (← s.writeChanges .facility s.rows)
  let t ← s.writeInserts .court (← s.writeChanges .court t)
  s.writeRemovals .facility (← s.writeRemovals .court t)

def isClean (s : Session) : Bool :=
  s.added.isEmpty && s.removed.isEmpty && s.held.all fun h => h.waiting.isEmpty

def settled (s : Session) (h : Held) : Held :=
  let standing := if s.isRemoved h.row.model h.row.id then .removed else h.standing
  let row := if h.news.isEmpty then h.shown else h.row.setAll (stamped s.now h.waiting)
  { h with row := row, waiting := [], standing := standing }

/-- Forgets everything since the last commit; rows that were held have to be read again. -/
def rollback (s : Session) : Session :=
  if s.isOpen then
    { s with rows := s.committed, isOpen := false,
             held := s.held.filter fun h => h.standing == .detached,
             added := [], removed := [], pending := [] }
  else s

/-- Carries out the changes that wait, and collects the facilities they touch. If one of them breaks
a rule, everything since the last commit is forgotten. -/
def flush (s : Session) : Outcome Unit × Session :=
  if s.isClean then (.ok (), s)
  else
    match s.write.bind fun t => s.nextFlush.map fun f => (t, f) with
    | .error f => (.error f, s.rollback)
    | .ok (t, f) =>
      (.ok (), { s with
        rows := t, held := (s.held.filter Held.isPinned).map s.settled, added := [], removed := [],
        pending := s.pending.merge (.ofFlush f) })

/-- Makes everything last, and asks for the events of the touched facilities. -/
def commit (s : Session) : Outcome Unit × Session :=
  match s.flush with
  | (.error f, s) => (.error f, s)
  | (.ok _, s) =>
    let detached (h : Held) : Held :=
      if h.standing == .removed then { h with standing := .detached } else h
    (.ok (), { s with
      committed := s.rows, isOpen := false, held := s.held.map detached, pending := [],
      emitted := s.emitted ++ s.pending })

/-! ## Pinned rows -/

def pin (s : Session) (rows : List Row) : Session :=
  rows.foldl (fun s r => s.hold { s.atHand r with isPinned := true }) { s with isOpen := true }

/-- What a row shows that was read: the held row, or else what the tables have of it now. -/
def shown (s : Session) (r : Row) : Row :=
  match s.held.find? fun h => h.isOf r.model r.id with
  | some h => h.shown
  | none => (s.rows.find? r.model r.id).getD r

/-- Whether a row that is held was removed for good. -/
def isDetached (s : Session) (r : Row) : Bool :=
  s.held.any fun h => h.isOf r.model r.id && h.standing == .detached

/-- Lets go of rows: changes to them that still wait are dropped. A facility that was removed for good
cannot be let go of. -/
def release (s : Session) (rows : List Row) : Outcome Unit × Session :=
  if rows.any fun r => r.model == .facility && s.isDetached r then (.error .detachedRow, s)
  else
    let stays (m : Model) (id : Uuid) : Bool := !rows.any fun r => r.model == m && r.id == id
    (.ok (), { s with held := s.held.filter fun h => stays h.row.model h.row.id,
                      removed := s.removed.filter fun r => stays r.1 r.2 })

/-! ## Changes -/

/-- A row and all that is removed with it: the courts of a facility go with it. -/
def withDependents (s : Session) (r : Row) : Outcome (List Row) :=
  match r with
  | .facility f => (s.rows.need .court).map fun _ => r :: (s.rows.courtsOf f).map .court
  | .court _ => .ok [r]

def noteRemoval (s : Session) (rows : List Row) : Session :=
  rows.foldl (fun s r =>
    if s.isRemoved r.model r.id then s
    else { s.hold (s.atHand r) with removed := s.removed ++ [(r.model, r.id)] }) s

/-- Changes a row at once. -/
def updateNow (s : Session) (m : Model) (id : Value) (values : Fields) : Outcome Session := do
  let id ← identity id
  if values.any fun f => (m.column? f.1).isNone then .error .noColumn
  else
    let t ← s.rows.updateAll m [(id, stamped s.now values)]
    .ok { s with rows := t }

def deleteNow (s : Session) (m : Model) (id : Value) : Outcome Session := do
  let t ← s.rows.delete m (← identity id)
  .ok { s with rows := t }

def noteUpdate (s : Session) (m : Model) (id : Value) (values : Fields) : Outcome Session := do
  let h ← s.theRow m id
  let waiting := (m.columnsOf values).foldl (fun vs f => Fields.put vs f.1 f.2) h.waiting
  .ok (if waiting.isEmpty then s else s.hold { h with waiting := waiting })

/-- Notes that a row is to be removed, with all that depends on it. -/
def noteDelete (s : Session) (m : Model) (id : Value) : Outcome Session := do
  let h ← s.theRow m id
  if s.isRemoved m h.row.id then .ok s
  else .ok (s.noteRemoval (← s.withDependents h.row))

def after (s : Session) (next : Outcome Session) : Outcome Unit × Session :=
  match next with
  | .ok s => (.ok (), { s with isOpen := true })
  | .error f => (.error f, { s with isOpen := true })

/-- Makes a change. -/
def change (s : Session) (c : Change) : Outcome Unit × Session :=
  match c with
  | .insert row => s.after (.ok { s with added := s.added ++ [row] })
  | .update m id values => s.after (s.noteUpdate m id values)
  | .delete m id => s.after (s.noteDelete m id)
  | .updateDirectly m id values => s.after (s.updateNow m id values)
  | .deleteDirectly m id => s.after (s.deleteNow m id)
  | .flush => s.flush
  | .commit => s.commit
  | .rollback => (.ok (), s.rollback)
  | .invalid fault => (.error fault, s)

/-- Makes one change after the other, until one fails. -/
def changeAll (s : Session) : List Change → Outcome Unit × Session
  | [] => (.ok (), s)
  | c :: cs =>
    match s.change c with
    | (.error f, s) => (.error f, s)
    | (.ok _, s) => s.changeAll cs

end Session
end Venues.Store
