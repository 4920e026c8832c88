import Venues.Outbox.Event
import Venues.Value.Order

/-! # Emission of events

Changes to rows are collected from flush to flush: a change to a facility or to one of its courts
touches the facility. When the changes are committed, one event is written for each facility that
was touched. Deletion wins over every other change, whatever their order.
-/

namespace Venues.Outbox

/-! ## Touched facilities -/

/-- A changed object: a facility, or a court with the facility it belongs to. What is said to be an
identity may be any value as long as nothing has been written. -/
inductive Touched where
  | facility (id : Value)
  | court (facility : Value)

/-- The objects of one flush. -/
structure Flush where
  added : List Touched := []
  changed : List Touched := []
  removed : List Touched := []

/-- The facilities that were touched, each with what happened to it. -/
abbrev Pending := List (Value × EventKind)

namespace Pending

/-- Notes what happened to a facility; a facility that is there keeps its place. -/
def put (id : Value) (kind : EventKind) : Pending → Pending
  | [] => [(id, kind)]
  | (i, k) :: rest => if i.same id then (i, kind) :: rest else (i, k) :: put id kind rest

def isDeleted (pending : Pending) (id : Value) : Bool :=
  pending.any fun p => p.1.same id && p.2 == .deleted

/-- Notes what happened to a facility, unless it is known to be deleted. -/
def mark (pending : Pending) (id : Value) (kind : EventKind) : Pending :=
  if pending.isDeleted id then pending else put id kind pending

/-- Notes that a facility or one of its courts was changed; null is the identity of none. -/
def touch (pending : Pending) : Touched → Pending
  | .facility id | .court id => if id.isNull then pending else pending.mark id .upserted

def drop (pending : Pending) : Touched → Pending
  | .facility id => put id .deleted pending
  | .court id => pending.touch (.court id)

def ofFlush (f : Flush) : Pending :=
  f.removed.foldl drop ((f.added ++ f.changed).foldl touch [])

def merge (pending later : Pending) : Pending :=
  later.foldl (fun p change => p.mark change.1 change.2) pending

end Pending

/-! ## Events -/

/-- Tries to write an event behind those that are there. -/
def record (accepts : Event → Bool) (events : List Event) (e : Event) : Outcome (List Event) :=
  if accepts e then .ok (events ++ [e]) else .error .conflict

/-- Writes the events of touched facilities, one after the other. An event that the outbox does not
take is lost, and no other with it. -/
def emit (accepts : Event → Bool) (pending : Pending) (events : List Event) : List Event :=
  pending.foldl (fun events p =>
    match record accepts events (.ofFacility p.1 p.2) with
    | .ok events => events
    | .error _ => events) events

end Venues.Outbox
