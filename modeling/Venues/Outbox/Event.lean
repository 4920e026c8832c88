import Venues.Fault
import Venues.Number.Read
import Venues.Number.Rounding
import Venues.Timestamp
import Venues.Uuid
import Venues.Value.Display

/-! # Outbox events

An outbox event asks for the document of a facility to be brought up to date. It is pending until it
is processed; one that fails for a reason that may pass is pending again, and due after a delay that
doubles from failure to failure.
-/

namespace Venues.Outbox

/-! ## Events -/

/-- What happened to a facility. -/
inductive EventKind where
  | upserted
  | deleted
  deriving DecidableEq

namespace EventKind

def text : EventKind → String
  | .upserted => "FACILITY_UPSERTED"
  | .deleted => "FACILITY_DELETED"

def ofText? (s : String) : Option EventKind := [upserted, deleted].find? fun k => k.text == s

end EventKind

/-- How far the processing of an event has come. -/
inductive EventStatus where
  | pending
  | processing
  | done
  | failed
  /-- A status that processing knows nothing of. -/
  | other (name : String)
  deriving DecidableEq

namespace EventStatus

/-- The name of a status. -/
def text : EventStatus → String
  | .pending => "pending"
  | .processing => "processing"
  | .done => "done"
  | .failed => "failed"
  | .other name => name

def ofText (s : String) : EventStatus :=
  ([pending, processing, done, failed].find? fun k => k.text == s).getD (.other s)

end EventStatus

/-- An event of the outbox. -/
structure Event where
  /-- The name of what happened, which need not be a known one. -/
  kind : String
  payload : Value
  status : EventStatus := .pending
  retries : Int := 0
  lastError : Option String := none
  /-- The moment before which the event is not to be processed. -/
  dueAt : Option Int := none

namespace Event

/-- The event that says what happened to a facility. -/
def ofFacility (id : Value) (kind : EventKind) : Event where
  kind := kind.text
  payload := .object [("facility_id", .text id.display)]

/-- The identity that the payload of an event names: a null payload and an empty one name none. -/
def namedFacility (e : Event) : Outcome Value :=
  match e.payload with
  | .object fs => .ok (Fields.get fs "facility_id")
  | v => if v.truthy then .error .missingAttribute else .ok .null

/-- Whether an event can be processed at a moment. -/
def isDue (now : Int) (e : Event) : Bool :=
  e.status == .pending && e.dueAt.all fun due => decide (due ≤ now)

end Event

/-! ## Delays -/

def minute : Nat := 60000000

def longestDelay : Nat := 1440

/-- The delay after a number of failures, in microseconds: as many minutes as the power of two, up to
a day. For negative numbers it is a part of a minute. -/
def delay (failures : Int) : Nat :=
  if 11 ≤ failures then longestDelay * minute
  else if 0 ≤ failures then 2 ^ failures.toNat * minute
  else if failures < -26 then 0
  else roundDiv minute (2 ^ failures.natAbs)

/-- The delay after a number of failures, if the number is not beyond all floating-point numbers. -/
def delay? (failures : Int) : Option Nat := (realOfInt? failures).map fun _ => delay failures

/-! ## The end of processing -/

/-- What processing an event came to. -/
inductive Verdict where
  | done
  | failed (reason : String) (retry : Bool)

/-- The longest reason that is kept with an event. -/
def longestReason : Nat := 1000

/-- The event after its processing came to a failure: it is pending again, and due later, if a retry
makes sense and the limit of failures is not reached. The number of failures has at most 64 bits, and
an event is due within the years that a clock can show. -/
def Event.fail (now maxFailures : Int) (reason : String) (retry : Bool) (e : Event) : Outcome Event :=
  let failures := e.retries + 1
  let dueAt := now + delay failures
  let failed := { e with
    status := .failed, lastError := some (String.ofList (reason.toList.take longestReason)),
    retries := failures }
  if !isShort failures then .error .overflow
  else if retry ∧ failures < maxFailures then
    if Timestamp.inRange dueAt then .ok { failed with status := .pending, dueAt := some dueAt }
    else .error .overflow
  else .ok failed

def Event.conclude (now maxFailures : Int) (verdict : Verdict) (e : Event) : Outcome Event :=
  match verdict with
  | .done => .ok { e with status := .done }
  | .failed reason retry => e.fail now maxFailures reason retry

end Venues.Outbox
