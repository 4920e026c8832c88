import Venues.Timestamp
import Venues.Value.Display

/-! # Recorded runs

Every full reindex is recorded as a run: when it started and ended, how it ended, how many facilities
it loaded and how many it could not load, and the first of its errors.
-/

namespace Venues.Reindex

/-- How a run stands. -/
inductive RunStatus where
  | running
  | done
  | failed
  | disabled
  deriving DecidableEq

def RunStatus.text : RunStatus → String
  | .running => "running"
  | .done => "done"
  | .failed => "failed"
  | .disabled => "disabled"

/-- What a run was asked to do. -/
structure Options where
  /-- Whether the index is rebuilt first. -/
  clearIndex : Bool := false
  /-- Whether facilities off the globe are errors. -/
  validateCoordinates : Bool := false
  /-- The most facilities to load. -/
  limit : Option Int := none
  /-- How many facilities to pass over. -/
  offset : Int := 0
  includeUnpublished : Bool := false
  /-- Raw filters. -/
  filters : Value := .null
  /-- The options that were given in a form of their own, which is recorded. -/
  given : Fields := []

/-- The written form of options, where the values of filters are texts. -/
def Options.toValue (o : Options) : Value :=
  let usual : Fields := [("clear_index", .bool o.clearIndex),
    ("validate_coords", .bool o.validateCoordinates), ("limit", .ofOption (o.limit.map .int)),
    ("offset", .int o.offset), ("include_unpublished", .bool o.includeUnpublished),
    ("filters", .object (o.filters.fields.map fun f => (f.1, .text f.2.display)))]
  .object (o.given.foldl (fun fs f => Fields.put fs f.1 f.2) usual)

/-- A recorded run. -/
structure SyncRun where
  status : RunStatus := .running
  startedAt : Int
  finishedAt : Option Int := none
  indexed : Int := 0
  failed : Int := 0
  options : Options
  /-- The first of the errors, once the run has ended. -/
  errors : Option (List String) := none

namespace SyncRun

/-- The most errors that are recorded with a run. -/
def maxErrors : Nat := 100

def kind : String := "full"

def finish (now : Int) (status : RunStatus) (indexed : Int) (errors : List String) (r : SyncRun) :
    SyncRun :=
  { r with status := status, finishedAt := some now, indexed := indexed, failed := errors.length,
           errors := some (errors.take maxErrors) }

/-- What is recorded with a run beside its numbers. -/
def details (r : SyncRun) : Value :=
  .object (("options", r.options.toValue) ::
    match r.errors with
    | some errors => [("errors", .texts errors)]
    | none => [])

/-- The text of a moment on a clock that shows universal time. -/
def momentText (instant : Int) : String := (Timestamp.mk instant none).isoText

/-- The written form of a run; a full reindex removes nothing from the index. -/
def toValue (r : SyncRun) : Value :=
  .object [("run_type", .text kind), ("status", .text r.status.text), ("indexed", .int r.indexed),
    ("deleted", .int 0), ("failed", .int r.failed), ("details", r.details),
    ("started_at", .text (momentText r.startedAt)),
    ("finished_at", .ofText? (r.finishedAt.map momentText))]

end SyncRun
end Venues.Reindex
