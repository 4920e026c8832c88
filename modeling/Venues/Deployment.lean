import Venues.Health
import Venues.Index.Server
import Venues.Listing
import Venues.Outbox.Worker
import Venues.Reindex
import Venues.Store.Session

/-! # Deployments

A deployment is all that one installation works on: its settings and its clock, the rows of
facilities and courts, the bookkeeping, and an index in memory. Each operation answers and leaves the
deployment as it is afterwards, also when it ends with a fault.
-/

namespace Venues

open Index (Gateway Server)
open Outbox (Event EventKind)
open Reindex (SyncRun)
open Store (Tables Model Row Session Change)

/-- One installation. -/
structure Deployment where
  settings : Settings
  /-- The moment that the clock shows, in microseconds since the first moment of the year 1. -/
  now : Int
  tables : Tables := {}
  /-- The events, the oldest first; nothing if their table is lost. -/
  events : Option (List Event) := some []
  /-- The recorded runs, the oldest first; nothing if their table is lost. -/
  runs : Option (List SyncRun) := some []
  server : Server := {}
  /-- The calls that fail, by name. -/
  failing : List (String × ClientError) := []

namespace Deployment

variable {α : Type}

/-! ## Backends -/

def clock (d : Deployment) : Timestamp := ⟨d.now, some 0⟩

/-- The answer to a call, which may be one of those that fail. -/
def answer (call : Call) (d : Deployment) : Reply × Deployment :=
  match d.failing.lookup call.name with
  | some e => (.error (.client e), d)
  | none =>
    let (reply, server) := d.server.answer call
    (reply, { d with server := server })

/-- The client of a deployment; it is connected unless the settings turn the index off. -/
def client : Client Deployment where
  connect d := (.ok d.settings.indexEnabled, d)
  answer := answer

def backends : Backends Deployment where
  client := client
  tables d := (.ok d.tables, d)

def gateway (d : Deployment) : Gateway := Gateway.ofSettings d.settings ""

def exchange (d : Deployment) (x : Gateway → Exchange α) : Outcome α × Deployment :=
  (x d.gateway).run client d

/-! ## Bookkeeping -/

def theEvents (d : Deployment) : Outcome (List Event) :=
  match d.events with
  | some events => .ok events
  | none => .error (.noTable "search_outbox")

def theRuns (d : Deployment) : Outcome (List SyncRun) :=
  match d.runs with
  | some runs => .ok runs
  | none => .error (.noTable "search_sync_run")

def bookkeeping (d : Deployment) : Option Health.Bookkeeping :=
  match d.runs, d.events with
  | some runs, some events => some (.of runs events)
  | _, _ => none

def addEvents (d : Deployment) (pending : Outbox.Pending) : Deployment :=
  { d with events := d.events.map (Outbox.emit (fun _ => true) pending) }

/-- Writes the event of a kind, by its name, for a facility. -/
def emit (d : Deployment) (kind : String) (facility : Value) : Outcome Unit × Deployment :=
  match EventKind.ofText? kind, Session.identity facility with
  | none, _ => (.error (.misuse (.unknownEventKind kind)), d)
  | _, .error f => (.error f, d)
  | some kind, .ok id => (.ok (), d.addEvents [(.uuid id, kind)])

/-- Adds one event, whose table must be there. The table takes numbers of at most 64 bits. -/
def addEvent (d : Deployment) (e : Event) : Outcome Unit × Deployment :=
  match d.theEvents with
  | .ok events =>
    if isShort e.retries then (.ok (), { d with events := some (events ++ [e]) })
    else (.error .overflow, d)
  | .error f => (.error f, d)

def addRun (d : Deployment) (run : SyncRun) : Deployment :=
  { d with runs := d.runs.map (· ++ [run]) }

/-- Loses a table for good. -/
def lose (d : Deployment) (table : String) : Deployment :=
  match table with
  | "facilities" => { d with tables := { d.tables with lost := .facility :: d.tables.lost } }
  | "courts" => { d with tables := { d.tables with lost := .court :: d.tables.lost } }
  | "search_outbox" => { d with events := none }
  | "search_sync_run" => { d with runs := none }
  | _ => d

/-! ## Sessions -/

def session (d : Deployment) : Session := Session.start d.clock d.tables

def keep (d : Deployment) (s : Session) : Deployment :=
  { d with tables := s.committed }.addEvents s.emitted

/-- Makes changes in one session and ends it. The answer says whether facilities are left for which
no event was asked. -/
def change (d : Deployment) (changes : List Change) (last : Change) : Outcome Bool × Deployment :=
  let (outcome, s) := d.session.changeAll (changes ++ [last])
  (outcome.map fun _ => !s.pending.isEmpty, d.keep s)

/-- The facilities that changes touch before they are flushed. -/
def collect (d : Deployment) (changes : List Change) : Outcome Outbox.Pending × Deployment :=
  let (outcome, s) := d.session.changeAll changes
  (outcome.bind fun _ => s.nextFlush.map .ofFlush, d.keep s)

/-! ## Search and index -/

def search (d : Deployment) (request : Value) : Outcome Index.HitPage × Deployment :=
  match Surface.facilitySearch.normalize request with
  | .ok q => d.exchange fun g => g.search q
  | .error f => (.error f, d)

/-- The identities on the pages that answer a request, from the first page on, for at most `fuel`
pages. -/
def walk (d : Deployment) (request : Value) (fuel : Nat) : Outcome (List (List String)) :=
  let page (cursor? : Option String) : Outcome (List String × Option String) := do
    let p ← (d.search (atCursor request cursor?)).1
    .ok (p.hits.map fun h => h.document.id, p.details.nextCursor)
  Venues.walk page fuel none

/-- Brings the document of a facility in line with its row. -/
def indexOne (d : Deployment) (id : Value) : Outcome Index.Action × Deployment :=
  Index.indexOne backends d.gateway id d

/-- What is told after the document of a facility was brought in line with its row. -/
def indexMessage (id : Value) (action : Index.Action) : Value :=
  let what := match action with
    | .indexed => " indexed"
    | .removed => " removed from index"
  .object [("message", .text ("Facility " ++ id.display ++ what))]

/-- The document of the facility that a value names. -/
def projection (t : Tables) (id : Value) : Outcome Document := do
  match ← Index.load t id with
  | some l => l.document
  | none => .error .missingAttribute

def loadAll (d : Deployment) (ids : List Value) : Outcome Gateway.Loaded × Deployment :=
  match ids.mapM (projection d.tables) with
  | .ok documents => d.exchange fun g => g.load documents
  | .error f => (.error f, d)

def health (d : Deployment) (withBooks : Bool) : Outcome Value × Deployment :=
  d.exchange fun _ => Health.report d.settings (if withBooks then d.bookkeeping else none)

/-! ## Outbox -/

def terms (d : Deployment) : Outbox.Terms := ⟨d.now, d.settings.outboxRetries⟩

/-- Processes a batch of events. -/
def processOutbox (d : Deployment) (limit : Int) : Outcome Outbox.BatchStats × Deployment :=
  if !d.settings.indexEnabled then (.ok { enabled := false }, d)
  else
    match d.theEvents with
    | .error f => (.error f, d)
    | .ok events =>
      let ((outcome, events), d) := Outbox.processBatch backends d.gateway d.terms limit events d
      (outcome, { d with events := some events })

def dueEvents (d : Deployment) (limit : Int) : Outcome (List Event) := do
  let events ← d.theEvents
  if isShort limit then .ok (Outbox.due d.now limit events) else .error .overflow

/-- Marks the oldest event as failed. -/
def failOldest (d : Deployment) (reason : String) (retry : Bool) : Outcome Unit × Deployment :=
  match d.theEvents with
  | .error f => (.error f, d)
  | .ok [] => (.error .missingAttribute, d)
  | .ok (e :: events) =>
    match e.fail d.now d.settings.outboxRetries reason retry with
    | .error f => (.error f, d)
    | .ok e => (.ok (), { d with events := some (e :: events) })

/-- Moves the clock, which shows no moment outside the years 1 to 9999. -/
def advance (d : Deployment) (micros : Int) : Outcome Unit × Deployment :=
  let now := d.now + micros
  if Timestamp.inRange now then (.ok (), { d with now := now }) else (.error .overflow, d)

/-! ## Reindex -/

/-- A deployment during a reindex: with the session of the run, the sizes of the loads so far, and
the changes that are made in this session after some of the loads. -/
structure Running where
  deployment : Deployment
  session : Session
  sizes : List Nat := []
  interference : List (Nat × List Change) := []

namespace Running

/-- Notes the size of a load that succeeded, and makes the changes that follow it. -/
def afterLoad (r : Running) (size : Nat) : Outcome Unit × Running :=
  let sizes := r.sizes ++ [size]
  let changes := (r.interference.lookup sizes.length).getD []
  let (outcome, s) := r.session.changeAll changes
  (outcome, { r with session := s, sizes := sizes })

/-- The answer to a call during a run. -/
def answer (call : Call) (r : Running) : Reply × Running :=
  let (reply, d) := r.deployment.answer call
  let r := { r with deployment := d }
  match call, reply with
  | .load _ documents, .ok v =>
    let (outcome, r) := r.afterLoad documents.length
    (outcome.map fun _ => v, r)
  | _, reply => (reply, r)

/-- The backends of a run: rows are read and held in the session of the run. -/
def backends : Backends Running where
  client := {
    connect := fun r => (.ok r.deployment.settings.indexEnabled, r)
    answer := answer }
  tables r := (.ok r.session.rows, r)
  hold rows r := { r with session := r.session.pin rows }
  shown r row := r.session.shown row
  release rows r :=
    let (outcome, s) := r.session.release rows
    (outcome, { r with session := s })

end Running

/-- Loads all candidates. The sizes of the loads come with the report. -/
def reindexAll (d : Deployment) (batchSize : Option Int) (options : Reindex.Options)
    (interference : List (Nat × List Change)) : Outcome (Reindex.Report × List Nat) × Deployment :=
  match Reindex.start d.gateway batchSize options d.now, d.theRuns with
  | .error f, _ | _, .error f => (.error f, d)
  | .ok started, .ok _ =>
    let r : Running := { deployment := d, session := d.session, interference := interference }
    match started.carryOut Running.backends d.now r with
    | none => (.error (.misuse .endlessRun), d)
    | some (.error f, r) => (.error f, (r.deployment.keep r.session).addRun started.run)
    | some (.ok (report, run), r) =>
      match r.session.commit with
      | (.error f, s) => (.error f, (r.deployment.keep s).addRun started.run)
      | (.ok _, s) => (.ok (report, r.sizes), (r.deployment.keep s).addRun run)

end Deployment
end Venues
