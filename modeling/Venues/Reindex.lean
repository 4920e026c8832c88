import Venues.Index.Sync
import Venues.Reindex.Candidates
import Venues.Reindex.Run

/-! # Full reindex

A full reindex reads the candidates batch by batch, in the order of their creation, and loads the
documents of each batch at once. Each batch starts behind the sort keys of the last row of the batch
before, so rows that come and go do not move the others. Whatever cannot be loaded becomes an error
of its own and does not stop the run.
-/

namespace Venues.Reindex

open Index (Gateway Loaded)
open Store (Row Tables Reading)

variable {σ : Type}

/-! ## Progress -/

/-- How many facilities are in the index, and one line for each that is not. -/
structure Report where
  indexed : Int := 0
  errors : List String := []

namespace Report

def toValue (r : Report) : Value := .object [("indexed", .int r.indexed), ("errors", .texts r.errors)]

/-- The status of a run that ends with a report: it failed if there are errors and nothing else. -/
def status (r : Report) : RunStatus :=
  if !r.errors.isEmpty ∧ r.indexed = 0 then .failed else .done

end Report

/-- How far a run has come. -/
structure Progress where
  report : Report := {}
  /-- The sort keys of the last row that was read. -/
  after : Option Fields := none
  skip : Int
  remaining : Option Int

/-! ## Documents of a batch -/

def streamOrder : RowOrder := [("created_at", .asc), ("id", .asc)]

def coordinateError (f : Facility) : String :=
  let degrees (x? : Option Float) : String := (Value.ofOption (x?.map .float)).display
  f.id.text ++ ": invalid coordinates (" ++ degrees f.latitude ++ ", " ++ degrees f.longitude ++ ")"

/-- The documents of some facilities, and one error for each that has none. -/
def mapBatch (validate : Bool) : List Loaded → Outcome (List Document × List String)
  | [] => .ok ([], [])
  | l :: ls =>
    if validate && !l.facility.hasValidCoordinates then do
      let (documents, errors) ← mapBatch validate ls
      .ok (documents, coordinateError l.facility :: errors)
    else
      match l.document with
      | .ok document => do
        let (documents, errors) ← mapBatch validate ls
        .ok (document :: documents, errors)
      | .error (.projection fault) => do
        let (documents, errors) ← mapBatch validate ls
        .ok (documents, (l.facility.id.text ++ ": " ++ fault.message) :: errors)
      | .error fault => .error fault

/-- Loads documents at once. If the request fails as a whole, each of them is an error. -/
def loadBatch (g : Gateway) (documents : List Document) : Exchange Report :=
  let failed (fault : BackendFault) : Report :=
    { errors := documents.map fun d => d.id ++ ": " ++ fault.message }
  let loaded : Exchange Report := do
    let loaded ← g.load documents
    return ⟨loaded.indexed, loaded.errors⟩
  loaded.handle fun
    | .backend fault => pure (failed fault)
    | fault => .stop fault

/-! ## Batches -/

/-- What a run is to do. -/
structure Plan where
  gateway : Gateway
  filter : Predicate
  batchSize : Int
  validate : Bool

def Plan.take (plan : Plan) (p : Progress) : Int :=
  match p.remaining with
  | some n => min plan.batchSize n
  | none => plan.batchSize

/-- The reading of the next batch. -/
def Plan.reading (plan : Plan) (p : Progress) : Reading where
  filter := some plan.filter
  order := streamOrder
  skip := p.skip
  take := some (plan.take p)
  relations := ["courts"]
  after := p.after

def loadedOf (t : Tables) (rows : List Row) : List Loaded :=
  rows.filterMap fun
    | .facility f => some (.ofFacility t f)
    | .court _ => none

/-- The sort keys of a row in the order of reading. -/
def streamKeys (r : Row) : Fields := streamOrder.map fun o => (o.1, r.values.get o.1)

def Progress.add (p : Progress) (mapped : List String) (loaded : Report) : Report :=
  ⟨p.report.indexed + loaded.indexed, p.report.errors ++ mapped ++ loaded.errors⟩

def Progress.advance (p : Progress) (batch : List Row) (report : Report) : Progress where
  report := report
  after := batch.getLast?.map streamKeys
  skip := 0
  remaining := p.remaining.map (· - batch.length)

/-- Maps and loads the facilities of a batch, which are held meanwhile. The next batch starts behind
what the last row shows in the end. -/
def work (b : Backends σ) (plan : Plan) (p : Progress) (found : List Loaded) (s : σ) :
    Outcome Progress × σ :=
  let s := b.hold (found.flatMap Loaded.rows) s
  match mapBatch plan.validate (found.map (Loaded.shown (b.shown s))) with
  | .error fault => (.error fault, s)
  | .ok (documents, errors) =>
    match (loadBatch plan.gateway documents).run b.client s with
    | (.error fault, s) => (.error fault, s)
    | (.ok loaded, s) =>
      let rows := found.map fun l => b.shown s (.facility l.facility)
      let (released, s) := b.release (found.flatMap Loaded.rows) s
      (released.map fun _ => p.advance rows (p.add errors loaded), s)

/-- Reads and loads one batch. The flag says whether another batch may follow. -/
def batch (b : Backends σ) (plan : Plan) (p : Progress) (s : σ) : Outcome (Bool × Progress) × σ :=
  let (tables, s) := b.tables s
  match tables.bind fun t => (t.findMany .facility (plan.reading p)).map (loadedOf t) with
  | .error (.backend fault) =>
    let errors := p.report.errors ++ ["store: " ++ fault.message]
    (.ok (false, { p with report := { p.report with errors := errors } }), s)
  | .error fault => (.error fault, s)
  | .ok [] => (.ok (false, p), s)
  | .ok found =>
    let (outcome, s) := work b plan p found s
    (outcome.map fun next => (decide (plan.take p ≤ found.length), next), s)

def Progress.isOpen (p : Progress) : Bool := p.remaining.all fun n => decide (0 < n)

/-- Reads and loads batch after batch until none may follow. Where rows are added faster than they are
read there may be no end, and then there is no answer. -/
def Plan.batches (b : Backends σ) (plan : Plan) (p : Progress) (s : σ) : Option (Outcome Progress × σ) :=
  if p.isOpen then
    match batch b plan p s with
    | (.error fault, s) => some (.error fault, s)
    | (.ok (true, p), s) => plan |>.batches b p s
    | (.ok (false, p), s) => some (.ok p, s)
  else some (.ok p, s)
partial_fixpoint

/-! ## Runs -/

/-- Brings the index into being: rebuilds it, or creates it unless it exists. -/
def prepare (g : Gateway) (clear : Bool) : Exchange Unit := do
  if clear then let _ ← g.recreateIndex
  else let _ ← g.ensureIndex

/-- A reindex that was started: the candidates are known, and the run is recorded as running. -/
structure Started where
  plan : Plan
  run : SyncRun

/-- Starts a reindex; filters that make no sense are refused. A batch size of zero means that of the
settings. -/
def start (g : Gateway) (batchSize : Option Int) (options : Options) (now : Int) : Outcome Started := do
  let filter ← candidates options.filters options.includeUnpublished
  let size := match batchSize with
    | some n => if n = 0 then g.settings.batchSize else n
    | none => g.settings.batchSize
  .ok { plan := ⟨g, filter, size, options.validateCoordinates⟩,
        run := { startedAt := now, options := options } }

/-- The progress of a run that has not read anything. -/
def Progress.first (o : Options) : Progress := { skip := max 0 o.offset, remaining := o.limit }

/-- The report of a run with the run as it is recorded. -/
def closed (now : Int) (status : RunStatus) (report : Report) (run : SyncRun) : Report × SyncRun :=
  (report, run.finish now status report.indexed report.errors)

/-- Carries out a reindex, if it comes to an end. -/
def Started.carryOut (b : Backends σ) (now : Int) (started : Started) (s : σ) :
    Option (Outcome (Report × SyncRun) × σ) :=
  let run := started.run
  let gateway := started.plan.gateway
  if !gateway.settings.indexEnabled then
    some (.ok (closed now .disabled { errors := ["index: Elasticsearch is disabled"] } run), s)
  else
    match (prepare gateway run.options.clearIndex).run b.client s with
    | (.error (.backend fault), s) =>
      some (.ok (closed now .failed { errors := ["index: " ++ fault.message] } run), s)
    | (.error fault, s) => some (.error fault, s)
    | (.ok _, s) =>
      (started.plan.batches b (.first run.options) s).map fun r =>
        (r.1.map fun p => closed now p.report.status p.report run, r.2)

end Venues.Reindex
