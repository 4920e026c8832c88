import Venues.Index.Bootstrap
import Venues.Index.Response
import Venues.Surface

/-! # The gateway to the index

All work on the index goes through a gateway, which knows the name of the index. The errors of the
client come out as backend faults that name the action they prevented; so does a missing connection.
-/

namespace Venues.Index

/-- A gateway to one index. -/
structure Gateway where
  settings : Settings
  index : String

namespace Gateway

variable {α : Type}

/-- The gateway to the index of the settings, or to another one by name. -/
def ofSettings (s : Settings) (name : String) : Gateway :=
  ⟨s, if name = "" then nameOf s else name⟩

/-! ## Errors -/

/-- Names the action that an error of the client prevented. -/
def explained (action : String) (x : Exchange α) : Exchange α :=
  x.handle fun
    | .client e => .stop (if e.isKnown then .backend (.indexFailed action e) else .client e)
    | f => .stop f

def connected : Exchange Unit := Exchange.require (.backend .noIndex)

/-! ## The index itself -/

/-- Creates the index unless it exists; says whether it was created. -/
def ensureIndex (g : Gateway) : Exchange Bool := do
  connected
  explained "index bootstrap" (ensure g.settings g.index)

/-- Rebuilds the index empty; says whether there was one. -/
def recreateIndex (g : Gateway) : Exchange Bool := do
  connected
  explained "index rebuild" (recreate g.settings g.index)

/-! ## Search -/

/-- Runs a search. A query that has no search body is refused before anything is asked. -/
def search (g : Gateway) (q : Query) : Exchange HitPage := do
  let body ← SearchBody.ofQuery Surface.facilitySearch q
  connected
  let reply ← explained "search" (Exchange.call (.search g.index body))
  readResponse q reply

/-! ## Single documents -/

/-- Reads the document in a reply. -/
def readFound (reply : Value) : Outcome (Option Document) := do
  let fs ← replyFields reply
  if ((fs.get? "found").getD (.bool true)).truthy then
    let source ← replyField reply "_source"
    ((Schema.document source).mapError Fault.schema).map some
  else .ok none

/-- The document with an identity, if the index holds one. -/
def get (g : Gateway) (id : String) : Exchange (Option Document) := do
  connected
  match ← explained "get" ((some <$> Exchange.call (.get g.index id)).orAbsent none) with
  | some reply => readFound reply
  | none => pure none

def put (g : Gateway) (document : Document) : Exchange Unit := do
  connected
  let _ ← explained "index" (Exchange.call (.put g.index document.id document.source))

/-- Removes the document with an identity; it does not matter if there is none. -/
def remove (g : Gateway) (id : String) : Exchange Unit := do
  connected
  explained "delete" ((do let _ ← Exchange.call (.remove g.index id)).orAbsent ())

/-! ## Many documents -/

/-- What became of documents that were loaded at once: how many are in the index, and one line for
each of the others. -/
structure Loaded where
  indexed : Int := 0
  errors : List String := []

namespace Loaded

/-- What became of some documents and of some more. -/
def plus (a b : Loaded) : Loaded := ⟨a.indexed + b.indexed, a.errors ++ b.errors⟩

def toValue (l : Loaded) : Value := .object [("indexed", .int l.indexed), ("errors", .texts l.errors)]

end Loaded

/-- The reason for which a document was not loaded. -/
def loadReason (outcome : Fields) : String :=
  match outcome.get "error" with
  | .object fs => ((Fields.get fs "reason").orElse ((Fields.get fs "type").orElse (.text "unknown error"))).display
  | error =>
    if error.truthy then error.display else "status " ++ (outcome.get "status").display

/-- Whether the outcome of a document says that it was not loaded. -/
def isFailure (outcome : Value) : Outcome Bool :=
  match outcome with
  | .object fs =>
    if Fields.has fs "error" then .ok true
    else
      let status := (Fields.get? fs "status").getD (.int 200)
      match (Value.int 300).lt? status with
      | some above => .ok (above || status.same (.int 300))
      | none => .error .incomparable
  | .list _ | .text _ => .error .missingAttribute
  | _ => .error .incomparable

/-- What became of one document, by its item in the reply. -/
def readOutcome (item : Value) : Outcome Loaded :=
  match item with
  | .object ((_, outcome) :: _) => do
    let failed ← isFailure outcome
    let fs := outcome.fields
    .ok (if failed then { errors := [(fs.get "_id").display ++ ": " ++ loadReason fs] }
      else { indexed := 1 })
  | .object [] => .error .exhausted
  | _ => .error .missingAttribute

/-- Loads documents at once; each one is loaded or refused on its own. -/
def load (g : Gateway) (documents : List Document) : Exchange Loaded := do
  if documents.isEmpty then return {}
  connected
  let sources := documents.map fun d => (d.id, d.source)
  let reply ← explained "bulk index" (Exchange.call (.load g.index sources))
  let fs ← replyFields reply
  let items ← replyItems ((fs.get? "items").getD (.list []))
  let outcomes ← (items.mapM readOutcome : Outcome (List Loaded))
  return outcomes.foldl Loaded.plus {}

/-! ## Diagnostics -/

def replyPath (reply : Value) : List String → Outcome Value
  | [] => .ok reply
  | name :: names => do replyPath (← replyField reply name) names

/-- The number of documents, the size and the health of the index. -/
def stats (g : Gateway) : Exchange Value := do
  connected
  let replies? ← explained "stats" (do
    if ← exists? g.index then
      let sizes ← Exchange.call (.indexStats g.index)
      let health ← Exchange.call (.health (some g.index))
      return some (sizes, health)
    else return none)
  match replies? with
  | none => return .object [("index", .text g.index), ("exists", .bool false), ("doc_count", .int 0),
      ("store_size_bytes", .int 0)]
  | some (sizes, health) =>
    let primaries ← replyPath sizes ["_all", "primaries"]
    let count ← replyPath primaries ["docs", "count"]
    let size ← replyPath primaries ["store", "size_in_bytes"]
    let status := (← replyFields health).get "status"
    return .object [("index", .text g.index), ("exists", .bool true), ("doc_count", count),
      ("store_size_bytes", size), ("health", status)]

end Gateway
end Venues.Index
