import Venues.Client.Exchange
import Venues.Index.Evaluate
import Venues.Page

/-! # The index in memory

A server holds indexes by name, and in each index documents by identity. A document that is written
again keeps its place. Some identities can be refused when several documents are loaded at once.
-/

namespace Venues.Index

/-! ## Documents -/

/-- The documents of an index, in the order in which their identities were first written. -/
abbrev Documents := List (String × Value)

namespace Documents

def get? (documents : Documents) (id : String) : Option Value := documents.lookup id

/-- Writes a document; one that is already there keeps its place. -/
def put (documents : Documents) (id : String) (document : Value) : Documents :=
  Fields.put documents id document

def remove (documents : Documents) (id : String) : Documents := documents.filter fun d => d.1 != id

/-- The size of all documents together, by the length of their texts. -/
def size (documents : Documents) : Nat :=
  documents.foldl (fun n d => n + d.2.display.length) 0

end Documents

/-! ## Servers -/

/-- The indexes of a server by name, and the identities that it refuses to load. -/
structure Server where
  indexes : List (String × Documents) := []
  refused : List String := []

namespace Server

def index? (s : Server) (name : String) : Option Documents := s.indexes.lookup name

/-- Gives an index its documents; an index that does not exist is created. -/
def setIndex (s : Server) (name : String) (documents : Documents) : Server :=
  let rec place : List (String × Documents) → List (String × Documents)
    | [] => [(name, documents)]
    | (n, d) :: rest => if n = name then (n, documents) :: rest else (n, d) :: place rest
  { s with indexes := place s.indexes }

def dropIndex (s : Server) (name : String) : Server :=
  { s with indexes := s.indexes.filter fun i => i.1 != name }

/-- Writes a document into an index, which is created if it does not exist. -/
def put (s : Server) (name id : String) (document : Value) : Server :=
  s.setIndex name (((s.index? name).getD []).put id document)

/-! ## Errors -/

/-- The error of a call for a document that does not exist. -/
def noDocument : ClientError := .status 404 "not_found"

/-- The error of a call for an index that does not exist. -/
def noIndex : ClientError := .status 404 "index_not_found_exception"

/-- The error of a call to create an index that exists. -/
def indexThere : ClientError := .status 400 "resource_already_exists_exception"

/-- The error of a search past the result window. -/
def pastWindow : ClientError :=
  .status 400 "illegal_argument_exception: Result window is too large"

/-! ## Replies -/

/-- The reply to a call that wrote or removed one document. -/
def written (name id result : String) : Value :=
  .object [("_index", .text name), ("_id", .text id), ("result", .text result)]

/-- The outcome of one of several documents that are loaded at once. -/
def loadOutcome (name id : String) (refused : Bool) : Value :=
  let place := [("_index", .text name), ("_id", .text id)]
  .object [("index", .object (place ++
    if refused then [("status", .int 400), ("error", .object
      [("type", .text "mapper_parsing_exception"), ("reason", .text "failed to parse field")])]
    else [("status", .int 201), ("result", .text "created")]))]

/-- Loads documents one after the other, with the outcome of each. -/
def loadAll (s : Server) (name : String) : Documents → List Value × Server
  | [] => ([], s)
  | (id, document) :: rest =>
    let refused := s.refused.contains id
    let s := if refused then s else s.put name id document
    let (outcomes, s) := loadAll s name rest
    (loadOutcome name id refused :: outcomes, s)

def hit (name : String) (f : Found) : Value :=
  .object [("_index", .text name), ("_id", .text f.id), ("_score", .float f.score),
    ("_source", f.source), ("sort", .list f.keys)]

def searchReply (name : String) (body : SearchBody) (found : List Found) : Value :=
  let hits := (portionOf body.start body.size found).map (hit name)
  .object [("took", .int 1), ("timed_out", .bool false), ("hits", .object [
    ("total", .object [("value", .int found.length), ("relation", .text "eq")]),
    ("max_score", .ofOption ((highestScore found).map .float)), ("hits", .list hits)])]

/-- The reply to a call for the size of an index. -/
def statsReply (documents : Documents) : Value :=
  let primaries := Value.object [("docs", .object [("count", .int documents.length)]),
    ("store", .object [("size_in_bytes", .int documents.size)])]
  .object [("_all", .object [("primaries", primaries), ("total", primaries)])]

/-! ## Calls -/

/-- Searches an index. -/
def search (s : Server) (name : String) (body : SearchBody) : Reply :=
  match s.index? name with
  | none => .error (.client noIndex)
  | some documents => do
    let found ← body.search documents
    if resultWindow < body.start + body.size then .error (.client pastWindow)
    else .ok (searchReply name body found)

/-- The document with an identity in an index, if both exist. -/
def document? (s : Server) (name id : String) : Option Value :=
  (s.index? name).bind fun documents => documents.get? id

def get (s : Server) (name id : String) : Reply :=
  match s.document? name id with
  | some document => .ok (.object [("_index", .text name), ("_id", .text id), ("found", .bool true),
      ("_source", document)])
  | none => .error (.client noDocument)

/-- Removes a document. -/
def remove (s : Server) (name id : String) : Reply × Server :=
  match s.index? name with
  | none => (.error (.client noDocument), s)
  | some documents =>
    if (documents.get? id).isNone then (.error (.client noDocument), s)
    else (.ok (written name id "deleted"), s.setIndex name (documents.remove id))

def createIndex (s : Server) (name : String) : Reply × Server :=
  if (s.index? name).isSome then (.error (.client indexThere), s)
  else (.ok (.object [("acknowledged", .bool true), ("index", .text name)]), s.setIndex name [])

/-- Answers a call. -/
def answer (call : Call) (s : Server) : Reply × Server :=
  match call with
  | .search name body => (s.search name body, s)
  | .get name id => (s.get name id, s)
  | .put name id document =>
    let result := if (s.document? name id).isSome then "updated" else "created"
    (.ok (written name id result), s.put name id document)
  | .remove name id => s.remove name id
  | .load name documents =>
    let (outcomes, t) := s.loadAll name documents
    (.ok (.object [("took", .int 1), ("errors", .bool (documents.any fun d => s.refused.contains d.1)),
      ("items", .list outcomes)]), t)
  | .indexExists name => (.ok (.bool (s.index? name).isSome), s)
  | .createIndex name _ _ => s.createIndex name
  | .dropIndex name =>
    if (s.index? name).isNone then (.error (.client noIndex), s)
    else (.ok (.object [("acknowledged", .bool true)]), s.dropIndex name)
  | .indexStats name => (.ok (statsReply ((s.index? name).getD [])), s)
  | .health _ => (.ok (.object [("status", .text "green"), ("number_of_nodes", .int 1)]), s)

/-- A client that is always connected to a server. -/
def client : Client Server where
  connect s := (.ok true, s)
  answer := answer

end Server
end Venues.Index
