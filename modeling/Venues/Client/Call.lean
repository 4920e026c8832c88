import Venues.Index.Clause

/-! # Calls

A call is one request to the search index. Its written form is the name of the request with its
arguments.
-/

namespace Venues

open Index (SearchBody)

/-- A request to the search index. -/
inductive Call where
  | search (index : String) (body : SearchBody)
  | get (index id : String)
  | put (index id : String) (document : Value)
  | remove (index id : String)
  /-- Writes several documents, each under its identity. -/
  | load (index : String) (documents : List (String × Value))
  | indexExists (index : String)
  | createIndex (index : String) (settings mappings : Value)
  | dropIndex (index : String)
  | indexStats (index : String)
  /-- The health of all that serves an index, or of everything. -/
  | health (index : Option String)

/-- The answer to a call: most of its faults are those of the client. -/
abbrev Reply := Outcome Value

namespace Call

/-! ## Written form -/

/-- The name of a call. -/
def name : Call → String
  | .search .. => "search"
  | .get .. => "get"
  | .put .. => "index"
  | .remove .. => "delete"
  | .load .. => "bulk"
  | .indexExists _ => "indices.exists"
  | .createIndex .. => "indices.create"
  | .dropIndex _ => "indices.delete"
  | .indexStats _ => "indices.stats"
  | .health _ => "cluster.health"

/-- The written operation on one of several documents: an action, and the document behind it. -/
def operations (index : String) (document : String × Value) : List Value :=
  [.object [("index", .object [("_index", .text index), ("_id", .text document.1)])], document.2]

/-- When a written document can be found: the call waits until then. -/
def refresh : String × Value := ("refresh", .text "wait_for")

/-- The arguments of a call. -/
def arguments : Call → Value
  | .search index body => .object [("index", .text index), ("body", body.written)]
  | .get index id => .object [("index", .text index), ("id", .text id)]
  | .put index id document =>
    .object [("index", .text index), ("id", .text id), ("document", document), refresh]
  | .remove index id => .object [("index", .text index), ("id", .text id), refresh]
  | .load index documents =>
    .object [("operations", .list (documents.flatMap (operations index))), refresh]
  | .indexExists index | .dropIndex index | .indexStats index => .object [("index", .text index)]
  | .createIndex index settings mappings =>
    .object [("index", .text index), ("settings", settings), ("mappings", mappings)]
  | .health (some index) => .object [("index", .text index)]
  | .health none => .object []

end Call
end Venues
