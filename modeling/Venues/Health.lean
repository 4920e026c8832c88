import Venues.Index.Gateway
import Venues.Outbox.Event
import Venues.Reindex.Run

/-! # Health

A health report says whether the index is reachable and how it is, how many documents it holds, how
the last full reindex ended, and how many events are waiting.
-/

namespace Venues.Health

open Index (exists?)

/-! ## Bookkeeping -/

/-- What the bookkeeping says; nothing if it cannot be read. -/
structure Bookkeeping where
  lastRun : Option Reindex.SyncRun
  pending : Nat

/-- The bookkeeping of the recorded runs and the events. -/
def Bookkeeping.of (runs : List Reindex.SyncRun) (events : List Outbox.Event) : Bookkeeping :=
  ⟨runs.getLast?, events.countP fun e => e.status == .pending⟩

/-- The written form of a run in a report, but for the identity of its row, which is drawn at random. -/
def runSummary (r : Reindex.SyncRun) : Value :=
  .object [("run_type", .text Reindex.SyncRun.kind), ("status", .text r.status.text),
    ("started_at", .text (Reindex.SyncRun.momentText r.startedAt)),
    ("finished_at", .ofText? (r.finishedAt.map Reindex.SyncRun.momentText)),
    ("indexed_count", .int r.indexed), ("failed_count", .int r.failed)]

/-! ## The index -/

/-- What is known of the index. -/
structure Findings where
  reachable : Bool := false
  status : Value := .null
  documents : Value := .null

/-- The names of the states in which an index can be reached. -/
def reachableStates : List String := ["green", "yellow", "red"]

/-- Whether a status is one in which the index can be reached. -/
def isReachable : Value → Bool
  | .text s => reachableStates.contains s
  | _ => false

/-- Goes on with another exchange where the client fails. -/
def orElse {α : Type} (x : Exchange α) (other : Exchange α) : Exchange α :=
  x.handle fun f => if f.isOfClient then other else .stop f

/-- The number of documents of an index that exists. -/
def countDocuments (index : String) : Exchange Value := do
  if ← exists? index then
    let sizes ← Exchange.call (.indexStats index)
    Index.Gateway.replyPath sizes ["_all", "primaries", "docs", "count"]
  else return .null

/-- Finds out about the index. If the client fails on the way, the index is not reachable. -/
def inspect (index : String) : Exchange Findings :=
  orElse
    (do
      let reply ← Exchange.call (.health none)
      let status := (← Index.replyFields reply).get "status"
      orElse
        (do
          let documents ← countDocuments index
          return { reachable := isReachable status, status := status, documents := documents })
        (pure { status := status }))
    (pure {})

/-! ## The report -/

/-- The report, given what is known. -/
def written (s : Settings) (enabled : Bool) (books : Option Bookkeeping) (f : Findings) : Value :=
  .object [("enabled", .bool enabled), ("reachable", .bool f.reachable),
    ("url", .text s.indexUrl), ("index", .text (Index.nameOf s)), ("cluster_status", f.status),
    ("doc_count", f.documents),
    ("last_sync_run", .ofOption ((books.bind (·.lastRun)).map runSummary)),
    ("pending_outbox", .ofOption (books.map fun b => .int b.pending))]

/-- The report on an index, which is asked over the shared connection unless a client is handed over for it. A
client that is handed over is asked even where the settings turn the index off. -/
def reportWith (handed : Bool) (s : Settings) (books : Option Bookkeeping) : Exchange Value := do
  let enabled := s.indexEnabled || handed
  if !enabled then return written s enabled books {}
  let connected ← if handed then pure true else Exchange.isConnected
  if connected then return written s enabled books (← inspect (Index.nameOf s))
  return written s enabled books {}

/-- The report over the shared connection. -/
def report (s : Settings) (books : Option Bookkeeping) : Exchange Value := reportWith false s books

end Venues.Health
