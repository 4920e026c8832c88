import Venues.Index.Sync
import Venues.Outbox.Event

/-! # Processing events

The worker takes the events that are due, the oldest first, and brings the documents they name up to
date. An event whose payload makes no sense fails for good, and so does one whose facility cannot be
projected; if a backend fails, the event is tried again later. A fault that is none of these ends the
batch, and the event that caused it is left where it stood.
-/

namespace Venues.Outbox

open Index (Gateway)

variable {σ : Type}

/-! ## One event -/

/-- What a fault means for the event that caused it. -/
def verdictOf : Fault → Outcome Verdict
  | .projection f => .ok (.failed ("Document build failed: " ++ f.message) false)
  | f =>
    match f.report? with
    | some r => .ok (.failed ("Index update failed: " ++ r.message) r.retryable)
    | none => .error f

/-- Does for a facility what an event asks for. -/
def carryOut (b : Backends σ) (g : Gateway) (kind : EventKind) (id : Uuid) (s : σ) :
    Outcome Verdict × σ :=
  match kind with
  | .upserted =>
    match Index.indexOne b g (.uuid id) s with
    | (.ok _, s) => (.ok .done, s)
    | (.error f, s) => (verdictOf f, s)
  | .deleted =>
    match (g.remove id.text).run b.client s with
    | (.ok _, s) => (.ok .done, s)
    | (.error f, s) => (verdictOf f, s)

/-- Processes an event. -/
def judge (b : Backends σ) (g : Gateway) (e : Event) (s : σ) : Outcome Verdict × σ :=
  match e.namedFacility with
  | .error f => (.error f, s)
  | .ok v =>
    if !v.truthy then (.ok (.failed "Missing facility_id in payload" false), s)
    else
      match v with
      | .text t =>
        match Uuid.ofText? t with
        | none => (.ok (.failed ("Invalid facility_id in payload: " ++ t) false), s)
        | some id =>
          match EventKind.ofText? e.kind with
          | some kind => carryOut b g kind id s
          | none => (.ok (.failed ("Unknown event type: " ++ e.kind) false), s)
      | _ => (.error .missingAttribute, s)

/-! ## Batches -/

/-- What became of a batch. -/
structure BatchStats where
  processed : Nat := 0
  done : Nat := 0
  failed : Nat := 0
  enabled : Bool := true

namespace BatchStats

def count (stats : BatchStats) (verdict : Verdict) : BatchStats :=
  match verdict with
  | .done => { stats with processed := stats.processed + 1, done := stats.done + 1 }
  | .failed .. => { stats with processed := stats.processed + 1, failed := stats.failed + 1 }

def toValue (stats : BatchStats) : Value :=
  .object [("processed", .int stats.processed), ("done", .int stats.done),
    ("failed", .int stats.failed), ("enabled", .bool stats.enabled)]

end BatchStats

/-- The time of processing, and the number of failures at which an event is given up. -/
structure Terms where
  now : Int
  maxFailures : Int

/-- Processes the events that are due, up to a number of them; without a number, all. -/
def workOff (b : Backends σ) (g : Gateway) (terms : Terms) :
    Option Nat → BatchStats → List Event → σ → (Outcome BatchStats × List Event) × σ
  | _, stats, [], s => ((.ok stats, []), s)
  | some 0, stats, events, s => ((.ok stats, events), s)
  | budget, stats, e :: events, s =>
    if e.isDue terms.now then
      let (verdict, s) := judge b g e s
      let concluded := verdict.bind fun v =>
        (e.conclude terms.now terms.maxFailures v).map fun e => (v, e)
      match concluded with
      | .error f => ((.error f, { e with status := .processing } :: events), s)
      | .ok (v, e) =>
        let ((result, rest), s) := workOff b g terms (budget.map (· - 1)) (stats.count v) events s
        ((result, e :: rest), s)
    else
      let ((result, rest), s) := workOff b g terms budget stats events s
      ((result, e :: rest), s)

/-- The number of events that a limit allows; a negative limit allows all. -/
def budgetOf (limit : Int) : Option Nat := if limit < 0 then none else some limit.toNat

/-- Processes a batch of events, unless the index is turned off. -/
def processBatch (b : Backends σ) (g : Gateway) (terms : Terms) (limit : Int) (events : List Event)
    (s : σ) : (Outcome BatchStats × List Event) × σ :=
  if !g.settings.indexEnabled then ((.ok { enabled := false }, events), s)
  else if !isShort limit then ((.error .overflow, events), s)
  else workOff b g terms (budgetOf limit) {} events s

/-- The events that are due, the oldest first, up to a limit. -/
def due (now : Int) (limit : Int) (events : List Event) : List Event :=
  let found := events.filter (Event.isDue now)
  match budgetOf limit with
  | some n => found.take n
  | none => found

end Venues.Outbox
