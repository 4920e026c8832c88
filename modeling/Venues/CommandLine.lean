import Venues.Deployment
import Venues.Log

/-! # The command line

A command line names one command. Options stand before their values or are joined to them by an
equals sign; flags have no value. What is written last counts, and after two dashes no more options
follow. The answer to a command is a document, or one line that says what went wrong.
-/

namespace Venues.CommandLine

/-! ## Options and operands -/

/-- The options that a command knows. -/
structure Known where
  /-- The options that take a value. -/
  valued : List String := []
  flags : List String := []
  /-- Whether options may follow operands. -/
  mixed : Bool := true

/-- The words of a command line by their role. -/
structure Sorted where
  /-- The options with their values, the last first. -/
  values : List (String × String) := []
  flags : List String := []
  operands : List String := []

/-- The flag that asks for an explanation; every command knows it. -/
def helpFlag : String := "--help"

/-- Whether a word is an option; a single dash is an operand. -/
def isOption (word : String) : Bool := word.startsWith "-" && word != "-"

/-- An option with the value that an equals sign joins to it. -/
def splitJoined (word : String) : String × Option String :=
  let cs := word.toList
  match cs.dropWhile (· != '=') with
  | [] => (word, none)
  | _ :: rest => (String.ofList (cs.takeWhile (· != '=')), some (String.ofList rest))

/-- Sorts words by their role. Nothing if an option is unknown, lacks its value, or has one that it
does not take. -/
def sortWords (known : Known) (sorted : Sorted) : List String → Option Sorted
  | [] => some sorted
  | word :: rest =>
    let isValued (name : String) : Bool := known.valued.contains name
    if word = "--" then some { sorted with operands := sorted.operands ++ rest }
    else if isOption word then
      match splitJoined word, rest with
      | (name, some v), rest =>
        if isValued name then sortWords known { sorted with values := (name, v) :: sorted.values } rest
        else none
      | (name, none), v :: rest' =>
        if isValued name then sortWords known { sorted with values := (name, v) :: sorted.values } rest'
        else if name = helpFlag ∨ known.flags.contains name then
          sortWords known { sorted with flags := name :: sorted.flags } (v :: rest')
        else none
      | (name, none), [] =>
        if name = helpFlag ∨ known.flags.contains name then
          some { sorted with flags := name :: sorted.flags }
        else none
    else if known.mixed then sortWords known { sorted with operands := sorted.operands ++ [word] } rest
    else some { sorted with operands := sorted.operands ++ word :: rest }

namespace Sorted

def has (s : Sorted) (flag : String) : Bool := s.flags.contains flag

/-- The whole number that an option gives; nothing if its value is not one. -/
def whole? (s : Sorted) (name : String) (default : Option Int) : Option (Option Int) :=
  match s.values.lookup name with
  | none => some default
  | some text => (readFreeInt text).toOption.map some

end Sorted

/-! ## Commands -/

/-- What can be asked for. -/
inductive Command where
  /-- Creates the index unless it exists, or rebuilds it. -/
  | bootstrap (rebuild : Bool)
  | reindexAll (options : Reindex.Options)
  | reindexOne (id : String)
  | processOutbox (limit : Int)
  | stats
  | health
  | help

/-- The options of a command by its name. -/
def known? : String → Option Known
  | "bootstrap" => some { flags := ["--recreate"] }
  | "reindex-all" => some {
      valued := ["--limit", "--offset"],
      flags := ["--clear-index", "--validate-coords", "--include-unpublished"] }
  | "reindex-one" => some {}
  | "process-outbox" => some { valued := ["--limit"] }
  | "stats" => some {}
  | "health" => some {}
  | _ => none

/-- The command of a name with its options and operands. -/
def command? (name : String) (s : Sorted) : Option Command :=
  match name, s.operands with
  | "reindex-one", [id] => some (.reindexOne id)
  | "bootstrap", [] => some (.bootstrap (s.has "--recreate"))
  | "reindex-all", [] => do
    let limit ← s.whole? "--limit" none
    let offset ← s.whole? "--offset" (some 0)
    some (.reindexAll {
      clearIndex := s.has "--clear-index", validateCoordinates := s.has "--validate-coords",
      limit := limit, offset := offset.getD 0, includeUnpublished := s.has "--include-unpublished" })
  | "process-outbox", [] => do
    let limit ← s.whole? "--limit" (some 100)
    some (.processOutbox (limit.getD 100))
  | "stats", [] => some .stats
  | "health", [] => some .health
  | _, _ => none

/-- The options that stand before the name of a command. -/
def leading : Known := { valued := ["--log-level"], mixed := false }

/-- Reads a command line. Nothing if it makes no sense. The level of the log is judged as soon as the
name of the command is known, before the words behind the name. -/
def read? (settings : Settings) (words : List String) : Option (Outcome Command) := do
  let front ← sortWords leading {} words
  if front.has helpFlag then some (.ok .help)
  else
    match front.operands with
    | [] => none
    | name :: rest => do
      let known ← known? name
      match Log.Config.ofLevel settings (front.values.lookup "--log-level") with
      | .error f => some (.error f)
      | .ok _ => do
        let s ← sortWords known {} rest
        if s.has helpFlag then some (.ok .help) else (command? name s).map .ok

def usage : String :=
  "\n".intercalate ["[--log-level LEVEL] COMMAND", "  bootstrap [--recreate]",
    "  reindex-all [--clear-index] [--validate-coords] [--limit N] [--offset N]",
    "              [--include-unpublished]",
    "  reindex-one ID", "  process-outbox [--limit N]", "  stats", "  health"]

/-! ## Answers -/

/-- The answer to a command line. -/
structure Answer where
  exitCode : Nat := 0
  /-- What is printed as a document. -/
  document : Option Value := none
  /-- What is printed beside it. -/
  complaint : String := ""
  /-- The fault that no one was there to explain. -/
  fault : Option Fault := none

namespace Answer

/-- The answer to a command line that makes no sense. -/
def misuse : Answer := { exitCode := 2 }

/-- The answer after an operation that none of its faults is expected of. -/
def ofOutcome (outcome : Outcome Value) : Answer :=
  match outcome with
  | .ok v => { document := some v }
  | .error f => { exitCode := 1, fault := some f }

/-- The answer after an operation whose faults are told in one line, if they have a report. -/
def told (what : String) (outcome : Outcome Value) : Answer :=
  match outcome with
  | .ok v => { document := some v }
  | .error f =>
    match f.report? with
    | some r => { exitCode := 1, complaint := what ++ " failed: " ++ r.message ++ "\n" }
    | none => { exitCode := 1, fault := some f }

/-- The answer after a full reindex; it failed if there are errors and nothing was loaded. -/
def ofReindex (outcome : Outcome Reindex.Report) : Answer :=
  match outcome with
  | .ok r => { exitCode := if r.status = .failed then 1 else 0, document := some r.toValue }
  | .error f => { exitCode := 1, fault := some f }

end Answer

/-- Carries out a command. -/
def Command.carryOut (d : Deployment) : Command → Answer × Deployment
  | .bootstrap rebuild =>
    let (outcome, d') := d.exchange fun g =>
      if rebuild then return Index.recreateReport g.index (← g.recreateIndex)
      else return Index.ensureReport g.index (← g.ensureIndex)
    (.told "Bootstrap" outcome, d')
  | .reindexAll options =>
    let (outcome, d') := d.reindexAll none options []
    (.ofReindex (outcome.map (·.1)), d')
  | .reindexOne id =>
    let (outcome, d') := d.indexOne (.text id)
    (.told "Reindex" (outcome.map (Deployment.indexMessage (.text id))), d')
  | .processOutbox limit =>
    let (outcome, d') := d.processOutbox limit
    (.ofOutcome (outcome.map (·.toValue)), d')
  | .stats =>
    let (outcome, d') := d.exchange fun g => g.stats
    (.told "Stats" outcome, d')
  | .health =>
    let (outcome, d') := d.health true
    (.ofOutcome outcome, d')
  | .help => ({}, d)

/-- Reads a command line and carries out its command. -/
def run (words : List String) (d : Deployment) : Answer × Deployment :=
  match read? d.settings words with
  | some (.ok c) => c.carryOut d
  | some (.error f) => (.ofOutcome (.error f), d)
  | none => (.misuse, d)

end Venues.CommandLine
