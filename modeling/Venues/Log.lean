import Venues.Log.Template
import Venues.Settings

/-! # The log

A log line is an object with a fixed set of fields. A record is written if its severity reaches the
threshold of its logger. Two loggers that report on the backends have a threshold of their own,
which holds for the loggers below them too; all others follow the root.
-/

namespace Venues.Log

/-! ## Severities -/

/-- The severity of a level of the log; each level also has the names that stand for it. -/
def severity? : String → Option Nat
  | "CRITICAL" | "FATAL" => some 50
  | "ERROR" => some 40
  | "WARNING" | "WARN" => some 30
  | "INFO" => some 20
  | "DEBUG" => some 10
  | "NOTSET" => some 0
  | _ => none

/-- The name of a severity. -/
def severityName : Nat → String
  | 50 => "CRITICAL"
  | 40 => "ERROR"
  | 30 => "WARNING"
  | 20 => "INFO"
  | 10 => "DEBUG"
  | 0 => "NOTSET"
  | n => "Level " ++ toString n

/-- The capital letters for a letter of the names of levels: the long s, the i without a dot and two
ligatures have capitals among them. -/
def capitals (c : Char) : List Char :=
  if 'a' ≤ c ∧ c ≤ 'z' then [Char.ofNat (c.toNat - 32)]
  else if c = 'ı' then ['I']
  else if c = 'ſ' then ['S']
  else if c = 'ﬅ' ∨ c = 'ﬆ' then ['S', 'T']
  else [c]

/-- The severity that a name stands for, written in any case. Two names belong to other parts of the
log and are refused: the layout of a plain line and the table of styles. Any other name stands for
the severity of information. -/
def severityOf (name : String) : Outcome Nat :=
  match String.ofList (name.toList.flatMap capitals) with
  | "BASIC_FORMAT" => .error (.misuse (.unknownLevel "%(levelname)s:%(name)s:%(message)s"))
  | "_STYLES" => .error .incomparable
  | level => .ok ((severity? level).getD 20)

/-! ## Thresholds -/

/-- The loggers that have a threshold of their own. -/
def quietLoggers : List String := ["elastic_transport.transport", "sqlalchemy.engine"]

/-- Whether a logger is another one or stands below it. -/
def isUnder (logger parent : String) : Bool :=
  logger == parent || (parent ++ ".").toList.isPrefixOf logger.toList

/-- The severity that a record of a logger must reach. -/
def threshold (root : Nat) (logger : String) : Nat :=
  if quietLoggers.any (isUnder logger) then 30 else root

/-! ## Records -/

/-- A record that is offered to the log. -/
structure Record where
  logger : String
  severity : Nat
  /-- The message, with a place for each argument. -/
  template : String
  arguments : List Value
  module : String
  function : String
  /-- The whole second at which the record was made, counted from the start of 1970. -/
  created : Option Int

/-- The message of a record; a template without arguments stands for itself. -/
def Record.message? (r : Record) : Option String :=
  if r.arguments.isEmpty then some r.template
  else Template.fill r.template r.arguments

/-- The first second that a line can name, counted from the start of 1970. -/
def firstSecond : Int := -67768040609740800

/-- The last second that a line can name, counted from the start of 1970. -/
def lastSecond : Int := 67767976233532799

/-- Date and time of day of a second counted from the start of 1970. Years have no leading zeros. -/
def momentText? (created : Int) : Option String :=
  if firstSecond ≤ created ∧ created ≤ lastSecond then
    let seconds := created + Calendar.dayNumber 1970 1 1 * 86400
    let (year, month, day) := Calendar.civilDate (seconds.fdiv 86400)
    some (toString year ++ String.ofList ('-' :: paddedDigits 10 2 month ++ '-' :: paddedDigits 10 2 day
      ++ 'T' :: Timestamp.clockText (seconds.fmod 86400).toNat))
  else none

/-- The line of a record; none if its message or its moment cannot be written. -/
def Record.line? (r : Record) : Option Value := do
  let message ← r.message?
  let moment ← r.created.bind momentText?
  some (.object [("timestamp", .text moment),
    ("level", .text (severityName r.severity)), ("logger", .text r.logger),
    ("module", .text r.module), ("function", .text r.function), ("msg", .text message)])

/-! ## The log -/

/-- A log that writes the records which reach a threshold. -/
structure Config where
  root : Nat

/-- The log for a level given by name; without a name, that of the settings. -/
def Config.ofLevel (settings : Settings) (name : Option String) : Outcome Config :=
  let level := name.getD ""
  (severityOf (if level = "" then settings.logLevel else level)).map Config.mk

/-- The lines that a log writes for some records. -/
def Config.lines (c : Config) (records : List Record) : List Value :=
  (records.filter fun r => threshold c.root r.logger ≤ r.severity).filterMap Record.line?

end Venues.Log
