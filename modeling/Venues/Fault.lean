import Venues.Client.Error
import Venues.Issue
import Venues.Timestamp.Iso

/-! # Faults

A fault says why an operation has no result. Requests, backends and rows have faults with a stable
code, a message and details, reported by `Fault.report?`; the others are failures of a single kind.
The wording of every message stands in this module.
-/

namespace Venues

/-! ## Requests -/

/-- What is wrong with a listing request. -/
inductive RequestFault where
  | notObject
  | unknownKeys (keys allowed : List String)
  | limitOutOfRange (got : String)
  | termNotText
  | filtersNotObject
  | badFilterValue (name : String) (issue : Issue)
  | unknownFilter (name : String) (allowed : List String)
  | wildcardOnNonText (name : String)
  | geoNotObject
  | sortNotObject
  | unsupportedSort (field : String) (allowed : Option (List String))
  | unsupportedDirection (direction : String)
  | violations (found : List Violation)
  | geoUnavailable (surface : String)
  | pastWindow (start limit window : Int)
  | distanceWithoutGeo
  | unknownColumn (field model : String)
  | unknownRelation (relation model : String)

namespace RequestFault

/-- The name of the place a request fault speaks of, with an issue. -/
def placed (field issue : String) : Value := .object [("field", .text field), ("issue", .text issue)]

/-- The sentence that explains a request fault. -/
def message : RequestFault → String
  | .notObject => "Request must be an object"
  | .unknownKeys keys _ => "Unknown request field(s): " ++ ", ".intercalate keys
  | .limitOutOfRange _ => "limit must be between 1 and 100"
  | .termNotText => "term must be a string"
  | .filtersNotObject => "filters must be an object"
  | .badFilterValue name _ => "Invalid value for filter '" ++ name ++ "'"
  | .unknownFilter name _ => "Unknown filter field '" ++ name ++ "'"
  | .wildcardOnNonText name => "Wildcard matching is only supported on text filters, not '" ++ name ++ "'"
  | .geoNotObject => "geo must be an object with lat, lon and radius"
  | .sortNotObject => "sort must be an object with field and direction"
  | .unsupportedSort field _ => "Unsupported sort field '" ++ field ++ "'"
  | .unsupportedDirection direction => "Unsupported sort direction '" ++ direction ++ "'"
  | .violations [] => "Invalid request"
  | .violations (v :: _) =>
    if v.place.isEmpty then v.issue.sentence else v.field ++ ": " ++ v.issue.sentence
  | .geoUnavailable surface => "Geo filtering is not available on '" ++ surface ++ "'"
  | .pastWindow _ _ window => "Page ends past the first " ++ toString window ++ " results"
  | .distanceWithoutGeo => "sort=distance requires a geo filter (lat, lon, radius)"
  | .unknownColumn field model => "Unknown field '" ++ field ++ "' for " ++ model
  | .unknownRelation relation model => "Unknown relation '" ++ relation ++ "' for " ++ model

/-- The details of a request fault. -/
def details : RequestFault → Value
  | .notObject => .null
  | .unknownKeys keys allowed => .object [("fields", .texts keys), ("allowed", .texts allowed)]
  | .limitOutOfRange got => placed "page.limit" ("got " ++ got)
  | .termNotText => .object [("field", .text "term")]
  | .filtersNotObject => .object [("field", .text "filters")]
  | .badFilterValue name issue => placed ("filters." ++ name) issue.sentence
  | .unknownFilter name allowed =>
    .object [("field", .text ("filters." ++ name)), ("allowed", .texts allowed)]
  | .wildcardOnNonText name => placed ("filters." ++ name) "contains on non-text field"
  | .geoNotObject => .object [("field", .text "geo")]
  | .sortNotObject => .object [("field", .text "sort")]
  | .unsupportedSort _ none => .object [("field", .text "sort.field")]
  | .unsupportedSort _ (some allowed) =>
    .object [("field", .text "sort.field"), ("allowed", .texts allowed)]
  | .unsupportedDirection _ =>
    .object [("field", .text "sort.direction"), ("allowed", .texts ["asc", "desc"])]
  | .violations found =>
    .list (found.map fun v => .object [("field", .text v.field), ("issue", .text v.issue.sentence),
      ("type", .text v.issue.code)])
  | .geoUnavailable _ => placed "geo" "geo requires the search index"
  | .pastWindow start limit window =>
    placed "page.page"
      ("start " ++ toString start ++ " + limit " ++ toString limit ++ " > " ++ toString window)
  | .distanceWithoutGeo => placed "sort.field" "distance sort without geo"
  | .unknownColumn field _ => .object [("field", .text field)]
  | .unknownRelation relation _ => .object [("field", .text relation)]

end RequestFault

/-! ## Backends -/

/-- Why a backend did not do its work. -/
inductive BackendFault where
  | noIndex
  | indexFailed (action : String) (cause : ClientError)
  | storeFailed (reason : String)

namespace BackendFault

/-- Whether the index understood the request and refused it; any other failure is an outage. -/
def isRefusal : BackendFault → Bool
  | .indexFailed _ (.status code _) => !ClientError.isOutage code
  | _ => false

/-- The sentence that explains a backend fault. -/
def message : BackendFault → String
  | .noIndex => "Elasticsearch is disabled or unavailable"
  | .storeFailed _ => "Relational store unavailable"
  | .indexFailed action (.status code _) =>
    if ClientError.isOutage code then "Search index unavailable during " ++ action
    else "Search index rejected " ++ action
  | .indexFailed action _ => "Search index unavailable during " ++ action

/-- The details of a backend fault. -/
def details : BackendFault → Value
  | .noIndex => .null
  | .storeFailed reason => .object [("reason", .text reason)]
  | .indexFailed _ (.status code message) =>
    .object [("status", .int code), ("reason", .text (ClientError.status code message).text)]
  | .indexFailed _ cause => .object [("reason", .text cause.text)]

end BackendFault

/-! ## Rows -/

/-- Why a facility has no index document. -/
inductive ProjectionFault where
  | noName (facility : Uuid)
  | noCoordinates (facility : Uuid)

namespace ProjectionFault

/-- The sentence that explains why there is no document. -/
def message : ProjectionFault → String
  | .noName _ => "Facility has no name"
  | .noCoordinates _ => "Facility has no coordinates"

def details : ProjectionFault → Value
  | .noName id | .noCoordinates id => .object [("facility_id", .text id.text)]

end ProjectionFault

/-! ## Misuse -/

/-- A value that an operation cannot work with. -/
inductive Misuse where
  | malformedDistance (text : String)
  | unknownUnit (unit text : String)
  | infiniteAngle
  | unreadableNumber (text : String)
  | unreadableWhole (text : String)
  | wholeTooLong (digits : Nat)
  | malformedUuid
  | notANumber
  | itemWithoutField (field : String)
  | notRelational (surface : String)
  | notIndexed (surface : String)
  | noSurface
  | noIndex
  | noDatabaseUrl
  | badClient (reason : String)
  | unknownLevel (name : String)
  | unknownEventKind (name : String)
  | unreadableTime (fault : Timestamp.IsoFault) (text : String)
  | endlessRun

/-- The sentence that explains why a text is no timestamp. -/
def Timestamp.IsoFault.message (text : String) : Timestamp.IsoFault → String
  | .malformed | .offset => "Invalid isoformat string: " ++ Text.quoted text
  | .year => "year 0 is out of range"
  | .month => "month must be in 1..12"
  | .day => "day is out of range for month"
  | .hour => "hour must be in 0..23"
  | .minute => "minute must be in 0..59"
  | .second => "second must be in 0..59"

/-- The sentence that explains a misuse. -/
def Misuse.message : Misuse → String
  | .malformedDistance text => "Invalid distance '" ++ text ++ "'"
  | .unknownUnit unit text => "Unknown distance unit '" ++ unit ++ "' in '" ++ text ++ "'"
  | .infiniteAngle => "math domain error"
  | .unreadableNumber text => "could not convert string to float: " ++ Text.quoted text
  | .unreadableWhole text =>
    "invalid literal for int() with base 10: " ++ String.ofList ((Text.quoted text).toList.take 200)
  | .wholeTooLong digits =>
    "Exceeds the limit (4300 digits) for integer string conversion: value has " ++ toString digits
      ++ " digits; use sys.set_int_max_str_digits() to increase the limit"
  | .malformedUuid => "badly formed hexadecimal UUID string"
  | .notANumber => "cannot convert float NaN to integer"
  | .itemWithoutField field => "Cannot build a cursor from an item without '" ++ field ++ "'"
  | .notRelational surface => "Surface '" ++ surface ++ "' is not relational"
  | .notIndexed surface => "Surface '" ++ surface ++ "' is not index-backed"
  | .noSurface => "from_field_filters requires a surface"
  | .noIndex => "Elasticsearch is disabled or unavailable"
  | .noDatabaseUrl => "DATABASE_URL must be set in production"
  | .badClient reason => reason
  | .unknownLevel name => "Unknown level: " ++ Text.quoted name
  | .unreadableTime fault text => fault.message text
  | .unknownEventKind name => Text.quoted name ++ " is not a valid SearchOutboxEventType"
  | .endlessRun => "the run has no end"

/-! ## All faults -/

/-- Why an operation has no result. -/
inductive Fault where
  | request (fault : RequestFault)
  | backend (fault : BackendFault)
  | projection (fault : ProjectionFault)
  | schema (found : List Violation)
  | misuse (fault : Misuse)
  /-- The index client failed, and no one was there to explain. -/
  | client (cause : ClientError)
  /-- Two values have no order, or a value is of no use where it stands. -/
  | incomparable
  | missingKey
  | missingAttribute
  /-- A number is too large for where it goes. -/
  | overflow
  /-- A table does not exist. -/
  | noTable (name : String)
  /-- A change breaks a rule of its table. -/
  | conflict
  /-- A change names a row that is not there. -/
  | noRow
  /-- A change names a column that is not there. -/
  | noColumn
  /-- A row is gone when its changes are written. -/
  | staleRow
  /-- A row is gone when its session lets go of it. -/
  | detachedRow
  /-- An empty collection has no first item. -/
  | exhausted
  /-- A column is of no use where it stands. -/
  | misusedColumn
  /-- A value cannot be prepared for its column. -/
  | unbindable
  /-- A value has no form in the store. -/
  | unstorable

/-! ## Reports -/

/-- The families of faults that have a report. -/
inductive ReportKind where
  | search
  | input
  | unavailable
  | rejected
  | projection
  deriving DecidableEq

namespace ReportKind

/-- The stable code of a family. -/
def code : ReportKind → String
  | .search => "SEARCH_ERROR"
  | .input => "INVALID_FILTER_SPEC"
  | .unavailable => "BACKEND_UNAVAILABLE"
  | .rejected => "SEARCH_QUERY_REJECTED"
  | .projection => "DOCUMENT_BUILD_FAILED"

/-- Whether trying again later can help: it does when a backend is out of reach. -/
def retryable : ReportKind → Bool
  | .unavailable => true
  | _ => false

end ReportKind

/-- What a caller is told about a fault. -/
structure Report where
  kind : ReportKind
  message : String
  details : Value := .null
  code : String := kind.code

namespace Report

def retryable (r : Report) : Bool := r.kind.retryable

/-- The report in the form that is handed to callers. -/
def envelope (r : Report) : Value :=
  .object [("error_code", .text r.code), ("message", .text r.message), ("details", r.details),
    ("retryable", .bool r.retryable)]

end Report

/-- The report of a fault that has one. -/
def Fault.report? : Fault → Option Report
  | .request f => some { kind := .input, message := f.message, details := f.details }
  | .backend f =>
    some { kind := if f.isRefusal then .rejected else .unavailable, message := f.message, details := f.details }
  | .projection f => some { kind := .projection, message := f.message, details := f.details }
  | _ => none

/-- Whether a fault is an error of the client, and not one that is foreign to it. -/
def Fault.isOfClient : Fault → Bool
  | .client e => e.isKnown
  | _ => false

/-- Either a result or the fault that prevented it. -/
abbrev Outcome (α : Type) := Except Fault α

def refuse {α : Type} (fault : RequestFault) : Outcome α := .error (.request fault)

end Venues
