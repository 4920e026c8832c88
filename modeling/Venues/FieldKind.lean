import Venues.Issue
import Venues.Number.Plain
import Venues.Text.LowerCase
import Venues.Timestamp.Read

/-! # Kinds of fields

Every registered field holds values of one kind. `FieldKind.read` accepts the values of the kind and
those that plainly stand for one: a numeral for a number, a word for a truth value, a written date
for a timestamp. `FieldKind.admits` says which values are of the kind already.
-/

namespace Venues

/-- The kind of the values of a field. -/
inductive FieldKind where
  | text
  | uuid
  | truth
  | time
  | whole
  | real
  deriving DecidableEq

/-! ## Reading one kind -/

def readText : Value → Except Issue String
  | .text s => .ok s
  | _ => .error .notText

def readUuid : Value → Except Issue Uuid
  | .uuid u => .ok u
  | .text s => ((Uuid.ofForm? s).map .ok).getD (.error .malformedUuid)
  | _ => .error .notUuid

/-- The words for true and false, in lower case. -/
def truthWord? : String → Option Bool
  | "1" | "on" | "t" | "true" | "y" | "yes" => some true
  | "0" | "off" | "f" | "false" | "n" | "no" => some false
  | _ => none

/-- Whether a whole number and its opposite have at most 64 bits: the floating-point numbers that count
as whole. -/
def isSmall (n : Int) : Bool := isShort n && isShort (-n)

/-- Reads a truth value. Of the numbers only 0 and 1 are words for one. -/
def readTruth : Value → Except Issue Bool
  | .bool b => .ok b
  | .text s =>
    ((truthWord? (String.ofList (s.toList.map Text.asciiLower))).map .ok).getD (.error .unreadableTruth)
  | .int n =>
    if n = 0 then .ok false
    else if n = 1 then .ok true
    else if isShort n then .error .unreadableTruth
    else .error .notTruth
  | .float x =>
    let size := Magnitude.ofFloat x
    if size = .ofInt 0 then .ok false
    else if size = .ofInt 1 then .ok true
    else if size.isWhole && (size.truncate?).any isSmall then .error .unreadableTruth
    else .error .notTruth
  | _ => .error .notTruth

/-- Reads a whole number. -/
def readWhole : Value → Except Issue Int
  | .bool b => .ok (if b then 1 else 0)
  | .int n => .ok n
  | .float x =>
    let size := Magnitude.ofFloat x
    match size.truncate? with
    | none => .error .notFinite
    | some n =>
      if !size.isWhole then .error .fractional
      else if isSmall n then .ok n
      else .error .tooManyDigits
  | .text s =>
    match readPlainInt s with
    | .ok n => .ok n
    | .error .malformed => .error .unreadableWhole
    | .error (.tooLong _) => .error .tooManyDigits
  | _ => .error .notWhole

/-- Reads a floating-point number. -/
def readReal : Value → Except Issue Float
  | .bool b => .ok (if b then 1 else 0)
  | .int n => ((realOfInt? n).map .ok).getD (.error .notNumber)
  | .float x => .ok x
  | .text s => ((readPlainFloat? s).map .ok).getD (.error .unreadableNumber)
  | _ => .error .notNumber

/-- A timestamp that was read, if it lies in the years 1 to 9999. -/
def inYears (t : Timestamp) : Except Issue Timestamp :=
  if Timestamp.inRange t.wall then .ok t else .error .timeOutOfRange

/-- Reads a timestamp. A whole number beyond all floating-point numbers is none at all. -/
def readTime : Value → Except Issue Timestamp
  | .time t => .ok t
  | .int n =>
    if (realOfInt? n).isNone then .error .notTime
    else ((Timestamp.ofCount? n).map inYears).getD (.error .timeOutOfRange)
  | .float x => ((Timestamp.ofFloat? x).map inYears).getD (.error .timeOutOfRange)
  | .text s => ((Timestamp.ofText? s).map inYears).getD (.error .unreadableTime)
  | _ => .error .notTime

namespace FieldKind

/-- Reads a value of a kind. -/
def read : FieldKind → Value → Except Issue Value
  | .text, v => (readText v).map .text
  | .uuid, v => (readUuid v).map .uuid
  | .truth, v => (readTruth v).map .bool
  | .time, v => (readTime v).map .time
  | .whole, v => (readWhole v).map .int
  | .real, v => (readReal v).map .float

/-- Whether a value is of a kind. -/
def admits : FieldKind → Value → Bool
  | .text, .text _ => true
  | .uuid, .uuid _ => true
  | .truth, .bool _ => true
  | .time, .time _ => true
  | .whole, .int _ => true
  | .real, .float _ => true
  | _, _ => false

/-- What is read for a kind is of the kind. -/
theorem admits_of_read {kind : FieldKind} {v w : Value} (h : kind.read v = .ok w) :
    kind.admits w = true := by
  cases kind <;> simp only [read] at h
  · cases hr : readText v <;> simp [hr, Except.map] at h; subst h; rfl
  · cases hr : readUuid v <;> simp [hr, Except.map] at h; subst h; rfl
  · cases hr : readTruth v <;> simp [hr, Except.map] at h; subst h; rfl
  · cases hr : readTime v <;> simp [hr, Except.map] at h; subst h; rfl
  · cases hr : readWhole v <;> simp [hr, Except.map] at h; subst h; rfl
  · cases hr : readReal v <;> simp [hr, Except.map] at h; subst h; rfl

end FieldKind
end Venues
