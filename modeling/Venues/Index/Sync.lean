import Venues.Backends
import Venues.Index.Gateway
import Venues.Index.Projection

/-! # Keeping a document in line with its row

The document of a facility is brought in line with the row: a published facility that is not deleted
is projected and written, and for any other the document is removed. Doing it again changes nothing.
-/

namespace Venues.Index

open Store (Row Tables)

/-- What was done to bring a document in line with its row. -/
inductive Action where
  | indexed
  | removed
  deriving DecidableEq

def Action.text : Action → String
  | .indexed => "indexed"
  | .removed => "removed"

/-- A facility and its courts. -/
structure Loaded where
  facility : Facility
  courts : List Court

namespace Loaded

def ofFacility (t : Tables) (f : Facility) : Loaded := ⟨f, t.courtsOf f⟩

def rows (l : Loaded) : List Row := .facility l.facility :: l.courts.map .court

/-- The facility and its courts as their rows are shown. -/
def shown (look : Row → Row) (l : Loaded) : Loaded where
  facility := match look (.facility l.facility) with
    | .facility f => f
    | .court _ => l.facility
  courts := l.courts.map fun c =>
    match look (.court c) with
    | .court d => d
    | .facility _ => c

def document (l : Loaded) : Outcome Document := project l.facility l.courts

end Loaded

/-- The facility that a value names, with its courts. -/
def load (t : Tables) (id : Value) : Outcome (Option Loaded) := do
  match ← t.findUnique .facility id ["courts"] with
  | some (.facility f) => .ok (some (.ofFacility t f))
  | _ => .ok none

/-- Brings the document of a facility in line with what was loaded. -/
def bringInLine (g : Gateway) (id : Value) (loaded : Option Loaded) : Exchange Action :=
  match loaded with
  | some l =>
    if l.facility.isIndexable then do
      let document ← l.document
      g.put document
      return .indexed
    else do
      g.remove id.display
      return .removed
  | none => do
    g.remove id.display
    return .removed

/-- Brings the document of the facility that a value names in line with its row. -/
def indexOne {σ : Type} (b : Backends σ) (g : Gateway) (id : Value) (s : σ) : Outcome Action × σ :=
  let (tables, s) := b.tables s
  match tables.bind fun t => load t id with
  | .error f => (.error f, s)
  | .ok loaded => (bringInLine g id loaded).run b.client s

end Venues.Index
