import Venues.Client.Exchange
import Venues.Index.Definition

/-! # Bringing an index into being

An index is created with its mapping and settings, dropped if it is there, or rebuilt empty. These
exchanges need a connection and hand on the errors of the client as they are.
-/

namespace Venues.Index

def create (s : Settings) (name : String) : Exchange Unit := do
  let _ ← Exchange.call (.createIndex name (indexSettings s) mapping)

def drop (name : String) : Exchange Bool :=
  (do let _ ← Exchange.call (.dropIndex name); return true).orAbsent false

def exists? (name : String) : Exchange Bool := do
  return (← Exchange.call (.indexExists name)).truthy

/-- Creates an index unless it exists; says whether it was created. -/
def ensure (s : Settings) (name : String) : Exchange Bool := do
  if ← exists? name then return false
  create s name
  return true

/-- Drops an index if it exists and creates it; says whether it was dropped. -/
def recreate (s : Settings) (name : String) : Exchange Bool := do
  let dropped ← drop name
  create s name
  return dropped

/-- Goes on only with a connection; without one, to ask for work on an index makes no sense. -/
def connected {α : Type} (x : Exchange α) : Exchange α := do
  Exchange.require (.misuse .noIndex)
  x

/-! ## Reports -/

/-- What is told of an index that was to exist. -/
def ensureReport (name : String) (created : Bool) : Value :=
  .object [("created", .bool created), ("index_name", .text name)]

/-- What is told of an index that was rebuilt. -/
def recreateReport (name : String) (dropped : Bool) : Value :=
  .object [("created", .bool true), ("deleted", .bool dropped), ("index_name", .text name)]

end Venues.Index
