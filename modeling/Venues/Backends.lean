import Venues.Client.Exchange
import Venues.Store.Reading

/-! # Backends

The two backends of a run: a client for the search index, and the system of record, whose rows may
be out of reach and may change from one reading to the next. Rows that are worked on can be held: they
show changes to them before these are written. What stands behind the backends is a state of any
kind.
-/

namespace Venues

/-- The backends of a run, over a state of any kind. -/
structure Backends (σ : Type) where
  client : Client σ
  /-- The rows at the moment of a reading. -/
  tables : σ → Outcome Store.Tables × σ
  /-- Holds rows that were read. -/
  hold : List Store.Row → σ → σ := fun _ s => s
  /-- What a row shows; without changes it is what was read. -/
  shown : σ → Store.Row → Store.Row := fun _ r => r
  /-- Lets go of rows that were held. -/
  release : List Store.Row → σ → Outcome Unit × σ := fun _ s => (.ok (), s)

end Venues
