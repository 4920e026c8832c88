import Venues.Text.Word
import Venues.Text.LowerCase
import Venues.Text.Printable
import Venues.Text.Digit
import Venues.Text.Blank
import Venues.Number.Shortest
import Venues.Number.Read
import Venues.Uuid
import Venues.Facility
import Venues.Surface
import Venues.Query.Schema
import Venues.Index.Response
import Venues.Index.Projection
import Venues.Selection
import Venues.Predicate.Accepts
import Venues.Reindex.Candidates
import Venues.Page.Result
import Venues.Surface.Request
import Venues.Filter.Raw
import Venues.Page.Meta
import Venues.Geo
import Venues.FieldKind
import Venues.Value.Order
import Venues.Value.Display
import Venues.Timestamp.Read
import Venues.Settings
import Venues.Log
import Venues.Index.Definition
import Venues.Index.Wildcard
import Venues.Index.Relevance
import Venues.Index.Evaluate
import Venues.Index.Server
import Venues.Index.Gateway
import Venues.Client.Connection
import Venues.Store.Formula
import Venues.Store.Compile
import Venues.Store.Reading
import Venues.Listing
import Venues.Outbox.Emission
import Venues.Outbox.Worker
import Venues.Reindex
import Venues.Health
import Venues.Store.Session
import Venues.Deployment
import Venues.Query.Written
import Venues.Predicate.Written
import Venues.Value.Whole
import Venues.CommandLine
import Venues.Store.Record
import Venues.Main
import Venues.Proofs.Listing
import Venues.Proofs.Reindex.Stream
import Venues.Proofs.Reindex.Report
import Venues.Proofs.Index.Scroll
import Venues.Proofs.Outbox.LifeCycle
import Venues.Proofs.Outbox.Arrival
import Venues.Proofs.Float.Number
import Venues.Proofs.Surface.Normal
import Venues.Proofs.Outbox.Malformed
import Venues.Proofs.Store.Like
import Venues.Proofs.Store.Agreement
import Venues.Proofs.Listing.Agreement
import Venues.Proofs.Index.Agreement
import Venues.Proofs.Reindex.Rebuild
import Venues.Proofs.Listing.Continuation
import Venues.Proofs.Listing.Courts
import Venues.Proofs.Listing.Entries
import Venues.Proofs.Index.Wildcard
import Venues.Proofs.Index.Spelling
import Venues.Proofs.Outbox.Stale
import Venues.Proofs.Index.Meaning
import Venues.Proofs.Store.Suffix
import Venues.Proofs.Surface.Faults
import Venues.Proofs.Listing.Meaning
import Venues.Proofs.Store.Faults
import Venues.Proofs.Store.Outage
import Venues.Proofs.Listing.Faults
import Venues.Proofs.Index.Summaries
import Venues.Proofs.Store.Membership
import Venues.Proofs.Predicate.Raw
import Venues.Proofs.Surface.Prebuilt
import Venues.Proofs.Index.Storage
import Venues.Proofs.Index.Window
import Venues.Proofs.Float.Order
import Venues.Proofs.Index.Sorted
import Venues.Proofs.Index.Nearest
import Venues.Proofs.Reindex.Closed
import Venues.Proofs.Interleaving
import Venues.Proofs.Index.Bootstrap
import Venues.Proofs.Health
import Venues.Proofs.Sorting
import Venues.Proofs.Geo.Radius
import Venues.Proofs.Index.Moments
