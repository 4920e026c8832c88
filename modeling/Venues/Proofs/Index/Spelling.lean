import Venues.Proofs.Deployment
import Venues.Proofs.Index.Sync

/-! # Spellings of identities

A row is found under every spelling of its identity. Its document is written under the one text that the
identity has, but a document is removed under the text that was given. So a document is brought in line
under any spelling while its row is to be found; if it is not, only the text of the identity removes the
document, and under every other spelling it stays.
-/

namespace Venues

open Index (Action Gateway Loaded Server bringInLine inLine wanted)
open Store (Tables)

variable {t : Tables} {id : Value} {u : Uuid}

theorem Index.load_of_identity? (names : Tables.identity? id = some u) : Index.load t id = Index.load t (.uuid u) := by
  have canonical : Tables.identity? (.uuid u) = some u := rfl
  simp only [Index.load, Tables.findUnique, Tables.named, names, canonical]

namespace Deployment

variable {d : Deployment} {g : Gateway} {c : Call} {e : ClientError}

/-! ## Calls that may fail -/

theorem run_connected : Gateway.connected.run client d =
    (if d.settings.indexEnabled then .ok () else .error (.backend .noIndex), d) := by
  show Exchange.run client (if d.settings.indexEnabled then pure () else Exchange.stop (.backend .noIndex)) d = _
  split <;> rfl

theorem run_call (passes : d.failing.lookup c.name = none) :
    (Exchange.call c).run client d = ((d.server.answer c).1, { d with server := (d.server.answer c).2 }) := by
  show d.answer c = _
  rw [answer, passes]

theorem run_call_failing (fails : d.failing.lookup c.name = some e) :
    (Exchange.call c).run client d = (.error (.client e), d) := by
  show d.answer c = _
  rw [answer, fails]

/-- What is done once there is a connection succeeds, or there is a fault and nothing has changed. In a calm
deployment there is none. -/
theorem run_connected_cases {x : Exchange Unit} {server : Server}
    (runs : d.failing.lookup c.name = none → x.run client d = (.ok (), { d with server := server }))
    (fails : ∀ e, d.failing.lookup c.name = some e → ∃ fault, x.run client d = (.error fault, d)) :
    (Gateway.connected >>= fun _ => x).run client d = (.ok (), { d with server := server }) ∨
      ¬ d.IsCalm ∧ ∃ fault, (Gateway.connected >>= fun _ => x).run client d = (.error fault, d) := by
  have connects := @run_connected d
  by_cases enabled : d.settings.indexEnabled = true
  · rw [if_pos enabled] at connects
    rw [Exchange.run_bind connects]
    cases named : d.failing.lookup c.name with
    | none => exact .inl (runs named)
    | some e =>
      refine .inr ⟨fun calm => ?_, fails e named⟩
      rw [calm.failing] at named
      cases named
  · rw [if_neg enabled] at connects
    exact .inr ⟨fun calm => enabled calm.enabled, _, Exchange.run_bind_error connects⟩

theorem run_put_cases (document : Document) :
    (g.put document).run client d =
        (.ok (), { d with server := d.server.put g.index document.id document.source }) ∨
      ¬ d.IsCalm ∧ ∃ fault, (g.put document).run client d = (.error fault, d) := by
  refine run_connected_cases (c := .put g.index document.id document.source) (fun passes => ?_) fun e fails => ?_
  · exact Exchange.run_bind (Exchange.run_handle (run_call passes))
  · exact ⟨_, Exchange.run_bind_error (Exchange.run_handle_error (run_call_failing fails))⟩

/-- Whether no call to remove a document is made to fail as if there were none. -/
def IsHonest (d : Deployment) : Prop := ∀ e, d.failing.lookup "delete" = some e → e.isNotFound = false

theorem run_remove_cases (honest : d.IsHonest) (name : String) :
    (g.remove name).run client d = (.ok (), { d with server := (d.server.remove g.index name).2 }) ∨
      ¬ d.IsCalm ∧ ∃ fault, (g.remove name).run client d = (.error fault, d) := by
  refine run_connected_cases (c := .remove g.index name) (fun passes => ?_) fun e fails => ?_
  · have called := run_call passes
    -- a document that is not there counts as removed
    rcases @Server.reply_remove d.server g.index name with ⟨reply, done⟩ | absent
    · rw [show d.server.answer (.remove g.index name) = d.server.remove g.index name from rfl, done] at called
      exact Exchange.run_handle (Exchange.run_handle (Exchange.run_bind called))
    · rw [show d.server.answer (.remove g.index name) = d.server.remove g.index name from rfl, absent] at called
      exact Exchange.run_handle (Exchange.run_handle_error (Exchange.run_bind_error called))
  · have refuses : ((do let _ ← Exchange.call (.remove g.index name)).orAbsent ()).run client d =
        (.error (.client e), d) := by
      refine (Exchange.run_handle_error (Exchange.run_bind_error (run_call_failing fails))).trans ?_
      simp only [honest e fails]
      rfl
    exact ⟨_, Exchange.run_handle_error refuses⟩

/-! ## Bringing documents in line -/

/-- What is done to a document that is to be the one of a row, or to be gone. -/
def actionFor (document? : Option Value) : Action := if document?.isSome then .indexed else .removed

/-- What becomes of the document of the facility with an identity when a value that names it is brought in
line: the document is the one of its row, or what is removed has the text of the value. -/
structure Brings (d : Deployment) (id : Value) (u : Uuid) (outcome : Outcome Action) (server : Server) : Prop where
  indexed : outcome = .ok .indexed → ∃ f document, d.tables.facility? u = some f ∧ f.isIndexable = true ∧
    project f (d.tables.courtsOf f) = .ok document ∧
    d.server.Sets server d.gateway.index u.text (some document.source)
  removed : outcome = .ok .removed → (∀ f, d.tables.facility? u = some f → f.isIndexable = false) ∧
    d.server.Sets server d.gateway.index id.display none
  failed : ∀ fault, outcome = .error fault → server = d.server
  calm : d.IsCalm → d.tables.lost = [] → outcome = (wanted d.tables u).map actionFor

theorem brings_error {fault : Fault} (fails : d.IsCalm → d.tables.lost = [] → wanted d.tables u = .error fault) :
    d.Brings id u (.error fault) d.server where
  indexed done := by cases done
  removed done := by cases done
  failed _ _ := rfl
  calm calm present := by rw [fails calm present]; rfl

theorem exists_brings_removed (honest : d.IsHonest)
    (hidden : ∀ f, d.tables.facility? u = some f → f.isIndexable = false) :
    ∃ outcome server, (do d.gateway.remove id.display; return .removed : Exchange Action).run client d =
      (outcome, { d with server := server }) ∧ d.Brings id u outcome server := by
  have wants : wanted d.tables u = .ok none := by
    rw [wanted]
    split
    · rename_i f found
      rw [hidden f found]
      rfl
    · rfl
  rcases run_remove_cases (g := d.gateway) honest id.display with removes | ⟨disturbed, fault, fails⟩
  · exact ⟨_, _, Exchange.run_bind removes, {
      indexed := fun done => by cases done
      removed := fun _ => ⟨hidden, Server.sets_remove⟩
      failed := fun fault failed => by cases failed
      calm := fun _ _ => by rw [wants]; rfl }⟩
  · exact ⟨_, _, Exchange.run_bind_error fails, brings_error fun calm => absurd calm disturbed⟩

theorem exists_brings_indexed {f : Facility} {document : Document} (found : d.tables.facility? u = some f)
    (indexable : f.isIndexable = true) (made : project f (d.tables.courtsOf f) = .ok document) :
    ∃ outcome server, (do d.gateway.put document; return .indexed : Exchange Action).run client d =
      (outcome, { d with server := server }) ∧ d.Brings id u outcome server := by
  have text : document.id = u.text := by rw [id_of_project made, (Tables.mem_of_facility? found).2]
  have wants : wanted d.tables u = .ok (some document.source) := by
    simp only [wanted, found, indexable, if_true, made]
    rfl
  have sets : d.server.Sets (d.server.put d.gateway.index document.id document.source) d.gateway.index u.text
      (some document.source) := by
    rw [← text]
    exact Server.sets_put
  rcases run_put_cases (g := d.gateway) (d := d) document with writes | ⟨disturbed, fault, fails⟩
  · exact ⟨_, _, Exchange.run_bind writes, {
      indexed := fun _ => ⟨f, document, found, indexable, made, sets⟩
      removed := fun done => by cases done
      failed := fun fault failed => by cases failed
      calm := fun _ _ => by rw [wants]; rfl }⟩
  · exact ⟨_, _, Exchange.run_bind_error fails, brings_error fun calm => absurd calm disturbed⟩

theorem indexOne_of_identity? (names : Tables.identity? id = some u) : d.indexOne id =
    match Index.load d.tables (.uuid u) with
    | .error fault => (.error fault, d)
    | .ok loaded => (bringInLine d.gateway id loaded).run client d := by
  rw [← Index.load_of_identity? names]
  rfl

theorem exists_brings (names : Tables.identity? id = some u) (honest : d.IsHonest) :
    ∃ outcome server, d.indexOne id = (outcome, { d with server := server }) ∧ d.Brings id u outcome server := by
  -- the spelling is lost on the way to the row, and comes back only where a document is removed
  rw [indexOne_of_identity? names]
  rcases Index.load_cases (t := d.tables) (u := u) with loads | ⟨lost, reason, fails⟩
  · rw [loads]
    cases found : d.tables.facility? u with
    | none => exact exists_brings_removed honest fun f there => by cases found.symm.trans there
    | some f =>
      simp only [Option.map_some, bringInLine, Loaded.ofFacility, Loaded.document]
      by_cases indexable : f.isIndexable = true
      · rw [if_pos indexable]
        cases made : project f (d.tables.courtsOf f) with
        | ok document => exact exists_brings_indexed found indexable made
        | error fault =>
          refine ⟨_, d.server, rfl, brings_error fun _ _ => ?_⟩
          simp only [wanted, found, indexable, if_true, made]
          rfl
      · rw [if_neg indexable]
        refine exists_brings_removed honest fun f' there => ?_
        cases found.symm.trans there
        simpa using indexable
  · rw [fails]
    exact ⟨_, d.server, rfl, brings_error fun _ present => absurd present lost⟩

/-- In a calm deployment the document of a facility is brought in line with the row. -/
theorem exists_inLine (calm : d.IsCalm) (present : d.tables.lost = []) (u : Uuid) :
    ∃ server, d.indexOne (.uuid u) = ((wanted d.tables u).map actionFor, { d with server := server }) ∧
      d.server.Sets server d.gateway.index u.text
        (inLine d.tables u (d.server.document? d.gateway.index u.text)) := by
  have honest : d.IsHonest := fun e failing => by rw [calm.failing] at failing; cases failing
  obtain ⟨outcome, server, ran, brings⟩ := exists_brings (show Tables.identity? (.uuid u) = some u from rfl) honest
  have result := brings.calm calm present
  refine ⟨server, by rw [ran, result], ?_⟩
  rcases wants : wanted d.tables u with fault | document?
  · -- the row has no document, so nothing has changed
    rw [wants] at result
    rw [brings.failed fault result, Index.inLine_of_error wants]
    exact Server.sets_self
  · rw [wants] at result
    cases document? with
    | none =>
      rw [Index.inLine_of_wanted wants]
      exact (brings.removed result).2
    | some document =>
      obtain ⟨f, made, found, indexable, projected, sets⟩ := brings.indexed result
      simpa only [inLine, found, indexable, if_true, projected] using sets

/-- Bringing the facility that a value names in line changes the index at most. The document of a facility that
is said to be indexed is the one of its row. A facility that is said to be removed is not to be found, and no
document has the text of the value any more: if this is the text of the identity, the document of the facility
is gone, and otherwise it is there as it was. If there is a fault, nothing has changed. -/
theorem exists_indexOne (names : Tables.identity? id = some u) (honest : d.IsHonest) :
    ∃ outcome server, d.indexOne id = (outcome, { d with server := server }) ∧ d.Brings id u outcome server ∧
      (outcome = .ok .removed → server.document? d.gateway.index u.text =
        if u.text = id.display then none else d.server.document? d.gateway.index u.text) := by
  obtain ⟨outcome, server, ran, brings⟩ := exists_brings names honest
  exact ⟨outcome, server, ran, brings, fun removed => (brings.removed removed).2.held u.text⟩

/-- A deployment whose only facility has a document, but is no longer to be found. -/
def closedBowl : Deployment where
  settings := {}
  now := 0
  tables := { facilities := [{ (default : Facility) with id := ⟨10⟩, isPublished := some false }] }
  server := { indexes := [("venue_facilities", [((⟨10⟩ : Uuid).text, .object [("name", .text "bowl")])])] }

theorem exists_indexOne_closedBowl : ∃ outcome server,
    closedBowl.indexOne (.uuid ⟨10⟩) = (outcome, { closedBowl with server := server }) ∧
      outcome = .ok .removed ∧ server.document? "venue_facilities" (⟨10⟩ : Uuid).text = none := by
  have calm : closedBowl.IsCalm := ⟨rfl, rfl⟩
  have honest : closedBowl.IsHonest := fun e failing => by cases failing
  obtain ⟨outcome, server, ran, brings, gone⟩ := exists_indexOne (show Tables.identity? (.uuid ⟨10⟩) = some ⟨10⟩ from rfl) honest
  have removed : outcome = .ok .removed := (brings.calm calm rfl).trans rfl
  exact ⟨outcome, server, ran, removed, (gone removed).trans (if_pos rfl)⟩

/-- In upper case the same identity is said to be removed as well, but the document is still there. -/
theorem indexOne_upperCase :
    Tables.identity? (.text "00000000-0000-0000-0000-00000000000A") = some ⟨10⟩ ∧
      (closedBowl.indexOne (.text "00000000-0000-0000-0000-00000000000A")).1 = .ok .removed ∧
      (closedBowl.indexOne (.text "00000000-0000-0000-0000-00000000000A")).2.server.document?
        "venue_facilities" (⟨10⟩ : Uuid).text = some (.object [("name", .text "bowl")]) := by
  refine ⟨by decide +kernel, ?_, ?_⟩
  · rfl
  · rfl

end Deployment
end Venues
