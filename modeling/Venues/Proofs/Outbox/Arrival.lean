import Venues.Proofs.Outbox.Convergence
import Venues.Proofs.Store.Transaction

/-! # Committed changes reach the index

What the index is to hold of a facility depends on the rows that are part of it. So a transaction that
changes it has touched the facility, unless a row has left it, and there is an event. Processing the event
brings the index in line with the rows, unless it tells of a deletion and the facility is there again: that
a facility was deleted is not forgotten within a transaction.
-/

namespace Venues

open Store (Tables Row Session Change)

/-! ## What the index is to hold -/

namespace Index

variable {t t' : Tables} {u : Uuid}

theorem facility?_of_part (same : t'.part u .facility = t.part u .facility) : t'.facility? u = t.facility? u := by
  have first (t : Tables) : t.facility? u = (t.facilities.filter fun f => f.id == u).head? :=
    List.head?_filter.symm
  have part (t : Tables) : t.part u .facility = (t.facilities.filter fun f => f.id == u).map Row.facility :=
    List.filter_map
  rw [part, part] at same
  rw [first, first, List.map_injective_iff.mpr (fun f g same => Row.facility.inj same) same]

theorem courtsOf_of_part (same : t'.part u .court = t.part u .court) {f : Facility} (id : f.id = u) :
    t'.courtsOf f = t.courtsOf f := by
  have part (t : Tables) : t.part u .court = (t.courts.filter (Tables.owns f)).map Row.court := by
    rw [← id]
    exact List.filter_map
  rw [part, part] at same
  rw [Tables.courtsOf, Tables.courtsOf, List.map_injective_iff.mpr (fun c d same => Row.court.inj same) same]

theorem wanted_of_part (same : ∀ m, t'.part u m = t.part u m) : wanted t' u = wanted t u := by
  rw [wanted, wanted, facility?_of_part (same .facility)]
  cases found : t.facility? u with
  | none => rfl
  | some f => simp only [courtsOf_of_part (same .court) (Tables.mem_of_facility? found).2]

end Index

/-! ## Events of a transaction -/

namespace Deployment

open Outbox (Event EventKind)

variable {d : Deployment} {s s' : Session} {u : Uuid}

theorem events_keep {notes : Outbox.Pending} {events : List Event} (emitted : s'.emitted = s.emitted ++ notes)
    (there : (d.keep s).events = some events) :
    (d.keep s').events = some (events ++ notes.map fun p => Event.ofFacility p.1 p.2) := by
  obtain ⟨old, present, rfl⟩ := Option.map_eq_some_iff.mp (show d.events.map _ = some events from there)
  show d.events.map _ = _
  rw [present, Option.map_some, emitted]
  simp [Outbox.emit_eq]

/-- A transaction asks for an event of each facility of which the index is to hold something else than before,
unless a row leaves the facility and no flush touches it. The event tells of a deletion if one of the flushes
deleted the facility. A healthy worker that processes it brings the index in line with the rows, whatever the
index held, unless the facility was deleted and is there again. The next transaction of the session can begin. -/
theorem changes_arrive (begins : s.Begins) (present : s.committed.lost = []) {changes : List Change}
    (waits : ∀ c ∈ changes, c.Waits) (done : s.changeAll (changes ++ [.commit]) = (.ok (), s'))
    {events : List Event} (there : (d.keep s).events = some events) :
    s'.Begins ∧ s'.committed.lost = [] ∧ ∃ new, (d.keep s').events = some (events ++ new) ∧
      ∀ u, Index.wanted s'.committed u ≠ Index.wanted s.committed u →
        (∀ p ∈ s.flushPoints (changes ++ [.commit]), p.Leaves u →
          ∃ q ∈ s.flushPoints (changes ++ [.commit]), q.Touches u) →
        ∃ kind, Event.ofFacility (.uuid u) kind ∈ new ∧
          (kind = .deleted ↔ ∃ p ∈ s.flushPoints (changes ++ [.commit]), p.Deletes u) ∧
          ((kind = .deleted → s'.committed.facility? u = none) →
            ∀ worker : Deployment, worker.IsCalm → worker.tables = s'.committed →
              ∀ document?, Index.wanted s'.committed u = .ok document? →
                ∃ server, Outbox.judge backends worker.gateway (.ofFacility (.uuid u) kind) worker =
                    (.ok .done, { worker with server := server }) ∧
                  server.document? worker.gateway.index u.text = document?) := by
  obtain ⟨begins', lost, notes, emitted, each⟩ := begins.exists_notes waits done
  refine ⟨begins', lost.trans present, _, events_keep emitted there, fun u differs left => ?_⟩
  obtain ⟨noted, same⟩ := each u
  -- of a facility that no flush touched, and no row left, the index is to hold what it held
  have touched : ∃ p ∈ s.flushPoints (changes ++ [.commit]), p.Touches u := by
    by_contra untouched
    exact differs (Index.wanted_of_part (same fun p member =>
      ⟨fun touches => untouched ⟨p, member, touches⟩, fun leaves => untouched (left p member leaves)⟩))
  obtain ⟨kind, entry⟩ := noted.touched_iff.mpr touched
  refine ⟨kind, List.mem_map.mpr ⟨_, entry, rfl⟩, noted.kind_iff entry, fun gone worker calm rows document? made => ?_⟩
  obtain ⟨outcome, server, judged, aligns, settled, _⟩ := exists_judged calm (by rw [rows, lost, present])
    (Outbox.asks_ofFacility kind u) (by rw [rows]; exact gone)
  rw [rows] at settled aligns
  cases settled document? made
  exact ⟨server, judged, by rw [aligns.inLine u rfl, Index.inLine_of_wanted made]⟩

/-- A deployment with a published facility, of which the index is to hold a document. -/
def park : Deployment := { bowls with tables := { facilities := [bowl 1 (some 0)] } }

theorem exists_wanted_park : ∃ document, Index.wanted park.tables ⟨1⟩ = .ok (some document) :=
  ⟨_, by with_unfolding_all rfl⟩

theorem park_begins : park.session.Begins :=
  Store.Session.begins_start fun m => by cases m <;> simp [park, Tables.rows]

/-- Marks the facility as deleted. -/
def closing : List Change := [.update .facility (.uuid ⟨1⟩) [("deleted_at", .time ⟨0, none⟩)]]

/-- A worker that learns of it leaves no document of the facility. -/
theorem changes_arrive_closing : ∃ s' : Session, park.session.Begins ∧
    park.session.changeAll (closing ++ [.commit]) = (.ok (), s') ∧
    ∃ new server, (park.keep s').events = some new ∧ Event.ofFacility (.uuid ⟨1⟩) .upserted ∈ new ∧
      Outbox.judge backends park.gateway (.ofFacility (.uuid ⟨1⟩) .upserted)
          { park with tables := s'.committed } =
        (.ok .done, { park with tables := s'.committed, server := server }) ∧
      server.document? park.gateway.index (⟨1⟩ : Uuid).text = none := by
  have done : park.session.changeAll (closing ++ [.commit]) =
      (.ok (), (park.session.changeAll (closing ++ [.commit])).2) := by with_unfolding_all rfl
  have points : park.session.flushPoints (closing ++ [.commit]) = [{ park.session with
      isOpen := true,
      held := [{ row := .facility (bowl 1 (some 0)), waiting := [("deleted_at", .time ⟨0, none⟩)] }] }] := by
    with_unfolding_all rfl
  obtain ⟨document, before⟩ := exists_wanted_park
  have after : Index.wanted (park.session.changeAll (closing ++ [.commit])).2.committed ⟨1⟩ = .ok none := by
    with_unfolding_all rfl
  have waits : ∀ c ∈ closing, c.Waits := by simp [closing, Change.Waits]
  obtain ⟨_, _, new, events, each⟩ := changes_arrive park_begins rfl waits done
    (show (park.keep park.session).events = some [] from rfl)
  have stays : ∀ p ∈ park.session.flushPoints (closing ++ [.commit]), ¬ p.Leaves ⟨1⟩ := by
    rw [points]
    rintro p member ⟨h, held, _, left⟩
    cases List.mem_singleton.mp member
    cases List.mem_singleton.mp held
    exact left rfl
  have kept : ¬ ∃ p ∈ park.session.flushPoints (closing ++ [.commit]), p.Deletes ⟨1⟩ := by
    rw [points]
    rintro ⟨p, member, f, collects, deletes⟩
    cases List.mem_singleton.mp member
    have none : f.removed = [] := (Except.ok.inj (Store.Session.nextFlush_eq_ok collects).2.2).symm
    rw [Outbox.Flush.Deletes, none] at deletes
    cases deletes
  have differs : Index.wanted (park.session.changeAll (closing ++ [.commit])).2.committed ⟨1⟩ ≠
      Index.wanted park.session.committed ⟨1⟩ := by
    intro same
    cases before.symm.trans (same.symm.trans after)
  obtain ⟨kind, member, told, processed⟩ := each ⟨1⟩ differs fun p member leaves => absurd leaves (stays p member)
  cases kind with
  | deleted => exact absurd (told.mp rfl) kept
  | upserted =>
    obtain ⟨server, judged, held⟩ := processed (by simp) { park with tables := _ } ⟨rfl, rfl⟩ rfl none after
    exact ⟨_, park_begins, done, new, server, by simpa using events, member, judged, held⟩

/-- Deletes the facility and adds it again, under another name. -/
def reopening : List Change :=
  [.delete .facility (.uuid ⟨1⟩),
    .insert { model := .facility, values := [("id", .uuid ⟨1⟩), ("name", .text "pool")] }]

/-- A court of the facility, and another facility to which it can go. -/
def annex : Deployment :=
  { park with tables := {
      facilities := [bowl 1 (some 0), { bowl 2 (some 0) with slug := some "annex" }]
      courts := [{ (default : Court) with
        id := ⟨3⟩, facilityId := some ⟨1⟩, name := some "main", sport := some "tennis", isActive := some true }] } }

/-- Moves the court. -/
def moving : List Change := [.update .court (.uuid ⟨3⟩) [("facility_id", .uuid ⟨2⟩)]]

/-- What a field of a wanted document holds. -/
def wantedField (name : String) (wanted : Outcome (Option Value)) : Value :=
  match wanted with
  | .ok (some (.object fields)) => Fields.get fields name
  | _ => .null

/-- That a facility is there again is not told: what a worker learns is that it was deleted, and no document
of it is left. Nor is told what a court was part of before it moved, and there is no event of that facility. -/
theorem change_unheard : (∃ d' server, park.change reopening .commit = (.ok false, d') ∧
      d'.events = some [Event.ofFacility (.uuid ⟨1⟩) .deleted] ∧
      Index.wanted d'.tables ⟨1⟩ ≠ Index.wanted park.tables ⟨1⟩ ∧
      (∃ document, Index.wanted d'.tables ⟨1⟩ = .ok (some document)) ∧
      Outbox.judge backends d'.gateway (.ofFacility (.uuid ⟨1⟩) .deleted) d' =
        (.ok .done, { d' with server := server }) ∧
      server.document? d'.gateway.index (⟨1⟩ : Uuid).text = none) ∧
    ∃ d', annex.change moving .commit = (.ok false, d') ∧
      d'.events = some [Event.ofFacility (.uuid ⟨2⟩) .upserted] ∧
      Index.wanted d'.tables ⟨1⟩ ≠ Index.wanted annex.tables ⟨1⟩ := by
  -- Documents are told apart by a field in which they differ.
  have differ {t t' : Tables} (name : String) (same : Index.wanted t' ⟨1⟩ = Index.wanted t ⟨1⟩) :=
    congrArg (wantedField name) same
  have renamed : Index.wanted (park.change reopening .commit).2.tables ⟨1⟩ ≠ Index.wanted park.tables ⟨1⟩ := by
    intro same
    have names : Value.text "pool" = .text "bowl" := by with_unfolding_all exact differ "name" same
    exact absurd names (by simp)
  have moved : Index.wanted (annex.change moving .commit).2.tables ⟨1⟩ ≠ Index.wanted annex.tables ⟨1⟩ := by
    intro same
    obtain ⟨court, courts⟩ : ∃ court, Value.list [] = .list [court] :=
      ⟨_, by with_unfolding_all exact differ "courts" same⟩
    exact absurd courts (by simp)
  exact ⟨⟨(park.change reopening .commit).2, {}, by with_unfolding_all rfl, by with_unfolding_all rfl, renamed,
    ⟨_, by with_unfolding_all rfl⟩, by with_unfolding_all rfl, by with_unfolding_all rfl⟩,
    (annex.change moving .commit).2, by with_unfolding_all rfl, by with_unfolding_all rfl, moved⟩

end Deployment
end Venues
