import Venues.Proofs.Listing
import Venues.Proofs.Predicate.Parts

/-! # Facilities listed for their courts

A facility is listed for conditions on courts if one of its courts satisfies them all. Deleted courts count as
well: that a court is deleted keeps it off the page, but it does not keep its facility off.
-/

namespace Venues

open Store (Model Row Tables Formula compile compileParts)

namespace Store.Tables

variable {t : Tables} {m target : Model} {r : Row} {p : Predicate} {f : Formula}

/-! ## Satisfied predicates -/

/-- Whether the store finds that a row satisfies a predicate. -/
def Satisfies (t : Tables) (m : Model) (p : Predicate) (r : Row) : Prop :=
  ∃ f, compile m p = .ok f ∧ f.selects t.view r = true

theorem satisfies_of_compile (compiled : compile m p = .ok f) : t.Satisfies m p r ↔ f.selects t.view r = true := by
  constructor
  · rintro ⟨f', compiled', selects⟩
    cases compiled.symm.trans compiled'
    exact selects
  · exact fun selects => ⟨f, compiled, selects⟩

theorem satisfies_parts {ps : List Predicate} : (∃ fs, compileParts m ps = .ok fs ∧ ∀ f ∈ fs, f.selects t.view r = true) ↔
    ∀ p ∈ ps, t.Satisfies m p r := by
  induction ps with
  | nil => exact ⟨fun _ => by simp, fun _ => ⟨[], rfl, by simp⟩⟩
  | cons p ps ih =>
    rw [List.forall_mem_cons, ← ih]
    constructor
    · rintro ⟨fs, made, all⟩
      obtain ⟨f, compiled, made⟩ := bind_eq_ok.mp made
      obtain ⟨rest, others, made⟩ := bind_eq_ok.mp made
      cases made
      obtain ⟨first, all⟩ := List.forall_mem_cons.mp all
      exact ⟨⟨f, compiled, first⟩, rest, others, all⟩
    · rintro ⟨⟨f, compiled, first⟩, fs, others, all⟩
      exact ⟨f :: fs, by simp only [compileParts, compiled, others, ok_bind], List.forall_mem_cons.mpr ⟨first, all⟩⟩

/-- A row satisfies a conjunction if it satisfies all parts. -/
theorem satisfies_all (ps : List Predicate) : t.Satisfies m (.all ps) r ↔ ∀ p ∈ ps, t.Satisfies m p r := by
  rw [← satisfies_parts]
  constructor
  · rintro ⟨f, compiled, selects⟩
    obtain ⟨fs, made, joined⟩ := bind_eq_ok.mp compiled
    cases joined
    exact ⟨fs, made, Formula.selects_conjunction.mp selects⟩
  · rintro ⟨fs, made, all⟩
    exact ⟨_, by simp only [compile, made, ok_bind], Formula.selects_conjunction.mpr all⟩

/-- A row satisfies a predicate on related rows if one of them satisfies it. -/
theorem satisfies_related {relation : String} (leads : m.relation? relation = some target) :
    t.Satisfies m (.related relation p) r ↔ ∃ a ∈ t.related r relation, t.Satisfies target p a := by
  have selects (f : Formula) : (Formula.related relation f).selects t.view r = true ↔
      ∃ a ∈ t.related r relation, f.selects t.view a = true := by
    rw [← List.any_eq_true, Formula.selects_iff, Formula.eval, Option.some_inj]
    rfl
  constructor
  · rintro ⟨_, compiled, selected⟩
    rw [compile, leads] at compiled
    obtain ⟨f, inner, made⟩ := bind_eq_ok.mp compiled
    cases made
    obtain ⟨a, there, selected⟩ := (selects f).mp selected
    exact ⟨a, there, f, inner, selected⟩
  · rintro ⟨a, there, f, inner, selected⟩
    exact ⟨.related relation f, by simp only [compile, leads, inner, ok_bind], (selects f).mpr ⟨a, there, selected⟩⟩

/-- The rows that the relation to courts leads to are the courts of the facility. -/
theorem exists_related_courts {g : Facility} {P : Row → Prop} :
    (∃ a ∈ t.related (.facility g) "courts", P a) ↔ ∃ c ∈ t.courtsOf g, P (.court c) := by
  constructor
  · rintro ⟨_, member, holds⟩
    obtain ⟨c, owned, rfl⟩ := List.mem_map.mp member
    exact ⟨c, Tables.courtsOf_perm.mem_iff.mpr owned, holds⟩
  · rintro ⟨c, owned, holds⟩
    exact ⟨.court c, List.mem_map_of_mem (Tables.courtsOf_perm.mem_iff.mp owned), holds⟩

theorem satisfies_deletedAt {g : Facility} :
    t.Satisfies .facility (.equals "deleted_at" .null) (.facility g) ↔ g.deletedAt = none := by
  have compiled : compile .facility (.equals "deleted_at" .null) = .ok (.isNull "deleted_at") := rfl
  rw [satisfies_of_compile compiled]
  show (some (Cell.ofValue (Value.ofOption (g.deletedAt.map .time))).isNull == some true) = true ↔ _
  cases g.deletedAt with
  | none => exact ⟨fun _ => rfl, fun _ => rfl⟩
  | some time => exact ⟨nofun, nofun⟩

end Store.Tables

/-! ## Listed facilities -/

namespace Listing

open Predicate (partsOn ofTerm)

variable {t : Tables} {q : Query} {g : Facility}

/-- Whether a facility is one that a query asks for: it is not deleted, it satisfies the conditions on its own
fields, one of its courts satisfies all conditions on courts, if there are any, and the term is found in it. -/
structure AsksFor (t : Tables) (q : Query) (g : Facility) : Prop where
  live : g.deletedAt = none
  own : ∀ part ∈ partsOn Surface.facilityListing none q.conditions, t.Satisfies .facility part (.facility g)
  court : partsOn Surface.facilityListing (some "courts") q.conditions ≠ [] → ∃ c ∈ t.courtsOf g,
    ∀ part ∈ partsOn Surface.facilityListing (some "courts") q.conditions, t.Satisfies .court part (.court c)
  term : ∀ search, ofTerm q.term Surface.facilityListing.searchFields = some search →
    t.Satisfies .facility search (.facility g)

/-- The predicate of a query is satisfied by the facilities that the query asks for. -/
theorem satisfies_ofQuery {p : Predicate} (made : Predicate.ofQuery Surface.facilityListing q = .ok p) :
    t.Satisfies .facility p (.facility g) ↔ AsksFor t q g := by
  have courts : t.Satisfies .facility
      (.related "courts" (.all (partsOn Surface.facilityListing (some "courts") q.conditions))) (.facility g) ↔
      ∃ c ∈ t.courtsOf g, ∀ part ∈ partsOn Surface.facilityListing (some "courts") q.conditions,
        t.Satisfies .court part (.court c) := by
    -- the store follows the relation to every court of the facility, deleted ones included
    refine (@Tables.satisfies_related t .facility .court _ _ _ rfl).trans (Tables.exists_related_courts.trans ?_)
    exact exists_congr fun c => and_congr_right fun _ => Tables.satisfies_all _
  rw [Predicate.holds_ofQuery (H := fun p => t.Satisfies .facility p (.facility g)) Tables.satisfies_all made]
  constructor
  · rintro ⟨base, own, related, term⟩
    exact ⟨Tables.satisfies_deletedAt.mp (base ("deleted_at", .null) List.mem_cons_self), own,
      fun some' => courts.mp (related "courts" some'), term⟩
  · rintro ⟨live, own, court, term⟩
    refine ⟨?_, own, fun relation some' => ?_, term⟩
    · exact List.forall_mem_singleton.mpr (Tables.satisfies_deletedAt.mpr live)
    · cases Predicate.relation_eq_courts some'
      exact courts.mpr (court some')

/-- A page of facilities shows some of those that its request asks for, and tells how many there are. Where a
request has conditions on courts, it asks for the facilities of which some court satisfies them all, be this court
deleted or not. -/
theorem exists_asked {request : Value} {p : ResultPage} (answered : Listing.facilities.page t request = .ok p) :
    ∃ (q : Query) (shown whole : List Facility), Surface.facilityListing.normalize request = .ok q ∧
      (shown.map Row.facility).mapM (Row.listing t q.withRelations) = .ok p.rows ∧
      p.total = (whole.length : Int) ∧ (∀ g ∈ shown, g ∈ whole) ∧
      ∀ g, g ∈ whole ↔ g ∈ t.facilities ∧ AsksFor t q g := by
  obtain ⟨q, rp, normalized, found, written, total, _⟩ := of_page answered
  obtain ⟨filter, f, made, compiled, _, counted, members⟩ := of_pageOf found
  have whole : t.selected .facility f =
      (t.facilities.filter fun g => f.selects t.view (.facility g)).map .facility := List.filter_map
  rw [show Listing.facilities.model = .facility from rfl, whole] at counted members
  -- all rows of the page are of facilities, and stand for the facilities that they are of
  obtain ⟨shown, each⟩ := exists_forall₂ (R := fun r g => r = Row.facility g) fun r member =>
    (List.mem_map.mp (members r member)).imp fun g there => there.2.symm
  have rows : rp.rows = shown.map .facility := by
    rwa [← List.forall₂_map_right_iff, List.forall₂_eq_eq_eq] at each
  refine ⟨q, shown, t.facilities.filter fun g => f.selects t.view (.facility g), normalized, rows ▸ written, ?_, ?_, ?_⟩
  · rw [total, counted, List.length_map]
  · intro g member
    have there := members (.facility g) (rows ▸ List.mem_map_of_mem member)
    exact (List.mem_map_of_injective fun _ _ => Row.facility.inj).mp there
  · intro g
    rw [List.mem_filter, ← satisfies_ofQuery made]
    exact and_congr_right fun _ => (Tables.satisfies_of_compile compiled).symm

/-- What asks for the facilities with courts for tennis, and for their courts. -/
def tennis : Value :=
  .object [("filters", .object [("courts.sport", .text "TENNIS")]), ("includeRelations", .bool true)]

/-- A facility with a court for tennis, deleted at some moment or not. -/
def lawn (deletedAt : Option Timestamp) : Tables where
  facilities := [{ (default : Facility) with id := ⟨1⟩ }]
  courts := [{ (default : Court) with
    id := ⟨2⟩, facilityId := some ⟨1⟩, sport := some "TENNIS", price := .null, deletedAt := deletedAt }]

/-- The facility is asked for as long as the court is there. -/
theorem exists_asked_lawn : ∃ (p : ResultPage) (q : Query) (whole : List Facility),
    Listing.facilities.page (lawn none) tennis = .ok p ∧ whole.length = 1 ∧
      ∀ g, g ∈ whole ↔ g ∈ (lawn none).facilities ∧ AsksFor (lawn none) q g := by
  have one : (Listing.facilities.page (lawn none) tennis).map ResultPage.total = .ok 1 := by
    with_unfolding_all rfl
  obtain ⟨p, answered, total⟩ := map_eq_ok.mp one
  obtain ⟨q, shown, whole, _, _, counted, _, asked⟩ := exists_asked answered
  exact ⟨p, q, whole, answered, by omega, asked⟩

/-- The facility is listed for a court that is deleted, and shows no courts. -/
theorem listed_without_courts : ∃ p, Listing.facilities.page (lawn (some ⟨0, none⟩)) tennis = .ok p ∧
    p.rows.map (fun row => row.fields.get "courts") = [.list []] ∧
    ∀ g ∈ (lawn (some ⟨0, none⟩)).facilities, ((lawn (some ⟨0, none⟩)).courtsOf g).filter Court.isLive = [] := by
  have rows : (Listing.facilities.page (lawn (some ⟨0, none⟩)) tennis).map
      (fun p => p.rows.map fun row => row.fields.get "courts") = .ok [.list []] := by with_unfolding_all rfl
  obtain ⟨p, answered, courts⟩ := map_eq_ok.mp rows
  have deleted : ∀ c ∈ (lawn (some ⟨0, none⟩)).courts, ¬ c.isLive = true := by decide
  exact ⟨p, answered, courts, fun g _ => List.filter_eq_nil_iff.mpr fun c owned =>
    deleted c (Tables.mem_courts_of_owned owned)⟩

end Listing

end Venues
