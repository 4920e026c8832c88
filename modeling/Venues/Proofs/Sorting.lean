import Mathlib.Data.List.Pairwise
import Venues.Proofs.Index.Scroll
import Venues.Proofs.Index.Ties
import Venues.Proofs.Listing
import Venues.Proofs.Reindex.Rebuild

/-! # Sorting in the index and in the store

Sorted by name, by rating or by creation, facilities go on alike in the index and in a listing. Only where some tie,
the index puts first what was created last and has the lowest identity, and a listing goes by the identity alone, in
the direction of the sort.
-/

namespace Venues

open Index (Hit HitPage IsResult Mirrors tieOrder entry)
open Store (Row Tables Model Precedes comesAfter compile)

/-! ## Lists of the same items -/

section Lists

variable {α : Type} {P P' : α → α → Prop} {items l l' : List α}

/-- Items that are told apart by their names are the same, but for their sequence, if their names are. -/
theorem perm_of_map_perm {β : Type} {name : α → β} (distinct : (l'.map name).Nodup)
    (apart : ∀ a ∈ l, ∀ b ∈ l', name a = name b → a = b) (perm : (l.map name).Perm (l'.map name)) : l.Perm l' := by
  refine (List.perm_ext_iff_of_nodup (.of_map _ (perm.nodup_iff.mpr distinct)) (.of_map _ distinct)).mpr fun a => ?_
  constructor
  · intro member
    obtain ⟨b, there, same⟩ := List.mem_map.mp (perm.mem_iff.mp (List.mem_map_of_mem member))
    exact apart a member b there same.symm ▸ there
  · intro member
    obtain ⟨b, there, same⟩ := List.mem_map.mp (perm.mem_iff.mpr (List.mem_map_of_mem member))
    exact apart b there a member same ▸ there

/-- Two sequences of some items, each in an order of its own, are the same if and only if the orders are. -/
theorem eq_iff_forall_iff (perm : l.Perm items) (perm' : l'.Perm items) (sorted : l.Pairwise P)
    (sorted' : l'.Pairwise P') (asymm : ∀ a ∈ items, ∀ b ∈ items, P a b → ¬ P b a)
    (asymm' : ∀ a ∈ items, ∀ b ∈ items, P' a b → ¬ P' b a) :
    l = l' ↔ ∀ a ∈ items, ∀ b ∈ items, (P a b ↔ P' a b) := by
  constructor
  · rintro rfl a ha b hb
    by_cases same : a = b
    · rw [← same]
      exact iff_of_false (fun before => asymm a ha a ha before before) fun before => asymm' a ha a ha before before
    · -- of two items one stands first, and so goes before the other in both orders
      let R (a b : α) : Prop := (P a b ∧ P' a b) ∨ (P b a ∧ P' b a)
      have symmetric : Std.Symm R := ⟨fun _ _ => Or.symm⟩
      have placed : l.Pairwise R := (sorted.and sorted').imp .inl
      rcases placed.forall (perm.mem_iff.mpr ha) (perm.mem_iff.mpr hb) same with ⟨before, before'⟩ | ⟨behind, behind'⟩
      · exact iff_of_true before before'
      · exact iff_of_false (asymm b hb a ha behind) (asymm' b hb a ha behind')
  · intro alike
    have again : l'.Pairwise P := sorted'.imp_of_mem fun ha hb before =>
      (alike _ (perm'.mem_iff.mp ha) _ (perm'.mem_iff.mp hb)).mpr before
    exact (perm.trans perm'.symm).eq_of_pairwise (fun a b ha hb before behind =>
      absurd behind (asymm a (perm.mem_iff.mp ha) b (perm'.mem_iff.mp hb) before)) sorted again

end Lists

/-! ## Ties -/

/-- Whether rows tie in an order: neither goes before the other. -/
def Store.Tie (order : RowOrder) (r s : Row) : Prop := ¬ Precedes order r s ∧ ¬ Precedes order s r

/-- The first column of an order decides, and the others where rows tie in it. -/
theorem Store.precedes_cons_iff {o : String × Direction} {order : RowOrder} {r s : Row} :
    Precedes (o :: order) r s ↔ Precedes [o] r s ∨ ¬ Precedes [o] s r ∧ Precedes order r s := by
  simp [Precedes, comesAfter]

/-- Two orders that begin with the same column are told apart by the rows that tie in it. -/
theorem Store.precedes_cons_congr_iff {o : String × Direction} {order order' : RowOrder} {r s : Row} :
    (Precedes (o :: order) r s ↔ Precedes (o :: order') r s) ↔
      (Store.Tie [o] r s → (Precedes order r s ↔ Precedes order' r s)) := by
  rw [Store.precedes_cons_iff, @Store.precedes_cons_iff o order', Store.Tie]
  tauto

/-- Of two facilities of a store at most one goes before the other. -/
theorem Store.precedes_asymm {t : Tables} {order : RowOrder} (sound : t.IsSound) (sorts : Model.facility.Sorts order) :
    ∀ r ∈ t.rows .facility, ∀ s ∈ t.rows .facility, Precedes order r s → ¬ Precedes order s r := by
  intro r member s member' before behind
  have fits := (sound.orderly .facility).fits
  rw [Precedes, Store.comesAfter_asymm sorts (fits s member') (fits r member) before] at behind
  cases behind

/-- The facilities of a store stand in one sequence only by an order that leaves no ties. -/
theorem Store.eq_of_sorted {t : Tables} {order : RowOrder} {rows rows' : List Row} (sound : t.IsSound)
    (sorts : Model.facility.Sorts order) (perm : rows.Perm (t.rows .facility)) (perm' : rows'.Perm (t.rows .facility))
    (sorted : rows.Pairwise (Precedes order)) (sorted' : rows'.Pairwise (Precedes order)) : rows = rows' :=
  (eq_iff_forall_iff perm perm' sorted sorted' (Store.precedes_asymm sound sorts)
    (Store.precedes_asymm sound sorts)).mpr fun _ _ _ _ => Iff.rfl

/-! ## The index -/

section Ranked

variable {t : Tables} {q : Query} {documents : List Document} {column : String}

/-- Among the documents of a store, a search finds those of the facilities that meet its conditions, in the order of
its column and of those that tell ties apart. -/
theorem Index.exists_ranked (sound : t.IsSound) (kept : t.IsKept) (mirrors : Mirrors t documents)
    (accepted : Surface.facilitySearch.accept q = .ok q) (shared : AreShared q.conditions) (termless : q.term = none)
    (everywhere : q.area = none) (offered : Surface.facilityListing.sortColumn? q.sorting.key = some column)
    (name : String) : ∃ (whole : List Hit) (ranked : List Facility), IsResult name q documents whole ∧
      (whole.map fun h => h.document.id) = ranked.map (fun f => f.id.text) ∧
      ranked.Perm ((t.facilities.filter Facility.isIndexable).filter fun f => q.conditions.all (meets t f)) ∧
      (ranked.map Row.facility).Pairwise (Precedes ((column, q.sorting.direction) :: tieOrder column)) := by
  obtain ⟨fs, order, projected⟩ := mirrors
  have candidate : ∀ f ∈ fs, f ∈ t.facilities ∧ f.isIndexable = true := fun f member =>
    List.mem_filter.mp (order.mem_iff.mp member)
  obtain ⟨_, _, sorted, _, window, placed⟩ := Surface.accept_iff.mp accepted
  have searchable : IsSearchable q documents := by
    refine ⟨shared.accepted, sorted, placed, fun _ _ a asked => ?_, window rfl⟩
    rw [everywhere] at asked
    cases asked
  have distinct : (fs.map fun f => f.id.text).Nodup := by
    have ids : (t.facilities.map Facility.id).Nodup := by
      have rows := sound.distinct .facility
      rwa [Tables.rows, List.map_map] at rows
    have part := (order.map Facility.id).nodup_iff.mpr (ids.sublist (List.filter_sublist.map _))
    have texts := part.map Uuid.text_injective
    rwa [List.map_map] at texts
  have ids : documents.map Document.id = fs.map fun f => f.id.text := by
    rw [← List.forall₂_eq_eq_eq, List.forall₂_map_left_iff, List.forall₂_map_right_iff]
    exact (projected.flip).imp fun _ _ made => id_of_project made
  have projects : ∀ d ∈ documents, ∃ f ∈ fs, project f (t.courtsOf f) = .ok d := exists_of_forall₂ projected
  have portrays {f : Facility} {d : Document} (member : f ∈ fs) (made : project f (t.courtsOf f) = .ok d) :
      PortrayedIn f d := portrayedIn_of_project sound kept (candidate f member).1 made
  -- the hits are documents of the store, so each has its facility
  obtain ⟨whole, clauses, test, result, there, filters, tested, hits, pairwise⟩ := exists_result_pairwise searchable
    (ids ▸ distinct) (fun d member => (projects d member).imp fun _ found => portrays found.1 found.2) offered name
  obtain ⟨ranked, each⟩ : ∃ ranked, List.Forall₂ (fun (h : Hit) f => f ∈ fs ∧
      project f (t.courtsOf f) = .ok h.document) whole ranked :=
    exists_forall₂ fun h member => projects h.document (there h member)
  have names : (whole.map fun h => h.document.id) = ranked.map fun f => f.id.text := by
    rw [← List.forall₂_eq_eq_eq, List.forall₂_map_left_iff, List.forall₂_map_right_iff]
    exact each.imp fun _ _ found => id_of_project found.2
  refine ⟨whole, ranked, result, names, ?_, ?_⟩
  · -- no two facilities share an identity, so it is enough that the identities are the same
    have same := map_id_filter_eq sound kept shared termless everywhere candidate projected filters tested
    rw [names, same] at hits
    refine (perm_of_map_perm (distinct.sublist (List.filter_sublist.map _)) ?_ hits).trans (order.filter _)
    intro f member g member' same
    obtain ⟨_, _, inside, _⟩ := exists_of_forall₂ each f member
    exact List.inj_on_of_nodup_map distinct inside (List.mem_of_mem_filter member') same
  · exact List.pairwise_map.mpr (pairwise_of_forall₂ each pairwise fun _ _ f g first second before =>
      before f g (portrays first.1 first.2) (portrays second.1 second.2))

end Ranked

/-! ## Both backends -/

/-- Whether a query asks for all that there is. -/
structure Query.IsBare (q : Query) : Prop where
  term : q.term = none
  conditions : q.conditions = []
  area : q.area = none

theorem Index.areShared_nil : AreShared [] where
  fields := List.forall_mem_nil _
  accepted := List.forall_mem_nil _
  plain := List.forall_mem_nil _
  whole := List.forall_mem_nil _

/-- The columns by which a listing sorts facilities are theirs. -/
theorem exists_kind_of_offered {key : SortKey} {column : String}
    (offered : Surface.facilityListing.sortColumn? key = some column) :
    ∃ kind, Model.facility.column? column = some kind := by
  cases key <;> cases offered <;> exact ⟨_, rfl⟩

/-- A listing of all that there is selects the facilities that are not deleted. -/
theorem selected_of_isBare {t : Tables} {q : Query} {x : Selection} {f : Store.Formula} (sound : t.IsSound)
    (bare : q.IsBare) (made : Surface.facilityListing.select q = .ok x) (compiled : compile .facility x.filter = .ok f) :
    t.selected .facility f = (t.facilities.filter fun g => g.deletedAt.isNone).map .facility := by
  obtain ⟨p, predicate, made⟩ := bind_eq_ok.mp made
  obtain ⟨_, _, made⟩ := bind_eq_ok.mp made
  cases made
  obtain ⟨g, compiled', _, selected⟩ := Index.exists_selected_eq sound (List.forall_mem_nil _) .nil
  have filter : Predicate.ofQuery Surface.facilityListing q = .ok (.all [.equals "deleted_at" .null]) := by
    rw [Predicate.ofQuery, bare.conditions, bare.term]
    rfl
  cases predicate.symm.trans filter
  cases compiled.symm.trans compiled'
  simpa using selected

namespace Deployment

variable {d : Deployment} {request request' : Value} {q q' : Query} {documents : List Document}

/-- What a search and a listing for all facilities show, sorted by the same column in the same direction: the one the
documents of the facilities in one sequence, as far as its pages reach, and the other the facilities in another. -/
structure Sequences (d : Deployment) (documents : List Document) (q q' : Query) (request request' : Value)
    (column : String) (ranked listed : List Row) : Prop where
  searched : ∃ whole pages, IsResult d.gateway.index q documents whole ∧
    (whole.map fun h => h.document.id) = ranked.map (fun r => r.id.text) ∧ d.Scroll request pages ∧
    Covers HitPage.hits (fun p => p.details.hasMore) pages (whole.take (reach q.limit))
  walked : ∃ written, listed.mapM (Row.listing d.tables q'.withRelations) = .ok written ∧
    (∃ pages, Listing.facilities.CursorWalk d.tables request' pages ∧ Listing.Shows pages written) ∧
    ∃ pages, Listing.facilities.NumberWalk d.tables request' pages ∧ Listing.Shows pages written
  allRanked : ranked.Perm (d.tables.rows .facility)
  allListed : listed.Perm (d.tables.rows .facility)
  inIndex : ranked.Pairwise (Precedes ((column, q.sorting.direction) :: tieOrder column))
  inStore : listed.Pairwise (Precedes [(column, q.sorting.direction), ("id", q.sorting.direction)])

section Both

variable (calm : d.IsCalm) (sound : d.tables.IsSound) (kept : d.tables.IsKept)
  (indexable : ∀ f ∈ d.tables.facilities, f.isIndexable = true) (mirrors : Mirrors d.tables documents)
  (holds : d.server.index? d.gateway.index = some (documents.map entry))
  (accepted : Surface.facilitySearch.normalize request = .ok q) (bare : q.IsBare)
  (accepted' : Surface.facilityListing.normalize (atCursor request' none) = .ok q') (bare' : q'.IsBare)
  (sorting : q.sorting = q'.sorting)
include calm sound kept indexable mirrors holds accepted bare accepted' bare' sorting

/-- A search and a listing for all facilities of a store show all of them, each in the order of its backend. -/
theorem exists_sequences : ∃ column ranked listed,
    Surface.facilityListing.sortColumn? q.sorting.key = some column ∧
      d.Sequences documents q q' request request' column ranked listed := by
  obtain ⟨x, f, written, selected, selects, shown, cursors, numbers⟩ :=
    Listing.exists_answers (.inl rfl) sound accepted' (by simp [Surface.Testable, bare'.conditions])
  obtain ⟨column, offered, order⟩ := selects.order
  change Surface.facilityListing.sortColumn? q'.sorting.key = some column at offered
  rw [← sorting] at offered order
  obtain ⟨whole, ranked, result, names, found, sorted⟩ := Index.exists_ranked sound kept mirrors
    (Surface.normalizes_of_normalize accepted).accepted (bare.conditions ▸ Index.areShared_nil) bare.term bare.area
    offered d.gateway.index
  obtain ⟨pages, scrolls, covers⟩ := exists_scroll_of_result calm holds accepted result
  refine ⟨column, ranked.map .facility, d.tables.answers .facility x.order f, offered,
    ⟨whole, pages, result, by rw [names, List.map_map]; rfl, scrolls, covers⟩, ⟨written, shown, cursors, numbers⟩,
    ?_, ?_, sorted, ?_⟩
  · -- all facilities are published, so the search leaves none of them out
    rw [List.filter_eq_self.mpr indexable, bare.conditions] at found
    have all : ranked.Perm d.tables.facilities := by simpa using found
    exact all.map _
  · -- and none of them is deleted
    have live : d.tables.facilities.filter (fun g => g.deletedAt.isNone) = d.tables.facilities :=
      List.filter_eq_self.mpr fun g member => (Bool.and_eq_true_iff.mp (indexable g member)).2
    have chosen := selected_of_isBare sound bare' selected selects.compiled
    rw [live] at chosen
    exact Store.walk_perm.trans (.of_eq chosen)
  · have named : ("id", q.sorting.direction) ∈ x.order := by simp [order]
    have placed := @Store.Tables.answers_pairwise d.tables .facility f (sound.orderly .facility).toIsKeyed x.order
      selects.orders _ named
    rw [order] at placed ⊢
    exact placed

/-- Sorted by creation, by name or by rating, in either direction, a search and a listing for all facilities of a store
show all of them in the order of that column, those without a value last. Where facilities tie, the search goes by
creation, the latest first, and then by the lowest identity, and the listing by the identity in the direction of the
sort: the two sequences are the same if and only if that is the same for all facilities that tie. -/
theorem sequences_eq_iff : ∃ column ranked listed,
    Surface.facilityListing.sortColumn? q.sorting.key = some column ∧
      d.Sequences documents q q' request request' column ranked listed ∧
      (ranked = listed ↔ ∀ r ∈ d.tables.rows .facility, ∀ s ∈ d.tables.rows .facility,
        Store.Tie [(column, q.sorting.direction)] r s →
          (Precedes (tieOrder column) r s ↔ Precedes [("id", q.sorting.direction)] r s)) := by
  obtain ⟨column, ranked, listed, offered, sequences⟩ := exists_sequences calm sound kept indexable mirrors holds
    accepted bare accepted' bare' sorting
  refine ⟨column, ranked, listed, offered, sequences, ?_⟩
  obtain ⟨kind, known⟩ := exists_kind_of_offered offered
  have asymm {rest : RowOrder} (sorts : Model.facility.Sorts rest) := Store.precedes_asymm sound
    (List.forall_mem_cons.mpr ⟨⟨kind, known⟩, sorts⟩ : Model.facility.Sorts ((column, q.sorting.direction) :: rest))
  rw [eq_iff_forall_iff sequences.allRanked sequences.allListed sequences.inIndex sequences.inStore
    (asymm Index.sorts_tieOrder) (asymm (List.forall_mem_singleton.mpr ⟨_, rfl⟩))]
  simp only [Store.precedes_cons_congr_iff]

end Both

/-- A deployment with two facilities that were created at the same moment. -/
def peers : Deployment where
  settings := {}
  now := 0
  tables := { facilities := [hall 1 "Hải Châu" true, hall 2 "Sơn Trà" true] }

theorem peers_isSound : peers.tables.IsSound where
  present := rfl
  distinct m := by cases m <;> decide
  typed m := by cases m <;> decide +kernel
  bounded m := by cases m <;> decide

theorem peers_isKept : peers.tables.IsKept where
  needed m := by cases m <;> decide
  moments m := by cases m <;> decide

/-- A reindex leaves the index of this deployment with the documents of both. -/
theorem exists_rebuilt_peers : ∃ report sizes d' documents,
    peers.reindexAll none (anew []) [] = (.ok (report, sizes), d') ∧ d'.IsCalm ∧ d'.tables = peers.tables ∧
      Mirrors d'.tables documents ∧ d'.server.index? d'.gateway.index = some (documents.map entry) := by
  obtain ⟨report, sizes, d', documents, ran, _, _, calm, tables, mirrors, holds⟩ := @exists_rebuilt peers ⟨rfl, rfl⟩
    peers_isSound peers_isKept rfl rfl (by decide) none (by decide) (by decide) []
  exact ⟨report, sizes, d', documents, ran, calm, tables, tables ▸ mirrors, holds⟩

/-- A request for all facilities, sorted by creation. -/
def byCreation (direction : String) : Value :=
  .object [("sort", .object [("field", .text "createdAt"), ("direction", .text direction)])]

/-- What such a request asks for. -/
def creationQuery (direction : Direction) (page : Page) : Query where
  term := none
  conditions := []
  area := none
  sorting := ⟨.createdAt, direction⟩
  page := page
  withRelations := false

/-- Sorted by creation, the oldest first, the two facilities come in the same sequence from the index, once it was
built, and from the store. -/
theorem sequences_eq_iff_peers : ∃ report sizes d' documents ranked listed,
    peers.reindexAll none (anew []) [] = (.ok (report, sizes), d') ∧
      d'.Sequences documents (creationQuery .asc (.offset 1 20 none)) (creationQuery .asc (.cursor none 10))
        (byCreation "asc") (byCreation "asc") "created_at" ranked listed ∧ ranked = listed := by
  obtain ⟨report, sizes, d', documents, ran, calm, tables, mirrors, holds⟩ := exists_rebuilt_peers
  have accepted : Surface.facilitySearch.normalize (byCreation "asc") =
      .ok (creationQuery .asc (.offset 1 20 none)) := rfl
  have accepted' : Surface.facilityListing.normalize (atCursor (byCreation "asc") none) =
      .ok (creationQuery .asc (.cursor none 10)) := rfl
  obtain ⟨column, ranked, listed, offered, sequences, same⟩ := sequences_eq_iff calm (tables ▸ peers_isSound)
    (tables ▸ peers_isKept) (tables ▸ by decide) mirrors holds accepted ⟨rfl, rfl, rfl⟩ accepted' ⟨rfl, rfl, rfl⟩ rfl
  cases offered
  exact ⟨report, sizes, d', documents, ranked, listed, ran, sequences, same.mpr fun _ _ _ _ _ => Iff.rfl⟩

/-- Sorted the other way round, the index puts first the one with the lower identity, and the listing the other one. -/
theorem sequences_differ : ∃ report sizes d' documents ranked listed,
    peers.reindexAll none (anew []) [] = (.ok (report, sizes), d') ∧ Mirrors d'.tables documents ∧
      (∀ f ∈ d'.tables.facilities, f.isIndexable = true) ∧
      d'.server.index? d'.gateway.index = some (documents.map entry) ∧
      d'.Sequences documents (creationQuery .desc (.offset 1 20 none)) (creationQuery .desc (.cursor none 10))
        (byCreation "desc") (byCreation "desc") "created_at" ranked listed ∧
      ranked.map Row.id = [⟨1⟩, ⟨2⟩] ∧ listed.map Row.id = [⟨2⟩, ⟨1⟩] := by
  obtain ⟨report, sizes, d', documents, ran, calm, tables, mirrors, holds⟩ := exists_rebuilt_peers
  have indexable : ∀ f ∈ d'.tables.facilities, f.isIndexable = true := tables ▸ by decide
  have accepted : Surface.facilitySearch.normalize (byCreation "desc") =
      .ok (creationQuery .desc (.offset 1 20 none)) := rfl
  have accepted' : Surface.facilityListing.normalize (atCursor (byCreation "desc") none) =
      .ok (creationQuery .desc (.cursor none 10)) := rfl
  obtain ⟨column, ranked, listed, offered, sequences⟩ := exists_sequences calm (tables ▸ peers_isSound)
    (tables ▸ peers_isKept) indexable mirrors holds accepted ⟨rfl, rfl, rfl⟩ accepted' ⟨rfl, rfl, rfl⟩ rfl
  cases offered
  refine ⟨report, sizes, d', documents, ranked, listed, ran, mirrors, indexable, holds, sequences, ?_⟩
  -- there is one sequence in the order of each backend
  obtain ⟨_, _, allRanked, allListed, inIndex, inStore⟩ := sequences
  rw [tables] at allRanked allListed
  have sorts (direction : Direction) : Model.facility.Sorts [("created_at", .desc), ("id", direction)] :=
    List.forall_mem_cons.mpr ⟨⟨_, rfl⟩, List.forall_mem_singleton.mpr ⟨_, rfl⟩⟩
  rw [Store.eq_of_sorted peers_isSound (sorts .asc) allRanked (.refl _) inIndex (List.pairwise_pair.mpr (by decide)),
    Store.eq_of_sorted peers_isSound (sorts .desc) allListed (.swap ..) inStore (List.pairwise_pair.mpr (by decide))]
  exact ⟨rfl, rfl⟩

end Deployment
end Venues
