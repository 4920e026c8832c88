import Venues.Proofs.Float.Order
import Venues.Proofs.Index.Scroll
import Venues.Proofs.Index.Sorted

/-! # Searches in an area

Every hit of a search in an area tells its distance from the center, which is not above the radius. Sorted by
distance the hits go outward, or inward, over all pages of a scroll, and those that are equally far stand in the
order of their tie-breaks.
-/

namespace Venues

open Index

namespace Index

variable {g : Gateway} {s s' : Server} {q : Query} {a : Area} {d : Document} {documents : List Document}
  {body : SearchBody} {name : String}

/-! ## Answered searches -/

/-- An exchange that has a result has it without what would be made of its errors, too. -/
theorem run_of_explained {α : Type} {x : Exchange α} {action : String} {v : α}
    (answered : (Gateway.explained action x).run Server.client s = (.ok v, s')) :
    x.run Server.client s = (.ok v, s') := by
  rcases before : x.run Server.client s with ⟨fault | w, t⟩
  · rw [Gateway.explained, Exchange.run_handle_error before] at answered
    cases fault <;> cases answered
  · rw [Gateway.explained, Exchange.run_handle before] at answered
    exact answered

/-- A search that was answered found something in the documents of an index, and the page was read from it. -/
theorem exists_of_run_search {p : HitPage} (answered : (g.search q).run Server.client s = (.ok p, s')) :
    ∃ body held found, SearchBody.ofQuery Surface.facilitySearch q = .ok body ∧ s.index? g.index = some held ∧
      body.search held = .ok found ∧ readResponse q (Server.searchReply g.index body found) = .ok p := by
  obtain ⟨body, t, made, answered⟩ := Exchange.run_bind_eq_ok answered
  obtain ⟨built, rfl⟩ := Prod.mk.inj (show (SearchBody.ofQuery Surface.facilitySearch q, s) = _ from made)
  obtain ⟨_, t, connected, answered⟩ := Exchange.run_bind_eq_ok answered
  obtain ⟨_, rfl⟩ := Prod.mk.inj (show ((.ok () : Outcome Unit), s) = _ from connected)
  obtain ⟨reply, t, called, read⟩ := Exchange.run_bind_eq_ok answered
  obtain ⟨replied, rfl⟩ := Prod.mk.inj (show (s.search g.index body, s) = _ from run_of_explained called)
  obtain ⟨response, _⟩ := Prod.mk.inj (show (readResponse q reply, s) = _ from read)
  -- an answer means that the index was there and the page lay inside the window
  unfold Server.search at replied
  split at replied
  · cases replied
  · rename_i held there
    obtain ⟨found, searched, replied⟩ := bind_eq_ok.mp replied
    split at replied
    · cases replied
    · cases replied
      exact ⟨body, held, found, built, there, searched, response⟩

/-! ## Documents in an area -/

theorem holds_of_allHold {document : Value} {clauses : List Clause} (held : allHold document clauses = .ok true) :
    ∀ c ∈ clauses, c.holds document = .ok true := by
  induction clauses with
  | nil => simp
  | cons c clauses ih =>
    obtain ⟨first, answer, held⟩ := bind_eq_ok.mp held
    cases first with
    | false => cases held
    | true => exact List.forall_mem_cons.mpr ⟨answer, ih held⟩

/-- The area of a query is among the clauses that select documents. -/
theorem within_mem_filterClauses {surface : Surface} {clauses : List Clause} (made : filterClauses surface q = .ok clauses)
    (area : q.area = some a) : .within a ∈ clauses := by
  obtain ⟨split, _, made⟩ := bind_eq_ok.mp made
  cases made
  simp [area]

/-- Whether a document has a distance from the center of an area that is not above the radius. -/
def IsInside (a : Area) (d : Document) : Prop :=
  Reaches a d ∧ ∃ meters, a.radiusMeters = .ok meters ∧ haversine a.center d.location ≤ meters

theorem isInside_of_holds (held : (Clause.within a).holds d.source = .ok true) : IsInside a d := by
  rw [Clause.holds] at held
  obtain ⟨meters, radius, held⟩ := bind_eq_ok.mp held
  replace radius : a.radiusMeters = .ok meters := by
    cases measured : a.radiusMeters with
    | error misuse => rw [measured] at radius; cases radius
    | ok m =>
      rw [measured] at radius
      cases radius
      rfl
  replace held : (distance? a.center d.location).map (fun x => decide (x ≤ meters)) = .ok true := held
  obtain ⟨x, distance, near⟩ := map_eq_ok.mp held
  unfold distance? at distance
  split at distance
  · rename_i there
    cases distance
    exact ⟨⟨⟨meters, radius⟩, there⟩, meters, radius, of_decide_eq_true near⟩
  · cases distance

/-! ## Hits in an area -/

/-- Whether a hit tells its distance from the center of an area, which is not above the radius. -/
structure Hit.IsNear (a : Area) (h : Hit) : Prop where
  distance : h.distance = some (haversine a.center h.document.location)
  inside : ∃ meters, a.radiusMeters = .ok meters ∧ haversine a.center h.document.location ≤ meters

/-- Whether one distance may stand before another: it is not greater where they go up, and not less where they go
down. -/
def InOrder (x y : Float) : Direction → Prop
  | .asc => x ≤ y
  | .desc => y ≤ x

/-- Whether one hit may stand before another in a direction: their distances are in order, and of two that are
equally far the one that was created later goes first, and then the one with the lower identity. -/
def Hit.Precedes (direction : Direction) (h i : Hit) : Prop :=
  ∃ x y, h.distance = some x ∧ i.distance = some y ∧ InOrder x y direction ∧
    ((x == y) = true → i.document.createdAt < h.document.createdAt ∨
      h.document.createdAt = i.document.createdAt ∧ h.document.id < i.document.id)

/-- A float that goes before another one by its place is at most as great, and level with it only if the rest says
that it goes before. -/
theorem le_of_isLE {x y : Float} (hx : Magnitude.ofFloat x ≠ .undefined) (hy : Magnitude.ofFloat y ≠ .undefined)
    {rest : Ordering} (le : ((compare (Magnitude.ofFloat x).rank (Magnitude.ofFloat y).rank).then rest).isLE = true) :
    x ≤ y ∧ ((x == y) = true → rest.isLE = true) := by
  obtain ⟨same, below, _⟩ := Magnitude.compare_rank hx hy
  rw [Magnitude.le_ofFloat, Magnitude.same_ofFloat, below, same]
  revert le
  cases compare (Magnitude.ofFloat x).rank (Magnitude.ofFloat y).rank <;> simp

/-- What goes before in the order of the sort values is nearer, or farther, or comes first by the tie-breaks. -/
theorem order_of_isLE {center : Point} {direction : Direction} {x y : Float} {c c' i i' : String}
    (hx : Magnitude.ofFloat x ≠ .undefined) (hy : Magnitude.ofFloat y ≠ .undefined) (different : i ≠ i')
    (le : (orderKeys (.distance center direction :: tieBreaks) [.float x, .text c, .text i]
      [.float y, .text c', .text i']).isLE = true) :
    InOrder x y direction ∧ ((x == y) = true → c' < c ∨ c = c' ∧ i < i') := by
  have parts : orderKeys (.distance center direction :: tieBreaks) [.float x, .text c, .text i]
      [.float y, .text c', .text i'] =
      (orderPlaces direction (some (Sum.inlₗ (Magnitude.ofFloat x).rank)) (some (Sum.inlₗ (Magnitude.ofFloat y).rank))).then
        ((compare (Sum.inrₗ c' : Place) (Sum.inrₗ c)).then
          ((compare (Sum.inrₗ i : Place) (Sum.inrₗ i')).then .eq)) := rfl
  rw [parts, compare_inr, compare_inr] at le
  -- among those that are equally far the tie-breaks decide
  have tie (level : ((compare c' c).then ((compare i i').then .eq)).isLE = true) : c' < c ∨ c = c' ∧ i < i' := by
    refine (Ordering.isLE_then_iff_or.mp level).imp compare_lt_iff_lt.mp fun ⟨level, rest⟩ =>
      ⟨(compare_eq_iff_eq.mp level).symm, ?_⟩
    rcases Ordering.isLE_then_iff_or.mp rest with below | ⟨level, _⟩
    · exact compare_lt_iff_lt.mp below
    · exact absurd (compare_eq_iff_eq.mp level) different
  cases direction with
  | asc =>
    change ((compare (Sum.inlₗ (Magnitude.ofFloat x).rank : Place) (Sum.inlₗ (Magnitude.ofFloat y).rank)).then _).isLE =
      true at le
    rw [compare_inl] at le
    obtain ⟨outward, level⟩ := le_of_isLE hx hy le
    exact ⟨outward, fun same => tie (level same)⟩
  | desc =>
    change ((compare (Sum.inlₗ (Magnitude.ofFloat y).rank : Place) (Sum.inlₗ (Magnitude.ofFloat x).rank)).then _).isLE =
      true at le
    rw [compare_inl] at le
    obtain ⟨inward, level⟩ := le_of_isLE hy hx le
    rw [Magnitude.same_ofFloat, Magnitude.same_comm, ← Magnitude.same_ofFloat]
    exact ⟨inward, fun same => tie (level same)⟩

variable {f : Found}

/-- What is sorted by distance has the distance, the creation and the identity as sort values. -/
theorem Found.Of.keys_distance {direction : Direction} (of : f.Of (.distance a.center direction :: tieBreaks) d)
    (reaches : Reaches a d) :
    f.keys = [.float (haversine a.center d.location), .text d.createdAt, .text d.id] := by
  obtain ⟨far, keys, ⟨distance, _⟩, others, keys_eq⟩ := List.forall₂_cons_left_iff.mp of.keys
  obtain ⟨created, keys', ⟨creation, _⟩, others, keys_eq'⟩ := List.forall₂_cons_left_iff.mp others
  obtain ⟨id, keys'', ⟨identity, _⟩, others, keys_eq''⟩ := List.forall₂_cons_left_iff.mp others
  cases others
  rw [SortClause.valueOf, reaches.distanceFrom_eq, map_ok] at distance
  rw [keys_eq, keys_eq', keys_eq'', ← Except.ok.inj distance]
  cases creation
  cases identity
  rfl

theorem ofFloat_ne_undefined_of_le {x y : Float} (le : x ≤ y) : Magnitude.ofFloat x ≠ .undefined := by
  intro undefined
  rcases Magnitude.le_ofFloat.mp le with below | same
  · rw [undefined] at below
    cases below
  · rw [undefined] at same
    cases same

theorem Found.Of.fits_distance {direction : Direction} (of : f.Of (.distance a.center direction :: tieBreaks) d)
    (inside : IsInside a d) :
    List.Forall₂ SortClause.Fits (.distance a.center direction :: tieBreaks) f.keys := by
  obtain ⟨reaches, meters, _, near⟩ := inside
  have number := ofFloat_ne_undefined_of_le near
  rw [of.keys_distance reaches]
  exact .cons ⟨.inr rfl, fun undefined => number (Option.some.inj undefined)⟩
    (.cons (SortClause.fits_text (.inr rfl)) (.cons (SortClause.fits_text (.inr rfl)) .nil))

/-! ## Results of searches in an area -/

/-- A search body has the sort of its query, and the clauses that select documents for it. -/
theorem parts_of_ofQuery {surface : Surface} {sort : List SortClause} (made : SearchBody.ofQuery surface q = .ok body)
    (sorted : sortClauses surface q = .ok sort) : filterClauses surface q = .ok body.filters ∧ body.sort = sort := by
  unfold SearchBody.ofQuery at made
  obtain ⟨_, _, made⟩ := bind_eq_ok.mp made
  obtain ⟨sort', sorted', made⟩ := bind_eq_ok.mp made
  obtain ⟨filters, selected, made⟩ := bind_eq_ok.mp made
  cases made
  cases sorted.symm.trans sorted'
  exact ⟨selected, rfl⟩

/-- What a search in an area finds lies in the area, has the sort values of its document, and is found once. -/
theorem origin_of_search {surface : Surface} {found : List Found} (area : q.area = some a)
    (selected : filterClauses surface q = .ok body.filters)
    (values : ∀ (d : Document) score, (∀ b ∈ q.area, Reaches b d) → ∀ c ∈ body.sort,
      ∃ v, c.valueOf d.source score = .ok v ∧ c.valueKind.Suits v)
    (distinct : (documents.map Document.id).Nodup) (searched : body.search (documents.map entry) = .ok found) :
    (∀ f ∈ found, ∃ d ∈ documents, IsInside a d ∧ f.Of body.sort d) ∧ (found.map Found.id).Nodup := by
  obtain ⟨find, finds, sortedFound⟩ := exists_find_of_search searched
  have each : ∀ d ∈ documents, ∀ f ∈ find d, IsInside a d ∧ f.Of body.sort d := by
    intro d member f selects
    have looked : body.find? d.id d.source = .ok (some f) := by rw [finds d member, selects]
    have inside := isInside_of_holds (holds_of_allHold (allHold_of_find? looked) _
      (List.mem_cons_of_mem _ (within_mem_filterClauses selected area)))
    -- it has a distance by which it can be sorted, as it lies in the area
    refine ⟨inside, of_find? looked fun score => values d score fun b asked => ?_⟩
    cases area.symm.trans asked
    exact inside.1
  have perm := perm_sortFound sortedFound
  constructor
  · intro f member
    obtain ⟨d, there, selects⟩ := List.mem_filterMap.mp (perm.mem_iff.mp member)
    exact ⟨d, there, each d there f selects⟩
  · refine (perm.map Found.id).nodup_iff.mpr ?_
    rw [map_id_filterMap fun d member f selects => (each d member f selects).2]
    exact distinct.sublist (List.filter_sublist.map _)

/-- What was found in an area and sorted by distance stands in the order of its sort values. -/
theorem pairwise_search {found : List Found} {direction : Direction}
    (sort : body.sort = .distance a.center direction :: tieBreaks)
    (origin : ∀ f ∈ found, ∃ d ∈ documents, IsInside a d ∧ f.Of body.sort d)
    (searched : body.search (documents.map entry) = .ok found) :
    found.Pairwise fun f g => (orderKeys (.distance a.center direction :: tieBreaks) f.keys g.keys).isLE = true := by
  obtain ⟨find, _, sortedFound⟩ := exists_find_of_search searched
  rw [sort] at sortedFound origin
  refine pairwise_sortFound (fun f member => ?_) sortedFound
  obtain ⟨d, _, inside, of⟩ := origin f ((perm_sortFound sortedFound).mem_iff.mpr member)
  exact of.fits_distance inside

/-- Of two hits in an area the one whose sort values go before goes first. -/
theorem Hit.IsNear.precedes {direction : Direction} {f g : Found} {h i : Hit} (near : h.IsNear a) (near' : i.IsNear a)
    (reaches : Reaches a h.document) (reaches' : Reaches a i.document)
    (of : f.Of (.distance a.center direction :: tieBreaks) h.document)
    (of' : g.Of (.distance a.center direction :: tieBreaks) i.document) (different : f.id ≠ g.id)
    (le : (orderKeys (.distance a.center direction :: tieBreaks) f.keys g.keys).isLE = true) :
    h.Precedes direction i := by
  obtain ⟨_, _, bound⟩ := near.inside
  obtain ⟨_, _, bound'⟩ := near'.inside
  rw [of.id, of'.id] at different
  rw [of.keys_distance reaches, of'.keys_distance reaches'] at le
  exact ⟨_, _, near.distance, near'.distance,
    order_of_isLE (ofFloat_ne_undefined_of_le bound) (ofFloat_ne_undefined_of_le bound') different le⟩

/-- What a search in an area is answered with is a full result, of hits that tell their distances within the radius.
Sorted by distance they stand in the order of their distances. -/
theorem exists_result_of_search {found : List Found} (area : q.area = some a)
    (offered : (Surface.facilitySearch.sortColumn? q.sorting.key).isSome = true)
    (checked : Surface.checkDistance q = .ok ()) (distinct : (documents.map Document.id).Nodup)
    (made : SearchBody.ofQuery Surface.facilitySearch q = .ok body)
    (searched : body.search (documents.map entry) = .ok found) (name : String) :
    ∃ whole, IsResult name q documents whole ∧ (∀ h ∈ whole, h.document ∈ documents ∧ h.IsNear a) ∧
      (q.sorting.key = .distance → whole.Pairwise (Hit.Precedes q.sorting.direction)) := by
  obtain ⟨sort, sorted, values⟩ := exists_sortClauses offered checked
  obtain ⟨selected, rfl⟩ := parts_of_ofQuery made sorted
  obtain ⟨origin, ids⟩ := origin_of_search area selected values distinct searched
  obtain ⟨whole, read⟩ : ∃ whole, List.Forall₂ (fun f h => (readHit q (Server.hit name f) = .ok h ∧
      entry h.document = (f.id, f.source)) ∧ (h.document ∈ documents ∧ h.IsNear a) ∧ Reaches a h.document ∧
      f.Of body.sort h.document) found whole := by
    refine exists_forall₂ fun f member => ?_
    obtain ⟨d, there, ⟨reaches, near⟩, of⟩ := origin f member
    obtain ⟨h, read, rfl, distance⟩ := @exists_readHit q d name _ f sorted of fun b asked => by
      cases area.symm.trans asked
      exact reaches
    rw [area] at distance
    exact ⟨h, ⟨read, by rw [entry, of.id, of.source]⟩, ⟨there, distance, near⟩, reaches, of⟩
  refine ⟨whole, ⟨body, found, made, searched, read.imp fun _ _ => And.left⟩, fun h member => ?_, fun key => ?_⟩
  · obtain ⟨f, _, _, facts, _⟩ := exists_of_forall₂ read h member
    exact facts
  -- sorting by distance is sorting by the first clause, which measures from the center
  · have clauses : body.sort = .distance a.center q.sorting.direction :: tieBreaks := by
      rw [sortClauses, key, area] at sorted
      exact (Except.ok.inj sorted).symm
    have ordered := (pairwise_search clauses origin searched).and (List.pairwise_map.mp ids)
    rw [clauses] at read
    refine pairwise_of_forall₂ read ordered fun f g h i first second placed => ?_
    obtain ⟨_, ⟨_, near⟩, reaches, of⟩ := first
    obtain ⟨_, ⟨_, near'⟩, reaches', of'⟩ := second
    exact near.precedes near' reaches reaches' of of' placed.2 placed.1

end Index

/-! ## Deployments -/

namespace Deployment

variable {d d' : Deployment} {request : Value} {q : Query} {a : Area} {documents : List Document}

/-- A page in an area belongs to a full result. -/
theorem exists_result_of_page {p : HitPage} (calm : d.IsCalm) (holds : d.server.Holds d.gateway.index documents)
    (accepted : Surface.facilitySearch.normalize request = .ok q) (area : q.area = some a)
    (answered : (d.search request).1 = .ok p) :
    d.server.index? d.gateway.index = some (documents.map entry) ∧
      ∃ whole, IsResult d.gateway.index q documents whole ∧ (∀ h ∈ whole, h.document ∈ documents ∧ h.IsNear a) ∧
        (q.sorting.key = .distance → whole.Pairwise (Hit.Precedes q.sorting.direction)) ∧ Shows q whole p := by
  have normalizes := Surface.normalizes_of_normalize accepted
  obtain ⟨_, _, sorted, _, _, distance⟩ := Surface.accept_iff.mp normalizes.accepted
  have run : (d.gateway.search q).run Server.client d.server =
      (.ok p, ((d.gateway.search q).run Server.client d.server).2) := by
    simp only [search, accepted, exchange, calm.run_eq] at answered
    exact Prod.ext answered rfl
  obtain ⟨body, held, found, made, there, searched, _⟩ := exists_of_run_search run
  -- what was searched are the documents that the index holds
  have same : held = documents.map entry := by
    rw [← holds.held, there]
    rfl
  rw [same] at there searched
  obtain ⟨whole, result, near, ordered⟩ :=
    exists_result_of_search area sorted distance holds.distinct made searched d.gateway.index
  obtain ⟨p', answered', shows⟩ := exists_page calm there accepted result
  rw [answered'] at answered
  cases answered
  exact ⟨there, whole, result, near, ordered, shows⟩

/-- Every hit of a search in an area is a document of the index, and tells its distance from the center, which is not
above the radius, whatever the search is sorted by. Sorted by distance the hits stand in this order over all pages of
a scroll, and those that are equally far by creation, the latest first, and then by identity. As long as distances
can be computed, there are such pages. -/
theorem search_distances (calm : d.IsCalm) (written : d.gateway.Written d.server)
    (accepted : Surface.facilitySearch.normalize request = .ok q) (area : q.area = some a) :
    ∃ meters, a.radiusMeters = .ok meters ∧
      (∀ p, (d.search request).1 = .ok p → ∀ h ∈ p.hits,
        entry h.document ∈ (d.server.index? d.gateway.index).getD [] ∧
          h.distance = some (haversine a.center h.document.location) ∧
          haversine a.center h.document.location ≤ meters) ∧
      (q.sorting.key = .distance → ∀ pages, d.Scroll request pages →
        (pages.flatMap HitPage.hits).Pairwise (Hit.Precedes q.sorting.direction)) ∧
      (LawfulTrigonometry → (d.server.index? d.gateway.index).isSome = true →
        (∃ p, d.search request = (.ok p, d)) ∧ ∃ pages, d.Scroll request pages) := by
  have normalizes := Surface.normalizes_of_normalize accepted
  obtain ⟨onGlobe, meters, radius⟩ := normalizes.area_spec a area
  obtain ⟨documents, holds⟩ := written.exists_holds
  refine ⟨meters, radius, fun p answered h member => ?_, fun key pages scrolls => ?_, fun laws there => ?_⟩
  · obtain ⟨there, whole, _, near, _, shows⟩ := exists_result_of_page calm holds accepted area answered
    rw [shows.hits] at member
    obtain ⟨document, distance, meters', radius', inside⟩ := near h (List.mem_of_mem_drop (List.mem_of_mem_take member))
    cases radius.symm.trans radius'
    exact ⟨by rw [there]; exact List.mem_map_of_mem document, distance, inside⟩
  · -- the first page of a scroll belongs to a full result, which is that of all its pages
    have first : Surface.facilitySearch.normalize (atCursor request none) = .ok _ :=
      Surface.normalize_atCursor accepted nofun
    obtain ⟨p, answered⟩ : ∃ p, (d.search (atCursor request none)).1 = .ok p := by
      cases scrolls with
      | last answered _ | more answered _ _ => exact ⟨_, answered⟩
    obtain ⟨there, whole, result, _, ordered, _⟩ := exists_result_of_page calm holds first area answered
    obtain ⟨_, _, _, _, window, _⟩ := Surface.accept_iff.mp normalizes.accepted
    obtain ⟨pages', scrolls', covers⟩ := exists_scroll_of_result calm there accepted (result.repaged (window rfl))
    rw [scrolls.unique scrolls', covers.items_eq]
    exact (ordered key).sublist (List.take_sublist _ _)
  · obtain ⟨_, _, sorted, _, window, distance⟩ := Surface.accept_iff.mp normalizes.accepted
    have held : d.server.index? d.gateway.index = some (documents.map entry) := by
      rw [← holds.held]
      exact (Option.some_get there).symm.trans (by rw [Option.get_eq_getD])
    have reaches : ∀ e ∈ documents, ∀ b ∈ q.area, Reaches b e := by
      intro e member b asked
      cases area.symm.trans asked
      exact ⟨⟨meters, radius⟩, onGlobe.hasDistance (holds.placed e member) laws⟩
    obtain ⟨whole, result, _, _⟩ := exists_result
      ⟨normalizes.acceptedConditions, sorted, distance, reaches, window rfl⟩ d.gateway.index
    obtain ⟨p, answered, _⟩ := exists_page calm held accepted result
    obtain ⟨pages, scrolls, _⟩ := exists_scroll_of_result calm held accepted result
    exact ⟨⟨p, answered⟩, pages, scrolls⟩

/-- A request for what lies around the point of the buoys, the nearest first and one to a page. -/
def ashore : Value := .object [("lat", .int 0), ("lon", .int 0), ("sort", .text "distance"), ("limit", .int 1)]

/-- Both buoys lie within fifty kilometers of the point, if their distances can be computed. -/
theorem search_distances_buoys : ∃ q a meters, Surface.facilitySearch.normalize ashore = .ok q ∧ q.area = some a ∧
    q.sorting.key = .distance ∧ a.radiusMeters = .ok meters ∧
    (∀ p, (buoys.search ashore).1 = .ok p → ∀ h ∈ p.hits, haversine a.center h.document.location ≤ meters) ∧
    (LawfulTrigonometry → ∃ pages, buoys.Scroll ashore pages ∧
      (pages.flatMap HitPage.hits).Pairwise (Hit.Precedes .asc)) := by
  have asked : (Surface.facilitySearch.normalize ashore).toOption.map (fun q => (q.area.isSome, q.sorting.key,
      q.sorting.direction)) = some (true, .distance, .asc) := by decide +kernel
  cases accepted : Surface.facilitySearch.normalize ashore with
  | error fault =>
    rw [accepted] at asked
    cases asked
  | ok q =>
    rw [accepted] at asked
    obtain ⟨around, asked⟩ := Prod.mk.inj (Option.some.inj asked)
    obtain ⟨key, direction⟩ := Prod.mk.inj asked
    obtain ⟨a, area⟩ := Option.isSome_iff_exists.mp around
    obtain ⟨meters, radius, near, ordered, answered⟩ := search_distances ⟨rfl, rfl⟩ buoys_written accepted area
    refine ⟨q, a, meters, rfl, area, key, radius, fun p shown h member => (near p shown h member).2.2, fun laws => ?_⟩
    obtain ⟨_, pages, scrolls⟩ := answered laws rfl
    exact ⟨pages, scrolls, direction ▸ ordered key pages scrolls⟩

end Deployment
end Venues
