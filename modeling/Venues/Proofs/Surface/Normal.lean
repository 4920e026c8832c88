import Venues.Index.Clause
import Venues.Proofs.Float.Number
import Venues.Proofs.Geo
import Venues.Proofs.Index.Evaluate
import Venues.Proofs.Listing
import Venues.Proofs.Surface.Paging

/-! # Normal queries

Every query that a request stands for is in normal form: it asks for one page of 1 to 100 rows, sorts by a
key of its surface, has conditions on fields of the surface only, with values of their kinds, and has no
blank term. An area stands in it only where the index is asked. Whatever is in normal form has all that the
queries of the backends are made of.
-/

namespace Venues

/-! ## Parts of queries -/

/-- The term of a query is not blank, and has no blanks at its ends. -/
theorem Surface.stripped_of_readTerm {raw : Fields} {term : Option String} (read : readTerm raw = .ok term) :
    ∀ t ∈ term, Text.isBlankText t = false ∧ Text.strip t = t := by
  intro t given
  unfold readTerm at read
  split at read
  · cases read
    cases given
  · rename_i s _
    dsimp only at read
    split at read
    · cases read
      cases given
    · rename_i left
      cases read
      cases given
      -- what is left of a text without the blanks at its ends is blank only if it is empty
      refine ⟨Bool.eq_false_iff.mpr fun blank => left ?_, Text.strip_strip s⟩
      rw [← Text.strip_strip, Text.strip_of_isBlankText blank]
  · cases read

/-- A page is a cursor page exactly if the request has a cursor, be it null. -/
theorem Surface.isCursor_of_page {s : Surface} {raw : Fields} {p : Page}
    (read : Schema.page (.object (s.rawPage raw)) = .ok p) : p.isCursor = raw.has "cursor" := by
  unfold rawPage at read
  dsimp only at read
  rw [Fields.has]
  cases held : raw.get? "cursor" with
  | some cursor =>
    rw [held] at read
    obtain ⟨c?, n, _, _, rfl⟩ := Schema.page_cursor.mp read
    rfl
  | none =>
    rw [held] at read
    obtain ⟨⟨_, number, n, start?, _⟩, _, made⟩ := bind_eq_ok.mp (Checked.inField_eq_ok.mp read)
    cases made
    rfl

theorem Page.IsProper.startOf_nonneg {number limit : Int} {start? : Option Int}
    (proper : (Page.offset number limit start?).IsProper) (least : 1 ≤ limit) :
    0 ≤ Page.startOf number limit start? := by
  obtain ⟨counted, started⟩ := proper
  cases start? with
  | some start => exact started start rfl
  | none => exact Int.mul_nonneg (by omega) (by omega)

namespace Surface

variable {s : Surface} {m : Store.Model} {raw : Fields} {request : Value} {q : Query}

theorem Normalizes.radius_pos (normalizes : s.Normalizes raw q) :
    ∀ a ∈ q.area, ∃ meters, a.radiusMeters = .ok meters ∧ 0 < meters := by
  intro a asked
  obtain ⟨v, read⟩ := normalizes.exists_area a asked
  obtain ⟨_, d, parsed, above⟩ := Schema.area_spec read
  refine ⟨d.meters, ?_, (Unpacked.zero_lt_iff_not_le (Unpacked.isNumber_meters parsed)).mpr above⟩
  rw [Area.radiusMeters, Distance.parseMeters, parsed, map_ok]

theorem isSome_of_checkDistance (checked : checkDistance q = .ok ()) (distance : q.sorting.key = .distance) :
    q.area.isSome = true := by
  unfold checkDistance at checked
  split at checked
  · cases checked
  · rename_i given
    cases area : q.area with
    | none => exact absurd ⟨distance, by rw [area]; rfl⟩ given
    | some a => rfl

theorem end_le_of_checkWindow (checked : checkWindow q = .ok ()) {number limit : Int} {start? : Option Int}
    (page : q.page = .offset number limit start?) : Page.startOf number limit start? + limit ≤ resultWindow := by
  unfold checkWindow at checked
  rw [page] at checked
  dsimp only at checked
  split at checked
  · cases checked
  · rename_i inside
    exact Int.not_lt.mp inside

/-! ## What the backends are asked -/

/-- Accepted conditions become a predicate, even those that the store cannot test. -/
theorem exists_select (describes : s.Describes m) (accepted : s.Accepted q.conditions)
    (sorted : (s.sortColumn? q.sorting.key).isSome = true) : ∃ x, s.select q = .ok x := by
  -- whether the store can carry the predicate out is not asked here, so nothing is asked of its parts
  have closed : Predicate.IsClosed fun _ _ => True := ⟨fun _ => trivial, fun _ => trivial, fun _ _ => trivial⟩
  obtain ⟨filter, made, _⟩ := Predicate.exists_ofQuery closed describes accepted
    (fun _ _ _ _ _ _ _ _ => trivial) (fun _ _ => trivial) (fun _ _ _ _ => trivial)
  obtain ⟨column, found⟩ := Option.isSome_iff_exists.mp sorted
  exact ⟨_, by rw [select, made, ok_bind, ordering, found]; rfl⟩

theorem exists_body (accepted : facilitySearch.Accepted q.conditions)
    (sorted : (facilitySearch.sortColumn? q.sorting.key).isSome = true) (window : checkWindow q = .ok ())
    (distance : checkDistance q = .ok ()) : ∃ body, Index.SearchBody.ofQuery facilitySearch q = .ok body := by
  obtain ⟨sort, ordered, _⟩ := Index.exists_sortClauses sorted distance
  obtain ⟨clauses, selected, _⟩ := Index.exists_filterClauses accepted
  exact ⟨_, by rw [Index.SearchBody.ofQuery, window, ok_bind, ordered, ok_bind, selected, ok_bind]⟩

/-- Whether the backend of a surface can be asked for a query. -/
def Builds (s : Surface) (q : Query) : Prop :=
  match s.backend with
  | .index => ∃ body, Index.SearchBody.ofQuery s q = .ok body
  | .relational => ∃ x, s.select q = .ok x

theorem builds_of_accept (known : s ∈ all) (accepted : s.Accepted q.conditions) (checked : s.accept q = .ok q) :
    s.Builds q := by
  obtain ⟨_, _, sorted, _, window, distance⟩ := accept_iff.mp checked
  simp only [all, List.mem_cons, List.not_mem_nil, or_false] at known
  rcases known with rfl | rfl | rfl
  · exact exists_body accepted sorted (window rfl) distance
  · exact exists_select describes_facility accepted sorted
  · exact exists_select describes_court accepted sorted

/-! ## Normal form -/

/-- Whether a query is in normal form on a surface, with a page of the mode that the request asks for. -/
structure IsNormal (s : Surface) (raw : Fields) (q : Query) : Prop where
  limit : 1 ≤ q.limit ∧ q.limit ≤ 100
  mode : q.page.isCursor = raw.has "cursor"
  start : ∀ number limit start?, q.page = .offset number limit start? → 0 ≤ Page.startOf number limit start?
  sorting : q.sorting.key ∈ s.sortKeys
  conditions : s.Accepted q.conditions
  term : ∀ t ∈ q.term, Text.isBlankText t = false ∧ Text.strip t = t
  area : ∀ a ∈ q.area, s.backend = .index ∧ ∃ meters, a.radiusMeters = .ok meters ∧ 0 < meters
  distance : q.sorting.key = .distance → q.area.isSome = true
  window : s.backend = .index → ∀ number limit start?, q.page = .offset number limit start? →
    Page.startOf number limit start? + limit ≤ 10000

theorem mem_sortKeys (sorted : (s.sortColumn? q.sorting.key).isSome = true) : q.sorting.key ∈ s.sortKeys :=
  List.mem_filter.mpr ⟨by cases q.sorting.key <;> decide, sorted⟩

theorem Normalizes.isNormal (normalizes : s.Normalizes raw q) : s.IsNormal raw q where
  limit := normalizes.limit_spec.2
  mode := isCursor_of_page normalizes.page
  start := by
    intro number limit start? page
    obtain ⟨_, least, _⟩ := normalizes.limit_spec
    have proper := (Schema.page_spec normalizes.page).2
    rw [Query.limit, page] at least
    rw [page] at proper
    exact proper.startOf_nonneg least
  sorting := mem_sortKeys (accept_iff.mp normalizes.accepted).2.2.1
  conditions := normalizes.acceptedConditions
  term := stripped_of_readTerm normalizes.term
  area := by
    obtain ⟨_, _, _, index, _⟩ := accept_iff.mp normalizes.accepted
    exact fun a asked => ⟨index (Option.isSome_of_mem asked), normalizes.radius_pos a asked⟩
  distance := by
    obtain ⟨_, _, _, _, _, checked⟩ := accept_iff.mp normalizes.accepted
    exact isSome_of_checkDistance checked
  window := by
    obtain ⟨_, _, _, _, window, _⟩ := accept_iff.mp normalizes.accepted
    exact fun index _ _ _ page => end_le_of_checkWindow (window index) page

/-- Every query that a request stands for is in normal form, the backend can be asked for it, and being
accepted once more leaves it as it is. -/
theorem isNormal_of_normalize (known : s ∈ all) (accepted : s.normalize request = .ok q) :
    s.IsNormal request.fields q ∧ s.Builds q ∧ s.accept q = .ok q := by
  have normalizes := normalizes_of_normalize accepted
  exact ⟨normalizes.isNormal, builds_of_accept known normalizes.acceptedConditions normalizes.accepted,
    normalizes.accepted⟩

/-- A request for the second page of what lies near a point, by other names and in other forms. -/
def nearby : Value := .object [("keyword", .text " court "), ("lat", .text "10"), ("lon", .float 106.5),
  ("radius", .int 500), ("sortBy", .text "distance"), ("page", .text "2"), ("limit", .int 30),
  ("filters", .object [("rating_from", .text "4"), ("city", .list [.text "Hue"]), ("isPublished", .text "yes")])]

/-- What is asked for near the point is accepted and in normal form. -/
theorem isNormal_nearby : ∃ q, facilitySearch.normalize nearby = .ok q ∧ facilitySearch.IsNormal nearby.fields q ∧
    facilitySearch.Builds q ∧ facilitySearch.accept q = .ok q := by
  cases accepted : facilitySearch.normalize nearby with
  | error fault =>
    have answered : (facilitySearch.normalize nearby).isOk = true := by decide +kernel
    rw [accepted] at answered
    cases answered
  | ok q => exact ⟨q, rfl, isNormal_of_normalize (by simp [all]) accepted⟩

end Surface
end Venues
