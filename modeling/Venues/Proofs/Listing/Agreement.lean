import Venues.Proofs.Listing
import Venues.Proofs.Store.Agreement
import Venues.Proofs.Surface.Normal

/-! # What a listing asks the store for

The predicate of a request to a listing accepts just the records of the rows that the store finds for it.
Left out are times, of which the store does not keep the offset, and texts with characters that are no ASCII
characters but become some in lower case: when the store ignores the case of letters, it means A to Z.
-/

namespace Venues

open Store (Model Row Tables Agrees compile)

/-- Whether a query asks only for what is told alike by values and by cells: nothing about times, no ranges of
truth values, numbers that a cell can hold, and texts that can be looked for where they are looked for. -/
structure Listing.IsComparable (l : Listing) (t : Tables) (q : Query) : Prop where
  timeless : ∀ c ∈ q.conditions, c.1 ≠ "createdAt"
  testable : l.surface.Testable q.conditions
  plain : ∀ c ∈ q.conditions, c.2.IsPlain
  searched : ∀ c ∈ q.conditions, ∀ needle, c.2 = .contains needle → ∀ d target, l.surface.field? c.1 = some d →
    d.target? l.model = some target → t.IsSearched target d.column
  sought : ∀ term ∈ q.term, Text.IsSought term
  searchedTexts : ∀ term ∈ q.term, ∀ column ∈ l.surface.searchFields, t.IsSearched l.model column

namespace Listing

variable {l : Listing} {t : Tables} {q : Query} {request : Value}

/-- The time of creation is the only field that holds times. -/
theorem timeless_of_ne (known : l = .facilities ∨ l = .courts) {name : String} {d : FieldDef}
    (registered : l.surface.field? name = some d) (other : name ≠ "createdAt") : d.kind ≠ .time := by
  have all : ∀ f ∈ l.surface.fields, f.2.kind = .time → f.1 = "createdAt" := by
    rcases known with rfl | rfl <;> decide
  exact fun time => other (all (name, d) (mem_of_lookup registered) time)

theorem agrees_ofQuery (known : l = .facilities ∨ l = .courts) (sound : t.IsSound)
    (normalizes : l.surface.Normalizes request.fields q) (comparable : l.IsComparable t q) :
    ∃ p, Predicate.ofQuery l.surface q = .ok p ∧ Agrees t l.model p := by
  have describes := describes known
  apply Predicate.exists_ofQuery (Store.isClosed_agrees sound) describes normalizes.acceptedConditions
  · intro c member d target registered leads column typed
    exact Store.agrees_ofCondition sound column (timeless_of_ne known registered (comparable.timeless c member))
      typed (comparable.testable c member d registered) (comparable.plain c member)
      fun needle contains => comparable.searched c member needle contains d target registered leads
  · intro f registered
    obtain ⟨null, column⟩ := describes.base f registered
    obtain ⟨kind, column⟩ := Option.isSome_iff_exists.mp column
    rw [Value.isNull_eq_true null]
    exact Store.agrees_isNull sound column
  · intro term given column searched
    -- the term is looked for as it is, since it has no blanks at its ends
    rw [(Surface.stripped_of_readTerm normalizes.term term given).2]
    exact Store.agrees_ofCondition (c := .contains term) sound (describes.searched column searched) (by decide) rfl
      trivial (comparable.sought term given) fun needle _ => comparable.searchedTexts term given column searched

/-- For every request that a listing accepts, and that is comparable, the rows that the store finds are those
whose records satisfy the predicate of the request. -/
theorem exists_agreement (known : l = .facilities ∨ l = .courts) (sound : t.IsSound)
    (accepted : l.surface.normalize request = .ok q) (comparable : l.IsComparable t q) :
    ∃ p f found, Predicate.ofQuery l.surface q = .ok p ∧ compile l.model p = .ok f ∧
      t.accepted l.model p = .ok (t.selected l.model f) ∧
      t.findMany l.model { filter := some p, order := [("id", .asc)] } = .ok found ∧
      found.Perm (t.selected l.model f) ∧ t.count l.model (some p) = .ok found.length := by
  obtain ⟨p, made, agrees⟩ := agrees_ofQuery known sound (Surface.normalizes_of_normalize accepted) comparable
  obtain ⟨f, compiled, clean, same⟩ := agrees.accepted_eq sound
  obtain ⟨found, reads, perm, counts⟩ := sound.exists_found compiled clean
  exact ⟨p, f, found, made, compiled, same, reads, perm, counts⟩

/-- Two facilities, one of them with a court. -/
def parks : Tables where
  facilities := [{ (default : Facility) with id := ⟨1⟩, name := some "Công viên_Park", city := some "Huế", rating := some 4.5 },
    { (default : Facility) with id := ⟨2⟩, name := some "Park_2" }]
  courts := [{ (default : Court) with id := ⟨3⟩, facilityId := some ⟨1⟩, sport := some "tennis" }]

theorem parks_isSound : parks.IsSound where
  present := rfl
  distinct m := by cases m <;> decide
  typed m := by cases m <;> decide +kernel
  bounded m := by cases m <;> decide

/-- A query with a condition of each form. -/
def parkQuery : Query where
  term := some "PARK"
  conditions := [("name", .contains "_"), ("rating", .range (.float 4) .null),
    ("city", .oneOf [.text "Huế", .text "Hội An"]), ("courts.sport", .equals (.text "tennis"))]
  area := none
  sorting := ⟨.createdAt, .desc⟩
  page := .offset 1 10 none
  withRelations := false

theorem isComparable_parkQuery : facilities.IsComparable parks parkQuery where
  timeless := by decide
  testable := by decide
  plain := by decide +kernel
  searched := by
    -- only the names are looked into
    intro c member needle contains d target registered leads
    simp only [parkQuery, List.mem_cons, List.not_mem_nil, or_false] at member
    rcases member with rfl | rfl | rfl | rfl <;> cases contains
    cases registered
    cases leads
    decide
  sought := by
    intro term given
    cases given
    decide
  searchedTexts := by
    intro term _
    decide

/-- The store finds what the predicate of the query accepts. -/
theorem exists_agreement_parks : ∃ p f found, Predicate.ofQuery facilities.surface parkQuery = .ok p ∧
    compile .facility p = .ok f ∧ parks.accepted .facility p = .ok (parks.selected .facility f) ∧
    parks.findMany .facility { filter := some p, order := [("id", .asc)] } = .ok found ∧
    found.Perm (parks.selected .facility f) ∧ parks.count .facility (some p) = .ok found.length :=
  @exists_agreement facilities parks parkQuery (.object [("term", .text " PARK "), ("filters", .object
    [("name", .text "*_*"), ("rating_from", .int 4), ("city", .list [.text "Huế", .text "Hội An"]),
      ("courts.sport", .text "tennis")])]) (.inl rfl) parks_isSound rfl isComparable_parkQuery

/-- A facility whose name is the sign for kelvin. -/
def kelvin : Tables where
  facilities := [{ (default : Facility) with id := ⟨1⟩, name := some "\u212a" }]

/-- What asks for a letter k in names. -/
def letterQuery : Query where
  term := none
  conditions := [("name", .contains "k")]
  area := none
  sorting := ⟨.createdAt, .desc⟩
  page := .offset 1 10 none
  withRelations := false

/-- In lower case the sign for kelvin is a letter k, but the store does not find it for one. -/
theorem findMany_ne_accepted : kelvin.IsSound ∧
    facilities.surface.normalize (.object [("filters", .object [("name", .text "*k*")])]) = .ok letterQuery ∧
    facilities.surface.Testable letterQuery.conditions ∧ (∀ c ∈ letterQuery.conditions, c.2.IsPlain) ∧
    ∃ p rows, Predicate.ofQuery facilities.surface letterQuery = .ok p ∧ kelvin.accepted .facility p = .ok rows ∧
      rows.map Row.id = [⟨1⟩] ∧ kelvin.findMany .facility { filter := some p, order := [("id", .asc)] } = .ok [] := by
  refine ⟨?_, rfl, by decide, by decide, _, kelvin.rows .facility, rfl, ?_, rfl, ?_⟩
  · refine ⟨rfl, fun m => ?_, fun m => ?_, fun m => ?_⟩ <;> cases m <;> decide
  · with_unfolding_all rfl
  · with_unfolding_all rfl

end Listing
end Venues
