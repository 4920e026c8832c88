import Mathlib.Data.List.Basic
import Venues.Proofs.Fields
import Venues.Proofs.Surface.Conditions
import Venues.Surface.Request

/-! # Requests for other pages

A request that was accepted stays accepted when it asks for another page, and all of the query but the
page stays as it was.
-/

namespace Venues

namespace Checked

variable {α β : Type} {x : Checked α} {y : Checked β} {name : String} {a : α} {b : β}

@[simp] theorem inField_eq_ok : x.inField name = .ok a ↔ x = .ok a := by
  cases x <;> simp [inField]

@[simp] theorem both_eq_ok : both x y = .ok (a, b) ↔ x = .ok a ∧ y = .ok b := by
  cases x <;> cases y <;> simp [both]

end Checked

/-! ## Pages -/

/-- Whether a page starts at some row: pages are counted from one on, and rows from zero on. -/
def Page.IsProper : Page → Prop
  | .offset number _ start? => 1 ≤ number ∧ ∀ start ∈ start?, 0 ≤ start
  | .cursor .. => True

namespace Schema

open Checked

/-- What is read between bounds lies between them. -/
theorem wholeBetween_bounds {least? most? : Option Int} {n : Int} {v : Value}
    (read : wholeBetween least? most? v = .ok n) : (∀ least ∈ least?, least ≤ n) ∧ ∀ most ∈ most?, n ≤ most := by
  unfold wholeBetween at read
  split at read
  · cases read
  · split at read
    · split at read
      · cases read
      · split at read
        · cases read
        · cases read
          simp only [Option.mem_some_iff, forall_eq']
          omega
    · split at read
      · cases read
      · cases read
        simp only [Option.mem_some_iff, forall_eq']
        exact ⟨nofun, by omega⟩
    · split at read
      · cases read
      · cases read
        simp only [Option.mem_some_iff, forall_eq']
        exact ⟨by omega, nofun⟩
    · cases read
      exact ⟨nofun, nofun⟩

/-- What may be null is read unless it is. -/
theorem nullable_spec {α : Type} {read : Value → Checked α} {v : Value} {a? : Option α}
    (accepted : nullable read v = .ok a?) : ∀ a ∈ a?, read v = .ok a := by
  intro a given
  unfold nullable at accepted
  split at accepted
  · cases accepted
    cases given
  · obtain ⟨b, read, same⟩ := map_eq_ok.mp accepted
    rw [← same] at given
    cases given
    exact read

/-- The limit of a page is read on its own, and the page is a proper one. -/
theorem page_spec {fs : Fields} {p : Page} (accepted : page (.object fs) = .ok p) :
    limit fs = .ok p.limit ∧ p.IsProper := by
  simp only [page] at accepted
  -- a page is read by its number or by a cursor, as its mode says
  split at accepted
  · cases accepted
  · obtain ⟨⟨_, number, n, start?, _⟩, parts, made⟩ := bind_eq_ok.mp (inField_eq_ok.mp accepted)
    simp only [both_eq_ok] at parts
    obtain ⟨_, numbered, limited, started, _⟩ := parts
    cases made
    refine ⟨limited, ?_, ?_⟩
    · unfold Schema.optional at numbered
      split at numbered
      · exact (wholeBetween_bounds (inField_eq_ok.mp numbered)).1 1 rfl
      · cases numbered
        decide
    · unfold Schema.optional at started
      split at started
      · exact fun start given => (wholeBetween_bounds (nullable_spec (inField_eq_ok.mp started) start given)).1 0 rfl
      · cases started
        simp
  · obtain ⟨⟨_, cursor?, n, _⟩, parts, made⟩ := bind_eq_ok.mp (inField_eq_ok.mp accepted)
    simp only [both_eq_ok] at parts
    obtain ⟨_, _, limited, _⟩ := parts
    cases made
    exact ⟨limited, trivial⟩
  · cases accepted

/-- Reading a cursor page comes down to reading its cursor and its limit. -/
theorem page_cursor {cursor limit : Value} {p : Page} :
    page (.object [("mode", .text "cursor"), ("cursor", cursor), ("limit", limit)]) = .ok p ↔
      ∃ c? n, nullable (plain readText) cursor = .ok c? ∧ wholeBetween minLimit maxLimit limit = .ok n ∧
        p = .cursor c? n := by
  let fs : Fields := [("mode", .text "cursor"), ("cursor", cursor), ("limit", limit)]
  have read : page (.object fs) = (cursorPage fs).inField "cursor" := rfl
  rw [read, inField_eq_ok, cursorPage, bind_eq_ok]
  constructor
  · rintro ⟨⟨_, c?, n, _⟩, parts, made⟩
    simp only [both_eq_ok] at parts
    obtain ⟨_, cursorRead, limited, _⟩ := parts
    replace cursorRead : (nullable (plain readText) cursor).inField "cursor" = .ok c? := cursorRead
    replace limited : (wholeBetween minLimit maxLimit limit).inField "limit" = .ok n := limited
    exact ⟨c?, n, inField_eq_ok.mp cursorRead, inField_eq_ok.mp limited, (Except.ok.inj made).symm⟩
  · rintro ⟨c?, n, cursorRead, limited, rfl⟩
    exact ⟨((), c?, n, ()), both_eq_ok.mpr ⟨rfl, both_eq_ok.mpr ⟨inField_eq_ok.mpr cursorRead,
      both_eq_ok.mpr ⟨inField_eq_ok.mpr limited, rfl⟩⟩⟩, rfl⟩

/-- An offset page that is given by its number. -/
theorem page_number {limit : Value} {n number : Int} (positive : 1 ≤ number)
    (read : wholeBetween minLimit maxLimit limit = .ok n) :
    page (.object [("mode", .text "offset"), ("limit", limit), ("page", .int number)]) =
      .ok (.offset number n none) := by
  let fs : Fields := [("mode", .text "offset"), ("limit", limit), ("page", .int number)]
  have pageOf : page (.object fs) = (offsetPage fs).inField "offset" := rfl
  have notBelow : ¬ number < 1 := by omega
  have numbered : wholeBetween (some 1) none (.int number) = .ok number := by
    simp [wholeBetween, readWhole, notBelow]
  rw [pageOf, inField_eq_ok, offsetPage, bind_eq_ok]
  exact ⟨((), number, n, none, ()), both_eq_ok.mpr ⟨rfl, both_eq_ok.mpr ⟨inField_eq_ok.mpr numbered,
    both_eq_ok.mpr ⟨inField_eq_ok.mpr read, rfl⟩⟩⟩, rfl⟩

end Schema

/-! ## Requests -/

namespace Surface

variable {s : Surface} {raw raw' : Fields} {q : Query}

/-- The keys of a request that say which page is asked for. -/
def pageKeys : List String := ["cursor", "page", "offset"]

/-- Whether two requests differ in the page that they ask for, and in nothing else. -/
def SameBut (raw raw' : Fields) : Prop := ∀ key, key ∉ pageKeys → raw'.get? key = raw.get? key

theorem SameBut.get (same : SameBut raw raw') (key : String) (other : key ∉ pageKeys) :
    raw'.get key = raw.get key := by
  rw [Fields.get, Fields.get, same key other]

/-- The limit of a request, that of the surface where it names none. -/
def limitValue (s : Surface) (raw : Fields) : Value :=
  if (raw.get "limit").isNull then .int s.defaultLimit else raw.get "limit"

theorem get?_limit_rawPage : Fields.get? (s.rawPage raw) "limit" = some (s.limitValue raw) := by
  unfold rawPage
  cases raw.get? "cursor" <;> rfl

/-- A request that holds a cursor asks for a cursor page. -/
theorem rawPage_cursor {c? : Option String} (stripped : ∀ c ∈ c?, Text.strip c = c ∧ c ≠ "")
    (cursor : raw.get? "cursor" = some (.ofText? c?)) :
    s.rawPage raw =
      [("mode", .text "cursor"), ("cursor", .ofText? c?), ("limit", s.limitValue raw)] := by
  unfold rawPage
  rw [cursor]
  cases c? with
  | none => rfl
  | some c =>
    obtain ⟨same, nonempty⟩ := stripped c rfl
    simp [Value.ofText?, Value.isNull, Value.display, same, nonempty, limitValue]

theorem rawPage_number {number : Int} (cursor : raw.get? "cursor" = none)
    (offset : raw.get? "offset" = none) (page : raw.get? "page" = some (.int number)) :
    s.rawPage raw =
      [("mode", .text "offset"), ("limit", s.limitValue raw), ("page", .int number)] := by
  unfold rawPage
  rw [cursor]
  simp [Fields.get, offset, page, Value.isNull, limitValue]

section Parts

variable (same : SameBut raw raw')
include same

theorem readTerm_of_sameBut : readTerm raw' = readTerm raw := by
  rw [readTerm, readTerm, same "term" (by decide), same.get "keyword" (by decide)]

theorem readArea_of_sameBut : readArea raw' = readArea raw := by
  have part (key : String) (other : key ∉ pageKeys) :
      (if (raw'.get key).isNull then none else some (key, raw'.get key)) =
        if (raw.get key).isNull then none else some (key, raw.get key) := by rw [same.get key other]
  unfold readArea
  rw [same.get "geo" (by decide), Fields.has, Fields.has, Fields.has, Fields.has,
    same "lat" (by decide), same "lon" (by decide)]
  simp only [List.filterMap_cons, part "lat" (by decide), part "lon" (by decide), part "radius" (by decide)]
  rfl

theorem readSorting_of_sameBut : s.readSorting raw' = s.readSorting raw := by
  have get (key : String) (other : key ∉ pageKeys) : raw'.get key = raw.get key := same.get key other
  rw [readSorting, readSorting, rawSort, rawSort, get "sort" (by decide), get "sortBy" (by decide),
    get "sortDirection" (by decide)]

theorem wantsRelations_of_sameBut : wantsRelations raw' = wantsRelations raw := by
  rw [wantsRelations, wantsRelations, same "includeRelations" (by decide),
    same "include_relations" (by decide)]

theorem limitValue_of_sameBut : s.limitValue raw' = s.limitValue raw := by
  rw [limitValue, limitValue, same.get "limit" (by decide)]

end Parts

/-! ## Acceptance -/

/-- What a finished query is accepted for. -/
theorem accept_iff {q' : Query} : s.accept q = .ok q' ↔ q = q' ∧
    (∃ found, s.readConditions q.conditions = .ok found) ∧
    (s.sortColumn? q.sorting.key).isSome = true ∧ (q.area.isSome = true → s.backend = .index) ∧
    (s.backend = .index → checkWindow q = .ok ()) ∧ checkDistance q = .ok () := by
  unfold accept
  cases s.readConditions q.conditions with
  | error f => simp [bind, Except.bind]
  | ok found =>
    cases s.sortColumn? q.sorting.key with
    | none => simp [bind, Except.bind, refuse]
    | some column =>
      simp only [ok_bind, Option.isNone_some, Bool.false_eq_true, if_false, Option.isSome_some, true_and,
        Except.ok.injEq, exists_eq']
      by_cases index : s.backend = .index
      · cases checkWindow q <;> cases checkDistance q <;> simp [index, bind, Except.bind]
      · cases area : q.area with
        | none => cases checkDistance q <;> simp [index, bind, Except.bind]
        | some a => simp [index, bind, Except.bind, refuse]

/-- The area that is read from the fields of one. -/
def readAreaOf (area? : Option Fields) : Checked (Option Area) :=
  match area? with
  | none => .ok none
  | some fs => ((Schema.area (.object fs)).inField "geo").map some

/-- Whether a query is what the parts of a request say. -/
structure Normalizes (s : Surface) (raw : Fields) (q : Query) : Prop where
  keys : checkKeys raw = .ok ()
  limit : checkLimit (raw.get "limit") = .ok ()
  term : readTerm raw = .ok q.term
  conditions : s.readFilters (raw.get "filters") = .ok q.conditions
  area : ∃ area?, readArea raw = .ok area? ∧ readAreaOf area? = .ok q.area
  sorting : s.readSorting raw = .ok q.sorting
  page : Schema.page (.object (s.rawPage raw)) = .ok q.page
  withRelations : wantsRelations raw = q.withRelations
  accepted : s.accept q = .ok q

/-- Area and page are read together exactly if each of them is. -/
theorem readPlace_iff {area? : Option Fields} {fs : Fields} {area : Option Area} {page : Page} :
    readPlace area? fs = .ok (area, page) ↔
      readAreaOf area? = .ok area ∧ Schema.page (.object fs) = .ok page := by
  rw [← @Checked.inField_eq_ok _ (Schema.page (.object fs)) "page", ← Checked.both_eq_ok]
  unfold readPlace
  dsimp only
  split
  · rename_i place joined
    replace joined : Checked.both (readAreaOf area?) _ = .ok place := joined
    rw [joined, Except.ok.injEq, Except.ok.injEq]
  · rename_i found joined
    replace joined : Checked.both (readAreaOf area?) _ = .error found := joined
    simp [joined, refuse]

/-- A request stands for a query exactly if each of its parts stands for that part of the query. -/
theorem normalize_iff : s.normalize (.object raw) = .ok q ↔ s.Normalizes raw q := by
  constructor
  · intro accepted
    unfold normalize requestFields at accepted
    rw [ok_bind] at accepted
    obtain ⟨⟨⟩, keys, accepted⟩ := bind_eq_ok.mp accepted
    obtain ⟨⟨⟩, limit, accepted⟩ := bind_eq_ok.mp accepted
    obtain ⟨term, readTerm, accepted⟩ := bind_eq_ok.mp accepted
    obtain ⟨conditions, readFilters, accepted⟩ := bind_eq_ok.mp accepted
    obtain ⟨area?, readArea, accepted⟩ := bind_eq_ok.mp accepted
    obtain ⟨sorting, readSorting, accepted⟩ := bind_eq_ok.mp accepted
    obtain ⟨⟨area, page⟩, place, accepted⟩ := bind_eq_ok.mp accepted
    obtain ⟨rfl, _⟩ := accept_iff.mp accepted
    obtain ⟨areaRead, pageRead⟩ := readPlace_iff.mp place
    exact ⟨keys, limit, readTerm, readFilters, ⟨area?, readArea, areaRead⟩, readSorting, pageRead, rfl,
      accepted⟩
  · rintro ⟨keys, limit, term, conditions, ⟨area?, readArea, area⟩, sorting, page, withRelations, accepted⟩
    have place := readPlace_iff.mpr ⟨area, page⟩
    unfold normalize requestFields
    simp only [ok_bind, keys, limit, term, conditions, readArea, sorting, place, withRelations]
    exact accepted

/-- A request that was accepted is accepted for any other page, too, if the page is accepted by itself and
ends inside the window of an index. Only the page of the query changes. -/
theorem Normalizes.repaged {page : Page} (normalizes : s.Normalizes raw q) (same : SameBut raw raw')
    (known : ∀ f ∈ raw', f.1 ∈ requestKeys)
    (read : Schema.page (.object (s.rawPage raw')) = .ok page)
    (window : s.backend = .index → checkWindow { q with page := page } = .ok ()) :
    s.Normalizes raw' { q with page := page } where
  keys := by
    have none : (raw'.map (·.1)).filter (fun key => !requestKeys.contains key) = [] := by
      rw [List.filter_eq_nil_iff]
      intro key member
      obtain ⟨f, given, rfl⟩ := List.mem_map.mp member
      simpa using known f given
    rw [checkKeys, none]
  limit := by
    rw [same.get "limit" (by decide)]
    exact normalizes.limit
  term := by
    rw [readTerm_of_sameBut same]
    exact normalizes.term
  conditions := by
    rw [same.get "filters" (by decide)]
    exact normalizes.conditions
  area := by
    rw [readArea_of_sameBut same]
    exact normalizes.area
  sorting := by
    rw [readSorting_of_sameBut same]
    exact normalizes.sorting
  page := read
  withRelations := by
    rw [wantsRelations_of_sameBut same]
    exact normalizes.withRelations
  accepted := by
    obtain ⟨_, conditions, sorted, area, _, distance⟩ := accept_iff.mp normalizes.accepted
    exact accept_iff.mpr ⟨rfl, conditions, sorted, area, window, distance⟩

theorem Normalizes.mem_requestKeys (normalizes : s.Normalizes raw q) : ∀ f ∈ raw, f.1 ∈ requestKeys := by
  intro f member
  have keys := normalizes.keys
  unfold checkKeys at keys
  split at keys
  · rename_i none
    have known := List.filter_eq_nil_iff.mp none f.1 (List.mem_map_of_mem member)
    simpa using known
  · cases keys

theorem Normalizes.limit_spec (normalizes : s.Normalizes raw q) :
    Schema.wholeBetween minLimit maxLimit (s.limitValue raw) = .ok q.limit ∧ 1 ≤ q.limit ∧ q.limit ≤ 100 := by
  obtain ⟨limit, _⟩ := Schema.page_spec normalizes.page
  rw [Schema.limit, Schema.required, get?_limit_rawPage] at limit
  have read := Checked.inField_eq_ok.mp limit
  obtain ⟨least, most⟩ := Schema.wholeBetween_bounds read
  exact ⟨read, least _ rfl, most _ rfl⟩

theorem Normalizes.acceptedConditions (normalizes : s.Normalizes raw q) : s.Accepted q.conditions :=
  accepted_of_readFilters normalizes.conditions

end Surface
end Venues
