import Venues.Proofs.Index.Ties

/-! # Moments in the index

The index holds the moment at which a facility was created as a text in universal time. Whatever offset the clock had
that showed the moment, these texts stand as the moments do. So documents that are sorted by the text of their creation
stand in the order in which their facilities were created.
-/

namespace Venues

open Timestamp (inRange)

variable {a b : Timestamp} {s t : String} {f : Facility} {courts : List Court} {d e : Document}

/-! ## Texts of moments -/

/-- Whether two texts stand to each other as two moments do. -/
structure StandAlike (s t : String) (a b : Timestamp) : Prop where
  before : s < t ↔ a.instant < b.instant
  level : s = t ↔ a.instant = b.instant
  after : t < s ↔ b.instant < a.instant

/-- A moment has a text if it lies in the years 1 to 9999 of universal time: that of the moment on a clock there. -/
theorem momentText_eq_ok_iff : momentText a = .ok s ↔
    inRange a.instant = true ∧ (Timestamp.mk a.instant (some 0)).isoText = s := by
  unfold momentText Timestamp.toUtc?
  by_cases inside : inRange a.instant = true
  · rw [if_pos inside]
    exact ⟨fun made => ⟨inside, Except.ok.inj made⟩, fun made => congrArg Except.ok made.2⟩
  · rw [if_neg inside]
    exact ⟨nofun, fun made => absurd made.1 inside⟩

theorem standAlike_of_momentText (first : momentText a = .ok s) (second : momentText b = .ok t) :
    StandAlike s t a b := by
  obtain ⟨inside, rfl⟩ := momentText_eq_ok_iff.mp first
  obtain ⟨inside', rfl⟩ := momentText_eq_ok_iff.mp second
  have before := Timestamp.isoText_lt_isoText inside inside'
  have after := Timestamp.isoText_lt_isoText inside' inside
  refine ⟨before, ⟨fun same => ?_, fun same => by rw [same]⟩, after⟩
  -- texts that are the same do not go before each other, so neither of the moments does
  rw [same] at before after
  have notBefore : ¬ a.instant < b.instant := mt before.mpr (lt_irrefl _)
  have notAfter : ¬ b.instant < a.instant := mt after.mpr (lt_irrefl _)
  omega

theorem StandAlike.compare_eq (alike : StandAlike s t a b) : compare s t = compare a.instant b.instant :=
  compare_eq_of_lt_iff alike.before alike.after

/-! ## Documents -/

/-- Whether a document is that of a facility which was created at a moment. -/
def Document.IsCreatedAt (d : Document) (a : Timestamp) : Prop :=
  ∃ f courts, project f courts = .ok d ∧ f.createdAt = some a

theorem Document.IsCreatedAt.standAlike (first : d.IsCreatedAt a) (second : e.IsCreatedAt b) :
    StandAlike d.createdAt e.createdAt a b := by
  have text {d : Document} {a : Timestamp} (created : d.IsCreatedAt a) : momentText a = .ok d.createdAt := by
    obtain ⟨f, courts, made, moment⟩ := created
    obtain ⟨a', moment', text⟩ := (isOf_of_project made).created
    cases moment.symm.trans moment'
    exact text
  exact standAlike_of_momentText (text first) (text second)

theorem exists_isCreatedAt (made : project f courts = .ok d) : ∃ a, f.createdAt = some a ∧ d.IsCreatedAt a := by
  obtain ⟨a, moment, _⟩ := (isOf_of_project made).created
  exact ⟨a, moment, f, courts, made, moment⟩

/-! ## Sorting by creation -/

/-- How two moments are ordered in a direction. -/
def Timestamp.order (direction : Direction) (a b : Timestamp) : Ordering :=
  match direction with
  | .asc => compare a.instant b.instant
  | .desc => compare b.instant a.instant

namespace Index

variable {direction : Direction} {marksMissing : Bool} {rest : List SortClause} {as bs : List Value}

/-- The clause that sorts documents by creation. -/
def creationClause (direction : Direction) (marksMissing : Bool) : SortClause :=
  .field "createdAt" direction marksMissing

theorem valueOf_creationClause (d : Document) (score : Float) :
    (creationClause direction marksMissing).valueOf d.source score = .ok (.text d.createdAt) :=
  rfl

theorem orderPlaces_createdAt (first : d.IsCreatedAt a) (second : e.IsCreatedAt b) :
    orderPlaces direction (place? (.text d.createdAt)) (place? (.text e.createdAt)) = a.order direction b := by
  cases direction with
  | asc => exact (compare_inr _ _).trans (first.standAlike second).compare_eq
  | desc => exact (compare_inr _ _).trans (second.standAlike first).compare_eq

/-- Where documents are compared by creation, the moments decide, and what else they are sorted by decides where these
are the same. -/
theorem compareKeys_createdAt (first : d.IsCreatedAt a) (second : e.IsCreatedAt b) :
    compareKeys (creationClause direction marksMissing :: rest) (.text d.createdAt :: as) (.text e.createdAt :: bs) =
      match a.order direction b with
      | .eq => compareKeys rest as bs
      | ordering => some ordering := by
  rw [compareKeys_cons (SortClause.fits_text (.inr rfl)) (SortClause.fits_text (.inr rfl))]
  show (match orderPlaces direction _ _ with | .eq => _ | ordering => some ordering) = _
  rw [orderPlaces_createdAt first second]

/-- Whether one hit may stand before another in a direction: its facility was created earlier, or later, or at the same
moment, and then its identity is not the higher one. -/
def Hit.PrecedesByCreation (direction : Direction) (h i : Hit) : Prop :=
  ∀ a b, h.document.IsCreatedAt a → i.document.IsCreatedAt b →
    ((a.order direction b).then (compare h.document.id i.document.id)).isLE = true

variable {q : Query} {documents : List Document} {x : Found}

theorem Found.Of.keys_creation (of : x.Of [creationClause direction false, .field "id" .asc false] d) :
    x.keys = [.text d.createdAt, .text d.id] := by
  obtain ⟨created, keys, ⟨creation, _⟩, others, keys_eq⟩ := List.forall₂_cons_left_iff.mp of.keys
  obtain ⟨id, keys', ⟨identity, _⟩, others, keys_eq'⟩ := List.forall₂_cons_left_iff.mp others
  cases others
  cases creation
  cases identity
  rw [keys_eq, keys_eq']
  rfl

/-- A search that is sorted by creation has a full result, whose hits stand in the order in which their facilities were
created. -/
theorem exists_result_creation (searchable : IsSearchable q documents) (key : q.sorting.key = .createdAt)
    (name : String) : ∃ whole, IsResult name q documents whole ∧ (∀ h ∈ whole, h.document ∈ documents) ∧
      whole.Pairwise (Hit.PrecedesByCreation q.sorting.direction) := by
  obtain ⟨whole, body, found, made, searched, sorted, read, _⟩ := exists_result_found searchable name
  have clauses : body.sort = [creationClause q.sorting.direction false, .field "id" .asc false] := by
    rw [sortClauses, key] at sorted
    exact (Except.ok.inj sorted).symm
  rw [clauses] at read
  refine ⟨whole, ⟨body, found, made, searched, read.imp fun _ _ => And.left⟩, fun h member => ?_, ?_⟩
  · obtain ⟨_, _, _, there, _⟩ := exists_of_forall₂ read h member
    exact there
  · -- what was found is sorted by the texts of creation and by identities, which fit the clauses
    obtain ⟨find, _, sortedFound⟩ := exists_find_of_search searched
    rw [clauses] at sortedFound
    have fits : ∀ x ∈ documents.filterMap find,
        List.Forall₂ SortClause.Fits [creationClause q.sorting.direction false, .field "id" .asc false] x.keys := by
      intro x member
      obtain ⟨h, _, _, _, of⟩ := exists_of_forall₂ read.flip x ((perm_sortFound sortedFound).mem_iff.mpr member)
      rw [of.keys_creation]
      exact .cons (SortClause.fits_text (.inr rfl)) (.cons (SortClause.fits_text (.inr rfl)) .nil)
    refine pairwise_of_forall₂ read (pairwise_sortFound fits sortedFound) fun x y h i first second placed a b created
      created' => ?_
    obtain ⟨_, _, of⟩ := first
    obtain ⟨_, _, of'⟩ := second
    -- so two hits stand as their sort values do, and the texts of creation as the moments
    have parts : orderKeys [creationClause q.sorting.direction false, .field "id" .asc false] x.keys y.keys =
        (a.order q.sorting.direction b).then ((compare h.document.id i.document.id).then .eq) := by
      rw [of.keys_creation, of'.keys_creation, ← orderPlaces_createdAt created created', ← compare_inr]
      rfl
    rw [parts, Ordering.then_eq] at placed
    exact placed

/-- The texts of moments stand as the moments do, whatever the offsets with which these are known, as long as they lie
in the years 1 to 9999 of universal time. So do the documents of facilities by the texts of their creation, and
wherever the index compares documents by these the moments decide. A search that is sorted by creation shows its hits
in the order in which their facilities were created. -/
theorem createdAt_inOrder :
    (∀ a b : Timestamp, inRange a.instant = true → inRange b.instant = true →
      ∃ s t, momentText a = .ok s ∧ momentText b = .ok t ∧ StandAlike s t a b) ∧
    (∀ f courts d, project f courts = .ok d → ∀ g courts' e, project g courts' = .ok e →
      ∃ a b, f.createdAt = some a ∧ g.createdAt = some b ∧ StandAlike d.createdAt e.createdAt a b ∧
        ∀ direction marksMissing score score', ∃ v w,
          (creationClause direction marksMissing).valueOf d.source score = .ok v ∧
          (creationClause direction marksMissing).valueOf e.source score' = .ok w ∧
          ∀ rest as bs, compareKeys (creationClause direction marksMissing :: rest) (v :: as) (w :: bs) =
            match a.order direction b with
            | .eq => compareKeys rest as bs
            | ordering => some ordering) ∧
    (∀ q documents name, IsSearchable q documents → q.sorting.key = .createdAt →
      (∀ d ∈ documents, ∃ f courts, project f courts = .ok d) →
      ∃ whole, IsResult name q documents whole ∧ (∀ h ∈ whole, ∃ a, h.document.IsCreatedAt a) ∧
        whole.Pairwise (Hit.PrecedesByCreation q.sorting.direction)) := by
  refine ⟨fun a b inside inside' => ?_, fun f courts d made g courts' e made' => ?_,
    fun q documents name searchable key projected => ?_⟩
  · have first := momentText_eq_ok_iff.mpr ⟨inside, rfl⟩
    have second := momentText_eq_ok_iff.mpr ⟨inside', rfl⟩
    exact ⟨_, _, first, second, standAlike_of_momentText first second⟩
  · obtain ⟨a, moment, created⟩ := exists_isCreatedAt made
    obtain ⟨b, moment', created'⟩ := exists_isCreatedAt made'
    refine ⟨a, b, moment, moment', created.standAlike created', fun direction marksMissing score score' => ?_⟩
    exact ⟨_, _, valueOf_creationClause d score, valueOf_creationClause e score',
      fun rest as bs => compareKeys_createdAt created created'⟩
  · obtain ⟨whole, result, there, ordered⟩ := exists_result_creation searchable key name
    refine ⟨whole, result, fun h member => ?_, ordered⟩
    obtain ⟨f, courts, made⟩ := projected h.document (there h member)
    obtain ⟨a, _, created⟩ := exists_isCreatedAt made
    exact ⟨a, created⟩

/-- Half an hour into a year, on a clock that is five and a half hours ahead of universal time. -/
def newYear : Timestamp := ⟨Calendar.dayNumber 2026 1 1 * Timestamp.day + 1800 * Timestamp.second, some 19800⟩

/-- A microsecond later, in universal time, where the old year has not ended. -/
def oldYear : Timestamp := ⟨Calendar.dayNumber 2025 12 31 * Timestamp.day + 68400 * Timestamp.second + 1, none⟩

/-- A facility that was created at a moment. -/
def dome (id : Fin (2 ^ 128)) (createdAt : Timestamp) : Facility :=
  { (default : Facility) with
    id := ⟨id⟩, name := some "Dome", slug := some "dome", latitude := some 0, longitude := some 0,
    createdAt := some createdAt }

/-- A query for all documents, the oldest first. -/
def oldestFirst : Query where
  term := none
  conditions := []
  area := none
  sorting := ⟨.createdAt, .asc⟩
  page := .offset 1 20 none
  withRelations := false

/-- The facility of the new year was created before that of the old one, and so it is found. -/
theorem createdAt_inOrder_newYear : inRange newYear.instant = true ∧ inRange oldYear.instant = true ∧
    ∃ s t d e whole, momentText newYear = .ok s ∧ momentText oldYear = .ok t ∧ s < t ∧
      project (dome 2 newYear) [] = .ok d ∧ project (dome 1 oldYear) [] = .ok e ∧
      d.createdAt = "2025-12-31T19:00:00+00:00" ∧ e.createdAt = "2025-12-31T19:00:00.000001+00:00" ∧
      d.createdAt < e.createdAt ∧ IsResult "venues" oldestFirst [e, d] whole ∧
      whole.Pairwise (Hit.PrecedesByCreation .asc) := by
  have inside : inRange newYear.instant = true := by decide
  have inside' : inRange oldYear.instant = true := by decide
  have earlier : newYear.instant < oldYear.instant := by decide
  have shown : (project (dome 2 newYear) []).map Document.createdAt = .ok "2025-12-31T19:00:00+00:00" := by
    with_unfolding_all rfl
  have shown' : (project (dome 1 oldYear) []).map Document.createdAt = .ok "2025-12-31T19:00:00.000001+00:00" := by
    with_unfolding_all rfl
  obtain ⟨d, made, text⟩ := map_eq_ok.mp shown
  obtain ⟨e, made', text'⟩ := map_eq_ok.mp shown'
  obtain ⟨texts, documents, results⟩ := createdAt_inOrder
  obtain ⟨s, t, first, second, alike⟩ := texts newYear oldYear inside inside'
  obtain ⟨a, b, moment, moment', alike', _⟩ := documents _ _ d made _ _ e made'
  cases moment
  cases moment'
  obtain ⟨whole, result, _, ordered⟩ := results oldestFirst [e, d] "venues"
    ⟨List.forall_mem_nil _, rfl, rfl, fun _ _ => nofun, rfl⟩ rfl
    (List.forall_mem_cons.mpr ⟨⟨_, _, made'⟩, List.forall_mem_singleton.mpr ⟨_, _, made⟩⟩)
  exact ⟨inside, inside', s, t, d, e, whole, first, second, alike.before.mpr earlier, made, made', text, text',
    alike'.before.mpr earlier, result, ordered⟩

end Index
end Venues
