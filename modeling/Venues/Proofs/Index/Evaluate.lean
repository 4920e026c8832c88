import Venues.Index.Evaluate
import Venues.Proofs.Geo
import Venues.Proofs.Index.Document
import Venues.Proofs.Outcome
import Venues.Proofs.Predicate.Accepts

/-! # Searches that have an answer

The fields of a document hold texts or numbers, as their kinds say, and the clauses of a query compare
them with values of these kinds. So every clause has an answer for every document, and whatever is found
can be sorted.
-/

namespace Venues

/-! ## Values in the index -/

/-- Whether a value is such as the index holds for a field of a kind: a number, or else a text. -/
def FieldKind.indexes : FieldKind → Value → Bool
  | .truth, v | .whole, v | .real, v => v.magnitude?.isSome
  | .text, v | .uuid, v | .time, v => match v with
    | .text _ => true
    | _ => false

/-- Whether a value is null, or such as the index holds for a field of a kind. -/
def FieldKind.Suits (kind : FieldKind) (v : Value) : Prop := v = .null ∨ kind.indexes v = true

namespace FieldKind

variable {kind : FieldKind} {a b v : Value}

theorem suits_ofText? (s? : Option String) : FieldKind.text.Suits (.ofText? s?) := by
  cases s? with
  | none => exact .inl rfl
  | some s => exact .inr rfl

theorem suits_ofOption {α : Type} {write : α → Value} (number : ∀ a, kind.indexes (write a) = true) (a? : Option α) :
    kind.Suits (.ofOption (a?.map write)) := by
  cases a? with
  | none => exact .inl rfl
  | some a => exact .inr (number a)

theorem lt?_isSome (first : kind.indexes a = true) (second : kind.indexes b = true) :
    (a.lt? b).isSome = true := by
  cases kind <;> cases a <;> cases b <;> simp_all [indexes, Value.magnitude?, Value.lt?]

theorem indexes_of_admits (admitted : kind.admits v = true) : kind.indexes (Index.indexed v) = true := by
  cases kind <;> cases v <;> simp_all [admits, indexes, Index.indexed, Value.magnitude?]

end FieldKind

namespace Index

variable {kind : FieldKind} {document : Value} {path : String}

/-! ## Conditions -/

/-- Clauses that each have an answer have one together. -/
theorem exists_allHold {clauses : List Clause} (each : ∀ c ∈ clauses, ∃ b, c.holds document = .ok b) :
    ∃ b, allHold document clauses = .ok b := by
  induction clauses with
  | nil => exact ⟨true, rfl⟩
  | cons c clauses ih =>
    obtain ⟨⟨b, first⟩, others⟩ := List.forall_mem_cons.mp each
    obtain ⟨b', rest⟩ := ih others
    rw [allHold, first, ok_bind]
    cases b with
    | true => exact ⟨b', rest⟩
    | false => exact ⟨false, rfl⟩

/-- A bound of a range is open or comparable. -/
def IsBound (kind : FieldKind) (bound : Value) : Prop := bound.isNull = true ∨ kind.indexes bound = true

theorem isBound_indexed {bound : Value} (typed : bound.isNull = true ∨ kind.admits bound = true) :
    IsBound kind (indexed bound) := by
  rcases typed with null | admitted
  · left
    cases bound <;> first | rfl | cases null
  · exact .inr (FieldKind.indexes_of_admits admitted)

/-- Whether a value lies between bounds has an answer. -/
theorem exists_between {v least most : Value} (held : kind.indexes v = true) (lower : IsBound kind least)
    (upper : IsBound kind most) : ∃ b, v.between least most = .ok b := by
  have below {a b : Value} (first : kind.indexes a = true) (second : kind.indexes b = true) :
      ∃ answer, a.isBelow b = .ok answer := by
    obtain ⟨answer, compared⟩ := Option.isSome_iff_exists.mp (FieldKind.lt?_isSome first second)
    exact ⟨answer, by rw [Value.isBelow, compared]⟩
  -- the upper bound is looked at last
  obtain ⟨b, above⟩ : ∃ b, (if most.isNull then (do let tooHigh ← .ok false; .ok !tooHigh)
      else do let tooHigh ← most.isBelow v; .ok !tooHigh) = (.ok b : Outcome Bool) := by
    by_cases null : most.isNull = true
    · exact ⟨true, by rw [if_pos null]; rfl⟩
    · obtain ⟨tooHigh, compared⟩ := below (upper.resolve_left null) held
      exact ⟨!tooHigh, by rw [if_neg null, compared]; rfl⟩
  unfold Value.between
  by_cases null : v.isNull = true
  · exact ⟨false, if_pos null⟩
  · rw [if_neg null]
    dsimp only
    rw [above]
    by_cases open' : least.isNull = true
    · exact ⟨b, if_pos open'⟩
    · obtain ⟨tooLow, compared⟩ := below held (lower.resolve_left open')
      rw [if_neg open', compared, ok_bind]
      cases tooLow with
      | true => exact ⟨false, rfl⟩
      | false => exact ⟨b, rfl⟩

/-- The clause of a condition has an answer where the field holds values of its kind. -/
theorem exists_holds_ofCondition {c : Condition} (typed : c.IsOf kind)
    (held : ∀ v ∈ fieldValues document path, kind.indexes v = true) :
    ∃ b, (Clause.ofCondition path c).holds document = .ok b := by
  cases c with
  | equals v => exact ⟨_, rfl⟩
  | oneOf vs => exact ⟨_, rfl⟩
  | contains needle => exact ⟨_, rfl⟩
  | range least most =>
    exact exists_someItem fun v member =>
      exists_between (held v member) (isBound_indexed typed.1) (isBound_indexed typed.2)

/-! ## Fields of documents -/

/-- A field that holds one value, if any, has values of its kind. -/
theorem indexes_of_suits (suits : kind.Suits (fieldValue document path)) :
    ∀ v ∈ fieldValues document path, kind.indexes v = true := by
  unfold fieldValues
  rcases suits with null | held
  · rw [null]
    simp
  · cases value : fieldValue document path with
    | null => simp
    | list items =>
      rw [value] at held
      cases kind <;> cases held
    | _ =>
      rw [value] at held
      exact List.forall_mem_singleton.mpr held

theorem suits_fieldValue (d : Document) : ∀ f ∈ Surface.facilitySearch.fields, f.2.relation ≠ some courtsPath →
    f.2.kind.Suits (fieldValue d.source f.2.path) := by
  simp only [Surface.facilitySearch, List.forall_mem_cons]
  exact ⟨fun _ => FieldKind.suits_ofText? d.city, fun _ => FieldKind.suits_ofText? d.ward, fun _ => .inr rfl,
    fun _ => .inr rfl, fun _ => .inr rfl, fun _ => FieldKind.suits_ofOption (fun _ => rfl) d.priceFrom,
    fun _ => FieldKind.suits_ofOption (fun _ => rfl) d.rating, fun other => absurd rfl other,
    fun other => absurd rfl other, fun other => absurd rfl other, by simp⟩

/-- A court alone, as the inner document that clauses on courts look at. -/
def inner (c : CourtSummary) : Value := .object [(courtsPath, c.source)]

theorem suits_fieldValue_inner (c : CourtSummary) : ∀ f ∈ Surface.facilitySearch.fields,
    f.2.relation = some courtsPath → f.2.kind.Suits (fieldValue (inner c) f.2.path) := by
  simp only [Surface.facilitySearch, List.forall_mem_cons]
  exact ⟨by simp, by simp, by simp, by simp, by simp, by simp, by simp, fun _ => .inr rfl, fun _ => .inr rfl,
    fun _ => FieldKind.suits_ofText? c.surface, by simp⟩

/-! ## Clauses of queries -/

variable {conditions : Conditions}

/-- Whether a clause is that of a condition on a field of documents. -/
def IsClauseOf (c : String × Condition) (clause : Clause) : Prop :=
  ∃ field, Surface.facilitySearch.field? c.1 = some field ∧ clause = .ofCondition field.path c.2

/-- The names of the fields of courts. -/
def courtFields : List String := ["courts.sport", "courts.indoor", "courts.surface"]

theorem mem_courtFields_iff :
    ∀ f ∈ Surface.facilitySearch.fields, f.1 ∈ courtFields ↔ f.2.relation = some courtsPath := by
  decide +kernel

/-- Adds the clause of one condition to those that are there already. -/
def splitNext (s : Surface) (split : Split) (c : String × Condition) : Outcome Split :=
  match s.field? c.1 with
  | none => .error .missingKey
  | some d =>
    let clause := Clause.ofCondition d.path c.2
    .ok (if d.relation = some courtsPath then { split with courts := split.courts ++ [clause] }
      else { split with own := split.own ++ [clause] })

/-- Accepted conditions become one clause each, those on fields of courts apart from the others. -/
theorem exists_split_filter (accepted : Surface.facilitySearch.Accepted conditions) :
    ∃ split, splitConditions Surface.facilitySearch conditions = .ok split ∧
      List.Forall₂ IsClauseOf (conditions.filter fun c => c.1 ∉ courtFields) split.own ∧
      List.Forall₂ IsClauseOf (conditions.filter fun c => c.1 ∈ courtFields) split.courts := by
  -- the fold goes on from clauses that are there already
  suffices onward : ∀ before : Split, ∃ own courts,
      conditions.foldlM (splitNext Surface.facilitySearch) before =
        .ok ⟨before.own ++ own, before.courts ++ courts⟩ ∧
      List.Forall₂ IsClauseOf (conditions.filter fun c => c.1 ∉ courtFields) own ∧
      List.Forall₂ IsClauseOf (conditions.filter fun c => c.1 ∈ courtFields) courts by
    obtain ⟨own, courts, made, each⟩ := onward {}
    exact ⟨⟨own, courts⟩, made, each⟩
  induction conditions with
  | nil => exact fun before => ⟨[], [], by rw [List.append_nil, List.append_nil]; rfl, .nil, .nil⟩
  | cons c conditions ih =>
    intro before
    obtain ⟨⟨field, known, _⟩, others⟩ := List.forall_mem_cons.mp accepted
    have place := mem_courtFields_iff (c.1, field) (mem_of_lookup known)
    rw [List.foldlM_cons, splitNext, known]
    by_cases related : field.relation = some courtsPath
    · obtain ⟨own, courts, made, alone, inside⟩ := ih others
        { before with courts := before.courts ++ [.ofCondition field.path c.2] }
      have onCourts : c.1 ∈ courtFields := place.mpr related
      refine ⟨own, .ofCondition field.path c.2 :: courts, ?_, ?_, ?_⟩
      · simp only [related, if_true, ok_bind, made, List.append_assoc, List.singleton_append]
      · rw [List.filter_cons_of_neg (by simpa using onCourts)]
        exact alone
      · rw [List.filter_cons_of_pos (by simpa using onCourts)]
        exact .cons ⟨field, known, rfl⟩ inside
    · obtain ⟨own, courts, made, alone, inside⟩ := ih others
        { before with own := before.own ++ [.ofCondition field.path c.2] }
      have notOnCourts : c.1 ∉ courtFields := mt place.mp related
      refine ⟨.ofCondition field.path c.2 :: own, courts, ?_, ?_, ?_⟩
      · simp only [related, if_false, ok_bind, made, List.append_assoc, List.singleton_append]
      · rw [List.filter_cons_of_pos (by simpa using notOnCourts)]
        exact .cons ⟨field, known, rfl⟩ alone
      · rw [List.filter_cons_of_neg (by simpa using notOnCourts)]
        exact inside

/-- Whether a clause is that of a condition on a field of facility search, where the field is one of the
courts or not. -/
def IsClauseOn (onCourts : Bool) (clause : Clause) : Prop :=
  ∃ f ∈ Surface.facilitySearch.fields, decide (f.2.relation = some courtsPath) = onCourts ∧
    ∃ c : Condition, c.IsOf f.2.kind ∧ clause = .ofCondition f.2.path c

/-- Whether the clauses on documents and those on courts are what they should be. -/
structure Split.IsProper (split : Split) : Prop where
  own : ∀ c ∈ split.own, IsClauseOn false c
  courts : ∀ c ∈ split.courts, IsClauseOn true c

/-- Accepted conditions become clauses on documents and clauses on courts. -/
theorem exists_split (accepted : Surface.facilitySearch.Accepted conditions) :
    ∃ split, splitConditions Surface.facilitySearch conditions = .ok split ∧ split.IsProper := by
  obtain ⟨split, made, alone, inside⟩ := exists_split_filter accepted
  have on {c : String × Condition} {clause : Clause} (member : c ∈ conditions) (isClause : IsClauseOf c clause) :
      IsClauseOn (c.1 ∈ courtFields) clause := by
    -- that the condition was accepted says what kind it is of
    obtain ⟨field, known, rfl⟩ := isClause
    obtain ⟨field', known', typed⟩ := accepted c member
    cases known.symm.trans known'
    have there : (c.1, field) ∈ Surface.facilitySearch.fields := mem_of_lookup known
    exact ⟨(c.1, field), there, decide_eq_decide.mpr (mem_courtFields_iff _ there).symm, c.2, typed, rfl⟩
  refine ⟨split, made, fun clause listed => ?_, fun clause listed => ?_⟩
  · obtain ⟨c, member, isClause⟩ := exists_of_forall₂ alone clause listed
    obtain ⟨member, own⟩ := List.mem_filter.mp member
    simpa [show c.1 ∉ courtFields by simpa using own] using on member isClause
  · obtain ⟨c, member, isClause⟩ := exists_of_forall₂ inside clause listed
    obtain ⟨member, onCourts⟩ := List.mem_filter.mp member
    simpa [show c.1 ∈ courtFields by simpa using onCourts] using on member isClause

variable {d : Document} {q : Query} {a : Area}

theorem exists_holds_own {clause : Clause} (on : IsClauseOn false clause) :
    ∃ b, clause.holds d.source = .ok b := by
  obtain ⟨f, member, own, c, typed, rfl⟩ := on
  exact exists_holds_ofCondition typed
    (indexes_of_suits (suits_fieldValue d f member (of_decide_eq_false own)))

theorem exists_holds_inner {clause : Clause} (on : IsClauseOn true clause) (court : CourtSummary) :
    ∃ b, clause.holds (inner court) = .ok b := by
  obtain ⟨f, member, related, c, typed, rfl⟩ := on
  exact exists_holds_ofCondition typed
    (indexes_of_suits (suits_fieldValue_inner court f member (of_decide_eq_true related)))

theorem innerDocuments_source (d : Document) :
    innerDocuments d.source courtsPath = .ok (d.courts.map CourtSummary.source) := by
  show (if (Value.list (d.courts.map CourtSummary.source)).truthy then
    replyItems (.list (d.courts.map CourtSummary.source)) else .ok []) = _
  cases d.courts with
  | nil => rfl
  | cons c courts => rfl

theorem exists_holds_nested {clauses : List Clause} (on : ∀ c ∈ clauses, IsClauseOn true c) :
    ∃ b, (Clause.nested courtsPath (.term "courts.isActive" (.bool true) :: clauses)).holds d.source = .ok b := by
  rw [Clause.holds, innerDocuments_source, ok_bind]
  refine exists_someItem fun item member => ?_
  obtain ⟨court, _, rfl⟩ := List.mem_map.mp member
  exact exists_allHold (List.forall_mem_cons.mpr ⟨⟨_, rfl⟩, fun c listed => exists_holds_inner (on c listed) court⟩)

/-- Whether the distance of a document from the center of an area can be computed, and compared with the
radius. -/
structure Reaches (a : Area) (d : Document) : Prop where
  radius : ∃ meters, a.radiusMeters = .ok meters
  distance : hasDistance a.center d.location = true

theorem Reaches.distanceFrom_eq (reaches : Reaches a d) :
    distanceFrom a.center d.source = .ok (haversine a.center d.location) := by
  show distance? a.center d.location = _
  rw [distance?, if_pos reaches.distance]

theorem exists_holds_within (reaches : Reaches a d) : ∃ b, (Clause.within a).holds d.source = .ok b := by
  obtain ⟨meters, radius⟩ := reaches.radius
  rw [Clause.holds, radius]
  refine ⟨decide (haversine a.center d.location ≤ meters), ?_⟩
  show (distanceFrom a.center d.source).map _ = _
  rw [reaches.distanceFrom_eq, map_ok]

/-- The clauses of an accepted query have an answer for every document within reach. -/
theorem exists_filterClauses (accepted : Surface.facilitySearch.Accepted q.conditions) :
    ∃ clauses, filterClauses Surface.facilitySearch q = .ok clauses ∧
      ∀ d : Document, (∀ a ∈ q.area, Reaches a d) → ∀ c ∈ clauses, ∃ b, c.holds d.source = .ok b := by
  obtain ⟨split, made, proper⟩ := exists_split accepted
  refine ⟨_, by rw [filterClauses, made]; rfl, fun d reaches => ?_⟩
  simp only [List.forall_mem_append]
  refine ⟨⟨⟨?_, ?_⟩, fun c member => exists_holds_own (proper.own c member)⟩, ?_⟩
  · split
    · simp
    · exact List.forall_mem_singleton.mpr ⟨_, rfl⟩
  · cases area : q.area with
    | none => simp
    | some a => exact List.forall_mem_singleton.mpr (exists_holds_within (reaches a area))
  · split
    · simp
    · exact List.forall_mem_singleton.mpr (exists_holds_nested proper.courts)

/-! ## Sort values -/

/-- The kind of the values by which a clause sorts. -/
def SortClause.valueKind : SortClause → FieldKind
  | .distance .. | .score .. => .real
  | .field name .. => if name = "priceFrom" then .whole else if name = "rating" then .real else .text

/-- The value of a field that holds one value, if any. -/
theorem valueOf_field {name : String} {direction : Direction} {marksMissing : Bool} {score : Float}
    (suits : kind.Suits (fieldValue document name)) :
    (SortClause.field name direction marksMissing).valueOf document score = .ok (fieldValue document name) := by
  unfold SortClause.valueOf
  dsimp only
  cases value : fieldValue document name with
  | list items =>
    rw [value] at suits
    rcases suits with null | held
    · cases null
    · cases kind <;> cases held
  | _ => rfl

/-- The clauses by which a query sorts have values for every document within reach. -/
theorem exists_sortClauses (offered : (Surface.facilitySearch.sortColumn? q.sorting.key).isSome = true)
    (checked : Surface.checkDistance q = .ok ()) :
    ∃ sort, sortClauses Surface.facilitySearch q = .ok sort ∧
      ∀ (d : Document) (score : Float), (∀ a ∈ q.area, Reaches a d) →
        ∀ c ∈ sort, ∃ v, c.valueOf d.source score = .ok v ∧ c.valueKind.Suits v := by
  have field (d : Document) (score : Float) (name : String) (direction : Direction) (marksMissing : Bool)
      (suits : (SortClause.field name direction marksMissing).valueKind.Suits (fieldValue d.source name)) :
      ∃ v, (SortClause.field name direction marksMissing).valueOf d.source score = .ok v ∧
        (SortClause.field name direction marksMissing).valueKind.Suits v :=
    ⟨_, valueOf_field suits, suits⟩
  have ties (d : Document) (score : Float) : ∀ c ∈ tieBreaks, ∃ v, c.valueOf d.source score = .ok v ∧
      c.valueKind.Suits v := by
    simp only [tieBreaks, List.forall_mem_cons]
    exact ⟨field d score _ _ _ (.inr rfl), field d score _ _ _ (.inr rfl), by simp⟩
  obtain ⟨term, conditions, area, ⟨key, direction⟩, page, withRelations⟩ := q
  unfold sortClauses
  -- only sorting by distance reads more than a field: there the area has to reach the document
  cases key with
  | distance =>
    cases area with
    | none => cases checked
    | some a =>
      refine ⟨_, rfl, fun d score reaches => List.forall_mem_cons.mpr ⟨?_, ties d score⟩⟩
      refine ⟨.float (haversine a.center d.location), ?_, .inr rfl⟩
      rw [SortClause.valueOf, (reaches a rfl).distanceFrom_eq, map_ok]
  | relevance =>
    exact ⟨_, rfl, fun d score _ => List.forall_mem_cons.mpr ⟨⟨.float score, rfl, .inr rfl⟩, ties d score⟩⟩
  | createdAt =>
    refine ⟨_, rfl, fun d score _ => ?_⟩
    simp only [List.forall_mem_cons]
    exact ⟨field d score _ _ _ (.inr rfl), field d score _ _ _ (.inr rfl), by simp⟩
  | name =>
    exact ⟨_, rfl, fun d score _ => List.forall_mem_cons.mpr ⟨field d score _ _ _ (.inr rfl), ties d score⟩⟩
  | price =>
    exact ⟨_, rfl, fun d score _ => List.forall_mem_cons.mpr
      ⟨field d score _ _ _ (FieldKind.suits_ofOption (fun _ => rfl) d.priceFrom), ties d score⟩⟩
  | rating =>
    exact ⟨_, rfl, fun d score _ => List.forall_mem_cons.mpr
      ⟨field d score _ _ _ (FieldKind.suits_ofOption (fun _ => rfl) d.rating), ties d score⟩⟩

/-- Values that suit the clauses can be compared. -/
theorem compareKeys_isSome {sort : List SortClause} {as bs : List Value}
    (first : List.Forall₂ (fun c v => (SortClause.valueKind c).Suits v) sort as)
    (second : List.Forall₂ (fun c v => (SortClause.valueKind c).Suits v) sort bs) :
    (compareKeys sort as bs).isSome = true := by
  induction first generalizing bs with
  | nil =>
    cases second
    rfl
  | @cons c a sort as suits _ ih =>
    cases second with
    | @cons _ b _ bs suits' others =>
      rw [compareKeys]
      -- equal values leave the comparison to the next clause, and what is missing goes last
      by_cases same : a.same b = true
      · rw [if_pos same]
        exact ih others
      · rw [if_neg same]
        rcases suits with rfl | held
        · rfl
        · by_cases missing : a.isNull = true
          · rw [if_pos missing]
            rfl
          · rw [if_neg missing]
            rcases suits' with rfl | held'
            · rfl
            · by_cases missing : b.isNull = true
              · rw [if_pos missing]
                rfl
              · rw [if_neg missing, Option.isSome_map]
                exact FieldKind.lt?_isSome held held'

/-! ## Searches -/

/-- A search whose clauses have answers, and whose sort has values, for a document. -/
structure SearchBody.IsAnswered (b : SearchBody) (d : Document) : Prop where
  clauses : ∀ c ∈ b.must :: b.filters, ∃ answer, c.holds d.source = .ok answer
  values : ∀ score, ∀ c ∈ b.sort, ∃ v, c.valueOf d.source score = .ok v ∧ c.valueKind.Suits v

/-- Whether a document was found, with sort values that suit the clauses. -/
structure Found.Of (sort : List SortClause) (f : Found) (d : Document) : Prop where
  id : f.id = d.id
  source : f.source = d.source
  keys : List.Forall₂ (fun c v => SortClause.valueOf d.source f.score c = .ok v ∧ c.valueKind.Suits v) sort f.keys

theorem exists_find? {b : SearchBody} (answered : b.IsAnswered d) {selects : Bool}
    (held : allHold d.source (b.must :: b.filters) = .ok selects) :
    ∃ f?, b.find? d.id d.source = .ok f? ∧ f?.isSome = selects ∧ ∀ f ∈ f?, f.Of b.sort d := by
  rw [SearchBody.find?, held, ok_bind]
  cases selects with
  | false => exact ⟨none, rfl, rfl, by simp⟩
  | true =>
    obtain ⟨keys, valued⟩ := exists_forall₂ (answered.values (b.must.scoreOf d.source))
    refine ⟨some ⟨d.id, d.source, b.must.scoreOf d.source, keys⟩, ?_, rfl, ?_⟩
    · rw [if_pos rfl]
      dsimp only
      rw [mapM_eq_ok_of_forall₂ (valued.imp fun _ _ => And.left), ok_bind]
    · intro f found
      cases found
      exact ⟨rfl, rfl, valued⟩

/-- What was found of documents can be sorted. -/
theorem areComparable_of {sort : List SortClause} {found : List Found} (each : ∀ f ∈ found, ∃ d, f.Of sort d) :
    areComparable sort found = true := by
  induction found with
  | nil => rfl
  | cons f found ih =>
    obtain ⟨⟨d, first⟩, others⟩ := List.forall_mem_cons.mp each
    rw [areComparable, ih others, Bool.and_true, List.all_eq_true]
    intro g member
    obtain ⟨d', second⟩ := others g member
    exact compareKeys_isSome (first.keys.imp fun _ _ => And.right) (second.keys.imp fun _ _ => And.right)

/-- What was found of documents has the identities of those that were selected, in their order. -/
theorem map_id_filterMap {sort : List SortClause} {find : Document → Option Found} {documents : List Document}
    (each : ∀ d ∈ documents, ∀ f ∈ find d, f.Of sort d) :
    (documents.filterMap find).map Found.id = (documents.filter fun d => (find d).isSome).map Document.id := by
  induction documents with
  | nil => rfl
  | cons d documents ih =>
    obtain ⟨first, others⟩ := List.forall_mem_cons.mp each
    rw [List.filterMap_cons, List.filter_cons]
    cases made : find d with
    | none => exact ih others
    | some f => exact congrArg₂ List.cons (first f made).id (ih others)

/-- A search of documents for which it has answers finds those that satisfy all of its clauses. -/
theorem exists_search {b : SearchBody} {documents : List Document} (answered : ∀ d ∈ documents, b.IsAnswered d) :
    ∃ (found : List Found) (test : Document → Bool), b.search (documents.map entry) = .ok found ∧
      (∀ f ∈ found, ∃ d ∈ documents, f.Of b.sort d) ∧
      (∀ d ∈ documents, allHold d.source (b.must :: b.filters) = .ok (test d)) ∧
      (found.map Found.id).Perm ((documents.filter test).map Document.id) := by
  obtain ⟨test, held⟩ := exists_results fun d (member : d ∈ documents) => exists_allHold (answered d member).clauses
  obtain ⟨find, finds⟩ := exists_results fun d (member : d ∈ documents) =>
    (exists_find? (answered d member) (held d member)).imp fun _ found => found.1
  have found : ∀ d ∈ documents, (find d).isSome = test d ∧ ∀ f ∈ find d, f.Of b.sort d := by
    intro d member
    obtain ⟨f?, result, spec⟩ := exists_find? (answered d member) (held d member)
    cases (finds d member).symm.trans result
    exact spec
  have all : (documents.map entry).mapM (fun d => b.find? d.1 d.2) = .ok (documents.map find) := by
    rw [List.mapM_map]
    exact mapM_eq_ok finds
  have each : ∀ f ∈ documents.filterMap find, ∃ d ∈ documents, f.Of b.sort d := by
    intro f member
    obtain ⟨d, there, made⟩ := List.mem_filterMap.mp member
    exact ⟨d, there, (found d there).2 f made⟩
  have comparable := areComparable_of fun f member => (each f member).imp fun _ => And.right
  -- sorting neither adds nor loses anything
  have sorted := List.mergeSort_perm (documents.filterMap find) fun f g => compareKeys b.sort f.keys g.keys != some .gt
  refine ⟨_, test, ?_, fun f member => each f (sorted.mem_iff.mp member), held, ?_⟩
  · rw [SearchBody.search, all, ok_bind, sortFound, List.filterMap_map]
    exact if_pos comparable
  · refine (sorted.map Found.id).trans (.of_eq ?_)
    rw [map_id_filterMap fun d member => (found d member).2,
      List.filter_congr fun d member => (found d member).1]

end Index
end Venues
