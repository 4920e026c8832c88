import Venues.Proofs.Index.Agreement
import Venues.Proofs.Index.Written
import Venues.Proofs.Surface.Normal

/-! # What searches select

A document is selected if it is published, where the query does not say otherwise, lies in the area of the
query, and has values that meet the conditions. The conditions on courts must all be met by one court, which is
active. The clauses of a query say just that: each of them says it of one condition, and they are put together
as the conditions are.
-/

namespace Venues

open Index (courtFields)

/-! ## Values that meet conditions -/

/-- Whether a value is as great as another or greater. -/
def Value.Reaches (v least : Value) : Prop := least.lt? v = some true ∨ v.same least = true

/-- Whether a value that a document holds is there, and is as a condition asks: equal to a value, one of some
values, or between two bounds, both included, of which a null one is open. -/
def Condition.MetBy (held : Value) (c : Condition) : Prop :=
  held.isNull = false ∧
    match c with
    | .equals v => held.same (Index.indexed v) = true
    | .oneOf vs => ∃ v ∈ vs, held.same (Index.indexed v) = true
    | .range least most =>
      (least.isNull = true ∨ held.Reaches (Index.indexed least)) ∧
        (most.isNull = true ∨ (Index.indexed most).Reaches held)
    | .contains needle => held.holds needle = true

/-- The value of a document for a field of its own that a filter names. -/
def Document.field (d : Document) : String → Value
  | "city" => .ofText? d.city
  | "ward" => .ofText? d.ward
  | "ownerId" => .text d.ownerId
  | "isPublished" => .bool d.isPublished
  | "createdAt" => .text d.createdAt
  | "priceFrom" => .ofOption (d.priceFrom.map .int)
  | "rating" => .ofOption (d.rating.map .float)
  | _ => .null

/-- The value of a court for a field of courts that a filter names. -/
def CourtSummary.field (court : CourtSummary) : String → Value
  | "courts.sport" => .text court.sport
  | "courts.indoor" => .bool court.indoor
  | "courts.surface" => .ofText? court.surface
  | _ => .null

/-- Whether a document is one of those that a query asks for. -/
structure Query.Selects (q : Query) (d : Document) : Prop where
  published : q.conditions.has "isPublished" = false → d.isPublished = true
  near : ∀ a ∈ q.area, ∃ meters, a.radiusMeters = .ok meters ∧ haversine a.center d.location ≤ meters
  own : ∀ c ∈ q.conditions, c.1 ∉ courtFields → c.2.MetBy (d.field c.1)
  courts : (∃ c ∈ q.conditions, c.1 ∈ courtFields) → ∃ court ∈ d.courts, court.isActive = true ∧
    ∀ c ∈ q.conditions, c.1 ∈ courtFields → c.2.MetBy (court.field c.1)

/-! ## Answers -/

/-- Whether an outcome is the answer to a question. -/
def Outcome.Tells (x : Outcome Bool) (P : Prop) : Prop := ∃ b, x = .ok b ∧ (b = true ↔ P)

namespace Outcome

variable {x y : Outcome Bool} {P Q : Prop}

theorem Tells.congr (tells : Tells x P) (same : P ↔ Q) : Tells x Q := by
  obtain ⟨b, answer, iff⟩ := tells
  exact ⟨b, answer, iff.trans same⟩

-- the second question is asked only if the answer to the first is yes
theorem Tells.and (first : Tells x P) (second : Tells y Q) :
    Tells (do if ← x then y else .ok false) (P ∧ Q) := by
  obtain ⟨b, answer, iff⟩ := first
  obtain ⟨b', answer', iff'⟩ := second
  refine ⟨b && b', ?_, by simp [iff, iff']⟩
  rw [answer, ok_bind]
  cases b with
  | true => exact answer'
  | false => rfl

theorem tells_someItem {α : Type} {test : α → Outcome Bool} {P : α → Prop} {items : List α}
    (each : ∀ a ∈ items, Tells (test a) (P a)) : Tells (someItem test items) (∃ a ∈ items, P a) := by
  induction items with
  | nil => exact ⟨false, rfl, by simp⟩
  | cons a items ih =>
    obtain ⟨⟨b, answer, iff⟩, others⟩ := List.forall_mem_cons.mp each
    obtain ⟨b', rest, iff'⟩ := ih others
    refine ⟨b || b', ?_, by simp [iff, iff']⟩
    rw [someItem, answer, ok_bind]
    cases b with
    | true => rfl
    | false => exact rest

end Outcome

namespace Index

open Outcome (Tells tells_someItem)

variable {document : Value} {clauses clauses' : List Clause} {P Q : Prop}

theorem someItem_map {α β : Type} (f : α → β) (test : β → Outcome Bool) (items : List α) :
    someItem test (items.map f) = someItem (fun a => test (f a)) items := by
  induction items with
  | nil => rfl
  | cons a items ih => rw [List.map_cons, someItem, someItem, ih]

theorem tells_allHold_nil : Tells (allHold document []) True := ⟨true, rfl, by simp⟩

theorem tells_allHold_cons {c : Clause} (first : Tells (c.holds document) P) (rest : Tells (allHold document clauses) Q) :
    Tells (allHold document (c :: clauses)) (P ∧ Q) := by
  rw [allHold]
  exact first.and rest

theorem allHold_append : allHold document (clauses ++ clauses') =
    (do if ← allHold document clauses then allHold document clauses' else .ok false) := by
  induction clauses with
  | nil => rfl
  | cons c clauses ih =>
    rw [List.cons_append, allHold, allHold, ih]
    cases c.holds document with
    | error fault => rfl
    | ok b => cases b <;> rfl

theorem tells_allHold_append (first : Tells (allHold document clauses) P) (rest : Tells (allHold document clauses') Q) :
    Tells (allHold document (clauses ++ clauses')) (P ∧ Q) := by
  rw [allHold_append]
  exact first.and rest

/-- Clauses that each tell of a condition whether it is met tell together whether all of them are. -/
theorem tells_allHold {α : Type} {R : α → Clause → Prop} {P : α → Prop} {as : List α}
    (made : List.Forall₂ R as clauses) (each : ∀ a ∈ as, ∀ c, R a c → Tells (c.holds document) (P a)) :
    Tells (allHold document clauses) (∀ a ∈ as, P a) := by
  induction made with
  | nil => exact tells_allHold_nil.congr (by simp)
  | @cons a c as clauses isClause _ ih =>
    obtain ⟨first, others⟩ := List.forall_mem_cons.mp each
    exact (tells_allHold_cons (first c isClause) (ih others)).congr List.forall_mem_cons.symm

/-! ## Clauses of conditions -/

variable {kind : FieldKind} {v w : Value} {path : String} {c : Condition}

theorem isDefined_indexed : (indexed v).isDefined = v.isDefined := by
  cases v <;> rfl

theorem isSingle_of_indexes (held : kind.indexes v = true) : v.isSingle = true := by
  cases kind <;> cases v <;> first | rfl | cases held

theorem same_comm_of_indexes (hv : kind.indexes v = true) (hw : kind.indexes w = true) : v.same w = w.same v := by
  cases kind <;> cases v <;> cases hv <;> cases w <;> cases hw <;>
    first | exact Bool.beq_comm | exact Magnitude.same_comm _ _

theorem isAtLeast_iff_reaches (hv : v.isDefined = true) (hw : w.isDefined = true) : v.IsAtLeast w ↔ v.Reaches w := by
  -- only what is not a number is neither below nor above a number
  have ordered : v.isUnordered w = false := by
    cases v <;> cases w <;> simp_all [Value.isUnordered, Value.magnitude?, Value.isDefined, Magnitude.ofInt,
      Magnitude.ofFloat_eq_undefined_iff]
  simp [Value.IsAtLeast, Value.Reaches, ordered]

/-- The clause of a condition tells of the value of a field whether it is as the condition asks. -/
theorem tells_ofCondition (typed : c.IsOf kind) (plain : c.IsPlain) (whole : ∀ needle, c ≠ .contains needle)
    (suits : kind.Suits (fieldValue document path)) (number : (fieldValue document path).isDefined = true) :
    Tells ((Clause.ofCondition path c).holds document) (c.MetBy (fieldValue document path)) := by
  generalize value : fieldValue document path = v at suits number
  rcases suits with rfl | held
  · -- a missing value is no value, and meets no condition
    have none : fieldValues document path = [] := by rw [fieldValues, value]
    refine ⟨false, ?_, by simp [Condition.MetBy, Value.isNull]⟩
    cases c <;> simp [Clause.ofCondition, Clause.holds, none, someItem]
  · have single := isSingle_of_indexes held
    have present : v.isNull = false := by
      simp only [Value.isSingle, Bool.and_eq_true, Bool.not_eq_true'] at single
      exact single.1
    have one : fieldValues document path = [v] := by
      rw [fieldValues, value]
      cases v <;> first | rfl | (cases kind <;> cases held)
    cases c with
    | equals w =>
      -- the clause compares the other way round
      have admitted := FieldKind.indexes_of_admits typed
      refine ⟨(indexed w).same v, by simp [Clause.ofCondition, Clause.holds, one], ?_⟩
      simp [Condition.MetBy, present, same_comm_of_indexes admitted held]
    | oneOf ws =>
      refine ⟨ws.any fun w => v.same (indexed w), ?_, by simp [Condition.MetBy, present]⟩
      simp [Clause.ofCondition, Clause.holds, one, List.any_map, Function.comp_def]
    | range least most =>
      have low := isBound_indexed typed.1
      have high := isBound_indexed typed.2
      obtain ⟨b, compared⟩ := exists_between held low high
      refine ⟨b, ?_, ?_⟩
      · rw [Clause.ofCondition, Clause.holds, one, someItem, compared, ok_bind]
        cases b <;> rfl
      · have within := Value.between_eq_true_iff (low.imp_right isSingle_of_indexes) (high.imp_right isSingle_of_indexes)
          (v := v)
        rw [compared, Except.ok.injEq, isNull_indexed, isNull_indexed,
          isAtLeast_iff_reaches number (isDefined_indexed.trans plain.1),
          isAtLeast_iff_reaches (isDefined_indexed.trans plain.2) number] at within
        exact within
    | contains needle => exact absurd rfl (whole needle)

/-! ## Fields -/

variable {d : Document} {court : CourtSummary} {conditions : Conditions}

theorem fieldValue_source (d : Document) : ∀ f ∈ Surface.facilitySearch.fields, f.2.relation ≠ some courtsPath →
    fieldValue d.source f.2.path = d.field f.1 := by
  simp only [Surface.facilitySearch, List.forall_mem_cons]
  exact ⟨fun _ => rfl, fun _ => rfl, fun _ => rfl, fun _ => rfl, fun _ => rfl, fun _ => rfl, fun _ => rfl,
    fun other => absurd rfl other, fun other => absurd rfl other, fun other => absurd rfl other, by simp⟩

theorem fieldValue_inner (court : CourtSummary) : ∀ f ∈ Surface.facilitySearch.fields,
    f.2.relation = some courtsPath → fieldValue (inner court) f.2.path = court.field f.1 := by
  simp only [Surface.facilitySearch, List.forall_mem_cons]
  exact ⟨by simp, by simp, by simp, by simp, by simp, by simp, by simp, fun _ => rfl, fun _ => rfl, fun _ => rfl,
    by simp⟩

theorem isDefined_field (number : ∀ x ∈ d.rating, x.isNaN = false) (name : String) : (d.field name).isDefined = true := by
  unfold Document.field
  split
  case h_7 =>
    cases rating : d.rating with
    | none => rfl
    | some x => simpa [Value.isDefined, Value.ofOption] using number x rating
  all_goals first | rfl | (cases d.city <;> rfl) | (cases d.ward <;> rfl) | (cases d.priceFrom <;> rfl)

theorem isDefined_courtField (name : String) : (court.field name).isDefined = true := by
  unfold CourtSummary.field
  split
  case h_3 => cases court.surface <;> rfl
  all_goals rfl

/-! ## Clauses of queries -/

/-- Whether conditions are such as this development says the meaning of: accepted, without parts of texts, and
without values that are not numbers. -/
structure IsPlainFilter (conditions : Conditions) : Prop where
  accepted : Surface.facilitySearch.Accepted conditions
  plain : ∀ c ∈ conditions, c.2.IsPlain
  whole : ∀ c ∈ conditions, ∀ needle, c.2 ≠ .contains needle

variable (filter : IsPlainFilter conditions)
include filter

/-- The clause of a condition is made for a field that the condition has values of the kind of. -/
theorem IsPlainFilter.exists_field {name : String} {condition : Condition} (member : (name, condition) ∈ conditions)
    {clause : Clause} (made : IsClauseOf (name, condition) clause) : ∃ field,
      (name, field) ∈ Surface.facilitySearch.fields ∧ condition.IsOf field.kind ∧
      clause = .ofCondition field.path condition := by
  obtain ⟨field, known, rfl⟩ := made
  obtain ⟨field', known', typed⟩ := filter.accepted _ member
  cases known.symm.trans known'
  exact ⟨field, mem_of_lookup known, typed, rfl⟩

/-- The clause of a condition on a field of documents tells whether the document meets the condition. -/
theorem tells_own (number : ∀ x ∈ d.rating, x.isNaN = false) {c : String × Condition} (member : c ∈ conditions)
    (own : c.1 ∉ courtFields) {clause : Clause} (made : IsClauseOf c clause) :
    Tells (clause.holds d.source) (c.2.MetBy (d.field c.1)) := by
  obtain ⟨name, condition⟩ := c
  obtain ⟨field, there, typed, rfl⟩ := filter.exists_field member made
  have alone := mt (mem_courtFields_iff _ there).mpr own
  have value := fieldValue_source d _ there alone
  have tells := tells_ofCondition typed (filter.plain _ member) (filter.whole _ member)
    (suits_fieldValue d _ there alone) (by rw [value]; exact isDefined_field number name)
  rwa [value] at tells

/-- The clause of a condition on a field of courts tells whether a court meets the condition. -/
theorem tells_inner {c : String × Condition} (member : c ∈ conditions) (onCourts : c.1 ∈ courtFields)
    {clause : Clause} (made : IsClauseOf c clause) : Tells (clause.holds (inner court)) (c.2.MetBy (court.field c.1)) := by
  obtain ⟨name, condition⟩ := c
  obtain ⟨field, there, typed, rfl⟩ := filter.exists_field member made
  have related := (mem_courtFields_iff _ there).mp onCourts
  have value := fieldValue_inner court _ there related
  have tells := tells_ofCondition typed (filter.plain _ member) (filter.whole _ member)
    (suits_fieldValue_inner court _ there related) (by rw [value]; exact isDefined_courtField name)
  rwa [value] at tells

omit filter

theorem tells_flag {path : String} {b : Bool} (one : fieldValues document path = [.bool b]) :
    Tells ((Clause.term path (.bool true)).holds document) (b = true) := by
  refine ⟨b, ?_, Iff.rfl⟩
  have asked : (Value.bool true).same (.bool b) = b := by
    cases b <;> simp [Value.same, Value.magnitude?, Magnitude.same_ofInt]
  simp [Clause.holds, one, asked]

theorem tells_within {a : Area} (reaches : Reaches a d) : Tells ((Clause.within a).holds d.source)
    (∃ meters, a.radiusMeters = .ok meters ∧ haversine a.center d.location ≤ meters) := by
  obtain ⟨meters, radius⟩ := reaches.radius
  refine ⟨decide (haversine a.center d.location ≤ meters), ?_, by simp [radius]⟩
  rw [Clause.holds, radius]
  show (distanceFrom a.center d.source).map _ = _
  rw [reaches.distanceFrom_eq, map_ok]

/-- The clause of the conditions on courts tells whether an active court meets all of them. -/
theorem tells_nested (filter : IsPlainFilter conditions)
    (made : List.Forall₂ IsClauseOf (conditions.filter fun c => c.1 ∈ courtFields) clauses) :
    Tells ((Clause.nested courtsPath (.term "courts.isActive" (.bool true) :: clauses)).holds d.source)
      (∃ court ∈ d.courts, court.isActive = true ∧
        ∀ c ∈ conditions, c.1 ∈ courtFields → c.2.MetBy (court.field c.1)) := by
  rw [Clause.holds, innerDocuments_source, ok_bind, someItem_map]
  refine tells_someItem fun court _ => ?_
  have met : Tells (allHold (inner court) clauses)
      (∀ c ∈ conditions.filter fun c => c.1 ∈ courtFields, c.2.MetBy (court.field c.1)) := by
    refine tells_allHold made fun c member clause isClause => ?_
    simp only [List.mem_filter, decide_eq_true_eq] at member
    exact tells_inner filter member.1 member.2 isClause
  exact (tells_allHold_cons (tells_flag rfl) met).congr (by simp)

/-- The clauses of the conditions on documents tell whether a document meets all of them. -/
theorem tells_allHold_own (filter : IsPlainFilter conditions) (number : ∀ x ∈ d.rating, x.isNaN = false)
    (made : List.Forall₂ IsClauseOf (conditions.filter fun c => c.1 ∉ courtFields) clauses) :
    Tells (allHold d.source clauses) (∀ c ∈ conditions, c.1 ∉ courtFields → c.2.MetBy (d.field c.1)) := by
  have met : Tells (allHold d.source clauses)
      (∀ c ∈ conditions.filter fun c => c.1 ∉ courtFields, c.2.MetBy (d.field c.1)) := by
    refine tells_allHold made fun c member clause isClause => ?_
    simp only [List.mem_filter, decide_eq_true_eq] at member
    exact tells_own filter number member.1 member.2 isClause
  exact met.congr (by simp)

/-- Without a condition on courts there is no clause on them, and nothing is asked of the courts. -/
theorem tells_allHold_courts (filter : IsPlainFilter conditions)
    (made : List.Forall₂ IsClauseOf (conditions.filter fun c => c.1 ∈ courtFields) clauses) :
    Tells (allHold d.source (if clauses.isEmpty then [] else
        [.nested courtsPath (.term "courts.isActive" (.bool true) :: clauses)]))
      ((∃ c ∈ conditions, c.1 ∈ courtFields) → ∃ court ∈ d.courts, court.isActive = true ∧
        ∀ c ∈ conditions, c.1 ∈ courtFields → c.2.MetBy (court.field c.1)) := by
  have asked : clauses.isEmpty = true ↔ ¬ ∃ c ∈ conditions, c.1 ∈ courtFields := by
    rw [List.isEmpty_iff_length_eq_zero, ← made.length_eq, List.length_eq_zero_iff, List.filter_eq_nil_iff]
    simp
  by_cases some : ∃ c ∈ conditions, c.1 ∈ courtFields
  · rw [if_neg (mt asked.mp (not_not.mpr some))]
    refine (tells_allHold_cons (tells_nested filter made) tells_allHold_nil).congr ?_
    rw [and_true]
    exact (imp_iff_right some).symm
  · rw [if_pos (asked.mpr some)]
    exact tells_allHold_nil.congr (iff_of_true trivial fun asked => absurd asked some)

/-- The clauses of the area of a query, if it has one. -/
def areaClauses (area? : Option Area) : List Clause :=
  match area? with
  | some a => [.within a]
  | none => []

theorem tells_areaClauses {area? : Option Area} (reaches : ∀ a ∈ area?, Reaches a d) :
    Tells (allHold d.source (areaClauses area?))
      (∀ a ∈ area?, ∃ meters, a.radiusMeters = .ok meters ∧ haversine a.center d.location ≤ meters) := by
  cases area? with
  | none => exact tells_allHold_nil.congr (by simp)
  | some a => exact (tells_allHold_cons (tells_within (reaches a rfl)) tells_allHold_nil).congr (by simp)

variable {q : Query}

/-- The clauses of a query tell whether it selects a document. -/
theorem exists_tells (filter : IsPlainFilter q.conditions) (reaches : ∀ a ∈ q.area, Reaches a d)
    (number : ∀ x ∈ d.rating, x.isNaN = false) :
    ∃ clauses, filterClauses Surface.facilitySearch q = .ok clauses ∧ Tells (allHold d.source clauses) (q.Selects d) := by
  obtain ⟨split, made, alone, inside⟩ := exists_split_filter filter.accepted
  have published : Tells (allHold d.source (if q.conditions.has "isPublished" then [] else
      [.term "isPublished" (.bool true)])) (q.conditions.has "isPublished" = false → d.isPublished = true) := by
    split
    · exact tells_allHold_nil.congr (by simp_all)
    · exact (tells_allHold_cons (tells_flag rfl) tells_allHold_nil).congr (by simp_all)
  refine ⟨_, by rw [filterClauses, made, ok_bind], ?_⟩
  refine (tells_allHold_append (tells_allHold_append (tells_allHold_append published (tells_areaClauses reaches))
    (tells_allHold_own filter number alone)) (tells_allHold_courts filter inside)).congr ?_
  constructor
  · rintro ⟨⟨⟨published, near⟩, own⟩, courts⟩
    exact ⟨published, near, own, courts⟩
  · rintro ⟨published, near, own, courts⟩
    exact ⟨⟨⟨published, near⟩, own⟩, courts⟩

/-! ## Searches in a written index -/

variable {g : Gateway} {s : Server} {request : Value}

/-- A document that stands in an index written through a gateway has a place on the globe. -/
theorem Gateway.Written.isOnGlobe (written : g.Written s) {id : String}
    (there : s.document? g.index id = some d.source) : d.location.IsOnGlobe := by
  obtain ⟨documents, holds⟩ := written.exists_holds
  obtain ⟨held, present, found⟩ := Option.bind_eq_some_iff.mp there
  have same : held = documents.map entry := by
    rw [← holds.held, present]
    rfl
  have member := mem_of_lookup found
  rw [same] at member
  obtain ⟨e, listed, made⟩ := List.mem_map.mp member
  -- the source says all of a document, as the document is read back from it
  have read : Schema.document e.source = Schema.document d.source := congrArg _ (Prod.ext_iff.mp made).2
  rw [Schema.document_source, Schema.document_source] at read
  cases read
  exact holds.placed d listed

/-- The filters of an accepted search have an answer for every document that was written through a gateway, and
the answer is whether the search asks for the document. -/
theorem exists_allHold_filters (accepted : Surface.facilitySearch.normalize request = .ok q)
    (plain : ∀ c ∈ q.conditions, c.2.IsPlain) (whole : ∀ c ∈ q.conditions, ∀ needle, c.2 ≠ .contains needle)
    (laws : q.area.isSome = true → LawfulTrigonometry) (written : g.Written s) {id : String}
    (there : s.document? g.index id = some d.source) (number : ∀ x ∈ d.rating, x.isNaN = false) :
    ∃ body b, SearchBody.ofQuery Surface.facilitySearch q = .ok body ∧ allHold d.source body.filters = .ok b ∧
      (b = true ↔ q.Selects d) := by
  have normalizes := Surface.normalizes_of_normalize accepted
  obtain ⟨_, _, sorted, _, window, distance⟩ := Surface.accept_iff.mp normalizes.accepted
  -- the distance is a number, as both points lie on the globe
  have placed := written.isOnGlobe there
  have reaches : ∀ a ∈ q.area, Reaches a d := by
    intro a asked
    obtain ⟨onGlobe, meters, radius⟩ := normalizes.area_spec a asked
    exact ⟨⟨meters, radius⟩, onGlobe.hasDistance placed (laws (Option.isSome_of_mem asked))⟩
  obtain ⟨clauses, made, b, answer, iff⟩ := exists_tells ⟨normalizes.acceptedConditions, plain, whole⟩ reaches number
  obtain ⟨sort, ordered, _⟩ := exists_sortClauses sorted distance
  have built : SearchBody.ofQuery Surface.facilitySearch q = .ok ⟨scoreClause Surface.facilitySearch q, clauses, sort,
      startOfPage q.page, q.limit, decide (q.sorting.key ≠ .relevance)⟩ := by
    rw [SearchBody.ofQuery, window rfl, ok_bind, ordered, ok_bind, made, ok_bind]
  exact ⟨_, b, built, answer, iff⟩

/-- A document of a facility with a hall for tennis, and a court for badminton outside. -/
def club : Document :=
  ⟨"1", "Club", "club", "", none, some "Hue", none, ⟨0, 0⟩, true, "2", none, some 4.5,
    [⟨"3", "Hall", "tennis", none, true, true⟩, ⟨"4", "Lawn", "badminton", none, false, true⟩], "", ""⟩

/-- A request for a hall in a city, for tennis or squash. -/
def halls : Value := .object [("filters", .object [("city", .text "Hue"), ("courts.indoor", .bool true),
  ("courts.sport", .list [.text "tennis", .text "squash"])])]

/-- The filters of the request hold of the document, which the request asks for. -/
theorem exists_allHold_filters_club : ∃ q body, Surface.facilitySearch.normalize halls = .ok q ∧
    SearchBody.ofQuery Surface.facilitySearch q = .ok body ∧ allHold club.source body.filters = .ok true ∧
    q.Selects club := by
  have placed : club.location.IsOnGlobe :=
    ⟨⟨by decide +kernel, by decide +kernel⟩, ⟨by decide +kernel, by decide +kernel⟩⟩
  have written : (Gateway.ofSettings {} "").Written (((Gateway.ofSettings {} "").put club).run Server.client {}).2 :=
    .put (.absent rfl) placed
  have there : (((Gateway.ofSettings {} "").put club).run Server.client {}).2.document?
      (Gateway.ofSettings {} "").index "1" = some club.source := rfl
  have accepted : Surface.facilitySearch.normalize halls = .ok _ := rfl
  obtain ⟨body, b, built, answer, iff⟩ := exists_allHold_filters accepted (by decide +kernel) (by simp) nofun written
    there (by decide +kernel)
  have held : (allHold club.source body.filters).toOption = some true := by
    cases built
    decide +kernel
  rw [answer] at held
  cases held
  exact ⟨_, body, accepted, built, answer, iff.mp rfl⟩

end Index
end Venues
