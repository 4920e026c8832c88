import Venues.Proofs.Index.Evaluate
import Venues.Proofs.Index.Projection
import Venues.Proofs.Store.Agreement
import Venues.Proofs.Uuid

/-! # Documents and rows

The document of a facility shows some fields of its row. A condition on one of them says the same of the
document as of the row, so what it selects in the index is what it selects in the store.
-/

namespace Venues

open Store (Row Tables Model)

namespace Index

variable {kind : FieldKind} {v w : Value}

/-! ## Values -/

theorem same_indexed (timeless : kind ≠ .time) (hv : kind.admits v = true) (hw : kind.admits w = true) :
    (indexed v).same (indexed w) = v.same w := by
  cases kind with
  | time => exact absurd rfl timeless
  | uuid =>
    cases v <;> cases hv
    cases w <;> cases hw
    rename_i a b
    show (a.text == b.text) = (a == b)
    rw [Bool.eq_iff_iff, beq_iff_eq, beq_iff_eq]
    exact Uuid.text_injective.eq_iff
  | _ =>
    cases v <;> cases hv
    cases w <;> cases hw
    rfl

-- identities are compared as texts in the index, and by their bits in rows
theorem lt?_indexed (timeless : kind ≠ .time) (hv : kind.admits v = true) (hw : kind.admits w = true) :
    (indexed v).lt? (indexed w) = v.lt? w := by
  cases kind with
  | time => exact absurd rfl timeless
  | uuid =>
    cases v <;> cases hv
    cases w <;> cases hw
    rename_i a b
    show some (decide (a.text < b.text)) = some (decide (a.bits < b.bits))
    rw [Option.some_inj, decide_eq_decide]
    exact Uuid.text_lt_text
  | _ =>
    cases v <;> cases hv
    cases w <;> cases hw
    rfl

theorem same_comm (hv : kind.admits v = true) (hw : kind.admits w = true) (timeless : kind ≠ .time) :
    v.same w = w.same v := by
  cases kind with
  | time => exact absurd rfl timeless
  | text | uuid | whole =>
    cases v <;> cases hv
    cases w <;> cases hw
    exact Bool.beq_comm
  | truth | real =>
    cases v <;> cases hv
    cases w <;> cases hw
    exact Magnitude.same_comm _ _

theorem isNull_indexed : (indexed v).isNull = v.isNull := by
  cases v <;> rfl

/-! ## Conditions -/

variable {document record : Value} {path column : String} {c : Condition}

theorem between_indexed {least most : Value} (timeless : kind ≠ .time) (held : kind.admits v = true)
    (low : least.isNull = true ∨ kind.admits least = true) (high : most.isNull = true ∨ kind.admits most = true) :
    (indexed v).between (indexed least) (indexed most) = v.between least most := by
  have below (admitted : kind.admits least = true) : (indexed v).isBelow (indexed least) = v.isBelow least := by
    rw [Value.isBelow, Value.isBelow, lt?_indexed timeless held admitted]
  have above (admitted : kind.admits most = true) : (indexed most).isBelow (indexed v) = most.isBelow v := by
    rw [Value.isBelow, Value.isBelow, lt?_indexed timeless admitted held]
  unfold Value.between
  rw [isNull_indexed, isNull_indexed, isNull_indexed]
  rcases low with openLow | lowGiven <;> rcases high with openHigh | highGiven
  · rw [openLow, openHigh]
    rfl
  · rw [openLow, above highGiven]
    rfl
  · rw [openHigh, below lowGiven]
    rfl
  · rw [below lowGiven, above highGiven]

/-- The clause of a condition says of a document what the condition says of a row that holds the same value.
Parts of texts are left out, which the index looks for in another way. -/
theorem holds_ofCondition (shown : fieldValue document path = indexed (record.fields.get column))
    (suits : (record.fields.get column).isNull = true ∨ kind.admits (record.fields.get column) = true)
    (timeless : kind ≠ .time) (typed : c.IsOf kind) (whole : ∀ needle, c ≠ .contains needle) :
    (Clause.ofCondition path c).holds document = (Predicate.ofCondition column c).accepts record := by
  generalize held : record.fields.get column = v at shown suits
  rcases suits with null | admitted
  · -- a missing value satisfies nothing
    rw [Value.isNull_eq_true null] at shown held
    have none : fieldValues document path = [] := by rw [fieldValues, shown]; rfl
    cases c with
    | equals w =>
      rw [Clause.ofCondition, Clause.holds, none, Predicate.ofCondition, Predicate.accepts, held,
        Value.null_same (FieldKind.isNull_of_admits typed)]
      rfl
    | range least most =>
      rw [Clause.ofCondition, Clause.holds, none, Predicate.ofCondition, Predicate.accepts, held]
      rfl
    | oneOf ws =>
      rw [Clause.ofCondition, Clause.holds, none, Predicate.ofCondition, Predicate.accepts, held]
      refine congrArg Except.ok (List.any_eq_false.mpr fun w member => ?_).symm
      simp [Value.null_same (FieldKind.isNull_of_admits (typed w member))]
    | contains needle => exact absurd rfl (whole needle)
  · have one : fieldValues document path = [indexed v] := by
      rw [fieldValues, shown]
      cases v <;> first | rfl | (cases kind <;> cases admitted)
    cases c with
    | equals w =>
      rw [Clause.ofCondition, Clause.holds, one, Predicate.ofCondition, Predicate.accepts, held, List.any_cons,
        List.any_nil, Bool.or_false, same_indexed timeless typed admitted, same_comm typed admitted timeless]
    | range least most =>
      rw [Clause.ofCondition, Clause.holds, one, Predicate.ofCondition, Predicate.accepts, held, someItem,
        between_indexed timeless admitted typed.1 typed.2]
      cases v.between least most with
      | error fault => rfl
      | ok b => cases b <;> rfl
    | oneOf ws =>
      rw [Clause.ofCondition, Clause.holds, one, Predicate.ofCondition, Predicate.accepts, held, List.any_cons,
        List.any_nil, Bool.or_false, List.any_map]
      refine congrArg Except.ok ?_
      rw [Bool.eq_iff_iff, List.any_eq_true, List.any_eq_true]
      exact exists_congr fun w => and_congr_right fun member => by
        rw [Function.comp_apply, same_indexed timeless admitted (typed w member)]
    | contains needle => exact absurd rfl (whole needle)

/-! ## Shared fields -/

/-- The fields that conditions name alike on documents and on the rows of facilities. -/
def sharedFields : List String := ["city", "ward", "ownerId", "rating"]

/-- Whether a field of documents shows a column of facilities. -/
structure IsShared (onDocuments onRows : FieldDef) : Prop where
  kind : onDocuments.kind = onRows.kind
  own : onDocuments.relation = none ∧ onRows.relation = none
  timeless : onRows.kind ≠ .time
  ordered : onRows.kind ≠ .whole ∧ onRows.kind ≠ .truth
  column : Model.facility.column? onRows.column = some onRows.kind
  shown : ∀ (d : Document) (f : Facility), d.Shows f → f.ownerId.isSome = true →
    fieldValue d.source onDocuments.path = indexed ((Row.facility f).values.get onRows.column)

theorem exists_shared {name : String} (member : name ∈ sharedFields) : ∃ onDocuments onRows,
    Surface.facilitySearch.field? name = some onDocuments ∧ Surface.facilityListing.field? name = some onRows ∧
      IsShared onDocuments onRows := by
  have text (s? : Option String) : indexed (.ofText? s?) = .ofText? s? := by cases s? <;> rfl
  simp only [sharedFields, List.mem_cons, List.not_mem_nil, or_false] at member
  rcases member with rfl | rfl | rfl | rfl
  · refine ⟨_, _, rfl, rfl, rfl, ⟨rfl, rfl⟩, by decide, by decide, rfl, fun d f shows _ => ?_⟩
    show Value.ofText? d.city = indexed (.ofText? f.city)
    rw [shows.city, text]
  · refine ⟨_, _, rfl, rfl, rfl, ⟨rfl, rfl⟩, by decide, by decide, rfl, fun d f shows _ => ?_⟩
    show Value.ofText? d.ward = indexed (.ofText? f.ward)
    rw [shows.ward, text]
  -- the document shows a text for the identity of the owner, and so does an indexed value
  · refine ⟨_, _, rfl, rfl, rfl, ⟨rfl, rfl⟩, by decide, by decide, rfl, fun d f shows owned => ?_⟩
    obtain ⟨owner, isOwner⟩ := Option.isSome_iff_exists.mp owned
    show Value.text d.ownerId = indexed (.ofOption (f.ownerId.map .uuid))
    rw [shows.ownerId, isOwner]
    rfl
  · refine ⟨_, _, rfl, rfl, rfl, ⟨rfl, rfl⟩, by decide, by decide, rfl, fun d f shows _ => ?_⟩
    show Value.ofOption (d.rating.map .float) = indexed (.ofOption (f.rating.map .float))
    rw [shows.rating]
    cases f.rating <;> rfl

/-- Whether conditions are on shared fields and compare them with values. -/
structure AreShared (conditions : Conditions) : Prop where
  fields : ∀ c ∈ conditions, c.1 ∈ sharedFields
  accepted : Surface.facilitySearch.Accepted conditions
  plain : ∀ c ∈ conditions, c.2.IsPlain
  whole : ∀ c ∈ conditions, ∀ needle, c.2 ≠ .contains needle

variable {conditions : Conditions}

/-! ## Clauses -/

theorem AreShared.exists_split (shared : AreShared conditions) :
    ∃ clauses, splitConditions Surface.facilitySearch conditions = .ok { own := clauses } ∧
      List.Forall₂ IsClauseOf conditions clauses := by
  obtain ⟨⟨own, courts⟩, made, alone, inside⟩ := exists_split_filter shared.accepted
  -- no shared field is one of courts
  have none : ∀ c ∈ conditions, c.1 ∉ courtFields := by
    intro c member
    have apart : ∀ name ∈ sharedFields, name ∉ courtFields := by decide
    exact apart c.1 (shared.fields c member)
  rw [List.filter_eq_self.mpr (by simpa using none)] at alone
  rw [List.filter_eq_nil_iff.mpr (by simpa using none)] at inside
  cases inside
  exact ⟨own, made, alone⟩

/-- A search with shared conditions is one for published facilities that meet them. -/
theorem AreShared.filterClauses_eq {q : Query} (shared : AreShared q.conditions) (everywhere : q.area = none) :
    ∃ clauses, filterClauses Surface.facilitySearch q = .ok (.term "isPublished" (.bool true) :: clauses) ∧
      List.Forall₂ IsClauseOf q.conditions clauses := by
  obtain ⟨clauses, made, each⟩ := shared.exists_split
  -- no shared field is that of publication, so the search asks for published facilities by itself
  have unasked : q.conditions.has "isPublished" = false := by
    rw [Conditions.has, Conditions.get?, Option.isSome_eq_false_iff, Option.isNone_iff_eq_none, List.lookup_eq_none_iff]
    intro c member
    rw [bne_iff_ne]
    intro same
    have absent : "isPublished" ∉ sharedFields := by decide
    exact absent (same ▸ shared.fields c member)
  refine ⟨clauses, ?_, each⟩
  rw [filterClauses, made, ok_bind, everywhere, unasked]
  simp

/-! ## Predicates -/

/-- Whether a predicate is that of a condition on a field of facilities. -/
def IsPredicateOf (c : String × Condition) (p : Predicate) : Prop :=
  ∃ field, Surface.facilityListing.field? c.1 = some field ∧ p = .ofCondition field.column c.2

/-- Whether a condition on facilities is on a column of their own, and its answer is the same everywhere. -/
def IsTold (c : String × Condition) : Prop :=
  ∃ field, Surface.facilityListing.field? c.1 = some field ∧ field.relation = none ∧
    Model.facility.column? field.column = some field.kind ∧ field.kind ≠ .time ∧ c.2.IsOf field.kind ∧
    c.2.IsTestable field.kind ∧ c.2.IsPlain ∧ ∀ needle, c.2 ≠ .contains needle

theorem AreShared.isTold (shared : AreShared conditions) : ∀ c ∈ conditions, IsTold c := by
  intro c member
  obtain ⟨onDocuments, onRows, known, known', isShared⟩ := exists_shared (shared.fields c member)
  obtain ⟨field, known'', typed⟩ := shared.accepted c member
  cases known.symm.trans known''
  rw [isShared.kind] at typed
  exact ⟨onRows, known', isShared.own.2, isShared.column, isShared.timeless, typed,
    Condition.isTestable_of_isOf isShared.ordered.1 typed fun truth => absurd truth isShared.ordered.2,
    shared.plain c member, shared.whole c member⟩

/-- Conditions on columns of their own become one predicate each. -/
theorem exists_ofConditions_own (own : ∀ c ∈ conditions, IsTold c) :
    ∃ ps, Predicate.ofConditions Surface.facilityListing conditions = .ok (.all ps) ∧
      List.Forall₂ IsPredicateOf conditions ps := by
  -- the predicates so far stay in front, and no relation joins them
  suffices onward : ∀ before : List Predicate, ∃ ps,
      conditions.foldlM (Predicate.placeNext Surface.facilityListing) { own := before } = .ok { own := before ++ ps } ∧
        List.Forall₂ IsPredicateOf conditions ps by
    obtain ⟨ps, made, each⟩ := onward []
    refine ⟨ps, ?_, each⟩
    rw [Predicate.ofConditions, Predicate.place_eq, made, ok_bind]
    simp
  induction conditions with
  | nil => exact fun before => ⟨[], by rw [List.append_nil]; rfl, .nil⟩
  | cons c conditions ih =>
    intro before
    obtain ⟨⟨field, known, alone, _⟩, others⟩ := List.forall_mem_cons.mp own
    obtain ⟨ps, made, each⟩ := ih others (before ++ [.ofCondition field.column c.2])
    refine ⟨.ofCondition field.column c.2 :: ps, ?_, .cons ⟨field, known, rfl⟩ each⟩
    rw [List.foldlM_cons, Predicate.placeNext_of_known known, ok_bind, Predicate.Placed.add, alone, made,
      List.append_assoc]
    rfl

variable {t : Tables} {f : Facility} {n : Nat}

/-- Whether a facility meets a condition, as the store finds. -/
def meets (t : Tables) (f : Facility) (c : String × Condition) : Bool :=
  match Surface.facilityListing.field? c.1 with
  | some field => (Store.conditionFormula field.column c.2).selects t.view (.facility f)
  | none => false

theorem agrees_of_isTold (sound : t.IsSound) {c : String × Condition} (told : IsTold c) {p : Predicate}
    (isOf : IsPredicateOf c p) : Store.Agrees t .facility p := by
  obtain ⟨field, known, rfl⟩ := isOf
  obtain ⟨field', known', _, column, timeless, typed, testable, plain, whole⟩ := told
  cases known.symm.trans known'
  apply Store.agrees_ofCondition sound column timeless typed testable plain
  intro needle contains
  exact absurd contains (whole needle)

theorem accepts_eq_meets (sound : t.IsSound) (there : f ∈ t.facilities) {c : String × Condition} (told : IsTold c)
    {p : Predicate} (isOf : IsPredicateOf c p) : p.accepts (t.record n (.facility f)) = .ok (meets t f c) := by
  obtain ⟨g, made, _, agrees⟩ := agrees_of_isTold sound told isOf
  obtain ⟨field, known, rfl⟩ := isOf
  obtain ⟨field', known', _, column, _, typed, testable, _⟩ := told
  cases known.symm.trans known'
  cases made.symm.trans (Store.compile_ofCondition column typed testable)
  have shallow : (Predicate.ofCondition field.column c.2).depth = 0 := by cases c.2 <;> rfl
  rw [meets, known]
  exact agrees _ (List.mem_map_of_mem there) n (by omega)

theorem allAccept_eq_meets (sound : t.IsSound) (there : f ∈ t.facilities) {ps : List Predicate}
    (told : ∀ c ∈ conditions, IsTold c) (each : List.Forall₂ IsPredicateOf conditions ps) :
    Predicate.allAccept ps (t.record n (.facility f)) = .ok (conditions.all (meets t f)) := by
  induction each with
  | nil => rfl
  | @cons c p conditions ps isOf _ ih =>
    obtain ⟨first, others⟩ := List.forall_mem_cons.mp told
    rw [Predicate.allAccept, accepts_eq_meets sound there first isOf, List.all_cons]
    cases meets t f c with
    | true => exact ih others
    | false => rfl

/-! ## Documents of facilities -/

/-- A clause says of the document of a facility what the predicate of the same condition says of its row. -/
theorem holds_eq_accepts (sound : t.IsSound) (there : f ∈ t.facilities) (owned : f.ownerId.isSome = true)
    {d : Document} (shows : d.Shows f) (shared : AreShared conditions) {c : String × Condition} (member : c ∈ conditions)
    {clause : Clause} (isClause : IsClauseOf c clause) {p : Predicate} (isPredicate : IsPredicateOf c p) :
    clause.holds d.source = p.accepts (t.record n (.facility f)) := by
  obtain ⟨onDocuments, known, rfl⟩ := isClause
  obtain ⟨onRows, known', rfl⟩ := isPredicate
  obtain ⟨onDocuments', onRows', same, same', isShared⟩ := exists_shared (shared.fields c member)
  cases known.symm.trans same
  cases known'.symm.trans same'
  obtain ⟨_, known', _, _, _, typed, _, _, whole⟩ := shared.isTold c member
  cases same'.symm.trans known'
  -- the record and the document are read off the same row
  have column := Store.get_record (t := t) (n := n) (r := .facility f) isShared.column
  have held := (sound.typed .facility _ (List.mem_map_of_mem there)).holds isShared.column
  apply holds_ofCondition _ _ isShared.timeless typed whole
  · rw [column]
    exact isShared.shown d f shows owned
  · rw [column]
    cases absent : ((Row.facility f).values.get onRows.column).isNull with
    | true => exact .inl rfl
    | false => exact .inr (FieldKind.admits_of_holds held absent).1

/-- The clauses of shared conditions hold of the document of a facility that meets the conditions. -/
theorem allHold_eq_meets (sound : t.IsSound) (there : f ∈ t.facilities) (owned : f.ownerId.isSome = true)
    {d : Document} (shows : d.Shows f) (shared : AreShared conditions) {clauses : List Clause}
    (each : List.Forall₂ IsClauseOf conditions clauses) :
    allHold d.source clauses = .ok (conditions.all (meets t f)) := by
  obtain ⟨ps, predicates⟩ := (exists_ofConditions_own shared.isTold).imp fun _ => And.right
  rw [← allAccept_eq_meets (n := 0) sound there shared.isTold predicates]
  have same : ∀ c ∈ conditions, ∀ clause p, IsClauseOf c clause → IsPredicateOf c p →
      clause.holds d.source = p.accepts (t.record 0 (.facility f)) := fun c member clause p isClause isPredicate =>
    holds_eq_accepts sound there owned shows shared member isClause isPredicate
  clear shared
  -- both sides stop at the first condition that is not met
  induction each generalizing ps with
  | nil =>
    cases predicates
    rfl
  | @cons c clause conditions clauses isClause _ ih =>
    obtain ⟨first, others⟩ := List.forall_mem_cons.mp same
    cases predicates with
    | @cons _ p _ ps isPredicate predicates =>
      rw [allHold, Predicate.allAccept, first clause p isClause isPredicate, ih ps predicates others]

end Index
end Venues
