import Venues.Proofs.Filter.Classified
import Venues.Proofs.Predicate.Accepts
import Venues.Proofs.Predicate.Parts

/-! # Two predicates of raw filters

Raw filters become a predicate as they are, or by way of the conditions on the fields of a surface. Where the fields
of the surface are called like their columns, both accept the same rows, with one exception: an object without
values asks for a related row, whatever that row is, but it puts no condition on any field.
-/

namespace Venues

/-! ## Filters without objects -/

namespace Predicate

variable {es es' : Fields}

theorem ofObjects_append : ofObjects (es ++ es') = ofObjects es ++ ofObjects es' := by
  induction es with
  | nil => rfl
  | cons e es ih => rw [List.cons_append, ofObjects, ofObjects, ih, List.append_assoc]

theorem ofObjects_of_leaves (leaves : ∀ e ∈ es, isObject e.2 = false) : ofObjects es = [] := by
  induction es with
  | nil => rfl
  | cons e es ih =>
    obtain ⟨leaf, others⟩ := List.forall_mem_cons.mp leaves
    rw [ofObjects, ih others, List.append_nil]
    cases value : e.2 with
    | object fs => rw [value] at leaf; cases leaf
    | _ => rfl

theorem filter_leaves (leaves : ∀ e ∈ es, isObject e.2 = false) : es.filter (fun e => !isObject e.2) = es :=
  List.filter_eq_self.mpr fun e member => by rw [leaves e member]; rfl

theorem ofLeaves_of_leaves (leaves : ∀ e ∈ es, isObject e.2 = false) :
    ofLeaves es = (Filter.classify es).map fun c => ofCondition c.1 c.2 := by
  rw [ofLeaves, filter_leaves leaves]

end Predicate

namespace Filter

variable {es es' : Fields} {lead : String}

theorem entriesIn_append : entriesIn lead (es ++ es') = entriesIn lead es ++ entriesIn lead es' := by
  induction es with
  | nil => rfl
  | cons e es ih => rw [List.cons_append, entriesIn, entriesIn, ih, List.append_assoc]

theorem entriesIn_of_leaves (leaves : ∀ e ∈ es, Predicate.isObject e.2 = false) :
    entriesIn lead es = es.map (Prod.map (lead ++ ·) id) := by
  induction es with
  | nil => rfl
  | cons e es ih =>
    obtain ⟨leaf, others⟩ := List.forall_mem_cons.mp leaves
    have one : entriesOf (lead ++ e.1) e.2 = [(lead ++ e.1, e.2)] := by
      cases value : e.2 with
      | object fs => rw [value] at leaf; cases leaf
      | _ => rfl
    rw [entriesIn, one, ih others]
    rfl

/-- Entries with different full names are read as they are. -/
theorem parse_eq_classify {raw : Fields} (distinct : ((entries raw).map Prod.fst).Nodup) :
    parse raw = classify (entries raw) := by
  rw [parse, flatten_eq, putAll_eq_append distinct, List.nil_append]

/-- Each condition is on the field of an entry with a value. -/
theorem exists_of_mem_classify {c : String × Condition} (member : c ∈ classify es) :
    ∃ e ∈ es, fieldOf e.1 = c.1 ∧ e.2.isNull = false := by
  have collects := collects_classify es
  obtain ⟨e, kept, on⟩ := (collects.gathers c member).exists_mem
  obtain ⟨front, back, rfl, present, _⟩ := mem_keptOf.mp kept
  exact ⟨e, by simp, on, present⟩

/-- An entry on a field has its name, or its name with one of the two endings. -/
theorem eq_or_of_fieldOf {name base : String} (on : fieldOf name = base) :
    name = base ∨ ∃ b : Bound, name = base ++ String.ofList b.ending := by
  cases bound : bound? name with
  | none => exact .inl ((fieldOf_of_plain bound).symm.trans on)
  | some p =>
    obtain ⟨base', b⟩ := p
    cases (fieldOf_of_bound bound).symm.trans on
    refine .inr ⟨b, String.toList_injective ?_⟩
    rw [String.toList_append, String.toList_ofList]
    exact (append_of_bound bound).symm

end Filter

/-! ## The parts on a relation -/

namespace Predicate

/-- A relation without a condition accepts the rows that are related to some row. -/
theorem accepts_related_nothing {relation : String} {row : Value} :
    (Predicate.related relation (.all [])).accepts row = .ok true ↔ row.relatedTo relation ≠ [] := by
  rw [accepts_related]
  cases row.relatedTo relation with
  | nil => simp [someItem]
  | cons item items => simp [someItem, accepts, allAccept]

/-- A relation accepts only rows that are related to some row. -/
theorem relatedTo_ne_nil {relation : String} {row : Value} {inner : Predicate}
    (accepted : (Predicate.related relation inner).accepts row = .ok true) : row.relatedTo relation ≠ [] := by
  rw [accepts_related] at accepted
  intro none
  rw [none] at accepted
  cases accepted

variable {s : Surface} {relation? : Option String} {conditions : Conditions}

/-- Whether a field is one of the row itself, or of a relation. -/
def isOn (s : Surface) (relation? : Option String) (name : String) : Bool :=
  (s.field? name).any fun d => d.relation == relation?

theorem partsOn_filter : partsOn s relation? (conditions.filter fun c => isOn s relation? c.1) =
    partsOn s relation? conditions := by
  rw [partsOn, partsOn, List.filterMap_filter]
  refine List.filterMap_congr fun c _ => ?_
  cases known : s.field? c.1 with
  | none => simp
  | some d => by_cases on : d.relation = relation? <;> simp [isOn, known, on]

/-- The parts on a relation come from the entries on its fields. -/
theorem partsOn_classify (es : Fields) : partsOn s relation? (Filter.classify es) =
    partsOn s relation? (Filter.classify (es.filter fun e => isOn s relation? (Filter.fieldOf e.1))) := by
  rw [← Filter.filter_classify, partsOn_filter]

/-- Where all conditions are on the relation, each is a part under the name of the column. -/
theorem partsOn_map (rename : String → String)
    (known : ∀ c ∈ conditions, ∃ d, s.field? (rename c.1) = some d ∧ d.relation = relation? ∧ d.column = c.1) :
    partsOn s relation? (conditions.map (Prod.map rename id)) = conditions.map fun c => ofCondition c.1 c.2 := by
  rw [partsOn, List.filterMap_map, ← List.filterMap_eq_map]
  refine List.filterMap_congr fun c member => ?_
  obtain ⟨d, field, on, same⟩ := known c member
  simp [field, on, same]

end Predicate

/-! ## Filters on facilities -/

namespace Filter

open Predicate (isObject isOn ofObjects ofLeaves ofRaw ofCondition ofConditions partsOn)

/-- The fields of a facility that the listing calls like their columns. -/
def ownNames : List String := ["name", "slug", "city", "ward", "rating"]

/-- The fields of a court that the listing calls like their columns. -/
def courtNames : List String := ["sport", "indoor"]

/-- Whether raw filters name each field of a facility by its column, and put those of its courts into an object. -/
structure IsPlain (raw : Fields) : Prop where
  distinct : (raw.map Prod.fst).Nodup
  own : ∀ e ∈ raw, isObject e.2 = false → fieldOf e.1 ∈ ownNames ∨ e.1 = "courts" ∧ e.2.isNull = true
  courts : ∀ name fs, (name, Value.object fs) ∈ raw → name = "courts" ∧ (fs.map Prod.fst).Nodup ∧
    ∀ e ∈ fs, isObject e.2 = false ∧ fieldOf e.1 ∈ courtNames

/-- The entry of the courts, if there is one. -/
def courtsEntry (inner? : Option Fields) : Fields := inner?.toList.map fun fs => ("courts", .object fs)

/-- The fields of the courts under their full names. -/
def courtEntries (inner? : Option Fields) : Fields := (inner?.getD []).map (Prod.map ("courts." ++ ·) id)

/-- Whether such filters are made of the object of the courts, if there is one, and the entries around it. -/
structure Splits (raw front back : Fields) (inner? : Option Fields) : Prop where
  whole : raw = front ++ (courtsEntry inner? ++ back)
  distinct : ((front ++ back).map Prod.fst).Nodup
  leaves : ∀ e ∈ front ++ back, isObject e.2 = false
  named : ∀ e ∈ front ++ back, fieldOf e.1 ∈ ownNames ∨ e.1 = "courts" ∧ e.2.isNull = true
  distinctInner : ((inner?.getD []).map Prod.fst).Nodup
  leavesInner : ∀ e ∈ inner?.getD [], isObject e.2 = false
  namedInner : ∀ e ∈ inner?.getD [], fieldOf e.1 ∈ courtNames

variable {raw front back : Fields} {inner? : Option Fields} {e : String × Value}

theorem isObject_eq_true {v : Value} (object : isObject v = true) : ∃ fs, v = .object fs := by
  cases v <;> first | exact ⟨_, rfl⟩ | cases object

/-- The only entry that is an object is that of the courts. -/
theorem IsPlain.exists_splits (plain : IsPlain raw) : ∃ front back inner?, Splits raw front back inner? := by
  by_cases some : ∃ e ∈ raw, isObject e.2 = true
  · obtain ⟨⟨name, v⟩, member, object⟩ := some
    obtain ⟨fs, rfl⟩ := isObject_eq_true object
    obtain ⟨rfl, distinctInner, inner⟩ := plain.courts _ _ member
    obtain ⟨front, back, rfl⟩ := List.append_of_mem member
    have around : (front ++ back).Sublist (front ++ ("courts", .object fs) :: back) :=
      (List.Sublist.refl front).append (List.sublist_cons_self _ back)
    have leaves : ∀ e ∈ front ++ back, isObject e.2 = false := by
      intro e there
      rw [Bool.eq_false_iff]
      intro object'
      -- a second object would have the same name
      obtain ⟨fs', value⟩ := isObject_eq_true object'
      have same : e.1 = "courts" := (plain.courts e.1 fs' (value ▸ around.subset there)).1
      have distinct := plain.distinct
      simp only [List.map_append, List.map_cons, List.nodup_append, List.nodup_cons] at distinct
      obtain ⟨_, ⟨notLater, _⟩, across⟩ := distinct
      rcases List.mem_append.mp there with earlier | later
      · exact across _ (List.mem_map_of_mem earlier) _ List.mem_cons_self same
      · exact notLater (same ▸ List.mem_map_of_mem later)
    exact ⟨front, back, some fs, rfl, plain.distinct.sublist (around.map Prod.fst), leaves,
      fun e there => plain.own e (around.subset there) (leaves e there), distinctInner,
      fun e there => (inner e there).1, fun e there => (inner e there).2⟩
  · have leaves : ∀ e ∈ raw, isObject e.2 = false := fun e member =>
      Bool.eq_false_iff.mpr fun object => some ⟨e, member, object⟩
    refine ⟨raw, [], none, by simp [courtsEntry], ?_, ?_, ?_, List.nodup_nil, by simp, by simp⟩ <;>
      rw [List.append_nil]
    · exact plain.distinct
    · exact leaves
    · exact fun e member => plain.own e member (leaves e member)

theorem courts_append_injective : Function.Injective ("courts." ++ ·) := fun a b same => by
  simpa [← String.toList_inj, String.toList_append] using same

/-- The full name of a field of courts keeps its ending. -/
theorem bound?_courts {name : String} (on : fieldOf name ∈ courtNames) :
    bound? ("courts." ++ name) = (bound? name).map (Prod.map ("courts." ++ ·) id) := by
  have each : ∀ base ∈ courtNames, ∀ name, name = base ∨ (∃ b : Bound, name = base ++ String.ofList b.ending) →
      bound? ("courts." ++ name) = (bound? name).map (Prod.map ("courts." ++ ·) id) := by
    rintro base listed name (rfl | ⟨b, rfl⟩)
    · revert name
      decide +kernel
    · revert base
      cases b <;> decide +kernel
  exact each _ on name (eq_or_of_fieldOf rfl)

theorem fieldOf_courts {name : String} (on : fieldOf name ∈ courtNames) :
    fieldOf ("courts." ++ name) = "courts." ++ fieldOf name := by
  rw [fieldOf, bound?_courts on, fieldOf]
  cases bound? name <;> rfl

namespace Splits

variable (splits : Splits raw front back inner?)
include splits

/-! ### Where the entries belong -/

theorem isOn_own (member : e ∈ front ++ back) : isOn Surface.facilityListing (some "courts") (fieldOf e.1) = false ∧
    (isOn Surface.facilityListing none (fieldOf e.1) = false → e.2.isNull = true) := by
  have own : ∀ name ∈ ownNames,
      isOn Surface.facilityListing (some "courts") name = false ∧ isOn Surface.facilityListing none name = true := by
    decide
  rcases splits.named e member with listed | ⟨courts, null⟩
  · obtain ⟨there, here⟩ := own _ listed
    exact ⟨there, fun notHere => by rw [here] at notHere; cases notHere⟩
  · exact ⟨by rw [courts]; decide +kernel, fun _ => null⟩

theorem isOn_courts (member : e ∈ courtEntries inner?) :
    isOn Surface.facilityListing (some "courts") (fieldOf e.1) = true ∧
      isOn Surface.facilityListing none (fieldOf e.1) = false := by
  obtain ⟨e, listed, rfl⟩ := List.mem_map.mp member
  rw [Prod.map_fst, fieldOf_courts (splits.namedInner e listed)]
  have each : ∀ name ∈ courtNames, isOn Surface.facilityListing (some "courts") ("courts." ++ name) = true ∧
      isOn Surface.facilityListing none ("courts." ++ name) = false := by decide
  exact each _ (splits.namedInner e listed)

/-- The field of an entry with a value is one of the listing, called like its column. -/
theorem exists_field_own (member : e ∈ front ++ back) (present : e.2.isNull = false) :
    ∃ d, Surface.facilityListing.field? (fieldOf e.1) = some d ∧ d.relation = none ∧ d.column = fieldOf e.1 := by
  have each : ∀ name ∈ ownNames,
      ∃ d, Surface.facilityListing.field? name = some d ∧ d.relation = none ∧ d.column = name := by decide
  refine each _ ((splits.named e member).resolve_right fun ⟨_, null⟩ => ?_)
  rw [null] at present
  cases present

theorem exists_field_courts (member : e ∈ inner?.getD []) :
    ∃ d, Surface.facilityListing.field? ("courts." ++ fieldOf e.1) = some d ∧ d.relation = some "courts" ∧
      d.column = fieldOf e.1 := by
  have each : ∀ name ∈ courtNames, ∃ d, Surface.facilityListing.field? ("courts." ++ name) = some d ∧
      d.relation = some "courts" ∧ d.column = name := by decide
  exact each _ (splits.namedInner e member)

/-! ### By way of conditions -/

/-- The object of the courts is replaced by its fields. -/
theorem entries_eq : entries raw = front ++ (courtEntries inner? ++ back) := by
  obtain ⟨first, last⟩ := List.forall_mem_append.mp splits.leaves
  have same (es : Fields) : es.map (Prod.map ("" ++ ·) id) = es := by
    simp only [String.empty_append, ← Function.id_def]
    exact List.map_id es
  have courts : entriesIn "" (courtsEntry inner?) = courtEntries inner? := by
    cases inner? with
    | none => rfl
    | some fs => exact (List.append_nil _).trans (entriesIn_of_leaves splits.leavesInner)
  rw [splits.whole, entries, entriesIn_append, entriesIn_append, entriesIn_of_leaves first, entriesIn_of_leaves last,
    same, same, courts]

theorem parse_eq : parse raw = classify (front ++ (courtEntries inner? ++ back)) := by
  have courts : ((courtEntries inner?).map Prod.fst).Nodup := by
    rw [courtEntries, List.map_map]
    have renamed := splits.distinctInner.map courts_append_injective
    rwa [List.map_map] at renamed
  -- the full names of fields of courts are on the courts, and no others are
  have apart : ∀ e ∈ front ++ back, ∀ e' ∈ courtEntries inner?, e.1 ≠ e'.1 := by
    intro e there e' there' same
    have on := (splits.isOn_courts there').1
    rw [← same, (splits.isOn_own there).1] at on
    cases on
  have moved : (front ++ (courtEntries inner? ++ back)).Perm ((front ++ back) ++ courtEntries inner?) := by
    rw [List.append_assoc]
    exact List.perm_append_comm.append_left front
  rw [← splits.entries_eq] at moved ⊢
  refine parse_eq_classify ((moved.map Prod.fst).nodup_iff.mpr ?_)
  rw [List.map_append, List.nodup_append]
  refine ⟨splits.distinct, courts, fun name there name' there' => ?_⟩
  obtain ⟨e, member, rfl⟩ := List.mem_map.mp there
  obtain ⟨e', member', rfl⟩ := List.mem_map.mp there'
  exact apart e member e' member'

/-- The parts on the facility itself come from the entries outside the object of its courts. -/
theorem partsOn_own : partsOn Surface.facilityListing none (parse raw) = ofLeaves (front ++ back) := by
  have filtered : (front ++ (courtEntries inner? ++ back)).filter
      (fun e => isOn Surface.facilityListing none (fieldOf e.1)) =
      (front ++ back).filter fun e => isOn Surface.facilityListing none (fieldOf e.1) := by
    have none : (courtEntries inner?).filter (fun e => isOn Surface.facilityListing none (fieldOf e.1)) = [] :=
      List.filter_eq_nil_iff.mpr fun e member => by simp [(splits.isOn_courts member).2]
    simp only [List.filter_append, none, List.nil_append]
  have known : ∀ c ∈ classify (front ++ back), ∃ d, Surface.facilityListing.field? (id c.1) = some d ∧
      d.relation = none ∧ d.column = c.1 := by
    intro c member
    obtain ⟨e, there, on, present⟩ := exists_of_mem_classify member
    exact on ▸ splits.exists_field_own there present
  rw [splits.parse_eq, Predicate.partsOn_classify, filtered, classify_filter fun e member => (splits.isOn_own member).2,
    Predicate.ofLeaves_of_leaves splits.leaves, ← Predicate.partsOn_map id known, Prod.map_id, List.map_id]

/-- The parts on the courts come from the object of the courts. -/
theorem partsOn_courts : partsOn Surface.facilityListing (some "courts") (parse raw) = ofLeaves (inner?.getD []) := by
  -- no entry in front of the object of the courts, or behind it, is on courts
  have filtered : (front ++ (courtEntries inner? ++ back)).filter
      (fun e => isOn Surface.facilityListing (some "courts") (fieldOf e.1)) = courtEntries inner? := by
    have all : (courtEntries inner?).filter (fun e => isOn Surface.facilityListing (some "courts") (fieldOf e.1)) =
        courtEntries inner? := List.filter_eq_self.mpr fun e member => (splits.isOn_courts member).1
    have none (es : Fields) (part : ∀ e ∈ es, e ∈ front ++ back) :
        es.filter (fun e => isOn Surface.facilityListing (some "courts") (fieldOf e.1)) = [] :=
      List.filter_eq_nil_iff.mpr fun e member => by simp [(splits.isOn_own (part e member)).1]
    simp only [List.filter_append, all, none front fun e => List.mem_append_left back,
      none back fun e => List.mem_append_right front, List.nil_append, List.append_nil]
  have known : ∀ c ∈ classify (inner?.getD []), ∃ d, Surface.facilityListing.field? ("courts." ++ c.1) = some d ∧
      d.relation = some "courts" ∧ d.column = c.1 := by
    intro c member
    obtain ⟨e, there, on, _⟩ := exists_of_mem_classify member
    exact on ▸ splits.exists_field_courts there
  rw [splits.parse_eq, Predicate.partsOn_classify, filtered, courtEntries,
    classify_map courts_append_injective fun e member => bound?_courts (splits.namedInner e member),
    Predicate.ofLeaves_of_leaves splits.leavesInner]
  exact Predicate.partsOn_map _ known

/-! ### As they are -/

/-- The predicate of the filters as they are has a part for the object of the courts, and those of the entries
around it. -/
theorem ofRaw_eq : ofRaw raw =
    .all ((inner?.toList.map fun fs => .related "courts" (.all (ofLeaves fs))) ++ ofLeaves (front ++ back)) := by
  obtain ⟨first, last⟩ := List.forall_mem_append.mp splits.leaves
  have objects : ofObjects (courtsEntry inner?) =
      inner?.toList.map fun fs => .related "courts" (.all (ofLeaves fs)) := by
    cases inner? with
    | none => rfl
    | some fs =>
      have none : ofObjects fs = [] := Predicate.ofObjects_of_leaves splits.leavesInner
      simp [courtsEntry, ofObjects, Predicate.ofObject, none]
  have leaf : (courtsEntry inner?).filter (fun e => !isObject e.2) = [] := by cases inner? <;> rfl
  rw [splits.whole, ofRaw, Predicate.ofObjects_append, Predicate.ofObjects_append, objects,
    Predicate.ofObjects_of_leaves first, Predicate.ofObjects_of_leaves last, List.nil_append, List.append_nil]
  simp only [ofLeaves, List.filter_append, leaf, List.nil_append]

theorem mem_iff {fs : Fields} : ("courts", .object fs) ∈ raw ↔ inner? = some fs := by
  have leaf (es : Fields) (part : ∀ e ∈ es, e ∈ front ++ back) : ("courts", .object fs) ∉ es := fun member => by
    cases splits.leaves _ (part _ member)
  rw [splits.whole, List.mem_append, List.mem_append, or_iff_right (leaf front fun e => List.mem_append_left back),
    or_iff_left (leaf back fun e => List.mem_append_right front), courtsEntry]
  cases inner? <;> simp [eq_comm]

/-- The conditions can be placed, as all of their fields are known. -/
theorem exists_ofConditions : ∃ typed, ofConditions Surface.facilityListing (parse raw) = .ok typed := by
  have known : ∀ c ∈ parse raw, ∃ d, Surface.facilityListing.field? c.1 = some d := by
    intro c member
    rw [splits.parse_eq] at member
    obtain ⟨e, there, on, present⟩ := exists_of_mem_classify member
    rw [← on]
    rcases List.mem_append.mp there with first | there
    · exact (splits.exists_field_own (List.mem_append_left back first) present).imp fun _ known => known.1
    · rcases List.mem_append.mp there with courts | last
      · obtain ⟨e, listed, rfl⟩ := List.mem_map.mp courts
        rw [Prod.map_fst, fieldOf_courts (splits.namedInner e listed)]
        exact (splits.exists_field_courts listed).imp fun _ known => known.1
      · exact (splits.exists_field_own (List.mem_append_right front last) present).imp fun _ known => known.1
  obtain ⟨placed, made⟩ := Predicate.exists_place known
  exact ⟨_, by rw [ofConditions, made]; rfl⟩

/-! ### What is accepted -/

section Accepted

variable {typed : Predicate} {row : Value}

/-- The predicate of the conditions asks for a court only if there are conditions on courts. -/
theorem accepts_ofConditions (made : ofConditions Surface.facilityListing (parse raw) = .ok typed) :
    typed.accepts row = .ok true ↔ (∀ q ∈ ofLeaves (front ++ back), q.accepts row = .ok true) ∧
      (ofLeaves (inner?.getD []) ≠ [] →
        (Predicate.related "courts" (.all (ofLeaves (inner?.getD [])))).accepts row = .ok true) := by
  rw [Predicate.holds_ofConditions (H := fun p => p.accepts row = .ok true) Predicate.accepts_all made,
    splits.partsOn_own]
  refine and_congr_right fun _ => ⟨fun all => ?_, fun courts relation some' => ?_⟩
  · rw [← splits.partsOn_courts]
    exact all "courts"
  · cases Predicate.relation_eq_courts some'
    rw [splits.partsOn_courts] at some' ⊢
    exact courts some'

/-- The predicate of the filters asks for a court whenever there is an object for the courts. -/
theorem accepts_ofRaw : (ofRaw raw).accepts row = .ok true ↔
    (∀ q ∈ ofLeaves (front ++ back), q.accepts row = .ok true) ∧
      ∀ fs ∈ inner?, (Predicate.related "courts" (.all (ofLeaves fs))).accepts row = .ok true := by
  rw [splits.ofRaw_eq, Predicate.accepts_all, List.forall_mem_append, and_comm]
  simp

/-- The predicate of the filters asks for what that of the conditions asks for, and for some court if there is an
object for the courts. -/
theorem accepts_iff (made : ofConditions Surface.facilityListing (parse raw) = .ok typed) :
    (ofRaw raw).accepts row = .ok true ↔ typed.accepts row = .ok true ∧
      ((∃ fs, ("courts", .object fs) ∈ raw) → row.relatedTo "courts" ≠ []) := by
  rw [splits.accepts_ofConditions made, splits.accepts_ofRaw, and_assoc]
  refine and_congr_right fun _ => ?_
  simp only [splits.mem_iff]
  cases inner? with
  | none => simp [ofLeaves, classify]
  | some fs =>
    simp only [Option.mem_def, Option.some_inj, forall_eq', Option.getD_some, exists_eq', true_imp_iff]
    by_cases none : ofLeaves fs = []
    · simp only [none, Predicate.accepts_related_nothing, ne_eq, not_true_eq_false, false_imp_iff, true_and]
    · constructor
      · exact fun accepted => ⟨fun _ => accepted, Predicate.relatedTo_ne_nil accepted⟩
      · exact fun both => both.1 none

/-- An object for the courts with a value in it leaves a condition on courts, so some court is asked for either way. -/
theorem relatedTo_ne_nil (made : ofConditions Surface.facilityListing (parse raw) = .ok typed) {fs : Fields}
    (there : ("courts", .object fs) ∈ raw) (given : ∃ e ∈ fs, e.2.isNull = false)
    (accepted : typed.accepts row = .ok true) : row.relatedTo "courts" ≠ [] := by
  have courts := ((splits.accepts_ofConditions made).mp accepted).2
  have leaves := splits.leavesInner
  rw [splits.mem_iff.mp there, Option.getD_some] at courts leaves
  refine Predicate.relatedTo_ne_nil (courts ?_)
  rw [Predicate.ofLeaves_of_leaves leaves]
  exact mt List.map_eq_nil_iff.mp (classify_ne_nil given)

end Accepted

end Splits

/-- Raw filters on facilities become conditions on fields of the listing. Their predicate accepts a row exactly if
the predicate of these conditions does, and some court is there if the filters hold an object for the courts. So
both accept the same rows, unless such an object holds no value. -/
theorem exists_typed (plain : IsPlain raw) : ∃ typed, ofConditions Surface.facilityListing (parse raw) = .ok typed ∧
    (∀ c ∈ parse raw, ∃ e ∈ entries raw, fieldOf e.1 = c.1 ∧ e.2.isNull = false) ∧
    (∀ row, (ofRaw raw).accepts row = .ok true ↔ typed.accepts row = .ok true ∧
      ((∃ fs, ("courts", .object fs) ∈ raw) → row.relatedTo "courts" ≠ [])) ∧
    ((∀ fs, ("courts", .object fs) ∈ raw → ∃ e ∈ fs, e.2.isNull = false) →
      ∀ row, (ofRaw raw).accepts row = .ok true ↔ typed.accepts row = .ok true) := by
  obtain ⟨front, back, inner?, splits⟩ := plain.exists_splits
  obtain ⟨typed, made⟩ := splits.exists_ofConditions
  have same : ∀ row, (ofRaw raw).accepts row = .ok true ↔ typed.accepts row = .ok true ∧
      ((∃ fs, ("courts", .object fs) ∈ raw) → row.relatedTo "courts" ≠ []) := fun _ => splits.accepts_iff made
  refine ⟨typed, made, fun c member => ?_, same, fun given row => ?_⟩
  · rw [splits.parse_eq] at member
    rw [splits.entries_eq]
    exact exists_of_mem_classify member
  · rw [same]
    refine and_iff_left_of_imp fun accepted courts => ?_
    obtain ⟨fs, there⟩ := courts
    exact splits.relatedTo_ne_nil made there (given fs there) accepted

/-- Filters on parks with a court for tennis or squash, inside or outside. -/
def courtFilters : Fields := [("ward", .null), ("courts", .object [("sport", .list [.text "TENNIS", .text "SQUASH"]),
  ("indoor", .null)]), ("rating_from", .int 4), ("name", .text "*park*")]

theorem isPlain_courtFilters : IsPlain courtFilters where
  distinct := by decide
  own := by decide +kernel
  courts := by
    intro name fs member
    obtain ⟨rfl, rfl⟩ : name = "courts" ∧ fs = [("sport", .list [.text "TENNIS", .text "SQUASH"]), ("indoor", .null)] := by
      simpa [courtFilters] using member
    exact ⟨rfl, by decide, by decide +kernel⟩

/-- Both predicates of the filters accept the same rows. -/
theorem exists_typed_courtFilters : IsPlain courtFilters ∧
    ∃ typed, ofConditions Surface.facilityListing (parse courtFilters) = .ok typed ∧
      ∀ row, (ofRaw courtFilters).accepts row = .ok true ↔ typed.accepts row = .ok true := by
  obtain ⟨typed, made, _, _, same⟩ := exists_typed isPlain_courtFilters
  refine ⟨isPlain_courtFilters, typed, made, same fun fs there => ?_⟩
  obtain rfl : fs = _ := by simpa [courtFilters] using there
  exact ⟨_, List.mem_cons_self, rfl⟩

/-- A facility without courts. -/
def bare : Value := .object [("courts", .list [])]

/-- A facility without courts satisfies the conditions of an object that has no values, be it empty or of nulls, but
not the object itself. -/
theorem accepts_emptyObject :
    (∃ typed, ofConditions Surface.facilityListing (parse [("courts", .object [])]) = .ok typed ∧
      typed.accepts bare = .ok true ∧ (ofRaw [("courts", .object [])]).accepts bare = .ok false) ∧
    ∃ typed, ofConditions Surface.facilityListing (parse [("courts", .object [("sport", .null)])]) = .ok typed ∧
      typed.accepts bare = .ok true ∧ (ofRaw [("courts", .object [("sport", .null)])]).accepts bare = .ok false :=
  ⟨⟨_, rfl, rfl, rfl⟩, _, rfl, rfl, rfl⟩

end Filter
end Venues
