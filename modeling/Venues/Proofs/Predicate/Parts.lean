import Mathlib.Data.List.Basic
import Mathlib.Data.List.Nodup
import Venues.Predicate.Build
import Venues.Proofs.Outcome

/-! # The parts of built predicates

A predicate that is built for a query holds of a row exactly if its parts do: the conditions on fields of the row
itself, for each relation a single predicate that joins the conditions on its fields, what every row of the
surface satisfies, and the search for the term. This is so for whatever is meant by holding, as long as a
conjunction holds exactly if all of its parts do.
-/

namespace Venues.Predicate

variable {s : Surface} {conditions : Conditions}

/-! ## Placed conditions -/

/-- The predicates of the conditions on the fields of a relation, or of the row itself, in their order. -/
def partsOn (s : Surface) (relation? : Option String) (conditions : Conditions) : List Predicate :=
  conditions.filterMap fun c => (s.field? c.1).bind fun d =>
    if d.relation = relation? then some (ofCondition d.column c.2) else none

theorem mem_partsOn {relation? : Option String} {p : Predicate} : p ∈ partsOn s relation? conditions ↔
    ∃ c ∈ conditions, ∃ d, s.field? c.1 = some d ∧ d.relation = relation? ∧ ofCondition d.column c.2 = p := by
  simp only [partsOn, List.mem_filterMap, Option.bind_eq_some_iff, Option.ite_none_right_eq_some, Option.some_inj]

theorem partsOn_ne_nil {relation? : Option String} : partsOn s relation? conditions ≠ [] ↔
    ∃ c ∈ conditions, ∃ d, s.field? c.1 = some d ∧ d.relation = relation? := by
  constructor
  · intro some'
    obtain ⟨p, part⟩ := List.exists_mem_of_ne_nil _ some'
    obtain ⟨c, member, d, known, on, _⟩ := mem_partsOn.mp part
    exact ⟨c, member, d, known, on⟩
  · rintro ⟨c, member, d, known, on⟩
    exact List.ne_nil_of_mem (mem_partsOn.mpr ⟨c, member, d, known, on, rfl⟩)

/-- All conditions of the listing of facilities that are on related rows are on courts. -/
theorem relation_eq_courts {relation : String}
    (some' : partsOn Surface.facilityListing (some relation) conditions ≠ []) : relation = "courts" := by
  obtain ⟨c, _, d, known, on⟩ := partsOn_ne_nil.mp some'
  have all : ∀ f ∈ Surface.facilityListing.fields, ∀ r ∈ f.2.relation, r = "courts" := by decide
  exact all (c.1, d) (mem_of_lookup known) relation on

theorem partsOn_concat {c : String × Condition} {d : FieldDef} (known : s.field? c.1 = some d)
    (relation? : Option String) : partsOn s relation? (conditions ++ [c]) =
      partsOn s relation? conditions ++ if d.relation = relation? then [ofCondition d.column c.2] else [] := by
  simp only [partsOn, List.filterMap_append, List.filterMap_cons, List.filterMap_nil, known, Option.bind_some]
  split <;> simp_all

section Groups

variable {groups : List (String × List Predicate)} {relation : String} {p : Predicate}

theorem lookup_addRelated (other : String) : (addRelated groups relation p).lookup other =
    if other = relation then some ((groups.lookup relation).getD [] ++ [p]) else groups.lookup other := by
  induction groups with
  | nil => by_cases asked : other = relation <;> simp [addRelated, List.lookup_cons, asked, beq_false_of_ne]
  | cons group rest ih =>
    obtain ⟨r, ps⟩ := group
    unfold addRelated
    split
    · rename_i same
      subst same
      by_cases asked : other = r <;> simp [List.lookup_cons, asked, beq_false_of_ne]
    · rename_i different
      rw [List.lookup_cons, List.lookup_cons, ih]
      by_cases asked : other = r
      · subst asked
        simp [different]
      · simp [List.lookup_cons, beq_false_of_ne asked, beq_false_of_ne (Ne.symm different)]

theorem map_fst_addRelated : (addRelated groups relation p).map Prod.fst =
    if relation ∈ groups.map Prod.fst then groups.map Prod.fst else groups.map Prod.fst ++ [relation] := by
  induction groups with
  | nil => rfl
  | cons group rest ih =>
    obtain ⟨r, ps⟩ := group
    unfold addRelated
    split
    · rename_i same
      simp [same]
    · rename_i different
      rw [List.map_cons, ih]
      split <;> simp_all [Ne.symm different]

theorem lookup_eq_some_of_mem {g : String × List Predicate} (distinct : (groups.map Prod.fst).Nodup)
    (member : g ∈ groups) : groups.lookup g.1 = some g.2 := by
  obtain ⟨front, back, rfl⟩ := List.append_of_mem member
  rw [List.map_append, List.map_cons, List.nodup_append] at distinct
  refine List.lookup_eq_some_iff.mpr ⟨front, back, rfl, fun other earlier => ?_⟩
  rw [bne_iff_ne]
  exact fun same => distinct.2.2 other.1 (List.mem_map_of_mem earlier) g.1 List.mem_cons_self same.symm

end Groups

/-- Whether placed predicates are those of some conditions: those on fields of the row itself, and for each
relation that some condition is on, a group of all that are. -/
structure Placed.Holds (s : Surface) (conditions : Conditions) (placed : Placed) : Prop where
  own : placed.own = partsOn s none conditions
  distinct : (placed.related.map Prod.fst).Nodup
  lookup : ∀ relation, placed.related.lookup relation =
    if partsOn s (some relation) conditions = [] then none else some (partsOn s (some relation) conditions)

theorem Placed.Holds.add {placed : Placed} {c : String × Condition} {d : FieldDef} (holds : placed.Holds s conditions)
    (known : s.field? c.1 = some d) : (placed.add d c.2).Holds s (conditions ++ [c]) := by
  obtain ⟨own, distinct, lookup⟩ := holds
  unfold Placed.add
  cases on : d.relation with
  | none => exact ⟨by simp [own, partsOn_concat known, on], distinct, by simp [lookup, partsOn_concat known, on]⟩
  | some relation =>
    refine ⟨by simp [own, partsOn_concat known, on], ?_, fun other => ?_⟩
    · dsimp only
      rw [map_fst_addRelated]
      split
      · exact distinct
      · -- the first condition on a relation begins a group of its own
        rename_i new
        exact List.nodup_append.mpr ⟨distinct, by simp, fun r member r' single => by
          rintro rfl
          exact new (List.mem_singleton.mp single ▸ member)⟩
    · dsimp only
      rw [lookup_addRelated, lookup, lookup, partsOn_concat known, on]
      by_cases asked : other = relation
      · subst asked
        by_cases first : partsOn s (some other) conditions = [] <;> simp [first]
      · simp [asked, Ne.symm asked]

/-- Places one condition next to those that are placed already. -/
def placeNext (s : Surface) (placed : Placed) (c : String × Condition) : Outcome Placed :=
  match s.field? c.1 with
  | some d => .ok (placed.add d c.2)
  | none => .error .missingKey

theorem place_eq : place s conditions = conditions.foldlM (placeNext s) {} := rfl

theorem placeNext_of_known {placed : Placed} {c : String × Condition} {d : FieldDef} (known : s.field? c.1 = some d) :
    placeNext s placed c = .ok (placed.add d c.2) := by
  rw [placeNext, known]

/-- Conditions on fields of a surface are placed by their relations. -/
theorem holds_of_place {placed : Placed} (made : place s conditions = .ok placed) : placed.Holds s conditions := by
  -- by induction on the conditions that are still to be placed, next to those that are placed already
  have onward : ∀ (rest done : Conditions) (placed placed' : Placed), placed.Holds s done →
      rest.foldlM (placeNext s) placed = .ok placed' → placed'.Holds s (done ++ rest) := by
    intro rest
    induction rest with
    | nil =>
      intro done placed placed' holds made
      cases made
      rwa [List.append_nil]
    | cons c rest ih =>
      intro done placed placed' holds made
      rw [List.foldlM_cons] at made
      obtain ⟨next, first, made⟩ := bind_eq_ok.mp made
      unfold placeNext at first
      split at first
      · rename_i d known
        cases first
        rw [List.append_cons]
        exact ih _ _ _ (holds.add known) made
      · cases first
  exact onward conditions [] {} placed ⟨rfl, List.nodup_nil, fun _ => rfl⟩ made

/-- Conditions on known fields can be placed. -/
theorem exists_place (known : ∀ c ∈ conditions, ∃ d, s.field? c.1 = some d) : ∃ placed, place s conditions = .ok placed := by
  have onward : ∀ placed : Placed, ∃ placed', conditions.foldlM (placeNext s) placed = .ok placed' := by
    induction conditions with
    | nil => exact fun placed => ⟨placed, rfl⟩
    | cons c rest ih =>
      obtain ⟨⟨d, first⟩, others⟩ := List.forall_mem_cons.mp known
      intro placed
      rw [List.foldlM_cons, placeNext_of_known first, ok_bind]
      exact ih others _
  exact onward {}

/-! ## Built predicates -/

section Built

variable {p : Predicate}

/-- The parts of the predicate of conditions are those on the row itself, and for each relation that some condition
is on, a single part that joins all that are. -/
theorem exists_parts_ofConditions (made : ofConditions s conditions = .ok p) : ∃ ps, p = .all ps ∧
    ∀ part, part ∈ ps ↔ part ∈ partsOn s none conditions ∨ ∃ relation, partsOn s (some relation) conditions ≠ [] ∧
      part = .related relation (.all (partsOn s (some relation) conditions)) := by
  obtain ⟨placed, place, made⟩ := bind_eq_ok.mp made
  cases made
  obtain ⟨own, distinct, lookup⟩ := holds_of_place place
  refine ⟨_, rfl, fun part => ?_⟩
  rw [List.mem_append, own]
  refine or_congr_right ⟨fun member => ?_, ?_⟩
  · -- a relation has one group only, so the group holds all conditions on the relation
    obtain ⟨g, grouped, rfl⟩ := List.mem_map.mp member
    have found := (lookup g.1).symm.trans (lookup_eq_some_of_mem distinct grouped)
    split at found
    · cases found
    · rename_i some
      exact ⟨g.1, some, by rw [Option.some.inj found]⟩
  · rintro ⟨relation, some, rfl⟩
    have found := lookup relation
    rw [if_neg some] at found
    exact List.mem_map.mpr ⟨_, mem_of_lookup found, rfl⟩

theorem eq_any_of_ofTerm {term : Option String} {fields : List String} {search : Predicate}
    (made : ofTerm term fields = some search) : ∃ t ∈ term, fields ≠ [] ∧
      search = .any (fields.map fun field => .contains field (.text (Text.strip t))) := by
  unfold ofTerm at made
  split at made
  · cases made
  · dsimp only at made
    split at made
    · cases made
    · rename_i given
      cases made
      exact ⟨_, rfl, fun none => given (.inr (List.isEmpty_iff.mpr none)), rfl⟩

theorem mem_conjuncts_ofTerm {term : Option String} {fields : List String} {search part : Predicate}
    (made : ofTerm term fields = some search) : part ∈ search.conjuncts ↔ part = search := by
  obtain ⟨_, _, _, rfl⟩ := eq_any_of_ofTerm made
  exact List.mem_singleton

/-- The parts of the predicate of a query are what every row of the surface satisfies, the parts of its conditions,
and the search for its term. -/
theorem exists_parts_ofQuery {q : Query} (made : ofQuery s q = .ok p) : ∃ ps, p = .all ps ∧
    ∀ part, part ∈ ps ↔ (∃ f ∈ s.baseValues, part = .equals f.1 f.2) ∨ part ∈ partsOn s none q.conditions ∨
      (∃ relation, partsOn s (some relation) q.conditions ≠ [] ∧
        part = .related relation (.all (partsOn s (some relation) q.conditions))) ∨
      ofTerm q.term s.searchFields = some part := by
  obtain ⟨_, ofConditions, merged⟩ := bind_eq_ok.mp made
  cases merged
  obtain ⟨ps, rfl, parts⟩ := exists_parts_ofConditions ofConditions
  refine ⟨_, rfl, fun part => ?_⟩
  have based : part ∈ (base s).conjuncts ↔ ∃ f ∈ s.baseValues, part = .equals f.1 f.2 := by
    simp only [base, conjuncts, List.mem_map, eq_comm]
  have searched : (∃ search, ofTerm q.term s.searchFields = some search ∧ part ∈ search.conjuncts) ↔
      ofTerm q.term s.searchFields = some part := by
    constructor
    · rintro ⟨search, made, member⟩
      rw [(mem_conjuncts_ofTerm made).mp member]
      exact made
    · exact fun made => ⟨part, made, (mem_conjuncts_ofTerm made).mpr rfl⟩
  rw [← based, ← searched, ← or_assoc (a := part ∈ partsOn s none q.conditions), ← parts part]
  cases ofTerm q.term s.searchFields <;> simp [conjuncts]

end Built

/-! ## What built predicates hold of -/

section Holding

variable {H : Predicate → Prop} (conjunctive : ∀ ps, H (.all ps) ↔ ∀ p ∈ ps, H p) {p : Predicate}
include conjunctive

/-- The conditions of a query hold if those on the row itself do, and for each relation all conditions on it
hold together. -/
theorem holds_ofConditions (made : ofConditions s conditions = .ok p) : H p ↔
    (∀ q ∈ partsOn s none conditions, H q) ∧ ∀ relation, partsOn s (some relation) conditions ≠ [] →
      H (.related relation (.all (partsOn s (some relation) conditions))) := by
  obtain ⟨ps, rfl, parts⟩ := exists_parts_ofConditions made
  simp only [conjunctive, parts, or_imp, forall_and, forall_exists_index, and_imp]
  refine and_congr_right fun _ => ⟨fun all relation some => ?_, fun all part relation some same => ?_⟩
  · exact all _ relation some rfl
  · exact same ▸ all relation some

/-- The predicate of a query holds of the rows of its surface that satisfy its conditions, and in which its term
is found. -/
theorem holds_ofQuery {q : Query} (made : ofQuery s q = .ok p) : H p ↔
    (∀ f ∈ s.baseValues, H (.equals f.1 f.2)) ∧ (∀ part ∈ partsOn s none q.conditions, H part) ∧
      (∀ relation, partsOn s (some relation) q.conditions ≠ [] →
        H (.related relation (.all (partsOn s (some relation) q.conditions)))) ∧
      ∀ search, ofTerm q.term s.searchFields = some search → H search := by
  obtain ⟨ps, rfl, parts⟩ := exists_parts_ofQuery made
  simp only [conjunctive, parts, or_imp, forall_and]
  refine and_congr ⟨fun all f given => all _ ⟨f, given, rfl⟩, ?_⟩ (and_congr_right fun _ => and_congr_left fun _ =>
    ⟨fun all relation some => all _ ⟨relation, some, rfl⟩, ?_⟩)
  · rintro all _ ⟨f, given, rfl⟩
    exact all f given
  · rintro all _ ⟨relation, some, rfl⟩
    exact all relation some

end Holding

end Venues.Predicate
