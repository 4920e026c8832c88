import Venues.Proofs.Predicate.Parts
import Venues.Proofs.Store.Keyset
import Venues.Proofs.Surface.Conditions
import Venues.Selection

/-! # Compiling accepted queries

The predicate of a query that a surface accepts is compiled to a formula without faults, as long as no
condition asks for a range of truth values or for a whole number that has more than 64 bits.
-/

namespace Venues

open Store (Model Formula Cell Form Comparison)
open Store (compile compileParts compareFormula boundFormula containsFormula bindAll bindTo)

/-! ## Conditions -/

/-- Whether the store can test a condition: there are no ranges of truth values, and whole numbers have
at most 64 bits. -/
def Condition.IsTestable (kind : FieldKind) : Condition → Prop
  | .equals v => v.isBounded = true
  | .range least most => kind ≠ .truth ∧ least.isBounded = true ∧ most.isBounded = true
  | .oneOf vs => ∀ v ∈ vs, v.isBounded = true
  | .contains _ => True

instance (kind : FieldKind) : (c : Condition) → Decidable (c.IsTestable kind)
  | .equals v => inferInstanceAs (Decidable (v.isBounded = true))
  | .range least most =>
    inferInstanceAs (Decidable (kind ≠ .truth ∧ least.isBounded = true ∧ most.isBounded = true))
  | .oneOf vs => inferInstanceAs (Decidable (∀ v ∈ vs, v.isBounded = true))
  | .contains _ => isTrue trivial

theorem FieldKind.isBounded_of_admits {kind : FieldKind} {v : Value} (other : kind ≠ .whole)
    (admitted : kind.admits v = true) : v.isBounded = true := by
  cases kind <;> cases v <;> simp_all [FieldKind.admits, Value.isBounded]

/-- Where no whole numbers are kept, only ranges of truth values cannot be tested. -/
theorem Condition.isTestable_of_isOf {kind : FieldKind} {c : Condition} (other : kind ≠ .whole) (typed : c.IsOf kind)
    (untrue : kind = .truth → ∀ least most, c ≠ .range least most) : c.IsTestable kind := by
  have bounded {v : Value} (admitted : kind.admits v = true) : v.isBounded = true :=
    FieldKind.isBounded_of_admits other admitted
  have bound {v : Value} (typed : v.isNull = true ∨ kind.admits v = true) : v.isBounded = true := by
    rcases typed with null | admitted
    · cases v <;> first | rfl | cases null
    · exact bounded admitted
  cases c with
  | equals v => exact bounded typed
  | range least most => exact ⟨fun truth => untrue truth least most rfl, bound typed.1, bound typed.2⟩
  | oneOf vs => exact fun v listed => bounded (typed v listed)
  | contains needle => trivial

/-- Whether the store can test the conditions on the fields of a surface. -/
def Surface.Testable (s : Surface) (conditions : Conditions) : Prop :=
  ∀ c ∈ conditions, ∀ d, s.field? c.1 = some d → c.2.IsTestable d.kind

instance (s : Surface) (conditions : Conditions) : Decidable (s.Testable conditions) :=
  inferInstanceAs (Decidable (∀ c ∈ conditions, ∀ d ∈ s.field? c.1, c.2.IsTestable d.kind))

namespace Store

variable {m : Model} {kind : FieldKind} {column : String}

theorem Form.of_eq_ofKind {v : Value} (admitted : kind.admits v = true) : Form.of kind v = .ofKind kind := by
  cases kind <;> cases v <;> first | rfl | simp_all [FieldKind.admits]

/-- Values of a kind are handed over together as they are one by one. -/
theorem bindAll_eq_mapM {vs : List Value} (admitted : ∀ v ∈ vs, kind.admits v = true) :
    bindAll kind vs = vs.mapM (bindTo kind) := by
  have present : vs.any Value.isNull = false := by
    rw [List.any_eq_false]
    exact fun v member => by simp [FieldKind.isNull_of_admits (admitted v member)]
  -- the form is chosen by the first value, and all values of a kind have the same one
  have first : ∀ v ∈ vs, Form.of kind (vs.headD .null) = Form.of kind v := by
    intro v member
    cases vs with
    | nil => cases member
    | cons w ws =>
      rw [List.headD_cons, Form.of_eq_ofKind (admitted w List.mem_cons_self),
        Form.of_eq_ofKind (admitted v member)]
  have handed : (vs.map fun v => ((Form.of kind (vs.headD .null)).bind v).map (Cell.adapted kind)) =
      vs.map (bindTo kind) := List.map_congr_left fun v member => by rw [first v member, bindTo]
  have taken : ∀ v ∈ vs, isRefused (bindTo kind v) = false := by
    intro v member
    cases bounded : v.isBounded with
    | true => rw [bindTo_of_admits (admitted v member) bounded]; rfl
    | false => rw [bindTo_eq_overflow (admitted v member) bounded]; rfl
  unfold bindAll
  simp only [present, Bool.false_eq_true, if_false, handed]
  rw [if_neg (by simpa using taken), List.mapM_map]
  rfl

theorem bindAll_of_admits {vs : List Value} (admitted : ∀ v ∈ vs, kind.admits v = true)
    (bounded : ∀ v ∈ vs, v.isBounded = true) : bindAll kind vs = .ok (vs.map Cell.ofValue) := by
  rw [bindAll_eq_mapM admitted]
  exact mapM_eq_ok fun v member => bindTo_of_admits (admitted v member) (bounded v member)

theorem bindAll_eq_overflow {vs : List Value} {long : Value} (admitted : ∀ v ∈ vs, kind.admits v = true)
    (given : long ∈ vs) (overflows : long.isBounded = false) : bindAll kind vs = .error .overflow := by
  rw [bindAll_eq_mapM admitted]
  cases handed : vs.mapM (bindTo kind) with
  | ok cells =>
    obtain ⟨cell, _, bound⟩ := exists_mem_of_mapM handed long given
    rw [bindTo_eq_overflow (admitted long given) overflows] at bound
    cases bound
  | error fault =>
    -- whichever value stops first, it is one that is too long
    obtain ⟨v, member, stops⟩ := exists_error_of_mapM handed
    cases bounded : v.isBounded with
    | true =>
      rw [bindTo_of_admits (admitted v member) bounded] at stops
      cases stops
    | false =>
      rw [bindTo_eq_overflow (admitted v member) bounded] at stops
      cases stops
      rfl

/-- Whether a predicate on the rows of a model becomes a formula without faults. -/
def Compiles (m : Model) (p : Predicate) : Prop := ∃ f, compile m p = .ok f ∧ f.faults = []

/-- The formulas of a bound of a range with values of the kind of the column; none for an open one. -/
def boundFormulas (column : String) (how : Comparison) (bound : Value) : List Formula :=
  if bound.isNull then [] else [.compare column how (Cell.ofValue bound)]

/-- The formula of a condition with values of the kind of the column. -/
def conditionFormula (column : String) : Condition → Formula
  | .equals v => .compare column .equal (Cell.ofValue v)
  | .range least most =>
    let bounds := boundFormulas column .atLeast least ++ boundFormulas column .atMost most
    if bounds.isEmpty then .isPresent column else .all bounds
  | .oneOf vs => .isIn column (vs.map Cell.ofValue)
  | .contains needle => .like column (Like.holding needle.toList)

theorem boundFormula_eq {how : Comparison} {bound : Value}
    (admitted : bound.isNull = true ∨ kind.admits bound = true) (bounded : bound.isBounded = true)
    (ordered : kind ≠ .truth) : boundFormula column kind how bound = .ok (boundFormulas column how bound) := by
  unfold boundFormula boundFormulas
  split
  · rfl
  · rename_i present
    rw [compareFormula_of_admits (admitted.resolve_left present) bounded fun truth => absurd truth ordered]
    rfl

/-- A condition on a column, with values of the kind of the column, becomes its formula. -/
theorem compile_ofCondition {c : Condition} (known : m.column? column = some kind) (typed : c.IsOf kind)
    (testable : c.IsTestable kind) : compile m (.ofCondition column c) = .ok (conditionFormula column c) := by
  have kindOf : m.kindOf column = .ok kind := by rw [Model.kindOf, known]
  cases c with
  | equals v =>
    have compared := @compareFormula_of_admits kind column .equal v typed testable fun _ => rfl
    simp only [Predicate.ofCondition, compile, kindOf, compared, ok_bind, conditionFormula]
  | range least most =>
    obtain ⟨ordered, leastBounded, mostBounded⟩ := testable
    have low := @boundFormula_eq kind column .atLeast least typed.1 leastBounded ordered
    have high := @boundFormula_eq kind column .atMost most typed.2 mostBounded ordered
    simp only [Predicate.ofCondition, compile, kindOf, low, high, ok_bind, conditionFormula]
  | oneOf vs =>
    have present : vs.any Value.isNull = false := by
      rw [List.any_eq_false]
      exact fun v member => by simp [FieldKind.isNull_of_admits (typed v member)]
    simp only [Predicate.ofCondition, compile, kindOf, ok_bind, present, Bool.false_and, Bool.false_eq_true,
      if_false, bindAll_of_admits typed testable, Formula.with, conditionFormula]
  | contains needle =>
    cases typed
    simp only [Predicate.ofCondition, compile, kindOf, ok_bind]
    rfl

theorem faults_conditionFormula (column : String) (c : Condition) : (conditionFormula column c).faults = [] := by
  cases c with
  | range least most =>
    have clean (how : Comparison) (bound : Value) : ∀ f ∈ boundFormulas column how bound, f.faults = [] := by
      unfold boundFormulas
      split <;> simp [Formula.faults]
    unfold conditionFormula
    dsimp only
    split
    · rfl
    · exact Formula.partFaults_eq_nil_iff.mpr (List.forall_mem_append.mpr ⟨clean _ _, clean _ _⟩)
  | _ => rfl

theorem compiles_ofCondition {c : Condition} (known : m.column? column = some kind) (typed : c.IsOf kind)
    (testable : c.IsTestable kind) : Compiles m (.ofCondition column c) :=
  ⟨_, compile_ofCondition known typed testable, faults_conditionFormula column c⟩

/-! ## Joined predicates -/

theorem compileParts_spec {ps : List Predicate} (each : ∀ p ∈ ps, Compiles m p) :
    ∃ fs, compileParts m ps = .ok fs ∧ ∀ f ∈ fs, f.faults = [] := by
  induction ps with
  | nil => exact ⟨[], rfl, by simp⟩
  | cons p ps ih =>
    obtain ⟨⟨f, made, clean⟩, each⟩ := List.forall_mem_cons.mp each
    obtain ⟨fs, rest, others⟩ := ih each
    exact ⟨f :: fs, by simp only [compileParts, made, rest, ok_bind],
      List.forall_mem_cons.mpr ⟨clean, others⟩⟩

theorem compiles_all {ps : List Predicate} (each : ∀ p ∈ ps, Compiles m p) : Compiles m (.all ps) := by
  obtain ⟨fs, made, clean⟩ := compileParts_spec each
  exact ⟨_, by simp only [compile, made, ok_bind], Formula.faults_conjunction clean⟩

theorem compiles_any {ps : List Predicate} (each : ∀ p ∈ ps, Compiles m p) : Compiles m (.any ps) := by
  obtain ⟨fs, made, clean⟩ := compileParts_spec each
  exact ⟨_, by simp only [compile, made, ok_bind], Formula.faults_disjunction clean⟩

theorem compiles_related {relation : String} {target : Model} {p : Predicate}
    (leads : m.relation? relation = some target) (inner : Compiles target p) :
    Compiles m (.related relation p) := by
  obtain ⟨f, made, clean⟩ := inner
  exact ⟨.related relation f, by simp only [compile, leads, made, ok_bind], clean⟩

end Store

/-! ## Surfaces -/

open Store (Compiles compiles_ofCondition compiles_all compiles_any compiles_related)

/-- The model in whose rows a field is found. -/
def FieldDef.target? (d : FieldDef) (m : Model) : Option Model :=
  match d.relation with
  | some r => m.relation? r
  | none => some m

/-- Whether what a surface registers is there in the rows of a model: each field is a column of its
kind, there or in the rows of a relation; the base values are null; terms are looked for in texts; the
sort columns have an order; and rows are told apart by their identity. -/
structure Surface.Describes (s : Surface) (m : Model) : Prop where
  relational : s.backend = .relational
  identified : s.idField = "id"
  fields : ∀ f ∈ s.fields, (f.2.target? m).bind (·.column? f.2.column) = some f.2.kind
  base : ∀ f ∈ s.baseValues, f.2.isNull = true ∧ (m.column? f.1).isSome = true
  searched : ∀ column ∈ s.searchFields, m.column? column = some .text
  sorted : ∀ c ∈ s.sortColumns, (m.column? c.2).any (· ≠ .truth) = true ∧ c.2 ≠ s.idField
  related : ∀ r ∈ s.relations, (m.relation? r).isSome = true

theorem Surface.describes_facility : Surface.facilityListing.Describes .facility where
  relational := rfl
  identified := rfl
  fields := by decide
  base := by decide
  searched := by decide
  sorted := by decide
  related := by decide

theorem Surface.describes_court : Surface.courtListing.Describes .court where
  relational := rfl
  identified := rfl
  fields := by decide
  base := by decide
  searched := by decide
  sorted := by decide
  related := by decide

namespace Predicate

variable {s : Surface} {m : Model} {conditions : Conditions}

/-! ### Families of predicates -/

/-- A family of predicates on the rows of each model, which goes on to predicates that are joined, and to
those on the rows that a relation leads to. -/
structure IsClosed (P : Model → Predicate → Prop) : Prop where
  all : ∀ {m : Model} {ps : List Predicate}, (∀ p ∈ ps, P m p) → P m (.all ps)
  any : ∀ {m : Model} {ps : List Predicate}, (∀ p ∈ ps, P m p) → P m (.any ps)
  related : ∀ {m target : Model} {relation : String} {p : Predicate}, m.relation? relation = some target →
    P target p → P m (.related relation p)

theorem isClosed_compiles : IsClosed Compiles := ⟨compiles_all, compiles_any, compiles_related⟩

variable {P : Model → Predicate → Prop}

/-- Whether placed predicates belong to a family, those on a relation in the rows it leads to. -/
def Placed.AllHold (P : Model → Predicate → Prop) (m : Model) (placed : Placed) : Prop :=
  (∀ p ∈ placed.own, P m p) ∧
    ∀ g ∈ placed.related, ∃ target, m.relation? g.1 = some target ∧ ∀ p ∈ g.2, P target p

/-- Adding a predicate on a relation keeps the groups in the family. -/
theorem addRelated_holds {groups : List (String × List Predicate)} {relation : String} {p : Predicate}
    {target : Model} (leads : m.relation? relation = some target) (holds : P target p)
    (all : ∀ g ∈ groups, ∃ target, m.relation? g.1 = some target ∧ ∀ p ∈ g.2, P target p) :
    ∀ g ∈ addRelated groups relation p, ∃ target, m.relation? g.1 = some target ∧ ∀ p ∈ g.2, P target p := by
  induction groups with
  | nil => simpa [addRelated] using ⟨target, leads, holds⟩
  | cons group rest ih =>
    obtain ⟨r, ps⟩ := group
    obtain ⟨⟨target', leads', holds'⟩, all⟩ := List.forall_mem_cons.mp all
    unfold addRelated
    split
    · rename_i same
      subst same
      cases leads.symm.trans leads'
      refine List.forall_mem_cons.mpr ⟨⟨target, leads, ?_⟩, all⟩
      exact List.forall_mem_append.mpr ⟨holds', by simpa using holds⟩
    · exact List.forall_mem_cons.mpr ⟨⟨target', leads', holds'⟩, ih all⟩

/-- Whether a family has the predicates of conditions, each on the column of its field. -/
def Covers (P : Model → Predicate → Prop) (s : Surface) (m : Model) (conditions : Conditions) : Prop :=
  ∀ c ∈ conditions, ∀ d target, s.field? c.1 = some d → d.target? m = some target →
    target.column? d.column = some d.kind → c.2.IsOf d.kind → P target (.ofCondition d.column c.2)

theorem covers_compiles (testable : s.Testable conditions) : Covers Compiles s m conditions :=
  fun c member d _ known _ column typed => compiles_ofCondition column typed (testable c member d known)

/-- Accepted conditions are placed, and what is placed belongs to a family that covers them. -/
theorem place_spec (describes : s.Describes m) (accepted : s.Accepted conditions)
    (covers : Covers P s m conditions) :
    ∃ placed, place s conditions = .ok placed ∧ placed.AllHold P m := by
  -- by induction on the conditions that are left, whatever was placed before
  have onward : ∀ placed : Placed, placed.AllHold P m → ∃ placed',
      conditions.foldlM (placeNext s) placed = .ok placed' ∧ placed'.AllHold P m := by
    induction conditions with
    | nil => exact fun placed all => ⟨placed, rfl, all⟩
    | cons c rest ih =>
      obtain ⟨⟨d, known, typed⟩, accepted⟩ := List.forall_mem_cons.mp accepted
      obtain ⟨first, covers⟩ := List.forall_mem_cons.mp covers
      intro placed all
      obtain ⟨target, leads, column⟩ := Option.bind_eq_some_iff.mp (describes.fields _ (mem_of_lookup known))
      have holds := first d target known leads column typed
      rw [List.foldlM_cons, placeNext_of_known known, ok_bind]
      refine ih accepted covers _ ?_
      unfold Placed.add
      unfold FieldDef.target? at leads
      split
      · rename_i r relation
        simp only [relation] at leads
        exact ⟨all.1, addRelated_holds leads holds all.2⟩
      · rename_i relation
        simp only [relation, Option.some_inj] at leads
        subst leads
        exact ⟨List.forall_mem_append.mpr ⟨all.1, by simpa using holds⟩, all.2⟩
  exact onward {} ⟨by simp, by simp⟩

theorem exists_ofConditions (closed : IsClosed P) (describes : s.Describes m) (accepted : s.Accepted conditions)
    (covers : Covers P s m conditions) : ∃ ps, ofConditions s conditions = .ok (.all ps) ∧ ∀ p ∈ ps, P m p := by
  obtain ⟨placed, made, own, related⟩ := place_spec describes accepted covers
  refine ⟨_, by rw [ofConditions, made]; rfl, List.forall_mem_append.mpr ⟨own, ?_⟩⟩
  intro p member
  obtain ⟨g, grouped, rfl⟩ := List.mem_map.mp member
  obtain ⟨target, leads, holds⟩ := related g grouped
  exact closed.related leads (closed.all holds)

theorem base_spec (each : ∀ f ∈ s.baseValues, P m (.equals f.1 f.2)) :
    ∃ ps, base s = .all ps ∧ ∀ p ∈ ps, P m p := by
  refine ⟨_, rfl, fun p member => ?_⟩
  obtain ⟨f, registered, rfl⟩ := List.mem_map.mp member
  exact each f registered

/-- The search for a term joins what a family has for each column that is searched. -/
theorem ofTerm_spec (closed : IsClosed P) {term : Option String} {fields : List String} {p : Predicate}
    (each : ∀ t ∈ term, ∀ column ∈ fields, P m (.contains column (.text (Text.strip t))))
    (made : ofTerm term fields = some p) : ∀ q ∈ p.conjuncts, P m q := by
  obtain ⟨t, given, _, rfl⟩ := eq_any_of_ofTerm made
  refine List.forall_mem_singleton.mpr (closed.any fun p member => ?_)
  obtain ⟨column, searched, rfl⟩ := List.mem_map.mp member
  exact each t given column searched

theorem merge_spec (closed : IsClosed P) {ps : List (Option Predicate)}
    (each : ∀ p, some p ∈ ps → ∀ q ∈ p.conjuncts, P m q) : P m (merge ps) := by
  refine closed.all fun q member => ?_
  obtain ⟨p, member, part⟩ := List.mem_flatMap.mp member
  obtain ⟨p', given, rfl⟩ := List.mem_filterMap.mp member
  exact each p given q part

/-- The predicate of a query with accepted conditions belongs to every family that has its parts. -/
theorem exists_ofQuery (closed : IsClosed P) {q : Query} (describes : s.Describes m)
    (accepted : s.Accepted q.conditions) (covers : Covers P s m q.conditions)
    (base : ∀ f ∈ s.baseValues, P m (.equals f.1 f.2))
    (term : ∀ t ∈ q.term, ∀ column ∈ s.searchFields, P m (.contains column (.text (Text.strip t)))) :
    ∃ p, ofQuery s q = .ok p ∧ P m p := by
  obtain ⟨ps, made, holds⟩ := exists_ofConditions closed describes accepted covers
  obtain ⟨bs, based, holdsBase⟩ := base_spec base
  refine ⟨_, by rw [ofQuery, made]; rfl, merge_spec closed fun p member => ?_⟩
  simp only [List.mem_cons, Option.some_inj, List.not_mem_nil, or_false] at member
  rcases member with rfl | rfl | searched
  · rwa [based]
  · exact holds
  · exact ofTerm_spec closed term searched.symm

/-! ### Compilation -/

theorem ofConditions_spec (describes : s.Describes m) (accepted : s.Accepted conditions)
    (testable : s.Testable conditions) :
    ∃ ps, ofConditions s conditions = .ok (.all ps) ∧ ∀ p ∈ ps, Compiles m p :=
  exists_ofConditions isClosed_compiles describes accepted (covers_compiles testable)

theorem compiles_baseValue (describes : s.Describes m) : ∀ f ∈ s.baseValues, Compiles m (.equals f.1 f.2) := by
  intro f registered
  obtain ⟨null, known⟩ := describes.base f registered
  obtain ⟨kind, known⟩ := Option.isSome_iff_exists.mp known
  have null : f.2 = .null := by cases h : f.2 <;> simp_all [Value.isNull]
  refine ⟨.isNull f.1, ?_, rfl⟩
  simp only [compile, Model.kindOf, known, null, compareFormula, ok_bind]

theorem compiles_base (describes : s.Describes m) :
    ∃ ps, base s = .all ps ∧ ∀ p ∈ ps, Compiles m p :=
  base_spec (compiles_baseValue describes)

theorem compiles_merge {ps : List (Option Predicate)}
    (each : ∀ p, some p ∈ ps → ∀ q ∈ p.conjuncts, Compiles m q) : Compiles m (merge ps) :=
  merge_spec isClosed_compiles each

/-- The predicate of a query with accepted conditions compiles. -/
theorem compiles_ofQuery {q : Query} (describes : s.Describes m) (accepted : s.Accepted q.conditions)
    (testable : s.Testable q.conditions) : ∃ p, ofQuery s q = .ok p ∧ Compiles m p :=
  exists_ofQuery isClosed_compiles describes accepted (covers_compiles testable) (compiles_baseValue describes)
    fun _ _ column searched =>
      @compiles_ofCondition m .text column (.contains _) (describes.searched column searched) rfl trivial

end Predicate
end Venues
