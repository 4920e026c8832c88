import Venues.Proofs.Store.Compile

/-! # What stops an accepted query

Of what a surface accepts, two things stop the store. A range of truth values has no formula, since truth values
have no order. And a whole number of more than 64 bits cannot be handed over, so the formula has a fault. The
predicate of a query is stopped exactly if one of its conditions is.
-/

namespace Venues

open Store (Model Formula Cell Comparison Compiles)
open Store (compile compileParts compareFormula boundFormula bindAll bindTo)

/-! ## Conditions -/

namespace Condition

/-- Whether a condition asks for an order of truth values. -/
def OrdersTruth (kind : FieldKind) : Condition → Prop
  | .range least most => kind = .truth ∧ (least.isNull = false ∨ most.isNull = false)
  | .equals _ | .oneOf _ | .contains _ => False

/-- Whether the whole numbers of a condition have at most 64 bits. -/
def IsBounded : Condition → Prop
  | .equals v => v.isBounded = true
  | .range least most => least.isBounded = true ∧ most.isBounded = true
  | .oneOf vs => ∀ v ∈ vs, v.isBounded = true
  | .contains _ => True

end Condition

namespace Store

variable {m target : Model} {kind : FieldKind} {column relation : String} {p : Predicate} {ps : List Predicate}

/-! ## Formulas of conditions -/

/-- Whether a formula is not true of no row to begin with, and has the fault of numbers that are too long exactly
unless a statement holds. -/
structure Formula.Tests (short : Prop) (f : Formula) : Prop where
  stands : f.isFalse = false
  overflows : ∀ fault ∈ f.faults, fault = .overflow
  clean : f.faults = [] ↔ short

theorem Formula.tests_of_clean {short : Prop} {f : Formula} (stands : f.isFalse = false) (clean : f.faults = [])
    (holds : short) : f.Tests short :=
  ⟨stands, by simp [clean], iff_of_true clean holds⟩

theorem Formula.tests_broken {short : Prop} (fails : ¬short) : (Formula.broken .overflow).Tests short :=
  ⟨rfl, fun _ member => List.mem_singleton.mp member, iff_of_false (List.cons_ne_nil _ _) fails⟩

theorem Formula.tests_bounds {short : Prop} {fs : List Formula}
    (overflows : ∀ f ∈ fs, ∀ fault ∈ f.faults, fault = .overflow) (clean : (∀ f ∈ fs, f.faults = []) ↔ short) :
    (if fs.isEmpty then Formula.isPresent column else .all fs).Tests short := by
  cases fs with
  | nil => exact tests_of_clean rfl rfl (clean.mp (by simp))
  | cons f fs =>
    refine ⟨rfl, fun fault member => ?_, partFaults_eq_nil_iff.trans clean⟩
    obtain ⟨g, part, member⟩ := mem_partFaults.mp member
    exact overflows g part fault member

/-- A value of the kind of a column is compared with it, unless truth values are put in order. -/
theorem compareFormula_cases {how : Comparison} {v : Value} (admitted : kind.admits v = true) :
    (kind = .truth ∧ how ≠ .equal ∧ compareFormula column kind how v = .error .misusedColumn) ∨
    ((kind = .truth → how = .equal) ∧
      ∃ f, compareFormula column kind how v = .ok f ∧ f.Tests (v.isBounded = true)) := by
  -- truth values are compared for equality only; all else is compared, if it has at most 64 bits
  by_cases ordered : kind = .truth ∧ how ≠ .equal
  · obtain ⟨rfl, other⟩ := ordered
    refine .inl ⟨rfl, other, ?_⟩
    cases v with
    | bool b => cases how <;> first | rfl | exact absurd rfl other
    | _ => cases admitted
  · replace ordered : kind = .truth → how = .equal := fun truth => of_not_not fun other => ordered ⟨truth, other⟩
    refine .inr ⟨ordered, ?_⟩
    cases bounded : v.isBounded with
    | true => exact ⟨_, compareFormula_of_admits admitted bounded ordered, Formula.tests_of_clean rfl rfl rfl⟩
    | false =>
      have long := bindTo_eq_overflow admitted bounded
      refine ⟨_, ?_, Formula.tests_broken (by simp)⟩
      cases v with
      | int n => simp only [compareFormula, long, Formula.with]
      | _ => cases bounded

/-- The formulas of a bound, unless truth values are put in order by it. -/
theorem boundFormula_cases {how : Comparison} {bound : Value} (other : how ≠ .equal)
    (typed : bound.isNull = true ∨ kind.admits bound = true) :
    (kind = .truth ∧ bound.isNull = false ∧ boundFormula column kind how bound = .error .misusedColumn) ∨
    ((kind = .truth → bound.isNull = true) ∧ ∃ fs, boundFormula column kind how bound = .ok fs ∧
      (∀ f ∈ fs, ∀ fault ∈ f.faults, fault = .overflow) ∧
      ((∀ f ∈ fs, f.faults = []) ↔ bound.isBounded = true)) := by
  unfold boundFormula
  cases absent : bound.isNull with
  | true =>
    have bounded : bound.isBounded = true := by cases bound <;> first | rfl | cases absent
    exact .inr ⟨fun _ => rfl, [], rfl, by simp, by simp [bounded]⟩
  | false =>
    rcases @compareFormula_cases kind column how bound (typed.resolve_left (by simp [absent])) with
      ⟨truth, _, refused⟩ | ⟨ordered, f, made, tests⟩
    · exact .inl ⟨truth, rfl, by simp only [refused]; rfl⟩
    · refine .inr ⟨fun truth => absurd (ordered truth) other, [f], by simp only [made]; rfl, ?_, ?_⟩
      · exact List.forall_mem_singleton.mpr tests.overflows
      · exact List.forall_mem_singleton.trans tests.clean

/-- What becomes of a condition on a column with values of the kind of the column. -/
theorem compile_ofCondition_cases {c : Condition} (known : m.column? column = some kind) (typed : c.IsOf kind) :
    (c.OrdersTruth kind ∧ compile m (.ofCondition column c) = .error .misusedColumn) ∨
    (¬c.OrdersTruth kind ∧ ∃ f, compile m (.ofCondition column c) = .ok f ∧ f.Tests c.IsBounded) := by
  have kindOf : m.kindOf column = .ok kind := by rw [Model.kindOf, known]
  cases c with
  | equals v =>
    rcases @compareFormula_cases kind column .equal v typed with ⟨_, other, _⟩ | ⟨_, f, made, tests⟩
    · exact absurd rfl other
    · exact .inr ⟨id, f, by simp only [Predicate.ofCondition, compile, kindOf, made, ok_bind], tests⟩
  | range least most =>
    -- the bounds are tried in turn, and either of them stops the range
    rcases @boundFormula_cases kind column .atLeast least (by decide) typed.1 with
      ⟨truth, given, refused⟩ | ⟨openLow, low, madeLow, lowFaults, lowClean⟩
    · refine .inl ⟨⟨truth, .inl given⟩, ?_⟩
      simp only [Predicate.ofCondition, compile, kindOf, refused, ok_bind]
      rfl
    · rcases @boundFormula_cases kind column .atMost most (by decide) typed.2 with
        ⟨truth, given, refused⟩ | ⟨openHigh, high, madeHigh, highFaults, highClean⟩
      · refine .inl ⟨⟨truth, .inr given⟩, ?_⟩
        simp only [Predicate.ofCondition, compile, kindOf, madeLow, refused, ok_bind]
        rfl
      · refine .inr ⟨?_, if (low ++ high).isEmpty then .isPresent column else .all (low ++ high),
          by simp only [Predicate.ofCondition, compile, kindOf, madeLow, madeHigh, ok_bind], ?_⟩
        · rintro ⟨truth, given | given⟩
          · rw [openLow truth] at given
            cases given
          · rw [openHigh truth] at given
            cases given
        · refine Formula.tests_bounds (List.forall_mem_append.mpr ⟨lowFaults, highFaults⟩) ?_
          rw [List.forall_mem_append, lowClean, highClean]
          rfl
  | oneOf vs =>
    have present : vs.any Value.isNull = false := by
      rw [List.any_eq_false]
      exact fun v member => by simp [FieldKind.isNull_of_admits (typed v member)]
    have made : compile m (.ofCondition column (.oneOf vs)) = .ok (.with (bindAll kind vs) (.isIn column)) := by
      simp only [Predicate.ofCondition, compile, kindOf, ok_bind, present, Bool.false_and, Bool.false_eq_true, if_false]
    refine .inr ⟨id, _, made, ?_⟩
    by_cases bounded : ∀ v ∈ vs, v.isBounded = true
    · rw [bindAll_of_admits typed bounded]
      exact Formula.tests_of_clean rfl rfl bounded
    · obtain ⟨long, given, overflows⟩ : ∃ v ∈ vs, v.isBounded = false := by simpa using bounded
      rw [bindAll_eq_overflow typed given overflows]
      exact Formula.tests_broken bounded
  | contains needle =>
    exact .inr ⟨id, _, compile_ofCondition known typed trivial, Formula.tests_of_clean rfl rfl trivial⟩

/-! ## Joined predicates -/

/-- Whether all that can stop a predicate are truth values in order and numbers that are too long. -/
def IsPlain (m : Model) (p : Predicate) : Prop :=
  compile m p = .error .misusedColumn ∨
    ∃ f, compile m p = .ok f ∧ f.isFalse = false ∧ ∀ fault ∈ f.faults, fault = .overflow

def HasFormula (m : Model) (p : Predicate) : Prop := ∃ f, compile m p = .ok f

theorem compileParts_eq_mapM : compileParts m ps = ps.mapM (compile m) := by
  induction ps with
  | nil => rfl
  | cons p ps ih =>
    rw [compileParts, ih, List.mapM_cons]
    rfl

theorem compile_all : compile m (.all ps) = (ps.mapM (compile m)).map Formula.conjunction := by
  rw [compile, compileParts_eq_mapM]
  rfl

theorem compile_related (leads : m.relation? relation = some target) :
    compile m (.related relation p) = (compile target p).map (Formula.related relation) := by
  simp only [compile, leads]
  rfl

theorem isPlain_all (plain : ∀ p ∈ ps, IsPlain m p) : IsPlain m (.all ps) := by
  rw [IsPlain, compile_all]
  cases compiled : ps.mapM (compile m) with
  | error fault =>
    obtain ⟨p, part, stops⟩ := exists_error_of_mapM compiled
    rcases plain p part with refused | ⟨f, made, _⟩
    · cases refused.symm.trans stops
      exact .inl rfl
    · cases made.symm.trans stops
  | ok fs =>
    refine .inr ⟨_, rfl, Formula.isFalse_conjunction, fun fault member => ?_⟩
    obtain ⟨f, part, member⟩ := Formula.exists_of_mem_faults_conjunction member
    obtain ⟨p, among, made⟩ := exists_of_mem_mapM compiled f part
    rcases plain p among with refused | ⟨f', made', _, overflows⟩
    · cases refused.symm.trans made
    · cases made.symm.trans made'
      exact overflows fault member

theorem isPlain_related (leads : m.relation? relation = some target) (plain : IsPlain target p) :
    IsPlain m (.related relation p) := by
  rw [IsPlain, compile_related leads]
  rcases plain with refused | ⟨f, made, _, overflows⟩
  · exact .inl (by rw [refused]; rfl)
  · exact .inr ⟨.related relation f, by rw [made]; rfl, rfl, overflows⟩

/-- Whether a family has a conjunction exactly if it has all of its parts, and a predicate on a relation exactly if
it has the inner one. -/
structure IsLocal (G : Model → Predicate → Prop) : Prop where
  all : ∀ {m : Model} {ps : List Predicate}, (∀ p ∈ ps, IsPlain m p) → (G m (.all ps) ↔ ∀ p ∈ ps, G m p)
  related : ∀ {m target : Model} {relation : String} {p : Predicate}, m.relation? relation = some target →
    (G m (.related relation p) ↔ G target p)

theorem isLocal_hasFormula : IsLocal HasFormula where
  all := by
    intro m ps _
    rw [HasFormula, compile_all]
    constructor
    · rintro ⟨_, made⟩ p part
      obtain ⟨fs, compiled, _⟩ := map_eq_ok.mp made
      obtain ⟨f, _, made⟩ := exists_mem_of_mapM compiled p part
      exact ⟨f, made⟩
    · intro each
      obtain ⟨fs, made⟩ := exists_forall₂ each
      exact ⟨_, by rw [mapM_eq_ok_of_forall₂ made]; rfl⟩
  related := by
    intro m target relation p leads
    rw [HasFormula, compile_related leads]
    constructor
    · rintro ⟨_, made⟩
      obtain ⟨f, made, _⟩ := map_eq_ok.mp made
      exact ⟨f, made⟩
    · rintro ⟨f, made⟩
      exact ⟨_, by rw [made]; rfl⟩

theorem isLocal_compiles : IsLocal Compiles where
  all := by
    intro m ps plain
    refine ⟨?_, compiles_all⟩
    rintro ⟨_, made, clean⟩ p part
    rw [compile_all] at made
    obtain ⟨fs, compiled, rfl⟩ := map_eq_ok.mp made
    -- none of the formulas is passed over, since none is true of no row
    have stand : ∀ f ∈ fs, f.isFalse = false := by
      intro f member
      obtain ⟨p, among, made⟩ := exists_of_mem_mapM compiled f member
      rcases plain p among with refused | ⟨f', made', stands, _⟩
      · cases refused.symm.trans made
      · cases made.symm.trans made'
        exact stands
    obtain ⟨f, member, made⟩ := exists_mem_of_mapM compiled p part
    exact ⟨f, made, (Formula.faults_conjunction_eq_nil_iff stand).mp clean f member⟩
  related := by
    intro m target relation p leads
    refine ⟨?_, compiles_related leads⟩
    rintro ⟨_, made, clean⟩
    rw [compile_related leads] at made
    obtain ⟨f, inner, rfl⟩ := map_eq_ok.mp made
    exact ⟨f, inner, clean⟩

/-! ## Parts of a query -/

section Parts

variable {c : Condition} (known : m.column? column = some kind) (typed : c.IsOf kind)
include known typed

theorem isPlain_ofCondition : IsPlain m (.ofCondition column c) := by
  rcases compile_ofCondition_cases known typed with ⟨_, refused⟩ | ⟨_, f, made, tests⟩
  · exact .inl refused
  · exact .inr ⟨f, made, tests.stands, tests.overflows⟩

theorem hasFormula_ofCondition : HasFormula m (.ofCondition column c) ↔ ¬c.OrdersTruth kind := by
  rcases compile_ofCondition_cases known typed with ⟨ordered, refused⟩ | ⟨unordered, f, made, _⟩
  · exact iff_of_false (fun ⟨_, made⟩ => nomatch refused.symm.trans made) (not_not_intro ordered)
  · exact iff_of_true ⟨f, made⟩ unordered

theorem compiles_ofCondition_iff : Compiles m (.ofCondition column c) ↔ ¬c.OrdersTruth kind ∧ c.IsBounded := by
  rcases compile_ofCondition_cases known typed with ⟨ordered, refused⟩ | ⟨unordered, f, made, tests⟩
  · exact iff_of_false (fun ⟨_, made, _⟩ => nomatch refused.symm.trans made) fun both => both.1 ordered
  · rw [and_iff_right unordered, ← tests.clean]
    refine ⟨fun ⟨f', made', clean⟩ => ?_, fun clean => ⟨f, made, clean⟩⟩
    cases made.symm.trans made'
    exact clean

end Parts

theorem isPlain_equals_null (known : (m.column? column).isSome = true) : IsPlain m (.equals column .null) := by
  obtain ⟨kind, known⟩ := Option.isSome_iff_exists.mp known
  exact .inr ⟨.isNull column, by simp only [compile, Model.kindOf, known, compareFormula, ok_bind], rfl, by simp [Formula.faults]⟩

/-- A disjunction of anything at all that can be tested is neither stopped nor true of no row to begin with. -/
theorem isPlain_any (some : ps ≠ []) (each : ∀ p ∈ ps, Compiles m p) : IsPlain m (.any ps) := by
  obtain ⟨fs, made, clean⟩ := compileParts_spec each
  refine .inr ⟨.disjunction fs, by simp only [compile, made, ok_bind], Formula.isFalse_disjunction ?_,
    by simp [Formula.faults_disjunction clean]⟩
  rintro rfl
  obtain ⟨p, part⟩ := List.exists_mem_of_ne_nil _ some
  rw [compileParts_eq_mapM] at made
  obtain ⟨_, none, _⟩ := exists_mem_of_mapM made p part
  cases none

end Store

/-! ## Queries -/

section Targets

variable {d : FieldDef} {m : Model}

theorem FieldDef.target?_own (on : d.relation = none) : d.target? m = some m := by rw [target?, on]

theorem FieldDef.target?_related {relation : String} (on : d.relation = some relation) :
    d.target? m = m.relation? relation := by
  rw [target?, on]

end Targets

namespace Predicate

open Store (IsPlain IsLocal HasFormula)

variable {s : Surface} {m target : Model} {q : Query} {p : Predicate} {c : String × Condition}

/-- An accepted condition is on a column of its kind, in the rows of the surface or those a relation leads to. -/
theorem exists_target (describes : s.Describes m) (accepted : s.Accepted q.conditions) (member : c ∈ q.conditions) :
    ∃ d target, s.field? c.1 = some d ∧ d.target? m = some target ∧ target.column? d.column = some d.kind ∧
      c.2.IsOf d.kind := by
  obtain ⟨d, known, typed⟩ := accepted c member
  obtain ⟨target, leads, column⟩ := Option.bind_eq_some_iff.mp (describes.fields _ (mem_of_lookup known))
  exact ⟨d, target, known, leads, column, typed⟩

theorem compiles_ofTerm (describes : s.Describes m) {search : Predicate}
    (made : ofTerm q.term s.searchFields = some search) : IsPlain m search ∧ Compiles m search := by
  obtain ⟨t, _, some', rfl⟩ := eq_any_of_ofTerm made
  have each : ∀ p ∈ s.searchFields.map fun field => Predicate.contains field (.text (Text.strip t)), Compiles m p := by
    intro p part
    obtain ⟨column, searched, rfl⟩ := List.mem_map.mp part
    exact @Store.compiles_ofCondition m .text column (.contains _) (describes.searched column searched) rfl trivial
  exact ⟨Store.isPlain_any (by simpa using some') each, Store.compiles_any each⟩

section Parts

variable (describes : s.Describes m) (accepted : s.Accepted q.conditions)
include describes accepted

/-- The conditions on a relation, or on the row itself, are plain where the relation leads to. -/
theorem isPlain_partsOn {relation? : Option String}
    (leads : ∀ d : FieldDef, d.relation = relation? → d.target? m = some target) :
    ∀ part ∈ partsOn s relation? q.conditions, IsPlain target part := by
  intro part among
  obtain ⟨c, member, d, known, on, rfl⟩ := mem_partsOn.mp among
  obtain ⟨d', target', known', leads', column, typed⟩ := exists_target describes accepted member
  cases known.symm.trans known'
  cases (leads d on).symm.trans leads'
  exact Store.isPlain_ofCondition column typed

theorem exists_relation? {relation : String} (some' : partsOn s (some relation) q.conditions ≠ []) :
    ∃ target, m.relation? relation = some target := by
  obtain ⟨c, member, d, known, on⟩ := partsOn_ne_nil.mp some'
  obtain ⟨d', target, known', leads, _⟩ := exists_target describes accepted member
  cases known.symm.trans known'
  exact ⟨target, (FieldDef.target?_related on).symm.trans leads⟩

theorem isPlain_parts {ps : List Predicate} (made : ofQuery s q = .ok (.all ps)) : ∀ part ∈ ps, IsPlain m part := by
  obtain ⟨_, same, parts⟩ := exists_parts_ofQuery made
  cases same
  intro part among
  rcases (parts part).mp among with ⟨f, registered, rfl⟩ | own | ⟨relation, some', rfl⟩ | searched
  · obtain ⟨null, known⟩ := describes.base f registered
    have null : f.2 = .null := by cases h : f.2 <;> simp_all [Value.isNull]
    rw [null]
    exact Store.isPlain_equals_null known
  · exact isPlain_partsOn describes accepted (fun _ on => FieldDef.target?_own on) part own
  · obtain ⟨target, leads⟩ := exists_relation? describes accepted some'
    exact Store.isPlain_related leads (Store.isPlain_all
      (isPlain_partsOn describes accepted fun _ on => (FieldDef.target?_related on).trans leads))
  · exact (compiles_ofTerm describes searched).1

variable (made : ofQuery s q = .ok p)
include made

/-- What can stop an accepted query are truth values in order and numbers that are too long. -/
theorem isPlain_ofQuery : IsPlain m p := by
  obtain ⟨ps, rfl, _⟩ := exists_parts_ofQuery made
  exact Store.isPlain_all (isPlain_parts describes accepted made)

/-- A local family that has all else of a query has the query exactly if it has its conditions. -/
theorem iff_ofQuery {G : Model → Predicate → Prop} {X : FieldKind → Condition → Prop} (isLocal : IsLocal G)
    (base : ∀ f ∈ s.baseValues, G m (.equals f.1 f.2))
    (term : ∀ search, ofTerm q.term s.searchFields = some search → G m search)
    (leaf : ∀ {target : Model} {column : String} {kind : FieldKind} {c : Condition},
      target.column? column = some kind → c.IsOf kind → (G target (.ofCondition column c) ↔ X kind c)) :
    G m p ↔ ∀ c ∈ q.conditions, ∀ d, s.field? c.1 = some d → X d.kind c.2 := by
  obtain ⟨ps, rfl, parts⟩ := exists_parts_ofQuery made
  rw [isLocal.all (isPlain_parts describes accepted made)]
  have placed {relation? : Option String} {target : Model}
      (leads : ∀ d : FieldDef, d.relation = relation? → d.target? m = some target) :
      (∀ part ∈ partsOn s relation? q.conditions, G target part) ↔
        ∀ c ∈ q.conditions, ∀ d, s.field? c.1 = some d → d.relation = relation? → X d.kind c.2 := by
    have leaf' {c : String × Condition} {d : FieldDef} (member : c ∈ q.conditions) (known : s.field? c.1 = some d)
        (on : d.relation = relation?) : G target (.ofCondition d.column c.2) ↔ X d.kind c.2 := by
      obtain ⟨d', target', known', leads', column, typed⟩ := exists_target describes accepted member
      cases known.symm.trans known'
      cases (leads d on).symm.trans leads'
      exact leaf column typed
    constructor
    · exact fun all c member d known on =>
        (leaf' member known on).mp (all _ (mem_partsOn.mpr ⟨c, member, d, known, on, rfl⟩))
    · intro all part among
      obtain ⟨c, member, d, known, on, rfl⟩ := mem_partsOn.mp among
      exact (leaf' member known on).mpr (all c member d known on)
  -- the parts on the model itself and those of each relation are treated alike
  have own := @placed none m fun _ on => FieldDef.target?_own on
  have related {relation : String} (some' : partsOn s (some relation) q.conditions ≠ []) :
      G m (.related relation (.all (partsOn s (some relation) q.conditions))) ↔
        ∀ c ∈ q.conditions, ∀ d, s.field? c.1 = some d → d.relation = some relation → X d.kind c.2 := by
    obtain ⟨target, leads⟩ := exists_relation? describes accepted some'
    have leads' (d : FieldDef) (on : d.relation = some relation) : d.target? m = some target :=
      (FieldDef.target?_related on).trans leads
    rw [isLocal.related leads, isLocal.all (isPlain_partsOn describes accepted leads'), placed leads']
  constructor
  · intro all c member d known
    cases on : d.relation with
    | none => exact own.mp (fun part among => all part ((parts part).mpr (.inr (.inl among)))) c member d known on
    | some relation =>
      have some' := partsOn_ne_nil.mpr ⟨c, member, d, known, on⟩
      exact (related some').mp (all _ ((parts _).mpr (.inr (.inr (.inl ⟨relation, some', rfl⟩))))) c member d known on
  · intro each part among
    rcases (parts part).mp among with ⟨f, registered, rfl⟩ | among | ⟨relation, some', rfl⟩ | searched
    · exact base f registered
    · exact own.mpr (fun c member d known _ => each c member d known) part among
    · exact (related some').mpr fun c member d known _ => each c member d known
    · exact term part searched

/-- A query has a formula exactly if none of its conditions asks for an order of truth values. -/
theorem hasFormula_ofQuery :
    HasFormula m p ↔ ∀ c ∈ q.conditions, ∀ d, s.field? c.1 = some d → ¬c.2.OrdersTruth d.kind :=
  have made' {p : Predicate} (compiles : Compiles m p) : HasFormula m p := compiles.imp fun _ both => both.1
  iff_ofQuery describes accepted made Store.isLocal_hasFormula
    (fun f registered => made' (compiles_baseValue describes f registered))
    (fun _ searched => made' (compiles_ofTerm describes searched).2) Store.hasFormula_ofCondition

/-- A query can be tested exactly if, moreover, none of its conditions has a number that is too long. -/
theorem compiles_ofQuery_iff :
    Compiles m p ↔ ∀ c ∈ q.conditions, ∀ d, s.field? c.1 = some d → ¬c.2.OrdersTruth d.kind ∧ c.2.IsBounded :=
  iff_ofQuery describes accepted made Store.isLocal_compiles (compiles_baseValue describes)
    (fun _ searched => (compiles_ofTerm describes searched).2) Store.compiles_ofCondition_iff

end Parts
end Predicate
end Venues
