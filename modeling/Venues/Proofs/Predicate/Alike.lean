import Venues.Proofs.Predicate.Accepts
import Venues.Proofs.Store.Compile
import Venues.Proofs.Value.Order

/-! # Values that are as good as others

A number can be given in several ways: 4 as a whole or as a floating-point number, and 1 as a truth value, too.
Whatever is compared with values does not tell these ways apart. So conditions that differ in nothing else are as
good as each other, and so are the predicates that are built from them.
-/

namespace Venues

/-! ## Values -/

/-- Whether two values are the same, or numbers of the same size. -/
def Value.Alike (v w : Value) : Prop := v = w ∨ ∃ size, v.magnitude? = some size ∧ w.magnitude? = some size

namespace Value

variable {u v w : Value} {size : Magnitude}

/-- A number is compared with other numbers only, and by its size. -/
theorem compare_of_magnitude (number : v.magnitude? = some size) :
    v.same u = u.magnitude?.any size.same ∧ u.same v = u.magnitude?.any (·.same size) ∧
      v.lt? u = u.magnitude?.map size.lt ∧ u.lt? v = u.magnitude?.map (·.lt size) := by
  cases other : u.magnitude? with
  | some size' =>
    obtain ⟨below, same⟩ := lt?_of_magnitude number other
    obtain ⟨above, same'⟩ := lt?_of_magnitude other number
    exact ⟨same, same', below, above⟩
  | none => cases v <;> cases number <;> cases u <;> simp_all [same, lt?, magnitude?]

theorem Alike.refl (v : Value) : v.Alike v := .inl rfl

theorem Alike.isNull (alike : v.Alike w) : v.isNull = w.isNull := by
  obtain rfl | ⟨size, number, number'⟩ := alike
  · rfl
  · cases v <;> cases number <;> cases w <;> first | rfl | cases number'

/-- What values are compared with does not tell those apart that are alike. -/
theorem Alike.compare_eq (alike : v.Alike w) (u : Value) :
    v.same u = w.same u ∧ u.same v = u.same w ∧ v.lt? u = w.lt? u ∧ u.lt? v = u.lt? w := by
  obtain rfl | ⟨size, number, number'⟩ := alike
  · exact ⟨rfl, rfl, rfl, rfl⟩
  · obtain ⟨same, same', below, above⟩ := compare_of_magnitude number (u := u)
    rw [same, same', below, above]
    obtain ⟨same, same', below, above⟩ := compare_of_magnitude number' (u := u)
    exact ⟨same.symm, same'.symm, below.symm, above.symm⟩

theorem between_congr {least least' most most' : Value} (low : least.Alike least') (high : most.Alike most') :
    u.between least most = u.between least' most' := by
  simp only [between, isBelow, low.isNull, high.isNull, low.compare_eq u, high.compare_eq u]

theorem any_same_congr {vs ws : List Value} (alike : List.Forall₂ Alike vs ws) : vs.any u.same = ws.any u.same := by
  induction alike with
  | nil => rfl
  | cons first _ ih => rw [List.any_cons, List.any_cons, (first.compare_eq u).2.1, ih]

end Value

/-! ## Conditions -/

/-- Whether two conditions differ at most in values that are alike in the way in which they are seen. -/
inductive Condition.Alike (see : Value → Value) : Condition → Condition → Prop
  | equals {v w : Value} (alike : (see v).Alike (see w)) : Alike see (.equals v) (.equals w)
  | range {least least' most most' : Value} (low : (see least).Alike (see least'))
      (high : (see most).Alike (see most')) : Alike see (.range least most) (.range least' most')
  | oneOf {vs ws : List Value} (alike : List.Forall₂ (fun v w => (see v).Alike (see w)) vs ws) :
      Alike see (.oneOf vs) (.oneOf ws)
  | contains (needle : String) : Alike see (.contains needle) (.contains needle)

/-- Whether conditions on the same fields are alike, one by one. -/
def Conditions.Alike (see : Value → Value) : Conditions → Conditions → Prop :=
  List.Forall₂ fun c c' => c.1 = c'.1 ∧ c.2.Alike see c'.2

namespace Predicate

open Store (Model)

variable {s : Surface} {m : Model} {conditions conditions' : Conditions}

/-! ## Congruences -/

/-- A relation between predicates on the rows of each model that goes on to predicates that are joined, and to those
on the rows that a relation leads to. -/
structure IsCongruence (R : Model → Predicate → Predicate → Prop) : Prop where
  refl : ∀ m p, R m p p
  all : ∀ {m : Model} {ps ps' : List Predicate}, List.Forall₂ (R m) ps ps' → R m (.all ps) (.all ps')
  related : ∀ {m target : Model} {relation : String} {p p' : Predicate}, m.relation? relation = some target →
    R target p p' → R m (.related relation p) (.related relation p')

variable {R : Model → Predicate → Predicate → Prop}

/-- Whether two groups are on the same relation and have related predicates on its rows. -/
def GroupsRelate (R : Model → Predicate → Predicate → Prop) (m : Model) (g g' : String × List Predicate) : Prop :=
  g.1 = g'.1 ∧ ∃ target, m.relation? g.1 = some target ∧ List.Forall₂ (R target) g.2 g'.2

/-- Whether placed predicates are related, those on a relation in the rows it leads to. -/
def Placed.Relate (R : Model → Predicate → Predicate → Prop) (m : Model) (placed placed' : Placed) : Prop :=
  List.Forall₂ (R m) placed.own placed'.own ∧ List.Forall₂ (GroupsRelate R m) placed.related placed'.related

theorem addRelated_relate {groups groups' : List (String × List Predicate)} {relation : String}
    {p p' : Predicate} {target : Model} (leads : m.relation? relation = some target) (related : R target p p')
    (all : List.Forall₂ (GroupsRelate R m) groups groups') :
    List.Forall₂ (GroupsRelate R m) (addRelated groups relation p) (addRelated groups' relation p') := by
  induction all with
  | nil => exact .cons ⟨rfl, target, leads, .cons related .nil⟩ .nil
  | @cons g g' rest rest' first others ih =>
    obtain ⟨r, ps⟩ := g
    obtain ⟨r', ps'⟩ := g'
    obtain ⟨rfl, target', leads', parts⟩ := first
    unfold addRelated
    by_cases same : r = relation
    · subst same
      cases leads.symm.trans leads'
      rw [if_pos rfl, if_pos rfl]
      exact .cons ⟨rfl, target, leads, List.rel_append parts (.cons related .nil)⟩ others
    · rw [if_neg same, if_neg same]
      exact .cons ⟨rfl, target', leads', parts⟩ ih

/-- Whether conditions on the same fields become related predicates on the columns of these fields. -/
def Relate (R : Model → Predicate → Predicate → Prop) (s : Surface) (m : Model) : Conditions → Conditions → Prop :=
  List.Forall₂ fun c c' => c.1 = c'.1 ∧ ∀ d target, s.field? c.1 = some d → d.target? m = some target →
    target.column? d.column = some d.kind → R target (.ofCondition d.column c.2) (.ofCondition d.column c'.2)

theorem Placed.Relate.add {placed placed' : Placed} {c c' : Condition} {d : FieldDef} {target : Model}
    (relate : placed.Relate R m placed') (leads : d.target? m = some target)
    (related : R target (.ofCondition d.column c) (.ofCondition d.column c')) :
    (placed.add d c).Relate R m (placed'.add d c') := by
  obtain ⟨own, groups⟩ := relate
  unfold Placed.add
  unfold FieldDef.target? at leads
  cases on : d.relation with
  | some r =>
    rw [on] at leads
    exact ⟨own, addRelated_relate leads related groups⟩
  | none =>
    rw [on] at leads
    cases leads
    exact ⟨List.rel_append own (.cons related .nil), groups⟩

/-- Conditions that become related predicates are placed alike. -/
theorem place_relate (describes : s.Describes m) (known : ∀ c ∈ conditions, (s.field? c.1).isSome = true)
    (relate : Relate R s m conditions conditions') : ∃ placed placed', place s conditions = .ok placed ∧
      place s conditions' = .ok placed' ∧ placed.Relate R m placed' := by
  -- what was placed already may differ too, as long as it is related
  have onward : ∀ done done' : Placed, done.Relate R m done' → ∃ placed placed',
      conditions.foldlM (placeNext s) done = .ok placed ∧ conditions'.foldlM (placeNext s) done' = .ok placed' ∧
        placed.Relate R m placed' := by
    induction relate with
    | nil => exact fun done done' relate => ⟨done, done', rfl, rfl, relate⟩
    | @cons c c' rest rest' first others ih =>
      obtain ⟨name, condition⟩ := c
      obtain ⟨name', condition'⟩ := c'
      obtain ⟨rfl, become⟩ := first
      obtain ⟨registered, known⟩ := List.forall_mem_cons.mp known
      obtain ⟨d, registered⟩ := Option.isSome_iff_exists.mp registered
      obtain ⟨target, leads, column⟩ := Option.bind_eq_some_iff.mp (describes.fields _ (mem_of_lookup registered))
      intro done done' relate
      rw [List.foldlM_cons, List.foldlM_cons, placeNext_of_known (c := (name, condition)) registered,
        placeNext_of_known (c := (name, condition')) registered]
      exact ih known _ _ (relate.add leads (become d target registered leads column))
  exact onward {} {} ⟨.nil, .nil⟩

/-- The predicates of two queries that differ at most in conditions that become related predicates are related. -/
theorem ofQuery_relate (congruence : IsCongruence R) {q : Query} (describes : s.Describes m)
    (known : ∀ c ∈ q.conditions, (s.field? c.1).isSome = true) (relate : Relate R s m q.conditions conditions) :
    ∃ p p', ofQuery s q = .ok p ∧ ofQuery s { q with conditions } = .ok p' ∧ R m p p' := by
  obtain ⟨placed, placed', made, made', own, groups⟩ := place_relate describes known relate
  have joined : List.Forall₂ (R m) (placed.related.map fun g => .related g.1 (.all g.2))
      (placed'.related.map fun g => .related g.1 (.all g.2)) := by
    rw [List.forall₂_map_left_iff, List.forall₂_map_right_iff]
    refine groups.imp fun g g' ⟨same, target, leads, parts⟩ => ?_
    rw [← same]
    exact congruence.related leads (congruence.all parts)
  refine ⟨_, _, by rw [ofQuery, ofConditions, made]; rfl, by rw [ofQuery, ofConditions, made']; rfl, ?_⟩
  have same (ps : List Predicate) : List.Forall₂ (R m) ps ps := List.forall₂_same.mpr fun p _ => congruence.refl m p
  refine congruence.all ?_
  -- the base values come first, and the term, if there is one, last
  cases ofTerm q.term s.searchFields with
  | none => simpa [conjuncts] using List.rel_append (same (base s).conjuncts) (List.rel_append own joined)
  | some search =>
    simpa [conjuncts] using List.rel_append (same (base s).conjuncts)
      (List.rel_append own (List.rel_append joined (same search.conjuncts)))

/-! ## Answers -/

/-- Whether two predicates have the same answer for every record. -/
def AcceptAlike (_ : Model) (p p' : Predicate) : Prop := ∀ row, p.accepts row = p'.accepts row

theorem isCongruence_acceptAlike : IsCongruence AcceptAlike where
  refl _ _ _ := rfl
  all {_ ps ps'} alike row := by
    simp only [accepts]
    induction alike with
    | nil => rfl
    | cons first _ ih => rw [allAccept, allAccept, first row, ih]
  related {_ _ relation p p'} _ alike row := by
    rw [accepts_related, accepts_related, funext alike]

theorem acceptAlike_ofCondition {c c' : Condition} (alike : c.Alike id c') (column : String) :
    AcceptAlike m (.ofCondition column c) (.ofCondition column c') := by
  intro row
  cases alike with
  | equals alike =>
    simp only [ofCondition, accepts]
    exact congrArg Except.ok (Value.Alike.compare_eq alike _).2.1
  | range low high =>
    simp only [ofCondition, accepts]
    exact Value.between_congr low high
  | oneOf alike =>
    simp only [ofCondition, accepts]
    exact congrArg Except.ok (Value.any_same_congr alike)
  | contains needle => rfl

end Predicate
end Venues
