import Venues.Proofs.Filter.Entries

/-! # Conditions from entries

The conditions that entries ask for come in the order of their fields, and an entry does nothing to the conditions on
other fields. So the conditions on some fields can be read from the entries on them alone, and other names for the
fields are only other names for the conditions.
-/

namespace Venues

namespace Conditions

variable {conditions : Conditions} {name : String} {c : Condition}

theorem put_eq_append (absent : name ∉ conditions.map Prod.fst) : put conditions name c = conditions ++ [(name, c)] := by
  induction conditions with
  | nil => rfl
  | cons p rest ih =>
    obtain ⟨n, d⟩ := p
    obtain ⟨other, absent⟩ := not_or.mp (mt List.mem_cons.mpr absent)
    rw [put, if_neg (Ne.symm other), ih absent, List.cons_append]

theorem put_ne_nil : put conditions name c ≠ [] := by
  unfold put
  split
  · exact List.cons_ne_nil _ _
  · split <;> exact List.cons_ne_nil _ _

/-! ## Some of the fields -/

section Filtered

variable {p : String → Bool}

/-- Among the conditions on some fields, only a condition on one of these is set. -/
theorem filter_put : (put conditions name c).filter (fun d => p d.1) =
    if p name then put (conditions.filter fun d => p d.1) name c else conditions.filter fun d => p d.1 := by
  induction conditions with
  | nil => cases stays : p name <;> simp [put, stays]
  | cons d rest ih =>
    obtain ⟨n, d⟩ := d
    by_cases same : n = name
    · subst same
      cases stays : p n <;> simp [put, stays]
    · cases stays : p n <;> cases stays' : p name <;> simp_all [put]

theorem get?_filter (stays : p name = true) : get? (conditions.filter fun d => p d.1) name = get? conditions name := by
  induction conditions with
  | nil => rfl
  | cons d rest ih =>
    obtain ⟨n, d⟩ := d
    simp only [get?] at ih ⊢
    by_cases same : name = n
    · subst same
      simp [stays]
    · rw [List.lookup_cons, beq_false_of_ne same, ← ih]
      cases kept : p n <;> simp [kept, List.lookup_cons, beq_false_of_ne same]

end Filtered

/-! ## Other names -/

section Renamed

variable {rename : String → String} (injective : Function.Injective rename)
include injective

theorem map_put : (put conditions name c).map (Prod.map rename id) =
    put (conditions.map (Prod.map rename id)) (rename name) c := by
  induction conditions with
  | nil => rfl
  | cons d rest ih =>
    obtain ⟨n, d⟩ := d
    by_cases same : n = name
    · simp [put, same]
    · simp [put, same, injective.ne same, ih]

theorem get?_map : get? (conditions.map (Prod.map rename id)) (rename name) = get? conditions name := by
  induction conditions with
  | nil => rfl
  | cons d rest ih =>
    obtain ⟨n, d⟩ := d
    simp only [get?] at ih ⊢
    by_cases same : name = n
    · subst same
      simp
    · simp [List.lookup_cons, beq_false_of_ne same, beq_false_of_ne (injective.ne same), ih]

end Renamed

end Conditions

namespace Filter

/-! ## One entry -/

/-- The condition that an entry asks for on its field, next to the ends of the range that is on it already. -/
def asked (ends : Value × Value) (e : String × Value) : Condition :=
  match bound? e.1 with
  | some (_, .least) => .range e.2 ends.2
  | some (_, .most) => .range ends.1 e.2
  | none => conditionOf e.2

/-- An entry with a value sets the condition on its field, and does nothing else. -/
theorem classifyEntry_eq (conditions : Conditions) (e : String × Value) : classifyEntry conditions e =
    if e.2.isNull then conditions
    else conditions.put (fieldOf e.1) (asked (endsOn conditions (fieldOf e.1)) e) := by
  unfold classifyEntry
  split
  · rfl
  · cases bound : bound? e.1 with
    | none => simp only [fieldOf_of_plain bound, asked, bound]
    | some p =>
      obtain ⟨base, b⟩ := p
      simp only [fieldOf_of_bound bound, asked, bound]
      cases b <;> rfl

/-! ## Many entries -/

/-- Entries on different fields, none of them an end of a range, ask for one condition each. -/
theorem classify_eq_map {es : Fields} (distinct : (es.map Prod.fst).Nodup)
    (plain : ∀ e ∈ es, bound? e.1 = none ∧ e.2.isNull = false) :
    classify es = es.map fun e => (e.1, conditionOf e.2) := by
  -- conditions that are there already stay in front, if they are on other fields
  suffices onward : ∀ conditions : Conditions, (conditions.map Prod.fst ++ es.map Prod.fst).Nodup →
      es.foldl classifyEntry conditions = conditions ++ es.map fun e => (e.1, conditionOf e.2) from onward [] distinct
  clear distinct
  induction es with
  | nil => simp
  | cons e es ih =>
    intro conditions apart
    obtain ⟨⟨name, given⟩, others⟩ := List.forall_mem_cons.mp plain
    have absent : e.1 ∉ conditions.map Prod.fst := by
      intro there
      exact (List.nodup_append.mp apart).2.2 _ there _ List.mem_cons_self rfl
    have first : classifyEntry conditions e = conditions ++ [(e.1, conditionOf e.2)] := by
      simp only [classifyEntry, given, name, Bool.false_eq_true, if_false]
      exact Conditions.put_eq_append absent
    rw [List.foldl_cons, first, ih others _ (by simpa using apart)]
    simp

/-- Entries without a value can be left out. -/
theorem classify_filter {es : Fields} {q : String × Value → Bool} (null : ∀ e ∈ es, q e = false → e.2.isNull = true) :
    classify (es.filter q) = classify es := by
  suffices onward : ∀ conditions : Conditions, (es.filter q).foldl classifyEntry conditions =
      es.foldl classifyEntry conditions from onward []
  induction es with
  | nil => exact fun _ => rfl
  | cons e es ih =>
    obtain ⟨first, others⟩ := List.forall_mem_cons.mp null
    intro conditions
    cases stays : q e with
    | true => rw [List.filter_cons_of_pos stays, List.foldl_cons, List.foldl_cons, ih others]
    | false =>
      rw [List.filter_cons_of_neg (by simp [stays]), List.foldl_cons, classifyEntry_eq, if_pos (first stays), ih others]

/-- An entry with a value leaves a condition behind, whatever comes after it. -/
theorem classify_ne_nil {es : Fields} (given : ∃ e ∈ es, e.2.isNull = false) : classify es ≠ [] := by
  obtain ⟨e, member, present⟩ := given
  obtain ⟨front, back, rfl⟩ := List.append_of_mem member
  -- a condition may be replaced, but is never taken away
  have onward : ∀ (back : Fields) (conditions : Conditions), conditions ≠ [] → back.foldl classifyEntry conditions ≠ [] := by
    intro back
    induction back with
    | nil => exact fun _ some => some
    | cons a back ih =>
      intro conditions some
      refine ih _ ?_
      rw [classifyEntry_eq]
      split
      · exact some
      · exact Conditions.put_ne_nil
  rw [classify, List.foldl_append, List.foldl_cons]
  refine onward back _ ?_
  rw [classifyEntry_eq, present, if_neg Bool.false_ne_true]
  exact Conditions.put_ne_nil

/-- The conditions on some fields are those that the entries on these fields ask for. -/
theorem filter_classify (p : String → Bool) (es : Fields) :
    (classify es).filter (fun c => p c.1) = classify (es.filter fun e => p (fieldOf e.1)) := by
  suffices onward : ∀ conditions : Conditions, (es.foldl classifyEntry conditions).filter (fun c => p c.1) =
      (es.filter fun e => p (fieldOf e.1)).foldl classifyEntry (conditions.filter fun c => p c.1) from onward []
  induction es with
  | nil => exact fun _ => rfl
  | cons e es ih =>
    intro conditions
    rw [List.foldl_cons, ih, List.filter_cons]
    -- an entry on another field leaves the conditions in question, and the range it looks at is on its own field
    have step : (classifyEntry conditions e).filter (fun c => p c.1) = if p (fieldOf e.1) then
        classifyEntry (conditions.filter fun c => p c.1) e else conditions.filter fun c => p c.1 := by
      rw [classifyEntry_eq, classifyEntry_eq]
      cases stays : p (fieldOf e.1) <;> split <;> simp [Conditions.filter_put, endsOn, Conditions.get?_filter, stays]
    rw [step]
    split <;> rfl

/-- Under other names entries ask for the same conditions, as long as an end of a range stays one of the same field. -/
theorem classify_map {rename : String → String} (injective : Function.Injective rename) {es : Fields}
    (bounds : ∀ e ∈ es, bound? (rename e.1) = (bound? e.1).map (Prod.map rename id)) :
    classify (es.map (Prod.map rename id)) = (classify es).map (Prod.map rename id) := by
  suffices onward : ∀ conditions : Conditions, (es.map (Prod.map rename id)).foldl classifyEntry
      (conditions.map (Prod.map rename id)) = (es.foldl classifyEntry conditions).map (Prod.map rename id) from onward []
  induction es with
  | nil => exact fun _ => rfl
  | cons e es ih =>
    obtain ⟨first, others⟩ := List.forall_mem_cons.mp bounds
    intro conditions
    have field : fieldOf (rename e.1) = rename (fieldOf e.1) := by
      rw [fieldOf, first, fieldOf]
      cases bound? e.1 <;> rfl
    -- the range that an entry completes is found under the new name of its field
    have same (ends : Value × Value) : asked ends (rename e.1, e.2) = asked ends e := by
      simp only [asked, first]
      rcases bound? e.1 with _ | ⟨_, _ | _⟩ <;> rfl
    have step : classifyEntry (conditions.map (Prod.map rename id)) (rename e.1, e.2) =
        (classifyEntry conditions e).map (Prod.map rename id) := by
      rw [classifyEntry_eq, classifyEntry_eq]
      simp only [field, same, endsOn, Conditions.get?_map injective]
      split
      · rfl
      · exact (Conditions.map_put injective).symm
    rw [List.map_cons, List.foldl_cons, List.foldl_cons, ← ih others, ← step]
    rfl

end Filter
end Venues
