import Venues.Proofs.Outcome
import Venues.Value

/-! # Fields

Setting one field of an object, or leaving some out, does not touch the others.
-/

namespace Venues.Fields

variable {fs : Fields} {name other : String} {v : Value}

/-- A field that was set has its new value. -/
@[simp] theorem get?_put_self : get? (put fs name v) name = some v := by
  induction fs with
  | nil => simp [put, get?]
  | cons f fs ih =>
    obtain ⟨n, w⟩ := f
    unfold put
    split
    · simp_all [get?]
    · rename_i different
      simpa [get?, List.lookup_cons, beq_false_of_ne (Ne.symm different)] using ih

/-- Setting a field leaves every other one as it is. -/
theorem get?_put_of_ne (different : other ≠ name) : get? (put fs name v) other = get? fs other := by
  induction fs with
  | nil => simp [put, get?, List.lookup_cons, beq_false_of_ne different]
  | cons f fs ih =>
    obtain ⟨n, w⟩ := f
    simp only [get?] at ih
    unfold put
    split
    · rename_i same
      subst same
      simp [get?, List.lookup_cons, beq_false_of_ne different]
    · simp [get?, List.lookup_cons, ih]

/-- A field that was not there goes last. -/
theorem put_eq_append (absent : get? fs name = none) : put fs name v = fs ++ [(name, v)] := by
  induction fs with
  | nil => rfl
  | cons f fs ih =>
    obtain ⟨n, held⟩ := f
    rw [get?, List.lookup_cons] at absent
    split at absent
    · cases absent
    · rename_i other
      rw [put, if_neg (Ne.symm (by simpa using other)), ih absent, List.cons_append]

@[simp] theorem put_put {w : Value} : put (put fs name v) name w = put fs name w := by
  induction fs with
  | nil => simp [put]
  | cons f fs ih =>
    obtain ⟨n, held⟩ := f
    by_cases same : n = name
    · simp [put, same]
    · simp [put, same, ih]

theorem filter_put {p : String → Bool} (leaves : p name = false) :
    (put fs name v).filter (fun f => p f.1) = fs.filter fun f => p f.1 := by
  induction fs with
  | nil => simp [put, leaves]
  | cons f fs ih =>
    obtain ⟨n, held⟩ := f
    by_cases same : n = name
    · simp [put, same, leaves]
    · simp [put, same, List.filter_cons, ih]

/-- The names of an object after a field was set. -/
theorem mem_put {f : String × Value} (member : f ∈ put fs name v) : f = (name, v) ∨ f ∈ fs := by
  induction fs with
  | nil => exact .inl (List.mem_singleton.mp member)
  | cons g fs ih =>
    obtain ⟨n, w⟩ := g
    unfold put at member
    split at member
    · rename_i same
      subst same
      rcases List.mem_cons.mp member with rfl | member
      · exact .inl rfl
      · exact .inr (List.mem_cons_of_mem _ member)
    · rcases List.mem_cons.mp member with rfl | member
      · exact .inr List.mem_cons_self
      · exact (ih member).imp_right (List.mem_cons_of_mem _)

theorem mem_of_get? (held : get? fs name = some v) : (name, v) ∈ fs := mem_of_lookup held

/-- Among fields with different names each one is found by its own. -/
theorem get?_of_mem (distinct : (fs.map (·.1)).Nodup) (member : (name, v) ∈ fs) : get? fs name = some v := by
  induction fs with
  | nil => cases member
  | cons f fs ih =>
    obtain ⟨n, w⟩ := f
    rw [List.map_cons, List.nodup_cons] at distinct
    rcases List.mem_cons.mp member with same | later
    · cases same
      simp [get?]
    · have other : name ≠ n := fun same => distinct.1 (same ▸ List.mem_map.mpr ⟨(name, v), later, rfl⟩)
      rw [get?, List.lookup_cons, beq_false_of_ne other]
      exact ih distinct.2 later

theorem nodup_put (distinct : (fs.map (·.1)).Nodup) : ((put fs name v).map (·.1)).Nodup := by
  induction fs with
  | nil => simp [put]
  | cons f fs ih =>
    obtain ⟨n, w⟩ := f
    rw [List.map_cons, List.nodup_cons] at distinct
    unfold put
    split
    · rw [List.map_cons, List.nodup_cons]
      exact distinct
    · rename_i other
      rw [List.map_cons, List.nodup_cons]
      refine ⟨fun there => ?_, ih distinct.2⟩
      obtain ⟨g, member, same⟩ := List.mem_map.mp there
      rcases mem_put member with rfl | member
      · exact other same.symm
      · exact distinct.1 (same ▸ List.mem_map_of_mem member)

/-- Leaving fields out leaves those that stay as they are. -/
theorem get?_filter {p : String → Bool} (stays : p name = true) :
    get? (fs.filter fun f => p f.1) name = get? fs name := by
  induction fs with
  | nil => rfl
  | cons f fs ih =>
    obtain ⟨n, w⟩ := f
    simp only [get?] at ih ⊢
    by_cases same : name = n
    · subst same
      simp [stays]
    · rw [List.lookup_cons, beq_false_of_ne same, ← ih]
      by_cases kept : p n = true
      · simp [kept, List.lookup_cons, beq_false_of_ne same]
      · simp [kept]

theorem get?_filter_eq_none {p : String → Bool} (leaves : p name = false) :
    get? (fs.filter fun f => p f.1) name = none := by
  simp only [get?, List.lookup_eq_none_iff, List.mem_filter, bne_iff_ne]
  rintro f ⟨_, kept⟩ rfl
  rw [leaves] at kept
  cases kept

end Venues.Fields
