import Venues.Proofs.Outcome
import Venues.Surface.Conditions

/-! # Accepted conditions

The conditions that a surface accepts are on fields that it registers, and their values are of the
kinds of these fields.
-/

namespace Venues

/-- Whether the values of a condition are of a kind. Only a text can hold a text. -/
def Condition.IsOf (kind : FieldKind) : Condition → Prop
  | .equals v => kind.admits v = true
  | .range least most => (least.isNull = true ∨ kind.admits least = true) ∧
      (most.isNull = true ∨ kind.admits most = true)
  | .oneOf vs => ∀ v ∈ vs, kind.admits v = true
  | .contains _ => kind = .text

namespace Surface

variable {s : Surface} {name : String} {kind : FieldKind} {v w : Value} {c p : String × Condition}

theorem admits_of_readValue (read : readValue name kind v = .ok w) : kind.admits w = true := by
  unfold readValue at read
  split at read
  · rename_i w' read'
    cases read
    exact FieldKind.admits_of_read read'
  · cases read

theorem admits_of_readBound (read : readBound name kind v = .ok w) :
    w.isNull = true ∨ kind.admits w = true := by
  unfold readBound at read
  split at read
  · cases read
    exact .inl rfl
  · exact .inr (admits_of_readValue read)

/-- The values of a condition that was read for a field are of its kind. -/
theorem isOf_of_readCondition {c c' : Condition} (read : readCondition name kind c = .ok c') :
    c'.IsOf kind := by
  cases c with
  | equals v =>
    obtain ⟨w, inner, rfl⟩ := map_eq_ok.mp read
    exact admits_of_readValue inner
  | range least most =>
    obtain ⟨least', readLeast, read⟩ := bind_eq_ok.mp read
    obtain ⟨most', readMost, read⟩ := bind_eq_ok.mp read
    cases read
    exact ⟨admits_of_readBound readLeast, admits_of_readBound readMost⟩
  | oneOf vs =>
    obtain ⟨ws, inner, rfl⟩ := map_eq_ok.mp read
    intro w member
    obtain ⟨v, _, innermost⟩ := exists_of_mem_mapM inner w member
    exact admits_of_readValue innermost
  | contains needle =>
    simp only [readCondition] at read
    split at read
    · rename_i text
      cases read
      exact text
    · cases read

theorem readEntry_eq_ok : s.readEntry c = .ok p ↔
    p.1 = c.1 ∧ ∃ d, s.field? c.1 = some d ∧ readCondition c.1 d.kind c.2 = .ok p.2 := by
  unfold readEntry
  cases s.field? c.1 with
  | none => exact ⟨nofun, nofun⟩
  | some d =>
    rw [map_eq_ok]
    constructor
    · rintro ⟨read, inner, rfl⟩
      exact ⟨rfl, d, rfl, inner⟩
    · rintro ⟨name, _, same, inner⟩
      cases same
      exact ⟨p.2, inner, Prod.ext name.symm rfl⟩

/-- Whether conditions are on fields of a surface, with values of their kinds. -/
def Accepted (s : Surface) (conditions : Conditions) : Prop :=
  ∀ c ∈ conditions, ∃ d, s.field? c.1 = some d ∧ c.2.IsOf d.kind

theorem accepted_of_readConditions {conditions found : Conditions}
    (read : s.readConditions conditions = .ok found) : s.Accepted found := by
  intro p member
  obtain ⟨c, _, read⟩ := exists_of_mem_mapM read p member
  obtain ⟨name, d, known, inner⟩ := readEntry_eq_ok.mp read
  exact ⟨d, name ▸ known, isOf_of_readCondition inner⟩

theorem accepted_of_readFilters {filters : Value} {found : Conditions}
    (read : s.readFilters filters = .ok found) : s.Accepted found := by
  unfold readFilters at read
  split at read
  · cases read
    intro c member
    cases member
  · exact accepted_of_readConditions read
  · cases read

end Surface
end Venues
