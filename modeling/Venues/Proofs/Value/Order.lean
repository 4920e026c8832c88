import Mathlib.Data.Fin.Basic
import Mathlib.Data.String.Basic
import Mathlib.Order.Fin.Basic
import Venues.FieldKind
import Venues.Predicate.Accepts
import Venues.Proofs.Magnitude
import Venues.Proofs.Outcome

/-! # Values that are at least as great as others

A value that does not lie below another one lies above it or equals it. Only what is not a number lies neither
below nor above any number, nor does it equal one.
-/

namespace Venues.Value

variable {kind : FieldKind} {v w : Value}

theorem isNull_eq_true (null : v.isNull = true) : v = .null := by
  cases v <;> first | rfl | cases null

/-- Whether both values are numbers by their kind, and one of them is not a number. -/
def isUnordered (v w : Value) : Bool :=
  match v.magnitude?, w.magnitude? with
  | some a, some b => a == .undefined || b == .undefined
  | _, _ => false

/-- Whether a value is at least as great as another. Where one of them is not a number, it counts as such. -/
def IsAtLeast (v w : Value) : Prop := w.lt? v = some true ∨ v.same w = true ∨ v.isUnordered w = true

/-- Whether a value is there, and is not made of others. -/
def isSingle (v : Value) : Bool := !v.isNull && !v.isNested

theorem isSingle_of_admits (admitted : kind.admits v = true) : v.isSingle = true := by
  cases kind <;> cases v <;> first | rfl | cases admitted

/-! ## Order -/

theorem lt?_of_magnitude {a b : Magnitude} (hv : v.magnitude? = some a) (hw : w.magnitude? = some b) :
    v.lt? w = some (a.lt b) ∧ v.same w = a.same b := by
  cases v <;> cases hv <;> cases w <;> cases hw
  -- two whole numbers are compared as they are
  case int.refl.int.refl m n => exact ⟨congrArg some (Magnitude.lt_ofInt m n).symm, (Magnitude.same_ofInt m n).symm⟩
  all_goals simp [lt?, same, magnitude?]

theorem lt?_eq_false_iff (single : v.isSingle = true ∨ w.isSingle = true) : v.lt? w = some false ↔ v.IsAtLeast w := by
  unfold IsAtLeast
  by_cases numbers : ∃ a b, v.magnitude? = some a ∧ w.magnitude? = some b
  · obtain ⟨a, b, hv, hw⟩ := numbers
    obtain ⟨below, same⟩ := lt?_of_magnitude hv hw
    obtain ⟨above, _⟩ := lt?_of_magnitude hw hv
    simp only [below, same, above, isUnordered, hv, hw, Option.some_inj, Bool.or_eq_true, beq_iff_eq]
    exact Magnitude.lt_eq_false_iff
  · cases v <;> cases w
    case text.text a b =>
      simp only [lt?, same, isUnordered, magnitude?, Option.some_inj, decide_eq_false_iff_not, decide_eq_true_iff,
        not_lt, beq_iff_eq, Bool.false_eq_true, or_false]
      exact (@le_iff_lt_or_eq String _ b a).trans (or_congr_right eq_comm)
    case uuid.uuid a b =>
      obtain ⟨a⟩ := a
      obtain ⟨b⟩ := b
      simp only [lt?, same, isUnordered, magnitude?, Uuid.lt, Option.some_inj, decide_eq_false_iff_not,
        decide_eq_true_iff, not_lt, beq_iff_eq, Uuid.mk.injEq, Bool.false_eq_true, or_false]
      exact le_iff_lt_or_eq.trans (or_congr_right eq_comm)
    case time.time a b =>
      have turned : b.comparable a = a.comparable b := Bool.beq_comm
      simp only [lt?, same, isUnordered, magnitude?, Timestamp.lt?, Timestamp.same, turned]
      cases a.comparable b with
      | false => simp
      | true => simp [le_iff_lt_or_eq, @eq_comm _ b.instant]
    -- values of different kinds have no order
    all_goals simp_all [lt?, same, isUnordered, magnitude?, isSingle, isNull, isNested]

theorem isBelow_eq_false_iff (single : v.isSingle = true ∨ w.isSingle = true) :
    v.isBelow w = .ok false ↔ v.IsAtLeast w := by
  rw [← lt?_eq_false_iff single, isBelow]
  cases v.lt? w <;> simp

/-- Values of a kind can be compared, times only if they are comparable. -/
theorem exists_isBelow (hv : kind.admits v = true) (hw : kind.admits w = true)
    (comparable : ∀ a b, v = .time a → w = .time b → a.comparable b = true) : ∃ b, v.isBelow w = .ok b := by
  cases kind <;> cases v <;> cases hv <;> cases w <;> cases hw <;>
    simp_all [isBelow, lt?, magnitude?, Timestamp.lt?]

/-! ## Ranges -/

/-- What lies between two bounds is at least the lower one, and the upper one is at least what lies there. -/
theorem between_eq_true_iff {least most : Value} (low : least.isNull = true ∨ least.isSingle = true)
    (high : most.isNull = true ∨ most.isSingle = true) : v.between least most = .ok true ↔
      v.isNull = false ∧ (least.isNull = true ∨ v.IsAtLeast least) ∧ (most.isNull = true ∨ most.IsAtLeast v) := by
  have reached (given : least.isNull = false) : v.IsAtLeast least ↔ v.isBelow least = .ok false :=
    (isBelow_eq_false_iff (.inr (low.resolve_left (by simp [given])))).symm
  have kept (given : most.isNull = false) : most.IsAtLeast v ↔ most.isBelow v = .ok false :=
    (isBelow_eq_false_iff (.inl (high.resolve_left (by simp [given])))).symm
  unfold between
  generalize v.isBelow least = tooLow at reached ⊢
  generalize most.isBelow v = tooHigh at kept ⊢
  cases v.isNull with
  | true => simp
  | false =>
    cases openLow : least.isNull <;> cases openHigh : most.isNull <;>
      rcases tooLow with _ | _ | _ <;> rcases tooHigh with _ | _ | _ <;> simp_all [bind, Except.bind]

theorem exists_between {least most : Value} (low : least.isNull = true ∨ ∃ b, v.isBelow least = .ok b)
    (high : most.isNull = true ∨ ∃ b, most.isBelow v = .ok b) : ∃ b, v.between least most = .ok b := by
  unfold between
  cases v.isNull with
  | true => exact ⟨false, rfl⟩
  | false =>
    cases openLow : least.isNull <;> cases openHigh : most.isNull <;>
      rcases low with null | ⟨_ | _, low⟩ <;> rcases high with null' | ⟨_ | _, high⟩ <;> simp_all

end Venues.Value
