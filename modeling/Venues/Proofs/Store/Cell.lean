import Venues.Proofs.Store.Sound
import Venues.Proofs.Value.Order

/-! # Values and the cells that hold them

Values of one kind compare as the cells do that hold them, so the store can compare cells in their place.
Timestamps are left out: a cell has no room for their offset.
-/

namespace Venues

open Store (Cell)

variable {kind : FieldKind} {v w : Value} {o : Ordering}

/-! ## Values that are numbers -/

/-- Whether a value is a number if it is a floating-point number. -/
def Value.isDefined : Value → Bool
  | .float x => !x.isNaN
  | _ => true

theorem FieldKind.holds_of_admits (admitted : kind.admits v = true) (bounded : v.isBounded = true)
    (defined : v.isDefined = true) : kind.holds v = true := by
  cases kind <;> cases v <;> simp_all [admits, holds, Value.isBounded, Value.isDefined]

theorem FieldKind.isDefined_of_holds (held : kind.holds v = true) : v.isDefined = true := by
  cases kind <;> cases v <;> simp_all [holds, admits, Value.isDefined]

theorem Store.Cell.ofValue_float {x : Float} (defined : (Value.float x).isDefined = true) :
    Cell.ofValue (.float x) = .real x :=
  if_neg (by simpa [Value.isDefined] using defined)

/-! ## Comparisons -/

/-- Whether two values compare in a given way. -/
structure Value.Compares (v w : Value) (o : Ordering) : Prop where
  same : v.same w = (o == .eq)
  below : v.lt? w = some (o == .lt)
  above : w.lt? v = some (o == .gt)

/-- Values of a kind compare as their cells do. -/
theorem Value.compares_of_holds (timeless : kind ≠ .time) (hv : kind.holds v = true) (present : v.isNull = false)
    (hw : kind.holds w = true) (given : w.isNull = false) :
    v.Compares w ((Cell.ofValue v).order (Cell.ofValue w)) := by
  have admitted := (FieldKind.admits_of_holds hv present).1
  have admitted' := (FieldKind.admits_of_holds hw given).1
  cases kind with
  | time => exact absurd rfl timeless
  | text =>
    cases v <;> cases admitted
    cases w <;> cases admitted'
    rename_i a b
    obtain ⟨same, below, above⟩ := Magnitude.compare_key a b
    exact ⟨same, congrArg some below, congrArg some above⟩
  | uuid =>
    cases v <;> cases admitted
    cases w <;> cases admitted'
    rename_i a b
    obtain ⟨same, below, above⟩ := Magnitude.compare_key a.bits b.bits
    have equal : (a == b) = decide (a.bits = b.bits) := by
      rw [Bool.eq_iff_iff, beq_iff_eq, decide_eq_true_iff, Uuid.mk.injEq]
    exact ⟨equal.trans same, congrArg some below, congrArg some above⟩
  | truth =>
    cases v <;> cases admitted
    cases w <;> cases admitted'
    rename_i a b
    cases a <;> cases b <;> constructor <;> decide +kernel
  | whole =>
    cases v <;> cases admitted
    cases w <;> cases admitted'
    rename_i a b
    obtain ⟨same, below, above⟩ := Magnitude.compare_key a b
    exact ⟨same, congrArg some below, congrArg some above⟩
  | real =>
    cases v <;> cases admitted
    cases w <;> cases admitted'
    rename_i a b
    have number := FieldKind.isDefined_of_holds hv
    have number' := FieldKind.isDefined_of_holds hw
    -- what a column of doubles holds is a number, so it has a rank
    have size {x : Float} (number : (Value.float x).isDefined = true) : Magnitude.ofFloat x ≠ .undefined := by
      rw [Ne, Magnitude.ofFloat_eq_undefined_iff]
      simpa [Value.isDefined] using number
    obtain ⟨same, below, above⟩ := Magnitude.compare_rank (size number) (size number')
    rw [Cell.ofValue_float number, Cell.ofValue_float number', Cell.order_real_eq (size number) (size number')]
    exact ⟨same, congrArg some below, congrArg some above⟩

theorem Value.null_same (given : w.isNull = false) : Value.null.same w = false := by
  cases w <;> first | rfl | cases given

end Venues
