import Venues.Proofs.Value.Order

/-! # Values that are read

A value of a kind is read as it is. Numbers can be read for each of the kinds of numbers, and keep their sizes, with
one exception: some whole numbers are no floating-point numbers, and are rounded to one.
-/

namespace Venues

/-- A magnitude that is that of a whole number is that of the number that is left when it is cut. -/
theorem Magnitude.ofInt_of_truncate? {size : Magnitude} {n : Int} (cut : size.truncate? = some n)
    (whole : size.isWhole = true) : ofInt n = size := by
  cases size with
  | units k =>
    cases cut
    exact congrArg Magnitude.units (Int.tdiv_mul_cancel (Int.dvd_of_tmod_eq_zero (by simpa [isWhole] using whole)))
  | _ => cases cut

/-- Whether a kind is one of numbers, truth values among them. -/
def FieldKind.isNumeric (kind : FieldKind) : Bool := kind = .truth || kind = .whole || kind = .real

/-- Whether a whole number is a floating-point number, too. -/
def IsExactReal (n : Int) : Prop := ∃ x, realOfInt? n = some x ∧ Magnitude.ofFloat x = .ofInt n

section Numbers

variable {kind : FieldKind} {v w : Value} {size : Magnitude}

theorem FieldKind.read_of_admits (admitted : kind.admits v = true) : kind.read v = .ok v := by
  cases kind <;> cases v <;> first | rfl | cases admitted

theorem ofInt_of_readTruth {b : Bool} (number : v.magnitude? = some size) (read : readTruth v = .ok b) :
    Magnitude.ofInt (if b then 1 else 0) = size := by
  cases v <;> cases number <;> simp only [readTruth] at read
  case bool.refl =>
    cases read
    rfl
  all_goals
    split at read
    · cases read
      simp_all
    · split at read
      · cases read
        simp_all
      · split at read <;> cases read

theorem ofInt_of_readWhole {n : Int} (number : v.magnitude? = some size) (read : readWhole v = .ok n) :
    Magnitude.ofInt n = size := by
  cases v <;> cases number <;> simp only [readWhole] at read
  case float.refl x =>
    split at read
    · cases read
    · rename_i cut
      split at read
      · cases read
      · rename_i whole
        split at read <;> cases read
        exact Magnitude.ofInt_of_truncate? cut (by simpa using whole)
  all_goals
    cases read
    rfl

theorem ofFloat_of_readReal {x : Float} (number : v.magnitude? = some size) (exact : ∀ n, v = .int n → IsExactReal n)
    (read : readReal v = .ok x) : Magnitude.ofFloat x = size := by
  cases v <;> cases number <;> simp only [readReal] at read
  case bool.refl b =>
    cases read
    cases b <;> decide +kernel
  case int.refl n =>
    obtain ⟨y, real, same⟩ := exact n rfl
    rw [real] at read
    cases read
    exact same
  case float.refl y =>
    cases read
    rfl

/-- What is read from a number has its size. -/
theorem FieldKind.magnitude?_of_read (numeric : kind.isNumeric = true) (number : v.magnitude? = some size)
    (exact : kind = .real → ∀ n, v = .int n → IsExactReal n) (read : kind.read v = .ok w) : w.magnitude? = some size := by
  cases kind with
  | text | uuid | time => cases numeric
  | truth =>
    obtain ⟨b, inner, rfl⟩ := map_eq_ok.mp read
    exact congrArg some (ofInt_of_readTruth number inner)
  | whole =>
    obtain ⟨n, inner, rfl⟩ := map_eq_ok.mp read
    exact congrArg some (ofInt_of_readWhole number inner)
  | real =>
    obtain ⟨x, inner, rfl⟩ := map_eq_ok.mp read
    exact congrArg some (ofFloat_of_readReal number (exact rfl) inner)

end Numbers
end Venues
