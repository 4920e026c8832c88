import Mathlib.Order.ConditionallyCompleteLattice.Basic
import Mathlib.Data.Int.ConditionallyCompleteOrder
import Venues.Number.Magnitude

/-! # The order of magnitudes

A floating-point number has an undefined magnitude exactly if it is not a number. All other magnitudes
are ordered like the integers with a lowest and a highest element.
-/

namespace Venues

/-- What either branch of a choice has, whatever decides it, the choice has. -/
theorem dite_induction {α : Type} {c : Prop} [Decidable c] {motive : α → Prop} {t : c → α} {e : ¬c → α}
    (pos : ∀ h, motive (t h)) (neg : ∀ h, motive (e h)) : motive (if h : c then t h else e h) := by
  by_cases h : c
  · rw [dif_pos h]
    exact pos h
  · rw [dif_neg h]
    exact neg h

/-- What stands in its order as something else does compares as that does. -/
theorem compare_eq_of_lt_iff {α β : Type} [LinearOrder α] [LinearOrder β] {x y : α} {m n : β}
    (below : x < y ↔ m < n) (above : y < x ↔ n < m) : compare x y = compare m n := by
  rcases lt_trichotomy x y with less | rfl | greater
  · rw [compare_lt_iff_lt.mpr less, compare_lt_iff_lt.mpr (below.mp less)]
  · have level : m = n := le_antisymm (not_lt.mp (mt above.mpr (lt_irrefl x))) (not_lt.mp (mt below.mpr (lt_irrefl x)))
    rw [level, compare_eq_iff_eq.mpr rfl, compare_eq_iff_eq.mpr rfl]
  · rw [compare_gt_iff_gt.mpr greater, compare_gt_iff_gt.mpr (above.mp greater)]

namespace Magnitude

open Float.Model (Format UnpackedFloat)

/-! ## Undefined magnitudes -/

/-- What stands in the exponent of a double that is not a number, and that its fraction is not zero. -/
theorem unpack_isNaN (bits : BitVec 64) :
    (UnpackedFloat.unpack Format.binary64 bits).isNaN =
      (decide (bits.toNat / 2 ^ 52 % 2048 = 2047) && decide (bits.toNat % 2 ^ 52 ≠ 0)) := by
  have exponent : @UnpackedFloat.unpackExponent Format.binary64 bits = -1#11 ↔
      bits.toNat / 2 ^ 52 % 2048 = 2047 := by
    rw [← BitVec.toNat_inj]
    simp [UnpackedFloat.unpackExponent, Nat.shiftRight_eq_div_pow]
  have fraction : @UnpackedFloat.unpackMantissa Format.binary64 bits = 0#52 ↔
      bits.toNat % 2 ^ 52 = 0 := by
    rw [← BitVec.toNat_inj]
    simp [UnpackedFloat.unpackMantissa]
  unfold UnpackedFloat.unpack
  dsimp only
  by_cases full : bits.toNat / 2 ^ 52 % 2048 = 2047
  · rw [if_pos (exponent.mpr full), decide_eq_true full, Bool.true_and]
    by_cases bare : bits.toNat % 2 ^ 52 = 0
    · rw [if_pos (fraction.mpr bare), decide_eq_false (not_not.mpr bare)]
      rfl
    · rw [if_neg (mt fraction.mp bare), decide_eq_true bare]
      rfl
  · rw [if_neg (mt exponent.mp full), decide_eq_false full, Bool.false_and]
    by_cases least : @UnpackedFloat.unpackExponent Format.binary64 bits = 0#11
    · rw [if_pos least]
      exact dite_induction (motive := fun u : UnpackedFloat => u.isNaN = false) (fun _ => rfl) fun _ => rfl
    · rw [if_neg least]
      rfl

theorem ofFloat_eq_undefined_iff {x : Float} : ofFloat x = .undefined ↔ x.isNaN = true := by
  have model : x.isNaN = (UnpackedFloat.unpack Format.binary64 x.toBits.toBitVec).isNaN := rfl
  rw [model, unpack_isNaN]
  simp only [ofFloat, ofFields, UInt64.toNat_toBitVec]
  split <;> simp_all
  split <;> simp_all

/-! ## Whole numbers -/

theorem same_ofInt (m n : Int) : (ofInt m).same (ofInt n) = decide (m = n) := by
  have unit : (2 : Int) ^ unitBits ≠ 0 := Int.pow_ne_zero (by decide)
  simp [same, ofInt, Int.mul_eq_mul_right_iff unit]

theorem same_comm (a b : Magnitude) : a.same b = b.same a := by
  rw [Bool.eq_iff_iff, same, same]
  simp only [Bool.and_eq_true, decide_eq_true_eq]
  constructor <;> (rintro ⟨proper, rfl⟩; exact ⟨proper, rfl⟩)

theorem lt_ofInt (m n : Int) : (ofInt m).lt (ofInt n) = decide (m < n) := by
  have unit : (0 : Int) < (2 : Int) ^ unitBits := Int.pow_pos (by decide)
  simp only [lt, ofInt, decide_eq_decide]
  exact Int.mul_lt_mul_right unit

/-! ## Ranks -/

/-- The place of a magnitude among the integers and their two ends. -/
def rank : Magnitude → WithBot (WithTop Int)
  | .undefined | .lowest => ⊥
  | .units n => ((n : WithTop Int) : WithBot (WithTop Int))
  | .highest => ((⊤ : WithTop Int) : WithBot (WithTop Int))

theorem rank_injective {a b : Magnitude} (ha : a ≠ .undefined) (hb : b ≠ .undefined)
    (same : a.rank = b.rank) : a = b := by
  cases a <;> cases b <;> simp_all [rank]

theorem lt_iff_rank_lt {a b : Magnitude} (ha : a ≠ .undefined) (hb : b ≠ .undefined) :
    a.lt b = true ↔ a.rank < b.rank := by
  cases a <;> cases b <;> simp_all [lt, rank]
  exact WithBot.coe_lt_coe.mpr (WithTop.coe_lt_top _)

theorem compare_key {α : Type} [LinearOrder α] (a b : α) : decide (a = b) = (compare a b == .eq) ∧
    decide (a < b) = (compare a b == .lt) ∧ decide (b < a) = (compare a b == .gt) := by
  rcases lt_trichotomy a b with below | rfl | above
  · simp [compare_lt_iff_lt.mpr below, below.ne, below.not_gt, below]
  · simp
  · simp [compare_gt_iff_gt.mpr above, above.ne', above.not_gt, above]

/-- Magnitudes of numbers compare as their ranks do. -/
theorem compare_rank {a b : Magnitude} (ha : a ≠ .undefined) (hb : b ≠ .undefined) :
    a.same b = (compare a.rank b.rank == .eq) ∧ a.lt b = (compare a.rank b.rank == .lt) ∧
      b.lt a = (compare a.rank b.rank == .gt) := by
  obtain ⟨same, below, above⟩ := compare_key a.rank b.rank
  have equal : a.same b = decide (a.rank = b.rank) := by
    rw [Magnitude.same, decide_eq_true ha, Bool.true_and, decide_eq_decide]
    exact ⟨congrArg rank, rank_injective ha hb⟩
  rw [equal, ← same, ← below, ← above]
  refine ⟨rfl, ?_, ?_⟩
  · rw [Bool.eq_iff_iff, lt_iff_rank_lt ha hb, decide_eq_true_iff]
  · rw [Bool.eq_iff_iff, lt_iff_rank_lt hb ha, decide_eq_true_iff]

/-- What does not lie below another magnitude lies above it or is the same, if both are those of numbers. -/
theorem lt_eq_false_iff {a b : Magnitude} :
    a.lt b = false ↔ b.lt a = true ∨ a.same b = true ∨ a = .undefined ∨ b = .undefined := by
  by_cases ha : a = .undefined
  · subst ha
    simp [lt]
  by_cases hb : b = .undefined
  · subst hb
    cases a <;> simp [lt]
  · obtain ⟨same, below, above⟩ := compare_rank ha hb
    rw [same, below, above]
    cases compare a.rank b.rank <;> simp [ha, hb]

end Magnitude
end Venues
