import Venues.Proofs.Float

/-! # The order of floats

Floats compare as the exact numbers do that they stand for. A finite float holds its digits in normal form, so
that its exponent decides first, and the digits of floats with equal exponents after it.
-/

namespace Venues

namespace Unpacked

open Float.Model
open Float.Model.UnpackedFloat

variable {u v : UnpackedFloat} {a b : Magnitude}

/-! ## Exact sizes -/

/-- The number of least units that a mantissa and an exponent stand for. -/
def unitsOf (m : Nat) (e : Int) : Nat := m * 2 ^ (e + 1074).toNat

/-- Whether a mantissa has as many digits as fit, unless the exponent is the least one. -/
structure IsNormal (m : Nat) (e : Int) : Prop where
  least : -1074 ≤ e
  few : m < 2 ^ 53
  full : e = -1074 ∨ 2 ^ 52 ≤ m

/-- Whether an unpacked float in normal form stands for a number of a magnitude. -/
inductive Measures : UnpackedFloat → Magnitude → Prop
  | notANumber : Measures .notANumber .undefined
  | lowest : Measures (.infinity .negative) .lowest
  | highest : Measures (.infinity .positive) .highest
  | zero {s : Sign} : Measures (.zero s) (.units 0)
  | below {m : Nat} {e : Int} {pos : 0 < m} (normal : IsNormal m e) :
      Measures (.finite .negative m e pos) (.units (-(unitsOf m e : Int)))
  | above {m : Nat} {e : Int} {pos : 0 < m} (normal : IsNormal m e) :
      Measures (.finite .positive m e pos) (.units (unitsOf m e))

theorem ofBitVec_unpackSign (bits : BitVec 64) : Sign.ofBitVec (@unpackSign Format.binary64 bits) =
    if bits.toNat / 2 ^ 63 % 2 = 1 then .negative else .positive := by
  have value : (@unpackSign Format.binary64 bits).toNat = bits.toNat / 2 ^ 63 % 2 := by
    delta unpackSign
    simp [Nat.shiftRight_eq_div_pow]
  rw [← value, Sign.ofBitVec]
  by_cases positive : @unpackSign Format.binary64 bits = 0#1
  · rw [if_pos positive, positive]
    rfl
  · rw [if_neg positive, if_pos]
    have bit : (@unpackSign Format.binary64 bits).toNat < 2 := BitVec.isLt _
    have nonzero : (@unpackSign Format.binary64 bits).toNat ≠ 0 := fun zero => positive (BitVec.eq_of_toNat_eq zero)
    omega

section Signs

variable {negative : Prop} [Decidable negative]

theorem measures_infinite : Measures (.infinity (if negative then .negative else .positive))
    (if decide negative = true then .lowest else .highest) := by
  by_cases sign : negative
  · rw [if_pos sign, if_pos (decide_eq_true sign)]
    exact .lowest
  · rw [if_neg sign, if_neg (by simpa using sign)]
    exact .highest

theorem measures_finite {m : Nat} {e : Int} {pos : 0 < m} {count : Nat} (size : count = unitsOf m e)
    (normal : IsNormal m e) : Measures (.finite (if negative then .negative else .positive) m e pos)
      (.units (if decide negative = true then -(count : Int) else count)) := by
  subst size
  by_cases sign : negative
  · rw [if_pos sign, if_pos (decide_eq_true sign)]
    exact .below normal
  · rw [if_neg sign, if_neg (by simpa using sign)]
    exact .above normal

end Signs

/-- The digits of a float with an exponent above the least one begin with a one that is not written. -/
theorem toNat_one_append (fraction : BitVec 52) : (1#1 ++ fraction).toNat = 2 ^ 52 + fraction.toNat := by
  change 2 ^ 52 ||| fraction.toNat = _
  rw [Nat.or_comm, Nat.or_two_pow_eq_add_of_lt fraction.isLt, Nat.add_comm]

/-- A float stands for a number of its magnitude. -/
theorem measures_unpack (x : Float) : Measures x.toModel.unpack (Magnitude.ofFloat x) := by
  have exponent := toNat_unpackExponent x.toModel.toBits.toBitVec
  have fraction := toNat_unpackMantissa x.toModel.toBits.toBitVec
  have sign := ofBitVec_unpackSign x.toModel.toBits.toBitVec
  have bits : x.toModel.toBits.toBitVec.toNat = x.toBits.toNat := rfl
  rw [bits] at exponent fraction sign
  unfold Float.Model.unpack UnpackedFloat.unpack Magnitude.ofFloat Magnitude.ofFields
  dsimp only
  rw [sign, ← exponent, ← fraction]
  -- from here on the two read the same fields, the exponent first
  generalize @unpackExponent Format.binary64 x.toModel.toBits.toBitVec = e
  let m : BitVec 52 := @unpackMantissa Format.binary64 x.toModel.toBits.toBitVec
  have few : m.toNat < 2 ^ 52 := m.isLt
  have most : e.toNat = 2047 ↔ e = -1#11 := ⟨fun same => BitVec.eq_of_toNat_eq same, congrArg BitVec.toNat⟩
  have least : e.toNat = 0 ↔ e = 0#11 := ⟨fun same => BitVec.eq_of_toNat_eq same, congrArg BitVec.toNat⟩
  have none : m.toNat = 0 ↔ m = 0#52 := ⟨fun same => BitVec.eq_of_toNat_eq same, congrArg BitVec.toNat⟩
  by_cases special : e.toNat = 2047
  · rw [if_pos special, if_pos (most.mp special)]
    by_cases empty : m.toNat = 0
    · rw [if_pos (none.mp empty), if_neg (not_not_intro empty)]
      exact measures_infinite
    · rw [if_neg (mt none.mpr empty), if_pos empty]
      exact .notANumber
  · rw [if_neg special, if_neg (mt most.mpr special)]
    by_cases small : e.toNat = 0
    · rw [if_pos small, if_pos (least.mp small), small]
      refine dite_induction (motive := fun u => Measures u _) (fun empty => ?_) fun _ => ?_
      · rw [empty]
        simpa using Measures.zero
      · exact measures_finite (Nat.mul_one _).symm ⟨Int.le_refl _, Nat.lt_trans few (by decide), .inl rfl⟩
    · have digits := toNat_one_append m
      rw [if_neg small, if_neg (mt least.mpr small)]
      change Measures (.finite _ (1#1 ++ m).toNat ((_ : Nat) - 1075 : Int) _) _
      refine measures_finite ?_ ⟨by omega, by omega, .inr (by omega)⟩
      rw [unitsOf, digits]
      congr 2
      omega

/-! ## Comparison -/

/-- Of two numbers in normal form the one with the greater exponent is greater. -/
theorem compare_unitsOf {m n : Nat} {e f : Int} (hm : IsNormal m e) (hn : IsNormal n f) :
    (compare e f).then (compare m n) = compare (unitsOf m e) (unitsOf n f) := by
  -- what has a lower exponent ends below the first number with the next one
  have below {m n : Nat} {e f : Int} (hm : IsNormal m e) (hn : IsNormal n f) (lower : e < f) :
      unitsOf m e < unitsOf n f := by
    obtain ⟨least, few, _⟩ := hm
    have next : (e + 1074).toNat + 1 ≤ (f + 1074).toNat := by omega
    calc unitsOf m e < 2 ^ 53 * 2 ^ (e + 1074).toNat := Nat.mul_lt_mul_of_pos_right few (Nat.two_pow_pos _)
      _ = 2 ^ 52 * 2 ^ ((e + 1074).toNat + 1) := by rw [Nat.pow_succ]; omega
      _ ≤ n * 2 ^ (f + 1074).toNat :=
        Nat.mul_le_mul (hn.full.resolve_left (by omega)) (Nat.pow_le_pow_right (by decide) next)
  rcases lt_trichotomy e f with lower | rfl | higher
  · rw [compare_lt_iff_lt.mpr lower, compare_lt_iff_lt.mpr (below hm hn lower)]
    rfl
  · rw [compare_eq_iff_eq.mpr rfl]
    -- with equal exponents the units grow with the digits
    have within (m n : Nat) : unitsOf m e < unitsOf n e ↔ m < n := Nat.mul_lt_mul_right (Nat.two_pow_pos _)
    exact (compare_eq_of_lt_iff (within m n) (within n m)).symm
  · rw [compare_gt_iff_gt.mpr higher, compare_gt_iff_gt.mpr (below hn hm higher)]
    rfl

theorem compare_natCast (m n : Nat) : compare (m : Int) n = compare m n :=
  compare_eq_of_lt_iff Int.ofNat_lt Int.ofNat_lt

theorem compare_neg (m n : Int) : compare (-m) (-n) = (compare m n).swap := by
  rw [Int.compare_swap]
  exact compare_eq_of_lt_iff Int.neg_lt_neg_iff Int.neg_lt_neg_iff

theorem rank_units_lt {m n : Int} : (Magnitude.units m).rank < (Magnitude.units n).rank ↔ m < n :=
  WithBot.coe_lt_coe.trans WithTop.coe_lt_coe

theorem compare_rank_units (m n : Int) :
    compare (Magnitude.units m).rank (Magnitude.units n).rank = compare m n :=
  compare_eq_of_lt_iff rank_units_lt rank_units_lt

theorem rank_lowest_lt (n : Int) : Magnitude.lowest.rank < (Magnitude.units n).rank := WithBot.bot_lt_coe _

theorem rank_lt_highest (n : Int) : (Magnitude.units n).rank < Magnitude.highest.rank :=
  WithBot.coe_lt_coe.mpr (WithTop.coe_lt_top _)

section Zero

variable {m : Nat} (e : Int) (pos : 0 < m)
include pos

theorem unitsOf_pos : 0 < unitsOf m e := Nat.mul_pos pos (Nat.two_pow_pos _)

theorem rank_below_lt_zero : (Magnitude.units (-(unitsOf m e : Int))).rank < (Magnitude.units 0).rank := by
  have size := unitsOf_pos e pos
  exact rank_units_lt.mpr (by omega)

theorem rank_zero_lt_above : (Magnitude.units 0).rank < (Magnitude.units (unitsOf m e)).rank := by
  have size := unitsOf_pos e pos
  exact rank_units_lt.mpr (by omega)

end Zero

/-- Unpacked floats compare as the magnitudes of their numbers do. -/
theorem Measures.compare_eq (hu : Measures u a) (hv : Measures v b) (ha : a ≠ .undefined) (hb : b ≠ .undefined) :
    u.compare v = some (compare a.rank b.rank) := by
  have less {a b : Magnitude} (below : a.rank < b.rank) : some Ordering.lt = some (compare a.rank b.rank) := by
    rw [compare_lt_iff_lt.mpr below]
  have more {a b : Magnitude} (above : b.rank < a.rank) : some Ordering.gt = some (compare a.rank b.rank) := by
    rw [compare_gt_iff_gt.mpr above]
  have level {a : Magnitude} : some Ordering.eq = some (compare a.rank a.rank) := by
    rw [compare_eq_iff_eq.mpr rfl]
  -- below zero, zero and above zero stand in this order, between the infinite ones
  cases hu with
  | notANumber => exact absurd rfl ha
  | lowest =>
    cases hv with
    | notANumber => exact absurd rfl hb
    | lowest => exact level
    | highest => exact less (WithBot.bot_lt_coe _)
    | zero | below | above => exact less (rank_lowest_lt _)
  | highest =>
    cases hv with
    | notANumber => exact absurd rfl hb
    | lowest => exact more (WithBot.bot_lt_coe _)
    | highest => exact level
    | zero | below | above => exact more (rank_lt_highest _)
  | zero =>
    cases hv with
    | notANumber => exact absurd rfl hb
    | lowest => exact more (rank_lowest_lt 0)
    | highest => exact less (rank_lt_highest 0)
    | zero => exact level
    | @below m e pos => exact more (rank_below_lt_zero e pos)
    | @above m e pos => exact less (rank_zero_lt_above e pos)
  | @below m e pos normal =>
    cases hv with
    | notANumber => exact absurd rfl hb
    | lowest => exact more (rank_lowest_lt _)
    | highest => exact less (rank_lt_highest _)
    | zero => exact less (rank_below_lt_zero e pos)
    | @below m' e' _ normal' =>
      rw [compare_rank_units, compare_neg, compare_natCast, ← compare_unitsOf normal normal']
      rfl
    | @above m' e' pos' _ => exact less ((rank_below_lt_zero e pos).trans (rank_zero_lt_above e' pos'))
  | @above m e pos normal =>
    cases hv with
    | notANumber => exact absurd rfl hb
    | lowest => exact more (rank_lowest_lt _)
    | highest => exact less (rank_lt_highest _)
    | zero => exact more (rank_zero_lt_above e pos)
    | @below m' e' pos' _ => exact more ((rank_below_lt_zero e' pos').trans (rank_zero_lt_above e pos))
    | @above m' e' _ normal' =>
      rw [compare_rank_units, compare_natCast, ← compare_unitsOf normal normal']
      rfl

/-- What is not a number has no order. -/
theorem Measures.compare_eq_none (hu : Measures u a) (hv : Measures v b) (odd : a = .undefined ∨ b = .undefined) :
    u.compare v = none := by
  rcases odd with rfl | rfl
  · cases hu
    rfl
  · cases hv
    cases u <;> rfl

end Unpacked

namespace Magnitude

variable {x y : Float}

/-! ## Floats and their magnitudes -/

/-- How two floats compare says which of them is less, by their magnitudes. -/
theorem compare_ofFloat (x y : Float) :
    (ofFloat x).lt (ofFloat y) = (x.toModel.unpack.compare y.toModel.unpack == some .lt) ∧
      (ofFloat x).same (ofFloat y) = (x.toModel.unpack.compare y.toModel.unpack == some .eq) := by
  have left := Unpacked.measures_unpack x
  have right := Unpacked.measures_unpack y
  by_cases odd : ofFloat x = .undefined ∨ ofFloat y = .undefined
  · rw [left.compare_eq_none right odd]
    rcases odd with odd | odd
    · rw [odd]
      exact ⟨rfl, rfl⟩
    · rw [odd]
      cases ofFloat x <;> exact ⟨rfl, rfl⟩
  · obtain ⟨hx, hy⟩ := not_or.mp odd
    obtain ⟨same, below, _⟩ := compare_rank hx hy
    rw [left.compare_eq right hx hy, same, below]
    exact ⟨rfl, rfl⟩

theorem same_ofFloat : (x == y) = (ofFloat x).same (ofFloat y) := (compare_ofFloat x y).2.symm

theorem le_ofFloat : x ≤ y ↔ (ofFloat x).lt (ofFloat y) = true ∨ (ofFloat x).same (ofFloat y) = true := by
  rw [(compare_ofFloat x y).1, (compare_ofFloat x y).2]
  have model : x ≤ y ↔ (x.toModel.unpack.compare y.toModel.unpack).any Ordering.isLE = true := decide_eq_true_iff
  rw [model]
  rcases x.toModel.unpack.compare y.toModel.unpack with _ | _ | _ | _ <;> decide

end Magnitude
end Venues
