import Venues.Geo
import Venues.Proofs.Magnitude

/-! # Signs and sizes of floats

Products and sums of floats that are not negative are not negative, and a float that stays below a power
of two is finite. Both are read off the model of floats: an operation rounds an exact number, which keeps
its sign and adds at most one to its total exponent.
-/

namespace Venues.Unpacked

open Float.Model
open Float.Model.UnpackedFloat

variable {u v : UnpackedFloat} {s : Sign} {m n : Nat} {e e' bound : Int}

/-! ## Signs -/

/-- Whether an unpacked float is not below zero. -/
inductive IsNonneg : UnpackedFloat → Prop
  | notANumber : IsNonneg .notANumber
  | infinity : IsNonneg (.infinity .positive)
  | zero {s : Sign} : IsNonneg (.zero s)
  | finite {m : Nat} {e : Int} {pos : 0 < m} : IsNonneg (.finite .positive m e pos)

theorem isNonneg_iff_lt : IsNonneg u ↔ UnpackedFloat.lt u (.zero .positive) = false := by
  constructor
  · intro nonneg
    cases nonneg with
    | notANumber | infinity | finite => rfl
    | @zero s => cases s <;> rfl
  · intro above
    cases u with
    | notANumber => exact .notANumber
    | zero s => exact .zero
    | infinity s =>
      cases s with
      | negative => cases above
      | positive => exact .infinity
    | finite s m e pos =>
      cases s with
      | negative => cases above
      | positive => exact .finite

theorem isNonneg_iff {x : Float} : IsNonneg x.toModel.unpack ↔ ¬ x < 0 := by
  have zero : (0 : Float).toModel.unpack = .zero .positive := by with_unfolding_all rfl
  have below : x < 0 ↔ UnpackedFloat.lt x.toModel.unpack (.zero .positive) = true := by
    rw [← zero]
    exact decide_eq_true_iff
  rw [isNonneg_iff_lt, below, Bool.not_eq_true]

@[simp] theorem unpackSign_packComponents {spec : Format} {s : Sign} {exponent : BitVec spec.exponentBits}
    {mantissa : BitVec spec.mantissaBitsWithoutImplicit} :
    unpackSign (packComponents spec s exponent mantissa) = s.toBitVec := by
  ext i small
  obtain rfl : i = 0 := by omega
  delta unpackSign
  rw [packComponents]
  simp [BitVec.getLsbD_append, BitVec.getElem_append]

/-- What is packed with a positive sign is unpacked with it. -/
theorem isNonneg_unpack_packComponents (exponent : BitVec 11) (mantissa : BitVec 52) :
    IsNonneg (UnpackedFloat.unpack Format.binary64 (packComponents Format.binary64 .positive exponent mantissa)) := by
  have sign : Sign.ofBitVec (unpackSign (packComponents Format.binary64 .positive exponent mantissa)) = .positive := by
    rw [unpackSign_packComponents]
    rfl
  unfold UnpackedFloat.unpack
  dsimp only
  rw [sign]
  exact iteInduction (fun _ => iteInduction (fun _ => .infinity) fun _ => .notANumber) fun _ =>
    iteInduction (fun _ => dite_induction (fun _ => .zero) fun _ => .finite) fun _ => .finite

/-- A float that is not negative stays so when it is packed. -/
theorem IsNonneg.unpack_pack (nonneg : IsNonneg u) : IsNonneg (Float.Model.pack u).unpack := by
  show IsNonneg (UnpackedFloat.unpack Format.binary64 (UnpackedFloat.pack Format.binary64 u))
  cases nonneg with
  | notANumber | infinity => exact isNonneg_unpack_packComponents _ _
  | @zero s =>
    cases s with
    | negative => exact .zero
    | positive => exact isNonneg_unpack_packComponents _ _
  | finite =>
    unfold UnpackedFloat.pack
    dsimp only
    split
    · exact isNonneg_unpack_packComponents _ _
    · split <;> exact isNonneg_unpack_packComponents _ _

theorem isNonneg_roundWithAccuracy : IsNonneg (roundWithAccuracy Format.binary64 .positive m e .exact) := by
  unfold roundWithAccuracy
  exact dite_induction (fun _ => .zero) fun _ => .finite

theorem IsNonneg.mul (hu : IsNonneg u) (hv : IsNonneg v) : IsNonneg (UnpackedFloat.mul Format.binary64 u v) := by
  -- zero times infinity is not a number, and so not below zero either
  cases hu with
  | notANumber => exact .notANumber
  | infinity =>
    cases hv with
    | notANumber | zero => exact .notANumber
    | infinity | finite => exact .infinity
  | zero =>
    cases hv with
    | notANumber | infinity => exact .notANumber
    | zero | finite => exact .zero
  | finite =>
    cases hv with
    | notANumber => exact .notANumber
    | infinity => exact .infinity
    | zero => exact .zero
    | finite => exact isNonneg_roundWithAccuracy

theorem IsNonneg.add (hu : IsNonneg u) (hv : IsNonneg v) : IsNonneg (UnpackedFloat.add Format.binary64 u v) := by
  cases hu with
  | notANumber => exact .notANumber
  | infinity =>
    cases hv with
    | notANumber => exact .notANumber
    | infinity | zero | finite => exact .infinity
  | @zero s =>
    cases hv with
    | notANumber => exact .notANumber
    | infinity => exact .infinity
    | @zero t =>
      unfold UnpackedFloat.add
      dsimp only
      split <;> exact .zero
    | finite => exact .finite
  | @finite m₁ e₁ pos₁ =>
    cases hv with
    | notANumber => exact .notANumber
    | infinity => exact .infinity
    | zero => exact .finite
    | @finite m₂ e₂ pos₂ =>
      -- the exact sum is above zero
      have positive : compare ((m₁ <<< (e₁ - min e₁ e₂).toNat : Nat) + (m₂ <<< (e₂ - min e₁ e₂).toNat : Nat) : Int) 0 =
          .gt := by
        rw [Int.compare_eq_gt, Nat.shiftLeft_eq, Nat.shiftLeft_eq]
        have first := Nat.mul_pos pos₁ (Nat.two_pow_pos (e₁ - min e₁ e₂).toNat)
        omega
      show IsNonneg (UnpackedFloat.normalize _ ((m₁ <<< (e₁ - min e₁ e₂).toNat : Nat) + (m₂ <<< (e₂ - min e₁ e₂).toNat : Nat)) _ _)
      unfold UnpackedFloat.normalize
      rw [positive]
      exact isNonneg_roundWithAccuracy

/-! ## Sizes -/

/-- Whether an unpacked float is below a power of two in size, or not a number. -/
inductive IsBelow (bound : Int) : UnpackedFloat → Prop
  | notANumber : IsBelow bound .notANumber
  | zero {s : Sign} : IsBelow bound (.zero s)
  | finite {s : Sign} {m : Nat} {e : Int} {pos : 0 < m} :
      totalExponent m e ≤ bound → IsBelow bound (.finite s m e pos)

theorem IsBelow.mono {bound' : Int} (below : IsBelow bound u) (le : bound ≤ bound') : IsBelow bound' u := by
  cases below with
  | notANumber => exact .notANumber
  | zero => exact .zero
  | finite total => exact .finite (by omega)

theorem mantissa_shiftRight (em : ExtendedMantissa) : (em >>> n).mantissa = em.mantissa / 2 ^ n := by
  induction n with
  | zero => exact (Nat.div_one _).symm
  | succ n ih =>
    show (em >>> n).mantissa / 2 = _
    rw [ih, Nat.div_div_eq_div_mul, Nat.pow_succ]

theorem roundedMantissa_le (em : ExtendedMantissa) : em.roundedMantissa ≤ em.mantissa + 1 := by
  obtain ⟨m, _ | _, _ | _⟩ := em
  · exact Nat.le_succ m
  · exact Nat.le_succ m
  · show m + m % 2 ≤ m + 1
    omega
  · exact Nat.le_refl _

theorem log2_lt {k : Nat} (below : n < 2 ^ k) (pos : 0 < k) : n.log2 < k := by
  by_cases zero : n = 0
  · rw [zero]
    exact pos
  · exact (Nat.log2_lt zero).mpr below

theorem log2_div_add_le (reached : n ≤ m.log2) (pos : m ≠ 0) : (m / 2 ^ n).log2 + n ≤ m.log2 := by
  have part : m / 2 ^ n ≠ 0 := by
    have least : 2 ^ n ≤ m := (Nat.le_log2 pos).mp reached
    exact Nat.ne_of_gt (Nat.div_pos least (Nat.two_pow_pos n))
  rw [Nat.le_log2 pos, Nat.pow_add]
  calc 2 ^ (m / 2 ^ n).log2 * 2 ^ n ≤ m / 2 ^ n * 2 ^ n := Nat.mul_le_mul_right _ (Nat.log2_self_le part)
    _ ≤ m := Nat.div_mul_le_self m _

theorem log2_le_succ (le : m ≤ n + 1) : m.log2 ≤ n.log2 + 1 := by
  by_cases zero : m = 0
  · rw [zero]
    exact Nat.zero_le _
  · have below : n < 2 ^ (n.log2 + 1) := Nat.lt_log2_self
    have double : 2 ^ (n.log2 + 2) = 2 * 2 ^ (n.log2 + 1) := by rw [Nat.pow_succ, Nat.mul_comm]
    have fits := (Nat.log2_lt zero).mpr (by omega : m < 2 ^ (n.log2 + 2))
    omega

theorem log2_shiftLeft (pos : m ≠ 0) (k : Nat) : (m <<< k).log2 = m.log2 + k := by
  induction k with
  | zero => rfl
  | succ k ih =>
    have left : m <<< k ≠ 0 := by
      rw [Nat.shiftLeft_eq]
      exact Nat.mul_ne_zero pos (Nat.ne_of_gt (Nat.two_pow_pos k))
    rw [Nat.shiftLeft_succ, Nat.log2_two_mul left, ih]
    rfl

/-- The mantissa is shifted away only down to the least exponent. -/
theorem exists_shiftToTargetExponent (a : Accuracy) :
    ∃ k : Nat, (shiftToTargetExponent Format.binary64 m e a).1.mantissa = m / 2 ^ k ∧
      (shiftToTargetExponent Format.binary64 m e a).2 = e + k ∧ (k ≤ m.log2 ∨ e + k ≤ -1074) := by
  refine ⟨_, ?_, rfl, ?_⟩
  · show (ExtendedMantissa.ofMantissaAndAccuracy m a >>> (_ : Nat) : ExtendedMantissa).mantissa = _
    rw [mantissa_shiftRight]
    cases a with
    | exact => rfl
    | inexact relative => cases relative <;> rfl
  · show (max ((m.log2 : Int) + 1 + e - 53) (-1074) - e).toNat ≤ m.log2 ∨
      e + (max ((m.log2 : Int) + 1 + e - 53) (-1074) - e).toNat ≤ -1074
    omega

/-- Rounding adds at most one to the total exponent. -/
theorem isBelow_roundWithAccuracy (pos : 0 < m) (total : totalExponent m e ≤ bound) (low : -1074 ≤ bound) :
    IsBelow (bound + 1) (roundWithAccuracy Format.binary64 s m e .exact) := by
  unfold totalExponent at total
  obtain ⟨k, part, lifted, reach⟩ := @exists_shiftToTargetExponent m e .exact
  have rounded := roundedMantissa_le (shiftToTargetExponent Format.binary64 m e .exact).1
  unfold roundWithAccuracy
  dsimp only
  generalize (shiftToTargetExponent Format.binary64 m e .exact).1.roundedMantissa = r at rounded
  rw [part] at rounded
  rw [lifted]
  have total' : (r.log2 : Int) + e + k ≤ bound := by
    by_cases some' : k ≤ m.log2
    · have shifted := log2_div_add_le some' (Nat.ne_of_gt pos)
      have carry := log2_le_succ rounded
      omega
    · -- nothing is left but what is rounded up
      have below : m < 2 ^ k := (Nat.log2_lt (Nat.ne_of_gt pos)).mp (by omega)
      rw [Nat.div_eq_of_lt below] at rounded
      have unit : r.log2 = 0 := by
        rcases Nat.le_one_iff_eq_zero_or_eq_one.mp rounded with rfl | rfl <;> rfl
      omega
  obtain ⟨k', part', lifted', _⟩ := @exists_shiftToTargetExponent r (e + k) .exact
  refine dite_induction (fun _ => .zero) fun left => .finite ?_
  rw [part'] at left
  rw [totalExponent, part', lifted']
  have some' : r ≠ 0 := by
    rintro rfl
    exact left (Nat.zero_div _)
  have reached : k' ≤ r.log2 := (Nat.le_log2 some').mpr (Nat.le_of_not_lt fun below =>
    left (Nat.div_eq_of_lt below))
  have shifted := log2_div_add_le reached some'
  omega

/-! ## Operations -/

theorem IsBelow.mul {bound' : Int} (hu : IsBelow bound u) (hv : IsBelow bound' v) (low : -1074 ≤ bound + bound') :
    IsBelow (bound + bound' + 1) (UnpackedFloat.mul Format.binary64 u v) := by
  cases hu with
  | notANumber => exact .notANumber
  | zero =>
    cases hv with
    | notANumber => exact .notANumber
    | zero | finite => exact .zero
  | @finite _ m₁ e₁ pos₁ total₁ =>
    cases hv with
    | notANumber => exact .notANumber
    | zero => exact .zero
    | @finite _ m₂ e₂ pos₂ total₂ =>
      refine isBelow_roundWithAccuracy (Nat.mul_pos pos₁ pos₂) ?_ low
      -- a product has at most as many binary digits as its factors together
      have product : (m₁ * m₂).log2 < (m₁.log2 + 1) + (m₂.log2 + 1) := by
        rw [Nat.log2_lt (Nat.ne_of_gt (Nat.mul_pos pos₁ pos₂)), Nat.pow_add]
        exact Nat.mul_lt_mul'' Nat.lt_log2_self Nat.lt_log2_self
      unfold totalExponent at total₁ total₂ ⊢
      omega

theorem isBelow_round (pos : 0 < m) (total : totalExponent m e ≤ bound) (low : -1074 ≤ bound) :
    IsBelow (bound + 1) (UnpackedFloat.round Format.binary64 s m e) := by
  unfold UnpackedFloat.round decreaseExponent
  dsimp only
  generalize (e - Format.binary64.targetExponent (totalExponent m e)).toNat = k
  refine isBelow_roundWithAccuracy (by rw [Nat.shiftLeft_eq]; exact Nat.mul_pos pos (Nat.two_pow_pos k)) ?_ low
  have shifted : (m <<< k).log2 = m.log2 + k := log2_shiftLeft (Nat.ne_of_gt pos) k
  unfold totalExponent at total ⊢
  omega

theorem decreaseExponent_lt (pos : 0 < m) (total : totalExponent m e ≤ bound) (le : e' ≤ e) :
    m <<< (e - e').toNat < 2 ^ (bound - e').toNat := by
  have nonzero : m <<< (e - e').toNat ≠ 0 := by
    rw [Nat.shiftLeft_eq]
    exact Nat.mul_ne_zero (Nat.ne_of_gt pos) (Nat.ne_of_gt (Nat.two_pow_pos _))
  rw [← Nat.log2_lt nonzero, log2_shiftLeft (Nat.ne_of_gt pos)]
  unfold totalExponent at total
  omega

theorem natAbs_sub_apply_lt (s s' : Sign) {k : Nat} (first : m < 2 ^ k) (second : n < 2 ^ k) :
    (s.apply m - s'.apply n).natAbs < 2 ^ (k + 1) := by
  rw [Nat.pow_succ]
  cases s <;> cases s' <;> simp only [Sign.apply] <;> omega

/-- An exact number below a power of two may reach that power when it is rounded. -/
theorem isBelow_normalize {mantissa : Int} (few : mantissa.natAbs < 2 ^ (bound - e).toNat) (low : -1073 ≤ bound) :
    IsBelow (bound + 1) (UnpackedFloat.normalize Format.binary64 mantissa e s) := by
  have rounded {k : Nat} {s : Sign} (pos : 0 < k) (same : mantissa.natAbs = k) :
      IsBelow (bound + 1) (UnpackedFloat.round Format.binary64 s k e) := by
    have digits := (Nat.log2_lt (Nat.ne_of_gt pos)).mpr (same ▸ few)
    refine isBelow_round pos ?_ (by omega)
    unfold totalExponent
    omega
  unfold UnpackedFloat.normalize
  split
  · rename_i negative
    rw [Int.compare_eq_lt] at negative
    exact rounded (by omega) (by omega)
  · exact .zero
  · rename_i positive
    rw [Int.compare_eq_gt] at positive
    exact rounded (by omega) (by omega)

theorem IsBelow.sub (hu : IsBelow bound u) (hv : IsBelow bound v) (low : -1074 ≤ bound) :
    IsBelow (bound + 2) (UnpackedFloat.sub Format.binary64 u v) := by
  cases hu with
  | notANumber => exact .notANumber
  | @zero s =>
    cases hv with
    | notANumber => exact .notANumber
    | @zero t =>
      unfold UnpackedFloat.sub
      dsimp only
      split <;> exact .zero
    | finite total => exact .finite (by omega)
  | @finite s₁ m₁ e₁ pos₁ total₁ =>
    cases hv with
    | notANumber => exact .notANumber
    | zero => exact .finite (by omega)
    | @finite s₂ m₂ e₂ pos₂ total₂ =>
      have first := decreaseExponent_lt pos₁ total₁ (Int.min_le_left e₁ e₂)
      have second := decreaseExponent_lt pos₂ total₂ (Int.min_le_right e₁ e₂)
      have least : min e₁ e₂ ≤ bound := by
        unfold totalExponent at total₁
        omega
      -- the exact difference is below the next power of two, and rounding may reach it
      have difference := natAbs_sub_apply_lt s₁ s₂ first second
      have next : (bound + 1 - min e₁ e₂).toNat = (bound - min e₁ e₂).toNat + 1 := by omega
      rw [← next] at difference
      exact (isBelow_normalize difference (by omega)).mono (by omega)

/-! ## Packing -/

/-- A float is unpacked as one below the power of two that its exponent names. -/
theorem isBelow_unpack {bits : BitVec 64} (finite : (@unpackExponent Format.binary64 bits).toNat < 2047)
    (small : ((@unpackExponent Format.binary64 bits).toNat : Int) - 1022 ≤ bound) (low : -1022 ≤ bound) :
    IsBelow bound (UnpackedFloat.unpack Format.binary64 bits) := by
  unfold UnpackedFloat.unpack
  dsimp only
  refine iteInduction (fun full => ?_) fun _ => iteInduction (fun zero => ?_) fun _ => .finite ?_
  · rw [full] at finite
    cases Nat.lt_irrefl _ finite
  · refine dite_induction (fun _ => .zero) fun _ => .finite ?_
    have few : (@unpackMantissa Format.binary64 bits).toNat.log2 < 52 :=
      log2_lt (BitVec.isLt _) (by decide)
    rw [zero]
    show _ + 1 + (((0 : Nat) : Int) - 1075 + 1) ≤ bound
    omega
  · have few : (1#1 ++ @unpackMantissa Format.binary64 bits).toNat.log2 < 53 :=
      log2_lt (BitVec.isLt _) (by decide)
    show _ + 1 + ((_ : Int) - 1075) ≤ bound
    omega

/-- A float that is small enough is neither lost nor made infinite when it is packed. -/
theorem IsBelow.unpack_pack (below : IsBelow bound u) (low : -1022 ≤ bound) (high : bound ≤ 971) :
    IsBelow bound (Float.Model.pack u).unpack := by
  show IsBelow bound (UnpackedFloat.unpack Format.binary64 (UnpackedFloat.pack Format.binary64 u))
  cases below with
  | notANumber => exact .notANumber
  | @zero s => cases s <;> exact .zero
  | @finite s m e pos total =>
    unfold totalExponent at total
    have packed : UnpackedFloat.pack Format.binary64 (.finite s m e pos) =
        if 2 ^ 11 ≤ (e + 1023 + 52).toNat + 1 then packedInfinity Format.binary64 s
        else if m.log2 + 1 = 53 then
          packComponents Format.binary64 s (BitVec.ofNat 11 (e + 1023 + 52).toNat) (BitVec.ofNat 52 m)
        else packComponents Format.binary64 s 0#11 (BitVec.ofNat 52 m) := rfl
    -- the exponent stays below the one that stands for infinity
    rw [packed, if_neg (by omega)]
    split
    · have exponent : (BitVec.ofNat 11 (e + 1023 + 52).toNat).toNat = (e + 1023 + 52).toNat := by
        rw [BitVec.toNat_ofNat, Nat.mod_eq_of_lt (by omega)]
      refine isBelow_unpack ?_ ?_ low
      · rw [unpackExponent_packComponents, exponent]
        omega
      · rw [unpackExponent_packComponents, exponent]
        omega
    · refine isBelow_unpack ?_ ?_ low
      · rw [unpackExponent_packComponents]
        decide
      · rw [unpackExponent_packComponents]
        exact low

/-! ## Magnitudes -/

theorem toNat_unpackExponent (bits : BitVec 64) :
    (@unpackExponent Format.binary64 bits).toNat = bits.toNat / 2 ^ 52 % 2048 := by
  simp [unpackExponent, Nat.shiftRight_eq_div_pow]

theorem toNat_unpackMantissa (bits : BitVec 64) :
    (@unpackMantissa Format.binary64 bits).toNat = bits.toNat % 2 ^ 52 := by
  simp [unpackMantissa]

/-- A float of a finite magnitude is below the power of two that its magnitude is below. -/
theorem isBelow_of_ofFloat {x : Float} {count : Int} {k : Nat} (size : Magnitude.ofFloat x = .units count)
    (small : count.natAbs < 2 ^ (k + Magnitude.unitBits)) : IsBelow k x.toModel.unpack := by
  have exponent := toNat_unpackExponent x.toModel.toBits.toBitVec
  have bits : x.toModel.toBits.toBitVec.toNat = x.toBits.toNat := rfl
  rw [bits] at exponent
  simp only [Magnitude.ofFloat, Magnitude.ofFields] at size
  generalize x.toBits.toNat / 2 ^ 52 % 2048 = field at exponent size
  generalize x.toBits.toNat % 2 ^ 52 = fraction at size
  have most : field < 2048 := exponent ▸ BitVec.isLt _
  split at size
  · split at size
    · cases size
    · split at size <;> cases size
  · rename_i finite
    refine isBelow_unpack (by omega) ?_ (by omega)
    rw [exponent]
    by_cases subnormal : field = 0
    · omega
    · rw [if_neg subnormal] at size
      have counted : count.natAbs = (2 ^ 52 + fraction) * 2 ^ (field - 1) := by
        cases size
        split
        · rw [Int.natAbs_neg, Int.natAbs_natCast]
        · rw [Int.natAbs_natCast]
      -- the first digit, which is not written, reaches this power of two by itself
      have reaches : 2 ^ (52 + (field - 1)) < 2 ^ (k + Magnitude.unitBits) := by
        rw [Nat.pow_add]
        exact Nat.lt_of_le_of_lt (Nat.mul_le_mul_right _ (Nat.le_add_right _ fraction)) (counted ▸ small)
      have fewer := (Nat.pow_lt_pow_iff_right (by decide : 1 < 2)).mp reaches
      have unit : Magnitude.unitBits = 1074 := rfl
      omega

/-- A float that is not infinite has no infinite magnitude. -/
theorem ofFloat_of_isBelow {x : Float} (below : IsBelow bound x.toModel.unpack) :
    Magnitude.ofFloat x ≠ .lowest ∧ Magnitude.ofFloat x ≠ .highest := by
  -- with a full exponent and an empty fraction it would have been unpacked as infinite
  have finite : ¬ (x.toBits.toNat / 2 ^ 52 % 2048 = 2047 ∧ x.toBits.toNat % 2 ^ 52 = 0) := by
    rintro ⟨exponent, fraction⟩
    have full : @unpackExponent Format.binary64 x.toModel.toBits.toBitVec = -1#11 :=
      BitVec.eq_of_toNat_eq ((toNat_unpackExponent _).trans exponent)
    have empty : @unpackMantissa Format.binary64 x.toModel.toBits.toBitVec = 0#52 :=
      BitVec.eq_of_toNat_eq ((toNat_unpackMantissa _).trans fraction)
    obtain ⟨s, infinite⟩ : ∃ s, x.toModel.unpack = .infinity s := by
      unfold Float.Model.unpack UnpackedFloat.unpack
      dsimp only
      rw [if_pos full, if_pos empty]
      exact ⟨_, rfl⟩
    rw [infinite] at below
    cases below
  unfold Magnitude.ofFloat Magnitude.ofFields
  dsimp only
  split
  · rename_i full
    rw [if_pos fun empty => finite ⟨full, empty⟩]
    exact ⟨nofun, nofun⟩
  · exact ⟨nofun, nofun⟩

end Venues.Unpacked
