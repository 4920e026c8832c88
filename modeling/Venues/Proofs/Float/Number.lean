import Venues.Proofs.Float
import Venues.Proofs.Outcome

/-! # Floats that are numbers

A product or a quotient is a number as long as neither side is infinite while the other one is zero or
infinite, too. So the meters of a written distance are a number, which is what their comparison with zero
relies on.
-/

namespace Venues.Unpacked

open Float.Model
open Float.Model.UnpackedFloat

variable {u v : UnpackedFloat} {s : Sign} {m : Nat} {e : Int}

/-! ## Numbers -/

/-- Whether an unpacked float is a number, possibly an infinite one. -/
def isNumber : UnpackedFloat → Bool
  | .notANumber => false
  | _ => true

/-- Whether an unpacked float is a number other than zero and the infinite ones. -/
def isProper : UnpackedFloat → Bool
  | .finite .. => true
  | _ => false

theorem isNumber_ite {c : Prop} [Decidable c] (hu : isNumber u = true) (hv : isNumber v = true) :
    isNumber (if c then u else v) = true := by
  split <;> assumption

theorem isNumber_unpack_packComponents (exponent : BitVec 11) (mantissa : BitVec 52)
    (number : exponent ≠ -1#11 ∨ mantissa = 0#52) :
    isNumber (UnpackedFloat.unpack Format.binary64 (packComponents Format.binary64 s exponent mantissa)) = true := by
  unfold UnpackedFloat.unpack
  refine iteInduction (motive := fun u => isNumber u = true) (fun full => ?_) fun _ =>
    isNumber_ite (dite_induction (motive := fun u => isNumber u = true) (fun _ => rfl) fun _ => rfl) rfl
  rw [unpackExponent_packComponents] at full
  rw [unpackMantissa_packComponents, if_pos (number.resolve_left (not_not_intro full))]
  rfl

/-- A number stays one when it is packed, be it by becoming infinite. -/
theorem isNumber_unpack_pack (number : isNumber u = true) : isNumber (Float.Model.pack u).unpack = true := by
  show isNumber (UnpackedFloat.unpack Format.binary64 (UnpackedFloat.pack Format.binary64 u)) = true
  cases u with
  | notANumber => cases number
  | infinity s => exact isNumber_unpack_packComponents _ _ (.inr rfl)
  | zero s => exact isNumber_unpack_packComponents _ _ (.inr rfl)
  | finite s m e pos =>
    unfold UnpackedFloat.pack
    dsimp only
    split
    · exact isNumber_unpack_packComponents _ _ (.inr rfl)
    · rename_i small
      split
      · -- the exponent of a float that is small enough is not the one that stands for what is no number
        refine isNumber_unpack_packComponents _ _ (.inl fun full => ?_)
        have exponent := congrArg BitVec.toNat full
        rw [BitVec.toNat_ofNat] at exponent
        change ¬ 2 ^ 11 ≤ _ + 1 at small
        rw [Nat.mod_eq_of_lt (by omega)] at exponent
        change _ = 2047 at exponent
        omega
      · exact isNumber_unpack_packComponents _ _ (.inl (by decide))

theorem isNumber_roundWithAccuracy {a : Accuracy} :
    isNumber (roundWithAccuracy Format.binary64 s m e a) = true := by
  unfold roundWithAccuracy
  exact dite_induction (motive := fun u => isNumber u = true) (fun _ => rfl) fun _ => rfl

theorem isNumber_mul (number : isNumber u = true) (proper : isProper v = true) :
    isNumber (UnpackedFloat.mul Format.binary64 u v) = true := by
  cases v with
  | finite =>
    cases u with
    | notANumber => cases number
    | infinity | zero => rfl
    | finite => exact isNumber_roundWithAccuracy
  | _ => cases proper

theorem isNumber_div (number : isNumber u = true) (proper : isProper v = true) :
    isNumber (UnpackedFloat.div Format.binary64 u v) = true := by
  cases v with
  | finite =>
    cases u with
    | notANumber => cases number
    | infinity | zero => rfl
    | finite => exact isNumber_roundWithAccuracy
  | _ => cases proper

/-- What is a number is above zero exactly if it is not at most zero. -/
theorem zero_lt_iff_not_le {x : Float} (number : isNumber x.toModel.unpack = true) : 0 < x ↔ ¬ x ≤ 0 := by
  have zero : (0 : Float).toModel.unpack = .zero .positive := by with_unfolding_all rfl
  have atMost : x ≤ 0 ↔ UnpackedFloat.le x.toModel.unpack (.zero .positive) = true := by
    rw [← zero]
    exact decide_eq_true_iff
  have below : 0 < x ↔ UnpackedFloat.lt (.zero .positive) x.toModel.unpack = true := by
    rw [← zero]
    exact decide_eq_true_iff
  rw [atMost, below]
  -- of the numbers, those above zero are just the ones with a positive sign
  generalize x.toModel.unpack = u at number ⊢
  cases u with
  | notANumber => cases number
  | zero s => cases s <;> exact iff_of_false nofun (not_not_intro rfl)
  | infinity s | finite s =>
    cases s with
    | negative => exact iff_of_false nofun (not_not_intro rfl)
    | positive => exact iff_of_true rfl nofun

/-! ## Written distances -/

theorem isNumber_round : isNumber (UnpackedFloat.round Format.binary64 s m e) = true := isNumber_roundWithAccuracy

theorem isNumber_ofUInt64 (n : UInt64) : isNumber (UnpackedFloat.ofUInt64 Format.binary64 n) = true := by
  unfold UnpackedFloat.ofUInt64 UnpackedFloat.ofNat UnpackedFloat.ofInt UnpackedFloat.normalize
  split
  · exact isNumber_round
  · rfl
  · exact isNumber_round

/-- The powers of ten that scale a short decimal are proper numbers. -/
theorem isProper_powerOfTen : ∀ e : Fin 23,
    isProper (Float.exactlyRepresentablePowersOfTen[e]).toModel.unpack = true := by
  decide +kernel

theorem isNumber_ofScientific_model (m : Nat) (e : Int) :
    isNumber (UnpackedFloat.ofScientific Format.binary64 m e) = true := by
  unfold UnpackedFloat.ofScientific
  exact dite_induction (motive := fun u => isNumber u = true) (fun _ => rfl) fun _ =>
    isNumber_ite rfl (isNumber_ite rfl (isNumber_ite (isNumber_mul rfl rfl) (isNumber_div rfl rfl)))

theorem isNumber_ofScientific (m : Nat) (negative : Bool) (e : Nat) :
    isNumber (Float.ofScientific m negative e).toModel.unpack = true := by
  unfold Float.ofScientific
  split
  · -- few digits are scaled by a power of ten that a float holds exactly
    rename_i short
    have number : isNumber (m.toUInt64.toFloat).toModel.unpack = true := isNumber_unpack_pack (isNumber_ofUInt64 _)
    have proper := isProper_powerOfTen ⟨e, by omega⟩
    dsimp only
    split
    · exact isNumber_unpack_pack (isNumber_div number proper)
    · exact isNumber_unpack_pack (isNumber_mul number proper)
  · exact isNumber_unpack_pack (isNumber_ofScientific_model _ _)

theorem isNumber_toFloat (digits : Nat) (exponent : Int) :
    isNumber (Decimal.toFloat ⟨false, digits, exponent⟩).toModel.unpack = true := by
  unfold Decimal.toFloat
  dsimp only
  rw [if_neg Bool.false_ne_true]
  split
  · with_unfolding_all rfl
  · split
    · with_unfolding_all rfl
    · exact isNumber_ofScientific _ _ _

theorem isProper_lengthUnits : ∀ unit ∈ lengthUnits, isProper unit.2.toModel.unpack = true := by
  decide +kernel

/-- The meters of a distance that was read are a number. -/
theorem isNumber_meters {text : String} {d : Distance} (parsed : Distance.parse text = .ok d) :
    isNumber d.meters.toModel.unpack = true := by
  unfold Distance.parse at parsed
  split at parsed
  · cases parsed
  · dsimp only at parsed
    split at parsed
    · cases parsed
    · rename_i whole places _ _ _ factor known
      cases parsed
      -- the meters are the digits that were read times the length of a unit, and no unit is infinite
      have member : (_, factor) ∈ lengthUnits := mem_of_lookup known
      have number := isNumber_toFloat (Text.ofDigits (whole ++ places)) (-(places.length : Int))
      have product := isNumber_mul number (isProper_lengthUnits _ member)
      exact isNumber_unpack_pack product

end Venues.Unpacked
