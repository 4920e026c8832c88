import Venues.Proofs.Distance.Written
import Venues.Proofs.Float
import Venues.Proofs.Surface.Request

/-! # Areas of requests

The area that is read from a request has its center on the globe, and a radius that is a written
distance.
-/

namespace Venues

/-- Whether a coordinate is of at most so many degrees. What is not a number is not. -/
def IsWithin (bound : Nat) (x : Float) : Prop :=
  let size := Magnitude.ofFloat x
  size.lt (.ofInt (-bound)) = false ∧ (size.lt (.ofInt bound) || size.same (.ofInt bound)) = true

/-- Whether a point lies on the globe. -/
structure Point.IsOnGlobe (p : Point) : Prop where
  lat : IsWithin 90 p.lat
  lon : IsWithin 180 p.lon

/-! ## Distances -/

/-- The magnitude of a coordinate in range is finite and not above its bound. -/
theorem IsWithin.exists_units {bound : Nat} {x : Float} (within : IsWithin bound x) :
    ∃ count, Magnitude.ofFloat x = .units count ∧ count.natAbs ≤ bound * 2 ^ Magnitude.unitBits := by
  obtain ⟨least, most⟩ := within
  revert least most
  generalize Magnitude.ofFloat x = size
  intro least most
  cases size with
  | undefined => cases most
  | lowest => cases least
  | highest => cases most
  | units count =>
    refine ⟨count, rfl, ?_⟩
    simp only [Magnitude.ofInt, Magnitude.lt, Magnitude.same, decide_eq_false_iff_not, Bool.or_eq_true, Bool.and_eq_true,
      decide_eq_true_eq, Magnitude.units.injEq] at least most
    generalize Magnitude.unitBits = bits at least most ⊢
    have cast : ((bound * 2 ^ bits : Nat) : Int) = bound * 2 ^ bits := by simp
    rw [Int.neg_mul] at least
    omega

theorem IsWithin.isBelow {bound k : Nat} {x : Float} (within : IsWithin bound x) (small : bound < 2 ^ k) :
    Unpacked.IsBelow k x.toModel.unpack := by
  obtain ⟨count, size, most⟩ := within.exists_units
  refine Unpacked.isBelow_of_ofFloat size ?_
  rw [Nat.pow_add]
  exact Nat.lt_of_le_of_lt most (Nat.mul_lt_mul_of_pos_right small (Nat.two_pow_pos _))

theorem isBelow_radians {x : Float} (within : IsWithin 180 x) : Unpacked.IsBelow 4 (radians x).toModel.unpack := by
  have unit : Unpacked.IsBelow (-5) (3.141592653589793 / 180.0 : Float).toModel.unpack := by
    have unpacked : (3.141592653589793 / 180.0 : Float).toModel.unpack =
        .finite .positive 5030569068109113 (-58) (by decide) := by with_unfolding_all rfl
    rw [unpacked]
    exact .finite (by decide)
  exact (Unpacked.IsBelow.mul (within.isBelow (by decide : 180 < 2 ^ 8)) unit (by decide)).unpack_pack (by decide)
    (by decide)

/-- What is relied on of the functions of floats that have no definition here: squares are not negative,
nor are the cosines of latitudes. -/
structure LawfulTrigonometry : Prop where
  square : ∀ x : Float, ¬ Float.pow x 2 < 0
  cosine : ∀ x : Float, IsWithin 90 x → ¬ Float.cos (radians x) < 0

/-- Points on the globe have a distance. -/
theorem Point.IsOnGlobe.hasDistance {a b : Point} (ha : a.IsOnGlobe) (hb : b.IsOnGlobe) (laws : LawfulTrigonometry) :
    hasDistance a b = true := by
  have finite {x : Float} {bound : Int} (below : Unpacked.IsBelow bound x.toModel.unpack) :
      (Magnitude.ofFloat x == .lowest || Magnitude.ofFloat x == .highest) = false := by
    obtain ⟨notLowest, notHighest⟩ := Unpacked.ofFloat_of_isBelow below
    rw [beq_false_of_ne notLowest, beq_false_of_ne notHighest]
    rfl
  have span : Unpacked.IsBelow 6 (radians b.lon - radians a.lon).toModel.unpack :=
    ((isBelow_radians hb.lon).sub (isBelow_radians ha.lon) (by decide)).unpack_pack (by decide) (by decide)
  -- a square, and a product of two cosines and a square, none of them below zero
  have chord : ¬ halfChordSquared a b < 0 := by
    have nonneg {x : Float} (h : ¬ x < 0) := Unpacked.isNonneg_iff.mpr h
    have cosines := ((nonneg (laws.cosine _ ha.lat)).mul (nonneg (laws.cosine _ hb.lat))).unpack_pack
    have product := (cosines.mul (nonneg (laws.square (Float.sin ((radians b.lon - radians a.lon) / 2))))).unpack_pack
    exact Unpacked.isNonneg_iff.mp ((nonneg (laws.square _)).add product).unpack_pack
  unfold Venues.hasDistance
  dsimp only
  rw [finite (ha.lat.isBelow (by decide : 90 < 2 ^ 7)), finite (hb.lat.isBelow (by decide : 90 < 2 ^ 7)), finite span,
    decide_eq_false chord]
  rfl

/-! ## Areas -/

namespace Schema

open Checked

/-- A coordinate that was read is in range. -/
theorem isWithin_of_coordinate {bound : Nat} {v : Value} {x : Float} (read : coordinate bound v = .ok x) :
    IsWithin bound x := by
  unfold coordinate at read
  split at read
  · cases read
  · dsimp only at read
    split at read
    · cases read
    · rename_i below
      split at read
      · cases read
      · rename_i above
        cases read
        exact ⟨by simpa using above, by simpa only [Bool.not_eq_true', Bool.not_eq_false] using below⟩

/-- A radius that was read is a written distance, and not at most zero. -/
theorem exists_parse_of_radius {v : Value} {r : String} (read : radius v = .ok r) :
    ∃ d, Distance.parse r = .ok d ∧ ¬ d.meters ≤ 0 := by
  unfold radius at read
  dsimp only at read
  split at read
  · cases read
  · rename_i s _
    split at read
    · cases read
    · rename_i meters measured
      split at read
      · cases read
      · rename_i above
        rw [← Except.ok.inj read]
        obtain ⟨d, parsed, rfl⟩ := map_eq_ok.mp measured
        exact ⟨d, Distance.parse_normalRadius parsed, above⟩

theorem exists_parse_defaultRadius : ∃ d, Distance.parse defaultRadius = .ok d ∧ ¬ d.meters ≤ 0 :=
  ⟨⟨[5, 0], [], 1000.0⟩, rfl, by decide +kernel⟩

/-- An area that was read has its center on the globe, and a radius that can be measured. -/
theorem area_spec {v : Value} {a : Area} (read : area v = .ok a) :
    a.center.IsOnGlobe ∧ ∃ d, Distance.parse a.radius = .ok d ∧ ¬ d.meters ≤ 0 := by
  unfold area at read
  split at read
  · rename_i fs
    obtain ⟨⟨lat, lon, r, extra⟩, parts, made⟩ := bind_eq_ok.mp read
    cases made
    simp only [both_eq_ok] at parts
    obtain ⟨readLat, readLon, readRadius, _⟩ := parts
    -- both coordinates are read alike, each within its own bound
    have coordinates {bound : Nat} {name : String} {x : Float}
        (read : required fs name (coordinate bound) = .ok x) : IsWithin bound x := by
      unfold required at read
      split at read
      · exact isWithin_of_coordinate (inField_eq_ok.mp read)
      · cases read
    refine ⟨⟨coordinates readLat, coordinates readLon⟩, ?_⟩
    unfold Schema.optional at readRadius
    split at readRadius
    · exact exists_parse_of_radius (inField_eq_ok.mp readRadius)
    · cases readRadius
      exact exists_parse_defaultRadius
  · cases read

end Schema

namespace Surface

variable {s : Surface} {raw : Fields} {q : Query}

theorem Normalizes.exists_area (normalizes : s.Normalizes raw q) : ∀ a ∈ q.area, ∃ v, Schema.area v = .ok a := by
  intro a asked
  obtain ⟨area?, _, read⟩ := normalizes.area
  unfold readAreaOf at read
  split at read
  · rw [← Except.ok.inj read] at asked
    cases asked
  · obtain ⟨a', read, same⟩ := map_eq_ok.mp read
    rw [← same] at asked
    cases asked
    exact ⟨_, Checked.inField_eq_ok.mp read⟩

theorem Normalizes.area_spec (normalizes : s.Normalizes raw q) :
    ∀ a ∈ q.area, a.center.IsOnGlobe ∧ ∃ meters, a.radiusMeters = .ok meters := by
  intro a asked
  obtain ⟨v, read⟩ := normalizes.exists_area a asked
  obtain ⟨onGlobe, d, parsed, _⟩ := Schema.area_spec read
  exact ⟨onGlobe, d.meters, by rw [Area.radiusMeters, Distance.parseMeters, parsed, map_ok]⟩

end Surface
end Venues
