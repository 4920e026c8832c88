import Mathlib.Data.Nat.Init
import Mathlib.Tactic.ByContra
import Mathlib.Tactic.SplitIfs
import Venues.Calendar

/-! # Days and their dates

A day lies in the year and in the month that are found for it. So the dates of days, compared by year, month and day,
stand as the days do.
-/

namespace Venues.Calendar

variable {n n' year year' dayOfYear dayOfYear' : Nat}

/-! ## Years -/

/-- A year begins where the year before it ends. -/
theorem daysBeforeYear_succ (positive : 1 ≤ year) :
    daysBeforeYear (year + 1) = daysBeforeYear year + daysInYear year := by
  obtain ⟨y, rfl⟩ := Nat.exists_eq_add_of_le' positive
  -- one more year counts where it divides by four, by a hundred and by four hundred
  have fours : (y + 1) / 4 = y / 4 + if (y + 1) % 4 = 0 then 1 else 0 := by split <;> omega
  have hundreds : (y + 1) / 100 = y / 100 + if (y + 1) % 100 = 0 then 1 else 0 := by split <;> omega
  have cycles : (y + 1) / 400 = y / 400 + if (y + 1) % 400 = 0 then 1 else 0 := by split <;> omega
  have fewer : y / 100 ≤ y / 4 := Nat.div_le_div_left (by decide) (by decide)
  have hundred : (y + 1) % 400 = 0 → (y + 1) % 100 = 0 := by omega
  have four : (y + 1) % 100 = 0 → (y + 1) % 4 = 0 := by omega
  unfold daysBeforeYear daysInYear isLeap
  simp only [Nat.add_sub_cancel, fours, hundreds, cycles, Bool.and_eq_true, Bool.or_eq_true, beq_iff_eq, bne_iff_ne]
  generalize y / 4 = a at *
  generalize y / 100 = b at *
  generalize y / 400 = c at *
  split_ifs <;> omega

theorem daysBeforeYear_mono (positive : 1 ≤ year) (later : year ≤ year') :
    daysBeforeYear year ≤ daysBeforeYear year' := by
  induction year', later using Nat.le_induction with
  | base => exact Nat.le_refl _
  | succ year' later ih =>
    rw [daysBeforeYear_succ (Nat.le_trans positive later)]
    exact Nat.le_trans ih (Nat.le_add_right _ _)

theorem yearOfDay_spec (n : Nat) : 1 ≤ yearOfDay n ∧ daysBeforeYear (yearOfDay n) ≤ n ∧
    n < daysBeforeYear (yearOfDay n + 1) := by
  unfold yearOfDay daysBeforeYear cycle
  dsimp only
  split
  · omega
  · split <;> omega

theorem yearOfDay_mono (earlier : n ≤ n') : yearOfDay n ≤ yearOfDay n' := by
  obtain ⟨_, start, _⟩ := yearOfDay_spec n
  obtain ⟨_, _, stop⟩ := yearOfDay_spec n'
  by_contra later
  have := daysBeforeYear_mono (Nat.le_add_left 1 _) (Nat.lt_of_not_le later)
  omega

/-- The years of the days before the year 10000 have four digits. -/
theorem yearOfDay_lt (early : n < totalDays) : yearOfDay n < 10000 := by
  obtain ⟨_, start, _⟩ := yearOfDay_spec n
  have end' : daysBeforeYear 10000 = totalDays := rfl
  by_contra late
  have := daysBeforeYear_mono (by decide : 1 ≤ 10000) (Nat.not_lt.mp late)
  omega

/-! ## Months -/

theorem monthOfDay_mono (earlier : dayOfYear ≤ dayOfYear') :
    monthOfDay year dayOfYear ≤ monthOfDay year dayOfYear' := by
  refine List.countP_mono_left fun start _ reached => ?_
  exact decide_eq_true (Nat.le_trans (of_decide_eq_true reached) earlier)

/-- A day of a year lies in the month that is found for it, which is one of twelve and has at most 31 days. -/
theorem monthOfDay_spec : ∀ dayOfYear < daysInYear year, monthOfDay year dayOfYear ≤ 12 ∧
    monthStart year (monthOfDay year dayOfYear) ≤ dayOfYear ∧
    dayOfYear < monthStart year (monthOfDay year dayOfYear) + 31 := by
  unfold monthOfDay monthStart daysInYear
  cases isLeap year <;> decide +kernel

/-! ## Dates -/

theorem dayOfYear_lt (n : Nat) : n - daysBeforeYear (yearOfDay n) < daysInYear (yearOfDay n) := by
  obtain ⟨positive, _, stop⟩ := yearOfDay_spec n
  rw [daysBeforeYear_succ positive] at stop
  omega

theorem dateOfDay_bounds (n : Nat) : (dateOfDay n).2.1 < 100 ∧ (dateOfDay n).2.2 < 100 := by
  obtain ⟨month, start, stop⟩ := monthOfDay_spec _ (dayOfYear_lt n)
  unfold dateOfDay
  dsimp only
  omega

/-- Whether one date lies before another. -/
def Before (a b : Nat × Nat × Nat) : Prop :=
  a.1 < b.1 ∨ a.1 = b.1 ∧ (a.2.1 < b.2.1 ∨ a.2.1 = b.2.1 ∧ a.2.2 < b.2.2)

/-- The date of a day lies before those of later days. -/
theorem before_dateOfDay (earlier : n < n') : Before (dateOfDay n) (dateOfDay n') := by
  obtain ⟨_, begun, _⟩ := yearOfDay_spec n
  rcases Nat.lt_or_eq_of_le (yearOfDay_mono (Nat.le_of_lt earlier)) with before | year
  · exact .inl before
  · -- in one year the months go on, and in one month the days
    obtain ⟨_, start, _⟩ := monthOfDay_spec _ (dayOfYear_lt n)
    have further : n - daysBeforeYear (yearOfDay n) < n' - daysBeforeYear (yearOfDay n) := by omega
    refine .inr ⟨year, ?_⟩
    unfold dateOfDay
    dsimp only
    rw [← year]
    rcases Nat.lt_or_eq_of_le (monthOfDay_mono (Nat.le_of_lt further)) with before | month
    · exact .inl before
    · refine .inr ⟨month, ?_⟩
      rw [← month]
      omega

end Venues.Calendar
