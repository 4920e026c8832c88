import Mathlib.Data.String.Basic
import Venues.Proofs.Calendar
import Venues.Proofs.Digits
import Venues.Timestamp

/-! # The order of timestamps in universal time

The standard text of a timestamp in universal time has its numbers at fixed places, the greatest units first. Only the
fraction of a second may be missing, and what then stands in its place goes before every fraction. So these texts
compare as the readings do.
-/

namespace Venues.Timestamp

open Calendar (Before)

variable {m n : Nat} {as bs : List Char}

/-! ## Numbers in a text -/

theorem cons_lt_cons_self_iff (c : Char) : c :: as < c :: bs ↔ as < bs := by
  simp

theorem twoDigits_append_lt_iff (hm : m < 100) (hn : n < 100) :
    paddedDigits 10 2 m ++ as < paddedDigits 10 2 n ++ bs ↔ m < n ∨ m = n ∧ as < bs :=
  paddedDigits_append_lt_iff (by decide) (by decide) hm hn

/-! ## Days -/

theorem length_dateText (n : Nat) : (dateText n).length = 10 := by
  simp [dateText]

/-- The text of a day goes before those of later days, up to the year 9999. -/
theorem dateText_lt_dateText (earlier : m < n) (inRange : n < Calendar.totalDays) : dateText m < dateText n := by
  have before : Before (Calendar.dateOfDay m) (Calendar.dateOfDay n) := Calendar.before_dateOfDay earlier
  have year : (Calendar.dateOfDay m).1 < 10 ^ 4 := Calendar.yearOfDay_lt (earlier.trans inRange)
  have year' : (Calendar.dateOfDay n).1 < 10 ^ 4 := Calendar.yearOfDay_lt inRange
  obtain ⟨month, day⟩ := Calendar.dateOfDay_bounds m
  obtain ⟨month', day'⟩ := Calendar.dateOfDay_bounds n
  unfold dateText
  generalize Calendar.dateOfDay m = a at *
  generalize Calendar.dateOfDay n = b at *
  simp only [List.append_assoc, List.cons_append]
  rw [paddedDigits_append_lt_iff (by decide) (by decide) year year', cons_lt_cons_self_iff,
    twoDigits_append_lt_iff month month', cons_lt_cons_self_iff]
  -- nothing is written behind the day
  have last : paddedDigits 10 2 a.2.2 < paddedDigits 10 2 b.2.2 ↔ a.2.2 < b.2.2 :=
    paddedDigits_lt_iff (by decide) (by decide) day day'
  rw [last]
  exact before

theorem dateText_append_lt_iff (hm : m < Calendar.totalDays) (hn : n < Calendar.totalDays) :
    dateText m ++ as < dateText n ++ bs ↔ m < n ∨ m = n ∧ as < bs := by
  rw [append_lt_append_iff ((length_dateText m).trans (length_dateText n).symm)]
  rcases lt_trichotomy m n with earlier | rfl | later
  · exact iff_of_true (.inl (dateText_lt_dateText earlier hn)) (.inl earlier)
  · simp
  · have below := dateText_lt_dateText later hm
    refine iff_of_false ?_ (by omega)
    rintro (above | ⟨level, _⟩)
    · exact lt_asymm below above
    · exact below.ne' level

/-! ## Times of day -/

theorem clockText_append_lt_iff (hm : m < 86400) (hn : n < 86400) :
    clockText m ++ as < clockText n ++ bs ↔ m < n ∨ m = n ∧ as < bs := by
  simp only [clockText, List.append_assoc, List.cons_append]
  rw [twoDigits_append_lt_iff (by omega) (by omega), cons_lt_cons_self_iff,
    twoDigits_append_lt_iff (by omega) (by omega), cons_lt_cons_self_iff,
    twoDigits_append_lt_iff (by omega) (by omega)]
  by_cases less : as < bs <;> simp only [less, and_true, and_false, or_false] <;> omega

/-- Fractions of a second compare with the offset behind them, which goes before every fraction where there is none. -/
theorem fractionText_append_lt_iff (hm : m < 1000000) (hn : n < 1000000) :
    fractionText m ++ offsetText 0 < fractionText n ++ offsetText 0 ↔ m < n := by
  have offset : offsetText 0 = '+' :: "00:00".toList := by decide
  -- so a whole second goes before all others
  have sign : '+' < '.' := by decide
  unfold fractionText
  by_cases whole : m = 0 <;> by_cases whole' : n = 0
  · rw [if_pos whole, if_pos whole', whole, whole']
    simp
  · rw [if_pos whole, if_neg whole', offset, whole]
    exact iff_of_true (List.cons_lt_cons_iff.mpr (.inl sign)) (Nat.pos_of_ne_zero whole')
  · rw [if_neg whole, if_pos whole', offset, whole']
    exact iff_of_false (lt_asymm (List.cons_lt_cons_iff.mpr (.inl sign))) (Nat.not_lt_zero m)
  · rw [if_neg whole, if_neg whole', List.cons_append, List.cons_append, cons_lt_cons_self_iff,
      paddedDigits_append_lt_iff (by decide) (by decide) hm hn]
    simp

/-! ## Readings -/

/-- The standard texts of timestamps in universal time compare as the readings do. -/
theorem isoText_lt_isoText {wall wall' : Int} (given : inRange wall = true) (given' : inRange wall' = true) :
    (Timestamp.mk wall (some 0)).isoText < (Timestamp.mk wall' (some 0)).isoText ↔ wall < wall' := by
  have bounds {w : Int} (given : inRange w = true) : 0 ≤ w ∧ w < 3652059 * 86400000000 := by
    rwa [inRange, Bool.and_eq_true, decide_eq_true_iff, decide_eq_true_iff] at given
  have day {k : Nat} (given : inRange k = true) : k / 86400000000 < Calendar.totalDays := by
    obtain ⟨_, before⟩ := bounds given
    show k / 86400000000 < 3652059
    omega
  obtain ⟨m, rfl⟩ := Int.eq_ofNat_of_zero_le (bounds given).1
  obtain ⟨n, rfl⟩ := Int.eq_ofNat_of_zero_le (bounds given').1
  rw [String.lt_iff_toList_lt, isoText, isoText, String.toList_ofList, String.toList_ofList]
  simp only [wallText, Option.map_some, Option.getD_some, List.append_assoc, List.cons_append, Int.toNat_natCast]
  -- days first, then the seconds of a day and what is left of a second
  rw [dateText_append_lt_iff (day given) (day given'), cons_lt_cons_self_iff,
    clockText_append_lt_iff (Nat.mod_lt _ (by decide)) (Nat.mod_lt _ (by decide)),
    fractionText_append_lt_iff (Nat.mod_lt _ (by decide)) (Nat.mod_lt _ (by decide))]
  omega

end Venues.Timestamp
