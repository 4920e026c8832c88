import Venues.Page.Meta
import Venues.Proofs.Uuid

/-! # Positions as cursors

The cursor of a position is read as this position wherever a page of the size that is asked for ends in
the result window. So the cursor that goes with a page is never taken for the start of the results.
-/

namespace Venues

/-! ## Digits -/

/-- The digits of a number are read as the number. -/
theorem Text.mapM_digitValue?_toDigits (n : Nat) :
    ∃ ds, (Nat.toDigits 10 n).mapM digitValue? = some ds ∧ ofDigits ds = n := by
  have digit : ∀ d < 10, digitValue? (Nat.digitChar d) = some d := by decide
  -- the induction takes the last digit off
  induction n using Nat.strongRecOn with
  | ind n ih =>
    rw [Nat.toDigits_eq_if (by decide)]
    by_cases last : n < 10
    · rw [if_pos last]
      exact ⟨[n], by simp [digit n last], by simp [ofDigits]⟩
    · rw [if_neg last]
      obtain ⟨ds, read, value⟩ := ih (n / 10) (by omega)
      refine ⟨ds ++ [n % 10], ?_, ?_⟩
      · simp [List.mapM_append, read, digit _ (Nat.mod_lt n (by decide : 10 > 0))]
      · rw [ofDigits, List.foldl_append, ← ofDigits, value]
        simp only [List.foldl_cons, List.foldl_nil]
        omega

theorem Text.readDigits?_toDigits (n : Nat) : readDigits? (Nat.toDigits 10 n) = some n := by
  obtain ⟨ds, read, value⟩ := mapM_digitValue?_toDigits n
  have nonempty : (Nat.toDigits 10 n).isEmpty = false := by simp [Nat.toDigits_ne_nil]
  rw [readDigits?, nonempty, read]
  simp [value]

namespace Cursor

variable {n : Nat} {limit : Int}

/-! ## Cursors of positions -/

theorem toList_ofOffset (n : Nat) : (ofOffset (n : Int)).toList = Nat.toDigits 10 n := by
  rw [ofOffset, Int.max_eq_right (Int.natCast_nonneg n)]
  show (Nat.repr n).toList = _
  rw [Nat.toList_repr]

/-- There are no blanks in a cursor. -/
theorem isBlank_of_mem_ofOffset : ∀ c ∈ (ofOffset (n : Int)).toList, Text.isBlank c = false := by
  intro c member
  rw [toList_ofOffset] at member
  have digit := Nat.isDigit_of_mem_toDigits (by decide) (by decide) member
  obtain ⟨least, most⟩ : 48 ≤ c.toNat ∧ c.toNat ≤ 57 := Char.isDigit_iff_toNat.mp digit
  rw [Bool.eq_false_iff]
  intro blank
  simp only [Text.isBlank, Text.isSpace, Text.covers, Text.spaceRanges, List.any_cons, List.any_nil,
    Bool.or_eq_true, Bool.and_eq_true, decide_eq_true_eq, Bool.false_eq_true, or_false] at blank
  omega

theorem strip_ofOffset (n : Nat) : Text.strip (ofOffset (n : Int)) = ofOffset n :=
  Text.strip_eq_self isBlank_of_mem_ofOffset

theorem ofOffset_ne_empty (n : Nat) : ofOffset (n : Int) ≠ "" := by
  intro empty
  have digits := toList_ofOffset n
  rw [empty] at digits
  exact Nat.toDigits_ne_nil digits.symm

/-- The cursor of a position that can be counted with 64 bits is no text of an identifier. -/
theorem ofText?_ofOffset (few : isShort n = true) : Uuid.ofText? (ofOffset (n : Int)) = none := by
  apply Uuid.ofText?_eq_none_of_short
  rw [toList_ofOffset]
  have digits : (Nat.toDigits 10 n).length ≤ 19 := by
    rw [Nat.length_toDigits_le_iff (by decide) (by decide)]
    simp only [isShort, Bool.and_eq_true, decide_eq_true_eq] at few
    omega
  omega

/-- The position of a cursor is read from it, as long as it has no more digits than are read. -/
theorem position_ofOffset (n : Nat) : position (Text.dropEnds Text.isBlank (ofOffset (n : Int)).toList) =
    if (Nat.toDigits 10 n).length ≤ maxDigits then n else 0 := by
  rw [Text.dropEnds_eq_self isBlank_of_mem_ofOffset, toList_ofOffset, position, Text.readDigits?_toDigits]
  rfl

/-- A cursor is read as its position if a page there ends in the result window. -/
theorem toOffset_ofOffset (inside : (n : Int) + max 0 limit ≤ resultWindow) :
    toOffset (ofOffset n) limit = n := by
  have short : (Nat.toDigits 10 n).length ≤ maxDigits := by
    have few : (Nat.toDigits 10 n).length ≤ 5 := by
      rw [Nat.length_toDigits_le_iff (by decide) (by decide)]
      have window : resultWindow = 10000 := rfl
      omega
    exact Nat.le_trans few (by decide)
  rw [toOffset, position_ofOffset, if_pos short]
  exact if_neg (by omega)

/-- A cursor is read as the start of the results if a page there would end past the result window. -/
theorem toOffset_ofOffset_eq_zero (past : resultWindow < (n : Int) + max 0 limit) :
    toOffset (ofOffset n) limit = 0 := by
  rw [toOffset, position_ofOffset]
  by_cases few : (Nat.toDigits 10 n).length ≤ maxDigits
  · rw [if_pos few]
    exact if_pos past
  · rw [if_neg few]
    exact ite_self 0

end Cursor
end Venues
