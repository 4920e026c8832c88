/-! # Parts of a text

A text is part of another if it stands somewhere inside it, without gaps.
-/

namespace Venues.Text

/-- A text and all texts left when characters are taken off its front. -/
def suffixes : List Char → List (List Char)
  | [] => [[]]
  | c :: cs => (c :: cs) :: suffixes cs

theorem mem_suffixes {suffix cs : List Char} : suffix ∈ suffixes cs ↔ ∃ front, cs = front ++ suffix := by
  induction cs generalizing suffix with
  | nil => simp [suffixes, eq_comm]
  | cons c cs ih =>
    rw [suffixes, List.mem_cons, ih]
    constructor
    · rintro (rfl | ⟨front, rfl⟩)
      · exact ⟨[], rfl⟩
      · exact ⟨c :: front, rfl⟩
    · rintro ⟨front, cut⟩
      cases front with
      | nil => exact .inl cut.symm
      | cons d front =>
        rw [List.cons_append, List.cons.injEq] at cut
        exact .inr ⟨front, cut.2⟩

def isPartOf (needle : List Char) : List Char → Bool
  | [] => needle.isEmpty
  | c :: cs => needle.isPrefixOf (c :: cs) || isPartOf needle cs

/-- A text is part of another exactly if the other can be cut around it. -/
theorem isPartOf_iff {needle cs : List Char} :
    isPartOf needle cs = true ↔ ∃ before after, cs = before ++ needle ++ after := by
  induction cs with
  | nil =>
    simp only [isPartOf, List.isEmpty_iff]
    constructor
    · rintro rfl; exact ⟨[], [], rfl⟩
    · rintro ⟨before, after, h⟩
      have := congrArg List.length h
      simp only [List.length_nil, List.length_append] at this
      exact List.eq_nil_of_length_eq_zero (by omega)
  | cons c cs ih =>
    simp only [isPartOf, Bool.or_eq_true, ih, List.isPrefixOf_iff_prefix]
    constructor
    · rintro (⟨after, h⟩ | ⟨before, after, rfl⟩)
      · exact ⟨[], after, by simpa using h.symm⟩
      · exact ⟨c :: before, after, rfl⟩
    · rintro ⟨before, after, h⟩
      cases before with
      | nil => exact .inl ⟨after, by simpa using h.symm⟩
      | cons b before =>
        simp only [List.cons_append, List.cons.injEq] at h
        exact .inr ⟨before, after, h.2⟩

end Venues.Text
