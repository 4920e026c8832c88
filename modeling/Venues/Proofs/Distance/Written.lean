import Venues.Proofs.Distance
import Venues.Proofs.Outcome

/-! # Written distances

A text is read as a distance exactly if it has the parts of one: blanks, a numeral in the digits of any script, blanks,
the name of a unit in any case, and blanks. In normal form the numeral and the unit are the same, so this is read as the
same distance again, and has no other normal form than itself.
-/

namespace Venues.Distance

open Text

variable {s : String} {p : Parts} {d : Distance} {cs : List Char} {factor : Float}

/-! ## Units -/

/-- The length of the unit with a name, which is a meter if there is none. -/
def lengthOf? (name : List Char) : Option Float :=
  lengthUnits.lookup (if String.ofList name = "" then "m" else String.ofList name)

theorem isUnitLetter_of_lengthOf? (known : lengthOf? cs = some factor) : ∀ c ∈ cs, isUnitLetter c = true := by
  have names : ∀ unit ∈ lengthUnits, unit.1.toList.all isUnitLetter = true := by decide +kernel
  unfold lengthOf? at known
  split at known
  · rename_i nameless
    rw [String.ofList_eq_empty_iff.mp nameless]
    simp
  · have letters := List.all_eq_true.mp (names _ (mem_of_lookup known))
    rwa [String.toList_ofList] at letters

/-! ## Parts -/

theorem lower_eq_nil (empty : lower cs = []) : cs = [] := by
  cases cs with
  | nil => rfl
  | cons c cs =>
    simp only [lower, lowerFrom] at empty
    split at empty
    · cases empty
    · split at empty <;> cases empty

namespace Parts

/-- Whether parts are those of a written distance. The name of the unit may be in any case, and only in front of a name
there is a gap. -/
structure Writes (p : Parts) (d : Distance) : Prop where
  front : ∀ c ∈ p.front, isBlank c = true
  nonempty : p.digits ≠ []
  digits : p.digits.mapM digitValue? = some d.whole
  fraction : IsFraction p.fraction d.places
  gap : ∀ c ∈ p.gap, isBlank c = true
  unit : lengthOf? (lower p.unit) = some d.factor
  back : ∀ c ∈ p.back, isBlank c = true
  close : p.unit = [] → p.gap = []

def lowered (p : Parts) : Parts := { p with unit := lower p.unit }

/-- The parts of the normal form: there are no blanks at the ends, no spaces in the gap, and the unit is in lower case.
-/
def normal (p : Parts) : Parts := p.lowered.close

namespace Writes

theorem spells (writes : p.Writes d) : p.lowered.Spells d.whole d.places where
  front := writes.front
  nonempty := writes.nonempty
  digits := writes.digits
  fraction := writes.fraction
  gap := writes.gap
  unit := isUnitLetter_of_lengthOf? writes.unit
  back := writes.back
  close := fun nameless => writes.close (lower_eq_nil nameless)

/-- No character of a written distance has a lower-case form that depends on others, or is longer. -/
theorem single (writes : p.Writes d) : ∀ c ∈ p.text, c ≠ 'Σ' ∧ c ≠ 'İ' := by
  have plain := writes.spells.isPlain
  simp only [text, List.forall_mem_append] at plain ⊢
  obtain ⟨front, digits, fraction, gap, unit, back⟩ := plain
  have other {cs : List Char} (plain : ∀ c ∈ cs, isPlain c = true) : ∀ c ∈ cs, c ≠ 'Σ' ∧ c ≠ 'İ' :=
    fun c member => ne_of_isPlain (plain c member)
  exact ⟨other front, other digits, other fraction, other gap, single_of_isPlain_lower unit, other back⟩

/-- In lower case the unit is in lower case, and all else is as it was. -/
theorem lower_text (writes : p.Writes d) : lower p.text = p.lowered.text := by
  have single := writes.single
  have plain := writes.spells.isPlain
  rw [lower_eq_map single]
  -- blanks, digits and points are their own lower case
  simp only [text, lowered, List.forall_mem_append] at single plain ⊢
  obtain ⟨_, _, _, _, unit, _⟩ := single
  obtain ⟨front, digits, fraction, gap, _, back⟩ := plain
  simp only [List.map_append, lower_eq_map unit, map_lowerChar_eq_self front, map_lowerChar_eq_self digits,
    map_lowerChar_eq_self fraction, map_lowerChar_eq_self gap, map_lowerChar_eq_self back]

theorem parse_eq (writes : p.Writes d) (spelled : p.text = s.toList) : parse s = .ok d := by
  have split : split? (lower s.toList) = some (d.whole, d.places, lower p.unit) := by
    rw [← spelled, writes.lower_text, writes.spells.split?_text]
    rfl
  have known := writes.unit
  unfold lengthOf? at known
  simp only [parse, split, known]

/-! ### Normal form -/

theorem lower_lower_unit (writes : p.Writes d) : lower (lower p.unit) = lower p.unit :=
  lower_eq_self fun c member => (unitLetter_cases (writes.spells.unit c member)).2.2.2

theorem normal (writes : p.Writes d) : p.normal.Writes d :=
  { writes with
    front := List.forall_mem_nil _
    gap := fun c member => writes.gap c (List.mem_of_mem_filter member)
    unit := (congrArg lengthOf? writes.lower_lower_unit).trans writes.unit
    back := List.forall_mem_nil _
    close := fun nameless => by simp [Parts.normal, lowered, Parts.close, writes.close (lower_eq_nil nameless)] }

theorem normal_normal (writes : p.Writes d) : p.normal.normal = p.normal := by
  have gap : (p.gap.filter (· != ' ')).filter (· != ' ') = p.gap.filter (· != ' ') := by simp
  simp only [Parts.normal, lowered, Parts.close, gap, writes.lower_lower_unit]

/-- The normal form of a text with the parts of a distance has the parts of the normal form. -/
theorem toList_normalRadius (writes : p.Writes d) (spelled : p.text = s.toList) :
    (Area.normalRadius s).toList = p.normal.text := by
  have single := writes.single
  rw [spelled] at single
  have inner : ∀ c ∈ dropEnds isBlank s.toList, c ≠ 'Σ' ∧ c ≠ 'İ' := fun c member =>
    single c (mem_of_mem_dropEnds member)
  -- it does not matter whether the ends are dropped before or behind the change of case, which keeps all blanks
  rw [Area.normalRadius, String.toList_ofList, strip, String.toList_ofList, lower_eq_map inner,
    ← dropEnds_map_lowerChar, ← lower_eq_map single, ← spelled, writes.lower_text, writes.spells.text_close]
  rfl

end Writes
end Parts

/-! ## Reading -/

/-- What becomes only digits, blanks and points in lower case consists of these already. -/
theorem eq_of_map_lowerChar {ds : List Char} (same : cs.map lowerChar = ds)
    (steady : ∀ c ∈ ds, covers steadyRanges c.toNat = true) : cs = ds := by
  subst same
  refine ((List.map_congr_left fun c member => ?_).trans (List.map_id _)).symm
  exact lowerChar_eq_self (steady _ (List.mem_map_of_mem member))

/-- The parts of a text in lower case are those of the text with the unit in lower case. -/
theorem Parts.Spells.exists_lowered {whole places : List Nat} (spells : p.Spells whole places)
    (spelled : p.text = lower s.toList) : ∃ q : Parts, q.text = s.toList ∧ q.lowered = p := by
  have single : ∀ c ∈ s.toList, c ≠ 'Σ' ∧ c ≠ 'İ' := single_of_isPlain_lower (spelled ▸ spells.isPlain)
  have blank {cs : List Char} (blank : ∀ c ∈ cs, isBlank c = true) : ∀ c ∈ cs, covers steadyRanges c.toNat = true :=
    fun c member => covers_steadyRanges_of_isBlank (blank c member)
  have digit {cs : List Char} {ds : List Nat} (read : cs.mapM digitValue? = some ds) :
      ∀ c ∈ cs, covers steadyRanges c.toNat = true := fun c member =>
    covers_steadyRanges_of_digitValue? (exists_of_mem_digits read member).choose_spec
  have point : ∀ c ∈ p.fraction, covers steadyRanges c.toNat = true := by
    rcases spells.fraction with ⟨none, _⟩ | ⟨places, some, _, read⟩
    · simp [none]
    · rw [some]
      exact List.forall_mem_cons.mpr ⟨by decide, digit read⟩
  -- the text is cut where it is in lower case
  rw [lower_eq_map single, Parts.text] at spelled
  obtain ⟨front, rest, cut, frontSame, spelled⟩ := List.map_eq_append_iff.mp spelled.symm
  obtain ⟨digits, rest, rfl, digitsSame, spelled⟩ := List.map_eq_append_iff.mp spelled
  obtain ⟨fraction, rest, rfl, fractionSame, spelled⟩ := List.map_eq_append_iff.mp spelled
  obtain ⟨gap, rest, rfl, gapSame, spelled⟩ := List.map_eq_append_iff.mp spelled
  obtain ⟨unit, back, rfl, unitSame, backSame⟩ := List.map_eq_append_iff.mp spelled
  obtain rfl := eq_of_map_lowerChar frontSame (blank spells.front)
  obtain rfl := eq_of_map_lowerChar digitsSame (digit spells.digits)
  obtain rfl := eq_of_map_lowerChar fractionSame point
  obtain rfl := eq_of_map_lowerChar gapSame (blank spells.gap)
  obtain rfl := eq_of_map_lowerChar backSame (blank spells.back)
  have lowerUnit : lower unit = p.unit :=
    (lower_eq_map fun c member => single c (by simp [cut, member])).trans unitSame
  exact ⟨{ p with unit := unit }, cut.symm, by rw [Parts.lowered, lowerUnit]⟩

/-- A text that is read as a distance has its parts. -/
theorem exists_writes (parsed : parse s = .ok d) : ∃ p : Parts, p.text = s.toList ∧ p.Writes d := by
  unfold parse at parsed
  split at parsed
  · cases parsed
  · rename_i whole places unit split
    obtain ⟨_, spells, lowerText, rfl⟩ := Parts.exists_of_split? split
    obtain ⟨p, spelled, rfl⟩ := spells.exists_lowered lowerText
    dsimp only at parsed
    split at parsed
    · cases parsed
    · rename_i factor known
      cases parsed
      exact ⟨p, spelled, { spells with
        unit := known
        close := fun nameless => spells.close (congrArg lower nameless) }⟩

/-- A written distance is the same distance in normal form. -/
theorem parse_normalRadius (parsed : parse s = .ok d) : parse (Area.normalRadius s) = .ok d := by
  obtain ⟨p, spelled, writes⟩ := exists_writes parsed
  exact writes.normal.parse_eq (writes.toList_normalRadius spelled).symm

/-- The normal form of a written distance is its own normal form. -/
theorem normalRadius_normalRadius (parsed : parse s = .ok d) :
    Area.normalRadius (Area.normalRadius s) = Area.normalRadius s := by
  obtain ⟨p, spelled, writes⟩ := exists_writes parsed
  have normal := writes.toList_normalRadius spelled
  refine String.toList_inj.mp ?_
  rw [writes.normal.toList_normalRadius normal.symm, writes.normal_normal, normal]

end Venues.Distance
