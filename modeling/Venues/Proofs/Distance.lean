import Mathlib.Data.List.TakeWhile
import Venues.Geo
import Venues.Proofs.Text

/-! # The parts of a distance

A text in lower case is split into the digits of a numeral and the name of a unit exactly if these are its parts, with
blanks around the two. Without the blanks at its ends and the spaces in between it has all other parts still.
-/

namespace Venues

namespace Text

/-! ## Plain characters -/

/-- The ranges of blank characters. -/
def blankRanges : List (Nat × Nat) := spaceRanges ++ [(0x1c, 0x1f)]

/-- The decimal digits, the blank characters, the point and the letters from a to z. -/
def plainRanges : List (Nat × Nat) := decimalRanges ++ blankRanges ++ [(0x2e, 0x2e), (0x61, 0x7a)]

/-- Whether a character can stand in a written distance in lower case. -/
def isPlain (c : Char) : Bool := covers plainRanges c.toNat

variable {c : Char} {cs : List Char}

theorem covers_iff {ranges : List (Nat × Nat)} {n : Nat} :
    covers ranges n = true ↔ ∃ r ∈ ranges, r.1 ≤ n ∧ n ≤ r.2 := by
  simp [covers]

theorem covers_append {ranges others : List (Nat × Nat)} {n : Nat} :
    covers (ranges ++ others) n = (covers ranges n || covers others n) := by
  simp [covers]

theorem isBlank_eq : isBlank c = covers blankRanges c.toNat := by
  simp [isBlank, isSpace, blankRanges, covers]

theorem covers_of_digitValue? {d : Nat} (digit : digitValue? c = some d) : covers decimalRanges c.toNat = true := by
  obtain ⟨r, found, _⟩ := Option.map_eq_some_iff.mp digit
  exact covers_iff.mpr ⟨r, List.mem_of_find?_eq_some found, by simpa using List.find?_some found⟩

theorem digitValue?_of_not_covers (other : covers decimalRanges c.toNat = false) : digitValue? c = none := by
  cases digit : digitValue? c with
  | none => rfl
  | some d => cases other.symm.trans (covers_of_digitValue? digit)

/-- Whether no number lies in ranges of two lists. -/
def areApart (ranges others : List (Nat × Nat)) : Bool :=
  ranges.all fun r => others.all fun o => Nat.blt r.2 o.1 || Nat.blt o.2 r.1

theorem covers_eq_false {ranges others : List (Nat × Nat)} {n : Nat} (apart : areApart ranges others = true)
    (covered : covers ranges n = true) : covers others n = false := by
  rw [Bool.eq_false_iff]
  intro both
  obtain ⟨r, member, least, most⟩ := covers_iff.mp covered
  obtain ⟨o, member', least', most'⟩ := covers_iff.mp both
  have away := List.all_eq_true.mp (List.all_eq_true.mp apart r member) o member'
  rw [Bool.or_eq_true, Nat.blt_eq, Nat.blt_eq] at away
  omega

theorem isBlank_of_digitValue? {d : Nat} (digit : digitValue? c = some d) : isBlank c = false := by
  rw [isBlank_eq]
  exact covers_eq_false (by decide) (covers_of_digitValue? digit)

theorem digitValue?_of_isBlank (blank : isBlank c = true) : digitValue? c = none := by
  rw [isBlank_eq] at blank
  exact digitValue?_of_not_covers (covers_eq_false (by decide) blank)

theorem isPlain_of_isBlank (blank : isBlank c = true) : isPlain c = true := by
  rw [isBlank_eq] at blank
  simp [isPlain, plainRanges, covers_append, blank]

theorem isPlain_of_digitValue? {d : Nat} (digit : digitValue? c = some d) : isPlain c = true := by
  simp [isPlain, plainRanges, covers_append, covers_of_digitValue? digit]

/-! ## Lower case of plain characters -/

theorem covers_lowerRuns {r : Nat × Nat × Nat × Int} (found : lowerRuns.find? (fun r =>
    r.1 ≤ c.toNat && c.toNat ≤ r.2.1 && (c.toNat - r.1) % r.2.2.1 == 0) = some r) :
    r ∈ lowerRuns ∧ r.1 ≤ c.toNat ∧ c.toNat ≤ r.2.1 := by
  have covered := List.find?_some found
  simp only [Bool.and_eq_true, decide_eq_true_eq] at covered
  exact ⟨List.mem_of_find?_eq_some found, covered.1⟩

/-- The ranges of characters that have another lower-case form. -/
def capitalRanges : List (Nat × Nat) := lowerRuns.map fun r => (r.1, r.2.1)

/-- The ranges of these forms. -/
def formRanges : List (Nat × Nat) :=
  lowerRuns.map fun r => (((r.1 : Int) + r.2.2.2).toNat, ((r.2.1 : Int) + r.2.2.2).toNat)

/-- A character that is not in lower case is a capital, and becomes one of the other forms, or none at all. -/
theorem lowerChar_cases (c : Char) : lowerChar c = c ∨ covers capitalRanges c.toNat = true ∧
    ((lowerChar c).toNat = 0 ∨ covers formRanges (lowerChar c).toNat = true) := by
  unfold lowerChar
  dsimp only
  split
  · rename_i r found
    obtain ⟨member, least, most⟩ := covers_lowerRuns found
    refine .inr ⟨covers_iff.mpr ⟨_, List.mem_map_of_mem member, least, most⟩, ?_⟩
    by_cases valid : ((c.toNat : Int) + r.2.2.2).toNat.isValidChar
    · have image : (Char.ofNat ((c.toNat : Int) + r.2.2.2).toNat).toNat = ((c.toNat : Int) + r.2.2.2).toNat := by
        rw [Char.ofNat, dif_pos valid]
        rfl
      rw [image]
      exact .inr (covers_iff.mpr ⟨_, List.mem_map_of_mem member, by dsimp only; omega, by dsimp only; omega⟩)
    · exact .inl (by rw [Char.ofNat, dif_neg valid]; rfl)
  · exact .inl rfl

theorem lowerChar_of_isPlain (plain : isPlain c = true) : lowerChar c = c := by
  refine (lowerChar_cases c).resolve_right fun ⟨capital, _⟩ => ?_
  have other : covers plainRanges c.toNat = false := covers_eq_false (by decide +kernel) capital
  cases other.symm.trans plain

/-- The decimal digits, the blank characters and the point. -/
def steadyRanges : List (Nat × Nat) := decimalRanges ++ blankRanges ++ [(0x2e, 0x2e)]

/-- What becomes a decimal digit, a blank character or a point in lower case is that already. -/
theorem lowerChar_eq_self (steady : covers steadyRanges (lowerChar c).toNat = true) : lowerChar c = c := by
  refine (lowerChar_cases c).resolve_right fun ⟨_, form⟩ => ?_
  rcases form with none | form
  · rw [none] at steady
    exact absurd steady (by decide)
  · have other : covers steadyRanges (lowerChar c).toNat = false := covers_eq_false (by decide +kernel) form
    cases other.symm.trans steady

theorem covers_steadyRanges_of_isBlank (blank : isBlank c = true) : covers steadyRanges c.toNat = true := by
  rw [isBlank_eq] at blank
  simp [steadyRanges, covers_append, blank]

theorem covers_steadyRanges_of_digitValue? {d : Nat} (digit : digitValue? c = some d) :
    covers steadyRanges c.toNat = true := by
  simp [steadyRanges, covers_append, covers_of_digitValue? digit]

/-- A character is blank exactly if its lower-case form is. -/
theorem isBlank_lowerChar (c : Char) : isBlank (lowerChar c) = isBlank c := by
  cases blank : isBlank c with
  | true => rw [lowerChar_of_isPlain (isPlain_of_isBlank blank), blank]
  | false =>
    rw [Bool.eq_false_iff]
    intro becomes
    rw [lowerChar_eq_self (covers_steadyRanges_of_isBlank becomes), blank] at becomes
    cases becomes

theorem lower_eq_map (single : ∀ c ∈ cs, c ≠ 'Σ' ∧ c ≠ 'İ') : lower cs = cs.map lowerChar := by
  have onward (before : List Char) : lowerFrom before cs = cs.map lowerChar := by
    induction cs generalizing before with
    | nil => rfl
    | cons c cs ih =>
      obtain ⟨⟨noSigma, noDot⟩, single⟩ := List.forall_mem_cons.mp single
      simp [lowerFrom, noSigma, noDot, ih single]
  exact onward []

/-- The characters with a lower-case form that depends on others, or is longer, do not become plain. -/
theorem single_of_isPlain_lower (plain : ∀ c ∈ lower cs, isPlain c = true) : ∀ c ∈ cs, c ≠ 'Σ' ∧ c ≠ 'İ' := by
  -- the lower-case form of a sigma depends on what stands before it, so this is carried along
  have onward : ∀ (cs before : List Char), (∀ c ∈ lowerFrom before cs, isPlain c = true) →
      ∀ c ∈ cs, c ≠ 'Σ' ∧ c ≠ 'İ' := by
    intro cs
    induction cs with
    | nil => intro _ _ c member; cases member
    | cons c cs ih =>
      intro before plain
      have noSigma : c ≠ 'Σ' := by
        rintro rfl
        have first := plain (if meetsCased before && !meetsCased cs then 'ς' else 'σ') (by simp [lowerFrom])
        split at first <;> exact absurd first (by decide)
      have noDot : c ≠ 'İ' := by
        rintro rfl
        exact absurd (plain (Char.ofNat 0x307) (by simp [lowerFrom])) (by decide)
      simp only [lowerFrom, beq_iff_eq, noSigma, noDot, if_false] at plain
      exact List.forall_mem_cons.mpr ⟨⟨noSigma, noDot⟩,
        ih _ fun c member => plain c (List.mem_cons_of_mem _ member)⟩
  exact onward cs [] plain

theorem ne_of_isPlain (plain : isPlain c = true) : c ≠ 'Σ' ∧ c ≠ 'İ' :=
  ⟨by rintro rfl; exact absurd plain (by decide), by rintro rfl; exact absurd plain (by decide)⟩

theorem map_lowerChar_eq_self (plain : ∀ c ∈ cs, isPlain c = true) : cs.map lowerChar = cs :=
  (List.map_congr_left fun c member => lowerChar_of_isPlain (plain c member)).trans (List.map_id _)

theorem lower_eq_self (plain : ∀ c ∈ cs, isPlain c = true) : lower cs = cs := by
  rw [lower_eq_map fun c member => ne_of_isPlain (plain c member), map_lowerChar_eq_self plain]

/-! ## Ends -/

theorem mem_of_mem_dropEnds {p : Char → Bool} (member : c ∈ dropEnds p cs) : c ∈ cs :=
  (List.dropWhile_sublist p).mem
    (List.mem_reverse.mp ((List.dropWhile_sublist p).mem (List.mem_reverse.mp member)))

theorem dropEnds_map_lowerChar : dropEnds isBlank (cs.map lowerChar) = (dropEnds isBlank cs).map lowerChar := by
  have same : (isBlank ∘ lowerChar) = isBlank := funext isBlank_lowerChar
  simp only [dropEnds, List.dropWhile_map, ← List.map_reverse, same]

/-- What stands between blanks is left when they are dropped. -/
theorem dropEnds_append {p : Char → Bool} {front core back : List Char} (before : ∀ c ∈ front, p c = true)
    (behind : ∀ c ∈ back, p c = true) (nonempty : core ≠ []) (first : ∀ c ∈ core.head?, p c = false)
    (last : ∀ c ∈ core.getLast?, p c = false) : dropEnds p (front ++ (core ++ back)) = core := by
  have kept {cs rest : List Char} (some : cs ≠ []) (stops : ∀ c ∈ cs.head?, p c = false) :
      (cs ++ rest).dropWhile p = cs ++ rest := by
    cases cs with
    | nil => exact absurd rfl some
    | cons c cs => exact List.dropWhile_cons_of_neg (by simp [stops c rfl])
  rw [dropEnds, List.dropWhile_append_of_pos before, kept nonempty first, List.reverse_append,
    List.dropWhile_append_of_pos (by simpa using behind)]
  have reversed := @kept core.reverse [] (by simpa using nonempty) (by simpa using last)
  rw [List.append_nil] at reversed
  rw [reversed, List.reverse_reverse]

end Text

namespace Distance

open Text

/-! ## Parts of a written distance -/

/-- The parts of a written distance in lower case, as they stand in the text. -/
structure Parts where
  front : List Char
  digits : List Char
  fraction : List Char
  gap : List Char
  unit : List Char
  back : List Char

/-- The text with some parts. -/
def Parts.text (p : Parts) : List Char := p.front ++ (p.digits ++ (p.fraction ++ (p.gap ++ (p.unit ++ p.back))))

/-- Whether characters are a point and the digits behind it, or none at all. -/
def IsFraction (cs : List Char) (places : List Nat) : Prop :=
  (cs = [] ∧ places = []) ∨ ∃ ds, cs = '.' :: ds ∧ ds ≠ [] ∧ ds.mapM digitValue? = some places

/-- Whether parts spell some digits before and after the point. Only in front of a unit there is a gap. -/
structure Parts.Spells (p : Parts) (whole places : List Nat) : Prop where
  front : ∀ c ∈ p.front, isBlank c = true
  nonempty : p.digits ≠ []
  digits : p.digits.mapM digitValue? = some whole
  fraction : IsFraction p.fraction places
  gap : ∀ c ∈ p.gap, isBlank c = true
  unit : ∀ c ∈ p.unit, isUnitLetter c = true
  back : ∀ c ∈ p.back, isBlank c = true
  close : p.unit = [] → p.gap = []

variable {cs rest : List Char} {ds whole places : List Nat} {c : Char}

theorem mapM_cons_eq_some {f : Char → Option Nat} :
    (c :: cs).mapM f = some ds ↔ ∃ d rest, f c = some d ∧ cs.mapM f = some rest ∧ d :: rest = ds := by
  rw [List.mapM_cons]
  constructor
  · intro all
    obtain ⟨d, first, all⟩ := Option.bind_eq_some_iff.mp all
    obtain ⟨rest, others, all⟩ := Option.bind_eq_some_iff.mp all
    exact ⟨d, rest, first, others, Option.some.inj all⟩
  · rintro ⟨d, rest, first, others, rfl⟩
    rw [first, others]
    rfl

theorem ne_nil_of_digits (digits : cs.mapM digitValue? = some ds) (nonempty : cs ≠ []) : ds ≠ [] := by
  obtain ⟨c, cs, rfl⟩ := List.exists_cons_of_ne_nil nonempty
  obtain ⟨d, rest, _, _, rfl⟩ := mapM_cons_eq_some.mp digits
  exact List.cons_ne_nil d rest

theorem exists_of_mem_digits (digits : cs.mapM digitValue? = some ds) (member : c ∈ cs) :
    ∃ d, digitValue? c = some d := by
  induction cs generalizing ds with
  | nil => cases member
  | cons c' cs ih =>
    obtain ⟨d, ds, first, others, _⟩ := mapM_cons_eq_some.mp digits
    rcases List.mem_cons.mp member with rfl | member
    · exact ⟨d, first⟩
    · exact ih others member

/-- A unit letter is none of the other characters. -/
theorem unitLetter_cases (letter : isUnitLetter c = true) :
    isBlank c = false ∧ digitValue? c = none ∧ c ≠ '.' ∧ isPlain c = true := by
  have reached : covers [(0x61, 0x7a)] c.toNat = true := by
    simpa [isUnitLetter, covers, Char.le_def, UInt32.le_iff_toNat_le] using letter
  refine ⟨?_, ?_, ?_, ?_⟩
  · rw [isBlank_eq]
    exact covers_eq_false (by decide) reached
  · exact digitValue?_of_not_covers (covers_eq_false (by decide) reached)
  · rintro rfl
    cases reached
  · obtain ⟨r, member, bounds⟩ := covers_iff.mp reached
    refine covers_iff.mpr ⟨r, List.mem_append_right _ ?_, bounds⟩
    exact List.mem_cons_of_mem _ member

/-! ## Reading the parts -/

/-- Digits are split off as far as they go. -/
theorem spanDecimal_append (digits : cs.mapM digitValue? = some ds)
    (stops : ∀ c ∈ rest.head?, digitValue? c = none) : spanDecimal (cs ++ rest) = (ds, rest) := by
  induction cs generalizing ds with
  | nil =>
    cases digits
    cases rest with
    | nil => rfl
    | cons c rest => simp [spanDecimal, stops c rfl]
  | cons c cs ih =>
    obtain ⟨d, ds, first, others, rfl⟩ := mapM_cons_eq_some.mp digits
    simp [spanDecimal, first, ih others]

/-- What was split off are digits, and what is left does not begin with one. -/
theorem exists_of_spanDecimal (split : spanDecimal cs = (ds, rest)) :
    ∃ front, cs = front ++ rest ∧ front.mapM digitValue? = some ds ∧ ∀ c ∈ rest.head?, digitValue? c = none := by
  induction cs generalizing ds with
  | nil =>
    cases split
    exact ⟨[], rfl, rfl, by simp⟩
  | cons c cs ih =>
    rw [spanDecimal] at split
    cases first : digitValue? c with
    | none =>
      rw [first] at split
      cases split
      exact ⟨[], rfl, rfl, by simpa using first⟩
    | some d =>
      rw [first] at split
      dsimp only at split
      obtain ⟨front, cut, others, stops⟩ := @ih (spanDecimal cs).1 (by
        rw [← (Prod.mk.inj split).2])
      refine ⟨c :: front, by rw [List.cons_append, ← cut], ?_, stops⟩
      exact mapM_cons_eq_some.mpr ⟨d, _, first, others, (Prod.mk.inj split).1⟩

/-- A point with digits behind it is split off. -/
theorem spanPlaces_append (fraction : IsFraction cs places)
    (stops : ∀ c ∈ rest.head?, digitValue? c = none ∧ c ≠ '.') : spanPlaces (cs ++ rest) = (places, rest) := by
  rcases fraction with ⟨rfl, rfl⟩ | ⟨ds, rfl, nonempty, digits⟩
  · cases rest with
    | nil => rfl
    | cons c rest =>
      obtain ⟨_, other⟩ := stops c rfl
      rw [List.nil_append, spanPlaces]
      rintro cs' same
      exact other (List.cons.inj same).1
  · have split := spanDecimal_append digits fun c first => (stops c first).1
    -- a point with no digits behind it would be left where it is
    obtain ⟨d, places, rfl⟩ := List.exists_cons_of_ne_nil (ne_nil_of_digits digits nonempty)
    simp [spanPlaces, split]

/-- What was split off is a point with digits behind it, if anything. -/
theorem exists_of_spanPlaces (split : spanPlaces cs = (places, rest)) :
    ∃ fraction, cs = fraction ++ rest ∧ IsFraction fraction places := by
  unfold spanPlaces at split
  split at split
  · rename_i cs
    split at split
    · cases split
      exact ⟨[], rfl, .inl ⟨rfl, rfl⟩⟩
    · rename_i ds rest' some found
      cases split
      obtain ⟨front, cut, digits, _⟩ := exists_of_spanDecimal found
      refine ⟨'.' :: front, by rw [List.cons_append, ← cut], .inr ⟨front, rfl, ?_, digits⟩⟩
      rintro rfl
      cases digits
      exact some rfl
  · cases split
    exact ⟨[], rfl, .inl ⟨rfl, rfl⟩⟩

namespace Parts

variable {p : Parts} {unit : List Char}

/-- Behind the unit there is nothing but the blanks at the end. -/
theorem Spells.unit_eq (spells : p.Spells whole places) :
    ((p.unit ++ p.back).dropWhile isBlank).takeWhile isUnitLetter = p.unit ∧
      (((p.unit ++ p.back).dropWhile isBlank).dropWhile isUnitLetter).dropWhile isBlank = [] := by
  have behind : p.back.dropWhile isBlank = [] := List.dropWhile_eq_nil_iff.mpr spells.back
  cases unit : p.unit with
  | nil =>
    rw [List.nil_append, behind]
    exact ⟨rfl, rfl⟩
  | cons c cs =>
    have letters := spells.unit
    rw [unit] at letters
    have first : isBlank c = false := (unitLetter_cases (letters c List.mem_cons_self)).1
    -- a blank is no letter, so the unit ends where the blanks at the end begin
    have stops : ∀ c ∈ p.back.head?, isUnitLetter c = false := by
      intro c at'
      rw [Bool.eq_false_iff]
      intro letter
      have blank := spells.back c (List.mem_of_mem_head? at')
      rw [(unitLetter_cases letter).1] at blank
      cases blank
    have ends : p.back.takeWhile isUnitLetter = [] ∧ p.back.dropWhile isUnitLetter = p.back := by
      cases back : p.back with
      | nil => exact ⟨rfl, rfl⟩
      | cons c cs =>
        have stops := stops c (by rw [back]; rfl)
        exact ⟨List.takeWhile_cons_of_neg (by simp [stops]), List.dropWhile_cons_of_neg (by simp [stops])⟩
    have kept : ((c :: cs) ++ p.back).dropWhile isBlank = (c :: cs) ++ p.back :=
      List.dropWhile_cons_of_neg (by simp [first])
    rw [kept, List.takeWhile_append_of_pos letters, List.dropWhile_append_of_pos letters, ends.1, ends.2]
    exact ⟨List.append_nil _, behind⟩

/-- Behind the digits stands neither a digit nor a second point. -/
theorem Spells.stops (spells : p.Spells whole places) :
    ∀ c ∈ (p.gap ++ (p.unit ++ p.back)).head?, digitValue? c = none ∧ c ≠ '.' := by
  intro c first
  have blank (is : isBlank c = true) : digitValue? c = none ∧ c ≠ '.' :=
    ⟨digitValue?_of_isBlank is, by rintro rfl; exact absurd is (by decide)⟩
  have member := List.mem_of_mem_head? first
  rcases List.mem_append.mp member with member | member
  · exact blank (spells.gap c member)
  · rcases List.mem_append.mp member with member | member
    · obtain ⟨_, other, point, _⟩ := unitLetter_cases (spells.unit c member)
      exact ⟨other, point⟩
    · exact blank (spells.back c member)

theorem Spells.head_digits (spells : p.Spells whole places) : ∀ c ∈ p.digits.head?, isBlank c = false := by
  intro c first
  obtain ⟨d, digit⟩ := exists_of_mem_digits spells.digits (List.mem_of_mem_head? first)
  exact isBlank_of_digitValue? digit

/-- A text is split into its parts. -/
theorem Spells.split?_text (spells : p.Spells whole places) : split? p.text = some (whole, places, p.unit) := by
  obtain ⟨unit, nothing⟩ := spells.unit_eq
  have front : p.text.dropWhile isBlank = p.digits ++ (p.fraction ++ (p.gap ++ (p.unit ++ p.back))) := by
    rw [text, List.dropWhile_append_of_pos spells.front]
    cases digits : p.digits with
    | nil => exact absurd digits spells.nonempty
    | cons c cs =>
      have first := spells.head_digits c (by rw [digits]; rfl)
      exact List.dropWhile_cons_of_neg (by simp [first])
  have afterDigits : ∀ c ∈ (p.fraction ++ (p.gap ++ (p.unit ++ p.back))).head?, digitValue? c = none := by
    rcases spells.fraction with ⟨none, _⟩ | ⟨ds, some, _⟩
    · rw [none]
      exact fun c first => (spells.stops c first).1
    · rw [some]
      intro c first
      cases first
      decide
  have nonempty : whole.isEmpty = false :=
    List.isEmpty_eq_false_iff.mpr (ne_nil_of_digits spells.digits spells.nonempty)
  have gap : (p.gap ++ (p.unit ++ p.back)).dropWhile isBlank = (p.unit ++ p.back).dropWhile isBlank :=
    List.dropWhile_append_of_pos spells.gap
  simp only [split?, front, spanDecimal_append spells.digits afterDigits,
    spanPlaces_append spells.fraction spells.stops, gap, unit, nothing, nonempty]
  rfl

/-- A text that is split has parts. -/
theorem exists_of_split? (split : split? cs = some (whole, places, unit)) :
    ∃ p : Parts, p.Spells whole places ∧ p.text = cs ∧ p.unit = unit := by
  rcases first : spanDecimal (cs.dropWhile isBlank) with ⟨whole', behind⟩
  rcases second : spanPlaces behind with ⟨places', rest⟩
  obtain ⟨digits, cut, read, _⟩ := exists_of_spanDecimal first
  obtain ⟨fraction, cut', point⟩ := exists_of_spanPlaces second
  simp only [split?, first, second] at split
  split at split
  · cases split
  · rename_i complete
    cases split
    obtain ⟨some, ends⟩ : whole ≠ [] ∧
        ((rest.dropWhile isBlank).dropWhile isUnitLetter).dropWhile isBlank = [] := by
      simpa [-List.dropWhile_eq_nil_iff] using complete
    have nonempty : digits ≠ [] := by
      rintro rfl
      cases read
      exact some rfl
    have blank {cs : List Char} : ∀ c ∈ cs.takeWhile isBlank, isBlank c = true := fun c member =>
      List.mem_takeWhile_imp member
    have back : ∀ c ∈ (rest.dropWhile isBlank).dropWhile isUnitLetter, isBlank c = true :=
      List.dropWhile_eq_nil_iff.mp ends
    have whole : cs = cs.takeWhile isBlank ++ (digits ++ (fraction ++ rest)) := by
      rw [← cut', ← cut, List.takeWhile_append_dropWhile]
    have tail : rest = rest.takeWhile isBlank ++ ((rest.dropWhile isBlank).takeWhile isUnitLetter ++
        (rest.dropWhile isBlank).dropWhile isUnitLetter) := by
      rw [List.takeWhile_append_dropWhile, List.takeWhile_append_dropWhile]
    cases unit : (rest.dropWhile isBlank).takeWhile isUnitLetter with
    | nil =>
      -- without a unit all blanks stand at the end
      rw [unit, List.nil_append] at tail
      refine ⟨⟨cs.takeWhile isBlank, digits, fraction, [], [], rest⟩,
        ⟨blank, nonempty, read, point, by simp, by simp, ?_, fun _ => rfl⟩, whole.symm, rfl⟩
      rw [tail]
      exact List.forall_mem_append.mpr ⟨blank, back⟩
    | cons c letters =>
      refine ⟨⟨cs.takeWhile isBlank, digits, fraction, rest.takeWhile isBlank, c :: letters,
        (rest.dropWhile isBlank).dropWhile isUnitLetter⟩,
        ⟨blank, nonempty, read, point, blank, ?_, back, fun none => by cases none⟩, ?_, rfl⟩
      · rw [← unit]
        exact fun c member => List.mem_takeWhile_imp member
      · rw [unit] at tail
        rw [text, ← tail, ← whole]

/-- Nothing but plain characters stands in a text with parts. -/
theorem Spells.isPlain (spells : p.Spells whole places) : ∀ c ∈ p.text, isPlain c = true := by
  have digit {cs : List Char} {ds : List Nat} (digits : cs.mapM digitValue? = some ds) :
      ∀ c ∈ cs, Text.isPlain c = true := fun c member =>
    isPlain_of_digitValue? (exists_of_mem_digits digits member).choose_spec
  simp only [text, List.forall_mem_append]
  refine ⟨fun c member => isPlain_of_isBlank (spells.front c member), digit spells.digits, ?_,
    fun c member => isPlain_of_isBlank (spells.gap c member),
    fun c member => (unitLetter_cases (spells.unit c member)).2.2.2,
    fun c member => isPlain_of_isBlank (spells.back c member)⟩
  rcases spells.fraction with ⟨none, _⟩ | ⟨ds, some, _, read⟩
  · simp [none]
  · rw [some]
    exact List.forall_mem_cons.mpr ⟨by decide, digit read⟩

/-- Without the blanks at the ends the last character is not blank. -/
theorem Spells.last (spells : p.Spells whole places) :
    ∀ c ∈ (p.digits ++ (p.fraction ++ (p.gap ++ p.unit))).getLast?, isBlank c = false := by
  have digit {cs : List Char} {ds : List Nat} (digits : cs.mapM digitValue? = some ds) :
      ∀ c ∈ cs, isBlank c = false := fun c member =>
    isBlank_of_digitValue? (exists_of_mem_digits digits member).choose_spec
  intro c last
  -- the last character is a letter of the unit, or without a unit a digit or the point
  by_cases unitless : p.unit = []
  · rw [unitless, spells.close unitless, List.append_nil, List.append_nil] at last
    rcases List.mem_append.mp (List.mem_of_getLast? last) with member | member
    · exact digit spells.digits c member
    · rcases spells.fraction with ⟨none, _⟩ | ⟨ds, some, _, read⟩
      · rw [none] at member
        cases member
      · rw [some] at member
        rcases List.mem_cons.mp member with rfl | member
        · decide
        · exact digit read c member
  · obtain ⟨letters, letter, cut⟩ := (List.eq_nil_or_concat p.unit).resolve_left unitless
    rw [List.concat_eq_append] at cut
    rw [cut, ← List.append_assoc, ← List.append_assoc, ← List.append_assoc, List.getLast?_concat] at last
    cases last
    exact (unitLetter_cases (spells.unit _ (by simp [cut]))).1

/-- Parts in normal form: there are no blanks at the ends, and no spaces in the gap. -/
def close (p : Parts) : Parts := { p with front := [], gap := p.gap.filter (· != ' '), back := [] }

/-- A text becomes that of the normal form when its ends are stripped and its spaces are left out. -/
theorem Spells.text_close (spells : p.Spells whole places) :
    (dropEnds isBlank p.text).filter (· != ' ') = p.close.text := by
  have first : ∀ c ∈ (p.digits ++ (p.fraction ++ (p.gap ++ p.unit))).head?, isBlank c = false := by
    rw [List.head?_append_of_ne_nil _ spells.nonempty]
    exact spells.head_digits
  have core : p.text = p.front ++ ((p.digits ++ (p.fraction ++ (p.gap ++ p.unit))) ++ p.back) := by
    simp [text]
  -- only the gap in front of the unit can hold spaces
  have kept {cs : List Char} (solid : ∀ c ∈ cs, isBlank c = false) : cs.filter (· != ' ') = cs := by
    refine List.filter_eq_self.mpr fun c member => ?_
    rw [bne_iff_ne]
    rintro rfl
    exact absurd (solid _ member) (by decide)
  have digits {cs : List Char} {ds : List Nat} (read : cs.mapM digitValue? = some ds) :
      cs.filter (· != ' ') = cs :=
    kept fun c member => isBlank_of_digitValue? (exists_of_mem_digits read member).choose_spec
  have fraction : p.fraction.filter (· != ' ') = p.fraction := by
    rcases spells.fraction with ⟨none, _⟩ | ⟨ds, some, _, read⟩
    · rw [none]
      rfl
    · rw [some, List.filter_cons_of_pos (by decide), digits read]
  rw [core, dropEnds_append spells.front spells.back (by simp [spells.nonempty]) first spells.last]
  simp only [List.filter_append, digits spells.digits, fraction,
    kept fun c member => (unitLetter_cases (spells.unit c member)).1]
  simp [text, Parts.close]

end Parts

end Distance
end Venues
