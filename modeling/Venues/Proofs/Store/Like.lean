import Mathlib.Data.List.TakeWhile
import Venues.Proofs.Text.LowerCase
import Venues.Store.Like

/-! # Patterns that hold a text

The pattern of the texts that hold a given text fits just these texts: what is special in patterns is
escaped. Where texts end at their first NUL, that is so of texts without one.
-/

namespace Venues.Store.Like

open Text (asciiLower isPartOf isPartOf_iff isAscii mem_suffixes of_isAscii)

variable {fold : Char → Char} {needle pattern text cs : List Char} {parts : List Part} {c d : Char}

/-! ## What is special in patterns -/

def IsSpecial (c : Char) : Prop := c = '\\' ∨ c = '%' ∨ c = '_'

instance : DecidablePred IsSpecial := fun c => inferInstanceAs (Decidable (c = '\\' ∨ c = '%' ∨ c = '_'))

theorem mark_cons {special : Char} :
    mark special (c :: cs) = (if c = special then ['\\', c] else [c]) ++ mark special cs := rfl

/-- Each character of a text is escaped by itself. -/
theorem escape_cons :
    escape (c :: needle) = if IsSpecial c then '\\' :: c :: escape needle else c :: escape needle := by
  rw [escape, mark_cons]
  -- the signs are told apart one by one, as each is marked in a pass of its own
  by_cases backslash : c = '\\'
  · subst backslash
    rfl
  by_cases run : c = '%'
  · subst run
    rfl
  by_cases any : c = '_'
  · subst any
    rfl
  rw [if_neg backslash, List.singleton_append, mark_cons, if_neg run, List.singleton_append, mark_cons,
    if_neg any, if_neg (by simp [IsSpecial, backslash, run, any])]
  rfl

theorem escape_cons_of_special (special : IsSpecial c) : escape (c :: needle) = '\\' :: c :: escape needle := by
  rw [escape_cons, if_pos special]

theorem escape_cons_of_not_special (plain : ¬IsSpecial c) : escape (c :: needle) = c :: escape needle := by
  rw [escape_cons, if_neg plain]

/-- The characters that a fold makes equal are compared as the same: it leaves what is special in patterns
alone, and makes nothing else special. -/
structure Keeps (fold : Char → Char) : Prop where
  fold_eq {c : Char} : IsSpecial c → fold c = c
  isSpecial_of_fold {c : Char} : IsSpecial (fold c) → IsSpecial c

theorem Keeps.isSpecial_fold (keeps : Keeps fold) : IsSpecial (fold c) ↔ IsSpecial c := by
  refine ⟨keeps.isSpecial_of_fold, fun special => ?_⟩
  rwa [keeps.fold_eq special]

theorem keeps_asciiLower : Keeps asciiLower := by
  constructor
  · rintro c (rfl | rfl | rfl) <;> rfl
  · intro c
    cases ascii : isAscii c with
    | true =>
      exact of_isAscii (P := fun c => IsSpecial (asciiLower c) → IsSpecial c) (by decide +kernel) ascii
    | false =>
      rw [Text.asciiLower_of_not_isAscii ascii]
      exact id

theorem map_escape (keeps : Keeps fold) : (escape needle).map fold = escape (needle.map fold) := by
  induction needle with
  | nil => rfl
  | cons c needle ih =>
    by_cases special : IsSpecial c
    · rw [escape_cons_of_special special, List.map_cons, List.map_cons, List.map_cons, ih,
        escape_cons_of_special (keeps.isSpecial_fold.mpr special), keeps.fold_eq (.inl rfl)]
    · rw [escape_cons_of_not_special special, List.map_cons, List.map_cons, ih,
        escape_cons_of_not_special (mt keeps.isSpecial_of_fold special)]

theorem map_holding (keeps : Keeps fold) : (holding needle).map fold = holding (needle.map fold) := by
  rw [holding, holding, List.map_cons, List.map_append, map_escape keeps, keeps.fold_eq (.inr (.inl rfl)),
    List.map_singleton, keeps.fold_eq (.inr (.inl rfl))]

/-! ## Parts of patterns -/

theorem parts?_cons_of_not_special (plain : ¬IsSpecial c) :
    parts? (c :: cs) = (parts? cs).map (Part.char c :: ·) := by
  simp only [IsSpecial, not_or] at plain
  obtain ⟨noEscape, noRun, noAny⟩ := plain
  apply parts?.eq_6
  · exact fun _ _ escapes => absurd escapes noEscape
  · exact fun escapes => absurd escapes noEscape
  · exact noRun
  · exact noAny

/-- A text stands escaped in a pattern as just its characters. -/
theorem parts?_escape {rest : List Char} (read : parts? rest = some parts) :
    parts? (escape needle ++ rest) = some (needle.map Part.char ++ parts) := by
  induction needle with
  | nil => exact read
  | cons c needle ih =>
    by_cases special : IsSpecial c
    · -- behind a backslash every character stands for itself
      rw [escape_cons_of_special special, List.cons_append, List.cons_append, parts?, ih]
      rfl
    · rw [escape_cons_of_not_special special, List.cons_append, parts?_cons_of_not_special special, ih]
      rfl

theorem parts?_holding (needle : List Char) :
    parts? (holding needle) = some (.run :: (needle.map Part.char ++ [.run])) := by
  rw [holding, parts?, parts?_escape (show parts? ['%'] = some [.run] from rfl)]
  rfl

/-! ## Texts that fit -/

theorem fits_run_cons : fits (.run :: parts) cs = true ↔
    ∃ front behind, cs = front ++ behind ∧ fits parts behind = true := by
  rw [fits, List.any_eq_true]
  constructor
  · rintro ⟨behind, member, fit⟩
    obtain ⟨front, rfl⟩ := mem_suffixes.mp member
    exact ⟨front, behind, rfl, fit⟩
  · rintro ⟨front, behind, rfl, fit⟩
    exact ⟨behind, mem_suffixes.mpr ⟨front, rfl⟩, fit⟩

theorem fits_run : fits [.run] cs = true := fits_run_cons.mpr ⟨cs, [], (List.append_nil cs).symm, rfl⟩

theorem fits_chars : fits (needle.map Part.char ++ [.run]) cs = true ↔ ∃ behind, cs = needle ++ behind := by
  induction needle generalizing cs with
  | nil => exact iff_of_true fits_run ⟨cs, rfl⟩
  | cons n needle ih =>
    cases cs with
    | nil => simp [fits]
    | cons c cs =>
      rw [List.map_cons, List.cons_append, fits, Bool.and_eq_true, ih, beq_iff_eq]
      simp [eq_comm]

theorem fits_holding : fits (.run :: (needle.map Part.char ++ [.run])) cs = isPartOf needle cs := by
  rw [Bool.eq_iff_iff, fits_run_cons, isPartOf_iff]
  constructor
  · rintro ⟨front, suffix, rfl, fit⟩
    obtain ⟨behind, rfl⟩ := fits_chars.mp fit
    exact ⟨front, behind, (List.append_assoc ..).symm⟩
  · rintro ⟨front, behind, rfl⟩
    exact ⟨front, needle ++ behind, List.append_assoc .., fits_chars.mpr ⟨behind, rfl⟩⟩

theorem accepts_holding (keeps : Keeps fold) :
    accepts fold (holding needle) text = isPartOf (needle.map fold) (text.map fold) := by
  rw [accepts, map_holding keeps, parts?_holding]
  exact fits_holding

/-! ## The reading of patterns -/

/-- A text fits a pattern: `%` stands for any run of characters and `_` for any one, a character behind a
backslash for itself, and so does every other one, where characters count as the same that the fold makes
equal. Nothing fits a pattern whose last character is a backslash that escapes no other. -/
inductive Fits (fold : Char → Char) : (pattern text : List Char) → Prop
  | done : Fits fold [] []
  | past {pattern text : List Char} : Fits fold pattern text → Fits fold ('%' :: pattern) text
  | run {pattern text : List Char} {c : Char} : Fits fold ('%' :: pattern) text →
      Fits fold ('%' :: pattern) (c :: text)
  | any {pattern text : List Char} {c : Char} : Fits fold pattern text → Fits fold ('_' :: pattern) (c :: text)
  | escaped {pattern text : List Char} {d c : Char} : fold d = fold c → Fits fold pattern text →
      Fits fold ('\\' :: d :: pattern) (c :: text)
  | plain {pattern text : List Char} {d c : Char} : ¬IsSpecial d → fold d = fold c → Fits fold pattern text →
      Fits fold (d :: pattern) (c :: text)

theorem Fits.behind (fit : Fits fold pattern text) (front : List Char) :
    Fits fold ('%' :: pattern) (front ++ text) := by
  induction front with
  | nil => exact .past fit
  | cons c front ih => exact .run ih

theorem accepts_done : accepts fold [] text = true ↔ text = [] := by
  cases text with
  | nil => exact iff_of_true rfl rfl
  | cons c text => exact iff_of_false Bool.false_ne_true (List.cons_ne_nil c text)

theorem accepts_run (keeps : Keeps fold) : accepts fold ('%' :: pattern) text = true ↔
    ∃ front behind, text = front ++ behind ∧ accepts fold pattern behind = true := by
  rw [accepts, List.map_cons, keeps.fold_eq (.inr (.inl rfl)), parts?]
  simp only [accepts]
  cases parts? (pattern.map fold) with
  | none => simp
  | some parts =>
    show fits (.run :: parts) (text.map fold) = true ↔ _
    rw [fits_run_cons]
    constructor
    · rintro ⟨front, behind, cut, fit⟩
      obtain ⟨front, behind, rfl, rfl, rfl⟩ := List.map_eq_append_iff.mp cut
      exact ⟨front, behind, rfl, fit⟩
    · rintro ⟨front, behind, rfl, fit⟩
      exact ⟨front.map fold, behind.map fold, List.map_append, fit⟩

theorem accepts_any (keeps : Keeps fold) : accepts fold ('_' :: pattern) text = true ↔
    ∃ c behind, text = c :: behind ∧ accepts fold pattern behind = true := by
  rw [accepts, List.map_cons, keeps.fold_eq (.inr (.inr rfl)), parts?]
  simp only [accepts]
  cases parts? (pattern.map fold) with
  | none => simp
  | some parts => cases text <;> simp [fits]

/-- One character of a pattern that stands for itself, however it is written. -/
theorem accepts_char (written : List Char)
    (read : parts? ((written ++ pattern).map fold) = (parts? (pattern.map fold)).map (.char (fold d) :: ·)) :
    accepts fold (written ++ pattern) text = true ↔
      ∃ c behind, text = c :: behind ∧ fold d = fold c ∧ accepts fold pattern behind = true := by
  rw [accepts, read]
  simp only [accepts]
  cases parts? (pattern.map fold) with
  | none => simp
  | some parts => cases text <;> simp [fits]

theorem accepts_escaped (keeps : Keeps fold) : accepts fold ('\\' :: d :: pattern) text = true ↔
    ∃ c behind, text = c :: behind ∧ fold d = fold c ∧ accepts fold pattern behind = true := by
  refine accepts_char ['\\', d] ?_
  rw [List.cons_append, List.map_cons, keeps.fold_eq (.inl rfl)]
  rfl

theorem accepts_plain (keeps : Keeps fold) (plain : ¬IsSpecial d) : accepts fold (d :: pattern) text = true ↔
    ∃ c behind, text = c :: behind ∧ fold d = fold c ∧ accepts fold pattern behind = true :=
  accepts_char [d] (parts?_cons_of_not_special (mt keeps.isSpecial_of_fold plain))

theorem accepts_of_fits (keeps : Keeps fold) (fit : Fits fold pattern text) : accepts fold pattern text = true := by
  induction fit with
  | done => rfl
  | past _ ih => exact (accepts_run keeps).mpr ⟨[], _, rfl, ih⟩
  | run _ ih =>
    obtain ⟨front, behind, rfl, fit⟩ := (accepts_run keeps).mp ih
    exact (accepts_run keeps).mpr ⟨_ :: front, behind, rfl, fit⟩
  | any _ ih => exact (accepts_any keeps).mpr ⟨_, _, rfl, ih⟩
  | escaped same _ ih => exact (accepts_escaped keeps).mpr ⟨_, _, rfl, same, ih⟩
  | plain plain same _ ih => exact (accepts_plain keeps plain).mpr ⟨_, _, rfl, same, ih⟩

theorem fits_of_accepts (keeps : Keeps fold) (fit : accepts fold pattern text = true) : Fits fold pattern text := by
  -- patterns are taken apart as they are read, two characters at once behind a backslash
  induction pattern using parts?.induct generalizing text with
  | case1 =>
    obtain rfl := accepts_done.mp fit
    exact .done
  | case2 d pattern ih =>
    obtain ⟨c, behind, rfl, same, tail⟩ := (accepts_escaped keeps).mp fit
    exact .escaped same (ih tail)
  | case3 =>
    rw [accepts, List.map_singleton, keeps.fold_eq (.inl rfl)] at fit
    exact absurd fit Bool.false_ne_true
  | case4 pattern ih =>
    obtain ⟨front, behind, rfl, tail⟩ := (accepts_run keeps).mp fit
    exact (ih tail).behind front
  | case5 pattern ih =>
    obtain ⟨c, behind, rfl, tail⟩ := (accepts_any keeps).mp fit
    exact .any (ih tail)
  | case6 d pattern noEscape noLone noRun noAny ih =>
    have plain : ¬IsSpecial d := by
      rintro (rfl | rfl | rfl)
      · cases pattern with
        | nil => exact noLone rfl rfl
        | cons e pattern => exact noEscape e pattern rfl rfl
      · exact noRun rfl
      · exact noAny rfl
    obtain ⟨c, behind, rfl, same, tail⟩ := (accepts_plain keeps plain).mp fit
    exact .plain plain same (ih tail)

/-- A text fits the pattern of the texts that hold another one if and only if it holds that one, where
characters count as the same that the fold makes equal: what is special in patterns stands for itself in the
text sought. -/
theorem fits_holding_iff (keeps : Keeps fold) (needle text : List Char) :
    (Fits fold (holding needle) text ↔ needle.map fold <:+: text.map fold) ∧
      accepts fold (holding needle) text = isPartOf (needle.map fold) (text.map fold) := by
  have sought : accepts fold (holding needle) text = isPartOf (needle.map fold) (text.map fold) :=
    accepts_holding keeps
  refine ⟨?_, sought⟩
  calc Fits fold (holding needle) text
    _ ↔ accepts fold (holding needle) text = true := ⟨accepts_of_fits keeps, fits_of_accepts keeps⟩
    _ ↔ ∃ before after, text.map fold = before ++ needle.map fold ++ after := by rw [sought, isPartOf_iff]
    _ ↔ needle.map fold <:+: text.map fold := by simp only [List.IsInfix, eq_comm]

/-- Signs for runs and for any character, and a backslash at the end, are sought as they are. -/
theorem fits_holding_signs :
    Fits asciiLower (holding "Court 5%_\\".toList) "COURT 5%_\\, north".toList ∧
      ¬Fits asciiLower (holding "Court 5%_\\".toList) "COURT 50x\\, north".toList :=
  ⟨(fits_holding_iff keeps_asciiLower ..).1.mpr (by decide +kernel),
    mt (fits_holding_iff keeps_asciiLower ..).1.mp (by decide +kernel)⟩

/-! ## Texts without NUL -/

theorem untilNul_eq_self (none : Char.ofNat 0 ∉ cs) : untilNul cs = cs := by
  refine List.takeWhile_eq_self_iff.mpr fun c member => ?_
  rw [bne_iff_ne]
  rintro rfl
  exact none member

theorem mem_escape (member : c ∈ escape needle) : c ∈ needle ∨ c = '\\' := by
  induction needle with
  | nil => cases member
  | cons n needle ih =>
    rw [escape_cons] at member
    split at member <;> simp only [List.mem_cons] at member ⊢ <;> grind

theorem untilNul_holding (none : Char.ofNat 0 ∉ needle) : untilNul (holding needle) = holding needle := by
  refine untilNul_eq_self fun member => ?_
  -- a pattern has the characters of its text, the signs for runs, and backslashes
  simp only [holding, List.mem_cons, List.mem_append, List.not_mem_nil, or_false] at member
  rcases member with first | escaped | last
  · exact absurd first (by decide)
  · rcases mem_escape escaped with member | escape
    · exact none member
    · exact absurd escape (by decide)
  · exact absurd last (by decide)

/-- A text without NUL fits the pattern of the texts that hold another one if and only if it holds that one,
where the case of the letters A to Z does not count. -/
theorem acceptsAnyCase_holding (needle' : Char.ofNat 0 ∉ needle) (text : Char.ofNat 0 ∉ cs) :
    acceptsAnyCase (holding needle) cs = isPartOf (needle.map asciiLower) (cs.map asciiLower) := by
  rw [acceptsAnyCase, untilNul_holding needle', untilNul_eq_self text]
  exact accepts_holding keeps_asciiLower

end Venues.Store.Like
