import Mathlib.Data.List.TakeDrop
import Venues.Index.Evaluate
import Venues.Proofs.Store.Like

/-! # Texts inside texts, in the index

A text that a field has to hold stands in its clause between two stars, just as it is, and the clause is
then read as a pattern. So it holds of the texts with a part that fits this pattern. That part is the text
itself, as it is for rows, if none of the signs of patterns is in it. But a question mark in it stands for
any character, and brackets stand for one of those between them.
-/

namespace Venues.Index

open Text (lower isPartOf isPartOf_iff mem_suffixes)

variable {cs ds front inside rest : List Char} {parts : List PatternPart} {fuel fuel' : Nat} {c : Char}

/-! ## Brackets -/

/-- Splits a text at its first closing bracket, behind what was already passed. -/
def close? (front cs : List Char) : Option (List Char × List Char) :=
  match cs.span (· != ']') with
  | (inside, _ :: rest) => some (front ++ inside, rest)
  | (_, []) => none

theorem length_of_close? (closed : close? front cs = some (inside, rest)) : rest.length < cs.length := by
  rw [close?, List.span_eq_takeWhile_dropWhile] at closed
  have suffix := (List.dropWhile_suffix (l := cs) (· != ']')).length_le
  split at closed
  · rename_i found
    obtain ⟨-, tail⟩ := Prod.mk.inj found
    obtain ⟨-, rfl⟩ := Prod.mk.inj (Option.some.inj closed)
    rwa [tail] at suffix
  · cases closed

theorem close?_star : close? front (cs ++ ['*']) = (close? front cs).map fun s => (s.1, s.2 ++ ['*']) := by
  simp only [close?, List.span_eq_takeWhile_dropWhile, List.takeWhile_append, List.dropWhile_append]
  cases tail : cs.dropWhile (· != ']') with
  | nil => simp
  | cons d tail =>
    -- the bracket that closes stands before the star
    have proper : (cs.takeWhile (· != ']')).length ≠ cs.length := by
      have whole := congrArg List.length (List.takeWhile_append_dropWhile (p := (· != ']')) (l := cs))
      rw [List.length_append, tail, List.length_cons] at whole
      omega
    simp [proper]

theorem splitBrackets?_cons (plain : c ≠ '!') (inner : c ≠ ']') : splitBrackets? (c :: cs) = close? [] (c :: cs) := by
  cases tail : cs.dropWhile (· != ']') <;> simp [splitBrackets?, close?, plain, inner, tail]

theorem splitBrackets?_mark (inner : c ≠ ']') : splitBrackets? ('!' :: c :: cs) = close? ['!'] (c :: cs) := by
  cases tail : cs.dropWhile (· != ']') <;> simp [splitBrackets?, close?, inner, tail]

/-- What brackets hold begins behind their first characters, which do not close them. -/
theorem splitBrackets?_eq (cs : List Char) : ∃ front rest, cs = front ++ rest ∧
    splitBrackets? cs = close? front rest ∧ splitBrackets? (cs ++ ['*']) = close? front (rest ++ ['*']) := by
  cases cs with
  | nil => exact ⟨[], [], rfl, rfl, rfl⟩
  | cons c cs =>
    -- a mark of negation and a bracket right behind it are passed over before the end is looked for
    by_cases negated : c = '!'
    · subst negated
      cases cs with
      | nil => exact ⟨['!'], [], rfl, rfl, rfl⟩
      | cons d cs =>
        by_cases bracket : d = ']'
        · subst bracket
          exact ⟨['!', ']'], cs, rfl, rfl, rfl⟩
        · exact ⟨['!'], d :: cs, rfl, splitBrackets?_mark bracket, splitBrackets?_mark bracket⟩
    · by_cases bracket : c = ']'
      · subst bracket
        exact ⟨[']'], cs, rfl, rfl, rfl⟩
      · exact ⟨[], c :: cs, rfl, splitBrackets?_cons negated bracket, splitBrackets?_cons negated bracket⟩

theorem length_of_splitBrackets? (split : splitBrackets? cs = some (inside, rest)) : rest.length < cs.length := by
  obtain ⟨front, behind, rfl, closed, -⟩ := splitBrackets?_eq cs
  have shorter := length_of_close? (closed.symm.trans split)
  rw [List.length_append]
  omega

theorem splitBrackets?_star :
    splitBrackets? (cs ++ ['*']) = (splitBrackets? cs).map fun s => (s.1, s.2 ++ ['*']) := by
  obtain ⟨front, behind, -, closed, starred⟩ := splitBrackets?_eq cs
  rw [starred, closed, close?_star]

/-! ## Reading patterns -/

theorem readPattern_cons : readPattern (fuel + 1) (c :: cs) =
    if c = '*' then .run :: readPattern fuel cs
    else if c = '?' then .any :: readPattern fuel cs
    else if c = '[' then
      match splitBrackets? cs with
      | some (inside, rest) => .ofBrackets inside :: readPattern fuel rest
      | none => .char '[' :: readPattern fuel cs
    else .char c :: readPattern fuel cs := by
  by_cases star : c = '*'
  · subst star
    rfl
  by_cases mark : c = '?'
  · subst mark
    rfl
  by_cases bracket : c = '['
  · subst bracket
    rfl
  · simp [readPattern, star, mark, bracket]

/-- A pattern has at most as many parts as its text has characters. -/
theorem readPattern_eq (enough : cs.length ≤ fuel) : readPattern fuel cs = pattern cs := by
  -- brackets take several characters at once, so both amounts of fuel are left open
  suffices same : ∀ (fuel fuel' : Nat) (cs : List Char), cs.length ≤ fuel → cs.length ≤ fuel' →
      readPattern fuel cs = readPattern fuel' cs from same fuel cs.length cs enough (Nat.le_refl _)
  intro fuel
  induction fuel with
  | zero =>
    intro fuel' cs none _
    obtain rfl : cs = [] := List.eq_nil_of_length_eq_zero (by omega)
    cases fuel' <;> rfl
  | succ fuel ih =>
    intro fuel' cs enough enough'
    cases cs with
    | nil => cases fuel' <;> rfl
    | cons c cs =>
      cases fuel' with
      | zero => simp at enough'
      | succ fuel' =>
        simp only [List.length_cons, Nat.add_le_add_iff_right] at enough enough'
        rw [readPattern_cons, readPattern_cons, ih fuel' cs enough enough']
        cases split : splitBrackets? cs with
        | none => rfl
        | some s =>
          have shorter := length_of_splitBrackets? split
          simp only [ih fuel' s.2 (by omega) (by omega)]

theorem pattern_cons : pattern (c :: cs) =
    if c = '*' then .run :: pattern cs
    else if c = '?' then .any :: pattern cs
    else if c = '[' then
      match splitBrackets? cs with
      | some (inside, rest) => .ofBrackets inside :: pattern rest
      | none => .char '[' :: pattern cs
    else .char c :: pattern cs := by
  rw [pattern, List.length_cons, readPattern_cons]
  cases split : splitBrackets? cs with
  | none => rfl
  | some s =>
    have shorter := length_of_splitBrackets? split
    simp only [readPattern_eq (show s.2.length ≤ cs.length by omega)]
    rfl

/-- A star at the end of a text is a run of its own, whatever stands before it. -/
theorem pattern_star : pattern (cs ++ ['*']) = pattern cs ++ [.run] := by
  -- brackets leave more than one character behind, so the induction is on the length
  generalize size : cs.length = n
  induction n using Nat.strongRecOn generalizing cs with
  | ind n ih =>
    subst size
    cases cs with
    | nil => rfl
    | cons c cs =>
      have shorter := ih cs.length (by simp) rfl
      rw [List.cons_append, pattern_cons, pattern_cons, splitBrackets?_star, shorter]
      cases split : splitBrackets? cs with
      | none =>
        split_ifs <;> rfl
      | some s =>
        have := length_of_splitBrackets? split
        have behind := ih s.2.length (by simp only [List.length_cons]; omega) rfl
        simp only [Option.map_some, behind]
        split_ifs <;> rfl

/-! ## Texts that fit -/

theorem fits_cons_nil (single : part ≠ .run) : fits (part :: parts) [] = false := by
  cases part with
  | run => exact absurd rfl single
  | _ => rfl

theorem fits_cons_cons (single : part ≠ .run) :
    fits (part :: parts) (c :: cs) = (part.accepts c && fits parts cs) := by
  cases part with
  | run => exact absurd rfl single
  | _ => rfl

theorem fits_run_cons :
    fits (.run :: parts) cs = true ↔ ∃ before behind, cs = before ++ behind ∧ fits parts behind = true := by
  rw [fits, List.any_eq_true]
  constructor
  · rintro ⟨behind, member, fit⟩
    obtain ⟨before, rfl⟩ := mem_suffixes.mp member
    exact ⟨before, behind, rfl, fit⟩
  · rintro ⟨before, behind, rfl, fit⟩
    exact ⟨behind, mem_suffixes.mpr ⟨before, rfl⟩, fit⟩

theorem fits_append_run :
    fits (parts ++ [.run]) cs = true ↔ ∃ middle behind, cs = middle ++ behind ∧ fits parts middle = true := by
  induction parts generalizing cs with
  | nil =>
    rw [List.nil_append, fits_run_cons]
    simp [fits]
  | cons part parts ih =>
    rw [List.cons_append]
    by_cases run : part = .run
    · subst run
      -- the run in front takes what stands before the middle, so the cut between the two moves
      simp only [fits_run_cons, ih]
      constructor
      · rintro ⟨before, _, rfl, middle, behind, rfl, fit⟩
        exact ⟨before ++ middle, behind, by simp, before, middle, rfl, fit⟩
      · rintro ⟨_, behind, rfl, before, middle, rfl, fit⟩
        exact ⟨before, middle ++ behind, by simp, middle, behind, rfl, fit⟩
    · cases cs with
      | nil =>
        rw [fits_cons_nil run]
        simp [fits_cons_nil run]
      | cons c cs =>
        rw [fits_cons_cons run, Bool.and_eq_true, ih]
        constructor
        · rintro ⟨accepted, middle, behind, rfl, fit⟩
          exact ⟨c :: middle, behind, rfl, by rw [fits_cons_cons run, accepted, fit]; rfl⟩
        · rintro ⟨middle, behind, cut, fit⟩
          cases middle with
          | nil =>
            -- the part stands for a character, and there is none
            rw [fits_cons_nil run] at fit
            cases fit
          | cons d middle =>
            obtain ⟨rfl, rfl⟩ := List.cons.inj cut
            rw [fits_cons_cons run, Bool.and_eq_true] at fit
            exact ⟨fit.1, middle, behind, rfl, fit.2⟩

/-- Whether a text has a part with a property. -/
def HasPart (P : List Char → Prop) (cs : List Char) : Prop :=
  ∃ before middle behind, cs = before ++ middle ++ behind ∧ P middle

theorem HasPart.congr {P Q : List Char → Prop} (same : ∀ cs, P cs ↔ Q cs) : HasPart P cs ↔ HasPart Q cs := by
  simp only [HasPart, same]

theorem hasPart_self : HasPart (· = ds) cs ↔ isPartOf ds cs = true := by
  rw [isPartOf_iff, HasPart]
  grind

theorem fits_stars : fits (pattern ('*' :: (ds ++ ['*']))) cs = true ↔ HasPart (fits (pattern ds) · = true) cs := by
  rw [pattern_cons, if_pos rfl, pattern_star, fits_run_cons]
  simp only [fits_append_run]
  constructor
  · rintro ⟨before, _, rfl, middle, behind, rfl, fit⟩
    exact ⟨before, middle, behind, by simp, fit⟩
  · rintro ⟨before, middle, behind, rfl, fit⟩
    exact ⟨before, middle ++ behind, by simp, middle, behind, rfl, fit⟩

/-- Whether a character of a pattern without stars and brackets stands for a character: a question mark
stands for any, and every other one for itself. -/
def StandsFor (p c : Char) : Prop := p = '?' ∨ p = c

theorem fits_pattern (noStar : '*' ∉ ds) (noBracket : '[' ∉ ds) :
    fits (pattern ds) cs = true ↔ List.Forall₂ StandsFor ds cs := by
  induction ds generalizing cs with
  | nil => simp [pattern, readPattern, fits]
  | cons d ds ih =>
    -- every character is a part of its own here, and takes one character of the text
    simp only [List.mem_cons, not_or] at noStar noBracket
    have onward (cs : List Char) : fits (pattern ds) cs = true ↔ List.Forall₂ StandsFor ds cs :=
      ih noStar.2 noBracket.2
    rw [pattern_cons, if_neg (Ne.symm noStar.1), if_neg (Ne.symm noBracket.1)]
    cases cs with
    | nil => split <;> simp [fits]
    | cons c cs => split <;> simp_all [fits, StandsFor, PatternPart.accepts]

theorem forall₂_standsFor (noMark : '?' ∉ ds) : List.Forall₂ StandsFor ds cs ↔ cs = ds := by
  induction ds generalizing cs with
  | nil => simp
  | cons d ds ih =>
    simp only [List.mem_cons, not_or] at noMark
    cases cs with
    | nil => simp
    | cons c cs => simp [StandsFor, ih noMark.2, Ne.symm noMark.1, eq_comm]

/-! ## Clauses -/

section Clauses

variable {document : Value} {path needle text : String}

theorem fitsAnyCase_stars : fitsAnyCase ("*" ++ needle ++ "*") text = true ↔
    HasPart (fits (pattern (lower needle.toList)) · = true) (lower text.toList) := by
  have starred : ("*" ++ needle ++ "*").toList = '*' :: (needle.toList ++ ['*']) := by simp
  rw [fitsAnyCase, starred, Text.lower_stars, fits_stars]

theorem fitsAnyCase_stars_iff_standsFor (noStar : '*' ∉ needle.toList) (noBracket : '[' ∉ needle.toList) :
    fitsAnyCase ("*" ++ needle ++ "*") text = true ↔
      HasPart (List.Forall₂ StandsFor (lower needle.toList)) (lower text.toList) := by
  rw [fitsAnyCase_stars]
  -- lower case makes no stars and no brackets
  exact HasPart.congr fun cs => fits_pattern (fun member => noStar (Text.mem_of_mem_lower (by simp) member))
    fun member => noBracket (Text.mem_of_mem_lower (by simp) member)

theorem fitsAnyCase_stars_eq_isPartOf (noStar : '*' ∉ needle.toList) (noBracket : '[' ∉ needle.toList)
    (noMark : '?' ∉ needle.toList) :
    fitsAnyCase ("*" ++ needle ++ "*") text = isPartOf (lower needle.toList) (lower text.toList) := by
  have lowered : '?' ∉ lower needle.toList := fun member => noMark (Text.mem_of_mem_lower (by simp) member)
  rw [Bool.eq_iff_iff, fitsAnyCase_stars_iff_standsFor noStar noBracket, ← hasPart_self]
  exact HasPart.congr fun cs => forall₂_standsFor lowered

/-- The clause of a text that a field has to hold is true of a text with a part that fits it. With neither
stars nor brackets in it that is a part that it stands for, and without question marks too this is the text
itself, as for rows: where a predicate looks for it, and where a like pattern does. -/
theorem exists_holds_contains (held : fieldValue document path = .text text) :
    ∃ b, (Clause.ofCondition path (.contains needle)).holds document = .ok b ∧
      (b = true ↔ HasPart (fits (pattern (lower needle.toList)) · = true) (lower text.toList)) ∧
      ('*' ∉ needle.toList → '[' ∉ needle.toList →
        (b = true ↔ HasPart (List.Forall₂ StandsFor (lower needle.toList)) (lower text.toList)) ∧
        ('?' ∉ needle.toList →
          b = isPartOf (lower needle.toList) (lower text.toList) ∧
          (∀ (field : String) (row : Value), row.fields.get field = .text text →
            (Predicate.contains field (.text needle)).accepts row = .ok b) ∧
          ((∀ c ∈ needle.toList, Text.isAscii c = true ∧ c ≠ Char.ofNat 0) → Char.ofNat 0 ∉ text.toList →
            Text.FoldsPlainly text.toList →
            Store.Like.acceptsAnyCase (Store.Like.holding needle.toList) text.toList = b))) := by
  refine ⟨fitsAnyCase ("*" ++ needle ++ "*") text, ?_, fitsAnyCase_stars, fun noStar noBracket =>
    ⟨fitsAnyCase_stars_iff_standsFor noStar noBracket, fun noMark => ?_⟩⟩
  · simp [Clause.ofCondition, Clause.holds, fieldValues, held, Value.display]
  · rw [fitsAnyCase_stars_eq_isPartOf noStar noBracket noMark]
    refine ⟨rfl, fun field row shown => ?_, fun plain ends folds => ?_⟩
    · rw [Predicate.accepts, shown]
      rfl
    · rw [Store.Like.acceptsAnyCase_holding (fun member => (plain _ member).2 rfl) ends,
        Text.isPartOf_lower (fun c member => (plain c member).1) folds]

theorem exists_holds_contains_hanoi :
    ∃ b, (Clause.ofCondition "city" (.contains "Ano")).holds (.object [("city", .text "Hanoi")]) = .ok b ∧
      b = isPartOf (lower "Ano".toList) (lower "Hanoi".toList) := by
  obtain ⟨b, held, _, plain⟩ := exists_holds_contains
    (show fieldValue (.object [("city", .text "Hanoi")]) "city" = .text "Hanoi" from rfl)
  exact ⟨b, held, ((plain (by decide) (by decide)).2 (by decide)).1⟩

/-- A text that stands nowhere in the text of a field is found in it, as its question mark stands for any
character, and so do its brackets for one of those between them. -/
theorem holds_contains_mark :
    '*' ∉ "H?noi".toList ∧
      (Clause.ofCondition "city" (.contains "H?noi")).holds (.object [("city", .text "Hanoi")]) = .ok true ∧
      isPartOf (lower "H?noi".toList) (lower "Hanoi".toList) = false ∧
      (Predicate.contains "city" (.text "H?noi")).accepts (.object [("city", .text "Hanoi")]) = .ok false ∧
      (Clause.ofCondition "city" (.contains "h[abc]noi")).holds (.object [("city", .text "Hanoi")]) = .ok true ∧
      isPartOf (lower "h[abc]noi".toList) (lower "Hanoi".toList) = false := by
  refine ⟨by decide, ?_, by decide +kernel, ?_, ?_, by decide +kernel⟩
  · rfl
  · rfl
  · rfl

end Clauses

end Venues.Index
