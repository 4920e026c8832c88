import Mathlib.Data.List.Forall2
import Venues.Proofs.Distance
import Venues.Text.Infix

/-! # Letters without case

Where a text of ASCII characters is looked for, it makes no difference whether the case of all letters is
ignored or that of the letters A to Z alone: no other letter becomes an ASCII character in lower case. There
are two exceptions, the sign for kelvin and the capital I with a dot.
-/

namespace Venues.Text

/-- Whether a character is one of the first 128. -/
def isAscii (c : Char) : Bool := c.toNat < 128

/-- The characters that are no ASCII characters but become some in lower case. -/
def kelvin : Char := Char.ofNat 0x212a

/-- Whether no other characters than the letters A to Z become ASCII characters in lower case. -/
def FoldsPlainly (cs : List Char) : Prop := ∀ c ∈ cs, c ≠ kelvin ∧ c ≠ 'İ'

-- the characters at hand are tried, not all that there are
instance (cs : List Char) : Decidable (FoldsPlainly cs) := List.decidableBAll (fun c => c ≠ kelvin ∧ c ≠ 'İ') cs

variable {c d : Char} {cs ds needle : List Char}

/-! ## Single characters -/

theorem of_isAscii {P : Char → Prop} (all : ∀ n : Fin 128, P (Char.ofNat n)) (ascii : isAscii c = true) : P c := by
  have holds := all ⟨c.toNat, of_decide_eq_true ascii⟩
  rwa [Char.ofNat_toNat] at holds

theorem lowerChar_of_isAscii (ascii : isAscii c = true) : lowerChar c = asciiLower c := by
  have first : ∀ r ∈ lowerRuns, r.1 < 128 → r = (0x41, 0x5a, 1, 32) := by decide +kernel
  have small : c.toNat < 128 := of_decide_eq_true ascii
  by_cases upper : 'A' ≤ c ∧ c ≤ 'Z'
  · obtain ⟨n, place⟩ : ∃ n : Fin 26, c.toNat = 65 + n := by
      have least : 65 ≤ c.toNat := upper.1
      have most : c.toNat ≤ 90 := upper.2
      exact ⟨⟨c.toNat - 65, by omega⟩, by simp only; omega⟩
    have all : ∀ n : Fin 26, lowerChar (Char.ofNat (65 + n)) = asciiLower (Char.ofNat (65 + n)) := by decide +kernel
    have same := all n
    rwa [← place, Char.ofNat_toNat] at same
  · -- there is but one run of ASCII characters
    have none : lowerRuns.find? (fun r => r.1 ≤ c.toNat && c.toNat ≤ r.2.1 && (c.toNat - r.1) % r.2.2.1 == 0) = none := by
      rw [List.find?_eq_none]
      intro r member reached
      simp only [Bool.and_eq_true, decide_eq_true_eq] at reached
      obtain rfl := first r member (by omega)
      exact upper reached.1
    rw [asciiLower, if_neg upper, lowerChar, none]

theorem isAscii_asciiLower (ascii : isAscii c = true) : isAscii (asciiLower c) = true :=
  of_isAscii (P := fun c => isAscii (asciiLower c) = true) (by decide +kernel) ascii

theorem asciiLower_of_not_isAscii (other : isAscii c = false) : asciiLower c = c := by
  unfold asciiLower
  rw [if_neg]
  rintro ⟨_, most⟩
  have : c.toNat ≤ 'Z'.toNat := most
  have : ¬ c.toNat < 128 := of_decide_eq_false other
  have : 'Z'.toNat = 90 := rfl
  omega

/-- Only one character beyond the ASCII characters becomes one of them in lower case. -/
theorem isAscii_lowerChar (other : isAscii c = false) (plain : c ≠ kelvin) : isAscii (lowerChar c) = false := by
  have beyond : ∀ r ∈ lowerRuns, 128 ≤ r.2.1 → r = (0x212a, 0x212a, 1, -8383) ∨
      128 ≤ (r.1 : Int) + r.2.2.2 ∧ ((r.2.1 : Int) + r.2.2.2 < 0xd800 ∨
        0xdfff < (r.1 : Int) + r.2.2.2 ∧ (r.2.1 : Int) + r.2.2.2 < 0x110000) := by decide +kernel
  have large : ¬ c.toNat < 128 := of_decide_eq_false other
  unfold lowerChar
  dsimp only
  split
  · rename_i r found
    obtain ⟨member, least, most⟩ := covers_lowerRuns found
    rcases beyond r member (by omega) with rfl | ⟨low, valid⟩
    · -- the only run that leads back to ASCII characters has the sign for kelvin in it alone
      refine absurd ?_ plain
      rw [← Char.ofNat_toNat (c := c), show c.toNat = 0x212a by simp only at least most; omega]
      rfl
    · generalize place : ((c.toNat : Int) + r.2.2.2).toNat = n
      have isValid : n.isValidChar := by
        rcases valid with below | ⟨above, below⟩
        · exact .inl (by omega)
        · exact .inr ⟨by omega, by omega⟩
      have image : (Char.ofNat n).toNat = n := by
        rw [Char.ofNat, dif_pos isValid]
        rfl
      rw [isAscii, image]
      exact decide_eq_false (by omega)
  · exact other

/-! ## Texts -/

/-- Whether two characters are the same, as far as ASCII characters are told apart. -/
def Blurs (c d : Char) : Prop := c = d ∨ isAscii c = false ∧ isAscii d = false

theorem blurs_lowerChar (plain : c ≠ kelvin) : Blurs (lowerChar c) (asciiLower c) := by
  cases ascii : isAscii c with
  | true => exact .inl (lowerChar_of_isAscii ascii)
  | false => exact .inr ⟨isAscii_lowerChar ascii plain, by rw [asciiLower_of_not_isAscii ascii, ascii]⟩

/-- A text in lower case is the same but for its other characters. -/
theorem blurs_lower (folds : FoldsPlainly cs) : List.Forall₂ Blurs (lower cs) (cs.map asciiLower) := by
  -- what a sigma becomes depends on the characters that were passed
  have onward (before : List Char) : List.Forall₂ Blurs (lowerFrom before cs) (cs.map asciiLower) := by
    induction cs generalizing before with
    | nil => exact .nil
    | cons c cs ih =>
      obtain ⟨⟨noKelvin, noDot⟩, others⟩ := List.forall_mem_cons.mp folds
      have rest := ih others (c :: before)
      rw [lowerFrom, List.map_cons]
      by_cases sigma : c = 'Σ'
      · subst sigma
        refine .cons (.inr ⟨?_, by decide⟩) rest
        split <;> decide
      · rw [if_neg (by simpa using sigma), if_neg (by simpa using noDot)]
        exact .cons (blurs_lowerChar noKelvin) rest
  exact onward []

theorem isPrefixOf_of_blurs (ascii : ∀ c ∈ needle, isAscii c = true) (same : List.Forall₂ Blurs cs ds) :
    needle.isPrefixOf cs = needle.isPrefixOf ds := by
  induction needle generalizing cs ds with
  | nil => simp
  | cons n needle ih =>
    obtain ⟨first, others⟩ := List.forall_mem_cons.mp ascii
    cases same with
    | nil => rfl
    | @cons c d cs ds blurs rest =>
      rw [List.isPrefixOf_cons_cons, List.isPrefixOf_cons_cons, ih others rest]
      rcases blurs with rfl | ⟨otherC, otherD⟩
      · rfl
      · -- a character that is not ASCII is no character of the needle
        have apart {e : Char} (other : isAscii e = false) : (n == e) = false := by
          rw [beq_eq_false_iff_ne]
          rintro rfl
          rw [first] at other
          cases other
        rw [apart otherC, apart otherD]

theorem isPartOf_of_blurs (ascii : ∀ c ∈ needle, isAscii c = true) (same : List.Forall₂ Blurs cs ds) :
    isPartOf needle cs = isPartOf needle ds := by
  induction same with
  | nil => rfl
  | cons first rest ih => rw [isPartOf, isPartOf, isPrefixOf_of_blurs ascii (.cons first rest), ih]

/-- An ASCII text is part of another in lower case if and only if it is part of it when the case of the
letters A to Z is ignored. -/
theorem isPartOf_lower (ascii : ∀ c ∈ needle, isAscii c = true) (folds : FoldsPlainly cs) :
    isPartOf (lower needle) (lower cs) = isPartOf (needle.map asciiLower) (cs.map asciiLower) := by
  have single : ∀ c ∈ needle, c ≠ 'Σ' ∧ c ≠ 'İ' := fun c member =>
    ⟨by rintro rfl; exact absurd (ascii _ member) (by decide),
      by rintro rfl; exact absurd (ascii _ member) (by decide)⟩
  have lowered : lower needle = needle.map asciiLower := by
    rw [lower_eq_map single]
    exact List.map_congr_left fun c member => lowerChar_of_isAscii (ascii c member)
  have small : ∀ c ∈ needle.map asciiLower, isAscii c = true := by
    intro c member
    obtain ⟨d, there, rfl⟩ := List.mem_map.mp member
    exact isAscii_asciiLower (ascii d there)
  rw [lowered, isPartOf_of_blurs small (blurs_lower folds)]

/-! ## Signs -/

/-- Only itself becomes one of the signs that patterns are made of. -/
theorem eq_of_lowerChar {sign : Char} (known : sign ∈ ['*', '?', '[']) (same : lowerChar c = sign) : c = sign := by
  have plain : isAscii sign = true := by
    simp only [List.mem_cons, List.not_mem_nil, or_false] at known
    rcases known with rfl | rfl | rfl <;> rfl
  cases ascii : isAscii c with
  | true =>
    rw [lowerChar_of_isAscii ascii] at same
    subst same
    have kept : asciiLower c ∈ ['*', '?', '['] → c = asciiLower c :=
      of_isAscii (P := fun c => asciiLower c ∈ ['*', '?', '['] → c = asciiLower c) (by decide +kernel) ascii
    exact kept known
  | false =>
    by_cases isKelvin : c = kelvin
    · -- the sign for kelvin becomes a letter
      subst isKelvin same
      exact absurd known (by decide +kernel)
    · rw [← same, isAscii_lowerChar ascii isKelvin] at plain
      cases plain

theorem mem_of_mem_lower {sign : Char} (known : sign ∈ ['*', '?', '[']) (member : sign ∈ lower cs) : sign ∈ cs := by
  have onward (cs before : List Char) : sign ∈ lowerFrom before cs → sign ∈ cs := by
    induction cs generalizing before with
    | nil => exact id
    | cons c cs ih =>
      rw [lowerFrom]
      have apart : sign ≠ 'ς' ∧ sign ≠ 'σ' ∧ sign ≠ 'i' ∧ sign ≠ Char.ofNat 0x307 := by
        simp only [List.mem_cons, List.not_mem_nil, or_false] at known
        rcases known with rfl | rfl | rfl <;> decide
      have rest := ih (c :: before)
      have first := eq_of_lowerChar (c := c) known
      grind
  exact onward cs [] member

/-- Stars around a text have no part in what its characters become. -/
theorem lower_stars : lower ('*' :: (cs ++ ['*'])) = '*' :: (lower cs ++ ['*']) := by
  have uncased : covers casedRanges 42 = false := by decide +kernel
  have star : lowerChar '*' = '*' := by decide +kernel
  -- a star is not cased, so it does not change how a sigma in front of it ends
  have behind (cs : List Char) : meetsCased (cs ++ ['*']) = meetsCased cs := by
    induction cs with
    | nil => simp [meetsCased, uncased]
    | cons c cs ih => simp [meetsCased, ih]
  have onward (cs before : List Char) :
      lowerFrom (before ++ ['*']) (cs ++ ['*']) = lowerFrom before cs ++ ['*'] := by
    induction cs generalizing before with
    | nil => simp [lowerFrom, star]
    | cons c cs ih =>
      rw [List.cons_append, lowerFrom, lowerFrom, behind, behind, ← List.cons_append, ih]
      split
      · rfl
      · split <;> rfl
  rw [lower, lowerFrom, show lowerFrom ['*'] (cs ++ ['*']) = _ from onward cs []]
  simp [star, lower]

end Venues.Text
