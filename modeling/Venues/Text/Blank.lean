import Venues.Text.Ranges

/-! # Blank characters

Blank characters are the white space of the character standard together with the four information
separators. `strip` takes them off both ends of a text; `trim` leaves the separators in place.
-/

namespace Venues.Text

def spaceRanges : List (Nat × Nat) := [
  (0x9, 0xd), (0x20, 0x20), (0x85, 0x85), (0xa0, 0xa0), (0x1680, 0x1680), (0x2000, 0x200a),
  (0x2028, 0x2029), (0x202f, 0x202f), (0x205f, 0x205f), (0x3000, 0x3000)]

def isSpace (c : Char) : Bool := covers spaceRanges c.toNat

/-- Whether a character is white space or an information separator. -/
def isBlank (c : Char) : Bool := isSpace c || (0x1c ≤ c.toNat && c.toNat ≤ 0x1f)

/-- Whether a character is white space of the ASCII range. -/
def isAsciiSpace (c : Char) : Bool := c == ' ' || (0x9 ≤ c.toNat && c.toNat ≤ 0xd)

/-- Drops the characters of a class from both ends. -/
def dropEnds (p : Char → Bool) (cs : List Char) : List Char :=
  ((cs.dropWhile p).reverse.dropWhile p).reverse

/-- A text without the blank characters at its ends. -/
def strip (s : String) : String := String.ofList (dropEnds isBlank s.toList)

/-- A text without the white space at its ends. -/
def trim (s : String) : String := String.ofList (dropEnds isSpace s.toList)

def isBlankText (s : String) : Bool := s.toList.all isBlank

end Venues.Text
