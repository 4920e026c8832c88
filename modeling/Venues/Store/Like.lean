import Venues.Text.Infix
import Venues.Text.LowerCase

/-! # Like patterns

In a like pattern `%` stands for any run of characters and `_` for any one; behind a backslash a
character stands for itself. `holding` is the pattern of the texts that hold a given text.
-/

namespace Venues.Store.Like

/-- A text with a backslash in front of each place where a character stands. -/
def mark (special : Char) (cs : List Char) : List Char :=
  cs.flatMap fun c => if c = special then ['\\', c] else [c]

/-- A text as it stands in a pattern. Backslashes are marked before the others are, so that those put in are
not marked themselves. -/
def escape (needle : List Char) : List Char := mark '_' (mark '%' (mark '\\' needle))

/-- The pattern of the texts that hold a text. -/
def holding (needle : List Char) : List Char := '%' :: (escape needle ++ ['%'])

/-- A part of a pattern. -/
inductive Part where
  | run
  | any
  | char (c : Char)
  deriving DecidableEq

/-- The parts of a pattern; nothing if it ends with a backslash that escapes no character. -/
def parts? : List Char → Option (List Part)
  | [] => some []
  | '\\' :: c :: cs => (parts? cs).map (Part.char c :: ·)
  | ['\\'] => none
  | '%' :: cs => (parts? cs).map (Part.run :: ·)
  | '_' :: cs => (parts? cs).map (Part.any :: ·)
  | c :: cs => (parts? cs).map (Part.char c :: ·)

/-- Whether a text fits the parts of a pattern. -/
def fits : List Part → List Char → Bool
  | [], cs => cs.isEmpty
  | .run :: parts, cs => (Text.suffixes cs).any (fits parts)
  | .any :: parts, _ :: cs => fits parts cs
  | .char d :: parts, c :: cs => d == c && fits parts cs
  | _ :: _, [] => false

/-- The text up to its first NUL, where texts end that are matched. -/
def untilNul (cs : List Char) : List Char := cs.takeWhile (· != Char.ofNat 0)

/-- Whether a text fits a pattern, where letters that `fold` makes equal count as the same. -/
def accepts (fold : Char → Char) (pattern text : List Char) : Bool :=
  match parts? (pattern.map fold) with
  | some parts => fits parts (text.map fold)
  | none => false

/-- Whether a text fits a pattern, where the case of the letters A to Z does not count. -/
def acceptsAnyCase (pattern text : List Char) : Bool :=
  accepts Text.asciiLower (untilNul pattern) (untilNul text)

end Venues.Store.Like
