import Venues.Number.Padded
import Venues.Number.Read

/-! # Identifiers

An identifier is a number of 128 bits. Its text has 32 hexadecimal digits in five groups. `ofForm?`
reads the four written forms of an identifier: with dashes, without, in braces, and as a resource
name. `ofText?` is generous: it drops dashes and outer braces wherever they stand and reads whatever
32 characters remain as a hexadecimal number.
-/

namespace Venues

/-- An identifier of 128 bits. -/
structure Uuid where
  bits : Fin (16 ^ 32)
  deriving DecidableEq, Inhabited

/-! Literals stand for the numbers of identifiers, also where the bound is written in bits. The zero is that of the
core library, also where a library of algebra is at hand that has one of its own. -/

instance neZeroDigits : @NeZero Nat Zero.ofOfNat0 (16 ^ 32) := ⟨by decide⟩

instance neZeroBits : @NeZero Nat Zero.ofOfNat0 (2 ^ 128) := ⟨by decide⟩

namespace Uuid

/-! ## Writing -/

def hex (u : Uuid) : List Char := paddedDigits 16 32 u.bits

/-- Puts dashes after 8, 12, 16 and 20 of the digits. -/
def group (ds : List Char) : List Char :=
  ds.take 8 ++ '-' :: (ds.drop 8).take 4 ++ '-' :: (ds.drop 12).take 4 ++ '-' :: (ds.drop 16).take 4
    ++ '-' :: ds.drop 20

/-- The canonical text of an identifier: lower case, with dashes. -/
def text (u : Uuid) : String := String.ofList (group u.hex)

/-- Identifiers are ordered by their numbers, which is also the order of their texts. -/
def lt (a b : Uuid) : Bool := decide (a.bits < b.bits)

/-! ## Reading the written forms -/

def hexDigit? (c : Char) : Option Nat :=
  if '0' ≤ c ∧ c ≤ '9' then some (c.toNat - 48)
  else if 'a' ≤ c ∧ c ≤ 'f' then some (c.toNat - 87)
  else if 'A' ≤ c ∧ c ≤ 'F' then some (c.toNat - 55)
  else none

def ofHexDigits (ds : List Nat) : Nat := ds.foldl (fun n d => 16 * n + d) 0

/-- The identifier with a given number, if the number has at most 128 bits. -/
def ofNat? (n : Nat) : Option Uuid := if h : n < 16 ^ 32 then some ⟨⟨n, h⟩⟩ else none

def ofDigits? (cs : List Char) : Option Uuid :=
  if cs.length = 32 then (cs.mapM hexDigit?).bind fun ds => ofNat? (ofHexDigits ds) else none

/-- Reads 32 digits with dashes in the canonical places. -/
def ofDashed? (cs : List Char) : Option Uuid :=
  let ds := cs.filter (· != '-')
  if group ds = cs then ofDigits? ds else none

/-- Reads an identifier in one of its four written forms. -/
def ofForm? (s : String) : Option Uuid :=
  let cs := s.toList
  if cs.length = 32 then ofDigits? cs
  else if cs.length = 36 then ofDashed? cs
  else if cs.length = 38 ∧ cs.head? = some '{' ∧ cs.getLast? = some '}' then
    ofDashed? ((cs.drop 1).take 36)
  else if cs.length = 45 ∧ cs.take 9 = "urn:uuid:".toList then ofDashed? (cs.drop 9)
  else none

/-! ## Generous reading -/

/-- Removes every occurrence of a non-empty text. -/
def eraseText (word : List Char) : Nat → List Char → List Char
  | 0, cs => cs
  | _, [] => []
  | fuel + 1, c :: cs =>
    if !word.isEmpty && word.isPrefixOf (c :: cs) then eraseText word fuel ((c :: cs).drop word.length)
    else c :: eraseText word fuel cs

/-- Removes every occurrence of a non-empty text, from the left. -/
def erase (word : String) (cs : List Char) : List Char := eraseText word.toList cs.length cs

/-- Removes underscores that stand between two digits; fails at any other underscore. -/
def joinHex? : List Char → Option (List Char)
  | [] => some []
  | '_' :: _ => none
  | c :: '_' :: d :: cs =>
    if (hexDigit? c).isSome && (hexDigit? d).isSome then (joinHex? (d :: cs)).map (c :: ·) else none
  | c :: cs => (joinHex? cs).map (c :: ·)

/-- Takes off the mark of a hexadecimal numeral, and an underscore right behind it. -/
def dropMark : List Char → List Char
  | '0' :: x :: '_' :: cs => if x = 'x' ∨ x = 'X' then cs else '0' :: x :: '_' :: cs
  | '0' :: x :: cs => if x = 'x' ∨ x = 'X' then cs else '0' :: x :: cs
  | cs => cs

/-- Reads a hexadecimal number that may have white space around it, a sign, a mark and underscores.
Its decimal digits may come from any script. -/
def readHexNumber? (cs : List Char) : Option Int := do
  let (negative, cs) := splitSign ((Text.dropEnds Text.isSpace cs).map plainDigit)
  let ds ← (← joinHex? (dropMark cs)).mapM hexDigit?
  if ds.isEmpty then none
  else some (if negative then -(ofHexDigits ds : Int) else ofHexDigits ds)

/-- Reads an identifier from any text that holds one, whatever its dashes and braces. -/
def ofText? (s : String) : Option Uuid := do
  let cs := erase "uuid:" (erase "urn:" s.toList)
  let cs := (Text.dropEnds (fun c => c == '{' || c == '}') cs).filter (· != '-')
  if cs.length ≠ 32 then none
  else
    let n ← readHexNumber? cs
    if n < 0 then none else ofNat? n.toNat

end Uuid
end Venues
