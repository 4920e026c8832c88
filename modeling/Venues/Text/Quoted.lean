import Venues.Number.Padded
import Venues.Text.Printable

/-! # Quoted text

A quoted text stands between single quotes, or between double quotes if it holds a single quote and
no double one. The quote in use and the backslash are escaped, and so is every character without a
visible form. `jsonQuoted` is the form of data exchange: double quotes, and ASCII alone.
-/

namespace Venues.Text

/-- The escape of a character by its code point, with two, four or eight hexadecimal digits. -/
def codeEscape (c : Char) : List Char :=
  let n := c.toNat
  if n < 0x100 then '\\' :: 'x' :: paddedDigits 16 2 n
  else if n < 0x10000 then '\\' :: 'u' :: paddedDigits 16 4 n
  else '\\' :: 'U' :: paddedDigits 16 8 n

/-- One character of a text that stands between two of the given quotes. -/
def quotedChar (quote c : Char) : List Char :=
  if c = quote ∨ c = '\\' then ['\\', c]
  else if c = '\n' then ['\\', 'n']
  else if c = '\r' then ['\\', 'r']
  else if c = '\t' then ['\\', 't']
  else if isPrintable c then [c]
  else codeEscape c

def quoted (s : String) : String :=
  let cs := s.toList
  let quote := if cs.contains '\'' && !cs.contains '"' then '"' else '\''
  String.ofList (quote :: cs.flatMap (quotedChar quote) ++ [quote])

/-- The escape of a code unit of sixteen bits. -/
def unitEscape (n : Nat) : List Char := '\\' :: 'u' :: paddedDigits 16 4 n

/-- One character of a text for data exchange; characters beyond sixteen bits take two units. -/
def jsonChar (c : Char) : List Char :=
  let n := c.toNat
  if c = '"' ∨ c = '\\' then ['\\', c]
  else if c = '\n' then ['\\', 'n']
  else if c = '\r' then ['\\', 'r']
  else if c = '\t' then ['\\', 't']
  else if n = 8 then ['\\', 'b']
  else if n = 12 then ['\\', 'f']
  else if 0x20 ≤ n ∧ n < 0x7f then [c]
  else if n < 0x10000 then unitEscape n
  else unitEscape (0xd800 + (n - 0x10000) / 0x400) ++ unitEscape (0xdc00 + (n - 0x10000) % 0x400)

def jsonQuoted (s : String) : String := String.ofList ('"' :: s.toList.flatMap jsonChar ++ ['"'])

end Venues.Text
