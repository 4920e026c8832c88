import Venues.Text.Blank

/-! # Settings files

A settings file holds one binding `NAME=value` per line, among blank lines and lines that begin with
`#`. A value may stand between single or double quotes, in which some characters can be escaped; a
value without quotes ends at a comment or at the end of its line. `$` with a name in braces stands
for the value of that name. A line that is no binding is skipped.
-/

namespace Venues.Settings

/-! ## Parts of a line -/

/-- A binding of a settings file; a name without `=` has no value. -/
abbrev Binding := String × Option String

/-- The text with a line feed at each end of a line, where there may be a carriage return. -/
def withLineFeeds : List Char → List Char
  | '\r' :: '\n' :: rest => '\n' :: withLineFeeds rest
  | c :: rest => (if c = '\r' then '\n' else c) :: withLineFeeds rest
  | [] => []

/-- The text of a file without a byte order mark, and with a line feed at each end of a line. -/
def normalized (cs : List Char) : List Char :=
  match withLineFeeds cs with
  | '\ufeff' :: rest => rest
  | rest => rest

def isLineEnd (c : Char) : Bool := c == '\n'

/-- Whether a character is white space inside a line. -/
def isInnerBlank (c : Char) : Bool := Text.isBlank c && !isLineEnd c

/-- The text without the white space at its start, up to the end of the line. -/
def skipInner (cs : List Char) : List Char := cs.dropWhile isInnerBlank

def skipLine (cs : List Char) : List Char := (cs.dropWhile fun c => !isLineEnd c).drop 1

/-- What follows a line of which only blanks and a comment are left. -/
def endOfLine? (cs : List Char) : Option (List Char) :=
  match skipInner cs with
  | [] => some []
  | '#' :: rest => some (skipLine rest)
  | c :: rest => if isLineEnd c then some (skipLine (c :: rest)) else none

def skipExport (cs : List Char) : List Char :=
  match cs with
  | 'e' :: 'x' :: 'p' :: 'o' :: 'r' :: 't' :: c :: rest =>
    if isInnerBlank c then skipInner rest else cs
  | _ => cs

/-! ## Quotes -/

/-- Splits a text behind the quote that closes it; a character behind a backslash closes nothing. -/
def splitQuote? (quote : Char) : List Char → Option (List Char × List Char)
  | [] => none
  | '\\' :: c :: rest => (splitQuote? quote rest).map fun p => ('\\' :: c :: p.1, p.2)
  | c :: rest =>
    if c == quote then some ([], rest) else (splitQuote? quote rest).map fun p => (c :: p.1, p.2)

/-- The character for which an escaped letter stands between double quotes. -/
def escaped? : Char → Option Char
  | 'a' => some (Char.ofNat 7)
  | 'b' => some (Char.ofNat 8)
  | 'f' => some (Char.ofNat 12)
  | 'n' => some '\n'
  | 'r' => some '\r'
  | 't' => some '\t'
  | 'v' => some (Char.ofNat 11)
  | '\\' => some '\\'
  | '\'' => some '\''
  | '"' => some '"'
  | _ => none

/-- The character for which an escaped one stands between single quotes. -/
def escapedSingle? : Char → Option Char
  | '\\' => some '\\'
  | '\'' => some '\''
  | _ => none

/-- Replaces the escapes of a text; a backslash that begins none stands for itself. -/
def unescape (char? : Char → Option Char) : List Char → List Char
  | [] => []
  | [c] => [c]
  | c :: d :: rest =>
    match c, char? d with
    | '\\', some e => e :: unescape char? rest
    | _, _ => c :: unescape char? (d :: rest)

/-! ## Bindings -/

/-- A value without quotes, up to a comment that stands behind white space. -/
def cutComment : List Char → List Char
  | [] => []
  | c :: rest =>
    if Text.isBlank c then
      match rest.dropWhile Text.isBlank with
      | '#' :: _ => []
      | _ => c :: cutComment rest
    else c :: cutComment rest

/-- Reads a name. -/
def readName? (cs : List Char) : Option (List Char × List Char) :=
  match cs with
  | '\'' :: rest =>
    match rest.span (· != '\'') with
    | (name, _ :: rest) => if name.isEmpty then none else some (name, rest)
    | (_, []) => none
  | _ =>
    let (name, rest) := cs.span fun c => !(c == '=' || c == '#' || Text.isBlank c)
    if name.isEmpty then none else some (name, rest)

/-- Reads a value. -/
def readValue? (cs : List Char) : Option (List Char × List Char) :=
  match cs with
  | '\'' :: rest => (splitQuote? '\'' rest).map fun p => (unescape escapedSingle? p.1, p.2)
  | '"' :: rest => (splitQuote? '"' rest).map fun p => (unescape escaped? p.1, p.2)
  | _ =>
    let (value, rest) := cs.span fun c => !isLineEnd c
    some (Text.dropEnds Text.isBlank (cutComment value), rest)

/-- The end of a binding: the binding, if only blanks and a comment are left of its line, and what
follows the line. -/
def closed (binding : Binding) (cs : List Char) : Option Binding × List Char :=
  match endOfLine? cs with
  | some rest => (some binding, rest)
  | none => (none, skipLine cs)

/-- Reads the binding at the start of a text, if it is one, and what follows its line. -/
def readBinding (cs : List Char) : Option Binding × List Char :=
  let cs := skipExport cs
  match readName? cs with
  | none => (none, skipLine cs)
  | some (name, rest) =>
    match skipInner rest with
    | '=' :: rest =>
      match readValue? (skipInner rest) with
      | some (value, rest) => closed (String.ofList name, some (String.ofList value)) rest
      | none => (none, skipLine rest)
    | rest => closed (String.ofList name, none) rest

/-- The bindings of a text, line after line, for at most `fuel` lines. -/
def readBindings : Nat → List Char → List Binding
  | 0, _ => []
  | fuel + 1, cs =>
    match cs.dropWhile Text.isBlank with
    | [] => []
    | c :: rest =>
      let (binding?, rest) := readBinding (c :: rest)
      binding?.toList ++ readBindings fuel rest

/-! ## References -/

/-- Replaces the references in a value; a name without a value stands for its default, or for
nothing. -/
def expand (valueOf? : String → Option String) : Nat → List Char → List Char
  | 0, cs => cs
  | _, [] => []
  | fuel + 1, '$' :: '\x7b' :: rest =>
    let (name, rest) := rest.span fun c => !(c == '\x7d' || c == ':')
    let known? := valueOf? (String.ofList name)
    match rest with
    | '\x7d' :: rest => (known?.getD "").toList ++ expand valueOf? fuel rest
    | ':' :: '-' :: rest =>
      match rest.span (· != '\x7d') with
      | (default, _ :: rest) =>
        (known?.getD (String.ofList default)).toList ++ expand valueOf? fuel rest
      | (default, []) => '$' :: '\x7b' :: (name ++ ':' :: '-' :: default)
    | rest => '$' :: '\x7b' :: (name ++ expand valueOf? fuel rest)
  | fuel + 1, c :: rest => c :: expand valueOf? fuel rest

/-- Adds a binding: a name that is there keeps its place. -/
def putBinding (name : String) (value? : Option String) : List Binding → List Binding
  | [] => [(name, value?)]
  | b :: rest => if b.1 = name then (name, value?) :: rest else b :: putBinding name value? rest

/-- Replaces the references in the values of bindings: a name means the last binding above, or else
the given value. -/
def expandAll (given? : String → Option String) : List Binding → List Binding → List Binding
  | above, [] => above
  | above, (name, value?) :: rest =>
    let valueOf? (n : String) : Option String :=
      match above.lookup n with
      | some known? => some (known?.getD "")
      | none => given? n
    let value? := value?.map fun v => String.ofList (expand valueOf? (v.length + 1) v.toList)
    expandAll given? (putBinding name value? above) rest

/-- The bindings of a settings file by name, in the order in which the names first appear. -/
def readFile (given? : String → Option String) (text : String) : List Binding :=
  expandAll given? [] (readBindings (text.length + 1) (normalized text.toList))

end Venues.Settings
