import Venues.Number.Magnitude
import Venues.Number.Precision
import Venues.Number.Shortest
import Venues.Value.Display
import Venues.Value.Order

/-! # Message templates

The message of a record may hold places, each opened by a percent sign, which take the arguments of
the record in order or by name; two percent signs in a row stand for one. A place gives the form of its argument: a text, a whole number in one
of three bases, a floating-point number in one of three forms, or a single character, with a width
and a precision. `Template.parse` reads a message, `Template.fill` puts the arguments into it.
-/

namespace Venues.Log

/-! ## Places -/

/-- The form in which an argument is written. -/
inductive Conversion where
  | text
  | quoted
  | ascii
  | character
  | decimal
  | octal
  | hex (upper : Bool)
  | fixed (upper : Bool)
  | scientific (upper : Bool)
  | general (upper : Bool)
  deriving DecidableEq

/-- A width or a precision: written in the template, or given by an argument of its own. -/
inductive Amount where
  | written (n : Nat)
  | argument
  deriving DecidableEq

/-- A place of a template. -/
structure Place where
  /-- The name of the argument, where arguments go by name. -/
  key : Option String
  /-- Whether the text stands at the left of its width. -/
  leftmost : Bool
  /-- Whether a number that is not negative has a plus sign. -/
  plus : Bool
  /-- Whether a number that is not negative has a blank for its sign. -/
  blank : Bool
  /-- Whether zeros fill the width of a number. -/
  zeros : Bool
  /-- Whether the base of a number, or its point, is always shown. -/
  alternate : Bool
  width : Option Amount
  precision : Option Amount
  conversion : Conversion

/-- A part of a template. -/
inductive Piece where
  | literal (c : Char)
  | place (p : Place)

/-! ## Reading a template -/

/-- The conversion that a letter asks for. -/
def Conversion.ofChar? : Char → Option Conversion
  | 's' => some .text
  | 'r' => some .quoted
  | 'a' => some .ascii
  | 'c' => some .character
  | 'd' | 'i' | 'u' => some .decimal
  | 'o' => some .octal
  | 'x' => some (.hex false)
  | 'X' => some (.hex true)
  | 'f' => some (.fixed false)
  | 'F' => some (.fixed true)
  | 'e' => some (.scientific false)
  | 'E' => some (.scientific true)
  | 'g' => some (.general false)
  | 'G' => some (.general true)
  | _ => none

/-- Reads the name of an argument, the bracket in front of it being read already. Brackets inside a
name come in pairs. -/
def takeKey? : Nat → List Char → Option (List Char × List Char)
  | _, [] => none
  | depth, c :: cs =>
    if c = ')' ∧ depth = 0 then some ([], cs)
    else
      let depth' := if c = '(' then depth + 1 else if c = ')' then depth - 1 else depth
      (takeKey? depth' cs).map fun r => (c :: r.1, r.2)

/-- Whether a character is one of the marks that stand in front of a width. -/
def isFlag (c : Char) : Bool := "-+ 0#".toList.contains c

/-- Reads an amount, which may be missing. -/
def takeAmount : List Char → Option Amount × List Char
  | '*' :: cs => (some .argument, cs)
  | cs =>
    match Venues.spanDigits cs with
    | ([], _) => (none, cs)
    | (ds, rest) => (some (.written (Text.ofDigits ds)), rest)

/-- Reads a precision with its point; the point alone stands for no places. -/
def takePrecision : List Char → Option Amount × List Char
  | '.' :: cs =>
    let (amount, rest) := takeAmount cs
    (some (amount.getD (.written 0)), rest)
  | cs => (none, cs)

/-- Drops a mark of length, which has no meaning. -/
def dropLength : List Char → List Char
  | 'h' :: cs | 'l' :: cs | 'L' :: cs => cs
  | cs => cs

/-- Whether an amount is at most a given one. -/
def Amount.isWithin (most : Nat) : Option Amount → Bool
  | some (.written n) => n ≤ most
  | _ => true

/-- Reads a place behind its percent sign. -/
def Place.read? (cs : List Char) : Option (Place × List Char) := do
  let (key, cs) ←
    match cs with
    | '(' :: rest => (takeKey? 0 rest).map fun r => (some (String.ofList r.1), r.2)
    | _ => some (none, cs)
  let flags := cs.takeWhile isFlag
  let (width, cs) := takeAmount (cs.dropWhile isFlag)
  let (precision, cs) := takePrecision cs
  match dropLength cs with
  | [] => none
  | letter :: rest =>
    let conversion ← Conversion.ofChar? letter
    if Amount.isWithin (2 ^ 63 - 1) width && Amount.isWithin (2 ^ 31 - 1) precision then
      some ({ key := key, leftmost := flags.contains '-', plus := flags.contains '+',
              blank := flags.contains ' ', zeros := flags.contains '0',
              alternate := flags.contains '#', width := width, precision := precision,
              conversion := conversion }, rest)
    else none

/-- The parts of a template; nothing if a place is malformed. The number bounds their count. -/
def readPieces : Nat → List Char → Option (List Piece)
  | _, [] => some []
  | 0, _ :: _ => none
  | fuel + 1, c :: cs =>
    if c = '%' then
      match cs with
      | '%' :: rest => (readPieces fuel rest).map (.literal '%' :: ·)
      | _ => do
        let (p, rest) ← Place.read? cs
        (readPieces fuel rest).map (.place p :: ·)
    else (readPieces fuel cs).map (.literal c :: ·)

def Template.parse (template : String) : Option (List Piece) :=
  readPieces template.length template.toList

/-! ## Arguments -/

/-- The arguments that are left: a queue, or the fields of an object together with the one value that
is next. -/
inductive Supply where
  | queue (vs : List Value)
  | named (fs : Fields) (next : Option Value)

namespace Supply

/-- The arguments of a record; a single object that is not empty gives its fields by name. -/
def ofArguments : List Value → Supply
  | [.object (f :: fs)] => .named (f :: fs) (some (.object (f :: fs)))
  | vs => .queue vs

def take? : Supply → Option (Value × Supply)
  | .queue (v :: vs) => some (v, .queue vs)
  | .named fs (some v) => some (v, .named fs none)
  | _ => none

/-- Makes the argument of a name the next one. -/
def choose? (key : String) : Supply → Option Supply
  | .named fs _ => (fs.get? key).map fun v => .named fs (some v)
  | .queue _ => none

/-- Whether no argument is left over; arguments that go by name need not be used. -/
def isSpent : Supply → Bool
  | .queue vs => vs.isEmpty
  | .named _ _ => true

end Supply

/-- The number of an argument that gives an amount. -/
def amountOf? : Value → Option Int
  | .int n => some n
  | .bool b => some (if b then 1 else 0)
  | _ => none

/-- The number that an amount stands for. -/
def Amount.resolve? : Option Amount → Supply → Option (Option Int × Supply)
  | none, s => some (none, s)
  | some (.written n), s => some (some n, s)
  | some .argument, s => do
    let (v, s) ← s.take?
    some (some (← amountOf? v), s)

/-! ## Writing arguments -/

/-- A written argument: its sign, the mark of its base, and the rest. -/
structure Written where
  sign : List Char := []
  mark : List Char := []
  body : List Char
  /-- Whether zeros may fill the width. -/
  isNumber : Bool := false

/-- Capital letters for the digits and words of a number. -/
def raised (upper : Bool) (cs : List Char) : List Char := if upper then cs.map Char.toUpper else cs

/-- A text in which every character outside ASCII is escaped. -/
def asciiText (s : String) : List Char :=
  s.toList.flatMap fun c => if c.toNat < 0x80 then [c] else Text.codeEscape c

def Place.signOf (p : Place) (negative : Bool) : List Char :=
  if negative then ['-'] else if p.plus then ['+'] else if p.blank then [' '] else []

/-- Writes a whole number in a base, with at least as many digits as the precision asks for. -/
def Place.writeWhole (p : Place) (precision : Option Int) (base : Nat) (mark : List Char) (n : Int) :
    Written :=
  let ds := Nat.toDigits base n.natAbs
  { sign := p.signOf (n < 0), mark := if p.alternate then mark else [],
    body := List.replicate ((precision.getD 0).toNat - ds.length) '0' ++ ds, isNumber := true }

/-- Digits in front of the point and behind it, the point standing where it is needed. -/
def Place.joined (p : Place) (whole places : List Char) : List Char :=
  whole ++ (if places.isEmpty && !p.alternate then [] else '.' :: places)

/-- The first digit, the point and the other digits, with an exponent. -/
def Place.withExponent (p : Place) (ds behind : List Char) (point : Int) : List Char :=
  p.joined (ds.take 1) behind ++ 'e' :: (exponentText (point - 1)).toList

/-- A quotient in the shorter of the two forms, with a number of significant digits; zeros at the end
are dropped unless the place keeps its point. -/
def Place.writeGeneral (p : Place) (digits num den : Nat) : List Char :=
  let (ds, point) := significantDigits roundDiv digits num den
  let trim (cs : List Char) : List Char := if p.alternate then cs else dropTrailingZeros cs
  if point < -3 ∨ digits < point then
    p.withExponent ds (trim (ds.drop 1)) point
  else if point ≤ 0 then p.joined ['0'] (trim (List.replicate (-point).toNat '0' ++ ds))
  else p.joined (ds.take point.toNat) (trim (ds.drop point.toNat))

/-- Writes the size of a floating-point number; six places or digits unless others are asked for. -/
def Place.writeQuotient (p : Place) (precision : Option Int) (num den : Nat) : List Char :=
  let places := (precision.getD 6).toNat
  match p.conversion with
  | .fixed _ =>
    let (whole, behind) := decimalPlaces roundDiv places num den
    p.joined whole behind
  | .scientific _ =>
    let (ds, point) := significantDigits roundDiv (places + 1) num den
    p.withExponent ds (ds.drop 1) point
  | _ => p.writeGeneral (max places 1) num den

/-- Writes a floating-point number. -/
def Place.writeReal (p : Place) (precision : Option Int) (upper : Bool) (x : Float) : Written :=
  let negative := x.toBits.toNat / 2 ^ 63 % 2 = 1
  let written (negative : Bool) (body : List Char) : Written :=
    { sign := p.signOf negative, body := raised upper body, isNumber := true }
  match Magnitude.ofFloat x with
  | .undefined => written false "nan".toList
  | .lowest => written true "inf".toList
  | .highest => written false "inf".toList
  | .units n => written negative (p.writeQuotient precision n.natAbs (2 ^ Magnitude.unitBits))

/-- The whole number that an argument stands for; a floating-point number loses its places. -/
def wholeOf? (v : Value) : Option Int := v.magnitude?.bind Magnitude.truncate?

def realOf? : Value → Option Float
  | .float x => some x
  | v => (amountOf? v).bind realOfInt?

/-- The character that an argument is, or whose number it is. -/
def characterOf? : Value → Option Char
  | .text s =>
    match s.toList with
    | [c] => some c
    | _ => none
  | v => do
    let n ← amountOf? v
    if 0 ≤ n ∧ n.toNat.isValidChar then some (Char.ofNat n.toNat) else none

/-- A text cut to the precision of its place. -/
def cut (precision : Option Int) (cs : List Char) : Written :=
  { body := match precision with | some n => cs.take n.toNat | none => cs }

/-- Writes an argument in the form of its place. -/
def Place.write? (p : Place) (precision : Option Int) (v : Value) : Option Written :=
  match p.conversion with
  | .text => some (cut precision v.display.toList)
  | .quoted => some (cut precision v.quoted.toList)
  | .ascii => some (cut precision (asciiText v.quoted))
  | .character => (characterOf? v).map fun c => { body := [c] }
  | .decimal => (wholeOf? v).map (p.writeWhole precision 10 [])
  | .octal => (amountOf? v).map (p.writeWhole precision 8 ['0', 'o'])
  | .hex upper => (amountOf? v).map fun n =>
      let w := p.writeWhole precision 16 ['0', 'x'] n
      { w with mark := raised upper w.mark, body := raised upper w.body }
  | .fixed upper | .scientific upper | .general upper => (realOf? v).map (p.writeReal precision upper)

/-- Fills the width of a place. A negative width asks for the left. -/
def Place.fit (p : Place) (width : Option Int) (w : Written) : List Char :=
  let width := width.getD 0
  let gap := width.natAbs - (w.sign.length + w.mark.length + w.body.length)
  let head := w.sign ++ w.mark
  if p.leftmost ∨ width < 0 then head ++ w.body ++ List.replicate gap ' '
  else if p.zeros ∧ w.isNumber then head ++ List.replicate gap '0' ++ w.body
  else List.replicate gap ' ' ++ head ++ w.body

/-- Takes what a place needs from the arguments and writes it. -/
def Place.fill? (p : Place) (s : Supply) : Option (List Char × Supply) := do
  let s ← match p.key with
    | some key => s.choose? key
    | none => some s
  let (width, s) ← Amount.resolve? p.width s
  let (precision, s) ← Amount.resolve? p.precision s
  let (v, s) ← s.take?
  some (p.fit width (← p.write? precision v), s)

/-! ## Filling a template -/

/-- Puts arguments into the parts of a template; none may be missing or left over. -/
def fillPieces : List Piece → Supply → Option (List Char)
  | [], s => if s.isSpent then some [] else none
  | .literal c :: ps, s => (fillPieces ps s).map (c :: ·)
  | .place p :: ps, s => do
    let (cs, s) ← p.fill? s
    (fillPieces ps s).map (cs ++ ·)

/-- Puts arguments into a template; nothing unless its places are well formed and agree with the
arguments. -/
def Template.fill (template : String) (arguments : List Value) : Option String := do
  let pieces ← Template.parse template
  (fillPieces pieces (.ofArguments arguments)).map String.ofList

end Venues.Log
