import Venues.Text.Infix
import Venues.Text.LowerCase

/-! # Wildcard patterns

A pattern is a text in which `*` stands for any run of characters, `?` for any one character, and
brackets for one character of a set, or not of it after `!`. Every other character stands for
itself, and so does a bracket that is never closed.
-/

namespace Venues.Index

/-! ## Patterns -/

/-- A part of a pattern. -/
inductive PatternPart where
  | run
  | any
  | char (c : Char)
  /-- One character of some ranges, or one outside them. -/
  | set (negated : Bool) (ranges : List (Char × Char))

namespace PatternPart

/-- Whether a part that stands for one character accepts it. -/
def accepts : PatternPart → Char → Bool
  | .run, _ => false
  | .any, _ => true
  | .char d, c => d == c
  | .set negated ranges, c => ranges.any (fun r => r.1 ≤ c && c ≤ r.2) != negated

end PatternPart

def fits : List PatternPart → List Char → Bool
  | [], cs => cs.isEmpty
  | .run :: parts, cs => (Text.suffixes cs).any (fits parts)
  | part :: parts, c :: cs => part.accepts c && fits parts cs
  | _ :: _, [] => false

/-! ## Sets -/

/-- Cuts the inside of brackets at the hyphens that make ranges; a hyphen can only stand behind the
first character of a piece, and never at its end. -/
def piecesFrom : List Char → List Char → List (List Char)
  | piece, [] => [piece.reverse]
  | [], c :: cs => piecesFrom [c] cs
  | piece, '-' :: cs =>
    match cs with
    | [] => [('-' :: piece).reverse]
    | d :: rest =>
      match rest with
      | [] => [piece.reverse, [d]]
      | e :: rest => piece.reverse :: piecesFrom [e, d] rest
  | piece, c :: cs => piecesFrom (c :: piece) cs

/-- Joins neighbouring pieces whose range would run backwards, from the last pair to the first; the
two ends of such a range are dropped. -/
def joinBackwards : List (List Char) → List (List Char)
  | [] => []
  | piece :: rest =>
    match joinBackwards rest, piece.getLast? with
    | (d :: next) :: rest, some c =>
      if c > d then (piece.dropLast ++ next) :: rest else piece :: (d :: next) :: rest
    | rest, _ => piece :: rest

/-- The ranges that pieces with hyphens between them stand for. -/
def rangesOf : List (List Char) → List (Char × Char)
  | [] => []
  | piece :: rest =>
    let next := (rest.headD []).head?.toList
    piece.map (fun c => (c, c)) ++ piece.getLast?.toList.zip next ++ rangesOf rest

def PatternPart.ofBrackets (cs : List Char) : PatternPart :=
  match cs with
  | '!' :: cs => .set true (rangesOf (joinBackwards (piecesFrom [] cs)))
  | cs => .set false (rangesOf (joinBackwards (piecesFrom [] cs)))

/-! ## Reading -/

/-- Splits a text behind an opening bracket at the one that closes it. The first character inside,
behind a `!` if there is one, does not close it. -/
def splitBrackets? (cs : List Char) : Option (List Char × List Char) :=
  let (negation, rest) := match cs with
    | '!' :: rest => (['!'], rest)
    | rest => ([], rest)
  let (first, rest) := match rest with
    | ']' :: rest => ([']'], rest)
    | rest => ([], rest)
  match rest.span (· != ']') with
  | (inside, _ :: rest) => some (negation ++ first ++ inside, rest)
  | (_, []) => none

/-- Reads a pattern of at most `fuel` parts. -/
def readPattern : Nat → List Char → List PatternPart
  | 0, _ => []
  | _, [] => []
  | fuel + 1, '*' :: cs => .run :: readPattern fuel cs
  | fuel + 1, '?' :: cs => .any :: readPattern fuel cs
  | fuel + 1, '[' :: cs =>
    match splitBrackets? cs with
    | some (inside, rest) => .ofBrackets inside :: readPattern fuel rest
    | none => .char '[' :: readPattern fuel cs
  | fuel + 1, c :: cs => .char c :: readPattern fuel cs

def pattern (cs : List Char) : List PatternPart := readPattern cs.length cs

/-- Whether a text fits a pattern, whatever the case of the two. -/
def fitsAnyCase (patternText text : String) : Bool :=
  fits (pattern (Text.lower patternText.toList)) (Text.lower text.toList)

end Venues.Index
