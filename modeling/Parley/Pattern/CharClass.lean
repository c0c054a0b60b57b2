import Parley.Number.Numeral

/-!
# Classes of characters

A class is a list of ranges of code points. In *normal form* the ranges are in increasing
order and neither overlap nor touch, so that two classes with the same members are the same
list; every operation here answers in normal form.

Tables of characters are kept in a compact notation, `CharClass.ofNotation`: code points and
ranges of them in hexadecimal, separated by blanks.
-/

namespace Parley

/-- A set of code points, as ranges with both ends included. -/
structure CharClass where
  ranges : List (Nat × Nat)
deriving DecidableEq, Repr, Inhabited

namespace CharClass

/-- The greatest code point. -/
def lastCode : Nat := 0x10FFFF

/-- The class without members. -/
def empty : CharClass := ⟨[]⟩

/-- The class of all code points. -/
def full : CharClass := ⟨[(0, lastCode)]⟩

/-- The code points from one to another. -/
def range (low high : Nat) : CharClass := ⟨[(low, high)]⟩

/-- The class of one character. -/
def single (c : Char) : CharClass := range c.toNat c.toNat

/-- Whether a code point is a member. -/
def contains (cls : CharClass) (n : Nat) : Bool :=
  cls.ranges.any fun r => r.1 ≤ n && n ≤ r.2

/-- Joins ranges that overlap or touch, where they come in the order of their beginnings and
`(low, high)` is the one being extended. -/
def join (low high : Nat) : List (Nat × Nat) → List (Nat × Nat)
  | [] => [(low, high)]
  | (l, h) :: rest =>
    if l ≤ high + 1 then join low (max high h) rest else (low, high) :: join l h rest

/-- The class of the members of any ranges. -/
def ofRanges (ranges : List (Nat × Nat)) : CharClass :=
  match ranges.mergeSort fun a b => a.1 ≤ b.1 with
  | [] => empty
  | (low, high) :: rest => ⟨join low high rest⟩

/-- The members of either class. -/
def union (a b : CharClass) : CharClass :=
  ofRanges (a.ranges ++ b.ranges)

/-- The gaps before, between and behind ranges in normal form, from a code point on. -/
def gaps (start : Nat) : List (Nat × Nat) → List (Nat × Nat)
  | [] => if start ≤ lastCode then [(start, lastCode)] else []
  | (low, high) :: rest =>
    if start < low then (start, low - 1) :: gaps (high + 1) rest else gaps (high + 1) rest

/-- The code points that are not members. -/
def complement (cls : CharClass) : CharClass :=
  ⟨gaps 0 cls.ranges⟩

/-- The members of both classes. -/
def intersection (a b : CharClass) : CharClass :=
  (a.complement.union b.complement).complement

/-- The members of the first class only. -/
def difference (a b : CharClass) : CharClass :=
  (a.complement.union b).complement

/-- The members of exactly one of the classes. -/
def symmetricDifference (a b : CharClass) : CharClass :=
  (a.union b).difference (a.intersection b)

/-! ### Notation -/

/-- The value of a hexadecimal digit in upper case. -/
def hexValue (c : Char) : Nat :=
  if c.isDigit then Numeral.digitValue c else c.toNat - 55

/-- The ranges that a line of the notation spells, where `low` is the beginning of the range
being read, if its end is being read, and `n` the number read so far. -/
def readLine (low : Option Nat) (n : Nat) : List Char → List (Nat × Nat)
  | [] => [(low.getD n, n)]
  | c :: cs =>
    if c = ' ' then (low.getD n, n) :: readLine none 0 cs
    else if c = '-' then readLine (some n) 0 cs
    else readLine low (16 * n + hexValue c) cs

/-- The class that is spelled in a number of lines. -/
def ofNotation (lines : List String) : CharClass :=
  ofRanges (lines.flatMap fun line => readLine none 0 line.toList)

end CharClass

end Parley
