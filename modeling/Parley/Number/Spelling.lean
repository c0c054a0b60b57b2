import Parley.Number.Shortest

/-!
# How floats are written

Two spellings are in use. In chat a float is always written out in full, and a whole one
without a fraction. In JSON a float can be told from an integer: it has a fraction or an
exponent, and the exponent form is used for the very large and the very small.

Both share the digits of `Shortest`; a `FloatFormat` says what differs.
-/

namespace Parley

/-- The decisions about the spelling of floats. -/
structure FloatFormat where
  /-- The decimal exponents that are written out in full: from `least` on, below `most`. -/
  least : Option Int
  most : Option Int
  /-- What follows a whole number. -/
  wholeMark : String
  /-- Which of two equally near last digits is written. -/
  tie : Tie

namespace FloatFormat

/-- Floats in chat: never an exponent, and no fraction where there is none. A tie is rounded
away from zero. -/
def chat : FloatFormat :=
  ⟨none, none, "", .away⟩

/-- Floats in JSON: written out from `1e-5` to below `1e16`, and whole ones end in `.0`. A
tie goes to the even digit. -/
def json : FloatFormat :=
  ⟨some (-5), some 16, ".0", .even⟩

/-- Whether a number whose first digit stands for `10 ^ top` is written out. -/
def isPositional (f : FloatFormat) (top : Int) : Bool :=
  f.least.all (· ≤ top) && f.most.all (top < ·)

/-- The digits written out, with a point where one is needed. -/
def positional (f : FloatFormat) (x : Decimal10) : String :=
  let digits := (Nat.toDigits 10 x.digits)
  match x.exponent with
  | .ofNat zeros => String.ofList (digits ++ List.replicate zeros '0') ++ f.wholeMark
  | .negSucc n =>
    let places := n + 1
    let padded := List.replicate (places + 1 - digits.length) '0' ++ digits
    let whole := padded.length - places
    String.ofList (padded.take whole ++ '.' :: padded.drop whole)

/-- One digit, the others behind a point, and the exponent with its sign. -/
def scientific (x : Decimal10) (top : Int) : String :=
  let mantissa := match Nat.toDigits 10 x.digits with
    | first :: second :: more => first :: '.' :: second :: more
    | digits => digits
  let sign := if top < 0 then "-" else "+"
  String.ofList mantissa ++ "e" ++ sign ++ toString top.natAbs

/-- A positive decimal number in the format. -/
def decimal (f : FloatFormat) (x : Decimal10) : String :=
  let top := x.exponent + Shortest.digitCount x.digits - 1
  if f.isPositional top then f.positional x else scientific x top

/-- A float in the format. -/
def spell (f : FloatFormat) (x : Float) : String :=
  match Binary64.shape x with
  | .nan => "NaN"
  | .infinite negative => (if negative then "-" else "") ++ "inf"
  | .finite negative m e =>
    (if negative then "-" else "") ++
      (if m = 0 then "0" ++ f.wholeMark else f.decimal (Shortest.ofParts f.tie m e))

end FloatFormat

end Parley
