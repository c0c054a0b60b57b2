/-!
# Binary floating-point numbers

A `Float` is a number of the format *binary64*: a sign, a mantissa of 53 bits and an exponent
of two. `shape` reads these off the bits, and everything else here is arithmetic on natural
numbers: whether a float is a whole number, which one, and its integer part.

Two numbers that leave no fraction behind are compared exactly in this form, so a statement
about floats becomes one about `mantissa * 2 ^ exponent`.
-/

namespace Parley

namespace Binary64

/-- A float taken apart. A finite one is `± mantissa * 2 ^ exponent`; the mantissa of a
zero is zero, and its sign is kept. -/
inductive Shape where
  | nan
  | infinite (negative : Bool)
  | finite (negative : Bool) (mantissa : Nat) (exponent : Int)
deriving DecidableEq, Repr

/-- The least exponent of a finite float: that of the numbers next to zero. -/
def leastExponent : Int := -1074

/-- The mantissas of all but the numbers next to zero have this bit set. -/
def hiddenBit : Nat := Nat.pow 2 52

/-- The bit of the sign. -/
def signBit : Nat := Nat.pow 2 63

/-- What the bits of a float stand for. -/
def shape (x : Float) : Shape :=
  let bits := x.toBits.toNat
  let negative := decide (signBit ≤ bits)
  let biased := bits / hiddenBit % 2048
  let fraction := bits % hiddenBit
  if biased = 2047 then
    if fraction = 0 then .infinite negative else .nan
  else if biased = 0 then .finite negative fraction leastExponent
  else .finite negative (hiddenBit + fraction) (biased - 1 + leastExponent)

/-- The sign of a whole number, put in front. -/
def signed (negative : Bool) (n : Nat) : Int :=
  if negative then -(n : Int) else n

/-- The whole number that a finite shape stands for, if it stands for one. -/
def Shape.whole? : Shape → Option Int
  | .finite negative m (.ofNat e) => some (signed negative (m * Nat.pow 2 e))
  | .finite negative m (.negSucc e) =>
    if m % Nat.pow 2 (e + 1) = 0 then some (signed negative (m / Nat.pow 2 (e + 1))) else none
  | _ => none

/-- The whole number that a float is, if it is finite and has no fraction. -/
def whole? (x : Float) : Option Int :=
  (shape x).whole?

/-- The nearest whole number, where a half goes away from zero. Only the magnitude is
rounded, so the answer has the sign of the float. -/
def roundHalfAway (x : Float) : Float :=
  match shape x with
  | .finite negative m (.negSucc e) =>
    let nearest := Float.ofNat ((2 * m + Nat.pow 2 (e + 1)) / Nat.pow 2 (e + 2))
    if negative then -nearest else nearest
  | _ => x

end Binary64

end Parley
