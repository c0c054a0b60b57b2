import Parley.Number.Binary64

/-!
# Fewest digits

The decimal digits under which a float is shown: the fewest that are read back as the same
float, and among those the ones nearest to it.

The reals that are read back as a finite float form an interval around it: half a step of
its exponent to each side, or a quarter of one below a power of two, where the numbers
underneath lie closer. The ends belong to the interval exactly when the mantissa is even.
For one digit, two digits and so on the search looks at the two numbers of that many digits
next to the float, one on each side; the first count of digits with a hit wins, and of two
hits the nearer. Two that are equally near are a `Tie`, about which formats differ. Seventeen
digits always suffice.

All of it is exact arithmetic on natural numbers: every quantity is scaled so that it has no
denominator.
-/

namespace Parley

/-- A decimal number `digits * 10 ^ exponent`. -/
structure Decimal10 where
  digits : Nat
  exponent : Int
deriving DecidableEq, Repr

/-- Which of two equally near numbers is taken: the one with an even last digit, or the one
that is further from zero. -/
inductive Tie where
  | even
  | away
deriving DecidableEq, Repr

namespace Shortest

/-- The interval around a number, and the number, over one common denominator. -/
structure Interval where
  value : Nat
  low : Nat
  high : Nat
  denominator : Nat
  /-- Whether the ends belong to the interval. -/
  closed : Bool

/-- The interval of the reals that are read back as `m * 2 ^ e`. -/
def interval (m : Nat) (e : Int) : Interval :=
  let closer := m = Binary64.hiddenBit ∧ Binary64.leastExponent < e
  let below := if closer then 1 else 2
  let scale := Nat.pow 2 e.toNat
  { value := 4 * m * scale
    low := (4 * m - below) * scale
    high := (4 * m + 2) * scale
    denominator := 4 * Nat.pow 2 (-e).toNat
    closed := m % 2 = 0 }

/-- Whether a fraction lies in the interval. -/
def Interval.holds (i : Interval) (numerator denominator : Nat) : Bool :=
  let x := numerator * i.denominator
  if i.closed then i.low * denominator ≤ x && x ≤ i.high * denominator
  else i.low * denominator < x && x < i.high * denominator

/-- The multiple `d * 10 ^ k` as a fraction. -/
def fraction (d : Nat) (k : Int) : Nat × Nat :=
  (d * Nat.pow 10 k.toNat, Nat.pow 10 (-k).toNat)

/-- The multiple of `10 ^ k` that the interval is searched for: the one below its value or
the one above, whichever lies in it and is nearer. -/
def onGrid? (tie : Tie) (i : Interval) (k : Int) : Option Nat :=
  let unit := fraction 1 k
  -- value / (denominator * 10 ^ k), rounded down
  let num := i.value * unit.2
  let den := i.denominator * unit.1
  let d := num / den
  let fits (d : Nat) : Bool := i.holds (fraction d k).1 (fraction d k).2
  match fits d && 0 < d, fits (d + 1) with
  | true, true =>
    let twice := 2 * (num % den)
    if twice < den ∨ (twice = den ∧ tie = .even ∧ d % 2 = 0) then some d else some (d + 1)
  | true, false => some d
  | false, true => some (d + 1)
  | false, false => none

/-- The number of decimal digits. -/
def digitCount (n : Nat) : Nat :=
  if n < 10 then 1 else digitCount (n / 10) + 1

/-- The exponent `k` with `10 ^ k ≤ n / d < 10 ^ (k + 1)`. -/
def magnitude (n d : Nat) : Int :=
  let guess : Int := (digitCount n : Int) - digitCount d
  let unit := fraction 1 guess
  if unit.1 * d ≤ n * unit.2 then guess else guess - 1

/-- The first grid with a hit, from the coarsest on. -/
def search (tie : Tie) (i : Interval) (top : Int) : List Nat → Option Decimal10
  | [] => none
  | n :: more =>
    let k := top - n
    match onGrid? tie i k with
    | some d => some ⟨d, k⟩
    | none => search tie i top more

/-- Cuts the zeros at the end of the digits off; as many steps as there are digits will do. -/
def stripZeros : Nat → Decimal10 → Decimal10
  | 0, x => x
  | steps + 1, x =>
    if x.digits % 10 = 0 ∧ x.digits ≠ 0 then stripZeros steps ⟨x.digits / 10, x.exponent + 1⟩
    else x

/-- The fewest digits that are read back as the positive number `m * 2 ^ e`. -/
def ofParts (tie : Tie) (m : Nat) (e : Int) : Decimal10 :=
  let i := interval m e
  match search tie i (magnitude i.value i.denominator) (List.range 18) with
  | some x => stripZeros 20 x
  | none => ⟨0, 0⟩

end Shortest

end Parley
