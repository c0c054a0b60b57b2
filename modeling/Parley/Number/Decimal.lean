import Parley.Number.Whole

/-!
# Decimal numbers of 28 places

Where a whole number meets a float, the arithmetic is decimal: `0.1 * 3` is `0.3` and not a
neighbour of it. A `Decimal` is `± mantissa / 10 ^ scale`, where the mantissa has 96 bits
and there are at most 28 places behind the point.

* A float enters with the digits that its precision vouches for: below `2 ^ 52`, digits
  beyond that are rounded off, and zeros at the end are dropped. One that is too large does
  not enter; one that is too small enters as zero.
* Sums, differences and products are exact while they fit. Otherwise places are given up
  until the mantissa fits, and what is given up is rounded, a half to the even neighbour.
* A quotient is carried on as far as it has to be, or as far as places and mantissa go, and
  is rounded likewise. It may end in zeros.
* A result leaves as the nearest float of its value rounded to its places.

An operation answers `none` where even a number without places would not fit.
-/

namespace Parley

/-- The number `± mantissa / 10 ^ scale`. -/
structure Decimal where
  negative : Bool
  mantissa : Nat
  scale : Nat
deriving DecidableEq, Repr

namespace Decimal

/-- Mantissas are below this. -/
def limit : Nat := Nat.pow 2 96

/-- The most places behind the point. -/
def maxScale : Nat := 28

/-- The number zero, without places. -/
def zero : Decimal :=
  ⟨false, 0, 0⟩

/-- Whether the number is zero, whatever its sign and places. -/
def isZero (d : Decimal) : Bool :=
  d.mantissa = 0

/-- The number of the opposite sign. -/
def neg (d : Decimal) : Decimal :=
  { d with negative := !d.negative }

/-- A whole number. -/
def ofWhole (w : Int64) : Decimal :=
  ⟨decide (w.toInt < 0), w.toInt.natAbs, 0⟩

/-! ### Rounding -/

/-- `n / 10`, rounded to the nearest, a half up. -/
def tenthHalfUp (n : Nat) : Nat :=
  if 5 ≤ n % 10 then n / 10 + 1 else n / 10

/-- `n / d`, rounded to the nearest, a half to the even neighbour. -/
def divHalfEven (n d : Nat) : Nat :=
  let q := n / d
  let twice := 2 * (n % d)
  if twice < d ∨ (twice = d ∧ q % 2 = 0) then q else q + 1

/-- The number of digits to give up so that what is left of `n` is below the limit. -/
def excess (n : Nat) : Nat :=
  if n < limit then 0 else excess (n / 10) + 1
termination_by n
decreasing_by
  have : 0 < limit := by decide
  omega

/-- The number `± n / 10 ^ scale` with as few places given up as the mantissa and the scale
demand. Rounding up may carry to the limit itself, which costs one more place. -/
def fit? (negative : Bool) (n scale : Nat) : Option Decimal :=
  let k := max (excess n) (scale - maxScale)
  if scale < k then none
  else
    let m := divHalfEven n (Nat.pow 10 k)
    if m < limit then some ⟨negative, m, scale - k⟩
    else if scale = k then none
    else some ⟨negative, divHalfEven m 10, scale - k - 1⟩

/-- Drops zeros at the end of the mantissa together with their places. -/
def stripZeros (negative : Bool) (m : Nat) : Nat → Decimal
  | 0 => ⟨negative, m, 0⟩
  | scale + 1 => if m % 10 = 0 then stripZeros negative (m / 10) scale else ⟨negative, m, scale + 1⟩

/-! ### From floats -/

/-- A mantissa and an exponent of ten, while a float is being turned into a decimal. -/
structure Raw where
  mantissa : Nat
  exponent : Int

namespace Raw

/-- Halves the value without changing the base: five times the mantissa and a tenth, or half
the mantissa where that is exact or five times would not fit. -/
def halve (r : Raw) : Raw :=
  if r.mantissa % 2 = 1 ∧ 5 * r.mantissa < limit then ⟨5 * r.mantissa, r.exponent⟩
  else ⟨r.mantissa / 2, r.exponent + 1⟩

/-- Gives up places beyond the most there may be; `spare` is how many these are. A number of
which nothing is left is zero. -/
def cutPlaces : Nat → Nat → Nat → Nat × Nat
  | m, places, 0 => (m, places)
  | m, places, spare + 1 =>
    if m / 10 = 0 then (0, 0) else cutPlaces (tenthHalfUp m) (places - 1) spare

/-- Rounds places off while the mantissa has more digits than a float vouches for. -/
def cutDigits : Nat → Nat → Nat × Nat
  | m, 0 => (m, 0)
  | m, places + 1 =>
    if Binary64.hiddenBit ≤ m then cutDigits (tenthHalfUp m) places else (m, places + 1)

end Raw

/-- The value `m / 2 ^ e` in powers of ten. -/
def rawOfParts (m e : Nat) : Raw :=
  Nat.repeat Raw.halve e ⟨m, -e⟩

/-- The decimal for a float, if it is finite and below the limit. A float without a fraction
keeps all its digits. -/
def ofFloat? (x : Float) : Option Decimal :=
  match Binary64.shape x with
  | .finite negative m (.ofNat e) =>
    let n := m * Nat.pow 2 e
    if n < limit then some ⟨negative, n, 0⟩ else none
  | .finite negative m (.negSucc e) =>
    if m = 0 then some ⟨negative, 0, 0⟩
    else
      let raw := rawOfParts m (e + 1)
      let places := (-raw.exponent).toNat
      let cut := Raw.cutPlaces raw.mantissa places (places - maxScale)
      let kept := Raw.cutDigits cut.1 cut.2
      some (stripZeros negative kept.1 kept.2)
  | _ => none

/-! ### Arithmetic -/

/-- The numerator of a number over `10 ^ scale`, where there are at least its own places. -/
def numerator (d : Decimal) (scale : Nat) : Int :=
  Binary64.signed d.negative (d.mantissa * Nat.pow 10 (scale - d.scale))

/-- The sum. Adding zero changes nothing, not even the places. -/
def add? (a b : Decimal) : Option Decimal :=
  if a.isZero then some b
  else if b.isZero then some a
  else
    let scale := max a.scale b.scale
    let n := a.numerator scale + b.numerator scale
    fit? (decide (n < 0)) n.natAbs scale

/-- The difference. -/
def sub? (a b : Decimal) : Option Decimal :=
  add? a (if b.isZero then b else b.neg)

/-- The product. -/
def mul? (a b : Decimal) : Option Decimal :=
  if a.isZero || b.isZero then some zero
  else fit? (a.negative != b.negative) (a.mantissa * b.mantissa) (a.scale + b.scale)

/-- A quotient in the making: its digits so far, what is left to divide, and the places that
the digits have. These may be fewer than none. -/
structure Quotient where
  digits : Nat
  remainder : Nat
  places : Int

namespace Quotient

/-- The most zeros, at most the given number, that can follow a mantissa. -/
def room (m : Nat) : Nat → Nat
  | 0 => 0
  | zeros + 1 => if m * Nat.pow 10 (zeros + 1) < limit then zeros + 1 else room m zeros

/-- How many digits the next step brings, nine at most. With nothing left to divide these are
zeros up to the point; else they are as many as there is room for. -/
def stride (q : Quotient) : Nat :=
  if q.remainder = 0 then min 9 (-q.places).toNat
  else room q.digits (min 9 (maxScale - q.places).toNat)

/-- The mantissa and the places that a fraction is rounded to, if they fit; a half goes to
the even neighbour. One place is given up where the mantissa has become too long. -/
def round? (num den : Nat) (places : Int) : Option (Nat × Nat) :=
  let m := divHalfEven num den
  if m < limit then if 0 ≤ places then some (m, places.toNat) else none
  else if 1 ≤ places then some (divHalfEven num (10 * den), (places - 1).toNat)
  else none

/-- Divides on, at most `steps` times. The result says in addition whether the division has
come out even at once. -/
def run (divisor : Nat) (even : Bool) : Nat → Quotient → Option (Bool × Nat × Nat)
  | 0, _ => none
  | steps + 1, q =>
    if q.remainder = 0 ∧ 0 ≤ q.places then some (even, q.digits, q.places.toNat)
    else
      let even := even && q.remainder = 0
      let n := q.stride
      if n = 0 then
        (round? (q.digits * divisor + q.remainder) divisor q.places).map fun r => (even, r)
      else
        let rest := q.remainder * Nat.pow 10 n
        let next : Quotient :=
          ⟨q.digits * Nat.pow 10 n + rest / divisor, rest % divisor, q.places + n⟩
        if next.digits < limit then run divisor even steps next
        else if q.remainder = 0 then none
        else
          (round? (next.digits * divisor + next.remainder) divisor next.places).map
            fun r => (even, r)

end Quotient

/-- Drops a number of zeros at the end of a mantissa, if there are as many. -/
def dropZeros (count : Nat) (d : Nat × Nat) : Nat × Nat :=
  if count ≤ d.2 ∧ d.1 % Nat.pow 10 count = 0 then (d.1 / Nat.pow 10 count, d.2 - count) else d

/-- Drops zeros eight at a time, for as long as the last 32 bits are zero. -/
def dropEights (m : Nat) : Nat → Nat × Nat
  | places + 8 =>
    if m % 4294967296 = 0 ∧ m % 100000000 = 0 then dropEights (m / 100000000) places
    else (m, places + 8)
  | places => (m, places)

/-- Drops the zeros at the end of a quotient, or most of them: four, two and one at a time
after the eights, each once. -/
def normalize (m places : Nat) : Nat × Nat :=
  dropZeros 1 (dropZeros 2 (dropZeros 4 (dropEights m places)))

/-- The quotient by a number that is not zero. No place lies behind the last one that a
decimal can have, and none is added that the division does not need; but digits are added
several at a time, and of the zeros among them some are kept. -/
def div? (a b : Decimal) : Option Decimal :=
  if a.isZero then some zero
  else
    let start : Quotient :=
      ⟨a.mantissa / b.mantissa, a.mantissa % b.mantissa, (a.scale : Int) - b.scale⟩
    (start.run b.mantissa true 64).map fun (even, m, places) =>
      let (m, places) := if even then (m, places) else normalize m places
      ⟨a.negative != b.negative, m, places⟩

/-! ### Results -/

/-- The whole number that a decimal is, if it has no fraction and 64 bits can hold it. -/
def whole? (d : Decimal) : Option Int64 :=
  if d.mantissa % Nat.pow 10 d.scale = 0 then
    Whole.ofInt? (Binary64.signed d.negative (d.mantissa / Nat.pow 10 d.scale))
  else none

/-- A power of a float by repeated squaring, where `acc` holds the factors taken so far. -/
def floatPower (acc base : Float) (n : Nat) : Float :=
  let acc := if n % 2 = 1 then acc * base else acc
  if n < 2 then acc else floatPower acc (base * base) (n / 2)
termination_by n

/-- The float for a decimal. A fraction is added to the whole part and the sum is rounded to
the places of the decimal, which takes back what the addition has lost. -/
def toFloat (d : Decimal) : Float :=
  let unit := Nat.pow 10 d.scale
  let whole := Float.ofNat (d.mantissa / unit)
  let fraction := Float.ofNat (d.mantissa % unit) / Float.ofNat unit
  let magnitude :=
    if d.mantissa % unit = 0 then whole
    else
      let power := floatPower 1.0 10.0 d.scale
      Binary64.roundHalfAway ((whole + fraction) * power) / power
  if d.negative then -magnitude else magnitude

end Decimal

end Parley
