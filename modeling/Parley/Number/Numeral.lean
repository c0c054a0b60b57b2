import Parley.Number.Whole

/-!
# Reading numbers

The spellings of numbers that are accepted outside of sources, where a sign, a fraction and
an exponent are allowed.

* a whole number is an optional sign and digits;
* a float is an optional sign and `inf`, `infinity` or `nan` in any case, or digits with an
  optional fraction and an optional exponent; there is a digit before the point or behind it.

A float is rounded to the nearest once, from the exact value of its digits.

Main statements: `ofDigits_toDigits` (the digits of a number are read as this number),
`int?_of_digits` (digits alone) and `int?_neg_iff` (where a negative number is read).
-/

namespace Parley

namespace Numeral

/-- The value of a digit. -/
def digitValue (c : Char) : Nat :=
  c.toNat - '0'.toNat

/-- The number that digits spell, behind a number read before them. -/
def ofDigits (start : Nat) (digits : List Char) : Nat :=
  digits.foldl (fun n c => 10 * n + digitValue c) start

/-- A sign at the front, and the rest: whether it is a minus. -/
def sign : List Char → Bool × List Char
  | '-' :: cs => (true, cs)
  | '+' :: cs => (false, cs)
  | cs => (false, cs)

/-- An optional sign and at least one digit, and nothing else. -/
def int? (cs : List Char) : Option Int :=
  let (negative, digits) := sign cs
  if digits.isEmpty || !digits.all Char.isDigit then none
  else some (Binary64.signed negative (ofDigits 0 digits))

/-- A whole number of 64 bits. -/
def whole? (cs : List Char) : Option Int64 :=
  (int? cs).bind Whole.ofInt?

/-- The float nearest to `± digits * 10 ^ exponent`. -/
def toFloat (negative : Bool) (digits : Nat) (exponent : Int) : Float :=
  let x := Float.ofScientific digits (exponent < 0) exponent.natAbs
  if negative then -x else x

/-- The exponent of a float, at its end. -/
def exponent? : List Char → Option Int
  | [] => some 0
  | c :: cs => if c == 'e' || c == 'E' then int? cs else none

/-- A float without its sign. -/
def magnitude? (negative : Bool) (cs : List Char) : Option Float :=
  let whole := cs.takeWhile Char.isDigit
  let rest := cs.dropWhile Char.isDigit
  let (fraction, rest) := match rest with
    | '.' :: rest => (rest.takeWhile Char.isDigit, rest.dropWhile Char.isDigit)
    | rest => ([], rest)
  if whole.isEmpty && fraction.isEmpty then none
  else (exponent? rest).map fun e =>
    toFloat negative (ofDigits (ofDigits 0 whole) fraction) (e - fraction.length)

/-- The names of the floats that are not numbers. -/
def named? (negative : Bool) (name : String) : Option Float :=
  let infinity : Float := 1.0 / 0.0
  match name with
  | "inf" => some (if negative then -infinity else infinity)
  | "infinity" => some (if negative then -infinity else infinity)
  | "nan" => some (0.0 / 0.0)
  | _ => none

/-- A float. -/
def float? (cs : List Char) : Option Float :=
  let (negative, body) := sign cs
  match named? negative (String.ofList (body.map Char.toLower)) with
  | some x => some x
  | none => magnitude? negative body

/-! ### Digits of a number -/

/-- Decimal digits are read as the number they are the digits of. -/
theorem ofDigits_toDigits (zeros n : Nat) :
    ofDigits 0 (List.replicate zeros '0' ++ Nat.toDigits 10 n) = n := by
  have hzeros : ofDigits 0 (List.replicate zeros '0') = 0 := by
    induction zeros with
    | zero => rfl
    | succ zeros ih => exact ih
  have hfold : ofDigits 0 (List.replicate zeros '0' ++ Nat.toDigits 10 n) =
      ofDigits (ofDigits 0 (List.replicate zeros '0')) (Nat.toDigits 10 n) := List.foldl_append
  rw [hfold, hzeros]
  exact Nat.ofDigitChars_toDigits (by decide) (by decide)

/-- Every number has a first digit. -/
theorem exists_toDigits_eq_cons (n : Nat) :
    ∃ c digits, Nat.toDigits 10 n = c :: digits ∧ c.isDigit = true := by
  obtain ⟨c, digits, hdigits⟩ := List.exists_cons_of_ne_nil
    (Nat.toDigits_ne_nil : Nat.toDigits 10 n ≠ [])
  have hc : c ∈ Nat.toDigits 10 n := hdigits ▸ List.mem_cons_self
  exact ⟨c, digits, hdigits, Nat.isDigit_of_mem_toDigits (by decide) (by decide) hc⟩

/-- More digits do not make a number smaller. -/
theorem le_ofDigits (start : Nat) (digits : List Char) : start ≤ ofDigits start digits := by
  induction digits generalizing start with
  | nil => exact Nat.le_refl start
  | cons c digits ih =>
    have hstep : start ≤ 10 * start + digitValue c := by omega
    exact Nat.le_trans hstep (ih _)

/-- The digits of a number other than zero do not begin with a zero. -/
theorem head?_toDigits {n : Nat} (hn : 0 < n) : (Nat.toDigits 10 n).head? ≠ some '0' := by
  induction n using Nat.strongRecOn with
  | ind n ih =>
    by_cases hlt : n < 10
    · have hdigits : ∀ m < 10, 0 < m → Nat.digitChar m ≠ '0' := by decide
      rw [Nat.toDigits_of_lt_base hlt, List.head?_cons]
      exact fun h => hdigits n hlt hn (Option.some.inj h)
    · have hdiv : 0 < n / 10 := by omega
      have hhead := ih (n / 10) (by omega) hdiv
      obtain ⟨c, digits, hdigits, -⟩ := exists_toDigits_eq_cons (n / 10)
      rw [hdigits] at hhead
      rw [Nat.toDigits_of_base_le (by decide) (Nat.not_lt.1 hlt), hdigits]
      exact hhead

/-! ### Digits and signs -/

/-- There is no sign in front of a digit. -/
theorem sign_of_isDigit {c : Char} (hc : c.isDigit = true) (cs : List Char) :
    sign (c :: cs) = (false, c :: cs) := by
  unfold sign
  split
  · rename_i heq
    obtain ⟨rfl, -⟩ := List.cons.inj heq
    cases hc
  · rename_i heq
    obtain ⟨rfl, -⟩ := List.cons.inj heq
    cases hc
  · rfl

/-- Digits, and at least one, are read as the number that they spell. -/
theorem int?_of_digits {c : Char} {digits : List Char} (hc : c.isDigit = true)
    (hdigits : ∀ d ∈ digits, d.isDigit = true) :
    int? (c :: digits) = some (ofDigits 0 (c :: digits) : Int) := by
  have hall : (c :: digits).all Char.isDigit = true :=
    List.all_eq_true.2 (List.forall_mem_cons.2 ⟨hc, hdigits⟩)
  unfold int?
  rw [sign_of_isDigit hc]
  dsimp only
  rw [hall]
  rfl

/-- **A negative number** is spelled by a minus and digits that are not all zero. -/
theorem int?_neg_iff {cs : List Char} {n : Int} (h : int? cs = some n) :
    n < 0 ↔ ∃ digits, cs = '-' :: digits ∧ 0 < ofDigits 0 digits := by
  have hminus (m : Nat) : Binary64.signed true m = -(m : Int) := rfl
  have hplus (m : Nat) : ¬Binary64.signed false m < 0 := Int.not_lt.2 (Int.natCast_nonneg m)
  have hn : Binary64.signed (sign cs).1 (ofDigits 0 (sign cs).2) = n :=
    Option.some.inj (Option.ite_none_left_eq_some.1 h).2
  rw [← hn]
  unfold sign
  split
  next digits =>
    dsimp only
    rw [hminus]
    constructor
    · intro hneg
      exact ⟨digits, rfl, by omega⟩
    · rintro ⟨_, ⟨⟩, hpos⟩
      omega
  next digits =>
    refine iff_of_false (hplus _) ?_
    rintro ⟨_, ⟨⟩, -⟩
  next hother _ =>
    refine iff_of_false (hplus _) ?_
    rintro ⟨digits, rfl, -⟩
    exact hother digits rfl

end Numeral

end Parley
