import Parley.Proofs.Number.ToFloat
import Parley.Proofs.Value.Exact

/-!
# Divisions

A division of numbers looks for a zero in three places: whole numbers, floats and decimals each have
a test of their own. That of the decimals is the one to watch. A whole number and a float meet as
decimals, and a float may have lost everything it had by then (`Parley.Value.LostBeside`). It is not
zero, but the division fails as if it were.

`Parley.Value.arithmetic_divide_cases` has the two ways in which a division can end, and says which
of them applies. For each pair of kinds of number it follows from what the divisor becomes.
-/

namespace Parley

namespace Value

open Binary64 (value?)
open EvalError (Complaint)

/-- The number that a value is, if it is a finite one. -/
def number? : Value → Option ℚ
  | integer n => some n.toInt
  | float x => value? x
  | _ => none

theorem number?_integer_eq_zero {n : Int64} : (integer n).number? = some 0 ↔ n = 0 := by
  rw [number?, Option.some_inj, Int.cast_eq_zero]
  exact ⟨fun h => Int64.toInt_inj.1 h, fun h => h ▸ rfl⟩

/-! ### Divisions -/

/-- `LostBeside a b`: the float `b` is too close to zero for a decimal, and the whole number `a`
makes it one. -/
def LostBeside : Value → Value → Prop
  | integer _, float x => ∃ q, value? x = some q ∧ 18 * 10 ^ 28 * |q| < 17
  | _, _ => False

theorem floats_divide_of_eq {x y : Float} (hy : value? y = some 0) :
    floats .divide x y = .error .divisionByZero :=
  if_pos (Binary64.beq_zero_iff.2 hy)

theorem floats_divide_of_ne {x y : Float} (hy : value? y ≠ some 0) :
    floats .divide x y = .ok (.float (x / y)) :=
  if_neg fun h => hy (Binary64.beq_zero_iff.1 h)

theorem type_ofDecimal (d : Decimal) : (ofDecimal d).type = .number := by
  rw [ofDecimal]
  split <;> rfl

theorem value?_toFloat_ne_zero {n : Int64} (hn : n ≠ 0) : value? (Whole.toFloat n) ≠ some 0 :=
  fun h => hn ((Binary64.toFloat_beq_zero n).1 (Binary64.beq_zero_iff.2 h))

theorem mixed_divide_of_isZero {a b : Decimal} {x y : Float} (hb : b.isZero = true) :
    mixed .divide (some a) (some b) x y = .error .divisionByZero := by
  rw [mixed, decimals?, if_pos hb]
  rfl

theorem exists_mixed_divide {a b : Option Decimal} {x y : Float} (hb : ∀ d ∈ b, d.isZero = false)
    (hy : value? y ≠ some 0) : ∃ v, mixed .divide a b x y = .ok v ∧ v.type = .number := by
  have hfloats : ∃ v, floats .divide x y = .ok v ∧ v.type = .number :=
    ⟨_, floats_divide_of_ne hy, rfl⟩
  cases a with
  | none => exact hfloats
  | some a =>
    cases b with
    | none => exact hfloats
    | some b =>
      rw [mixed, decimals?, if_neg (Bool.eq_false_iff.1 (hb b rfl))]
      cases a.div? b with
      | none => exact hfloats
      | some d => exact ⟨_, rfl, type_ofDecimal d⟩

/-- A whole number and a float. What the float has become as a decimal decides. -/
theorem divide_integer_float (a : Int64) (y : Float) :
    LostBeside (integer a) (float y) ∧
        arithmetic .divide (integer a) (float y) = .error .divisionByZero ∨
      ¬LostBeside (integer a) (float y) ∧ value? y ≠ some 0 ∧
        ∃ v, arithmetic .divide (integer a) (float y) = .ok v ∧ v.type = .number := by
  rw [arithmetic]
  by_cases hlost : LostBeside (integer a) (float y)
  · obtain ⟨q, hq, hsmall⟩ := hlost
    cases hd : Decimal.ofFloat? y with
    | none =>
      have hlarge := Decimal.limit_le_of_ofFloat?_eq_none hq hd
      rw [Decimal.limit_eq] at hlarge
      linarith
    | some d =>
      have hzero := (Decimal.enters_of_ofFloat? hq hd).isZero_iff.2 hsmall
      exact .inl ⟨⟨q, hq, hsmall⟩, mixed_divide_of_isZero hzero⟩
  · have hne : value? y ≠ some 0 := fun h => hlost ⟨0, h, by norm_num⟩
    refine .inr ⟨hlost, hne, exists_mixed_divide (fun d hd => ?_) hne⟩
    obtain ⟨q, hq⟩ := Decimal.exists_value?_of_ofFloat? hd
    have hlarge : ¬18 * 10 ^ 28 * |q| < 17 := fun h => hlost ⟨q, hq, h⟩
    exact Bool.eq_false_iff.2 (mt (Decimal.enters_of_ofFloat? hq hd).isZero_iff.1 hlarge)

theorem divide_float_integer (x : Float) (b : Int64) :
    b = 0 ∧ arithmetic .divide (float x) (integer b) = .error .divisionByZero ∨
      b ≠ 0 ∧ ∃ v, arithmetic .divide (float x) (integer b) = .ok v ∧ v.type = .number := by
  have hzero : (Decimal.ofWhole b).isZero = true ↔ b = 0 := by
    rw [Decimal.ofWhole, Decimal.isZero, decide_eq_true_iff, Int.natAbs_eq_zero]
    exact Int64.toInt_inj (y := 0)
  rw [arithmetic]
  by_cases hb : b = 0
  · refine .inl ⟨hb, ?_⟩
    cases Decimal.ofFloat? x with
    | none => exact floats_divide_of_eq (hb ▸ by decide +kernel)
    | some d => exact mixed_divide_of_isZero (hzero.2 hb)
  · refine .inr ⟨hb, exists_mixed_divide ?_ (value?_toFloat_ne_zero hb)⟩
    rintro _ ⟨⟩
    exact Bool.eq_false_iff.2 (mt hzero.1 hb)

theorem divide_integer_integer (a b : Int64) :
    b = 0 ∧ arithmetic .divide (integer a) (integer b) = .error .divisionByZero ∨
      b ≠ 0 ∧ ∃ v, arithmetic .divide (integer a) (integer b) = .ok v ∧ v.type = .number := by
  rw [arithmetic]
  by_cases hb : b = 0
  · exact .inl ⟨hb, hb ▸ integers_divide_zero a⟩
  · refine .inr ⟨hb, ?_⟩
    rw [integers, if_neg fun h => hb h.2]
    cases (exactResult? .divide a.toInt b.toInt).bind Whole.ofInt? with
    | some n => exact ⟨_, rfl, rfl⟩
    | none => exact ⟨_, floats_divide_of_ne (value?_toFloat_ne_zero hb), rfl⟩

theorem divide_float_float (x y : Float) :
    value? y = some 0 ∧ arithmetic .divide (float x) (float y) = .error .divisionByZero ∨
      value? y ≠ some 0 ∧
        ∃ v, arithmetic .divide (float x) (float y) = .ok v ∧ v.type = .number := by
  by_cases hy : value? y = some 0
  · exact .inl ⟨hy, floats_divide_of_eq hy⟩
  · exact .inr ⟨hy, _, floats_divide_of_ne hy, rfl⟩

theorem exists_of_type_eq_number {v : Value} (h : v.type = .number) :
    (∃ n, v = integer n) ∨ ∃ x, v = float x := by
  cases v with
  | integer n => exact .inl ⟨n, rfl⟩
  | float x => exact .inr ⟨x, rfl⟩
  | _ => cases h

/-- A division of numbers is an error, or it has a number as its result. -/
theorem arithmetic_divide_cases {a b : Value} (ha : a.type = .number) (hb : b.type = .number) :
    (b.number? = some 0 ∨ LostBeside a b) ∧ arithmetic .divide a b = .error .divisionByZero ∨
      ¬(b.number? = some 0 ∨ LostBeside a b) ∧
        ∃ v, arithmetic .divide a b = .ok v ∧ v.type = .number := by
  rcases exists_of_type_eq_number ha with ⟨n, rfl⟩ | ⟨x, rfl⟩ <;>
    rcases exists_of_type_eq_number hb with ⟨m, rfl⟩ | ⟨y, rfl⟩
  · rcases divide_integer_integer n m with ⟨hm, h⟩ | ⟨hm, h⟩
    · exact .inl ⟨.inl (number?_integer_eq_zero.2 hm), h⟩
    · exact .inr ⟨not_or.2 ⟨mt number?_integer_eq_zero.1 hm, id⟩, h⟩
  · rcases divide_integer_float n y with ⟨hlost, h⟩ | ⟨hlost, hne, h⟩
    · exact .inl ⟨.inr hlost, h⟩
    · exact .inr ⟨not_or.2 ⟨hne, hlost⟩, h⟩
  · rcases divide_float_integer x m with ⟨hm, h⟩ | ⟨hm, h⟩
    · exact .inl ⟨.inl (number?_integer_eq_zero.2 hm), h⟩
    · exact .inr ⟨not_or.2 ⟨mt number?_integer_eq_zero.1 hm, id⟩, h⟩
  · rcases divide_float_float x y with ⟨hy, h⟩ | ⟨hy, h⟩
    · exact .inl ⟨.inl hy, h⟩
    · exact .inr ⟨not_or.2 ⟨hy, id⟩, h⟩

end Value

/-- **Which divisions fail.** Let both operands of a division come to numbers. It ends with the
error `divisionByZero` at the column of the operator if the divisor is zero, and also if the divisor
is a float whose magnitude is below `17 / (18 * 10 ^ 28)` and the other operand is a whole number:
the two meet as decimals, and a float as small as that has become zero there. All other divisions
have a number as their value. -/
theorem division_fails_by_zero_and_what_becomes_zero {σ : Type} {host : Host σ} {context : Object}
    {level : Level} {token : Token} {left right : Expr} {a b : Value} {run run' run'' : Run σ}
    (hlevel : level = .sum ∨ level = .product)
    (hop : Operator.ofKind? token.kind = some .divide)
    (hleft : left.evaluate host context run = (.ok a, run'))
    (hright : right.evaluate host context run' = (.ok b, run'')) (ha : a.type = .number)
    (hb : b.type = .number) :
    ((Expr.binary level left token right).evaluate host context run =
        (.error (.illegalState .divisionByZero token.column), run'') ↔
      b.number? = some 0 ∨ a.LostBeside b) ∧
    (¬(b.number? = some 0 ∨ a.LostBeside b) → ∃ v,
      (Expr.binary level left token right).evaluate host context run = (.ok v, run'') ∧
        v.type = .number) := by
  have hexpr := Eval.expr_arithmetic hlevel hop hleft hright
  rcases Value.arithmetic_divide_cases ha hb with ⟨hzero, herror⟩ | ⟨hzero, v, hv, htype⟩
  · refine ⟨iff_of_true ?_ hzero, fun h => absurd hzero h⟩
    rw [Expr.evaluate_eq_error, hexpr, herror]
    rfl
  · have hok : (Expr.binary level left token right).evaluate host context run = (.ok v, run'') := by
      rw [Expr.evaluate_eq_ok, hexpr, hv]
      rfl
    refine ⟨iff_of_false ?_ hzero, fun _ => ⟨v, hok, htype⟩⟩
    rw [hok]
    nofun

/-- One divided by `1e-30`, which is not zero. -/
theorem division_fails_by_zero_and_what_becomes_zero_tiny :
    (Value.float (Float.ofBits 0x39b4484bfeebc2a0)).number? ≠ some 0 ∧
      (Expr.binary .product (.term (.number ⟨.number, "1", 1⟩)) ⟨.slash, "/", 3⟩
          (.term (.path ⟨.identifier, "x", 5⟩ []))).evaluate
        (⟨fun _ _ s => (.ok .null, s)⟩ : Host Unit)
        [("x", .float (Float.ofBits 0x39b4484bfeebc2a0))] ⟨(), []⟩ =
          (.error (.illegalState .divisionByZero 3), ⟨(), []⟩) := by
  have hne : ¬(Float.ofBits 0x39b4484bfeebc2a0 == 0.0) = true := by decide +kernel
  have hd : Decimal.ofFloat? (Float.ofBits 0x39b4484bfeebc2a0) = some .zero := by decide +kernel
  obtain ⟨q, hq⟩ := Decimal.exists_value?_of_ofFloat? hd
  have hlost : (Value.integer 1).LostBeside (.float (Float.ofBits 0x39b4484bfeebc2a0)) :=
    ⟨q, hq, (Decimal.enters_of_ofFloat? hq hd).isZero_iff.1 rfl⟩
  exact ⟨fun h => hne (Binary64.beq_zero_iff.2 h),
    (division_fails_by_zero_and_what_becomes_zero (.inr rfl)
      (rfl : Operator.ofKind? .slash = some .divide) rfl rfl rfl rfl).1.2 (.inr hlost)⟩

end Parley
