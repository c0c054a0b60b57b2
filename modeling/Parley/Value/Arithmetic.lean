import Parley.EvalError
import Parley.Number.Decimal
import Parley.Value.Json

/-!
# Arithmetic on values

* Two whole numbers give a whole number where the exact result is one that 64 bits can hold;
  otherwise both are taken as floats.
* Two floats give a float.
* A whole number and a float meet as decimals, and a result without a fraction is a whole
  number again. Where a decimal cannot hold them, both are taken as floats.
* A text and a text, number or truth value are joined by `+`.

Dividing by a zero of any kind is an error.
-/

namespace Parley

namespace Value

open EvalError (Complaint)

/-- Arithmetic on floats. -/
def floats (op : Operator) (a b : Float) : Except Complaint Value :=
  match op with
  | .add => .ok (.float (a + b))
  | .subtract => .ok (.float (a - b))
  | .multiply => .ok (.float (a * b))
  | .divide => if b == 0.0 then .error .divisionByZero else .ok (.float (a / b))

/-- The exact result of an operator on whole numbers, where there is one: a quotient that
leaves a remainder is none. -/
def exactResult? (op : Operator) (a b : Int) : Option Int :=
  match op with
  | .add => some (a + b)
  | .subtract => some (a - b)
  | .multiply => some (a * b)
  | .divide => if b ≠ 0 ∧ a % b = 0 then some (a / b) else none

/-- Arithmetic on whole numbers. -/
def integers (op : Operator) (a b : Int64) : Except Complaint Value :=
  if op = .divide ∧ b = 0 then .error .divisionByZero
  else
    match (exactResult? op a.toInt b.toInt).bind Whole.ofInt? with
    | some n => .ok (.integer n)
    | none => floats op (Whole.toFloat a) (Whole.toFloat b)

/-- The result of decimal arithmetic as a value. -/
def ofDecimal (d : Decimal) : Value :=
  match d.whole? with
  | some n => .integer n
  | none => .float d.toFloat

/-- Arithmetic on decimals; `none` where a decimal cannot hold the result. -/
def decimals? (op : Operator) (a b : Decimal) : Option (Except Complaint Value) :=
  match op with
  | .add => (a.add? b).map fun d => .ok (ofDecimal d)
  | .subtract => (a.sub? b).map fun d => .ok (ofDecimal d)
  | .multiply => (a.mul? b).map fun d => .ok (ofDecimal d)
  | .divide =>
    if b.isZero then some (.error .divisionByZero)
    else (a.div? b).map fun d => .ok (ofDecimal d)

/-- Arithmetic on a whole number and a float, in this order or the other. -/
def mixed (op : Operator) (a b : Option Decimal) (x y : Float) : Except Complaint Value :=
  match a, b with
  | some a, some b => (decimals? op a b).getD (floats op x y)
  | _, _ => floats op x y

/-- The text that a value contributes to a longer one. -/
def fragment? : Value → Option String
  | string s => some s
  | integer n => some (toString n.toInt)
  | float x => some (FloatFormat.chat.spell x)
  | boolean b => some (spellBool b)
  | _ => none

/-- Whether an operand is a text. -/
def isString : Value → Bool
  | string _ => true
  | _ => false

/-- **Arithmetic**: an operator applied to two values. -/
def arithmetic (op : Operator) (left right : Value) : Except Complaint Value :=
  match left, right with
  | integer a, integer b => integers op a b
  | float a, float b => floats op a b
  | integer a, float b =>
    mixed op (some (Decimal.ofWhole a)) (Decimal.ofFloat? b) (Whole.toFloat a) b
  | float a, integer b =>
    mixed op (Decimal.ofFloat? a) (some (Decimal.ofWhole b)) a (Whole.toFloat b)
  | _, _ =>
    if op = .add ∧ (left.isString ∨ right.isString) then
      match left.fragment?, right.fragment? with
      | some a, some b => .ok (.string (a ++ b))
      | _, _ => .error (.mismatch op left.type right.type)
    else .error (.mismatch op left.type right.type)

end Value

end Parley
