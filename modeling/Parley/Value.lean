import Parley.Callable
import Parley.Number.Whole

/-!
# Values

What expressions are evaluated to. There is no static typing: each operator looks at the
values it is given and refuses those it has no use for.

The entries of an object are a list of pairs in the order of their keys, by code points, in
which no key occurs twice; `Object` holds the operations that keep it so. An object is
therefore equal to another exactly when their lists agree entry by entry.

Numbers are compared across the two number types: a whole number equals the float it is
rounded to. A float that is not a number equals nothing, itself included.
-/

namespace Parley

/-- The types that messages tell apart. Both types of number count as one. -/
inductive ValueType where
  | null
  | boolean
  | number
  | string
  | array
  | object
  | function
deriving DecidableEq, Repr

/-- The name of a type. -/
def ValueType.name : ValueType → String
  | null => "null"
  | boolean => "boolean"
  | number => "number"
  | string => "string"
  | array => "array"
  | object => "object"
  | function => "function"

/-- A value of the expression language. -/
inductive Value where
  /-- It comes in from outside only; no literal spells it. -/
  | null
  | boolean (b : Bool)
  | integer (n : Int64)
  | float (x : Float)
  | string (s : String)
  | array (items : List Value)
  | object (entries : List (String × Value))
  | function (f : Callable)

instance : Inhabited Value := ⟨.null⟩

/-- The entries of an object, in the order of their keys. -/
abbrev Object := List (String × Value)

namespace Value

/-- The type of a value. -/
def type : Value → ValueType
  | null => .null
  | boolean _ => .boolean
  | integer _ => .number
  | float _ => .number
  | string _ => .string
  | array _ => .array
  | object _ => .object
  | function _ => .function

/-- Whether a value counts as true: not null, `false`, a zero, a float that is no number, or
the empty text. Containers count as true even when empty. -/
def truthy : Value → Bool
  | null => false
  | boolean b => b
  | integer n => n != 0
  | float x => x != 0.0 && !x.isNaN
  | string s => !s.isEmpty
  | array _ => true
  | object _ => true
  | function _ => true

/-- The float that a number is or is rounded to. -/
def float? : Value → Option Float
  | integer n => some (Whole.toFloat n)
  | float x => some x
  | _ => none

/-- The whole number that a number is. A float beyond the whole numbers counts as the last
one on its side. -/
def integer? : Value → Option Int64
  | integer n => some n
  | float x => (Binary64.whole? x).map Whole.clamp
  | _ => none

/-- The text of a string. -/
def string? : Value → Option String
  | string s => some s
  | _ => none

mutual

/-- Equality of values, as the language has it. -/
def equal : Value → Value → Bool
  | null, null => true
  | boolean a, boolean b => a == b
  | integer a, integer b => a == b
  | float a, float b => a == b
  | integer a, float b => Whole.toFloat a == b
  | float a, integer b => Whole.toFloat b == a
  | string a, string b => a == b
  | array a, array b => equalItems a b
  | object a, object b => equalEntries a b
  | function a, function b => a == b
  | _, _ => false

/-- Equality item by item. -/
def equalItems : List Value → List Value → Bool
  | [], [] => true
  | a :: as, b :: bs => equal a b && equalItems as bs
  | _, _ => false

/-- Equality entry by entry. -/
def equalEntries : List (String × Value) → List (String × Value) → Bool
  | [], [] => true
  | (k, a) :: as, (l, b) :: bs => k == l && equal a b && equalEntries as bs
  | _, _ => false

end

instance : BEq Value := ⟨equal⟩

end Value

end Parley
