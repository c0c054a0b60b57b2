import Parley.Json.Printer
import Parley.Value.Object

/-!
# Values and JSON

Every JSON document is a value. A whole number beyond 64 bits with a sign becomes a float.
In the other direction functions and floats that are no finite numbers have no JSON form and
become null; everything else keeps its constructor.
-/

namespace Parley

namespace Value

/-- The value of a whole number in a document. -/
def ofInt (n : Int) : Value :=
  match Whole.ofInt? n with
  | some w => integer w
  | none => float (Float.ofInt n)

mutual

/-- The value of a document. -/
def ofJson : Json → Value
  | .null => null
  | .bool b => boolean b
  | .integer n => ofInt n
  | .float x => float x
  | .string s => string s
  | .array items => array (ofItems items)
  | .object members => object (ofMembers members)

/-- The values of the items of an array. -/
def ofItems : List Json → List Value
  | [] => []
  | item :: items => ofJson item :: ofItems items

/-- The values of the members of an object. -/
def ofMembers : List (String × Json) → List (String × Value)
  | [] => []
  | (name, value) :: members => (name, ofJson value) :: ofMembers members

end

mutual

/-- The document for a value. -/
def toJson : Value → Json
  | null => .null
  | boolean b => .bool b
  | integer n => .integer n.toInt
  | float x => if x.isFinite then .float x else .null
  | string s => .string s
  | array items => .array (toItems items)
  | object entries => .object (toMembers entries)
  | function _ => .null

/-- The documents for the items of an array. -/
def toItems : List Value → List Json
  | [] => []
  | item :: items => toJson item :: toItems items

/-- The documents for the entries of an object. -/
def toMembers : List (String × Value) → List (String × Json)
  | [] => []
  | (name, value) :: entries => (name, toJson value) :: toMembers entries

end

/-! ### Text -/

/-- The spelling of a truth value. -/
def spellBool (b : Bool) : String :=
  if b then "true" else "false"

mutual

/-- The text that is shown in chat for a value: a string verbatim, the items of an array one
after another, an object as a compact document. -/
def text : Value → String
  | null => "null"
  | boolean b => spellBool b
  | integer n => toString n.toInt
  | float x => FloatFormat.chat.spell x
  | string s => s
  | array items => ", ".intercalate (texts items)
  | object entries => (toJson (object entries)).compact
  | function _ => "[function]"

/-- The texts of several values. -/
def texts : List Value → List String
  | [] => []
  | item :: items => text item :: texts items

end

end Value

end Parley
