import Parley.Unicode.Age
import Parley.Unicode.ScriptExtension
import Parley.Unicode.Segmentation

/-!
# Classes of characters by name

A class is named by a property that a character has or has not, by a general category or by a
script, or by a property together with one of its values. Names are compared loosely: blanks,
hyphens, low lines and the case of letters do not matter, nor does `is` in front.

No two of the classes that can be named alone have the same name, so the order in which they
are looked up is of no importance.
-/

namespace Parley

namespace Unicode

/-- The name without `is` in front, if it begins with it. -/
def dropIs : List Char → Option (List Char)
  | i :: s :: rest => if i.toLower = 'i' ∧ s.toLower = 's' then some rest else none
  | _ => none

/-- The letters that matter in a name. Those outside ASCII do not. -/
def letters (name : List Char) : List Char :=
  (name.filter fun c => c.toNat < 128 && !(c == ' ' || c == '_' || c == '-')).map Char.toLower

/-- The form in which names are compared. The name `isc` has no `is` in front. -/
def normalize (name : List Char) : String :=
  String.ofList <| match dropIs name with
    | some rest => if letters rest = ['c'] then ['i', 's', 'c'] else letters rest
    | none => letters name

/-- The characters of a class that is named alone. -/
def named? (name : List Char) : Option CharClass :=
  let name := normalize name
  (binary? name).or ((category? name).or (script? name))

/-- The characters for which a property has a value. -/
def valued? (property value : List Char) : Option CharClass :=
  let value := normalize value
  match normalize property with
  | "gc" | "generalcategory" => category? value
  | "sc" | "script" => script? value
  | "scx" | "scriptextensions" => scriptExtension? value
  | "age" => age? value
  | "gcb" | "graphemeclusterbreak" => graphemeBreak? value
  | "wb" | "wordbreak" => wordBreak? value
  | "sb" | "sentencebreak" => sentenceBreak? value
  | _ => none

end Unicode

end Parley
