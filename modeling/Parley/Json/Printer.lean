import Parley.Json
import Parley.Json.Quoted
import Parley.Number.Spelling

/-!
# Writing JSON

Two layouts of the same document. The compact one has no blanks at all. The pretty one puts
every item and member on a line of its own, two blanks further in for each container around
it; an empty container stays on one line.
-/

namespace Parley

namespace Json

/-- A text as a JSON string. -/
def quote (s : String) : String :=
  String.ofList (Quoted.encode s.toList)

mutual

/-- A document without blanks. -/
def compact : Json → String
  | null => "null"
  | bool b => if b then "true" else "false"
  | integer n => toString n
  | float x => FloatFormat.json.spell x
  | string s => quote s
  | array items => "[" ++ ",".intercalate (compactItems items) ++ "]"
  | object members => "\x7b" ++ ",".intercalate (compactMembers members) ++ "\x7d"

/-- The items of an array, each without blanks. -/
def compactItems : List Json → List String
  | [] => []
  | item :: items => compact item :: compactItems items

/-- The members of an object, each without blanks. -/
def compactMembers : List (String × Json) → List String
  | [] => []
  | (name, value) :: members => (quote name ++ ":" ++ compact value) :: compactMembers members

end

/-- A new line, indented for a number of containers. -/
def newLine (depth : Nat) : String :=
  "\n" ++ String.ofList (List.replicate (2 * depth) ' ')

/-- The parts of a container, each on its line, between two brackets. -/
def block (depth : Nat) (opening : String) (parts : List String) (closing : String) : String :=
  if parts.isEmpty then opening ++ closing
  else
    opening ++ newLine (depth + 1) ++ ("," ++ newLine (depth + 1)).intercalate parts ++
      newLine depth ++ closing

mutual

/-- A document laid out in lines, inside a number of containers. -/
def prettyAt (depth : Nat) : Json → String
  | null => "null"
  | bool b => if b then "true" else "false"
  | integer n => toString n
  | float x => FloatFormat.json.spell x
  | string s => quote s
  | array items => block depth "[" (prettyItems (depth + 1) items) "]"
  | object members => block depth "\x7b" (prettyMembers (depth + 1) members) "\x7d"

/-- The items of an array, each laid out. -/
def prettyItems (depth : Nat) : List Json → List String
  | [] => []
  | item :: items => prettyAt depth item :: prettyItems depth items

/-- The members of an object, each laid out. -/
def prettyMembers (depth : Nat) : List (String × Json) → List String
  | [] => []
  | (name, value) :: members =>
    (quote name ++ ": " ++ prettyAt depth value) :: prettyMembers depth members

end

/-- A document laid out in lines. -/
def pretty (j : Json) : String :=
  prettyAt 0 j

end Json

end Parley
