import Parley.Pattern.CharClass

/-!
# Tables of characters

The tables of this folder give the members of named classes of characters, in the notation of
`CharClass.ofNotation`. Names are kept in the form in which they are compared, see
`Parley.Unicode.Name`.
-/

namespace Parley

namespace Unicode

/-- A table: in each row, the names of a class and its members. -/
abbrev Table := List (List String × List String)

namespace Table

/-- The row that has a name. -/
def row? (t : Table) (name : String) : Option (List String × List String) :=
  t.find? fun row => row.1.contains name

/-- The members of the class that has a name. -/
def characters? (t : Table) (name : String) : Option CharClass :=
  (t.row? name).map fun row => .ofNotation row.2

/-- The members of all classes. -/
def characters (t : Table) : CharClass :=
  .ofNotation (t.flatMap (·.2))

/-- The members of the classes that have one of some names. -/
def charactersOf (t : Table) (names : List String) : CharClass :=
  characters (t.filter fun row => row.1.any names.contains)

end Table

end Unicode

end Parley
