/-!
# JSON documents

The type of JSON documents, as they are read and written. Numbers come in two kinds: whole
numbers, which are exact, and floats, which are finite. The members of an object are a list
of pairs in the order of their names, in which no name occurs twice.
-/

namespace Parley

/-- A JSON document. -/
inductive Json where
  | null
  | bool (b : Bool)
  | integer (n : Int)
  | float (x : Float)
  | string (s : String)
  | array (items : List Json)
  | object (members : List (String × Json))

namespace Json

instance : Inhabited Json := ⟨.null⟩

/-- The members of an object with one more: in the place that its name has in the order, and
instead of the member of that name there was. -/
def insertMember (name : String) (value : Json) : List (String × Json) → List (String × Json)
  | [] => [(name, value)]
  | (k, v) :: rest =>
    if name < k then (name, value) :: (k, v) :: rest
    else if k = name then (name, value) :: rest
    else (k, v) :: insertMember name value rest

end Json

end Parley
