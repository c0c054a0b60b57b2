import Parley.Value

/-!
# Objects

An object is a list of entries in the order of their keys. `insert` keeps the order and
replaces the entry of a key that is there; `merge` writes one object over another, entry by
entry, and goes on inside where both sides hold an object.

Main statements: `get?_insert` (what is found after an insertion), `get?_nil`.
-/

namespace Parley

namespace Object

/-- The value of a key. -/
def get? (key : String) : Object → Option Value
  | [] => none
  | (k, v) :: rest => if k = key then some v else get? key rest

/-- The object with a value for a key: in the place that the key has in the order, and
instead of the value it had. -/
def insert (key : String) (value : Value) : Object → Object
  | [] => [(key, value)]
  | (k, v) :: rest =>
    if key < k then (key, value) :: (k, v) :: rest
    else if k = key then (key, value) :: rest
    else (k, v) :: insert key value rest

/-- The object with the entries of a list, of which the last one for a key counts. -/
def ofList (entries : List (String × Value)) : Object :=
  entries.foldl (fun o entry => insert entry.1 entry.2 o) []

/-- The keys, in order. -/
def keys (o : Object) : List String :=
  o.map Prod.fst

@[simp] theorem get?_nil (key : String) : get? key [] = none := rfl

/-- **What is found after an insertion**: the new value under its key, and under every other
key what was there before. -/
theorem get?_insert (key : String) (value : Value) (o : Object) (k : String) :
    get? k (insert key value o) = if key = k then some value else get? k o := by
  induction o with
  | nil => simp [insert, get?]
  | cons entry rest ih =>
    obtain ⟨l, v⟩ := entry
    unfold insert
    split
    · simp [get?]
    · split
      · rename_i hl
        subst hl
        by_cases h : l = k <;> simp [get?, h]
      · rename_i hl
        by_cases h : l = k
        · subst h
          simp [get?, Ne.symm hl]
        · simp [get?, h, ih]

mutual

/-- The value that stands under a key after one is written over what was there: an object is
merged into an object, and anything else replaces it. -/
def overlay (old : Option Value) : Value → Value
  | .object nested =>
    match old with
    | some (.object existing) => .object (merge existing nested)
    | _ => .object nested
  | .null => .null
  | .boolean b => .boolean b
  | .integer n => .integer n
  | .float x => .float x
  | .string s => .string s
  | .array items => .array items
  | .function f => .function f

/-- Writes the entries of a layer over a target, one after another. -/
def merge (target : Object) : List (String × Value) → Object
  | [] => target
  | (key, incoming) :: rest =>
    merge (insert key (overlay (get? key target) incoming) target) rest

end

end Object

end Parley
