import Parley.Proofs.EvalError
import Parley.Value.Arithmetic
import Parley.Value.Search

/-!
# The functions in a value

Functions are values like any other, so they may be inside of arrays and objects, at any depth;
`Parley.Value.functions` lists them. The language has no means to make a new one. Documents hold no
functions at all (`Parley.Value.functions_ofJson`), and neither do the results of arithmetic, of
containment and of matching; where there is no result, there is a complaint about the operands
(`Parley.Value.Computed`).
-/

namespace Parley

namespace Value

mutual

/-- **The functions in a value**, at any depth. -/
def functions : Value → List Callable
  | null => []
  | boolean _ => []
  | integer _ => []
  | float _ => []
  | string _ => []
  | array items => itemFunctions items
  | object entries => entryFunctions entries
  | function f => [f]

/-- The functions in the items of an array. -/
def itemFunctions : List Value → List Callable
  | [] => []
  | item :: items => item.functions ++ itemFunctions items

/-- The functions in the entries of an object. -/
def entryFunctions : List (String × Value) → List Callable
  | [] => []
  | (_, v) :: entries => v.functions ++ entryFunctions entries

end

mutual

/-- Documents hold no functions. -/
theorem functions_ofJson : ∀ j : Json, (ofJson j).functions = []
  | .null => rfl
  | .bool _ => rfl
  | .integer n => by
    rw [ofJson, ofInt]
    split <;> rfl
  | .float _ => rfl
  | .string _ => rfl
  | .array items => functions_ofItems items
  | .object members => functions_ofMembers members

theorem functions_ofItems : ∀ items : List Json, itemFunctions (ofItems items) = []
  | [] => rfl
  | item :: items => by
    rw [ofItems, itemFunctions, functions_ofJson item, functions_ofItems items, List.append_nil]

theorem functions_ofMembers : ∀ members : List (String × Json),
    entryFunctions (ofMembers members) = []
  | [] => rfl
  | (_, j) :: members => by
    rw [ofMembers, entryFunctions, functions_ofJson j, functions_ofMembers members,
      List.append_nil]

end

/-! ### What operators come to -/

open EvalError (Complaint)

/-- **What an operator comes to**: a value without functions, or a complaint of its own about the
operands. -/
inductive Computed : Except Complaint Value → Prop
  | ok {v : Value} : v.functions = [] → Computed (.ok v)
  | error {c : Complaint} : ¬c.IsInternal → ¬c.IsQuoted → Computed (.error c)

theorem Computed.functions_eq_nil {v : Value} (h : Computed (.ok v)) : v.functions = [] := by
  cases h with
  | ok h => exact h

theorem computed_floats (op : Operator) (a b : Float) : Computed (floats op a b) := by
  cases op with
  | divide =>
    unfold floats
    dsimp only
    split
    · exact .error id id
    · exact .ok rfl
  | _ => exact .ok rfl

theorem computed_ofDecimal (d : Decimal) : Computed (.ok (ofDecimal d)) := by
  unfold ofDecimal
  split <;> exact .ok rfl

theorem computed_decimals? {op : Operator} {a b : Decimal} {r : Except Complaint Value}
    (h : decimals? op a b = some r) : Computed r := by
  cases op with
  | divide =>
    unfold decimals? at h
    dsimp only at h
    split at h
    · cases h
      exact .error id id
    · obtain ⟨d, -, rfl⟩ := Option.map_eq_some_iff.1 h
      exact computed_ofDecimal d
  | _ =>
    obtain ⟨d, -, rfl⟩ := Option.map_eq_some_iff.1 h
    exact computed_ofDecimal d

theorem computed_mixed (op : Operator) (a b : Option Decimal) (x y : Float) :
    Computed (mixed op a b x y) := by
  unfold mixed
  split
  · rename_i a b
    cases hd : decimals? op a b with
    | none => exact computed_floats op x y
    | some r => exact computed_decimals? hd
  · exact computed_floats op x y

theorem computed_integers (op : Operator) (a b : Int64) : Computed (integers op a b) := by
  unfold integers
  split
  · exact .error id id
  · split
    · exact .ok rfl
    · exact computed_floats op _ _

/-- **Arithmetic** comes to a number or a text, or it complains about its operands. -/
theorem computed_arithmetic (op : Operator) (a b : Value) : Computed (arithmetic op a b) := by
  unfold arithmetic
  split
  · exact computed_integers op _ _
  · exact computed_floats op _ _
  · exact computed_mixed op _ _ _ _
  · exact computed_mixed op _ _ _ _
  · split
    · split
      · exact .ok rfl
      · exact .error id id
    · exact .error id id

theorem computed_isIn (a b : Value) : Computed (a.isIn b) := by
  unfold isIn
  split
  · exact .ok rfl
  · exact .error id id
  · exact .ok rfl
  · exact .error id id

theorem computed_isMatched (a b : Value) : Computed (a.isMatched b) := by
  unfold isMatched
  split
  · split
    · exact .ok rfl
    · exact .error id id
  · exact .error id id

end Value

end Parley
