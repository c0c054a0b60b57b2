import Parley.Operator
import Parley.Value

/-!
# Errors of an evaluation

What can go wrong while an expression is evaluated, with the column of the token that is to
blame. There are four classes of error, which are shown in different ways:

* a name that is not there;
* an index outside of an array;
* a value that an operator or link has no use for, with a `Complaint` that says why;
* a function that failed unexpectedly; its message is not meant for chat.

The wording is in `Complaint.message` and `EvalError.display`.
-/

namespace Parley

namespace EvalError

/-- Why a value is refused. -/
inductive Complaint where
  /-- The tree lacks a value here. -/
  | incomplete
  /-- A token in the place of an operator that is none of arithmetic. -/
  | notArithmetic (lexeme : String)
  /-- A number token that spells no number. -/
  | invalidNumber (lexeme : String)
  /-- Something other than a text was to be found in a text. -/
  | needsText (found : ValueType)
  /-- Something was to be found in what is neither a text nor an array. -/
  | needsContainer (found : ValueType)
  /-- Patterns are matched against texts. -/
  | needsTexts (left right : ValueType)
  | invalidPattern
  | notIndexable (found : ValueType)
  | indexNotWhole (found : ValueType)
  | notCallable (found : ValueType)
  /-- Operands that an operator of arithmetic has no use for. -/
  | mismatch (op : Operator) (left right : ValueType)
  | divisionByZero
  /-- A function has refused its arguments, in words of its own. -/
  | refused (message : String)
deriving DecidableEq, Repr

/-- The wording of a complaint. What exactly is wrong with a pattern is not told. -/
def Complaint.message : Complaint → String
  | incomplete => "Incomplete expression"
  | notArithmetic lexeme => "'" ++ lexeme ++ "' is not an arithmetic operator"
  | invalidNumber lexeme => "Invalid number '" ++ lexeme ++ "'"
  | needsText found =>
    "'in' needs a string on the left when the right is a string, got " ++ found.name
  | needsContainer found => "'in' needs a string or array on the right, got " ++ found.name
  | needsTexts left right =>
    "'matches' needs two strings, got " ++ left.name ++ " and " ++ right.name
  | invalidPattern => "Invalid pattern: *"
  | notIndexable found => "Cannot index into " ++ found.name
  | indexNotWhole found => "Array index must be a whole number, got " ++ found.name
  | notCallable found => found.name ++ " is not callable"
  | mismatch op left right =>
    "Cannot " ++ op.verb ++ " " ++ left.name ++ " and " ++ right.name
  | divisionByZero => "Division by zero"
  | refused message => message

end EvalError

/-- An error of an evaluation, and the column of the token that is to blame. -/
inductive EvalError where
  /-- A name that is not in the context, or not in the object it was looked up in. -/
  | unknownKey (key : String) (column : Nat)
  | outOfBounds (index : Int64) (length : Nat) (column : Nat)
  | illegalState (complaint : EvalError.Complaint) (column : Nat)
  /-- A function failed unexpectedly. -/
  | failed (message : String) (column : Nat)
deriving DecidableEq, Repr

namespace EvalError

/-- The column of an error. -/
def column : EvalError → Nat
  | unknownKey _ column => column
  | outOfBounds _ _ column => column
  | illegalState _ column => column
  | failed _ column => column

/-- The line that is shown for an error. -/
def display : EvalError → String
  | unknownKey key column => "Unknown key '" ++ key ++ "' at column " ++ toString column
  | outOfBounds index length column =>
    "Index " ++ toString index.toInt ++ " is out of bounds for an array of length " ++
      toString length ++ " at column " ++ toString column
  | illegalState complaint column => complaint.message ++ " at column " ++ toString column
  | failed message column => "Call failed at column " ++ toString column ++ ": " ++ message

end EvalError

/-- How a function refuses to answer. It does not know where it was called. -/
inductive CallError where
  /-- The arguments have the wrong shape. -/
  | illegalArgument (message : String)
  /-- Anything else. -/
  | failed (message : String)
deriving DecidableEq, Repr

/-- The error of a call at a column. -/
def CallError.at (column : Nat) : CallError → EvalError
  | illegalArgument message => .illegalState (.refused message) column
  | failed message => .failed message column

end Parley
