import Parley.Token

/-!
# Arithmetic operators

The four operators of arithmetic. Which one applies is decided by the kind of the operator's
token and not by the level it stands at.
-/

namespace Parley

/-- An operator of arithmetic. -/
inductive Operator where
  | add
  | subtract
  | multiply
  | divide
deriving DecidableEq, Repr

namespace Operator

/-- The operator that a kind of token stands for. -/
def ofKind? : TokenKind → Option Operator
  | .plus => some add
  | .minus => some subtract
  | .star => some multiply
  | .slash => some divide
  | _ => none

/-- What an operator does, in a message. -/
def verb : Operator → String
  | add => "add"
  | subtract => "subtract"
  | multiply => "multiply"
  | divide => "divide"

end Operator

end Parley
