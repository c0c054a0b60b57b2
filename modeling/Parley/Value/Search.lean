import Parley.EvalError
import Parley.Pattern

/-!
# Containment and matching

The operators `in` and `matches` on values.
-/

namespace Parley

/-- Whether a list of characters occurs in another one. -/
def occursIn (needle : List Char) : List Char → Bool
  | [] => needle.isEmpty
  | c :: cs => needle.isPrefixOf (c :: cs) || occursIn needle cs

namespace Value

open EvalError (Complaint)

/-- Whether a value is contained in another one: a text in a text, or anything in an array
that has an item equal to it. -/
def isIn (left right : Value) : Except Complaint Value :=
  match left, right with
  | string needle, string text => .ok (.boolean (occursIn needle.toList text.toList))
  | _, string _ => .error (.needsText left.type)
  | _, array items => .ok (.boolean (items.any fun item => equal item left))
  | _, _ => .error (.needsContainer right.type)

/-- Whether a text is matched by a pattern. -/
def isMatched (left right : Value) : Except Complaint Value :=
  match left, right with
  | string text, string pattern =>
    match Pattern.compile? pattern.toList with
    | some p => .ok (.boolean (p.matchesIn text.toList))
    | none => .error .invalidPattern
  | _, _ => .error (.needsTexts left.type right.type)

end Value

end Parley
