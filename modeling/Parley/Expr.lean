import Parley.Token

/-!
# Expressions

The tree of an expression. It keeps every token it was read from but the commas of its lists, so
that an error met while evaluating can point at a column.

Binary operators come in six *levels*, from the loosest to the tightest:

    or    and    + -    * /    in    matches

The first four may be repeated and then group to the left; `in` and `matches` take exactly
two operands. Tighter than all of them is `not`, and tighter still are the *terms*: literals,
arrays, names followed by a chain of links, and expressions in parentheses. The elements of
an array, the index of a link and the arguments of a call are terms, so an operator inside
them needs parentheses.
-/

namespace Parley

/-- The levels of the binary operators, from the loosest to the tightest. -/
inductive Level where
  | disjunction
  | conjunction
  | sum
  | product
  | membership
  | matching
deriving DecidableEq, Repr

namespace Level

/-- The next tighter level; the operands of the tightest one are negations. -/
def tighter? : Level → Option Level
  | disjunction => some conjunction
  | conjunction => some sum
  | sum => some product
  | product => some membership
  | membership => some matching
  | matching => none

/-- The number of levels that are tighter. -/
def rank : Level → Nat
  | disjunction => 5
  | conjunction => 4
  | sum => 3
  | product => 2
  | membership => 1
  | matching => 0

/-- The kinds of token that are an operator of the level. -/
def accepts : Level → TokenKind → Bool
  | disjunction, kind => kind == .keywordOr
  | conjunction, kind => kind == .keywordAnd
  | sum, kind => kind == .plus || kind == .minus
  | product, kind => kind == .star || kind == .slash
  | membership, kind => kind == .keywordIn
  | matching, kind => kind == .keywordMatches

/-- Whether an operator of the level may follow another one: `a in b in c` may not. -/
def repeats : Level → Bool
  | membership => false
  | matching => false
  | _ => true

/-- **The levels are told apart by their operators.** -/
theorem eq_of_accepts {l m : Level} {kind : TokenKind} (hl : l.accepts kind = true)
    (hm : m.accepts kind = true) : l = m := by
  cases l <;> cases m <;> cases kind <;> simp_all [accepts]

end Level

mutual

/-- An expression: a term, a negation, or two expressions joined by an operator. -/
inductive Expr where
  | term (t : Term)
  | negation (keyword : Token) (operand : Expr)
  | binary (level : Level) (left : Expr) (operator : Token) (right : Expr)

/-- A value as it stands in the source. -/
inductive Term where
  /-- A string literal. -/
  | string (t : Token)
  | number (t : Token)
  /-- `true` or `false`. -/
  | boolean (t : Token)
  | array (opening : Token) (elements : List Term) (closing : Token)
  /-- An expression in parentheses. -/
  | group (opening : Token) (inner : Expr) (closing : Token)
  /-- A name and the links that lead on from its value. -/
  | path (head : Token) (links : List Link)
  /-- The place of a value that the source lacks; it is never evaluated unless the errors of
  the source are passed over. -/
  | missing (column : Nat)

/-- A step from one value to the next. -/
inductive Link where
  /-- The entry of an object: `.name`. -/
  | entry (period : Token) (name : Token)
  /-- The item of an array: `[index]`. -/
  | item (opening : Token) (index : Term) (closing : Token)
  /-- The answer of a function: `(arguments)`. -/
  | call (opening : Token) (arguments : List Term) (closing : Token)

end

namespace Term

/-- The column of a term is that of its first token. -/
def column : Term → Nat
  | string t => t.column
  | number t => t.column
  | boolean t => t.column
  | array opening _ _ => opening.column
  | group opening _ _ => opening.column
  | path head _ => head.column
  | missing column => column

end Term

end Parley
