import Parley.Expr
import Parley.Token.Lexer

/-!
# From tokens to expressions

A recursive-descent reader. Each step takes the tokens that are left and answers with a
`Parsed`: what it read, the errors it met, and the tokens behind. It never gives up: where a
token is due that is not there, a *missing* token of no width takes its place, and where a
value is due, `Term.missing`; each of these placeholders comes with exactly one error.

Two rules keep one mistake from causing many complaints:

* a token that cannot start a value is dropped, unless it closes something or separates two
  values: then it is left for the rule that may be waiting for it;
* what follows a complete expression is reported once and not looked at.

The steps call one another without taking a token at most as often as there are levels of
operators, so a budget of `budget ts` steps is enough for the tokens `ts`; the functions
below carry it as their first argument, and `Parser.expression` hides it.
-/

namespace Parley

/-- What a step of the reader answers: what it read, the errors it met, and the tokens that
follow. -/
structure Parsed (α : Type) where
  value : α
  errors : List SyntaxError
  rest : List Token

namespace Parsed

/-- The same answer, to be used for a larger piece. -/
def map {α β : Type} (f : α → β) (p : Parsed α) : Parsed β :=
  ⟨f p.value, p.errors, p.rest⟩

/-- One step after another: the errors of the first come first. -/
def andThen {α β : Type} (p : Parsed α) (next : α → List Token → Parsed β) : Parsed β :=
  let q := next p.value p.rest
  ⟨q.value, p.errors ++ q.errors, q.rest⟩

theorem errors_andThen {α β : Type} (p : Parsed α) (next : α → List Token → Parsed β) :
    (p.andThen next).errors = p.errors ++ (next p.value p.rest).errors := rfl

end Parsed

namespace Parser

/-- The column of the next token; behind the last one it is `stop`. -/
def nextColumn (stop : Nat) (ts : List Token) : Nat :=
  match ts with
  | [] => stop
  | t :: _ => t.column

/-- Takes the token of one kind that is due here. If it is not there, nothing is taken, and
a missing token stands in for it. -/
def expect (stop : Nat) (kind : TokenKind) (ts : List Token) : Parsed Token :=
  match ts with
  | t :: rest =>
    if t.kind = kind then ⟨t, [], rest⟩
    else ⟨.missing kind t.column, [⟨.expected kind (some t.lexeme), t.column⟩], ts⟩
  | [] => ⟨.missing kind stop, [⟨.expected kind none, stop⟩], []⟩

/-- Tokens that may end the rule a missing value is part of: they are left in place. -/
def isCloser : TokenKind → Bool
  | .rightParen => true
  | .rightBracket => true
  | .comma => true
  | _ => false

/-- A value is due and the next token starts none. -/
def missingValue (stop : Nat) (ts : List Token) : Parsed Term :=
  match ts with
  | [] => ⟨.missing stop, [⟨.expectedValue none, stop⟩], []⟩
  | t :: rest =>
    ⟨.missing t.column, [⟨.expectedValue (some t.lexeme), t.column⟩],
      if isCloser t.kind then ts else rest⟩

mutual

/-- An expression all of whose operators outside brackets bind at `level` or tighter. -/
def level (stop : Nat) : Nat → Level → List Token → Parsed Expr
  | 0, _, ts => (missingValue stop ts).map .term
  | fuel + 1, l, ts =>
    (operand stop fuel l ts).andThen fun left rest => chain stop fuel l left rest

/-- An operand of the operators of a level. -/
def operand (stop : Nat) : Nat → Level → List Token → Parsed Expr
  | 0, _, ts => (missingValue stop ts).map .term
  | fuel + 1, l, ts =>
    match l.tighter? with
    | some tighter => level stop fuel tighter ts
    | none => negation stop fuel ts

/-- What follows the operand `left` of a level: any number of operators with their right
operands, or at most one where the level does not repeat. -/
def chain (stop : Nat) : Nat → Level → Expr → List Token → Parsed Expr
  | 0, _, left, ts => ⟨left, [], ts⟩
  | fuel + 1, l, left, ts =>
    match ts with
    | op :: rest =>
      if l.accepts op.kind then
        (operand stop fuel l rest).andThen fun right rest =>
          if l.repeats then chain stop fuel l (.binary l left op right) rest
          else ⟨.binary l left op right, [], rest⟩
      else ⟨left, [], ts⟩
    | [] => ⟨left, [], []⟩

/-- A term with any number of `not` in front. -/
def negation (stop : Nat) : Nat → List Token → Parsed Expr
  | 0, ts => (missingValue stop ts).map .term
  | fuel + 1, ts =>
    match ts with
    | t :: rest =>
      if t.kind = .keywordNot then (negation stop fuel rest).map (.negation t)
      else (term stop fuel ts).map .term
    | [] => (term stop fuel ts).map .term

/-- A term. -/
def term (stop : Nat) : Nat → List Token → Parsed Term
  | 0, ts => missingValue stop ts
  | fuel + 1, ts =>
    match ts with
    | t :: rest =>
      match t.kind with
      | .string => ⟨.string t, [], rest⟩
      | .number => ⟨.number t, [], rest⟩
      | .keywordTrue => ⟨.boolean t, [], rest⟩
      | .keywordFalse => ⟨.boolean t, [], rest⟩
      | .identifier => (links stop fuel rest).map (.path t)
      | .leftBracket =>
        (list stop fuel .rightBracket rest).andThen fun elements rest =>
          (expect stop .rightBracket rest).map (.array t elements)
      | .leftParen =>
        (level stop fuel .disjunction rest).andThen fun inner rest =>
          (expect stop .rightParen rest).map (.group t inner)
      | _ => missingValue stop ts
    | [] => missingValue stop ts

/-- Terms separated by commas, up to the token that closes the list, which is not taken. -/
def list (stop : Nat) : Nat → TokenKind → List Token → Parsed (List Term)
  | 0, _, ts => ⟨[], [], ts⟩
  | fuel + 1, close, ts =>
    if (ts.head?.map Token.kind) = some close then ⟨[], [], ts⟩
    else
      (term stop fuel ts).andThen fun first rest =>
        (more stop fuel rest).map (first :: ·)

/-- The further terms of a list, each behind a comma. -/
def more (stop : Nat) : Nat → List Token → Parsed (List Term)
  | 0, ts => ⟨[], [], ts⟩
  | fuel + 1, ts =>
    match ts with
    | t :: rest =>
      if t.kind = .comma then
        (term stop fuel rest).andThen fun next rest =>
          (more stop fuel rest).map (next :: ·)
      else ⟨[], [], ts⟩
    | [] => ⟨[], [], []⟩

/-- The links behind a name. -/
def links (stop : Nat) : Nat → List Token → Parsed (List Link)
  | 0, ts => ⟨[], [], ts⟩
  | fuel + 1, ts =>
    match ts with
    | t :: rest =>
      match t.kind with
      | .period =>
        (expect stop .identifier rest).andThen fun name rest =>
          (links stop fuel rest).map (.entry t name :: ·)
      | .leftBracket =>
        (term stop fuel rest).andThen fun index rest =>
          (expect stop .rightBracket rest).andThen fun closing rest =>
            (links stop fuel rest).map (.item t index closing :: ·)
      | .leftParen =>
        (list stop fuel .rightParen rest).andThen fun arguments rest =>
          (expect stop .rightParen rest).andThen fun closing rest =>
            (links stop fuel rest).map (.call t arguments closing :: ·)
      | _ => ⟨[], [], ts⟩
    | [] => ⟨[], [], []⟩

end

/-- Steps that are enough to read an expression from the tokens: between two tokens the
reader descends at most once through the six levels, each in two steps, to a negation, a
term and a list. -/
def budget (ts : List Token) : Nat :=
  16 * (ts.length + 1)

/-- The column just past the last token, or the first column if there is none. -/
def endColumn (ts : List Token) : Nat :=
  match ts.getLast? with
  | some t => t.column + t.width
  | none => 1

/-- An expression at the front of the tokens. -/
def expression (ts : List Token) : Parsed Expr :=
  level (endColumn ts) (budget ts) .disjunction ts

end Parser

/-- A tree together with every error found while it was read. A tree that comes with errors
holds placeholders. -/
structure Reading where
  tree : Expr
  errors : List SyntaxError

namespace Reading

/-- Reads all the tokens as one expression; the first token behind it is an error. -/
def ofTokens (ts : List Token) : Reading :=
  let p := Parser.expression ts
  match p.rest with
  | [] => ⟨p.value, p.errors⟩
  | t :: _ => ⟨p.value, p.errors ++ [⟨.trailing t.lexeme, t.column⟩]⟩

theorem tree_ofTokens (ts : List Token) : (ofTokens ts).tree = (Parser.expression ts).value := by
  rw [ofTokens]
  cases (Parser.expression ts).rest with
  | nil => rfl
  | cons t rest => rfl

/-- The errors are those met in the expression, and one more if a token is left over. -/
theorem errors_ofTokens (ts : List Token) : (ofTokens ts).errors = (Parser.expression ts).errors ++
    ((Parser.expression ts).rest.head?.map fun t => ⟨.trailing t.lexeme, t.column⟩).toList := by
  rw [ofTokens]
  cases (Parser.expression ts).rest with
  | nil => exact (List.append_nil _).symm
  | cons t rest => rfl

/-- The tree, unless there was an error. -/
def checked (r : Reading) : Except (List SyntaxError) Expr :=
  if r.errors.isEmpty then .ok r.tree else .error r.errors

end Reading

/-- The errors of both lists by column, where those of the first come before those of the
second at the same column and each list keeps its own order. -/
def sortByColumn (errors : List SyntaxError) : List SyntaxError :=
  errors.mergeSort fun a b => a.column ≤ b.column

/-- The expression that a source spells, or what is wrong with it: the errors of the lexer
and those met while reading the tokens it could make out, in the order of their columns. -/
def parse (source : String) : Except (List SyntaxError) Expr :=
  let lexed := tokenize source
  let reading := Reading.ofTokens lexed.tokens
  if lexed.errors.isEmpty then reading.checked
  else .error (sortByColumn (lexed.errors ++ reading.errors))

end Parley
