import Parley.Expr
import Parley.Value.Arithmetic
import Parley.Value.Object
import Parley.Value.Search

/-!
# Evaluation

Evaluating an expression in a context, which is an object. Operands, items, links and
arguments are evaluated in the order in which they stand in the source, and all of them are:
`and` and `or` do not stop when their answer is settled. The first error ends the evaluation.

Index and argument terms are evaluated in the context as a whole, whatever value the chain
they belong to has reached.

What functions answer is not known here. A `Host` answers calls, with a state of its own, and
the evaluation keeps a record of the calls it has made, in order.
-/

namespace Parley

/-- Who answers the calls of functions, changing a state on the way. -/
structure Host (σ : Type) where
  call : Callable → List Value → σ → Except CallError Value × σ

/-- A call that was made: where its opening bracket stands, the function, and the
arguments. -/
structure Call where
  column : Nat
  callee : Callable
  arguments : List Value

/-- What an evaluation carries along: the state of the host, and the calls made so far. -/
structure Run (σ : Type) where
  state : σ
  calls : List Call

/-- A computation in the course of an evaluation. When it ends with an error, what has been
done up to then stays done. -/
abbrev Eval (σ : Type) := EStateM EvalError (Run σ)

namespace Eval

variable {σ : Type}

/-- Ends the evaluation with a complaint at a column, or goes on. -/
def orComplain {α : Type} (column : Nat) : Except EvalError.Complaint α → Eval σ α
  | .ok a => pure a
  | .error c => throw (.illegalState c column)

/-- Calls a function, and records that. -/
def invoke (host : Host σ) (column : Nat) (callee : Callable) (arguments : List Value) :
    Eval σ Value := do
  let run ← get
  let (answer, state) := host.call callee arguments run.state
  set (⟨state, run.calls ++ [⟨column, callee, arguments⟩]⟩ : Run σ)
  match answer with
  | .ok v => return v
  | .error e => throw (e.at column)

/-- The number that a token spells: a whole one where 64 bits can hold it. -/
def number (t : Token) : Except EvalError.Complaint Value :=
  match Numeral.whole? t.lexeme.toList with
  | some n => .ok (.integer n)
  | none =>
    match Numeral.float? t.lexeme.toList with
    | some x => .ok (.float x)
    | none => .error (.invalidNumber t.lexeme)

/-- The truth value that a token spells. -/
def truth (t : Token) : Bool :=
  t.kind == .keywordTrue || t.lexeme.toList.map Char.toLower == "true".toList

/-- Applies the operator of a level. -/
def operate (level : Level) (op : Token) (left right : Value) : Except EvalError.Complaint Value :=
  match level with
  | .disjunction => .ok (.boolean (left.truthy || right.truthy))
  | .conjunction => .ok (.boolean (left.truthy && right.truthy))
  | .membership => left.isIn right
  | .matching => left.isMatched right
  | .sum | .product =>
    match Operator.ofKind? op.kind with
    | some o => Value.arithmetic o left right
    | none => .error (.notArithmetic op.lexeme)

/-- The value under a name in an object, or the error that it is not there. -/
def lookup (entries : Object) (name : Token) : Eval σ Value :=
  match Object.get? name.lexeme entries with
  | some v => pure v
  | none => throw (.unknownKey name.lexeme name.column)

/-- The entry of a value; only objects have any. -/
def entry (v : Value) (name : Token) : Eval σ Value :=
  match v with
  | .object entries => lookup entries name
  | _ => throw (.unknownKey name.lexeme name.column)

/-- The item of an array at an index, where the link begins at a column. -/
def item (column : Nat) (v index : Value) : Eval σ Value :=
  match v with
  | .array items =>
    match index.integer? with
    | none => throw (.illegalState (.indexNotWhole index.type) column)
    | some i =>
      match if 0 ≤ i.toInt then items[i.toInt.toNat]? else none with
      | some v => pure v
      | none => throw (.outOfBounds i items.length column)
  | _ => throw (.illegalState (.notIndexable v.type) column)

/-- The function that a value is, where the link begins at a column. -/
def callee (column : Nat) (v : Value) : Eval σ Callable :=
  match v with
  | .function f => pure f
  | _ => throw (.illegalState (.notCallable v.type) column)

mutual

/-- The value of an expression. -/
def expr (host : Host σ) (context : Object) : Expr → Eval σ Value
  | .term t => term host context t
  | .negation _ operand => do
    let v ← expr host context operand
    return .boolean (!v.truthy)
  | .binary level left op right => do
    let l ← expr host context left
    let r ← expr host context right
    orComplain op.column (operate level op l r)

/-- The value of a term. -/
def term (host : Host σ) (context : Object) : Term → Eval σ Value
  | .string t => return .string t.content
  | .number t => orComplain t.column (number t)
  | .boolean t => return .boolean (truth t)
  | .array _ elements _ => return .array (← terms host context elements)
  | .group _ inner _ => expr host context inner
  | .path head chain => do
    let v ← lookup context head
    links host context v chain
  | .missing column => throw (.illegalState .incomplete column)

/-- The values of terms, in order. -/
def terms (host : Host σ) (context : Object) : List Term → Eval σ (List Value)
  | [] => return []
  | t :: ts => do
    let v ← term host context t
    let vs ← terms host context ts
    return v :: vs

/-- The value that a link leads to. -/
def link (host : Host σ) (context : Object) (v : Value) : Link → Eval σ Value
  | .entry _ name => entry v name
  | .item opening index _ => do
    let i ← term host context index
    item opening.column v i
  | .call opening arguments _ => do
    let f ← callee opening.column v
    let args ← terms host context arguments
    invoke host opening.column f args

/-- The value that a chain of links leads to. -/
def links (host : Host σ) (context : Object) (v : Value) : List Link → Eval σ Value
  | [] => return v
  | l :: ls => do
    let v ← link host context v l
    links host context v ls

end

end Eval

/-- **Evaluates** an expression in a context: to a value, or to the first error that is met
on the way. -/
def Expr.evaluate {σ : Type} (host : Host σ) (context : Object) (e : Expr) :
    StateM (Run σ) (Except EvalError Value) := fun run =>
  match Eval.expr host context e run with
  | .ok v run => (.ok v, run)
  | .error err run => (.error err, run)

end Parley
