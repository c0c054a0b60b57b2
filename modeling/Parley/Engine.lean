import Parley.Expr.Parser
import Parley.Template
import Parley.Vocabulary

/-!
# Engines

An engine holds the layers of a context and evaluates expressions and templates in it. The
first layer is the stock vocabulary, the second one the invocation; further ones are
registered and win over these.

There are two ways to evaluate. `tryEvaluate` tells what has gone wrong; `evaluate` always
has a value, which in case of an error is a text for chat. Of errors in the syntax and of
functions that failed unexpectedly this text tells no details.
-/

namespace Parley

/-- Why an evaluation has no value. -/
inductive Failure where
  | badSyntax (errors : List SyntaxError)
  | evaluation (e : EvalError)
deriving DecidableEq, Repr

/-- The text that is shown in chat in place of a value. -/
def Failure.chatText : Failure → String
  | badSyntax _ => "Could not evaluate expression"
  | evaluation (.failed _ _) => "An unexpected error occurred while evaluating the expression"
  | evaluation e => e.display

/-- The layers of a context. -/
structure Engine where
  layers : List Layer

namespace Engine

/-- The engine for settings, set up when the clock had a reading. -/
def new (settings : Settings) (started : Nat) : Engine :=
  ⟨[.fixed (Vocabulary.entries settings started), .invocation]⟩

/-- The engine with a further layer. -/
def register (engine : Engine) (resolve : Value → Object) : Engine :=
  ⟨engine.layers ++ [.resolver resolve]⟩

/-- The context for an invocation. -/
def contextFor (engine : Engine) (invocation : Value) : Object :=
  assemble engine.layers invocation

variable {σ : Type}

/-- Evaluates a source. One with errors in its syntax is not evaluated at all. -/
def tryEvaluate (engine : Engine) (host : Host σ) (invocation : Value) (source : String) :
    StateM (Run σ) (Except Failure Value) :=
  match parse source with
  | .error errors => return .error (.badSyntax errors)
  | .ok tree => do
    match ← tree.evaluate host (engine.contextFor invocation) with
    | .ok v => return .ok v
    | .error e => return .error (.evaluation e)

/-- Evaluates a source to a value for chat, in case of an error to a text about it. -/
def evaluate (engine : Engine) (host : Host σ) (invocation : Value) (source : String) :
    StateM (Run σ) Value := do
  match ← engine.tryEvaluate host invocation source with
  | .ok v => return v
  | .error failure => return .string failure.chatText

/-- The text of segments, whose expressions are evaluated one after another. -/
def renderSegments (engine : Engine) (host : Host σ) (invocation : Value) :
    List Segment → StateM (Run σ) String
  | [] => return ""
  | .text s :: rest => do
    let tail ← engine.renderSegments host invocation rest
    return String.ofList s ++ tail
  | .expression source :: rest => do
    let v ← engine.evaluate host invocation (String.ofList source)
    let tail ← engine.renderSegments host invocation rest
    return v.text ++ tail

/-- **Renders** a template: every expression in it gives way to the text of its value. -/
def render (engine : Engine) (host : Host σ) (invocation : Value) (template : String) :
    StateM (Run σ) String :=
  engine.renderSegments host invocation (splitTemplate template)

end Engine

end Parley
