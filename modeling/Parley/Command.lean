import Parley.Engine

/-!
# Commands

What the command line offers: to evaluate an expression or render a template in a context
that is given as a JSON document, to check the syntax of an expression, and to list its
tokens.
-/

namespace Parley

/-- Why a command has no answer. -/
inductive CommandError where
  | badSyntax (errors : List SyntaxError)
  | evaluation (e : EvalError)
  | badContext
deriving DecidableEq, Repr

namespace CommandError

/-- What is shown for an error. What exactly is wrong with a document is not told. -/
def message : CommandError → String
  | badSyntax errors => SyntaxError.displayAll errors
  | evaluation e => "Evaluation error: " ++ e.display
  | badContext => "Invalid JSON context: *"

/-- The error of a command whose expression has no value. -/
def ofFailure : Failure → CommandError
  | .badSyntax errors => .badSyntax errors
  | .evaluation e => .evaluation e

end CommandError

/-- How the value of an expression is shown. -/
inductive Form where
  | text
  | compact
  | pretty
deriving DecidableEq, Repr

/-- The text of a value in a form. -/
def Form.spell : Form → Value → String
  | text, v => v.text
  | compact, v => v.toJson.compact
  | pretty, v => v.toJson.pretty

/-- What the command line can be asked for. -/
inductive Command where
  | evaluate (expression : String) (context : Option String) (form : Form)
  | render (template : String) (context : Option String)
  | check (expression : String)
  | tokens (expression : String)
deriving DecidableEq, Repr

namespace Command

/-- Reads the invocation from a document. No document, or a blank one, is an empty object. -/
def readContext : Option String → Except CommandError Value
  | none => .ok (.object [])
  | some text =>
    if text.toList.all isBlank then .ok (.object [])
    else
      match Json.parse? text with
      | some document => .ok (.ofJson document)
      | none => .error .badContext

/-- The text with blanks in front of it, to fill a column. -/
def padLeft (width : Nat) (s : String) : String :=
  String.ofList (List.replicate (width - s.length) ' ') ++ s

/-- The text with blanks behind it, to fill a column. -/
def padRight (width : Nat) (s : String) : String :=
  s ++ String.ofList (List.replicate (width - s.length) ' ')

/-- The line that is shown for a token. -/
def tokenLine (t : Token) : String :=
  padLeft 4 (toString t.column) ++ " " ++ padRight 12 t.kind.describe ++ " " ++ t.lexeme

/-- The lines for the tokens of an expression, if it is made of tokens throughout. -/
def listTokens (expression : String) : Except CommandError (List String) :=
  let reading := tokenize expression
  if reading.errors.isEmpty then .ok (reading.tokens.map tokenLine)
  else .error (.badSyntax reading.errors)

/-- Checks the syntax of an expression. -/
def checkSyntax (expression : String) : Except CommandError Unit :=
  match parse expression with
  | .ok _ => .ok ()
  | .error errors => .error (.badSyntax errors)

/-- Whether a command wants a context and none is given: it is then read from the input. -/
def wantsInput : Command → Bool
  | evaluate _ none _ => true
  | render _ none => true
  | _ => false

/-- The command with the input for its context, if it wants one. -/
def withInput (input : String) : Command → Command
  | evaluate expression none form => evaluate expression (some input) form
  | render template none => render template (some input)
  | command => command

/-- **The lines that a command prints**, or what is wrong. -/
def answer {σ : Type} (engine : Engine) (host : Host σ) :
    Command → StateM (Run σ) (Except CommandError (List String))
  | evaluate expression context form =>
    match readContext context with
    | .error e => return .error e
    | .ok invocation => do
      match ← engine.tryEvaluate host invocation expression with
      | .ok v => return .ok [form.spell v]
      | .error failure => return .error (.ofFailure failure)
  | render template context =>
    match readContext context with
    | .error e => return .error e
    | .ok invocation => do
      let text ← engine.render host invocation template
      return .ok [text]
  | check expression => return (checkSyntax expression).map fun _ => ["Syntax is valid"]
  | tokens expression => return listTokens expression

end Command

/-- What is left of a program when it has ended. -/
structure Report where
  status : Nat
  output : String
  complaint : String
deriving DecidableEq, Repr

namespace Report

/-- Several lines as one text. -/
def lines (ls : List String) : String :=
  String.join (ls.map (· ++ "\n"))

/-- The report on a command. -/
def ofAnswer : Except CommandError (List String) → Report
  | .ok ls => ⟨0, lines ls, ""⟩
  | .error e => ⟨1, "", lines [e.message]⟩

end Report

end Parley
