import Parley.Token

/-!
# Syntax errors

What can be wrong with the text of an expression. Every error has a column; what is wrong
there is a `Complaint`, and the wording is in one place, `Complaint.message`.
-/

namespace Parley

namespace SyntaxError

/-- What the reader of an expression complains about. Where a complaint speaks of the next
token, that token's text is recorded, or nothing at the end of the input. -/
inductive Complaint where
  /-- A character that can start no token. -/
  | unexpectedCharacter (c : Char)
  /-- A double quote after which there is no other. -/
  | unterminatedString
  /-- A token of one particular kind was due. -/
  | expected (kind : TokenKind) (next : Option String)
  /-- A value was due. -/
  | expectedValue (next : Option String)
  /-- The expression is over, and a token follows. -/
  | trailing (lexeme : String)
deriving DecidableEq, Repr

/-- How the next token is named in a message. -/
def describeNext : Option String → String
  | some lexeme => "'" ++ lexeme ++ "'"
  | none => "end of input"

/-- The wording of a complaint. -/
def Complaint.message : Complaint → String
  | .unexpectedCharacter c => "Unexpected character '" ++ String.singleton c ++ "'"
  | .unterminatedString => "Unterminated string literal"
  | .expected kind next => "Expected " ++ kind.describe ++ ", got " ++ describeNext next
  | .expectedValue next => "Expected a value, got " ++ describeNext next
  | .trailing lexeme => "Unexpected token '" ++ lexeme ++ "' after expression"

end SyntaxError

/-- A complaint about the text of an expression, and the column it is about. -/
structure SyntaxError where
  complaint : SyntaxError.Complaint
  column : Nat
deriving DecidableEq, Repr

namespace SyntaxError

/-- The complaint in words. -/
def message (e : SyntaxError) : String :=
  e.complaint.message

/-- The line that is shown for an error. -/
def display (e : SyntaxError) : String :=
  "Syntax error at column " ++ toString e.column ++ ": " ++ e.message

/-- Several errors are shown one a line. -/
def displayAll (errors : List SyntaxError) : String :=
  "\n".intercalate (errors.map display)

end SyntaxError

end Parley
