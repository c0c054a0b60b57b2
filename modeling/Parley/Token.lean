/-!
# Tokens

The words of the expression language. A `Token` carries its `TokenKind`, the text it was
read from and the column where that text starts, counted in code points from one.

There are no tokens for negative or decimal numbers: a minus sign and a period are tokens
of their own. Keywords are recognised whatever the case of their letters, and only as whole
words, so that `index` stays an identifier.
-/

namespace Parley

/-- The category of a token. -/
inductive TokenKind where
  /-- A literal between double quotes, taken verbatim. -/
  | string
  /-- A run of ASCII digits. -/
  | number
  | keywordTrue
  | keywordFalse
  /-- A name to be looked up in the context. -/
  | identifier
  | keywordIn
  | keywordNot
  | keywordAnd
  | keywordOr
  | keywordMatches
  | plus
  | minus
  | star
  | slash
  | leftParen
  | rightParen
  | leftBracket
  | rightBracket
  | comma
  | period
deriving DecidableEq, Repr

namespace TokenKind

/-- How a kind is named in messages: quoted where its tokens have one spelling. -/
def describe : TokenKind → String
  | string => "string"
  | number => "number"
  | keywordTrue => "'true'"
  | keywordFalse => "'false'"
  | identifier => "identifier"
  | keywordIn => "'in'"
  | keywordNot => "'not'"
  | keywordAnd => "'and'"
  | keywordOr => "'or'"
  | keywordMatches => "'matches'"
  | plus => "'+'"
  | minus => "'-'"
  | star => "'*'"
  | slash => "'/'"
  | leftParen => "'('"
  | rightParen => "')'"
  | leftBracket => "'['"
  | rightBracket => "']'"
  | comma => "','"
  | period => "'.'"

/-- Every kind, in the order of its declaration. -/
def all : List TokenKind :=
  [string, number, keywordTrue, keywordFalse, identifier, keywordIn, keywordNot, keywordAnd,
   keywordOr, keywordMatches, plus, minus, star, slash, leftParen, rightParen, leftBracket,
   rightBracket, comma, period]

/-- The kind with a given description, if there is one. -/
def ofDescription? (text : String) : Option TokenKind :=
  all.find? fun kind => kind.describe == text

/-- The kind of a word that is spelled, in lower case, like a keyword; any other word is an
identifier. -/
def ofWord (lowered : String) : TokenKind :=
  match lowered with
  | "in" => keywordIn
  | "not" => keywordNot
  | "and" => keywordAnd
  | "or" => keywordOr
  | "matches" => keywordMatches
  | "true" => keywordTrue
  | "false" => keywordFalse
  | _ => identifier

/-- The kind of a token that is one punctuation character, if the character is one. -/
def ofPunctuation? : Char → Option TokenKind
  | '(' => some leftParen
  | ')' => some rightParen
  | '[' => some leftBracket
  | ']' => some rightBracket
  | ',' => some comma
  | '.' => some period
  | '+' => some plus
  | '-' => some minus
  | '*' => some star
  | '/' => some slash
  | _ => none

end TokenKind

/-- A word of the language: its kind, the text it was read from, and the column of its first
character. -/
structure Token where
  kind : TokenKind
  lexeme : String
  column : Nat
deriving DecidableEq, Repr

namespace Token

/-- The token that stands in for one of `kind` that the source lacks: it has no text. -/
def missing (kind : TokenKind) (column : Nat) : Token :=
  ⟨kind, "", column⟩

/-- The number of characters the token takes. -/
def width (t : Token) : Nat :=
  t.lexeme.length

/-- The characters of a text without a quote at the front and then one at the end; a text
that has not both is kept whole. -/
def unquote (cs : List Char) : List Char :=
  match cs with
  | '\"' :: inner =>
    match inner.reverse with
    | '\"' :: reversed => reversed.reverse
    | _ => cs
  | _ => cs

/-- What a string literal stands for: its text without the surrounding quotes. -/
def content (t : Token) : String :=
  String.ofList (unquote t.lexeme.toList)

end Token

end Parley
