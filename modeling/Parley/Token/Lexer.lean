import Parley.SyntaxError
import Parley.Text.Blank

/-!
# From text to tokens

The lexer cuts a source into *items*: tokens, and single characters that start no token.
It never gives up. Blanks between items are skipped, and an item always takes at least one
character, so that the walk along the source ends.

* a punctuation character is a token of its own;
* a double quote starts a string literal, which runs to the next double quote; a quote
  without a later one is an error of width one, and reading goes on behind it;
* an ASCII letter or underscore starts a word, which is read to its end before it is looked
  up among the keywords;
* an ASCII digit starts a number, which is a run of digits.

An item never gives characters back (`Parley.Lexer.scan_rest_le`), which is what makes
`Parley.Lexer.items` end.
-/

namespace Parley

/-- A piece of the source: a token, or a character that starts none. -/
inductive Item where
  | token (t : Token)
  | error (e : SyntaxError)
deriving DecidableEq, Repr

namespace Item

/-- The number of characters an item takes; an error takes one. -/
def width : Item → Nat
  | token t => t.width
  | error _ => 1

/-- The column where an item starts. -/
def column : Item → Nat
  | token t => t.column
  | error e => e.column

/-- The token of an item, if it is one. -/
def token? : Item → Option Token
  | token t => some t
  | error _ => none

/-- The error of an item, if it is one. -/
def error? : Item → Option SyntaxError
  | token _ => none
  | error e => some e

end Item

namespace Lexer

/-- The characters that may start a word. -/
def startsWord (c : Char) : Bool :=
  c.isAlpha || c == '_'

/-- The characters that continue a word. -/
def continuesWord (c : Char) : Bool :=
  c.isAlphanum || c == '_'

/-- The kind of a word: its letters are compared with the keywords in lower case. -/
def wordKind (word : List Char) : TokenKind :=
  .ofWord (String.ofList (word.map Char.toLower))

/-- The item that starts with the character `c` at a column, and the characters behind it.
Blanks have been skipped before. -/
def scan (column : Nat) (c : Char) (cs : List Char) : Item × List Char :=
  match TokenKind.ofPunctuation? c with
  | some kind => (.token ⟨kind, String.singleton c, column⟩, cs)
  | none =>
    if c == '\"' then
      match cs.dropWhile (· != '\"') with
      | [] => (.error ⟨.unterminatedString, column⟩, cs)
      | close :: rest =>
        (.token ⟨.string, String.ofList (c :: (cs.takeWhile (· != '\"') ++ [close])), column⟩, rest)
    else if c.isDigit then
      (.token ⟨.number, String.ofList (c :: cs.takeWhile Char.isDigit), column⟩,
        cs.dropWhile Char.isDigit)
    else if startsWord c then
      let word := c :: cs.takeWhile continuesWord
      (.token ⟨wordKind word, String.ofList word, column⟩, cs.dropWhile continuesWord)
    else (.error ⟨.unexpectedCharacter c, column⟩, cs)

/-- What is left of a list after the characters of a class are dropped, is no longer. -/
theorem length_dropWhile_le (p : Char → Bool) (cs : List Char) :
    (cs.dropWhile p).length ≤ cs.length :=
  (List.dropWhile_sublist p).length_le

/-- An item gives no characters back. -/
theorem scan_rest_le (column : Nat) (c : Char) (cs : List Char) :
    (scan column c cs).2.length ≤ cs.length := by
  unfold scan
  split
  · exact Nat.le_refl _
  · split
    · split
      · exact Nat.le_refl _
      · rename_i h
        have := length_dropWhile_le (· != '\"') cs
        rw [h] at this
        exact Nat.le_trans (Nat.le_succ _) this
    · split
      · exact length_dropWhile_le _ _
      · split
        · exact length_dropWhile_le _ _
        · exact Nat.le_refl _

/-- The items of the characters that start at a column. -/
def items (column : Nat) : List Char → List Item
  | [] => []
  | c :: cs =>
    if isBlank c then items (column + 1) cs
    else
      let item := (scan column c cs).1
      item :: items (column + item.width) (scan column c cs).2
termination_by cs => cs.length
decreasing_by
  · simp
  · have := scan_rest_le column c cs
    simp only [List.length_cons]
    omega

end Lexer

/-- The outcome of reading a source: its tokens, and the characters that are part of none. -/
structure Tokens where
  tokens : List Token
  errors : List SyntaxError
deriving DecidableEq, Repr

/-- The items of a source, in order. -/
def itemsOf (source : String) : List Item :=
  Lexer.items 1 source.toList

/-- The tokens of a source and the errors met on the way. -/
def tokenize (source : String) : Tokens :=
  ⟨(itemsOf source).filterMap Item.token?, (itemsOf source).filterMap Item.error?⟩

end Parley
