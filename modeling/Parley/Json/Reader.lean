import Parley.Json
import Parley.Json.Quoted
import Parley.Number.Numeral

/-!
# Reading JSON

A reader of JSON documents that takes exactly the grammar of the format: no comments, no
comma at the end of a container, no zero in front of a number. Containers may be nested 127
deep. Of several members with one name the last counts.

Numbers without fraction and exponent stay whole while they are between the least whole
number of 64 bits and the greatest of 64 bits without a sign. Any other number becomes a
float: as many of its digits as 64 bits can hold are turned into a float, which is then
multiplied or divided by a power of ten. A number that is too large for a float is refused.
-/

namespace Parley

namespace Json

namespace Reader

/-- The blanks between the parts of a document. -/
def isSpace (c : Char) : Bool :=
  c == ' ' || c == '\n' || c == '\t' || c == '\r'

/-- The document without the blanks in front. -/
def skip (cs : List Char) : List Char :=
  cs.dropWhile isSpace

/-! ### Numbers -/

/-- Numbers of 64 bits without a sign are below this. -/
def wordLimit : Nat := 2 * Whole.bound

/-- Digits appended to a number as long as it fits 64 bits: the number, how many digits went
into it, and how many did not. -/
def absorb (n : Nat) : List Char → Nat × Nat × Nat
  | [] => (n, 0, 0)
  | c :: cs =>
    let m := 10 * n + Numeral.digitValue c
    if m < wordLimit then
      let (n, taken, left) := absorb m cs
      (n, taken + 1, left)
    else (n, 0, cs.length + 1)

/-- A float times a power of ten, one multiplication or division at a time; `none` when it
gets too large. -/
def scaled? (x : Float) (e : Int) : Option Float :=
  if e.natAbs ≤ 308 then
    let power := Float.ofScientific 1 false e.natAbs
    if 0 ≤ e then
      let y := x * power
      if y.isInf then none else some y
    else some (x / power)
  else if x == 0.0 then some x
  else if 0 ≤ e then none
  else scaled? (x / 1e308) (e + 308)
termination_by e.natAbs

/-- The float `± n * 10 ^ e`. -/
def float? (negative : Bool) (n : Nat) (e : Int) : Option Json :=
  (scaled? (Float.ofNat n) e).map fun x => .float (if negative then -x else x)

/-- The exponent behind the letter: an optional sign and at least one digit. -/
def exponent? (cs : List Char) : Option (Int × List Char) :=
  let (negative, rest) := Numeral.sign cs
  let digits := rest.takeWhile Char.isDigit
  if digits.isEmpty then none
  else some (Binary64.signed negative (Numeral.ofDigits 0 digits), rest.dropWhile Char.isDigit)

/-- What may follow the digits of a float: an exponent. -/
def float (negative : Bool) (n : Nat) (e : Int) (cs : List Char) : Option (Json × List Char) :=
  match cs with
  | c :: rest =>
    if c == 'e' || c == 'E' then do
      let (more, rest) ← exponent? rest
      return (← float? negative n (e + more), rest)
    else do return (← float? negative n e, cs)
  | [] => do return (← float? negative n e, [])

/-- A whole number; without a sign it may be larger. A negative zero is a float. -/
def integer (negative : Bool) (n : Nat) : Json :=
  if negative then
    if 0 < n ∧ n ≤ Whole.bound then .integer (-(n : Int)) else .float (-(Float.ofNat n))
  else .integer n

/-- A number, without its sign. -/
def number (negative : Bool) (cs : List Char) : Option (Json × List Char) :=
  let whole := cs.takeWhile Char.isDigit
  let rest := cs.dropWhile Char.isDigit
  if whole.isEmpty || (whole.head? == some '0' && whole.length != 1) then none
  else
    let (n, _, dropped) := absorb 0 whole
    match rest with
    | '.' :: rest =>
      let digits := rest.takeWhile Char.isDigit
      let rest := rest.dropWhile Char.isDigit
      if digits.isEmpty then none
      else
        let (n, taken, _) := absorb n digits
        float negative n ((dropped : Int) - taken) rest
    | c :: _ =>
      if c == 'e' || c == 'E' || dropped != 0 then float negative n dropped rest
      else some (integer negative n, rest)
    | [] => if dropped != 0 then float negative n dropped [] else some (integer negative n, [])

/-! ### Documents -/

/-- The rest of the document behind a word that has to come next. -/
def word (w : List Char) (j : Json) (cs : List Char) : Option (Json × List Char) :=
  if w.isPrefixOf cs then some (j, cs.drop w.length) else none

mutual

/-- A document in front, where `depth` containers may still be opened. -/
def value (depth : Nat) : Nat → List Char → Option (Json × List Char)
  | 0, _ => none
  | fuel + 1, cs =>
    match skip cs with
    | '\"' :: rest => (Quoted.decode rest).map fun p => (.string (String.ofList p.1), p.2)
    | '[' :: rest =>
      match depth with
      | 0 => none
      | depth + 1 =>
        match skip rest with
        | ']' :: rest => some (.array [], rest)
        | rest => (items depth fuel rest).map fun p => (.array p.1, p.2)
    | '\x7b' :: rest =>
      match depth with
      | 0 => none
      | depth + 1 =>
        match skip rest with
        | '\x7d' :: rest => some (.object [], rest)
        | rest => (members depth fuel [] rest).map fun p => (.object p.1, p.2)
    | 'n' :: rest => word ['u', 'l', 'l'] .null rest
    | 't' :: rest => word ['r', 'u', 'e'] (.bool true) rest
    | 'f' :: rest => word ['a', 'l', 's', 'e'] (.bool false) rest
    | '-' :: rest => number true rest
    | rest => number false rest

/-- The items of an array, of which there is at least one, and the bracket behind them. -/
def items (depth : Nat) : Nat → List Char → Option (List Json × List Char)
  | 0, _ => none
  | fuel + 1, cs => do
    let (item, rest) ← value depth fuel cs
    match skip rest with
    | ',' :: rest => (items depth fuel rest).map fun p => (item :: p.1, p.2)
    | ']' :: rest => some ([item], rest)
    | _ => none

/-- The members of an object behind those already read, of which there is at least one, and
the brace behind them. -/
def members (depth : Nat) : Nat → List (String × Json) → List Char →
    Option (List (String × Json) × List Char)
  | 0, _, _ => none
  | fuel + 1, read, cs =>
    match skip cs with
    | '\"' :: rest => do
      let (name, rest) ← Quoted.decode rest
      match skip rest with
      | ':' :: rest => do
        let (item, rest) ← value depth fuel rest
        let read := insertMember (String.ofList name) item read
        match skip rest with
        | ',' :: rest => members depth fuel read rest
        | '\x7d' :: rest => some (read, rest)
        | _ => none
      | _ => none
    | _ => none

end

end Reader

/-- How many containers may be nested. -/
def maxDepth : Nat := 127

/-- The document that a text spells, with blanks around it at most. Each step of the reader
takes a character, so there are no more of them than characters and one. -/
def parse? (text : String) : Option Json :=
  let cs := text.toList
  match Reader.value maxDepth (2 * cs.length + 1) cs with
  | some (j, rest) => if (Reader.skip rest).isEmpty then some j else none
  | none => none

end Json

end Parley
