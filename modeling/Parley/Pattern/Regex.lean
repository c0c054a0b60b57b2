import Parley.Pattern.CharClass

/-!
# Regular expressions

The tree of a regular expression, with all options worked in: a letter whose case does not
matter is a class of characters, and an anchor says whether it means a line or the whole
text.

Trees are built by `ofClass`, `ofParts`, `ofBranches` and `repeated`, which leave out what makes
no difference to a match. How large a program becomes, and so whether a pattern is accepted,
depends on the tree that is left.
-/

namespace Parley

/-- What the neighbours of a position have to look like. -/
inductive Boundary where
  /-- A word character on one side only. -/
  | edge
  /-- Word characters on both sides or on none. -/
  | inside
  /-- A word character behind, and none before. -/
  | start
  /-- A word character before, and none behind. -/
  | finish
  /-- No word character before. -/
  | startHalf
  /-- No word character behind. -/
  | finishHalf
deriving DecidableEq, Repr

/-- A condition on a position of the text that takes no characters. -/
inductive Look where
  | textStart
  | textEnd
  /-- The beginning of a line; with `crlf`, carriage returns end lines too. -/
  | lineStart (crlf : Bool)
  | lineEnd (crlf : Bool)
  /-- A boundary of words, where word characters are those of Unicode or of ASCII. -/
  | word (boundary : Boundary) (unicode : Bool)
deriving DecidableEq, Repr

/-- A regular expression. -/
inductive Regex where
  | empty
  /-- Characters one after another. -/
  | literal (text : List Char)
  /-- One character of a class. -/
  | set (cls : CharClass)
  | look (l : Look)
  /-- A group, with the number under which what it matches is kept. -/
  | group (index : Nat) (inner : Regex)
  | sequence (parts : List Regex)
  /-- The first of several branches that leads to a match. -/
  | choice (branches : List Regex)
  /-- At least and at most so many times, preferably as often as possible or as seldom. -/
  | repetition (least : Nat) (most : Option Nat) (greedy : Bool) (inner : Regex)
deriving Inhabited

namespace Regex

/-! ### Lengths -/

mutual

/-- How many characters a match has at least; not known where a class has no members. -/
def leastLength? : Regex → Option Nat
  | empty => some 0
  | literal text => some text.length
  | set cls => if cls.ranges.isEmpty then none else some 1
  | look _ => some 0
  | group _ inner => inner.leastLength?
  | sequence parts => leastTogether? parts
  | choice branches => leastOfAny? branches
  | repetition least _ _ inner => inner.leastLength?.map (least * ·)

/-- How many characters there are at least in matches one after another. -/
def leastTogether? : List Regex → Option Nat
  | [] => some 0
  | r :: rs => do return (← r.leastLength?) + (← leastTogether? rs)

/-- How many characters there are at least in a match of one of several. -/
def leastOfAny? : List Regex → Option Nat
  | [] => none
  | [r] => r.leastLength?
  | r :: rs => do return min (← r.leastLength?) (← leastOfAny? rs)

end

mutual

/-- How many characters a match has at most, if there is a bound. -/
def mostLength? : Regex → Option Nat
  | empty => some 0
  | literal text => some text.length
  | set cls => if cls.ranges.isEmpty then none else some 1
  | look _ => some 0
  | group _ inner => inner.mostLength?
  | sequence parts => mostTogether? parts
  | choice branches => mostOfAny? branches
  | repetition _ most _ inner => do return (← most) * (← inner.mostLength?)

/-- How many characters there are at most in matches one after another. -/
def mostTogether? : List Regex → Option Nat
  | [] => some 0
  | r :: rs => do return (← r.mostLength?) + (← mostTogether? rs)

/-- How many characters there are at most in a match of one of several. -/
def mostOfAny? : List Regex → Option Nat
  | [] => none
  | [r] => r.mostLength?
  | r :: rs => do return max (← r.mostLength?) (← mostOfAny? rs)

end

/-- Whether every match takes a character. -/
def advances (r : Regex) : Bool :=
  r.leastLength?.any (0 < ·)

/-- Whether no match takes a character. -/
def standsStill (r : Regex) : Bool :=
  r.mostLength? == some 0

/-! ### Equality -/

mutual

/-- Whether two expressions are the same. -/
def same : Regex → Regex → Bool
  | empty, empty => true
  | literal a, literal b => a == b
  | set a, set b => a == b
  | look a, look b => a == b
  | group i a, group j b => i == j && same a b
  | sequence a, sequence b => allSame a b
  | choice a, choice b => allSame a b
  | repetition l m g a, repetition l' m' g' b => l == l' && m == m' && g == g' && same a b
  | _, _ => false

/-- Whether two lists hold the same expressions. -/
def allSame : List Regex → List Regex → Bool
  | [], [] => true
  | a :: as, b :: bs => same a b && allSame as bs
  | _, _ => false

end

/-! ### Simple forms

The functions here put expressions together and leave out what makes no difference to a match:
a sequence in a sequence, an empty part, a choice between single characters, a beginning that
all branches have in common, repetitions of what takes no characters. -/

/-- One character of a class. -/
def ofClass (cls : CharClass) : Regex :=
  match cls.ranges with
  | [(low, high)] => if low = high then literal [Char.ofNat low] else set cls
  | _ => set cls

/-- The parts of a sequence, or the expression itself. -/
def parts : Regex → List Regex
  | empty => []
  | sequence parts => parts
  | r => [r]

/-- The expressions with neighbouring literals put together. -/
def joinLiterals : List Regex → List Regex
  | [] => []
  | literal a :: rs =>
    match joinLiterals rs with
    | literal b :: rs => literal (a ++ b) :: rs
    | rs => literal a :: rs
  | r :: rs => r :: joinLiterals rs

/-- Expressions one after another. -/
def ofParts (rs : List Regex) : Regex :=
  match joinLiterals (rs.flatMap parts) with
  | [] => empty
  | [r] => r
  | rs => sequence rs

/-- The branches of a choice, or the expression itself. -/
def branches : Regex → List Regex
  | choice branches => branches
  | r => [r]

/-- The class of an expression that matches single characters only. -/
def class? : Regex → Option CharClass
  | literal [c] => some (.single c)
  | set cls => some cls
  | _ => none

/-- The class of expressions that all match single characters only. -/
def classes? : List Regex → Option CharClass
  | [] => some .empty
  | r :: rs => do return (← r.class?).union (← classes? rs)

/-- A choice between branches that are no choices themselves. -/
def ofFlatBranches (rs : List Regex) : Regex :=
  match rs with
  | [r] => r
  | rs =>
    match classes? rs with
    | some cls => ofClass cls
    | none => choice rs

/-- How many parts two lists have in common at the beginning. -/
def common : List Regex → List Regex → Nat
  | a :: as, b :: bs => if same a b then common as bs + 1 else 0
  | _, _ => 0

/-- How many parts all branches have in common at the beginning, where all are sequences. -/
def commonParts : List Regex → Nat
  | sequence a :: rs =>
    rs.foldl (fun n r => match r with
      | sequence b => min n (common a b)
      | _ => 0) a.length
  | _ => 0

/-- The first of several branches that leads to a match. -/
def ofBranches (rs : List Regex) : Regex :=
  let rs := rs.flatMap branches
  match rs, classes? rs, commonParts rs with
  | _ :: _ :: _, none, n + 1 =>
    let start := (rs.head?.getD empty).parts.take (n + 1)
    let ends := rs.map fun r => ofParts (r.parts.drop (n + 1))
    ofParts (start ++ [ofFlatBranches (ends.flatMap branches)])
  | _, _, _ => ofFlatBranches rs

/-- An expression again and again. What takes no characters is not matched twice. -/
def repeated (least : Nat) (most : Option Nat) (greedy : Bool) (r : Regex) : Regex :=
  let (least, most) :=
    if r.standsStill then (min least 1, some (min (most.getD 1) 1)) else (least, most)
  match least, most with
  | 0, some 0 => empty
  | 1, some 1 => r
  | _, _ => repetition least most greedy r

end Regex

end Parley
