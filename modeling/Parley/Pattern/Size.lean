import Parley.Pattern.Regex

/-!
# The size of an expression

How much an expression demands of a matcher is measured by two automata over the bytes of
UTF-8, of which one reads a text from its beginning and one from its end. An automaton has

* states that read one byte, also one of a range of bytes, or none;
* states that read a byte of several ranges, each of which leads to a state of its own;
* states that are left in several ways without a byte being read.

A state takes 32 units, each range of a state with several takes 8, and each of several ways
without a byte takes 4. A repetition with bounds is written out, so that its size grows with
the bounds. The automaton that reads from the beginning notes where groups begin and end, and
its classes of characters are minimal: two states from which the same bytes lead to the end are
one. In the one that reads from the end a class is a tree: two of its states are one if the
ranges left to be read, back to the first byte of the character, are the same.

An expression that is too large is refused as a whole, before any text is matched.
-/

namespace Parley

/-- A range of bytes. -/
abbrev ByteRange := Nat × Nat

/-- Ranges of bytes that are read one after another. -/
abbrev ByteRanges := List ByteRange

namespace Utf8

/-- How many numbers so many bytes behind the first one can spell. -/
def block : Nat → Nat
  | 0 => 1
  | n + 1 => 64 * block n

/-- So many bytes behind the first one, whatever they are. -/
def anything (n : Nat) : ByteRanges :=
  List.replicate n (0x80, 0xBF)

/-- Ranges of bytes that together spell the numbers from `low` to `high`, where the first byte
has a mark added to it and `n` bytes follow. -/
def spell (mark : Nat) : Nat → Nat → Nat → List ByteRanges
  | 0, low, high => [[(mark + low, mark + high)]]
  | n + 1, low, high =>
    let b := block (n + 1)
    let first := low / b
    let last := high / b
    if first = last then
      (spell 0x80 n (low % b) (high % b)).map ((mark + first, mark + first) :: ·)
    else
      let partialFirst := low % b ≠ 0
      let partialLast := high % b ≠ b - 1
      let start := if partialFirst then first + 1 else first
      let stop := if partialLast then last - 1 else last
      (if partialFirst then
        (spell 0x80 n (low % b) (b - 1)).map ((mark + first, mark + first) :: ·) else []) ++
      (if start ≤ stop then [(mark + start, mark + stop) :: anything (n + 1)] else []) ++
      (if partialLast then
        (spell 0x80 n 0 (high % b)).map ((mark + last, mark + last) :: ·) else [])

/-- The lengths of characters in bytes: the first and the last character of a length, the mark
of the first byte, and how many follow it. The numbers in the gap stand for no characters. -/
def lengths : List (Nat × Nat × Nat × Nat) :=
  [(0, 0x7F, 0, 0), (0x80, 0x7FF, 0xC0, 1), (0x800, 0xD7FF, 0xE0, 2), (0xE000, 0xFFFF, 0xE0, 2),
   (0x10000, 0x10FFFF, 0xF0, 3)]

/-- Ranges of bytes that together spell the characters of a class, in increasing order. -/
def ofClass (cls : CharClass) : List ByteRanges :=
  cls.ranges.flatMap fun r =>
    lengths.flatMap fun l =>
      let low := max r.1 l.1
      let high := min r.2 l.2.1
      if low ≤ high then spell l.2.2.1 l.2.2.2 low high else []

end Utf8

/-! ### Classes of characters -/

namespace CharClass

/-- Whether all members are characters of ASCII. -/
def isAscii (cls : CharClass) : Bool :=
  cls.ranges.all fun r => r.2 < 128

/-- What can be read first, and what remains to be read behind each. -/
def branchesOf : List ByteRanges → List (ByteRange × List ByteRanges)
  | [] => []
  | [] :: rest => branchesOf rest
  | (r :: tail) :: rest =>
    match branchesOf rest with
    | (r', tails) :: more =>
      if r = r' then (r, tail :: tails) :: more else (r, [tail]) :: (r', tails) :: more
    | [] => [(r, [tail])]

/-- What remains to be read after up to so many bytes, as long as something remains. -/
def remainders : Nat → List ByteRanges → List (List ByteRanges)
  | 0, _ => []
  | n + 1, seqs =>
    match branchesOf seqs with
    | [] => []
    | branches => seqs :: branches.flatMap fun b => remainders n b.2

/-- Remainders without repetitions. -/
def distinct (remainders : List (List ByteRanges)) : List (List ByteRanges) :=
  remainders.foldr (fun seqs kept => if kept.any (seqs = ·) then kept else seqs :: kept) []

/-- How many bytes two sequences have in common at the beginning. -/
def commonBytes : ByteRanges → ByteRanges → Nat
  | a :: as, b :: bs => if a = b then commonBytes as bs + 1 else 0
  | _, _ => 0

/-- How many states tell apart what has been read of some sequences, of which equal beginnings
are neighbours. -/
def beginnings (last : ByteRanges) : List ByteRanges → Nat
  | [] => 0
  | s :: rest => s.length - commonBytes last s + beginnings s rest

/-- The size of a class in the automaton that reads from the beginning: its end, and a state for
each remainder. -/
def sizeForward (cls : CharClass) : Nat :=
  if cls.isAscii then 64 + 8 * cls.ranges.length
  else
    (distinct (remainders 4 (Utf8.ofClass cls))).foldl
      (fun n seqs => n + 32 + 8 * (branchesOf seqs).length) 32

/-- The size of a class in the automaton that reads from the end: both its ends, a way for each
sequence of ranges, and a state for each beginning of one. -/
def sizeBackward (cls : CharClass) : Nat :=
  if cls.isAscii then 64 + 8 * cls.ranges.length
  else
    let seqs := Utf8.ofClass cls
    64 + 4 * seqs.length + 32 * beginnings [] seqs

end CharClass

namespace Regex

/-! ### Choices between literals -/

/-- The bytes of a text. -/
def bytes (text : List Char) : List Nat :=
  (String.ofList text).toUTF8.toList.map UInt8.toNat

/-- The text of a literal. -/
def literal? : Regex → Option (List Char)
  | literal text => some text
  | _ => none

/-- The texts of branches that are all literals. -/
def literals? : List Regex → Option (List (List Char))
  | [] => some []
  | r :: rs => do return (← r.literal?) :: (← literals? rs)

/-- Texts that begin with the same byte, wherever they stand, under that byte. -/
def byFirst (texts : List (List Nat)) : List (Nat × List (List Nat)) :=
  let firsts := (texts.filterMap List.head?).eraseDups
  firsts.map fun b => (b, (texts.filter fun t => t.head? == some b).map (List.drop 1))

/-- The texts in runs between those that are empty. -/
def runs : List (List Nat) → List (List (List Nat))
  | [] => [[]]
  | [] :: rest => [] :: runs rest
  | text :: rest =>
    match runs rest with
    | run :: more => (text :: run) :: more
    | [] => [[text]]

/-- The size of a state that goes on with one of so many bytes, if there is one. -/
def branchSize : Nat → Nat
  | 0 => 0
  | 1 => 32
  | n => 32 + 8 * n

/-- The size of a choice between texts of at most so many bytes, where texts share states as
long as they begin alike. Behind an empty text the choice begins anew, since the branches are in
the order of preference. -/
def choiceSize : Nat → List (List Nat) → Nat
  | 0, _ => 0
  | n + 1, texts =>
    if texts.all List.isEmpty then 0
    else
      let runs := (runs texts).map byFirst
      let ways := (runs.filter fun run => !run.isEmpty).length + (runs.length - 1)
      runs.flatten.foldl (fun size b => size + choiceSize n b.2)
        (runs.foldl (fun size run => size + branchSize run.length) (32 + 4 * ways))

/-- The size of a choice between literals. -/
def literalChoiceSize (backward : Bool) (texts : List (List Char)) : Nat :=
  let texts := texts.map fun t => if backward then (bytes t).reverse else bytes t
  32 + choiceSize ((texts.map List.length).foldl max 0 + 1) texts

/-! ### Expressions -/

mutual

/-- The size of the automaton for an expression. -/
def size (backward : Bool) : Regex → Nat
  | empty => 32
  | literal text => 32 * (bytes text).length
  | set cls => if backward then cls.sizeBackward else cls.sizeForward
  | look _ => 32
  | group _ inner => if backward then inner.size backward else inner.size backward + 64
  | sequence parts => sizes backward parts
  | choice branches =>
    match literals? branches with
    | some texts => literalChoiceSize backward texts
    | none => 64 + 4 * branches.length + sizes backward branches
  | repetition least most _ inner =>
    let once := inner.size backward
    match least, most with
    | 0, some 1 => once + 72
    | 0, none => if inner.advances then once + 40 else once + 112
    | least, none => least * once + 40
    | least, some most =>
      let optional := if least < most then 32 + (most - least) * (once + 40) else 0
      (if least = 0 then 32 else least * once) + optional

/-- The sizes of several together. -/
def sizes (backward : Bool) : List Regex → Nat
  | [] => 0
  | r :: rs => r.size backward + sizes backward rs

end

/-! ### Anchors -/

mutual

/-- Whether every match begins with a condition. -/
def beginsWith (l : Look) : Regex → Bool
  | look k => k == l
  | group _ inner => inner.beginsWith l
  | sequence parts => someBeginsWith l parts
  | choice branches => allBeginWith l branches
  | repetition least _ _ inner => 0 < least && inner.beginsWith l
  | _ => false

/-- Whether a condition holds before the first of several parts that takes characters. -/
def someBeginsWith (l : Look) : List Regex → Bool
  | [] => false
  | r :: rs => r.beginsWith l || (r.standsStill && someBeginsWith l rs)

/-- Whether every match of every branch begins with a condition. -/
def allBeginWith (l : Look) : List Regex → Bool
  | [] => true
  | r :: rs => r.beginsWith l && allBeginWith l rs

end

mutual

/-- Whether every match ends with a condition. -/
def endsWith (l : Look) : Regex → Bool
  | look k => k == l
  | group _ inner => inner.endsWith l
  | sequence parts => someEndsWith l parts
  | choice branches => allEndWith l branches
  | repetition least _ _ inner => 0 < least && inner.endsWith l
  | _ => false

/-- Whether a condition holds behind the last of several parts that takes characters. -/
def someEndsWith (l : Look) : List Regex → Bool
  | [] => false
  | r :: rs => someEndsWith l rs || (mostTogether? rs == some 0 && r.endsWith l)

/-- Whether every match of every branch ends with a condition. -/
def allEndWith (l : Look) : List Regex → Bool
  | [] => true
  | r :: rs => r.endsWith l && allEndWith l rs

end

/-- The size of the whole automaton that reads in a direction: unless matches are anchored where
it begins, it may skip bytes before. -/
def wholeSize (backward : Bool) (r : Regex) : Nat :=
  let anchored := if backward then r.endsWith .textEnd else r.beginsWith .textStart
  (if anchored then 32 else 112) + (if backward then 32 else 96) + r.size backward

/-- What the size of both automata may be. -/
def maxSize : Nat := 10485760

/-- Whether neither automaton is too large. -/
def isMatchable (r : Regex) : Bool :=
  r.wholeSize false ≤ maxSize && r.wholeSize true ≤ maxSize

end Regex

end Parley
