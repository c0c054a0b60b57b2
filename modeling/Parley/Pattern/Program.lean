import Parley.Pattern.Regex
import Parley.Unicode.Property

/-!
# Matching

An expression is turned into a *program*, a table of instructions that refer to one another
by their places, and the text is read once while all the ways through the program are
followed side by side. The ways are kept in the order of preference, and no place is entered
twice at one position of the text, so the time is at most the product of the lengths of the
program and of the text.

The match that is found is the leftmost one, and of those the one that is preferred: an
earlier branch before a later one, more repetitions before fewer where these are greedy.
-/

namespace Parley

/-- An instruction of a program. -/
inductive Instruction where
  /-- Takes a character of a class, whose ranges are in normal form. -/
  | take (ranges : Array (Nat × Nat)) (next : Nat)
  /-- Goes on if a condition holds here. -/
  | check (l : Look) (next : Nat)
  /-- Goes on in two places, the first of them preferred. -/
  | split (first second : Nat)
  /-- Notes the position. -/
  | note (slot : Nat) (next : Nat)
  | accept
deriving Inhabited

/-- The table of the instructions. -/
abbrev Instructions := Array Instruction

namespace Instructions

/-- A table with one instruction more, and its place. -/
def add (p : Instructions) (i : Instruction) : Nat × Instructions :=
  (p.size, p.push i)

/-- A choice between entering something and leaving it out. -/
def option (greedy : Bool) (entry exit : Nat) : Instruction :=
  if greedy then .split entry exit else .split exit entry

/-- The same piece several times in a row, in front of `next`. -/
def times (piece : Nat → Instructions → Nat × Instructions) :
    Nat → Nat → Instructions → Nat × Instructions
  | 0, next, p => (next, p)
  | n + 1, next, p =>
    let (next, p) := times piece n next p
    piece next p

/-- The same piece up to several times, each of them only behind the one before it. -/
def atMost (piece : Nat → Instructions → Nat × Instructions) (greedy : Bool) (exit : Nat) :
    Nat → Instructions → Nat × Instructions
  | 0, p => (exit, p)
  | n + 1, p =>
    let (more, p) := atMost piece greedy exit n p
    let (entry, p) := piece more p
    p.add (option greedy entry exit)

/-- The same piece at least once; the choice to repeat it stands behind it. -/
def plus (piece : Nat → Instructions → Nat × Instructions) (greedy : Bool) (exit : Nat)
    (p : Instructions) : Nat × Instructions :=
  let (again, p) := p.add .accept
  let (entry, p) := piece again p
  (entry, p.set! again (option greedy entry exit))

/-- The same piece any number of times; the choice stands in front of it. -/
def star (piece : Nat → Instructions → Nat × Instructions) (greedy : Bool) (exit : Nat)
    (p : Instructions) : Nat × Instructions :=
  let (again, p) := p.add .accept
  let (entry, p) := piece again p
  (again, p.set! again (option greedy entry exit))

/-- The same piece any number of times, where it may match the empty text. -/
def starNullable (piece : Nat → Instructions → Nat × Instructions) (greedy : Bool) (exit : Nat)
    (p : Instructions) : Nat × Instructions :=
  let (entry, p) := plus piece greedy exit p
  p.add (option greedy entry exit)

end Instructions

namespace Regex

mutual

/-- The instructions for an expression in front of those from `next` on: where they begin,
and the table with them. -/
def emit : Regex → Nat → Instructions → Nat × Instructions
  | empty, next, p => (next, p)
  | literal text, next, p =>
    text.foldr (fun c q => q.2.add (.take #[(c.toNat, c.toNat)] q.1)) (next, p)
  | set cls, next, p => p.add (.take cls.ranges.toArray next)
  | look l, next, p => p.add (.check l next)
  | group i inner, next, p =>
    let (finish, p) := p.add (.note (2 * i + 1) next)
    let (entry, p) := emit inner finish p
    p.add (.note (2 * i) entry)
  | sequence parts, next, p => emitSequence parts next p
  | choice branches, next, p => emitChoice branches next p
  | repetition least most greedy inner, next, p =>
    let piece := fun next p => emit inner next p
    match most with
    | some most =>
      let (next, p) := Instructions.atMost piece greedy next (most - least) p
      Instructions.times piece least next p
    | none =>
      match least with
      | 0 =>
        if inner.advances then Instructions.star piece greedy next p
        else Instructions.starNullable piece greedy next p
      | least + 1 =>
        let (next, p) := Instructions.plus piece greedy next p
        Instructions.times piece least next p

/-- The instructions for several expressions in a row. -/
def emitSequence : List Regex → Nat → Instructions → Nat × Instructions
  | [], next, p => (next, p)
  | r :: rs, next, p =>
    let (next, p) := emitSequence rs next p
    emit r next p

/-- The instructions for several branches. -/
def emitChoice : List Regex → Nat → Instructions → Nat × Instructions
  | [], next, p => (next, p)
  | [r], next, p => emit r next p
  | r :: rs, next, p =>
    let (second, p) := emitChoice rs next p
    let (first, p) := emit r next p
    p.add (.split first second)

end

end Regex

/-- A program: its instructions, and where they begin. -/
structure Program where
  code : Instructions
  entry : Nat

namespace Program

/-- The program of an expression. It notes where the match as a whole begins and ends, too. -/
def ofRegex (r : Regex) : Program :=
  let (entry, code) := Regex.emit (.group 0 r) 0 #[.accept]
  ⟨code, entry⟩

/-! ### Conditions -/

/-- Whether one of the ranges from `low` on and below `high` holds a number; they are in
order, so half of them can be left out at every step. -/
def search (ranges : Array (Nat × Nat)) (n : Nat) : Nat → Nat → Nat → Bool
  | 0, _, _ => false
  | steps + 1, low, high =>
    if low < high then
      let middle := (low + high) / 2
      let (first, last) := ranges.getD middle (0, 0)
      if n < first then search ranges n steps low middle
      else if last < n then search ranges n steps (middle + 1) high
      else true
    else false

/-- Whether a character is in a class. -/
def matchesClass (ranges : Array (Nat × Nat)) (c : Char) : Bool :=
  search ranges c.toNat (ranges.size + 1) 0 ranges.size

/-- The ranges of the word characters. -/
def wordRanges : Array (Nat × Nat) :=
  Unicode.word.ranges.toArray

/-- Whether there is a word character at a position. -/
def isWord (unicode : Bool) (c : Option Char) : Bool :=
  match c with
  | none => false
  | some c => if unicode then matchesClass wordRanges c else c.isAlphanum || c == '_'

/-- Whether a condition holds between two neighbouring characters of a text; at either end of
the text there is none. -/
def holds (before behind : Option Char) : Look → Bool
  | .textStart => before.isNone
  | .textEnd => behind.isNone
  | .lineStart crlf =>
    before.isNone || before == some '\n' ||
      (crlf && before == some '\r' && behind != some '\n')
  | .lineEnd crlf =>
    behind.isNone ||
      (if crlf then behind == some '\r' || (behind == some '\n' && before != some '\r')
       else behind == some '\n')
  | .word boundary unicode =>
    let left := isWord unicode before
    let right := isWord unicode behind
    match boundary with
    | .edge => left != right
    | .inside => left == right
    | .start => !left && right
    | .finish => left && !right
    | .startHalf => !left
    | .finishHalf => !right

/-! ### Ways through the program -/

/-- The positions noted on a way, by slot. -/
abbrev Slots := List (Nat × Nat)

/-- A way through the program: the place it has come to, and what it has noted. -/
structure Way where
  place : Nat
  slots : Slots

/-- The ways that are waiting for a character, the preferred ones last, and the places that
have been entered. -/
structure Waiting where
  ways : List Way
  entered : Array Bool

/-- Follows ways, in the order of preference, until they wait for a character or have come to
the end. Each step enters a new place or drops a way, and a place opens two ways at most, so
twice as many steps as there are places, and one for each way, are enough. -/
def follow (code : Instructions) (position : Nat) (before behind : Option Char) :
    Nat → List Way → Waiting → Waiting
  | 0, _, w => w
  | _, [], w => w
  | steps + 1, way :: ways, w =>
    if w.entered.getD way.place true then follow code position before behind steps ways w
    else
      let w := { w with entered := w.entered.set! way.place true }
      match code.getD way.place .accept with
      | .take _ _ => follow code position before behind steps ways { w with ways := way :: w.ways }
      | .accept => follow code position before behind steps ways { w with ways := way :: w.ways }
      | .check l next =>
        if holds before behind l then
          follow code position before behind steps ({ way with place := next } :: ways) w
        else follow code position before behind steps ways w
      | .split first second =>
        follow code position before behind steps
          ({ way with place := first } :: { way with place := second } :: ways) w
      | .note slot next =>
        follow code position before behind steps (⟨next, (slot, position) :: way.slots⟩ :: ways) w

/-- Takes a character on every way, in the order of preference: what a way that is at its end
has noted, and the ways that go on. Ways behind one that is at its end are dropped. -/
def advance (code : Instructions) (c : Option Char) : List Way → Option Slots × List Way
  | [] => (none, [])
  | way :: ways =>
    match code.getD way.place .accept with
    | .accept => (some way.slots, [])
    | .take ranges next =>
      let (found, ways) := advance code c ways
      match c with
      | some c =>
        if matchesClass ranges c then (found, { way with place := next } :: ways)
        else (found, ways)
      | none => (found, ways)
    | _ => advance code c ways

/-- Reads the text from a position on, with the ways that have come so far and the match that
would be taken without them. While there is none, a new way begins at every position. -/
def run (p : Program) (position : Nat) (before : Option Char) (ways : List Way)
    (found : Option Slots) (text : List Char) : Option Slots :=
  let behind := text.head?
  let ways := if found.isNone then ways ++ [⟨p.entry, []⟩] else ways
  let steps := 2 * p.code.size + ways.length + 1
  let waiting := follow p.code position before behind steps ways
    ⟨[], Array.replicate p.code.size false⟩
  let (better, ways) := advance p.code behind waiting.ways.reverse
  let found := better.or found
  match text with
  | [] => found
  | c :: rest =>
    if ways.isEmpty && found.isSome then found
    else run p (position + 1) (some c) ways found rest

/-- The positions noted for the preferred match in a text, if there is one. -/
def find? (p : Program) (text : List Char) : Option Slots :=
  run p 0 none [] none text

/-- The part of a text between two slots. -/
def part? (slots : Slots) (i : Nat) (text : List Char) : Option (List Char) := do
  let start ← slots.lookup (2 * i)
  let finish ← slots.lookup (2 * i + 1)
  return (text.drop start).take (finish - start)

end Program

end Parley
