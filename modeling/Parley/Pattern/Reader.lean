import Parley.Pattern.Size
import Parley.Unicode.Name

/-!
# The notation of regular expressions

Reads the notation of regular expressions into trees. Besides literals it knows

* the dot, anchors and boundaries of words, at which no character is taken;
* classes in brackets, with ranges, nested brackets, named classes and the operators `&&`,
  `--` and `~~`; and the classes `\d`, `\s`, `\w`, `\p` and their complements;
* groups, with or without a number or a name, and options inside of them;
* repetition, greedy or not, also of a repetition.

It has no references to groups and looks neither ahead nor behind, so that matching takes
time in proportion to the text. Where the notation is not followed there is no tree, and no
reason is given; nor is there one where constructions are nested too deep, or where the
expression is too large.

Options hold from where they are set to the end of the group they are set in. A class is
completed by the other case of its members before it is complemented.
-/

namespace Parley

namespace Regex

/-- The options of the notation. -/
structure Options where
  ignoreCase : Bool
  multiLine : Bool
  /-- Whether a dot matches the end of a line. -/
  dotAll : Bool
  /-- Whether repetitions are as seldom as possible unless marked. -/
  lazy : Bool
  unicode : Bool
  /-- Whether blanks and comments in the notation are skipped. -/
  extended : Bool
  /-- Whether a carriage return ends a line too. -/
  crlf : Bool
deriving DecidableEq, Repr

/-- The options that hold where none is set. -/
def Options.initial : Options :=
  ⟨false, false, false, false, true, false, false⟩

/-- An option switched by its letter. -/
def Options.set? (o : Options) (on : Bool) : Char → Option Options
  | 'i' => some { o with ignoreCase := on }
  | 'm' => some { o with multiLine := on }
  | 's' => some { o with dotAll := on }
  | 'U' => some { o with lazy := on }
  | 'u' => some { o with unicode := on }
  | 'x' => some { o with extended := on }
  | 'R' => some { o with crlf := on }
  | _ => none

namespace Reader

/-- Where the reader stands. -/
structure State where
  rest : List Char
  options : Options
  /-- The groups with a number that have been opened. -/
  groups : Nat
  names : List (List Char)

/-- A step of the reader; it may refuse the notation. -/
abbrev Step := StateT State Option

/-- What has been read, and how deep the constructions of its notation are nested. Single
characters, classes without brackets, anchors and options are no constructions. -/
structure Nested (α : Type) where
  value : α
  depth : Nat

/-! ### Characters -/

mutual

/-- What follows blanks and comments. -/
def dropSpace : List Char → List Char
  | [] => []
  | c :: cs => if isBlank c then dropSpace cs else if c = '#' then dropComment cs else c :: cs

/-- What follows the rest of a comment. -/
def dropComment : List Char → List Char
  | [] => []
  | c :: cs => if c = '\n' then dropSpace cs else dropComment cs

end

/-- The characters that are left. -/
def rest : Step (List Char) := do
  return (← get).rest

/-- Goes on behind a number of characters. -/
def skip (n : Nat) : Step Unit :=
  modify fun s => { s with rest := s.rest.drop n }

/-- Goes on at a place further on. -/
def goto (cs : List Char) : Step Unit :=
  modify fun s => { s with rest := cs }

/-- Skips blanks and comments where these are skipped. -/
def skipSpace : Step Unit :=
  modify fun s => if s.options.extended then { s with rest := dropSpace s.rest } else s

/-- Goes on behind a character and the blanks that follow it. -/
def skipOne : Step Unit := do
  skip 1
  skipSpace

/-- The next character, which has to be there. -/
def next : Step Char := do
  match ← rest with
  | c :: _ => return c
  | [] => failure

/-- The next character, which has to be there, and goes on behind it. -/
def take : Step Char := do
  let c ← next
  skip 1
  return c

/-- Refuses the notation unless something holds. -/
def demand (b : Bool) : Step Unit :=
  if b then pure () else failure

/-! ### Classes -/

/-- The other case of the letters of ASCII. -/
def foldAscii (cls : CharClass) : CharClass :=
  let upper := (cls.intersection (.range 65 90)).ranges.map fun r => (r.1 + 32, r.2 + 32)
  let lower := (cls.intersection (.range 97 122)).ranges.map fun r => (r.1 - 32, r.2 - 32)
  cls.union (.ofRanges (upper ++ lower))

/-- The class with the other case of its members, if case is ignored. -/
def folded (o : Options) (cls : CharClass) : CharClass :=
  if o.ignoreCase then
    if o.unicode then Unicode.foldCase cls else foldAscii cls
  else cls

/-- A class, completed and then complemented. Without Unicode only ASCII can be matched. -/
def finish (o : Options) (negated : Bool) (cls : CharClass) : Step CharClass := do
  let cls := folded o cls
  let cls := if negated then cls.complement else cls
  demand (o.unicode || cls.ranges.all fun r => r.2 < 128)
  return cls

/-- The digits of ASCII. -/
def asciiDigits : List (Nat × Nat) := [(48, 57)]

/-- The letters of ASCII. -/
def asciiLetters : List (Nat × Nat) := [(65, 90), (97, 122)]

/-- The word characters of ASCII. -/
def asciiWord : CharClass :=
  .ofRanges (asciiDigits ++ asciiLetters ++ [(95, 95)])

/-- The class that a letter behind a backslash names. -/
def shorthand? (o : Options) : Char → Option CharClass
  | 'd' => some (if o.unicode then Unicode.digit else ⟨asciiDigits⟩)
  | 's' => some (if o.unicode then Unicode.space else ⟨[(9, 13), (32, 32)]⟩)
  | 'w' => some (if o.unicode then Unicode.word else asciiWord)
  | _ => none

/-- The class that a name between `[:` and `:]` stands for. -/
def named? : String → Option CharClass
  | "alnum" => some (.ofRanges (asciiDigits ++ asciiLetters))
  | "alpha" => some ⟨asciiLetters⟩
  | "ascii" => some (.range 0 127)
  | "blank" => some ⟨[(9, 9), (32, 32)]⟩
  | "cntrl" => some ⟨[(0, 31), (127, 127)]⟩
  | "digit" => some ⟨asciiDigits⟩
  | "graph" => some (.range 33 126)
  | "lower" => some (.range 97 122)
  | "print" => some (.range 32 126)
  | "punct" => some ⟨[(33, 47), (58, 64), (91, 96), (123, 126)]⟩
  | "space" => some ⟨[(9, 13), (32, 32)]⟩
  | "upper" => some (.range 65 90)
  | "word" => some asciiWord
  | "xdigit" => some ⟨[(48, 57), (65, 70), (97, 102)]⟩
  | _ => none

/-- A named class in front: whether it is complemented, its members and what follows. -/
def bracketName? : List Char → Option (Bool × CharClass × List Char)
  | '[' :: ':' :: cs =>
    let (negated, cs) := match cs with
      | '^' :: cs => (true, cs)
      | cs => (false, cs)
    match cs.dropWhile (· != ':') with
    | ':' :: ']' :: rest =>
      (named? (String.ofList (cs.takeWhile (· != ':')))).map fun cls => (negated, cls, rest)
    | _ => none
  | _ => none

/-! ### Escapes -/

/-- What a single construction of the notation stands for. -/
inductive Primitive where
  | literal (c : Char)
  | cls (cls : CharClass)
  | look (l : Look)

/-- The characters with a meaning of their own somewhere in the notation. -/
def isMeta (c : Char) : Bool :=
  "\\.+*?()|[]\x7b\x7d^$#&-~".toList.contains c

/-- The characters that a backslash leaves as they are: those with a meaning of their own,
and the rest of ASCII but for letters, digits and angles. -/
def isEscapable (c : Char) : Bool :=
  isMeta c || (c.toNat < 128 && !c.isAlphanum && c != '<' && c != '>')

/-- The value of a hexadecimal digit. -/
def hexValue? (c : Char) : Option Nat :=
  if c.isDigit then some (c.toNat - 48)
  else if 97 ≤ c.toNat ∧ c.toNat ≤ 102 then some (c.toNat - 87)
  else if 65 ≤ c.toNat ∧ c.toNat ≤ 70 then some (c.toNat - 55)
  else none

/-- The character with a number, if there is one. -/
def charOf (n : Nat) : Step Char :=
  if n < 0xD800 ∨ (0xDFFF < n ∧ n ≤ CharClass.lastCode) then return Char.ofNat n else failure

/-- Exactly so many hexadecimal digits, behind those already read. -/
def hexDigits (n : Nat) : Nat → Step Nat
  | 0 => return n
  | count + 1 => do
    let some v := hexValue? (← next) | failure
    skipOne
    hexDigits (16 * n + v) count

/-- Hexadecimal digits up to a brace, behind those already read; at most as many steps as
there are characters. -/
def hexBraced (n : Nat) (read : Bool) : Nat → Step Nat
  | 0 => failure
  | steps + 1 => do
    let c ← next
    if c = '\x7d' then
      demand read
      skipOne
      return n
    let some v := hexValue? c | failure
    skipOne
    hexBraced (16 * n + v) true steps

/-- A character by its number, behind the letter that says how many digits it has. -/
def hexEscape (letter : Char) : Step Char := do
  skipOne
  if (← next) = '\x7b' then
    skipOne
    charOf (← hexBraced 0 false ((← rest).length + 1))
  else if letter = 'x' then
    -- two digits stand for a byte, which beyond ASCII is none of a text
    let n ← hexDigits 0 2
    demand ((← get).options.unicode || n < 128)
    charOf n
  else charOf (← hexDigits 0 (if letter = 'u' then 4 else 8))

/-- The characters up to a brace; at most as many steps as there are characters. -/
def braced (read : List Char) : Nat → Step (List Char)
  | 0 => failure
  | steps + 1 => do
    let c ← next
    if c = '\x7d' then
      skip 1
      return read.reverse
    skipOne
    braced (c :: read) steps

/-- A name cut at the first occurrence of a separator. -/
def cutAt (separator : List Char) (before : List Char) : List Char → Option (List Char × List Char)
  | [] => none
  | c :: cs =>
    if separator.isPrefixOf (c :: cs) then
      some (before.reverse, (c :: cs).drop separator.length)
    else cutAt separator (c :: before) cs

/-- The class of a property, behind the letter `p` or `P`. -/
def property (negated : Bool) : Step CharClass := do
  let o := (← get).options
  demand o.unicode
  skipOne
  if (← next) = '\x7b' then
    skipOne
    let name ← braced [] ((← rest).length + 1)
    let (negated, cls) := match cutAt ['!', '='] [] name with
      | some (p, v) => (!negated, Unicode.valued? p v)
      | none =>
        match (cutAt [':'] [] name).or (cutAt ['='] [] name) with
        | some (p, v) => (negated, Unicode.valued? p v)
        | none => (negated, Unicode.named? name)
    let some cls := cls | failure
    finish o negated cls
  else
    let c ← next
    demand (c != '\\')
    skipOne
    let some cls := Unicode.named? [c] | failure
    finish o negated cls

/-- The boundary that a name in braces stands for. -/
def boundary? : String → Option Boundary
  | "start" => some .start
  | "end" => some .finish
  | "start-half" => some .startHalf
  | "end-half" => some .finishHalf
  | _ => none

/-- The letters of the name of a boundary; at most as many steps as there are characters. -/
def boundaryName (read : List Char) : Nat → Step (List Char)
  | 0 => failure
  | steps + 1 => do
    let c ← next
    if c.isAlpha || c == '-' then
      skipOne
      boundaryName (c :: read) steps
    else
      demand (c == '\x7d')
      skip 1
      return read.reverse

/-- The boundary behind the letter `b`, which may be named in braces. Braces with something
else than a name belong to a repetition. -/
def wordBoundary : Step Boundary := do
  let start ← rest
  match start with
  | '\x7b' :: _ =>
    skipOne
    let c ← next
    if c.isAlpha || c == '-' then
      let name ← boundaryName [] ((← rest).length + 1)
      let some b := boundary? (String.ofList name) | failure
      return b
    else
      goto start
      return .edge
  | _ => return .edge

/-- The construction that a backslash introduces. -/
def escape : Step Primitive := do
  skip 1
  let o := (← get).options
  let c ← next
  if c = 'x' ∨ c = 'u' ∨ c = 'U' then return .literal (← hexEscape c)
  if c = 'p' ∨ c = 'P' then return .cls (← property (c == 'P'))
  if let some cls := shorthand? o c.toLower then
    skip 1
    return .cls (← finish { o with ignoreCase := false } (c != c.toLower) cls)
  skip 1
  if isEscapable c then return .literal c
  match c with
  | 'a' => return .literal '\x07'
  | 'f' => return .literal '\x0c'
  | 't' => return .literal '\t'
  | 'n' => return .literal '\n'
  | 'r' => return .literal '\r'
  | 'v' => return .literal '\x0b'
  | 'A' => return .look .textStart
  | 'z' => return .look .textEnd
  | 'b' => return .look (.word (← wordBoundary) o.unicode)
  | 'B' => return .look (.word .inside o.unicode)
  | '<' => return .look (.word .start o.unicode)
  | '>' => return .look (.word .finish o.unicode)
  | _ => failure

/-! ### Brackets -/

/-- The operators between classes. -/
inductive SetOperator where
  | intersection
  | difference
  | symmetricDifference

/-- The operator in front, if there is one. -/
def setOperator? : List Char → Option SetOperator
  | '&' :: '&' :: _ => some .intersection
  | '-' :: '-' :: _ => some .difference
  | '~' :: '~' :: _ => some .symmetricDifference
  | _ => none

/-- The class so far, to the right of an operator or without one. -/
def combine (o : Options) (left : Option (SetOperator × Nested CharClass))
    (right : Nested CharClass) : Nested CharClass :=
  match left with
  | none => right
  | some (op, left) =>
    let depth := max left.depth right.depth + 1
    let left := folded o left.value
    let right := folded o right.value
    match op with
    | .intersection => ⟨left.intersection right, depth⟩
    | .difference => ⟨left.difference right, depth⟩
    | .symmetricDifference => ⟨left.symmetricDifference right, depth⟩

/-- The items of a class that stand side by side. -/
structure Items where
  cls : CharClass
  count : Nat
  depth : Nat

/-- No items. -/
def Items.none : Items := ⟨.empty, 0, 0⟩

/-- One item more. -/
def Items.add (items : Items) (item : Nested CharClass) : Items :=
  ⟨items.cls.union item.value, items.count + 1, max items.depth item.depth⟩

/-- The class of all items; several items are a construction. -/
def Items.close (items : Items) : Nested CharClass :=
  ⟨items.cls, if items.count < 2 then items.depth else items.depth + 1⟩

/-- A character or a class inside of brackets. -/
def bracketItem : Step Primitive := do
  let c ← next
  if c = '\\' then escape
  else
    skip 1
    return .literal c

/-- The character of an item, for the end of a range. Without Unicode, classes have characters
of ASCII only. -/
def character : Primitive → Step Char
  | .literal c => do
    demand ((← get).options.unicode || c.toNat < 128)
    return c
  | _ => failure

/-- The members that an item adds. -/
def members : Primitive → Step CharClass
  | .cls cls => return cls
  | item => do return .single (← character item)

/-- The character that is looked at behind a hyphen, where `cs` follows. Blanks that are skipped
are passed over, and so is one number sign, but not the comment that it begins; if nothing is
left then, it is the character right behind the hyphen. -/
def behindHyphen (extended : Bool) (cs : List Char) : Option Char :=
  if extended then
    match trimLeft cs with
    | '#' :: comment => (trimLeft comment).head?.or cs.head?
    | behind => behind.head?.or cs.head?
  else cs.head?

/-- An item, or two with a hyphen between them. The hyphen is a character of its own in front
of the closing bracket, and part of an operator in front of another. -/
def bracketRange : Step CharClass := do
  let first ← bracketItem
  skipSpace
  let c ← next
  let behind := behindHyphen (← get).options.extended ((← rest).drop 1)
  if c ≠ '-' ∨ behind = some ']' ∨ behind = some '-' then members first
  else
    skipOne
    let low ← character first
    let second ← (do let _ ← next; bracketItem)
    let high ← character second
    demand (low.toNat ≤ high.toNat)
    return .range low.toNat high.toNat

/-- The items with the hyphens at the beginning of a class; at most as many steps as there are
characters. -/
def hyphens (items : Items) : Nat → Step Items
  | 0 => failure
  | steps + 1 => do
    if (← next) = '-' then
      skipOne
      hyphens (items.add ⟨.single '-', 0⟩) steps
    else return items

mutual

/-- A class in brackets. -/
def bracket : Nat → Step (Nested CharClass)
  | 0 => failure
  | fuel + 1 => do
    let o := (← get).options
    skipOne
    let negated := (← next) = '^'
    if negated then skipOne
    let items ← hyphens .none ((← rest).length + 1)
    let items ← if items.count = 0 ∧ (← next) = ']' then do
        skipOne
        let _ ← next
        pure (items.add ⟨.single ']', 0⟩)
      else pure items
    let inner ← bracketRest fuel none items
    return ⟨← finish o negated inner.value, inner.depth + 1⟩

/-- What follows in a class behind the items already read and the operator in front of them, to
the closing bracket. -/
def bracketRest : Nat → Option (SetOperator × Nested CharClass) → Items →
    Step (Nested CharClass)
  | 0, _, _ => failure
  | fuel + 1, left, items => do
    let o := (← get).options
    skipSpace
    let cs ← rest
    match cs with
    | [] => failure
    | ']' :: _ =>
      skip 1
      return combine o left items.close
    | c :: _ =>
      match setOperator? cs with
      | some op =>
        skip 2
        bracketRest fuel (some (op, combine o left items.close)) .none
      | none =>
        if c = '[' then
          match bracketName? cs with
          | some (negated, named, behind) =>
            goto behind
            let named ← finish o negated named
            bracketRest fuel left (items.add ⟨named, 0⟩)
          | none =>
            let nested ← bracket fuel
            bracketRest fuel left (items.add nested)
        else
          let item ← bracketRange
          bracketRest fuel left (items.add ⟨item, 0⟩)

end

/-! ### Repetition -/

/-- Digits of a number behind those already read, where blanks may stand between them if they
are skipped at all; at most as many steps as there are characters. -/
def digits (read : List Char) : Nat → Step (List Char)
  | 0 => return read.reverse
  | steps + 1 => do
    match ← rest with
    | c :: _ =>
      if c.isDigit then
        skipOne
        digits (c :: read) steps
      else return read.reverse
    | [] => return read.reverse

/-- A number with blanks around it, if there is one. -/
def count? : Step (Option Nat) := do
  modify fun s => { s with rest := trimLeft s.rest }
  let ds ← digits [] (← rest).length
  modify fun s => { s with rest := trimLeft s.rest }
  if ds.isEmpty then return none
  let n := Numeral.ofDigits 0 ds
  demand (n < 4294967296)
  return some n

/-- Whether a repetition is greedy: it is marked by a question mark if it is not what the
options say. -/
def greedy : Step Bool := do
  let o := (← get).options
  match ← rest with
  | '?' :: _ =>
    skip 1
    return o.lazy
  | _ => return !o.lazy

/-- The bounds of a repetition in braces. -/
def bounds : Step (Nat × Option Nat) := do
  skipOne
  let _ ← next
  let least ← count?
  if (← next) = ',' then
    skipOne
    if (← next) = '\x7d' then
      let some least := least | failure
      return (least, none)
    else
      let some least := least | failure
      let some most ← count? | failure
      demand (least ≤ most)
      return (least, some most)
  else
    let some least := least | failure
    return (least, some least)

/-! ### Groups -/

/-- The options in front of a colon or a closing bracket, where `dangling` says that the last
character was a minus. Also answers whether there was any. -/
def optionLetters (o : Options) (negated dangling : Bool) (seen : List Char) :
    List Char → Option (Bool × Options × List Char)
  | [] => none
  | c :: cs =>
    if c = ':' ∨ c = ')' then
      if dangling then none else some (negated || !seen.isEmpty, o, c :: cs)
    else if c = '-' then
      if negated then none else optionLetters o true true seen cs
    else if seen.contains c then none
    else
      match o.set? (!negated) c with
      | some o => optionLetters o negated false (c :: seen) cs
      | none => none

/-- The characters of the name of a group. -/
def isNameChar (first : Bool) (c : Char) : Bool :=
  let n := c.toNat
  c == '_' || Unicode.letter.contains n ||
    (!first && (c == '.' || c == '[' || c == ']' || Unicode.numeric.contains n))

/-- The name of a group, up to the closing angle. -/
def groupName : Step Unit := do
  let cs ← rest
  let name := cs.takeWhile (· != '>')
  let behind := cs.dropWhile (· != '>')
  let s ← get
  demand (!name.isEmpty && !behind.isEmpty && !s.names.contains name)
  demand ((name.take 1).all (isNameChar true) && (name.drop 1).all (isNameChar false))
  modify fun s => { s with rest := behind.drop 1, names := name :: s.names }

/-- The number of a new group. -/
def newGroup : Step Nat := do
  modify fun s => { s with groups := s.groups + 1 }
  return (← get).groups

/-- The head of a group. -/
inductive Head where
  /-- Options for the rest of the group around. -/
  | options (o : Options)
  /-- A group, with its number and the options that hold inside. -/
  | opening (index : Option Nat) (o : Options)

/-- Reads the head of a group, behind the opening bracket. -/
def head : Step Head := do
  skipOne
  let o := (← get).options
  let cs ← rest
  match cs with
  | '?' :: '=' :: _ => failure
  | '?' :: '!' :: _ => failure
  | '?' :: '<' :: '=' :: _ => failure
  | '?' :: '<' :: '!' :: _ => failure
  | '?' :: 'P' :: '<' :: rest =>
    let index ← newGroup
    goto rest
    groupName
    return .opening (some index) o
  | '?' :: '<' :: rest =>
    let index ← newGroup
    goto rest
    groupName
    return .opening (some index) o
  | '?' :: rest =>
    let some (any, inner, behind) := optionLetters o false false [] rest | failure
    goto (behind.drop 1)
    if behind.head? = some ')' then
      demand any
      return .options inner
    else return .opening none inner
  | _ =>
    let index ← newGroup
    return .opening (some index) o

/-! ### Expressions -/

/-- The parts of a sequence, the last one first; options leave a mark that cannot be
repeated. -/
abbrev Parts := List (Nested (Option Regex))

/-- A part that matches something. -/
def part (r : Regex) (depth : Nat) : Nested (Option Regex) := ⟨some r, depth⟩

/-- The greatest depth of several. -/
def depths {α : Type} (items : List (Nested α)) : Nat :=
  items.foldl (fun n item => max n item.depth) 0

/-- The expression that parts make up. -/
def join (parts : Parts) : Nested Regex :=
  ⟨.ofParts (parts.filterMap (·.value)).reverse,
    if parts.length < 2 then depths parts else depths parts + 1⟩

/-- The expression that branches make up, the last one first. -/
def close (branches : List (Nested Regex)) (parts : Parts) : Nested Regex :=
  match branches with
  | [] => join parts
  | _ =>
    let branches := (join parts :: branches).reverse
    ⟨.ofBranches (branches.map (·.value)), depths branches + 1⟩

/-- A character that stands for itself, or for both cases of itself. -/
def literal (o : Options) (c : Char) : Regex :=
  .ofClass (folded o (.single c))

/-- What a single construction matches. -/
def ofPrimitive (o : Options) : Primitive → Regex
  | .literal c => literal o c
  | .cls cls => .ofClass cls
  | .look l => .look l

/-- The characters that a dot matches. -/
def dot (o : Options) : Step Regex := do
  demand o.unicode
  if o.dotAll then return .set .full
  else if o.crlf then return .set (CharClass.complement ⟨[(10, 10), (13, 13)]⟩)
  else return .set (CharClass.complement ⟨[(10, 10)]⟩)

/-- The last part again and again. -/
def repeated (parts : Parts) (least : Nat) (most : Option Nat) : Step Parts := do
  match parts with
  | ⟨some r, depth⟩ :: parts =>
    let greedy ← greedy
    return part (.repeated least most greedy r) (depth + 1) :: parts
  | _ => failure

/-- What follows in a group behind the parts of the branch being read and the branches before
it, up to the closing bracket, which is left, or to the end. -/
def expression : Nat → List (Nested Regex) → Parts → Step (Nested Regex)
  | 0, _, _ => failure
  | fuel + 1, branches, parts => do
    skipSpace
    let o := (← get).options
    match ← rest with
    | [] => return close branches parts
    | ')' :: _ => return close branches parts
    | '|' :: _ =>
      skip 1
      expression fuel (join parts :: branches) []
    | '[' :: cs =>
      let cls ← bracket (2 * cs.length + 2)
      expression fuel branches (part (.ofClass cls.value) cls.depth :: parts)
    | '?' :: _ =>
      skip 1
      expression fuel branches (← repeated parts 0 (some 1))
    | '*' :: _ =>
      skip 1
      expression fuel branches (← repeated parts 0 none)
    | '+' :: _ =>
      skip 1
      expression fuel branches (← repeated parts 1 none)
    | '\x7b' :: _ =>
      demand (parts.head?.any (·.value.isSome))
      let (least, most) ← bounds
      demand ((← next) = '\x7d')
      skipOne
      expression fuel branches (← repeated parts least most)
    | '(' :: _ =>
      match ← head with
      | .options inner =>
        modify fun s => { s with options := inner }
        expression fuel branches (⟨none, 0⟩ :: parts)
      | .opening index inner =>
        modify fun s => { s with options := inner }
        let r ← expression fuel [] []
        demand ((← take) = ')')
        modify fun s => { s with options := o }
        let group := match index with
          | some i => .group i r.value
          | none => r.value
        expression fuel branches (part group (r.depth + 1) :: parts)
    | '\\' :: _ =>
      let p ← escape
      expression fuel branches (part (ofPrimitive o p) 0 :: parts)
    | '.' :: _ =>
      skip 1
      expression fuel branches (part (← dot o) 0 :: parts)
    | '^' :: _ =>
      skip 1
      let l : Look := if o.multiLine then .lineStart o.crlf else .textStart
      expression fuel branches (part (.look l) 0 :: parts)
    | '$' :: _ =>
      skip 1
      let l : Look := if o.multiLine then .lineEnd o.crlf else .textEnd
      expression fuel branches (part (.look l) 0 :: parts)
    | c :: _ =>
      skip 1
      expression fuel branches (part (literal o c) 0 :: parts)

end Reader

/-- How deep constructions may be nested. -/
def maxDepth : Nat := 250

/-- The expression that a notation spells, and how many groups with a number it has. Every
step takes a character, or closes a group that one has opened. -/
def ofNotation? (o : Options) (cs : List Char) : Option (Regex × Nat) :=
  match (Reader.expression (2 * cs.length + 2) [] []).run ⟨cs, o, 0, []⟩ with
  | some (r, s) =>
    if s.rest.isEmpty && r.depth ≤ maxDepth && r.value.isMatchable then some (r.value, s.groups)
    else none
  | none => none

end Regex

end Parley
