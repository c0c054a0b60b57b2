import Parley.Command

/-!
# Arguments

How a command and its options are spelled on the command line. Options stand before or
behind the command and the text it works on:

* a long option is a word behind two dashes, and may have its value behind an equals sign;
* short options are letters behind one dash, of which the last one may have its value right
  behind it, with or without an equals sign;
* an option that needs a value and has none takes the next argument, which must not begin
  with a dash;
* behind `--` there are no more options.

No option occurs twice.
-/

namespace Parley

/-- What an option is about. -/
inductive CommandOption where
  | verbose
  | version
  | userAgent
  | fetchTimeout
  | context
  | json
  | pretty
deriving DecidableEq, Repr

/-- A command, as yet without the text it works on. -/
inductive Verb where
  | evaluate
  | check
  | tokens
  | render
deriving DecidableEq, Repr

namespace Verb

/-- The verb that a word stands for. -/
def ofWord? : String → Option Verb
  | "eval" => some evaluate
  | "check" => some check
  | "tokens" => some tokens
  | "render" => some render
  | _ => none

end Verb

namespace CommandOption

/-- The option that a word stands for. -/
def ofWord? : String → Option CommandOption
  | "verbose" => some verbose
  | "version" => some version
  | "user-agent" => some userAgent
  | "fetch-timeout" => some fetchTimeout
  | "context" => some context
  | "json" => some json
  | "pretty" => some pretty
  | _ => none

/-- The option that a letter stands for. -/
def ofLetter? : Char → Option CommandOption
  | 'v' => some verbose
  | 'V' => some version
  | 'c' => some context
  | 'p' => some pretty
  | _ => none

/-- Whether an option needs a value. -/
def needsValue : CommandOption → Bool
  | userAgent => true
  | fetchTimeout => true
  | context => true
  | _ => false

/-- Whether an option may stand behind a verb; `none` is the place before all verbs. -/
def mayFollow (verb : Option Verb) : CommandOption → Bool
  | verbose => true
  | userAgent => true
  | fetchTimeout => true
  | version => verb = none
  | context => verb = some .evaluate ∨ verb = some .render
  | json => verb = some .evaluate
  | pretty => verb = some .evaluate

/-- The options that letters spell, and the value that the last one has behind it. -/
def ofLetters? : List Char → Option (List (CommandOption × Option String))
  | [] => some []
  | c :: cs => do
    let o ← ofLetter? c
    if o.needsValue then
      match cs with
      | [] => some [(o, none)]
      | '=' :: value => some [(o, some (String.ofList value))]
      | value => some [(o, some (String.ofList value))]
    else
      let rest ← ofLetters? cs
      some ((o, none) :: rest)

/-- The option that a long form spells. -/
def ofLong? (cs : List Char) : Option (CommandOption × Option String) := do
  let o ← ofWord? (String.ofList (cs.takeWhile (· ≠ '=')))
  match cs.dropWhile (· ≠ '=') with
  | '=' :: value => if o.needsValue then some (o, some (String.ofList value)) else none
  | _ => some (o, none)

end CommandOption

/-- The arguments before the verb, or those behind it, sorted. -/
structure Arguments where
  options : List (CommandOption × String) := []
  words : List String := []

namespace Arguments

/-- An argument alone. -/
inductive Shape where
  | word (w : String)
  /-- Two dashes, and nothing else. -/
  | stop
  | options (os : List (CommandOption × Option String))

/-- What an argument is, or nothing if it spells an option that there is not. -/
def shape? (argument : String) : Option Shape :=
  match argument.toList with
  | ['-', '-'] => some .stop
  | '-' :: '-' :: cs => (CommandOption.ofLong? cs).map fun o => .options [o]
  | '-' :: c :: cs => (CommandOption.ofLetters? (c :: cs)).map .options
  | _ => some (.word argument)

/-- Adds an option with its value, unless it is out of place or there already. -/
def add? (verb : Option Verb) (o : CommandOption) (value : String) (a : Arguments) :
    Option Arguments :=
  if o.mayFollow verb ∧ o ∉ a.options.map Prod.fst then
    some { a with options := a.options ++ [(o, value)] }
  else none

/-- Adds options that need no value from the next argument. What is returned beside them is
the one that does. -/
def addAll? (verb : Option Verb) : List (CommandOption × Option String) → Arguments →
    Option (Arguments × Option CommandOption)
  | [], a => some (a, none)
  | (o, some value) :: rest, a => (a.add? verb o value).bind (addAll? verb rest)
  | (o, none) :: rest, a =>
    if o.needsValue then some (a, some o) else (a.add? verb o "").bind (addAll? verb rest)

/-- Whether an argument can be the value of an option. -/
def isValue (argument : String) : Bool :=
  match argument.toList with
  | '-' :: _ :: _ => false
  | _ => true

/-- Reads arguments. Before the verb, reading ends with the first word, and what follows is
left over; `pending` is an option that is waiting for its value. -/
def read? (verb : Option Verb) (pending : Option CommandOption) (a : Arguments) :
    List String → Option (Arguments × List String)
  | [] => if pending = none then some (a, []) else none
  | argument :: rest =>
    match pending with
    | some o =>
      if isValue argument then (a.add? verb o argument).bind fun a => read? verb none a rest
      else none
    | none =>
      match shape? argument with
      | none => none
      | some .stop => some ({ a with words := a.words ++ rest }, [])
      | some (.word w) =>
        if verb = none then some ({ a with words := [w] }, rest)
        else read? verb none { a with words := a.words ++ [w] } rest
      | some (.options os) =>
        match addAll? verb os a with
        | none => none
        | some (a, pending) => read? verb pending a rest

/-- The value of an option. -/
def value? (o : CommandOption) (a : Arguments) : Option String :=
  a.options.lookup o

/-- Whether an option is there. -/
def has (o : CommandOption) (a : Arguments) : Bool :=
  (a.value? o).isSome

end Arguments

/-- What the arguments of the program ask for. -/
inductive Request where
  | version
  | run (settings : Settings) (command : Command)
deriving DecidableEq, Repr

namespace Request

/-- The line about the version of the program. -/
def versionLine : String := "chatexpr 0.1.0"

/-- The settings that options ask for: those behind the verb win. -/
def settings? (before behind : Arguments) : Option Settings := do
  let pick o := (behind.value? o).or (before.value? o)
  let standard : Settings := {}
  let timeout ←
    match pick .fetchTimeout with
    | none => some standard.fetchTimeout
    | some digits =>
      match Numeral.int? digits.toList with
      | some n =>
        if 0 ≤ n ∧ n < 2 * Whole.bound ∧ !digits.startsWith "-" then some n.toNat else none
      | none => none
  some { standard with
    userAgent := (pick .userAgent).getD standard.userAgent
    fetchTimeout := timeout }

/-- The form that options ask for. -/
def form (a : Arguments) : Form :=
  if a.has .json then if a.has .pretty then .pretty else .compact else .text

/-- The command that is asked for. -/
def command? (verb : Verb) (a : Arguments) : Option Command :=
  match a.words with
  | [text] =>
    match verb with
    | .evaluate => some (.evaluate text (a.value? .context) (form a))
    | .render => some (.render text (a.value? .context))
    | .check => some (.check text)
    | .tokens => some (.tokens text)
  | _ => none

/-- **What arguments ask for**, or nothing if they make no sense. -/
def ofArguments? (arguments : List String) : Option Request := do
  let (before, rest) ← Arguments.read? none none {} arguments
  if before.has .version then some .version
  else
    match before.words with
    | [word] =>
      let verb ← Verb.ofWord? word
      let (behind, _) ← Arguments.read? (some verb) none {} rest
      let settings ← settings? before behind
      let command ← command? verb behind
      some (.run settings command)
    | _ => none

end Request

end Parley
