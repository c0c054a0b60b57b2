import Parley.Pattern.Reader
import Parley.Pattern.Program

/-!
# Patterns

What stands to the right of `matches`, and the second argument of `fetchHtml`. A pattern is a
regular expression, or one between slashes with flags behind the second slash:

    /body/flags

The second slash is the last one of the text, so that the body may hold slashes itself; and
the text is only taken apart when everything behind that slash is a flag. Of the flags `i`,
`m`, `s` and `x` set an option each. The flags `g`, `u` and `y` are accepted and change
nothing.
-/

namespace Parley

namespace Pattern

/-- The letters that may stand behind the second slash. -/
def flagLetters : List Char := ['g', 'i', 'm', 's', 'u', 'y', 'x']

/-- The options that flags set. -/
def options (flags : List Char) : Regex.Options :=
  { Regex.Options.initial with
    ignoreCase := flags.contains 'i'
    multiLine := flags.contains 'm'
    dotAll := flags.contains 's'
    extended := flags.contains 'x' }

/-- The body and the flags of a pattern between slashes, if it is one. -/
def delimited? : List Char → Option (List Char × List Char)
  | '/' :: rest =>
    match rest.reverse.dropWhile (· != '/') with
    | [] => none
    | _ :: body =>
      let flags := (rest.reverse.takeWhile (· != '/')).reverse
      if flags.all flagLetters.contains then some (body.reverse, flags) else none
  | _ => none

/-- The regular expression that a pattern consists of, and the options set for it. -/
def bodyAndOptions (pattern : List Char) : List Char × Regex.Options :=
  match delimited? pattern with
  | some (body, flags) => (body, options flags)
  | none => (pattern, .initial)

end Pattern

/-- A pattern that can be matched. -/
structure Pattern where
  /-- The regular expression as it was written. -/
  source : List Char
  program : Program

namespace Pattern

/-- The pattern that a text spells, if it spells one. -/
def compile? (pattern : List Char) : Option Pattern :=
  let (source, options) := bodyAndOptions pattern
  (Regex.ofNotation? options source).map fun r => ⟨source, .ofRegex r.1⟩

/-- Whether the pattern matches somewhere in a text. -/
def matchesIn (p : Pattern) (text : List Char) : Bool :=
  (p.program.find? text).isSome

/-- The part of a text that the pattern picks out: what the first group with a number has
matched, if it took part in the match, and otherwise the match as a whole. -/
def fragment? (p : Pattern) (text : List Char) : Option (List Char) :=
  (p.program.find? text).bind fun slots =>
    (Program.part? slots 1 text).or (Program.part? slots 0 text)

end Pattern

end Parley
