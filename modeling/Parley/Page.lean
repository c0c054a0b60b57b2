import Parley.Pattern
import Parley.Text.Blank

/-!
# Text of a page

What is shown of a page that was fetched: a fragment of it, freed of markup. Cleaning has
three steps, each a pass over the whole text.

1. Everything from `<` to the next `>` gives way to a blank; an unclosed `<` takes the rest
   of the text with it. A `>` that closes nothing stays.
2. The names of six characters are replaced by the characters, one name after another. The
   ampersand comes last, so that what it is part of is not taken for a name.
3. Words are put one blank apart.
-/

namespace Parley

namespace Page

/-- The text without its tags, where `inTag` says whether a tag has been opened. -/
def dropTags (inTag : Bool) : List Char → List Char
  | [] => []
  | c :: cs =>
    if c = '<' then dropTags true cs
    else if inTag then
      if c = '>' then ' ' :: dropTags false cs else dropTags true cs
    else c :: dropTags false cs

/-- The text with every occurrence of a name replaced, from left to right; `skip` characters
belong to an occurrence that has been replaced already. -/
def replaceFrom (name : List Char) (character : Char) : Nat → List Char → List Char
  | _, [] => []
  | skip + 1, _ :: cs => replaceFrom name character skip cs
  | 0, c :: cs =>
    if name.isPrefixOf (c :: cs) then character :: replaceFrom name character (name.length - 1) cs
    else c :: replaceFrom name character 0 cs

/-- The names of characters, in the order in which they are replaced. -/
def entities : List (List Char × Char) :=
  [("&nbsp;".toList, ' '), ("&lt;".toList, '<'), ("&gt;".toList, '>'),
   ("&quot;".toList, '\"'), ("&#39;".toList, '\''), ("&amp;".toList, '&')]

/-- The text with the names of characters replaced. -/
def decodeEntities (cs : List Char) : List Char :=
  entities.foldl (fun cs e => replaceFrom e.1 e.2 0 cs) cs

/-- The words of a text, one blank apart. -/
def collapse (cs : List Char) : List Char :=
  [' '].intercalate (words cs)

/-- The text of a fragment. -/
def clean (cs : List Char) : List Char :=
  collapse (decodeEntities (dropTags false cs))

/-- The text of the fragment of a page that a pattern picks out; nothing where it does not
match. -/
def extract (page : List Char) (p : Pattern) : List Char :=
  match p.fragment? page with
  | some fragment => clean fragment
  | none => []

end Page

end Parley
