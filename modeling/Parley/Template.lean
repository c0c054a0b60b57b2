/-!
# Templates

A template is text with expressions in it, each between `${` and a closing brace. The brace
that closes an expression is the first one outside of a string literal; quotes outside of
expressions mean nothing. Where no brace closes it, `${` is text.
-/

namespace Parley

/-- A piece of a template. -/
inductive Segment where
  | text (s : List Char)
  /-- The source between the braces. -/
  | expression (source : List Char)
deriving DecidableEq, Repr

namespace Template

/-- The characters up to the brace that closes an expression, and those behind it;
`quoted` says whether a string literal has been opened. -/
def close? (quoted : Bool) : List Char → Option (List Char × List Char)
  | [] => none
  | c :: cs =>
    if c = '\x7d' && !quoted then some ([], cs)
    else (close? (if c = '\"' then !quoted else quoted) cs).map fun p => (c :: p.1, p.2)

/-- What is left behind the closing brace is shorter. -/
theorem close?_length {quoted : Bool} {cs source rest : List Char}
    (h : close? quoted cs = some (source, rest)) : rest.length < cs.length := by
  induction cs generalizing quoted source with
  | nil => simp [close?] at h
  | cons c cs ih =>
    unfold close? at h
    split at h
    · cases h
      simp
    · obtain ⟨p, hp, hq⟩ := Option.map_eq_some_iff.1 h
      obtain ⟨s, r⟩ := p
      cases hq
      have hr : r.length < cs.length := ih hp
      simp only [List.length_cons]
      omega

/-- The expression in front, if one begins here: its source, and what follows its brace. -/
def open? : List Char → Option (List Char × List Char)
  | '$' :: '\x7b' :: cs => close? false cs
  | _ => none

theorem open?_length {cs source rest : List Char} (h : open? cs = some (source, rest)) :
    rest.length < cs.length := by
  unfold open? at h
  split at h
  · have := close?_length h
    simp only [List.length_cons]
    omega
  · exact absurd h (by simp)

/-- A text in front of segments; the empty text is left out. -/
def flush (text : List Char) (segments : List Segment) : List Segment :=
  if text.isEmpty then segments else .text text.reverse :: segments

/-- The segments of a template, where `text` holds the text read so far, last character
first. -/
def splitFrom (text : List Char) (cs : List Char) : List Segment :=
  match _h : open? cs with
  | some (source, rest) => flush text (.expression source :: splitFrom [] rest)
  | none =>
    match cs with
    | [] => flush text []
    | c :: cs => splitFrom (c :: text) cs
termination_by cs.length
decreasing_by
  · exact open?_length _h
  · simp

end Template

/-- The segments of a template, in order. -/
def splitTemplate (template : String) : List Segment :=
  Template.splitFrom [] template.toList

end Parley
