import Parley.Template

/-!
# The split of a template

`Parley.Template.IsSplit` says what a split of a template is without saying how one is found:
written out again the segments are the template; texts are neither empty nor next to each
other; an expression ends at the first brace with an even number of quotes in front of it; and
`${` stands in a text only where no such brace follows.

There is exactly one split (`Parley.isSplit_iff_eq_splitTemplate`). Both halves of this come
from three step lemmas, one for each way in which the scanner goes on, that say what a split
looks like in front: of the empty template, of one in front of which an expression is found,
and of one where none is. The accumulator of the scanner is dealt with once, in
`Parley.Template.splitFrom_append`.
-/

namespace Parley

namespace Segment

/-- How a segment is written in a template. -/
def write : Segment → List Char
  | text s => s
  | expression source => '$' :: '\x7b' :: (source ++ ['\x7d'])

end Segment

namespace Template

/-- The template that segments make up. -/
def join (segments : List Segment) : List Char :=
  segments.flatMap Segment.write

/-- The number of double quotes is even. -/
def EvenQuotes (s : List Char) : Prop :=
  s.count '"' % 2 = 0

/-- **The source of an expression**: a brace behind it closes the expression, and no brace
inside of it does. -/
def IsSource (source : List Char) : Prop :=
  EvenQuotes source ∧ ∀ front back, source = front ++ '\x7d' :: back → ¬EvenQuotes front

/-- There is a brace that closes an expression which begins in front of these characters. -/
def Closes (cs : List Char) : Prop :=
  ∃ front back, cs = front ++ '\x7d' :: back ∧ EvenQuotes front

/-- **A split of a template** into segments. -/
structure IsSplit (template : List Char) (segments : List Segment) : Prop where
  /-- Nothing of the template is lost, and nothing is added. -/
  join_eq : join segments = template
  text_ne_nil : ∀ s, .text s ∈ segments → s ≠ []
  /-- Between two texts there is an expression. -/
  texts_apart : ∀ before s s' after, segments ≠ before ++ .text s :: .text s' :: after
  /-- An expression ends at the first brace that can close it. -/
  isSource : ∀ source, .expression source ∈ segments → IsSource source
  /-- Where `${` stands in a text, nothing in the rest of the template closes it. -/
  not_closes : ∀ before s after front back, segments = before ++ .text s :: after →
    s = front ++ '$' :: '\x7b' :: back → ¬Closes (back ++ join after)

@[simp] theorem join_cons (segment : Segment) (segments : List Segment) :
    join (segment :: segments) = segment.write ++ join segments := rfl

/-! ### The closing brace

The brace is looked for character by character, and whether a string literal is open is carried
along. So what is said about the quotes in front of a brace is said for both cases. -/

/-- No string literal is open behind some characters; `quoted` says whether one is open in
front of them. -/
def Unquoted (quoted : Bool) (s : List Char) : Prop :=
  (s.count '"' + quoted.toNat) % 2 = 0

theorem unquoted_nil {quoted : Bool} : Unquoted quoted [] ↔ quoted = false := by
  cases quoted <;> simp [Unquoted]

theorem unquoted_cons {quoted : Bool} {c : Char} {s : List Char} :
    Unquoted quoted (c :: s) ↔ Unquoted (if c = '"' then !quoted else quoted) s := by
  by_cases hc : c = '"'
  · subst hc
    cases quoted
    · simp [Unquoted]
    · simp [Unquoted]
      omega
  · simp [Unquoted, hc]

/-- `Parley.Template.IsSource`, for both cases. -/
def IsSourceFrom (quoted : Bool) (source : List Char) : Prop :=
  Unquoted quoted source ∧
    ∀ front back, source = front ++ '\x7d' :: back → ¬Unquoted quoted front

/-- `Parley.Template.Closes`, for both cases. -/
def ClosesFrom (quoted : Bool) (cs : List Char) : Prop :=
  ∃ front back, cs = front ++ '\x7d' :: back ∧ Unquoted quoted front

theorem isSourceFrom_nil {quoted : Bool} : IsSourceFrom quoted [] ↔ quoted = false := by
  simp [IsSourceFrom, unquoted_nil]

theorem closesFrom_cons {quoted : Bool} {c : Char} {cs : List Char} :
    ClosesFrom quoted (c :: cs) ↔ (c = '\x7d' ∧ quoted = false) ∨
      ClosesFrom (if c = '"' then !quoted else quoted) cs := by
  constructor
  · rintro ⟨front, back, heq, hfront⟩
    rcases List.cons_eq_append_iff.1 heq with ⟨rfl, hback⟩ | ⟨front, rfl, hcs⟩
    · exact .inl ⟨(List.cons.inj hback).1.symm, unquoted_nil.1 hfront⟩
    · exact .inr ⟨front, back, hcs, unquoted_cons.1 hfront⟩
  · rintro (⟨rfl, rfl⟩ | ⟨front, back, rfl, hfront⟩)
    · exact ⟨[], cs, rfl, unquoted_nil.2 rfl⟩
    · exact ⟨c :: front, back, rfl, unquoted_cons.2 hfront⟩

/-- A source is one that no brace closes before its end. -/
theorem isSourceFrom_iff {quoted : Bool} {source : List Char} :
    IsSourceFrom quoted source ↔ Unquoted quoted source ∧ ¬ClosesFrom quoted source := by
  simp only [IsSourceFrom, ClosesFrom, not_exists, not_and]

theorem isSourceFrom_cons {quoted : Bool} {c : Char} {source : List Char} :
    IsSourceFrom quoted (c :: source) ↔ ¬(c = '\x7d' ∧ quoted = false) ∧
      IsSourceFrom (if c = '"' then !quoted else quoted) source := by
  rw [isSourceFrom_iff, isSourceFrom_iff, unquoted_cons, closesFrom_cons, not_or]
  exact and_left_comm

theorem close?_cons {quoted : Bool} {c : Char} (hc : ¬(c = '\x7d' ∧ quoted = false))
    (cs : List Char) :
    close? quoted (c :: cs) =
      (close? (if c = '"' then !quoted else quoted) cs).map fun p => (c :: p.1, p.2) := by
  rw [close?, if_neg (by simpa using hc)]

/-- **The brace that is found** is the first one outside of a string literal. -/
theorem close?_eq_some_iff {quoted : Bool} {cs source rest : List Char} :
    close? quoted cs = some (source, rest) ↔
      cs = source ++ '\x7d' :: rest ∧ IsSourceFrom quoted source := by
  induction cs generalizing quoted source with
  | nil => simp [close?]
  | cons c cs ih =>
    by_cases hc : c = '\x7d' ∧ quoted = false
    · obtain ⟨rfl, rfl⟩ := hc
      constructor
      · rintro ⟨⟩
        exact ⟨rfl, isSourceFrom_nil.2 rfl⟩
      · rintro ⟨heq, hsource⟩
        cases source with
        | nil =>
          cases heq
          rfl
        | cons d source =>
          obtain ⟨rfl, -⟩ := List.cons.inj heq
          exact absurd ⟨rfl, rfl⟩ (isSourceFrom_cons.1 hsource).1
    · -- the character belongs to the source, and the search goes on behind it
      rw [close?_cons hc]
      constructor
      · intro h
        obtain ⟨⟨front, back⟩, hclose, hpair⟩ := Option.map_eq_some_iff.1 h
        cases hpair
        obtain ⟨rfl, hfront⟩ := ih.1 hclose
        exact ⟨rfl, isSourceFrom_cons.2 ⟨hc, hfront⟩⟩
      · rintro ⟨heq, hsource⟩
        cases source with
        | nil =>
          obtain ⟨rfl, -⟩ := List.cons.inj heq
          exact absurd ⟨rfl, isSourceFrom_nil.1 hsource⟩ hc
        | cons d source =>
          obtain ⟨rfl, hcs⟩ := List.cons.inj heq
          rw [ih.2 ⟨hcs, (isSourceFrom_cons.1 hsource).2⟩]
          rfl

/-- **No brace is found** only where none closes. -/
theorem close?_eq_none_iff {quoted : Bool} {cs : List Char} :
    close? quoted cs = none ↔ ¬ClosesFrom quoted cs := by
  induction cs generalizing quoted with
  | nil => simp [close?, ClosesFrom]
  | cons c cs ih =>
    rw [closesFrom_cons, not_or, ← ih]
    by_cases hc : c = '\x7d' ∧ quoted = false
    · obtain ⟨rfl, rfl⟩ := hc
      simp [close?]
    · rw [close?_cons hc, Option.map_eq_none_iff]
      exact (and_iff_right hc).symm

theorem open?_eq_some_iff {cs source rest : List Char} :
    open? cs = some (source, rest) ↔
      cs = (Segment.expression source).write ++ rest ∧ IsSource source := by
  have hwrite : (Segment.expression source).write ++ rest =
      '$' :: '\x7b' :: (source ++ '\x7d' :: rest) := by
    simp [Segment.write]
  rw [hwrite]
  unfold open?
  split
  · rw [close?_eq_some_iff, List.cons.injEq, List.cons.injEq]
    simp only [true_and]
    exact Iff.rfl
  · rename_i hopen
    simpa using fun h => absurd h (hopen _)

theorem open?_eq_none_iff {cs : List Char} :
    open? cs = none ↔ ∀ back, cs = '$' :: '\x7b' :: back → ¬Closes back := by
  unfold open?
  split
  · rw [close?_eq_none_iff]
    exact ⟨fun h back hback => by cases hback; exact h, fun h => h _ rfl⟩
  · rename_i hopen
    simpa using fun back h => absurd h (hopen back)

/-! ### The scanner, step by step -/

/-- A character in front of segments; it goes into the text in front, if there is one. -/
def prepend (c : Char) : List Segment → List Segment
  | .text s :: segments => .text (c :: s) :: segments
  | segments => .text [c] :: segments

theorem prepend_of_ne_text (c : Char) {segments : List Segment}
    (h : ∀ s after, segments ≠ .text s :: after) :
    prepend c segments = .text [c] :: segments := by
  unfold prepend
  split
  · exact absurd rfl (h _ _)
  · rfl

theorem splitFrom_of_open {cs source rest : List Char} (h : open? cs = some (source, rest))
    (text : List Char) :
    splitFrom text cs = flush text (.expression source :: splitFrom [] rest) := by
  rw [splitFrom]
  split
  · rename_i heq
    rw [h] at heq
    cases heq
    rfl
  · rename_i heq
    rw [h] at heq
    cases heq

theorem splitFrom_of_not_open {c : Char} {cs : List Char} (h : open? (c :: cs) = none)
    (text : List Char) : splitFrom text (c :: cs) = splitFrom (c :: text) cs := by
  rw [splitFrom]
  split
  · rename_i heq
    rw [h] at heq
    cases heq
  · rfl

theorem splitFrom_nil (text : List Char) : splitFrom text [] = flush text [] := by
  rw [splitFrom]
  rfl

/-- **The first character of the text read so far** is the last one to be written: it comes in
front of what the scanner makes of all the others. -/
theorem splitFrom_append (c : Char) (text cs : List Char) :
    splitFrom (text ++ [c]) cs = prepend c (splitFrom text cs) := by
  -- the text is written in two places, and in both an expression follows it, or nothing
  have hflush : ∀ text segments, (∀ s after, segments ≠ .text s :: after) →
      flush (text ++ [c]) segments = prepend c (flush text segments) := by
    intro text segments hsegments
    cases text with
    | nil => exact (prepend_of_ne_text c hsegments).symm
    | cons d text => simp [flush, prepend]
  fun_induction splitFrom text cs with
  | case1 text cs source rest hopen ih =>
    rw [splitFrom_of_open hopen, hflush _ _ (by simp)]
  | case2 text hopen => rw [splitFrom_nil, hflush _ _ (by simp)]
  | case3 text d cs hopen ih => rw [splitFrom_of_not_open hopen, ← ih, List.cons_append]

/-! ### A split, from its first segment -/

/-- What a split demands of a segment with others behind it. -/
def Leads (segments : List Segment) : Segment → Prop
  | .text s => s ≠ [] ∧ (∀ s' after, segments ≠ .text s' :: after) ∧
      ∀ front back, s = front ++ '$' :: '\x7b' :: back → ¬Closes (back ++ join segments)
  | .expression source => IsSource source

theorem isSplit_cons {cs : List Char} {segment : Segment} {segments : List Segment} :
    IsSplit cs (segment :: segments) ↔
      Leads segments segment ∧ ∃ rest, cs = segment.write ++ rest ∧ IsSplit rest segments := by
  constructor
  · intro h
    refine ⟨?_, join segments, h.join_eq.symm, rfl, ?_, ?_, ?_, ?_⟩
    · cases segment with
      | text s =>
        exact ⟨h.text_ne_nil s List.mem_cons_self,
          fun s' after heq => h.texts_apart [] s s' after (heq ▸ rfl),
          fun front back => h.not_closes [] s segments front back rfl⟩
      | expression source => exact h.isSource source List.mem_cons_self
    · exact fun s hs => h.text_ne_nil s (List.mem_cons_of_mem _ hs)
    · exact fun before s s' after heq =>
        h.texts_apart (segment :: before) s s' after (heq ▸ rfl)
    · exact fun source hs => h.isSource source (List.mem_cons_of_mem _ hs)
    · exact fun before s after front back heq =>
        h.not_closes (segment :: before) s after front back (heq ▸ rfl)
  · rintro ⟨hlead, rest, rfl, h⟩
    refine ⟨by rw [join_cons, h.join_eq], ?_, ?_, ?_, ?_⟩
    · intro s hs
      rcases List.mem_cons.1 hs with rfl | hs
      · exact hlead.1
      · exact h.text_ne_nil s hs
    · intro before s s' after heq
      rcases List.cons_eq_append_iff.1 heq with ⟨rfl, hfirst⟩ | ⟨before, rfl, hlater⟩
      · cases hfirst
        exact hlead.2.1 s' after rfl
      · exact h.texts_apart before s s' after hlater
    · intro source hs
      rcases List.mem_cons.1 hs with rfl | hs
      · exact hlead
      · exact h.isSource source hs
    · intro before s after front back heq hs
      rcases List.cons_eq_append_iff.1 heq with ⟨rfl, hfirst⟩ | ⟨before, rfl, hlater⟩
      · cases hfirst
        exact hlead.2.2 front back hs
      · exact h.not_closes before s after front back hlater hs

theorem isSplit_nil {segments : List Segment} : IsSplit [] segments ↔ segments = [] := by
  constructor
  · intro h
    cases segments with
    | nil => rfl
    | cons segment segments =>
      obtain ⟨hlead, rest, heq, -⟩ := isSplit_cons.1 h
      cases segment with
      | text s => exact absurd (List.nil_eq_append_iff.1 heq).1 hlead.1
      | expression source => cases heq
  · rintro rfl
    exact ⟨rfl, by simp, by simp, by simp, by simp⟩

/-- A template that begins with an opening brace begins, in a split, with a text. -/
theorem exists_text_of_isSplit {cs : List Char} {segments : List Segment}
    (h : IsSplit ('\x7b' :: cs) segments) : ∃ s after, segments = .text s :: after := by
  cases segments with
  | nil => cases h.join_eq
  | cons segment segments =>
    obtain ⟨-, rest, heq, -⟩ := isSplit_cons.1 h
    cases segment with
    | text s => exact ⟨s, segments, rfl⟩
    | expression source => cases heq

/-- **Where an expression is found**, every split begins with it. -/
theorem isSplit_of_open {cs source rest : List Char} (hopen : open? cs = some (source, rest))
    {segments : List Segment} :
    IsSplit cs segments ↔
      ∃ behind, segments = .expression source :: behind ∧ IsSplit rest behind := by
  obtain ⟨hcs, hsource⟩ := open?_eq_some_iff.1 hopen
  constructor
  · intro h
    cases segments with
    | nil => cases h.join_eq.trans hcs
    | cons segment segments =>
      obtain ⟨hlead, rest', heq, hrest⟩ := isSplit_cons.1 h
      cases segment with
      | expression source' =>
        rw [open?_eq_some_iff.2 ⟨heq, hlead⟩] at hopen
        cases hopen
        exact ⟨segments, rfl, hrest⟩
      | text s =>
        obtain ⟨hne, hapart, hcloses⟩ := hlead
        have hboth : s ++ rest' = (Segment.expression source).write ++ rest :=
          heq.symm.trans hcs
        rcases s with _ | ⟨c, _ | ⟨d, s⟩⟩
        · exact absurd rfl hne
        · -- the rest would begin with the brace, and hence with a text
          obtain ⟨rfl, rfl⟩ : c = '$' ∧ rest' = '\x7b' :: (source ++ '\x7d' :: rest) := by
            simpa [Segment.write] using hboth
          obtain ⟨s', after, hs'⟩ := exists_text_of_isSplit hrest
          exact absurd hs' (hapart s' after)
        · -- the text would go on with what the brace behind the source closes
          obtain ⟨rfl, rfl, hs⟩ : c = '$' ∧ d = '\x7b' ∧ s ++ rest' = source ++ '\x7d' :: rest := by
            simpa [Segment.write] using hboth
          refine absurd ⟨source, rest, ?_, hsource.1⟩ (hcloses [] s rfl)
          rw [hrest.join_eq, hs]
  · rintro ⟨behind, rfl, h⟩
    exact isSplit_cons.2 ⟨hsource, rest, hcs, h⟩

/-- **Where no expression is found**, a split is one of what is behind the first character,
with this character in front. -/
theorem isSplit_of_not_open {c : Char} {cs : List Char} (hopen : open? (c :: cs) = none)
    {segments : List Segment} :
    IsSplit (c :: cs) segments ↔ ∃ behind, segments = prepend c behind ∧ IsSplit cs behind := by
  constructor
  · intro h
    cases segments with
    | nil => cases h.join_eq
    | cons segment segments =>
      obtain ⟨hlead, rest, heq, hrest⟩ := isSplit_cons.1 h
      cases segment with
      | expression source =>
        rw [open?_eq_some_iff.2 ⟨heq, hlead⟩] at hopen
        cases hopen
      | text s =>
        obtain ⟨hne, hapart, hcloses⟩ := hlead
        obtain ⟨d, s, rfl⟩ := List.exists_cons_of_ne_nil hne
        obtain ⟨rfl, rfl⟩ := List.cons.inj heq
        by_cases hs : s = []
        · subst hs
          exact ⟨segments, (prepend_of_ne_text c hapart).symm, hrest⟩
        · refine ⟨.text s :: segments, rfl, isSplit_cons.2 ⟨⟨hs, hapart, ?_⟩, rest, rfl, hrest⟩⟩
          intro front back hback
          exact hcloses (c :: front) back (hback ▸ rfl)
  · rintro ⟨behind, rfl, h⟩
    by_cases htext : ∃ s after, behind = .text s :: after
    · obtain ⟨s, after, rfl⟩ := htext
      obtain ⟨⟨-, hapart, hcloses⟩, rest, rfl, hrest⟩ := isSplit_cons.1 h
      refine isSplit_cons.2 ⟨⟨by simp, hapart, fun front back heq => ?_⟩, rest, rfl, hrest⟩
      rcases List.cons_eq_append_iff.1 heq with ⟨rfl, hfirst⟩ | ⟨front, rfl, hlater⟩
      · obtain ⟨rfl, rfl⟩ := List.cons.inj hfirst
        rw [hrest.join_eq]
        exact open?_eq_none_iff.1 hopen _ rfl
      · exact hcloses front back hlater
    · have hapart : ∀ s after, behind ≠ .text s :: after :=
        fun s after heq => htext ⟨s, after, heq⟩
      rw [prepend_of_ne_text c hapart]
      refine isSplit_cons.2 ⟨⟨by simp, hapart, fun front back heq => ?_⟩, cs, rfl, h⟩
      -- one character is no `${`
      have hlength := congrArg List.length heq
      simp only [List.length_cons, List.length_nil, List.length_append] at hlength
      omega

/-- **The scanner finds the one split.** -/
theorem isSplit_iff_eq_splitFrom {cs : List Char} {segments : List Segment} :
    IsSplit cs segments ↔ segments = splitFrom [] cs := by
  -- behind an expression the scanner starts anew, so the induction is on the length
  induction h : cs.length using Nat.strongRecOn generalizing cs segments with
  | ind n ih =>
    subst h
    cases hopen : open? cs with
    | some p =>
      obtain ⟨source, rest⟩ := p
      rw [isSplit_of_open hopen, splitFrom_of_open hopen]
      simp only [ih _ (open?_length hopen) rfl, exists_eq_right]
      exact Iff.rfl
    | none =>
      cases cs with
      | nil =>
        rw [isSplit_nil, splitFrom_nil]
        exact Iff.rfl
      | cons c cs =>
        rw [isSplit_of_not_open hopen, splitFrom_of_not_open hopen, ← List.nil_append [c],
          splitFrom_append]
        simp only [ih _ (Nat.lt_succ_self _) rfl, exists_eq_right]

end Template

/-- **A template has exactly one split**, and `Parley.splitTemplate` finds it. -/
theorem isSplit_iff_eq_splitTemplate (template : String) (segments : List Segment) :
    Template.IsSplit template.toList segments ↔ segments = splitTemplate template :=
  Template.isSplit_iff_eq_splitFrom

end Parley
