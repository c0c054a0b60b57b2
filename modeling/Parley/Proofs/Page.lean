import Parley.Page
import Parley.Proofs.Text.Words

/-!
# What is shown of a page

The three passes of `Parley.Page.clean` against what they are for, which is said by a relation for
each of them: `Parley.Page.Untagged` for the tags, `Parley.Page.Decoded` for the names of
characters, and `Parley.Spaced` for the words.

The names are the point. They are to be decoded all at once, in a single scan that never looks at
what it has put in, but they are replaced one after another, each time in the whole text. That this
comes to the same rests on the table: every name begins with an ampersand and has no other
(so no two of them overlap), and the character of a name occurs in no name that is replaced later
(`Parley.Page.Orderly`). So the first name of a table may be replaced ahead of the scan for
the others (`Parley.Page.Decoded.replace`), and the whole table follows by induction
(`Parley.Page.Decoded.foldl_replaceFrom`). The ampersand is part of all names, and so it has to come
last.
-/

namespace Parley

namespace Page

/-! ### Tags -/

/-- **A text without its tags**: everything from `<` to the next `>` gives way to a blank, and
everything behind a `<` is lost where there is no `>`. -/
inductive Untagged : List Char → List Char → Prop
  | nil : Untagged [] []
  | char {c : Char} {cs ds : List Char} (hc : c ≠ '<') (hcs : Untagged cs ds) :
      Untagged (c :: cs) (c :: ds)
  | tag {inside cs ds : List Char} (hinside : '>' ∉ inside) (hcs : Untagged cs ds) :
      Untagged ('<' :: (inside ++ '>' :: cs)) (' ' :: ds)
  | unclosed {cs : List Char} (hcs : '>' ∉ cs) : Untagged ('<' :: cs) []

theorem dropTags_closed {inside : List Char} (h : '>' ∉ inside) (cs : List Char) :
    dropTags true (inside ++ '>' :: cs) = ' ' :: dropTags false cs := by
  induction inside with
  | nil => rfl
  | cons c inside ih =>
    have hc : c ≠ '>' := (List.ne_of_not_mem_cons h).symm
    simp [dropTags, hc, ih (List.not_mem_of_not_mem_cons h)]

theorem dropTags_unclosed {cs : List Char} (h : '>' ∉ cs) : dropTags true cs = [] := by
  induction cs with
  | nil => rfl
  | cons c cs ih =>
    have hc : c ≠ '>' := (List.ne_of_not_mem_cons h).symm
    simp [dropTags, hc, ih (List.not_mem_of_not_mem_cons h)]

theorem Untagged.dropTags_eq {cs ds : List Char} (h : Untagged cs ds) : dropTags false cs = ds := by
  induction h with
  | nil => rfl
  | char hc _ ih => simp [dropTags, hc, ih]
  | tag hinside _ ih => rw [dropTags, if_pos rfl, dropTags_closed hinside, ih]
  | unclosed hcs => rw [dropTags, if_pos rfl, dropTags_unclosed hcs]

/-- The tags are taken out, also where a part of the first one has been read. -/
theorem untagged_dropTags (cs : List Char) :
    Untagged cs (dropTags false cs) ∧
      ∀ inside, '>' ∉ inside → Untagged ('<' :: (inside ++ cs)) (dropTags true cs) := by
  induction cs with
  | nil =>
    refine ⟨.nil, fun inside hinside => ?_⟩
    rw [List.append_nil]
    exact .unclosed hinside
  | cons c cs ih =>
    obtain ⟨htext, htag⟩ := ih
    constructor
    · by_cases hc : c = '<'
      · subst hc
        exact htag [] List.not_mem_nil
      · rw [dropTags, if_neg hc]
        exact .char hc htext
    · intro inside hinside
      by_cases hc : c = '>'
      · subst hc
        exact .tag hinside htext
      · -- another `<` inside of a tag is dropped like anything else
        have hskip : dropTags true (c :: cs) = dropTags true cs := by simp [dropTags, hc]
        have hmore : '>' ∉ inside ++ [c] := by simpa [hinside] using Ne.symm hc
        simpa [hskip] using htag (inside ++ [c]) hmore

/-- **The tags that are taken out** are those of the text, and nothing else is. -/
theorem dropTags_eq_iff {cs ds : List Char} : dropTags false cs = ds ↔ Untagged cs ds :=
  ⟨fun h => h ▸ (untagged_dropTags cs).1, Untagged.dropTags_eq⟩

/-! ### Names of characters -/

/-- **A text with the names of characters decoded** in a single scan: where a name of the table
begins, its character is put for it and the scan goes on behind the name, and any other
character is kept. -/
inductive Decoded (table : List (List Char × Char)) : List Char → List Char → Prop
  | nil : Decoded table [] []
  | name {name : List Char} {c : Char} {cs ds : List Char} (hname : (name, c) ∈ table)
      (hcs : Decoded table cs ds) : Decoded table (name ++ cs) (c :: ds)
  | char {c : Char} {cs ds : List Char} (hno : ∀ e ∈ table, ¬e.1 <+: c :: cs)
      (hcs : Decoded table cs ds) : Decoded table (c :: cs) (c :: ds)

/-- **A table whose names may be replaced one after another.** -/
structure Orderly (table : List (List Char × Char)) : Prop where
  /-- Names begin with an ampersand, and have no other. -/
  ampersand : ∀ e ∈ table, ∃ tail, e.1 = '&' :: tail ∧ '&' ∉ tail
  /-- No name is the beginning of another, and none has the character of one that comes before. -/
  apart : table.Pairwise fun e f => ¬e.1 <+: f.1 ∧ ¬f.1 <+: e.1 ∧ e.2 ∉ f.1

theorem orderly_entities : Orderly entities where
  ampersand := by simp [entities]
  apart := by decide

theorem Orderly.tail {e : List Char × Char} {table : List (List Char × Char)}
    (h : Orderly (e :: table)) : Orderly table where
  ampersand f hf := h.ampersand f (List.mem_cons_of_mem e hf)
  apart := (List.pairwise_cons.1 h.apart).2

/-- Only an ampersand begins a name. -/
theorem Orderly.not_prefix {table : List (List Char × Char)} (h : Orderly table)
    {e : List Char × Char} (he : e ∈ table) {c : Char} (hc : c ≠ '&') (cs : List Char) :
    ¬e.1 <+: c :: cs := by
  obtain ⟨tail, htail, -⟩ := h.ampersand e he
  rw [htail]
  exact fun hprefix => hc (List.cons_prefix_cons.1 hprefix).1.symm

section Replacement

variable {name : List Char} {character : Char}

theorem replaceFrom_skip (ds cs : List Char) :
    replaceFrom name character ds.length (ds ++ cs) = replaceFrom name character 0 cs := by
  induction ds with
  | nil => rfl
  | cons d ds ih => exact ih

theorem replaceFrom_name (hname : name ≠ []) (cs : List Char) :
    replaceFrom name character 0 (name ++ cs) = character :: replaceFrom name character 0 cs := by
  obtain ⟨c, tail, rfl⟩ := List.exists_cons_of_ne_nil hname
  have hfront : (c :: tail).isPrefixOf (c :: (tail ++ cs)) :=
    List.isPrefixOf_iff_prefix.2 (List.prefix_append (c :: tail) cs)
  rw [List.cons_append, replaceFrom, if_pos hfront]
  exact congrArg _ (replaceFrom_skip tail cs)

theorem replaceFrom_cons {c : Char} {cs : List Char} (h : ¬name <+: c :: cs) :
    replaceFrom name character 0 (c :: cs) = c :: replaceFrom name character 0 cs := by
  rw [replaceFrom, if_neg (mt List.isPrefixOf_iff_prefix.1 h)]

/-- Characters that the name does not begin with are kept. -/
theorem replaceFrom_append {a : Char} {tail ds : List Char} (hds : a ∉ ds) (cs : List Char) :
    replaceFrom (a :: tail) character 0 (ds ++ cs) =
      ds ++ replaceFrom (a :: tail) character 0 cs := by
  induction ds with
  | nil => rfl
  | cons d ds ih =>
    have hd : ¬(a :: tail) <+: d :: (ds ++ cs) := fun h =>
      List.ne_of_not_mem_cons hds (List.cons_prefix_cons.1 h).1
    rw [List.cons_append, replaceFrom_cons hd, ih (List.not_mem_of_not_mem_cons hds),
      List.cons_append]

/-- Another name is kept, as the one that is replaced begins neither with it nor inside of it. -/
theorem replaceFrom_other {a : Char} {tail rest : List Char} (hrest : a ∉ rest)
    (hno : ¬(a :: tail) <+: a :: rest) (hno' : ¬(a :: rest) <+: a :: tail) (cs : List Char) :
    replaceFrom (a :: tail) character 0 (a :: rest ++ cs) =
      a :: rest ++ replaceFrom (a :: tail) character 0 cs := by
  have hfront : ¬(a :: tail) <+: a :: (rest ++ cs) := fun h =>
    (List.prefix_or_prefix_of_prefix h (List.prefix_append (a :: rest) cs)).elim hno hno'
  rw [List.cons_append, replaceFrom_cons hfront, replaceFrom_append hrest, List.cons_append]

/-- **Replacing makes up no words** but those with the character in them. -/
theorem prefix_of_prefix_replaceFrom {word cs : List Char} (hword : character ∉ word)
    (h : word <+: replaceFrom name character 0 cs) : word <+: cs := by
  induction cs generalizing word with
  | nil => exact h
  | cons c cs ih =>
    cases word with
    | nil => exact List.nil_prefix
    | cons a word =>
      by_cases hname : name <+: c :: cs
      · rw [replaceFrom, if_pos (List.isPrefixOf_iff_prefix.2 hname)] at h
        exact absurd (List.cons_prefix_cons.1 h).1.symm (List.ne_of_not_mem_cons hword)
      · rw [replaceFrom_cons hname] at h
        obtain ⟨rfl, htail⟩ := List.cons_prefix_cons.1 h
        exact List.cons_prefix_cons.2 ⟨rfl, ih (List.not_mem_of_not_mem_cons hword) htail⟩

end Replacement

section Table

variable {table : List (List Char × Char)} {cs ds : List Char}

/-- **The first name of a table may be replaced ahead of the scan for the others.** -/
theorem Decoded.replace {name : List Char} {character : Char}
    (htable : Orderly ((name, character) :: table))
    (h : Decoded ((name, character) :: table) cs ds) :
    Decoded table (replaceFrom name character 0 cs) ds := by
  obtain ⟨tail, rfl, -⟩ := htable.ampersand _ List.mem_cons_self
  have hapart := (List.pairwise_cons.1 htable.apart).1
  induction h with
  | nil => exact .nil
  | @name word c cs ds hword hcs ih =>
    obtain heq | hword := List.mem_cons.1 hword
    · obtain ⟨rfl, rfl⟩ := Prod.mk.inj heq
      rw [replaceFrom_name (List.cons_ne_nil _ _)]
      refine .char (fun e he => htable.tail.not_prefix he ?_ _) ih
      -- the character that is put in occurs in none of the names that are left
      rintro rfl
      obtain ⟨rest, hrest, -⟩ := htable.tail.ampersand e he
      exact (hapart e he).2.2 (hrest ▸ List.mem_cons_self)
    · -- a name of the rest of the table is still there for the scan
      obtain ⟨rest, rfl, hamp⟩ := htable.tail.ampersand _ hword
      obtain ⟨hno, hno', -⟩ := hapart _ hword
      rw [replaceFrom_other hamp hno hno']
      exact .name hword ih
  | @char c cs ds hno hcs ih =>
    have hkept : replaceFrom ('&' :: tail) character 0 (c :: cs) =
        c :: replaceFrom ('&' :: tail) character 0 cs := replaceFrom_cons (hno _ List.mem_cons_self)
    rw [hkept]
    -- a name that began here now would have begun here before
    refine .char (fun e he hprefix => ?_) ih
    rw [← hkept] at hprefix
    exact hno e (List.mem_cons_of_mem _ he) (prefix_of_prefix_replaceFrom (hapart e he).2.2 hprefix)

theorem Decoded.eq_of_nil (h : Decoded [] cs ds) : cs = ds := by
  induction h with
  | nil => rfl
  | name hname => cases hname
  | char _ _ ih => rw [ih]

/-- **Replacing the names of a table one after another** is a single scan for all of them. -/
theorem Decoded.foldl_replaceFrom (htable : Orderly table) (h : Decoded table cs ds) :
    table.foldl (fun cs e => replaceFrom e.1 e.2 0 cs) cs = ds := by
  induction table generalizing cs with
  | nil => exact h.eq_of_nil
  | cons e table ih => exact ih htable.tail (h.replace htable)

/-- The scan comes to its end. -/
theorem exists_decoded (htable : Orderly table) (cs : List Char) : ∃ ds, Decoded table cs ds := by
  induction hn : cs.length using Nat.strongRecOn generalizing cs with
  | _ n ih =>
    subst hn
    cases cs with
    | nil => exact ⟨[], .nil⟩
    | cons c cs =>
      by_cases hname : ∃ e ∈ table, e.1 <+: c :: cs
      · obtain ⟨e, he, rest, hrest⟩ := hname
        obtain ⟨tail, htail, -⟩ := htable.ampersand e he
        have hlen : rest.length < (c :: cs).length := by
          rw [← hrest, htail, List.length_append, List.length_cons]
          omega
        obtain ⟨ds, hds⟩ := ih _ hlen rest rfl
        exact ⟨e.2 :: ds, hrest ▸ .name he hds⟩
      · obtain ⟨ds, hds⟩ := ih _ (Nat.lt_succ_self _) cs rfl
        exact ⟨c :: ds, .char (fun e he hprefix => hname ⟨e, he, hprefix⟩) hds⟩

/-- The order of a table does not matter for a scan. -/
theorem Decoded.perm {table' : List (List Char × Char)} (hperm : table.Perm table')
    (h : Decoded table cs ds) : Decoded table' cs ds := by
  induction h with
  | nil => exact .nil
  | name hname _ ih => exact .name (hperm.mem_iff.1 hname) ih
  | char hno _ ih => exact .char (fun e he => hno e (hperm.mem_iff.2 he)) ih

end Table

/-- **The characters that have names**, in the order of their names. -/
def references : List (List Char × Char) :=
  [("&#39;".toList, '\''), ("&amp;".toList, '&'), ("&gt;".toList, '>'), ("&lt;".toList, '<'),
   ("&nbsp;".toList, ' '), ("&quot;".toList, '\"')]

theorem references_perm : references.Perm entities := by
  decide

/-- **What is decoded** is what a single scan finds. -/
theorem decodeEntities_eq_iff {cs ds : List Char} :
    decodeEntities cs = ds ↔ Decoded references cs ds := by
  have hscan {ds : List Char} (h : Decoded references cs ds) : decodeEntities cs = ds :=
    (h.perm references_perm).foldl_replaceFrom orderly_entities
  refine ⟨fun h => ?_, hscan⟩
  obtain ⟨es, hes⟩ := exists_decoded orderly_entities cs
  have hes := hes.perm references_perm.symm
  rwa [← h, hscan hes]

/-! ### Written fragments

A fragment that is written properly has a name for every character that could be taken for
something else. What is shown of it is what it was written for, up to blanks. -/

/-- A character as it is written in a fragment, which is by its name if it has one. -/
def written (c : Char) : List Char :=
  ((references.find? fun e => e.2 == c).map Prod.fst).getD [c]

theorem written_cases (c : Char) :
    (written c, c) ∈ references ∨ (written c = [c] ∧ c ≠ '&' ∧ c ≠ '<') := by
  cases hfind : references.find? fun e => e.2 == c with
  | some e =>
    have hc : e.2 = c := by simpa using List.find?_some hfind
    have hwritten : written c = e.1 := by simp [written, hfind]
    rw [hwritten, ← hc]
    exact .inl (List.mem_of_find?_eq_some hfind)
  | none =>
    have hno : ∀ e ∈ references, e.2 ≠ c := by simpa using List.find?_eq_none.1 hfind
    refine .inr ⟨by simp [written, hfind], ?_, ?_⟩
    · exact (hno ("&amp;".toList, '&') (by decide)).symm
    · exact (hno ("&lt;".toList, '<') (by decide)).symm

/-- No tag begins in what is written for a character. -/
theorem not_mem_written (c : Char) : '<' ∉ written c := by
  obtain h | ⟨h, -, hne⟩ := written_cases c
  · have hnames : ∀ e ∈ references, '<' ∉ e.1 := by decide
    exact hnames _ h
  · rw [h, List.mem_singleton]
    exact hne.symm

theorem decoded_cons {c : Char} {cs ds : List Char} (hc : c ≠ '&')
    (h : Decoded references cs ds) : Decoded references (c :: cs) (c :: ds) :=
  .char (fun _ he => orderly_entities.not_prefix (references_perm.mem_iff.1 he) hc cs) h

/-- A text that is written character by character is decoded. -/
theorem decoded_written (text : List Char) {cs ds : List Char} (h : Decoded references cs ds) :
    Decoded references (text.flatMap written ++ cs) (text ++ ds) := by
  induction text with
  | nil => exact h
  | cons c text ih =>
    rw [List.flatMap_cons, List.append_assoc, List.cons_append]
    obtain hname | ⟨hsame, hamp, -⟩ := written_cases c
    · exact .name hname ih
    · rw [hsame]
      exact decoded_cons hamp ih

theorem Untagged.append {before cs ds : List Char} (hbefore : '<' ∉ before)
    (h : Untagged cs ds) : Untagged (before ++ cs) (before ++ ds) := by
  induction before with
  | nil => exact h
  | cons c before ih =>
    exact .char (List.ne_of_not_mem_cons hbefore).symm
      (ih (List.not_mem_of_not_mem_cons hbefore))

/-- A piece of a fragment. -/
inductive Piece where
  | tag (inside : List Char) (closed : '>' ∉ inside)
  | text (cs : List Char)

namespace Piece

/-- How a piece is written. -/
def write : Piece → List Char
  | tag inside _ => '<' :: (inside ++ ['>'])
  | text cs => cs.flatMap written

/-- What a piece stands for. -/
def shown : Piece → List Char
  | tag _ _ => [' ']
  | text cs => cs

end Piece

/-- The tags of written pieces are taken out, and the rest is decoded. -/
theorem exists_untagged_decoded (pieces : List Piece) :
    ∃ bare, Untagged (pieces.flatMap Piece.write) bare ∧
      Decoded references bare (pieces.flatMap Piece.shown) := by
  induction pieces with
  | nil => exact ⟨[], .nil, .nil⟩
  | cons piece pieces ih =>
    obtain ⟨bare, hbare, hdecoded⟩ := ih
    cases piece with
    | tag inside closed =>
      refine ⟨' ' :: bare, ?_, decoded_cons (by decide) hdecoded⟩
      simpa [Piece.write] using hbare.tag closed
    | text cs =>
      have hno : '<' ∉ cs.flatMap written := by
        rw [List.mem_flatMap]
        rintro ⟨c, -, hc⟩
        exact not_mem_written c hc
      exact ⟨cs.flatMap written ++ bare, hbare.append hno, decoded_written cs hdecoded⟩

/-! ### Fragments as a whole -/

/-- **The text of a fragment**: its tags are taken out, the names of characters are decoded in a
single scan of what is left, and the words are put one blank apart. -/
def TextOf (fragment text : List Char) : Prop :=
  ∃ bare decoded ws, Untagged fragment bare ∧ Decoded references bare decoded ∧
    Spaced ws decoded ∧ text = [' '].intercalate ws

theorem clean_eq_iff {fragment text : List Char} :
    clean fragment = text ↔ TextOf fragment text := by
  constructor
  · rintro rfl
    exact ⟨_, _, _, dropTags_eq_iff.1 rfl, decodeEntities_eq_iff.1 rfl, words_eq_iff.1 rfl, rfl⟩
  · rintro ⟨bare, decoded, ws, hbare, hdecoded, hws, rfl⟩
    rw [clean, collapse, dropTags_eq_iff.2 hbare, decodeEntities_eq_iff.2 hdecoded,
      words_eq_iff.2 hws]

theorem clean_write (pieces : List Piece) :
    clean (pieces.flatMap Piece.write) = collapse (pieces.flatMap Piece.shown) := by
  obtain ⟨bare, hbare, hdecoded⟩ := exists_untagged_decoded pieces
  exact clean_eq_iff.2 ⟨bare, _, _, hbare, hdecoded, words_eq_iff.1 rfl, rfl⟩

theorem extract_eq_iff {page text : List Char} {p : Pattern} :
    extract page p = text ↔
      (∃ fragment, p.fragment? page = some fragment ∧ TextOf fragment text) ∨
        (p.fragment? page = none ∧ text = []) := by
  cases hfragment : p.fragment? page with
  | none => simp [extract, hfragment, eq_comm]
  | some fragment => simp [extract, hfragment, clean_eq_iff]

example : clean "<p>1&nbsp;&lt; 2 &amp;amp; <b>3 > 2</b><i".toList =
    "1 < 2 &amp; 3 > 2".toList := by
  decide

theorem singleSpaced_clean (fragment : List Char) : SingleSpaced (clean fragment) :=
  singleSpaced_intercalate fun _ hw => (words_eq_iff.1 rfl).isWord hw

end Page

open Page (Piece TextOf clean extract written)

/-- **Fragments are cleaned in one pass each, and decoded once.** The text of a fragment, and so of
what a pattern picks out of a page, is what is left without tags, decoded in a single scan, with
its words one blank apart and no other blanks. A fragment that is written for some text, between
tags, shows this text: angle brackets that have been decoded are no tags, and names in
the text itself are left as they are. In particular a text that is written twice over is
decoded once only. -/
theorem fragments_are_cleaned_in_single_passes :
    (∀ fragment text, clean fragment = text ↔ TextOf fragment text) ∧
      (∀ page p text, extract page p = text ↔
        (∃ fragment, p.fragment? page = some fragment ∧ TextOf fragment text) ∨
          (p.fragment? page = none ∧ text = [])) ∧
      (∀ pieces : List Piece, clean (pieces.flatMap Piece.write) =
        [' '].intercalate (words (pieces.flatMap Piece.shown))) ∧
      (∀ cs : List Char, clean ((cs.flatMap written).flatMap written) =
        [' '].intercalate (words (cs.flatMap written))) ∧
      ∀ fragment, SingleSpaced (clean fragment) := by
  refine ⟨fun _ _ => Page.clean_eq_iff, fun _ _ _ => Page.extract_eq_iff, Page.clean_write,
    fun cs => ?_, Page.singleSpaced_clean⟩
  simpa [Piece.write, Piece.shown, Page.collapse] using
    Page.clean_write [.text (cs.flatMap written)]

end Parley
