import Parley.Proofs.Parser.Holes

/-!
# What becomes of the tokens

The reader walks along the tokens and never goes back. At each place it takes the next token into
the tree, or drops it, or only reports that something else is due. `Parley.Parser.Walk` is such a
walk, without regard to the grammar: a token that is dropped is reported at its own column, and
whatever else is reported is at the column of the token that comes next.

Every step of the reader is a walk, and what it takes is what it has read
(`Parley.Parsed.Follows`): the leaves of the tree are the tokens that were taken, and placeholders
(`Parley.Token.MadeOf`). A tree does not hold the commas between the terms of its lists. They are
taken all the same, one in front of each further term, which is why the leaves supply them.

So no token is dropped silently (`Parley.nothing_is_dropped_silently`), the commas between
neighbours being the only tokens that are neither in the tree nor reported
(`Parley.comma_is_in_no_tree`).
-/

namespace Parley

/-! ### The leaves that were taken -/

namespace Token

/-- The tokens that have a text. The others are placeholders. -/
def genuine (ts : List Token) : List Token :=
  ts.filter fun t => t.lexeme ≠ ""

/-- **The leaves are made of the tokens**: those that are no placeholders are the tokens in order,
where the tree has not kept a comma. -/
def MadeOf (leaves us : List Token) : Prop :=
  genuine leaves = us.map written

theorem madeOf_nil : MadeOf [] [] := rfl

theorem MadeOf.append {ls ms us vs : List Token} (h : MadeOf ls us) (h' : MadeOf ms vs) :
    MadeOf (ls ++ ms) (us ++ vs) := by
  unfold MadeOf genuine at *
  rw [List.filter_append, List.map_append, h, h']

theorem MadeOf.cons {t : Token} {ls us : List Token} (ht : t.lexeme ≠ "") (hk : t.kind ≠ .comma)
    (h : MadeOf ls us) : MadeOf (t :: ls) (t :: us) := by
  unfold MadeOf genuine at *
  rw [List.filter_cons_of_pos (by simpa using ht), List.map_cons, written_of_ne hk, h]

/-- A comma has been taken, and is supplied. -/
theorem MadeOf.comma {t : Token} {ls us : List Token} (hk : t.kind = .comma) (h : MadeOf ls us) :
    MadeOf (Token.comma :: ls) (t :: us) := by
  unfold MadeOf genuine at *
  rw [List.filter_cons_of_pos (by decide), List.map_cons, written, if_pos hk, h]

theorem madeOf_missing (kind : TokenKind) (column : Nat) : MadeOf [missing kind column] [] := rfl

end Token

/-- The tokens that a tree holds, in order: its leaves but for the placeholders and for the commas,
which it does not hold. -/
def Expr.kept (e : Expr) : List Token :=
  (Token.genuine e.leaves).filter (· ≠ Token.comma)

/-- Where the leaves are made of some tokens, the tree holds those that are not commas. -/
theorem Token.MadeOf.kept_eq {e : Expr} {us : List Token} (h : MadeOf e.leaves us) :
    e.kept = us.filter (·.kind ≠ .comma) := by
  rw [Expr.kept, h, filter_map_written]

namespace Parser

/-! ### Walks -/

/-- **A walk** along the tokens `ts` to the `rest` of them, on which the tokens `us` are taken and
the errors are reported. Behind the last token the column is `stop`. -/
inductive Walk (stop : Nat) : List Token → List Token → List SyntaxError → List Token → Prop
  /-- The walk is over. -/
  | done {ts : List Token} : Walk stop ts [] [] ts
  /-- The next token is taken. -/
  | take {t : Token} {ts us rest : List Token} {errors : List SyntaxError} :
      Walk stop ts us errors rest → Walk stop (t :: ts) (t :: us) errors rest
  /-- The next token is dropped. -/
  | drop {t : Token} {ts us rest : List Token} {errors : List SyntaxError}
      (complaint : SyntaxError.Complaint) :
      Walk stop ts us errors rest → Walk stop (t :: ts) us (⟨complaint, t.column⟩ :: errors) rest
  /-- Something else is due in front of the next token. -/
  | report {ts us rest : List Token} {errors : List SyntaxError}
      (complaint : SyntaxError.Complaint) :
      Walk stop ts us errors rest →
      Walk stop ts us (⟨complaint, nextColumn stop ts⟩ :: errors) rest

namespace Walk

variable {stop : Nat} {ts us vs rest rest' : List Token} {errors errors' : List SyntaxError}

/-- One walk after another. -/
theorem trans (h : Walk stop ts us errors rest) (h' : Walk stop rest vs errors' rest') :
    Walk stop ts (us ++ vs) (errors ++ errors') rest' := by
  induction h with
  | done => exact h'
  | take _ ih => exact .take (ih h')
  | drop complaint _ ih => exact .drop complaint (ih h')
  | report complaint _ ih => exact .report complaint (ih h')

/-- **What a walk has passed** is taken or reported. -/
theorem exists_passed (h : Walk stop ts us errors rest) :
    ∃ passed, ts = passed ++ rest ∧ us.Sublist passed ∧
      ∀ t ∈ passed, t ∉ us → ∃ e ∈ errors, e.column = t.column := by
  induction h with
  | @done ts => exact ⟨[], rfl, .slnil, by simp⟩
  | @take t ts us rest errors _ ih =>
    obtain ⟨passed, rfl, hsublist, hreported⟩ := ih
    refine ⟨t :: passed, rfl, hsublist.cons_cons t, fun u hu hnot => ?_⟩
    obtain ⟨hne, hnot⟩ := not_or.1 (mt List.mem_cons.2 hnot)
    exact hreported u ((List.mem_cons.1 hu).resolve_left hne) hnot
  | @drop t ts us rest errors complaint _ ih =>
    obtain ⟨passed, rfl, hsublist, hreported⟩ := ih
    refine ⟨t :: passed, rfl, hsublist.cons t, fun u hu hnot => ?_⟩
    rcases List.mem_cons.1 hu with rfl | hu
    · exact ⟨_, List.mem_cons_self, rfl⟩
    · obtain ⟨e, he, hcolumn⟩ := hreported u hu hnot
      exact ⟨e, List.mem_cons_of_mem _ he, hcolumn⟩
  | report complaint _ ih =>
    obtain ⟨passed, hts, hsublist, hreported⟩ := ih
    refine ⟨passed, hts, hsublist, fun u hu hnot => ?_⟩
    obtain ⟨e, he, hcolumn⟩ := hreported u hu hnot
    exact ⟨e, List.mem_cons_of_mem _ he, hcolumn⟩

end Walk

end Parser

namespace Parsed

open Parley.Parser (Walk)

variable {α β : Type} {stop : Nat} {R : α → List Token → Prop} {S : β → List Token → Prop}
  {ts : List Token}

/-- **A step that follows the tokens**: it walks along them, and what it takes is by the relation
`R` what its value is read from. -/
def Follows (stop : Nat) (R : α → List Token → Prop) (ts : List Token) (p : Parsed α) : Prop :=
  (∀ t ∈ ts, t.lexeme ≠ "") → ∃ us, Walk stop ts us p.errors p.rest ∧ R p.value us

theorem Follows.map {p : Parsed α} {f : α → β} (h : p.Follows stop R ts)
    (hf : ∀ a us, R a us → S (f a) us) : (p.map f).Follows stop S ts := by
  intro htexts
  obtain ⟨us, hwalk, hR⟩ := h htexts
  exact ⟨us, hwalk, hf _ _ hR⟩

/-- One step after another follows the tokens if both do, where the second one knows what the first
has taken. -/
theorem Follows.andThen {p : Parsed α} {next : α → List Token → Parsed β}
    (h : p.Follows stop R ts)
    (hnext : ∀ a us rest, R a us →
      (next a rest).Follows stop (fun b vs => S b (us ++ vs)) rest) :
    (p.andThen next).Follows stop S ts := by
  intro htexts
  obtain ⟨us, hwalk, hR⟩ := h htexts
  have hrest : ∀ t ∈ p.rest, t.lexeme ≠ "" := by
    obtain ⟨passed, hts, -⟩ := hwalk.exists_passed
    exact fun t ht => htexts t (hts ▸ List.mem_append_right passed ht)
  obtain ⟨vs, hwalk', hS⟩ := hnext _ _ _ hR hrest
  exact ⟨us ++ vs, hwalk.trans hwalk', hS⟩

/-- A step that takes nothing. -/
theorem follows_pure {a : α} (h : R a []) : (⟨a, [], ts⟩ : Parsed α).Follows stop R ts :=
  fun _ => ⟨[], .done, h⟩

/-- A step behind a token that has been taken. -/
theorem Follows.cons {p : Parsed α} {t : Token}
    (h : t.lexeme ≠ "" → p.Follows stop (fun a us => R a (t :: us)) ts) :
    p.Follows stop R (t :: ts) := by
  intro htexts
  obtain ⟨ht, hts⟩ := List.forall_mem_cons.1 htexts
  obtain ⟨us, hwalk, hR⟩ := h ht hts
  exact ⟨t :: us, .take hwalk, hR⟩

end Parsed

namespace Parser

open Token (MadeOf madeOf_nil)

variable (stop : Nat)

theorem expect_follows {kind : TokenKind} (hkind : kind ≠ .comma) (ts : List Token) :
    (expect stop kind ts).Follows stop (fun t us => MadeOf [t] us) ts := by
  cases ts with
  | nil => exact fun _ => ⟨[], .report _ .done, Token.madeOf_missing kind stop⟩
  | cons t rest =>
    rw [expect]
    split
    · rename_i hk
      exact Parsed.Follows.cons fun ht => Parsed.follows_pure (madeOf_nil.cons ht (hk ▸ hkind))
    · exact fun _ => ⟨[], .report _ .done, Token.madeOf_missing kind t.column⟩

/-- Where a value is missing nothing is taken, and the next token is dropped unless it closes
something. -/
theorem missingValue_follows (ts : List Token) :
    (missingValue stop ts).Follows stop (fun t us => MadeOf t.leaves us) ts := by
  cases ts with
  | nil => exact fun _ => ⟨[], .report _ .done, madeOf_nil⟩
  | cons t rest =>
    rw [missingValue]
    refine fun _ => ⟨[], ?_, madeOf_nil⟩
    split
    · exact .report _ .done
    · exact .drop _ .done

/-! ### The steps of the reader

What `Parser.chain` reads has the left operand in it, whose tokens were taken before. -/

mutual

theorem level_follows : ∀ (fuel : Nat) (l : Level) (ts : List Token),
    (level stop fuel l ts).Follows stop (fun e us => MadeOf e.leaves us) ts
  | 0, _, ts => (missingValue_follows stop ts).map fun _ _ h => h
  | fuel + 1, l, ts => by
    rw [level]
    exact (operand_follows fuel l ts).andThen fun left us rest h =>
      chain_follows fuel l left us rest h

theorem operand_follows : ∀ (fuel : Nat) (l : Level) (ts : List Token),
    (operand stop fuel l ts).Follows stop (fun e us => MadeOf e.leaves us) ts
  | 0, _, ts => (missingValue_follows stop ts).map fun _ _ h => h
  | fuel + 1, l, ts => by
    rw [operand]
    split
    · exact level_follows fuel _ ts
    · exact negation_follows fuel ts

theorem chain_follows : ∀ (fuel : Nat) (l : Level) (left : Expr) (us ts : List Token),
    MadeOf left.leaves us →
    (chain stop fuel l left ts).Follows stop (fun e vs => MadeOf e.leaves (us ++ vs)) ts
  | 0, _, _, us, _, h => Parsed.follows_pure (by rwa [List.append_nil])
  | fuel + 1, _, _, us, [], h => Parsed.follows_pure (by rwa [List.append_nil])
  | fuel + 1, l, left, us, op :: rest, h => by
    rw [chain]
    split
    · rename_i hop
      refine Parsed.Follows.cons fun ht => (operand_follows fuel l rest).andThen ?_
      intro right vs rest' hright
      have hbinary : MadeOf (Expr.binary l left op right).leaves (us ++ op :: vs) :=
        h.append (hright.cons ht (Level.ne_comma hop))
      split
      · -- the operands so far are the left operand of what follows
        have hchain := chain_follows fuel l (.binary l left op right) (us ++ op :: vs) rest' hbinary
        simpa only [List.append_assoc, List.cons_append] using hchain
      · exact Parsed.follows_pure (by rwa [List.append_nil])
    · exact Parsed.follows_pure (by rwa [List.append_nil])

theorem negation_follows : ∀ (fuel : Nat) (ts : List Token),
    (negation stop fuel ts).Follows stop (fun e us => MadeOf e.leaves us) ts
  | 0, ts => (missingValue_follows stop ts).map fun _ _ h => h
  | fuel + 1, [] => by
    rw [negation]
    exact (term_follows fuel []).map fun _ _ h => h
  | fuel + 1, t :: rest => by
    rw [negation]
    split
    · rename_i hk
      exact Parsed.Follows.cons fun ht =>
        (negation_follows fuel rest).map fun _ _ h => h.cons ht (by rw [hk]; decide)
    · exact (term_follows fuel (t :: rest)).map fun _ _ h => h

theorem term_follows : ∀ (fuel : Nat) (ts : List Token),
    (term stop fuel ts).Follows stop (fun t us => MadeOf t.leaves us) ts
  | 0, ts => missingValue_follows stop ts
  | fuel + 1, [] => missingValue_follows stop []
  | fuel + 1, t :: rest => by
    -- a literal is its own leaf
    have hleaf : ∀ {kind : TokenKind} {a : Term}, t.kind = kind → kind ≠ .comma → a.leaves = [t] →
        (⟨a, [], rest⟩ : Parsed Term).Follows stop (fun a us => MadeOf a.leaves us) (t :: rest) := by
      intro kind a hk hne ha
      refine Parsed.Follows.cons fun ht => Parsed.follows_pure ?_
      rw [ha]
      exact madeOf_nil.cons ht (hk ▸ hne)
    rw [term]
    split
    · rename_i hk
      exact hleaf hk (by decide) rfl
    · rename_i hk
      exact hleaf hk (by decide) rfl
    · rename_i hk
      exact hleaf hk (by decide) rfl
    · rename_i hk
      exact hleaf hk (by decide) rfl
    · rename_i hk
      exact Parsed.Follows.cons fun ht =>
        (links_follows fuel rest).map fun _ _ h => h.cons ht (by rw [hk]; decide)
    · rename_i hk
      refine Parsed.Follows.cons fun ht => (list_follows fuel .rightBracket rest).andThen ?_
      intro elements us rest' h
      refine (expect_follows stop (by decide) rest').map fun closing vs hc => ?_
      exact (h.append hc).cons ht (by rw [hk]; decide)
    · rename_i hk
      refine Parsed.Follows.cons fun ht => (level_follows fuel .disjunction rest).andThen ?_
      intro inner us rest' h
      refine (expect_follows stop (by decide) rest').map fun closing vs hc => ?_
      exact (h.append hc).cons ht (by rw [hk]; decide)
    · exact missingValue_follows stop (t :: rest)

theorem list_follows : ∀ (fuel : Nat) (close : TokenKind) (ts : List Token),
    (list stop fuel close ts).Follows stop (fun es us => MadeOf (Term.listLeaves es) us) ts
  | 0, _, _ => Parsed.follows_pure madeOf_nil
  | fuel + 1, close, ts => by
    rw [list]
    split
    · exact Parsed.follows_pure madeOf_nil
    · refine (term_follows fuel ts).andThen fun first us rest h => ?_
      exact (more_follows fuel rest).map fun _ _ hes => h.append hes

theorem more_follows : ∀ (fuel : Nat) (ts : List Token),
    (more stop fuel ts).Follows stop (fun es us => MadeOf (Term.moreLeaves es) us) ts
  | 0, _ => Parsed.follows_pure madeOf_nil
  | fuel + 1, [] => Parsed.follows_pure madeOf_nil
  | fuel + 1, t :: rest => by
    rw [more]
    split
    · rename_i hk
      refine Parsed.Follows.cons fun _ => (term_follows fuel rest).andThen fun next us rest' h => ?_
      exact (more_follows fuel rest').map fun _ _ hes => (h.append hes).comma hk
    · exact Parsed.follows_pure madeOf_nil

theorem links_follows : ∀ (fuel : Nat) (ts : List Token),
    (links stop fuel ts).Follows stop (fun ls us => MadeOf (Link.chainLeaves ls) us) ts
  | 0, _ => Parsed.follows_pure madeOf_nil
  | fuel + 1, [] => Parsed.follows_pure madeOf_nil
  | fuel + 1, t :: rest => by
    rw [links]
    split
    · rename_i hk
      refine Parsed.Follows.cons fun ht => (expect_follows stop (by decide) rest).andThen ?_
      intro name us rest' hn
      refine (links_follows fuel rest').map fun _ _ hls => ?_
      exact (hn.append hls).cons ht (by rw [hk]; decide)
    · rename_i hk
      refine Parsed.Follows.cons fun ht => (term_follows fuel rest).andThen ?_
      intro index us rest' hi
      refine (expect_follows stop (by decide) rest').andThen fun closing vs rest'' hc => ?_
      refine (links_follows fuel rest'').map fun ls ws hls => ?_
      simpa [Link.chainLeaves, Link.leaves] using
        ((hi.append (hc.append hls)).cons ht (by rw [hk]; decide))
    · rename_i hk
      refine Parsed.Follows.cons fun ht => (list_follows fuel .rightParen rest).andThen ?_
      intro arguments us rest' ha
      refine (expect_follows stop (by decide) rest').andThen fun closing vs rest'' hc => ?_
      refine (links_follows fuel rest'').map fun ls ws hls => ?_
      simpa [Link.chainLeaves, Link.leaves] using
        ((ha.append (hc.append hls)).cons ht (by rw [hk]; decide))
    · exact Parsed.follows_pure madeOf_nil

end

/-- The reader walks along the tokens of a source. -/
theorem exists_walk (source : String) :
    ∃ us, Walk (endColumn (tokenize source).tokens) (tokenize source).tokens us
        (expression (tokenize source).tokens).errors (expression (tokenize source).tokens).rest ∧
      MadeOf (expression (tokenize source).tokens).value.leaves us :=
  level_follows _ _ .disjunction _ fun _ => Token.lexeme_ne_of_mem_tokens

end Parser

/-! ### Nothing is dropped silently -/

/-- **Nothing is dropped silently.** The reader looks at the tokens of a source up to some place.
Those that the tree holds, together with one comma between any two neighbours of a list, are among
the tokens up to there, in their order, and every other one of these has an error at its column.
Where the place is not the end, the last error is at the token that stands there. -/
theorem nothing_is_dropped_silently (source : String) :
    ∃ (p : Nat) (us : List Token), p ≤ (tokenize source).tokens.length ∧
      us.Sublist ((tokenize source).tokens.take p) ∧
      Token.MadeOf (Reading.ofTokens (tokenize source).tokens).tree.leaves us ∧
      (Reading.ofTokens (tokenize source).tokens).tree.kept = us.filter (·.kind ≠ .comma) ∧
      (∀ t ∈ (tokenize source).tokens.take p, t ∉ us →
        ∃ e ∈ (Reading.ofTokens (tokenize source).tokens).errors, e.column = t.column) ∧
      ∀ t, (tokenize source).tokens[p]? = some t →
        ∃ e, (Reading.ofTokens (tokenize source).tokens).errors.getLast? = some e ∧
          e.column = t.column := by
  obtain ⟨us, hwalk, hmade⟩ := Parser.exists_walk source
  obtain ⟨passed, hts, hsublist, hreported⟩ := hwalk.exists_passed
  rw [Reading.tree_ofTokens, Reading.errors_ofTokens]
  generalize Parser.expression (tokenize source).tokens = read at *
  have htake : (tokenize source).tokens.take passed.length = passed := by
    rw [hts, List.take_left]
  refine ⟨passed.length, us, ?_, by rwa [htake], hmade, hmade.kept_eq, ?_, ?_⟩
  · rw [hts, List.length_append]
    exact Nat.le_add_right _ _
  · intro t ht hnot
    obtain ⟨e, he, hcolumn⟩ := hreported t (htake ▸ ht) hnot
    exact ⟨e, List.mem_append_left _ he, hcolumn⟩
  · intro t ht
    rw [hts, List.getElem?_append_right (Nat.le_refl _), Nat.sub_self, ← List.head?_eq_getElem?]
      at ht
    rw [ht, Option.map_some, Option.toList_some, List.getLast?_concat]
    exact ⟨_, rfl, rfl⟩

/-- A comma between two neighbours is in no tree, and it is not reported: of `[1, 2]` every other
token is in the tree, up to the closing bracket. -/
theorem comma_is_in_no_tree :
    ¬∃ p ≤ (tokenize "[1, 2]").tokens.length,
      (Reading.ofTokens (tokenize "[1, 2]").tokens).tree.kept.Sublist
        ((tokenize "[1, 2]").tokens.take p) ∧
      (∀ t ∈ (tokenize "[1, 2]").tokens.take p,
        t ∉ (Reading.ofTokens (tokenize "[1, 2]").tokens).tree.kept →
        ∃ e ∈ (Reading.ofTokens (tokenize "[1, 2]").tokens).errors, e.column = t.column) ∧
      ∀ t, (tokenize "[1, 2]").tokens[p]? = some t →
        ∃ e, (Reading.ofTokens (tokenize "[1, 2]").tokens).errors.getLast? = some e ∧
          e.column = t.column := by
  have htokens : (tokenize "[1, 2]").tokens =
      [⟨.leftBracket, "[", 1⟩, ⟨.number, "1", 2⟩, ⟨.comma, ",", 3⟩, ⟨.number, "2", 5⟩,
        ⟨.rightBracket, "]", 6⟩] := by decide +kernel
  have hread : (Reading.ofTokens (tokenize "[1, 2]").tokens).errors = [] ∧
      (Reading.ofTokens (tokenize "[1, 2]").tokens).tree.kept =
        [⟨.leftBracket, "[", 1⟩, ⟨.number, "1", 2⟩, ⟨.number, "2", 5⟩,
          ⟨.rightBracket, "]", 6⟩] := by decide +kernel
  rintro ⟨p, -, hsublist, hreported, -⟩
  rw [hread.2, htokens] at hsublist
  rw [hread.1, hread.2, htokens] at hreported
  -- the closing bracket is the fifth token, so that the comma in front of it has been passed
  have hp : 4 < p := by
    refine Nat.lt_of_not_le fun hle => ?_
    have hmem := List.take_subset_take_left _ hle (hsublist.subset (a := ⟨.rightBracket, "]", 6⟩)
      (by decide))
    exact absurd hmem (by decide)
  obtain ⟨e, he, -⟩ := hreported ⟨.comma, ",", 3⟩
    (List.take_subset_take_left _ (Nat.le_of_lt hp) (by decide)) (by decide)
  cases he

end Parley
