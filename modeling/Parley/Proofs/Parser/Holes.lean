import Parley.Expr.Parser
import Parley.Proofs.Expr.Print

/-!
# One placeholder for each error

The reader never gives up. What is due and not there is replaced by a placeholder, a value or a
token without a text, and each placeholder comes with an error. `Parley.Expr.holes` lists the
placeholders of a tree in the order of the tree, and `Parley.SyntaxError.hole?` tells which one an
error is about. In a tree that has been read the two lists agree one by one, and beyond them there
is at most one error, for the first token that is left over
(`Parley.each_error_has_its_placeholder`).

The invariant of a step is `Parley.Parsed.Recovers`: the errors are about certain holes, in this
order, and these are the holes of what has been read. The rules `map`, `andThen` and `cons` carry it
through the reader. A token that has been taken is no placeholder because it has a text, and the
same holds for the tokens that are left, since they are the last of those that were given.
-/

namespace Parley

/-! ### Placeholders -/

/-- **A placeholder** in a tree. -/
inductive Hole where
  /-- In place of a value. -/
  | value (column : Nat)
  /-- In place of a token of some kind. -/
  | token (kind : TokenKind) (column : Nat)
deriving DecidableEq, Repr

/-- Where a placeholder stands. -/
def Hole.column : Hole → Nat
  | value column => column
  | token _ column => column

/-- A token without a text is a placeholder. -/
def Token.holes (t : Token) : List Hole :=
  if t.lexeme = "" then [.token t.kind t.column] else []

mutual

/-- **The placeholders** of an expression, in the order of the tree. -/
def Expr.holes : Expr → List Hole
  | .term t => t.holes
  | .negation keyword operand => keyword.holes ++ operand.holes
  | .binary _ left operator right => left.holes ++ (operator.holes ++ right.holes)

/-- The placeholders of a term. -/
def Term.holes : Term → List Hole
  | .string t => t.holes
  | .number t => t.holes
  | .boolean t => t.holes
  | .array opening elements closing =>
    opening.holes ++ (Term.listHoles elements ++ closing.holes)
  | .group opening inner closing => opening.holes ++ (inner.holes ++ closing.holes)
  | .path head links => head.holes ++ Link.chainHoles links
  | .missing column => [.value column]

/-- The placeholders of several terms. -/
def Term.listHoles : List Term → List Hole
  | [] => []
  | t :: ts => t.holes ++ Term.listHoles ts

/-- The placeholders of a chain of links. -/
def Link.chainHoles : List Link → List Hole
  | [] => []
  | l :: ls => l.holes ++ Link.chainHoles ls

/-- The placeholders of a link. -/
def Link.holes : Link → List Hole
  | .entry period name => period.holes ++ name.holes
  | .item opening index closing => opening.holes ++ (index.holes ++ closing.holes)
  | .call opening arguments closing =>
    opening.holes ++ (Term.listHoles arguments ++ closing.holes)

end

theorem Term.holes_missing (column : Nat) : (missing column).holes = [.value column] := by
  rw [holes]

/-- The placeholder that an error is about, if it is about one. -/
def SyntaxError.hole? (e : SyntaxError) : Option Hole :=
  match e.complaint with
  | .expectedValue _ => some (.value e.column)
  | .expected kind _ => some (.token kind e.column)
  | _ => none

theorem SyntaxError.column_of_hole? {e : SyntaxError} {hole : Hole} (h : e.hole? = some hole) :
    e.column = hole.column := by
  unfold hole? at h
  split at h <;> cases h <;> rfl

/-- Errors about certain placeholders stand where these do. -/
theorem SyntaxError.columns_of_holes {errors : List SyntaxError} {holes : List Hole}
    (h : errors.map hole? = holes.map some) :
    errors.map column = holes.map Hole.column := by
  induction errors generalizing holes with
  | nil =>
    rw [List.map_nil, eq_comm, List.map_eq_nil_iff] at h
    rw [h, List.map_nil, List.map_nil]
  | cons e errors ih =>
    cases holes with
    | nil => cases h
    | cons hole holes =>
      obtain ⟨he, herrors⟩ := List.cons.inj h
      rw [List.map_cons, List.map_cons, column_of_hole? he, ih herrors]

/-- A token of a source has a text. -/
theorem Token.lexeme_ne_of_mem_tokens {source : String} {t : Token}
    (h : t ∈ (tokenize source).tokens) : t.lexeme ≠ "" := by
  intro hempty
  have hcut : (Item.token t).Cut t.lexeme.toList [] := spelled_of_mem_tokens h
  refine hcut.text_ne_nil ?_
  rw [hempty]
  rfl

/-! ### What a step leaves behind -/

/-- **A step that recovers**: its errors are about certain placeholders, and the value has them by
the relation `R`. The tokens that it leaves are the last of those it was given. -/
def Parsed.Recovers {α : Type} (R : α → List Hole → Prop) (ts : List Token) (p : Parsed α) : Prop :=
  (∀ t ∈ ts, t.lexeme ≠ "") →
    p.rest <:+ ts ∧ ∃ hs, p.errors.map SyntaxError.hole? = hs.map some ∧ R p.value hs

namespace Parsed

variable {α β : Type} {R : α → List Hole → Prop} {S : β → List Hole → Prop} {ts : List Token}

theorem Recovers.map {p : Parsed α} {f : α → β} (h : p.Recovers R ts)
    (hf : ∀ a hs, R a hs → S (f a) hs) : (p.map f).Recovers S ts := by
  intro htexts
  obtain ⟨hrest, hs, herrors, hR⟩ := h htexts
  exact ⟨hrest, hs, herrors, hf _ _ hR⟩

/-- One step after another recovers if both do, where the second one knows what the first has
read. -/
theorem Recovers.andThen {p : Parsed α} {next : α → List Token → Parsed β} (h : p.Recovers R ts)
    (hnext : ∀ a hs rest, R a hs → (next a rest).Recovers (fun b ks => S b (hs ++ ks)) rest) :
    (p.andThen next).Recovers S ts := by
  intro htexts
  obtain ⟨hrest, hs, herrors, hR⟩ := h htexts
  obtain ⟨hrest', ks, herrors', hS⟩ := hnext _ _ _ hR fun t ht => htexts t (hrest.subset ht)
  refine ⟨hrest'.trans hrest, hs ++ ks, ?_, hS⟩
  rw [errors_andThen, List.map_append, List.map_append, herrors, herrors']

/-- A step that takes nothing. -/
theorem recovers_pure {a : α} (h : R a []) : (⟨a, [], ts⟩ : Parsed α).Recovers R ts :=
  fun _ => ⟨List.suffix_rfl, [], rfl, h⟩

/-- A step behind a token that has been taken, which is no placeholder. -/
theorem Recovers.cons {p : Parsed α} {t : Token} (h : t.holes = [] → p.Recovers R ts) :
    p.Recovers R (t :: ts) := by
  intro htexts
  obtain ⟨ht, hts⟩ := List.forall_mem_cons.1 htexts
  obtain ⟨hrest, hholes⟩ := h (if_neg ht) hts
  exact ⟨hrest.trans (List.suffix_cons t ts), hholes⟩

end Parsed

namespace Parser

variable (stop : Nat)

theorem expect_recovers (kind : TokenKind) (ts : List Token) :
    (expect stop kind ts).Recovers (fun t hs => t.holes = hs) ts := by
  cases ts with
  | nil => exact fun _ => ⟨List.suffix_rfl, [.token kind stop], rfl, rfl⟩
  | cons t rest =>
    rw [expect]
    split
    · exact Parsed.Recovers.cons fun ht => Parsed.recovers_pure ht
    · exact fun _ => ⟨List.suffix_rfl, [.token kind t.column], rfl, rfl⟩

/-- A value that is missing is one placeholder, whether the next token is dropped or not. -/
theorem missingValue_recovers (ts : List Token) :
    (missingValue stop ts).Recovers (fun t hs => t.holes = hs) ts := by
  cases ts with
  | nil => exact fun _ => ⟨List.suffix_rfl, [.value stop], rfl, Term.holes_missing stop⟩
  | cons t rest =>
    rw [missingValue]
    refine fun _ => ⟨?_, [.value t.column], rfl, Term.holes_missing t.column⟩
    split
    · exact List.suffix_rfl
    · exact List.suffix_cons t rest

/-! ### The steps of the reader

What `Parser.chain` reads has the left operand in it, whose placeholders are not its own. -/

mutual

theorem level_recovers : ∀ (fuel : Nat) (l : Level) (ts : List Token),
    (level stop fuel l ts).Recovers (fun e hs => e.holes = hs) ts
  | 0, _, ts => (missingValue_recovers stop ts).map fun t hs h => by rw [Expr.holes, h]
  | fuel + 1, l, ts => by
    rw [level]
    refine (operand_recovers fuel l ts).andThen fun left hs rest h => ?_
    subst h
    exact chain_recovers fuel l left rest

theorem operand_recovers : ∀ (fuel : Nat) (l : Level) (ts : List Token),
    (operand stop fuel l ts).Recovers (fun e hs => e.holes = hs) ts
  | 0, _, ts => (missingValue_recovers stop ts).map fun t hs h => by rw [Expr.holes, h]
  | fuel + 1, l, ts => by
    rw [operand]
    split
    · exact level_recovers fuel _ ts
    · exact negation_recovers fuel ts

theorem chain_recovers : ∀ (fuel : Nat) (l : Level) (left : Expr) (ts : List Token),
    (chain stop fuel l left ts).Recovers (fun e hs => e.holes = left.holes ++ hs) ts
  | 0, _, left, _ => Parsed.recovers_pure (List.append_nil left.holes).symm
  | fuel + 1, l, left, [] => Parsed.recovers_pure (List.append_nil left.holes).symm
  | fuel + 1, l, left, op :: rest => by
    rw [chain]
    split
    · refine Parsed.Recovers.cons fun hop => (operand_recovers fuel l rest).andThen ?_
      intro right hs rest' h
      have hbinary : (Expr.binary l left op right).holes = left.holes ++ hs := by
        rw [Expr.holes, hop, h, List.nil_append]
      split
      · -- the operands so far are the left operand of what follows
        have hchain := chain_recovers fuel l (.binary l left op right) rest'
        simpa only [hbinary, List.append_assoc] using hchain
      · exact Parsed.recovers_pure (by rw [hbinary, List.append_nil])
    · exact Parsed.recovers_pure (List.append_nil left.holes).symm

theorem negation_recovers : ∀ (fuel : Nat) (ts : List Token),
    (negation stop fuel ts).Recovers (fun e hs => e.holes = hs) ts
  | 0, ts => (missingValue_recovers stop ts).map fun t hs h => by rw [Expr.holes, h]
  | fuel + 1, [] => by
    rw [negation]
    exact (term_recovers fuel []).map fun t hs h => by rw [Expr.holes, h]
  | fuel + 1, t :: rest => by
    rw [negation]
    split
    · refine Parsed.Recovers.cons fun ht => (negation_recovers fuel rest).map fun e hs h => ?_
      rw [Expr.holes, ht, h, List.nil_append]
    · exact (term_recovers fuel (t :: rest)).map fun t hs h => by rw [Expr.holes, h]

theorem term_recovers : ∀ (fuel : Nat) (ts : List Token),
    (term stop fuel ts).Recovers (fun t hs => t.holes = hs) ts
  | 0, ts => missingValue_recovers stop ts
  | fuel + 1, [] => missingValue_recovers stop []
  | fuel + 1, t :: rest => by
    rw [term]
    split
    · exact Parsed.Recovers.cons fun ht => Parsed.recovers_pure (by rw [Term.holes, ht])
    · exact Parsed.Recovers.cons fun ht => Parsed.recovers_pure (by rw [Term.holes, ht])
    · exact Parsed.Recovers.cons fun ht => Parsed.recovers_pure (by rw [Term.holes, ht])
    · exact Parsed.Recovers.cons fun ht => Parsed.recovers_pure (by rw [Term.holes, ht])
    · refine Parsed.Recovers.cons fun ht => (links_recovers fuel rest).map fun ls hs h => ?_
      rw [Term.holes, ht, h, List.nil_append]
    · refine Parsed.Recovers.cons fun ht => (list_recovers fuel .rightBracket rest).andThen ?_
      intro elements hs rest' h
      refine (expect_recovers stop .rightBracket rest').map fun closing ks hc => ?_
      rw [Term.holes, ht, h, hc, List.nil_append]
    · refine Parsed.Recovers.cons fun ht => (level_recovers fuel .disjunction rest).andThen ?_
      intro inner hs rest' h
      refine (expect_recovers stop .rightParen rest').map fun closing ks hc => ?_
      rw [Term.holes, ht, h, hc, List.nil_append]
    · exact missingValue_recovers stop (t :: rest)

theorem list_recovers : ∀ (fuel : Nat) (close : TokenKind) (ts : List Token),
    (list stop fuel close ts).Recovers (fun es hs => Term.listHoles es = hs) ts
  | 0, _, _ => Parsed.recovers_pure (by rw [Term.listHoles])
  | fuel + 1, close, ts => by
    rw [list]
    split
    · exact Parsed.recovers_pure (by rw [Term.listHoles])
    · refine (term_recovers fuel ts).andThen fun first hs rest h => ?_
      refine (more_recovers fuel rest).map fun es ks hes => ?_
      rw [Term.listHoles, h, hes]

theorem more_recovers : ∀ (fuel : Nat) (ts : List Token),
    (more stop fuel ts).Recovers (fun es hs => Term.listHoles es = hs) ts
  | 0, _ => Parsed.recovers_pure (by rw [Term.listHoles])
  | fuel + 1, [] => Parsed.recovers_pure (by rw [Term.listHoles])
  | fuel + 1, t :: rest => by
    rw [more]
    split
    · -- the comma is taken and not kept in the tree
      refine Parsed.Recovers.cons fun _ => (term_recovers fuel rest).andThen ?_
      intro next hs rest' h
      refine (more_recovers fuel rest').map fun es ks hes => ?_
      rw [Term.listHoles, h, hes]
    · exact Parsed.recovers_pure (by rw [Term.listHoles])

theorem links_recovers : ∀ (fuel : Nat) (ts : List Token),
    (links stop fuel ts).Recovers (fun ls hs => Link.chainHoles ls = hs) ts
  | 0, _ => Parsed.recovers_pure (by rw [Link.chainHoles])
  | fuel + 1, [] => Parsed.recovers_pure (by rw [Link.chainHoles])
  | fuel + 1, t :: rest => by
    rw [links]
    split
    · refine Parsed.Recovers.cons fun ht => (expect_recovers stop .identifier rest).andThen ?_
      intro name hs rest' h
      refine (links_recovers fuel rest').map fun ls ks hls => ?_
      rw [Link.chainHoles, Link.holes, ht, h, hls, List.nil_append]
    · refine Parsed.Recovers.cons fun ht => (term_recovers fuel rest).andThen ?_
      intro index hs rest' h
      refine (expect_recovers stop .rightBracket rest').andThen fun closing ks rest'' hc => ?_
      refine (links_recovers fuel rest'').map fun ls ms hls => ?_
      rw [Link.chainHoles, Link.holes, ht, h, hc, hls, List.nil_append, List.append_assoc]
    · refine Parsed.Recovers.cons fun ht => (list_recovers fuel .rightParen rest).andThen ?_
      intro arguments hs rest' h
      refine (expect_recovers stop .rightParen rest').andThen fun closing ks rest'' hc => ?_
      refine (links_recovers fuel rest'').map fun ls ms hls => ?_
      rw [Link.chainHoles, Link.holes, ht, h, hc, hls, List.nil_append, List.append_assoc]
    · exact Parsed.recovers_pure (by rw [Link.chainHoles])

end

end Parser

/-- **Each error has its placeholder.** Let every token have a text. The errors of a reading stand
at the columns of the placeholders in its tree, in the order of the tree, and if tokens are left
over, one more stands at the first of these. So there is no error exactly when the tree has no
placeholder and all tokens have been taken. -/
theorem each_error_has_its_placeholder {ts : List Token} (h : ∀ t ∈ ts, t.lexeme ≠ "") :
    (Parser.expression ts).rest <:+ ts ∧
      (Reading.ofTokens ts).errors.map SyntaxError.column =
        (Reading.ofTokens ts).tree.holes.map Hole.column ++
          ((Parser.expression ts).rest.head?.map Token.column).toList ∧
      ((Reading.ofTokens ts).errors = [] ↔
        (Reading.ofTokens ts).tree.holes = [] ∧ (Parser.expression ts).rest = []) := by
  obtain ⟨hsuffix, holes, herrors, htree⟩ :=
    Parser.level_recovers (Parser.endColumn ts) (Parser.budget ts) .disjunction ts h
  have hcolumns : (Reading.ofTokens ts).errors.map SyntaxError.column =
      (Reading.ofTokens ts).tree.holes.map Hole.column ++
        ((Parser.expression ts).rest.head?.map Token.column).toList := by
    have hread : (Parser.expression ts).errors.map SyntaxError.column =
        (Parser.expression ts).value.holes.map Hole.column :=
      (SyntaxError.columns_of_holes herrors).trans (congrArg (List.map Hole.column) htree.symm)
    rw [Reading.ofTokens]
    cases (Parser.expression ts).rest with
    | nil => exact hread.trans (List.append_nil _).symm
    | cons t rest =>
      rw [List.map_append, hread]
      rfl
  refine ⟨hsuffix, hcolumns, ?_⟩
  rw [← List.map_eq_nil_iff (f := SyntaxError.column), hcolumns, List.append_eq_nil_iff,
    List.map_eq_nil_iff]
  simp

/-- A value is missing in front of a comma, and the name of an entry in front of a parenthesis; a
second parenthesis is left over. -/
theorem each_error_has_its_placeholder_call :
    (Reading.ofTokens (tokenize "f(, a.))").tokens).errors.map SyntaxError.column = [3, 7, 8] := by
  have htexts : ∀ t ∈ (tokenize "f(, a.))").tokens, t.lexeme ≠ "" :=
    fun _ => Token.lexeme_ne_of_mem_tokens
  obtain ⟨-, hcolumns, -⟩ := each_error_has_its_placeholder htexts
  have hholes : (Reading.ofTokens (tokenize "f(, a.))").tokens).tree.holes =
      [.value 3, .token .identifier 7] := by decide +kernel
  have hrest : (Parser.expression (tokenize "f(, a.))").tokens).rest =
      [⟨.rightParen, ")", 8⟩] := by decide +kernel
  rw [hcolumns, hholes, hrest]
  rfl

end Parley
