import Parley.Proofs.Expr.Leaves
import Parley.Proofs.Parser.Complete
import Parley.Proofs.Parser.Sound

/-!
# The reader accepts exactly the grammar

Soundness and completeness of the steps of the reader, put together for whole sources: a list
of tokens is read without errors exactly when its kinds can be derived from the grammar, and
the tree that is read is then the only derivation of the tokens.

That it is the only one needs no argument about the grammar. By completeness every derivation
of the tokens is what the reader answers, and the reader has one answer.

The tokens in the tree are not all of those that were read, as a tree lacks the commas of its lists
(`Parley.tree_of_a_list_lacks_its_comma`). With one comma between any two neighbours in a list of
terms they are.
-/

namespace Parley

namespace Reading

/-- Without errors all the tokens are taken, and the tree is a derivation of them. -/
theorem derivationOf_of_no_errors {ts : List Token} (h : (ofTokens ts).errors = []) :
    (ofTokens ts).tree.DerivationOf ts := by
  have hsound := Parser.level_sound (Parser.endColumn ts) (Parser.budget ts) .disjunction ts
  unfold ofTokens at h ⊢
  cases hrest : (Parser.expression ts).rest with
  | nil =>
    simp only [hrest] at h ⊢
    obtain ⟨us, hts, -, hd⟩ := hsound h
    obtain rfl : ts = us := by
      rw [hts]
      exact (congrArg (us ++ ·) hrest).trans (List.append_nil us)
    exact hd
  | cons t rest =>
    simp only [hrest] at h
    exact absurd (List.append_eq_nil_iff.1 h).2 (List.cons_ne_nil _ _)

/-- A derivation of the tokens is what is read from them. -/
theorem ofTokens_of_derivationOf {ts : List Token} {e : Expr} (h : e.DerivationOf ts) :
    ofTokens ts = ⟨e, []⟩ := by
  have hread : Parser.ReadsLevel (Parser.endColumn ts) .disjunction e ts :=
    (Parser.readsExpr _ e h).level .disjunction e.rank_le
  have heq : Parser.expression ts = ⟨e, [], []⟩ := by
    have := hread (Parser.budget ts) [] (Parser.stops_nil _) (by
      simp only [Parser.budget, Level.rank]
      omega)
    rwa [List.append_nil] at this
  rw [ofTokens, heq]

/-- **The trees read without errors are the derivations.** -/
theorem derivationOf_iff {ts : List Token} {e : Expr} :
    e.DerivationOf ts ↔ (ofTokens ts).errors = [] ∧ (ofTokens ts).tree = e := by
  constructor
  · intro h
    rw [ofTokens_of_derivationOf h]
    exact ⟨rfl, rfl⟩
  · rintro ⟨h, rfl⟩
    exact derivationOf_of_no_errors h

theorem errors_eq_nil_iff {ts : List Token} :
    (ofTokens ts).errors = [] ↔ Grammar.Derivable (ts.map Token.kind) := by
  rw [derivable_iff_exists_derivationOf]
  constructor
  · exact fun h => ⟨_, derivationOf_of_no_errors h⟩
  · rintro ⟨e, he⟩
    exact (derivationOf_iff.1 he).1

end Reading

/-- A source is parsed to a tree exactly when the lexer has no complaint and the tree is a
derivation of its tokens. -/
theorem parse_eq_ok_iff {source : String} {e : Expr} :
    parse source = .ok e ↔
      (tokenize source).errors = [] ∧ e.DerivationOf (tokenize source).tokens := by
  rw [Reading.derivationOf_iff, parse, Reading.checked]
  cases hlex : (tokenize source).errors with
  | cons err errs => simp
  | nil =>
    cases hread : (Reading.ofTokens (tokenize source).tokens).errors with
    | cons err errs => simp
    | nil => simp

/-- **The reader accepts exactly its grammar, with the right tree.** For every list of tokens
the reader meets no error if and only if the kinds of the tokens can be derived, and then the
tree it answers is a derivation of these tokens and the only one. They are the tokens in the tree,
read in order, and one comma between any two neighbours in a list of terms: with the commas
supplied the tree has all of them, and in the tree itself are all but the commas. Hence a source is
parsed if and only if the lexer has no complaint and the kinds of its tokens can be derived. -/
theorem reader_accepts_exactly_the_grammar :
    (∀ ts : List Token,
      ((Reading.ofTokens ts).errors = [] ↔ Grammar.Derivable (ts.map Token.kind)) ∧
      ∀ e : Expr,
        (e.DerivationOf ts ↔ (Reading.ofTokens ts).errors = [] ∧ (Reading.ofTokens ts).tree = e) ∧
        (e.DerivationOf ts →
          e.leaves = ts.map Token.written ∧ e.tokens = ts.filter (·.kind ≠ .comma))) ∧
    ∀ source : String,
      ((∃ e : Expr, parse source = .ok e) ↔
        (tokenize source).errors = [] ∧
          Grammar.Derivable ((tokenize source).tokens.map Token.kind)) ∧
      ∀ e : Expr, parse source = .ok e ↔
        (tokenize source).errors = [] ∧ e.DerivationOf (tokenize source).tokens := by
  constructor
  · intro ts
    refine ⟨Reading.errors_eq_nil_iff, fun e => ⟨Reading.derivationOf_iff, fun h => ?_⟩⟩
    exact ⟨e.leaves_eq h, Expr.tokens_eq h⟩
  · refine fun source => ⟨?_, fun e => parse_eq_ok_iff⟩
    rw [derivable_iff_exists_derivationOf]
    constructor
    · rintro ⟨e, he⟩
      obtain ⟨hlex, hd⟩ := parse_eq_ok_iff.1 he
      exact ⟨hlex, e, hd⟩
    · rintro ⟨hlex, e, hd⟩
      exact ⟨e, parse_eq_ok_iff.2 ⟨hlex, hd⟩⟩

/-- The tree of `[1, 2]` has no place for the comma, so that its tokens, read in order, are not
those of the source. -/
theorem tree_of_a_list_lacks_its_comma :
    (Reading.ofTokens (tokenize "[1, 2]").tokens).errors = [] ∧
    (Reading.ofTokens (tokenize "[1, 2]").tokens).tree =
      .term (.array ⟨.leftBracket, "[", 1⟩
        [.number ⟨.number, "1", 2⟩, .number ⟨.number, "2", 5⟩] ⟨.rightBracket, "]", 6⟩) ∧
    (Reading.ofTokens (tokenize "[1, 2]").tokens).tree.tokens ≠ (tokenize "[1, 2]").tokens := by
  have htokens : (tokenize "[1, 2]").tokens =
      [⟨.leftBracket, "[", 1⟩, ⟨.number, "1", 2⟩, ⟨.comma, ",", 3⟩, ⟨.number, "2", 5⟩,
        ⟨.rightBracket, "]", 6⟩] := by decide +kernel
  rw [htokens]
  refine ⟨rfl, rfl, ?_⟩
  decide

end Parley
