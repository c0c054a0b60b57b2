import Parley.Proofs.Eval.Bare
import Parley.Proofs.Expr.Print

/-!
# Parentheses that show precedence

How tightly an operator binds, and that operators of one level group to the left, can be made
explicit by parentheses around every application of an operator (`Parley.Expr.grouped`). This
changes the tree: each application becomes a group of its own, so that no operand is longer than
a term. But a group has the value of what is inside, so the evaluation is the same step by step
(`Parley.Eval.expr_grouped`).

The tree with all its parentheses is a derivation as well, from the old tokens and the new
parentheses. So it can be written and read again, and what is read has the same meaning as the
source that the tree came from (`Parley.parentheses_change_no_meaning`).
-/

namespace Parley

/-- The expression between parentheses of its own. -/
def Expr.enclosed (e : Expr) : Expr :=
  .term (.group ⟨.leftParen, "(", 0⟩ e ⟨.rightParen, ")", 0⟩)

mutual

/-- **The expression with every application of an operator in parentheses**: of a binary one
with its two operands, and of a `not` with its operand. -/
def Expr.grouped : Expr → Expr
  | .term t => .term t.grouped
  | .negation keyword operand => (Expr.negation keyword operand.grouped).enclosed
  | .binary level left operator right =>
    (Expr.binary level left.grouped operator right.grouped).enclosed

/-- The term with every application of an operator inside in parentheses. -/
def Term.grouped : Term → Term
  | .string t => .string t
  | .number t => .number t
  | .boolean t => .boolean t
  | .array opening elements closing => .array opening (Term.listGrouped elements) closing
  | .group opening inner closing => .group opening inner.grouped closing
  | .path head links => .path head (Link.chainGrouped links)
  | .missing column => .missing column

/-- The same for several terms. -/
def Term.listGrouped : List Term → List Term
  | [] => []
  | t :: ts => t.grouped :: Term.listGrouped ts

/-- The same for several links. -/
def Link.chainGrouped : List Link → List Link
  | [] => []
  | l :: ls => l.grouped :: Link.chainGrouped ls

/-- The same for a link. -/
def Link.grouped : Link → Link
  | .entry period name => .entry period name
  | .item opening index closing => .item opening index.grouped closing
  | .call opening arguments closing => .call opening (Term.listGrouped arguments) closing

end

/-- Outside of parentheses no operator is left. -/
theorem Expr.rank_grouped (e : Expr) : e.grouped.rank = 0 := by
  cases e <;> rfl

/-! ### The value -/

namespace Eval

variable {σ : Type} (host : Host σ) (context : Object)

/-- A group has the value of what is inside. -/
theorem expr_enclosed (e : Expr) : expr host context e.enclosed = expr host context e := by
  rw [Expr.enclosed, expr, term]

mutual

/-- **The evaluation is the same**, step by step. -/
theorem expr_grouped : ∀ e : Expr, expr host context e.grouped = expr host context e
  | .term t => by rw [Expr.grouped, expr, expr, term_grouped t]
  | .negation _ operand => by
    rw [Expr.grouped, expr_enclosed, expr, expr, expr_grouped operand]
  | .binary _ left _ right => by
    rw [Expr.grouped, expr_enclosed, expr, expr, expr_grouped left, expr_grouped right]

theorem term_grouped : ∀ t : Term, term host context t.grouped = term host context t
  | .string _ => rfl
  | .number _ => rfl
  | .boolean _ => rfl
  | .array _ elements _ => by rw [Term.grouped, term, term, terms_grouped elements]
  | .group _ inner _ => by rw [Term.grouped, term, term, expr_grouped inner]
  | .path _ chain => by
    rw [Term.grouped, term, term]
    exact bind_congr fun v => links_grouped chain v
  | .missing _ => rfl

theorem terms_grouped : ∀ ts : List Term,
    terms host context (Term.listGrouped ts) = terms host context ts
  | [] => rfl
  | t :: ts => by rw [Term.listGrouped, terms, terms, term_grouped t, terms_grouped ts]

theorem links_grouped : ∀ (ls : List Link) (v : Value),
    links host context v (Link.chainGrouped ls) = links host context v ls
  | [], _ => rfl
  | l :: ls, v => by
    rw [Link.chainGrouped, links, links, link_grouped l v]
    exact bind_congr fun w => links_grouped ls w

theorem link_grouped : ∀ (l : Link) (v : Value),
    link host context v l.grouped = link host context v l
  | .entry _ _, _ => rfl
  | .item _ index _, _ => by rw [Link.grouped, link, link, term_grouped index]
  | .call _ arguments _, _ => by rw [Link.grouped, link, link, terms_grouped arguments]

end

end Eval

theorem Expr.evaluate_grouped {σ : Type} (host : Host σ) (context : Object) (e : Expr) :
    e.grouped.evaluate host context = e.evaluate host context := by
  unfold Expr.evaluate
  rw [Eval.expr_grouped]

/-! ### The tokens -/

/-- **It could be read**: some tokens that their texts spell are derived. -/
def Readable (derives : List Token → Prop) : Prop :=
  ∃ ts, derives ts ∧ ∀ t ∈ ts, t.Spelled

theorem Token.spelled_bracketed {opening closing : Token} {ts : List Token} :
    (∀ t ∈ opening :: (ts ++ [closing]), t.Spelled) ↔
      opening.Spelled ∧ (∀ t ∈ ts, t.Spelled) ∧ closing.Spelled := by
  rw [List.forall_mem_cons, List.forall_mem_append, List.forall_mem_singleton]

theorem Expr.readable_enclosed {e : Expr} (h : Readable e.DerivationOf) :
    Readable e.enclosed.DerivationOf := by
  obtain ⟨ts, hd, hts⟩ := h
  have hopening : Token.Spelled ⟨.leftParen, "(", 0⟩ := Token.spelled_punctuation (c := '(') 0 rfl
  have hclosing : Token.Spelled ⟨.rightParen, ")", 0⟩ := Token.spelled_punctuation (c := ')') 0 rfl
  exact ⟨_, .term (.group rfl hd rfl), Token.spelled_bracketed.2 ⟨hopening, hts, hclosing⟩⟩

mutual

/-- **With all its parentheses an expression can still be read.** -/
theorem Expr.readable_grouped : ∀ (e : Expr) {ts : List Token}, e.DerivationOf ts →
    (∀ t ∈ ts, t.Spelled) → Readable e.grouped.DerivationOf
  | .term t, _, .term h, hts => by
    obtain ⟨us, hd, hus⟩ := t.readable_grouped h hts
    exact ⟨us, .term hd, hus⟩
  | .negation keyword operand, _, .negation hk _ h, hts => by
    obtain ⟨hkeyword, hts⟩ := List.forall_mem_cons.1 hts
    obtain ⟨us, hd, hus⟩ := operand.readable_grouped h hts
    refine Expr.readable_enclosed ⟨keyword :: us, ?_, List.forall_mem_cons.2 ⟨hkeyword, hus⟩⟩
    exact .negation hk operand.rank_grouped hd
  | .binary l left op right, _, .binary hop _ _ h h', hts => by
    obtain ⟨hts, hts'⟩ := List.forall_mem_append.1 hts
    obtain ⟨hspelled, hts'⟩ := List.forall_mem_cons.1 hts'
    obtain ⟨us, hd, hus⟩ := left.readable_grouped h hts
    obtain ⟨vs, hd', hvs⟩ := right.readable_grouped h' hts'
    refine Expr.readable_enclosed ⟨us ++ op :: vs, ?_,
      List.forall_mem_append.2 ⟨hus, List.forall_mem_cons.2 ⟨hspelled, hvs⟩⟩⟩
    -- terms are tight enough for any level
    refine .binary hop ?_ ?_ hd hd'
    · rw [left.rank_grouped]
      exact Nat.zero_le _
    · rw [right.rank_grouped]
      exact Nat.zero_le _

theorem Term.readable_grouped : ∀ (t : Term) {ts : List Token}, t.DerivationOf ts →
    (∀ u ∈ ts, u.Spelled) → Readable t.grouped.DerivationOf
  | .string _, _, .string hk, hts => ⟨_, .string hk, hts⟩
  | .number _, _, .number hk, hts => ⟨_, .number hk, hts⟩
  | .boolean _, _, .boolean hk, hts => ⟨_, .boolean hk, hts⟩
  | .array _ elements _, _, .array ho h hc, hts => by
    obtain ⟨hopening, hts, hclosing⟩ := Token.spelled_bracketed.1 hts
    obtain ⟨us, hd, hus⟩ := Term.list_readable_grouped elements h hts
    exact ⟨_, .array ho hd hc, Token.spelled_bracketed.2 ⟨hopening, hus, hclosing⟩⟩
  | .group _ inner _, _, .group ho h hc, hts => by
    obtain ⟨hopening, hts, hclosing⟩ := Token.spelled_bracketed.1 hts
    obtain ⟨us, hd, hus⟩ := inner.readable_grouped h hts
    exact ⟨_, .group ho hd hc, Token.spelled_bracketed.2 ⟨hopening, hus, hclosing⟩⟩
  | .path head links, _, .path hk h, hts => by
    obtain ⟨hhead, hts⟩ := List.forall_mem_cons.1 hts
    obtain ⟨us, hd, hus⟩ := Link.chain_readable_grouped links h hts
    exact ⟨head :: us, .path hk hd, List.forall_mem_cons.2 ⟨hhead, hus⟩⟩

theorem Term.list_readable_grouped : ∀ (es : List Term) {ts : List Token}, Term.ListOf es ts →
    (∀ u ∈ ts, u.Spelled) → Readable (Term.ListOf (Term.listGrouped es))
  | [], _, .nil, hts => ⟨[], .nil, hts⟩
  | t :: more, _, .cons h hm, hts => by
    obtain ⟨hts, hts'⟩ := List.forall_mem_append.1 hts
    obtain ⟨us, hd, hus⟩ := t.readable_grouped h hts
    obtain ⟨vs, hd', hvs⟩ := Term.more_readable_grouped more hm hts'
    exact ⟨us ++ vs, .cons hd hd', List.forall_mem_append.2 ⟨hus, hvs⟩⟩

theorem Term.more_readable_grouped : ∀ (es : List Term) {ts : List Token}, Term.MoreOf es ts →
    (∀ u ∈ ts, u.Spelled) → Readable (Term.MoreOf (Term.listGrouped es))
  | [], _, .nil, hts => ⟨[], .nil, hts⟩
  | t :: more, comma :: _, .cons hk h hm, hts => by
    obtain ⟨hcomma, hts⟩ := List.forall_mem_cons.1 hts
    obtain ⟨hts, hts'⟩ := List.forall_mem_append.1 hts
    obtain ⟨us, hd, hus⟩ := t.readable_grouped h hts
    obtain ⟨vs, hd', hvs⟩ := Term.more_readable_grouped more hm hts'
    exact ⟨comma :: (us ++ vs), .cons hk hd hd',
      List.forall_mem_cons.2 ⟨hcomma, List.forall_mem_append.2 ⟨hus, hvs⟩⟩⟩

theorem Link.chain_readable_grouped : ∀ (ls : List Link) {ts : List Token}, Link.ChainOf ls ts →
    (∀ u ∈ ts, u.Spelled) → Readable (Link.ChainOf (Link.chainGrouped ls))
  | [], _, .nil, hts => ⟨[], .nil, hts⟩
  | l :: ls, _, .cons h hs, hts => by
    obtain ⟨hts, hts'⟩ := List.forall_mem_append.1 hts
    obtain ⟨us, hd, hus⟩ := l.readable_grouped h hts
    obtain ⟨vs, hd', hvs⟩ := Link.chain_readable_grouped ls hs hts'
    exact ⟨us ++ vs, .cons hd hd', List.forall_mem_append.2 ⟨hus, hvs⟩⟩

theorem Link.readable_grouped : ∀ (l : Link) {ts : List Token}, l.DerivationOf ts →
    (∀ u ∈ ts, u.Spelled) → Readable l.grouped.DerivationOf
  | .entry _ _, _, .entry hp hn, hts => ⟨_, .entry hp hn, hts⟩
  | .item _ index _, _, .item ho h hc, hts => by
    obtain ⟨hopening, hts, hclosing⟩ := Token.spelled_bracketed.1 hts
    obtain ⟨us, hd, hus⟩ := index.readable_grouped h hts
    exact ⟨_, .item ho hd hc, Token.spelled_bracketed.2 ⟨hopening, hus, hclosing⟩⟩
  | .call _ arguments _, _, .call ho h hc, hts => by
    obtain ⟨hopening, hts, hclosing⟩ := Token.spelled_bracketed.1 hts
    obtain ⟨us, hd, hus⟩ := Term.list_readable_grouped arguments h hts
    exact ⟨_, .call ho hd hc, Token.spelled_bracketed.2 ⟨hopening, hus, hclosing⟩⟩

end

/-! ### The written source -/

/-- **Parentheses that only make precedence explicit change nothing.** For every source that is
parsed, let every application of `or`, `and`, `+`, `-`, `*`, `/`, `in`, `matches` and `not` in
its tree be put in parentheses of its own, and the tree be written. What is written is parsed,
and it has the same meaning as the source: in every context, and whoever answers the calls, the
same value or the same error up to its column, after the same calls. -/
theorem parentheses_change_no_meaning {source : String} {e : Expr} (h : parse source = .ok e) :
    ∃ e', parse e.grouped.print = .ok e' ∧ e.SameMeaning e' := by
  obtain ⟨-, hd⟩ := parse_eq_ok_iff.1 h
  obtain ⟨us, hgrouped, hus⟩ := e.readable_grouped hd fun t => Token.spelled_of_mem_tokens
  obtain ⟨e', vs, hparse, hd', hbare⟩ := Expr.parse_print hgrouped hus
  refine ⟨e', hparse, fun σ host context run => ?_⟩
  -- the groups have the same value, and the layout of what is written has no meaning
  rw [← e.evaluate_grouped]
  exact Expr.SameMeaning.of_bare hgrouped hd' hbare.symm σ host context run

/-- The parentheses of `1 + 2 * 3`. -/
theorem parentheses_change_no_meaning_sum :
    ∃ e e', parse "1 + 2 * 3" = .ok e ∧ e.grouped.print = "( 1 + ( 2 * 3 ) )" ∧
      parse "( 1 + ( 2 * 3 ) )" = .ok e' ∧ e.SameMeaning e' := by
  have hlex : tokenize "1 + 2 * 3" = ⟨[⟨.number, "1", 1⟩, ⟨.plus, "+", 3⟩, ⟨.number, "2", 5⟩,
      ⟨.star, "*", 7⟩, ⟨.number, "3", 9⟩], []⟩ := by decide +kernel
  have hd : (Expr.binary .product (.term (.number ⟨.number, "2", 5⟩)) ⟨.star, "*", 7⟩
      (.term (.number ⟨.number, "3", 9⟩))).DerivationOf _ :=
    .binary rfl (by decide) (by decide) (.term (.number rfl)) (.term (.number rfl))
  have hparse : parse "1 + 2 * 3" = .ok (.binary .sum (.term (.number ⟨.number, "1", 1⟩))
      ⟨.plus, "+", 3⟩ (.binary .product (.term (.number ⟨.number, "2", 5⟩)) ⟨.star, "*", 7⟩
        (.term (.number ⟨.number, "3", 9⟩)))) := by
    rw [parse_eq_ok_iff, hlex]
    exact ⟨rfl, .binary rfl (by decide) (by decide) (.term (.number rfl)) hd⟩
  obtain ⟨e', hparse', hsame⟩ := parentheses_change_no_meaning hparse
  have hprint : Expr.print (Expr.grouped (.binary .sum (.term (.number ⟨.number, "1", 1⟩))
      ⟨.plus, "+", 3⟩ (.binary .product (.term (.number ⟨.number, "2", 5⟩)) ⟨.star, "*", 7⟩
        (.term (.number ⟨.number, "3", 9⟩))))) = "( 1 + ( 2 * 3 ) )" := by
    decide
  exact ⟨_, e', hparse, hprint, hprint ▸ hparse', hsame⟩

end Parley
