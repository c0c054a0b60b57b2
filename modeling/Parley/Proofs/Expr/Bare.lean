import Parley.Proofs.Parser.Accepts
import Parley.Proofs.Token.Cut

/-!
# Expressions without their layout

A tree keeps the tokens it was read from, and with them what a reader of the source may choose
freely: where a token stands, and the case of the letters of a keyword. `Parley.Expr.bare`
leaves this out.

Neither takes part in a derivation (`Parley.Expr.derivationOf_bare`). Since a list of tokens has
one derivation, the tokens without their layout settle the tree without its layout
(`Parley.Expr.bare_eq_of_derivationOf`).
-/

namespace Parley

/-! ### Tokens -/

namespace Token

/-- **A token without its layout**: at no column, and in lower case if it is a keyword. -/
def bare (t : Token) : Token :=
  ⟨t.kind, if t.kind.keyword?.isSome then String.ofList (t.lexeme.toList.map Char.toLower)
    else t.lexeme, 0⟩

@[simp] theorem kind_bare (t : Token) : t.bare.kind = t.kind := rfl

/-- Where a token is not a keyword, its text stays what it is. -/
theorem lexeme_bare {t : Token} (h : t.kind.keyword? = none) : t.bare.lexeme = t.lexeme := by
  rw [bare, h]
  rfl

/-- Wherever the tokens stand, their kinds are the same. -/
theorem map_kind_of_map_bare {ts us : List Token} (h : ts.map bare = us.map bare) :
    ts.map kind = us.map kind := by
  have hkind : kind ∘ bare = kind := funext kind_bare
  rw [← hkind, ← List.map_map, h, List.map_map]

end Token

/-! ### Trees -/

mutual

/-- **An expression without its layout.** -/
def Expr.bare : Expr → Expr
  | .term t => .term t.bare
  | .negation keyword operand => .negation keyword.bare operand.bare
  | .binary level left operator right => .binary level left.bare operator.bare right.bare

/-- A term without its layout. -/
def Term.bare : Term → Term
  | .string t => .string t.bare
  | .number t => .number t.bare
  | .boolean t => .boolean t.bare
  | .array opening elements closing =>
    .array opening.bare (Term.listBare elements) closing.bare
  | .group opening inner closing => .group opening.bare inner.bare closing.bare
  | .path head links => .path head.bare (Link.chainBare links)
  | .missing _ => .missing 0

/-- Several terms without their layout. -/
def Term.listBare : List Term → List Term
  | [] => []
  | t :: ts => t.bare :: Term.listBare ts

/-- Links without their layout. -/
def Link.chainBare : List Link → List Link
  | [] => []
  | l :: ls => l.bare :: Link.chainBare ls

/-- A link without its layout. -/
def Link.bare : Link → Link
  | .entry period name => .entry period.bare name.bare
  | .item opening index closing => .item opening.bare index.bare closing.bare
  | .call opening arguments closing =>
    .call opening.bare (Term.listBare arguments) closing.bare

end

@[simp] theorem Expr.rank_bare (e : Expr) : e.bare.rank = e.rank := by
  cases e <;> rfl

/-! ### Derivations -/

/-- Tokens between brackets. -/
theorem Token.map_bare_bracketed (opening closing : Token) (ts : List Token) :
    (opening :: (ts ++ [closing])).map bare = opening.bare :: (ts.map bare ++ [closing.bare]) := by
  rw [List.map_cons, List.map_append, List.map_singleton]

mutual

/-- **A derivation stays one** without the layout. -/
theorem Expr.derivationOf_bare : ∀ (e : Expr) {ts : List Token}, e.DerivationOf ts →
    e.bare.DerivationOf (ts.map Token.bare)
  | .term t, _, .term h => .term (t.derivationOf_bare h)
  | .negation _ operand, _, .negation hk hr h =>
    .negation hk ((operand.rank_bare).trans hr) (operand.derivationOf_bare h)
  | .binary l left _ right, _, .binary hop hl hr h h' => by
    rw [List.map_append, List.map_cons]
    rw [← left.rank_bare] at hl
    rw [← right.rank_bare] at hr
    exact .binary hop hl hr (left.derivationOf_bare h) (right.derivationOf_bare h')

theorem Term.derivationOf_bare : ∀ (t : Term) {ts : List Token}, t.DerivationOf ts →
    t.bare.DerivationOf (ts.map Token.bare)
  | .string _, _, .string hk => .string hk
  | .number _, _, .number hk => .number hk
  | .boolean _, _, .boolean hk => .boolean hk
  | .array _ elements _, _, .array ho h hc => by
    rw [Token.map_bare_bracketed]
    exact .array ho (Term.listOf_bare elements h) hc
  | .group _ inner _, _, .group ho h hc => by
    rw [Token.map_bare_bracketed]
    exact .group ho (inner.derivationOf_bare h) hc
  | .path _ links, _, .path hk h => .path hk (Link.chainOf_bare links h)

theorem Term.listOf_bare : ∀ (es : List Term) {ts : List Token}, Term.ListOf es ts →
    Term.ListOf (Term.listBare es) (ts.map Token.bare)
  | [], _, .nil => .nil
  | t :: more, _, .cons h hm => by
    rw [List.map_append]
    exact .cons (t.derivationOf_bare h) (Term.moreOf_bare more hm)

theorem Term.moreOf_bare : ∀ (es : List Term) {ts : List Token}, Term.MoreOf es ts →
    Term.MoreOf (Term.listBare es) (ts.map Token.bare)
  | [], _, .nil => .nil
  | t :: more, _, .cons hk h hm => by
    rw [List.map_cons, List.map_append]
    exact .cons hk (t.derivationOf_bare h) (Term.moreOf_bare more hm)

theorem Link.chainOf_bare : ∀ (ls : List Link) {ts : List Token}, Link.ChainOf ls ts →
    Link.ChainOf (Link.chainBare ls) (ts.map Token.bare)
  | [], _, .nil => .nil
  | l :: ls, _, .cons h hs => by
    rw [List.map_append]
    exact .cons (l.derivationOf_bare h) (Link.chainOf_bare ls hs)

theorem Link.derivationOf_bare : ∀ (l : Link) {ts : List Token}, l.DerivationOf ts →
    l.bare.DerivationOf (ts.map Token.bare)
  | .entry _ _, _, .entry hp hn => .entry hp hn
  | .item _ index _, _, .item ho h hc => by
    rw [Token.map_bare_bracketed]
    exact .item ho (index.derivationOf_bare h) hc
  | .call _ arguments _, _, .call ho h hc => by
    rw [Token.map_bare_bracketed]
    exact .call ho (Term.listOf_bare arguments h) hc

end

/-- **Tokens that differ in their layout only** have trees that differ in their layout only. -/
theorem Expr.bare_eq_of_derivationOf {e e' : Expr} {ts us : List Token} (h : e.DerivationOf ts)
    (h' : e'.DerivationOf us) (hbare : ts.map Token.bare = us.map Token.bare) :
    e.bare = e'.bare := by
  have hd : e.bare.DerivationOf (us.map Token.bare) := hbare ▸ e.derivationOf_bare h
  rw [← (Reading.derivationOf_iff.1 hd).2,
    ← (Reading.derivationOf_iff.1 (e'.derivationOf_bare h')).2]

end Parley
