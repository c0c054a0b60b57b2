import Parley.Proofs.Grammar

/-!
# The leaves of a tree

A tree keeps the tokens it was read from, but for the commas between the terms of its lists. So its
tokens can be read off in two ways. `Parley.Expr.leaves` supplies a comma between any two terms of a
list, and `Parley.Expr.tokens` leaves the commas out.

For a derivation both are determined by the tokens that it derives: the leaves are these tokens,
where the comma that is supplied stands for each of theirs (`Parley.Expr.leaves_eq`), and the tokens
in the tree are these tokens without the commas (`Parley.Expr.tokens_eq`).
-/

namespace Parley

namespace Token

/-- The comma between two terms of a list. -/
def comma : Token := ⟨.comma, ",", 0⟩

/-- What is written for a token: the tree has not kept it if it is a comma. -/
def written (t : Token) : Token :=
  if t.kind = .comma then comma else t

theorem written_of_ne {t : Token} (h : t.kind ≠ .comma) : t.written = t := if_neg h

theorem written_eq_comma_iff {t : Token} : t.written = comma ↔ t.kind = .comma := by
  unfold written
  split
  · rename_i hk
    exact ⟨fun _ => hk, fun _ => rfl⟩
  · rename_i hk
    refine ⟨?_, fun h => absurd h hk⟩
    rintro rfl
    rfl

/-- Tokens other than commas are written as they are. -/
theorem filter_map_written (ts : List Token) :
    (ts.map written).filter (· ≠ comma) = ts.filter (·.kind ≠ .comma) :=
  calc (ts.map written).filter (· ≠ comma)
      = (ts.filter (·.kind ≠ .comma)).map written := by
        simp [List.filter_map, Function.comp_def, written_eq_comma_iff]
    _ = (ts.filter (·.kind ≠ .comma)).map id :=
        List.map_congr_left fun t ht => written_of_ne (by simpa using (List.mem_filter.1 ht).2)
    _ = ts.filter (·.kind ≠ .comma) := List.map_id _

end Token

/-! ### The leaves of a tree -/

mutual

/-- **The leaves** of an expression, in order, with a comma between any two terms of a list. -/
def Expr.leaves : Expr → List Token
  | .term t => t.leaves
  | .negation keyword operand => keyword :: operand.leaves
  | .binary _ left operator right => left.leaves ++ operator :: right.leaves

/-- The leaves of a term. -/
def Term.leaves : Term → List Token
  | .string t => [t]
  | .number t => [t]
  | .boolean t => [t]
  | .array opening elements closing => opening :: (Term.listLeaves elements ++ [closing])
  | .group opening inner closing => opening :: (inner.leaves ++ [closing])
  | .path head links => head :: Link.chainLeaves links
  | .missing _ => []

/-- The leaves of a list of terms. -/
def Term.listLeaves : List Term → List Token
  | [] => []
  | t :: more => t.leaves ++ Term.moreLeaves more

/-- The leaves of the further terms of a list. -/
def Term.moreLeaves : List Term → List Token
  | [] => []
  | t :: more => Token.comma :: (t.leaves ++ Term.moreLeaves more)

/-- The leaves of a chain of links. -/
def Link.chainLeaves : List Link → List Token
  | [] => []
  | l :: ls => l.leaves ++ Link.chainLeaves ls

/-- The leaves of a link. -/
def Link.leaves : Link → List Token
  | .entry period name => [period, name]
  | .item opening index closing => opening :: (index.leaves ++ [closing])
  | .call opening arguments closing => opening :: (Term.listLeaves arguments ++ [closing])

end

/-- **The tokens in a tree**, in order: its leaves but for the commas, which are not in it. -/
def Expr.tokens (e : Expr) : List Token :=
  e.leaves.filter (· ≠ Token.comma)

/-! ### The leaves of a derivation -/

theorem Token.map_written_bracketed {opening closing : Token} {k l : TokenKind} {ts : List Token}
    (ho : opening.kind = k) (hk : k ≠ .comma) (hc : closing.kind = l) (hl : l ≠ .comma) :
    (opening :: (ts ++ [closing])).map written = opening :: (ts.map written ++ [closing]) := by
  rw [List.map_cons, List.map_append, List.map_singleton, written_of_ne (ho ▸ hk),
    written_of_ne (hc ▸ hl)]

theorem Level.ne_comma {l : Level} {kind : TokenKind} (h : l.accepts kind = true) :
    kind ≠ .comma := by
  rintro rfl
  cases l <;> exact absurd h (by decide)

mutual

/-- **The leaves of a derivation are its tokens**, but for the commas. -/
theorem Expr.leaves_eq : ∀ (e : Expr) {ts : List Token}, e.DerivationOf ts →
    e.leaves = ts.map Token.written
  | .term t, _, .term h => t.leaves_eq h
  | .negation keyword operand, _, .negation hk _ h => by
    rw [Expr.leaves, operand.leaves_eq h, List.map_cons, Token.written_of_ne (by rw [hk]; decide)]
  | .binary _ left op right, _, .binary hop _ _ h h' => by
    rw [Expr.leaves, left.leaves_eq h, right.leaves_eq h', List.map_append, List.map_cons,
      Token.written_of_ne (Level.ne_comma hop)]

theorem Term.leaves_eq : ∀ (t : Term) {ts : List Token}, t.DerivationOf ts →
    t.leaves = ts.map Token.written
  | .string _, _, .string hk => by
    rw [Term.leaves, List.map_singleton, Token.written_of_ne (by rw [hk]; decide)]
  | .number _, _, .number hk => by
    rw [Term.leaves, List.map_singleton, Token.written_of_ne (by rw [hk]; decide)]
  | .boolean _, _, .boolean hk => by
    rw [Term.leaves, List.map_singleton,
      Token.written_of_ne (by rcases hk with hk | hk <;> rw [hk] <;> decide)]
  | .array _ elements _, _, .array ho h hc => by
    rw [Term.leaves, Term.listLeaves_eq elements h,
      Token.map_written_bracketed ho (by decide) hc (by decide)]
  | .group _ inner _, _, .group ho h hc => by
    rw [Term.leaves, inner.leaves_eq h, Token.map_written_bracketed ho (by decide) hc (by decide)]
  | .path _ links, _, .path hk h => by
    rw [Term.leaves, Link.chainLeaves_eq links h, List.map_cons,
      Token.written_of_ne (by rw [hk]; decide)]

theorem Term.listLeaves_eq : ∀ (es : List Term) {ts : List Token}, Term.ListOf es ts →
    Term.listLeaves es = ts.map Token.written
  | [], _, .nil => rfl
  | t :: more, _, .cons h hm => by
    rw [Term.listLeaves, t.leaves_eq h, Term.moreLeaves_eq more hm, List.map_append]

theorem Term.moreLeaves_eq : ∀ (es : List Term) {ts : List Token}, Term.MoreOf es ts →
    Term.moreLeaves es = ts.map Token.written
  | [], _, .nil => rfl
  | t :: more, _, .cons hk h hm => by
    rw [Term.moreLeaves, t.leaves_eq h, Term.moreLeaves_eq more hm, List.map_cons, List.map_append,
      Token.written, if_pos hk]

theorem Link.chainLeaves_eq : ∀ (ls : List Link) {ts : List Token}, Link.ChainOf ls ts →
    Link.chainLeaves ls = ts.map Token.written
  | [], _, .nil => rfl
  | l :: ls, _, .cons h hs => by
    rw [Link.chainLeaves, l.leaves_eq h, Link.chainLeaves_eq ls hs, List.map_append]

theorem Link.leaves_eq : ∀ (l : Link) {ts : List Token}, l.DerivationOf ts →
    l.leaves = ts.map Token.written
  | .entry _ _, _, .entry hp hn => by
    rw [Link.leaves, List.map_cons, List.map_singleton, Token.written_of_ne (by rw [hp]; decide),
      Token.written_of_ne (by rw [hn]; decide)]
  | .item _ index _, _, .item ho h hc => by
    rw [Link.leaves, index.leaves_eq h, Token.map_written_bracketed ho (by decide) hc (by decide)]
  | .call _ arguments _, _, .call ho h hc => by
    rw [Link.leaves, Term.listLeaves_eq arguments h,
      Token.map_written_bracketed ho (by decide) hc (by decide)]

end

/-- **The tokens in a derivation** are those that it derives, but for the commas. -/
theorem Expr.tokens_eq {e : Expr} {ts : List Token} (h : e.DerivationOf ts) :
    e.tokens = ts.filter (·.kind ≠ .comma) := by
  rw [Expr.tokens, e.leaves_eq h, Token.filter_map_written]

end Parley
