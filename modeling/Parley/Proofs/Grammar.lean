import Parley.Expr

/-!
# The grammar of expressions

What the reader of `Parley.Expr.Parser` accepts is described twice here, and neither
description mentions the reader.

* `Parley.Grammar.Rule.form` gives the rules in extended Backus–Naur form, over kinds of token.
  `Parley.Grammar.Derivable` says that a sequence of kinds can be derived from the rule
  `expression`.
* `Parley.Expr.DerivationOf` says that a tree is a derivation of a list of tokens: every node
  is an instance of a rule, and the tokens of the tree, read in order, are those of the list, where
  some token of the kind of a comma stands between any two neighbours in a list of terms.

The first description leaves the shape of the tree open. The second one fixes it: operators of
a level that may be repeated group to the left, which is a condition on the
`Parley.Expr.rank` of the two operands. The commas are in no tree, so that one tree is a derivation
of several lists of tokens, which differ in the columns and the texts of their commas only.

The two agree (`Parley.derivable_iff_exists_derivationOf`).
-/

namespace Parley

namespace Grammar

/-! ### The rules -/

/-- The rules of the grammar, from the loosest to the tightest. -/
inductive Rule where
  | expression
  | disjunction
  | conjunction
  | sum
  | product
  | membership
  | matching
  | negation
  | value
  | array
  | path
  | entry
  | item
  | call

/-- What may stand on the right of a rule. -/
inductive Form where
  /-- One token of a kind. -/
  | token (kind : TokenKind)
  /-- Whatever a rule stands for. -/
  | rule (r : Rule)
  | seq (f g : Form)
  | either (f g : Form)
  /-- The form any number of times. -/
  | many (f : Form)
  /-- The form once, or nothing. -/
  | optional (f : Form)

/-- `operand ( operator operand )*` -/
def chained (operand : Rule) (operator : Form) : Form :=
  .seq (.rule operand) (.many (.seq operator (.rule operand)))

/-- `operand ( operator operand )?` -/
def paired (operand : Rule) (operator : Form) : Form :=
  .seq (.rule operand) (.optional (.seq operator (.rule operand)))

/-- `( value ( "," value )* )?` -/
def values : Form :=
  .optional (.seq (.rule .value) (.many (.seq (.token .comma) (.rule .value))))

/-- **The grammar**: what each rule stands for. -/
def Rule.form : Rule → Form
  | expression => .rule disjunction
  | disjunction => chained conjunction (.token .keywordOr)
  | conjunction => chained sum (.token .keywordAnd)
  | sum => chained product (.either (.token .plus) (.token .minus))
  | product => chained membership (.either (.token .star) (.token .slash))
  | membership => paired matching (.token .keywordIn)
  | matching => paired negation (.token .keywordMatches)
  | negation => .either (.seq (.token .keywordNot) (.rule negation)) (.rule value)
  | value =>
    .either (.token .string) <| .either (.token .number) <|
    .either (.either (.token .keywordTrue) (.token .keywordFalse)) <|
    .either (.rule array) <| .either (.rule path) <|
    .seq (.token .leftParen) (.seq (.rule expression) (.token .rightParen))
  | array => .seq (.token .leftBracket) (.seq values (.token .rightBracket))
  | path =>
    .seq (.token .identifier)
      (.many (.either (.rule entry) (.either (.rule item) (.rule call))))
  | entry => .seq (.token .period) (.token .identifier)
  | item => .seq (.token .leftBracket) (.seq (.rule value) (.token .rightBracket))
  | call => .seq (.token .leftParen) (.seq values (.token .rightParen))

/-- The sequences of kinds that a form stands for. -/
inductive Form.Derives : Form → List TokenKind → Prop
  | token (kind : TokenKind) : Derives (.token kind) [kind]
  | rule {r : Rule} {ks : List TokenKind} : Derives r.form ks → Derives (.rule r) ks
  | seq {f g : Form} {ks ls : List TokenKind} :
      Derives f ks → Derives g ls → Derives (.seq f g) (ks ++ ls)
  | left {f g : Form} {ks : List TokenKind} : Derives f ks → Derives (.either f g) ks
  | right {f g : Form} {ks : List TokenKind} : Derives g ks → Derives (.either f g) ks
  | nil {f : Form} : Derives (.many f) []
  | cons {f : Form} {ks ls : List TokenKind} :
      Derives f ks → Derives (.many f) ls → Derives (.many f) (ks ++ ls)
  | none {f : Form} : Derives (.optional f) []
  | some {f : Form} {ks : List TokenKind} : Derives f ks → Derives (.optional f) ks

/-- A sequence of kinds that can be derived from the first rule. -/
def Derivable (ks : List TokenKind) : Prop :=
  (Form.rule .expression).Derives ks

end Grammar

/-! ### Derivation trees -/

/-- How loosely an expression binds outside of brackets: zero for a term or a negation, and
one more than the rank of its level for an expression with an operator. -/
def Expr.rank : Expr → Nat
  | .term _ => 0
  | .negation _ _ => 0
  | .binary level _ _ _ => level.rank + 1

/-- The rank that a left operand may have. Where a level may be repeated, this is the rank of
the level itself, so that its operators group to the left. -/
def Level.leftRank (l : Level) : Nat :=
  if l.repeats then l.rank + 1 else l.rank

theorem Level.rank_le_leftRank (l : Level) : l.rank ≤ l.leftRank := by
  cases l <;> decide

theorem Level.leftRank_le (l : Level) : l.leftRank ≤ l.rank + 1 := by
  cases l <;> decide

theorem Level.rank_injective {l m : Level} (h : l.rank = m.rank) : l = m := by
  revert h
  cases l <;> cases m <;> decide

theorem Level.rank_of_tighter? {l m : Level} (h : l.tighter? = some m) : l.rank = m.rank + 1 := by
  cases l <;> cases h <;> rfl

theorem Level.rank_of_tighter?_none {l : Level} (h : l.tighter? = none) : l.rank = 0 := by
  cases l <;> cases h
  rfl

mutual

/-- `e.DerivationOf ts`: the tree is a derivation of the tokens. They are the tokens that it
holds, in order, and between any two neighbours in a list of terms a comma, which it does not
hold. -/
inductive Expr.DerivationOf : Expr → List Token → Prop
  | term {t : Term} {ts : List Token} : t.DerivationOf ts → (Expr.term t).DerivationOf ts
  | negation {keyword : Token} {operand : Expr} {ts : List Token} :
      keyword.kind = .keywordNot → operand.rank = 0 → operand.DerivationOf ts →
      (Expr.negation keyword operand).DerivationOf (keyword :: ts)
  | binary {l : Level} {left right : Expr} {op : Token} {ts us : List Token} :
      l.accepts op.kind = true → left.rank ≤ l.leftRank → right.rank ≤ l.rank →
      left.DerivationOf ts → right.DerivationOf us →
      (Expr.binary l left op right).DerivationOf (ts ++ op :: us)

/-- `t.DerivationOf ts`: the same for a term. There is no derivation for a missing one. -/
inductive Term.DerivationOf : Term → List Token → Prop
  | string {t : Token} : t.kind = .string → (Term.string t).DerivationOf [t]
  | number {t : Token} : t.kind = .number → (Term.number t).DerivationOf [t]
  | boolean {t : Token} : t.kind = .keywordTrue ∨ t.kind = .keywordFalse →
      (Term.boolean t).DerivationOf [t]
  | array {opening closing : Token} {elements : List Term} {ts : List Token} :
      opening.kind = .leftBracket → Term.ListOf elements ts → closing.kind = .rightBracket →
      (Term.array opening elements closing).DerivationOf (opening :: (ts ++ [closing]))
  | group {opening closing : Token} {inner : Expr} {ts : List Token} :
      opening.kind = .leftParen → inner.DerivationOf ts → closing.kind = .rightParen →
      (Term.group opening inner closing).DerivationOf (opening :: (ts ++ [closing]))
  | path {head : Token} {links : List Link} {ts : List Token} :
      head.kind = .identifier → Link.ChainOf links ts →
      (Term.path head links).DerivationOf (head :: ts)

/-- Terms with a comma between any two neighbours. -/
inductive Term.ListOf : List Term → List Token → Prop
  | nil : Term.ListOf [] []
  | cons {t : Term} {more : List Term} {ts us : List Token} :
      t.DerivationOf ts → Term.MoreOf more us → Term.ListOf (t :: more) (ts ++ us)

/-- Terms with a comma in front of each. -/
inductive Term.MoreOf : List Term → List Token → Prop
  | nil : Term.MoreOf [] []
  | cons {comma : Token} {t : Term} {more : List Term} {ts us : List Token} :
      comma.kind = .comma → t.DerivationOf ts → Term.MoreOf more us →
      Term.MoreOf (t :: more) (comma :: (ts ++ us))

/-- Links, one after another. -/
inductive Link.ChainOf : List Link → List Token → Prop
  | nil : Link.ChainOf [] []
  | cons {l : Link} {ls : List Link} {ts us : List Token} :
      l.DerivationOf ts → Link.ChainOf ls us → Link.ChainOf (l :: ls) (ts ++ us)

/-- `l.DerivationOf ts`: the same for a link. -/
inductive Link.DerivationOf : Link → List Token → Prop
  | entry {period name : Token} : period.kind = .period → name.kind = .identifier →
      (Link.entry period name).DerivationOf [period, name]
  | item {opening closing : Token} {index : Term} {ts : List Token} :
      opening.kind = .leftBracket → index.DerivationOf ts → closing.kind = .rightBracket →
      (Link.item opening index closing).DerivationOf (opening :: (ts ++ [closing]))
  | call {opening closing : Token} {arguments : List Term} {ts : List Token} :
      opening.kind = .leftParen → Term.ListOf arguments ts → closing.kind = .rightParen →
      (Link.call opening arguments closing).DerivationOf (opening :: (ts ++ [closing]))

end

/-! ### From trees to kinds -/

namespace Grammar

/-- The rule for the expressions of at most a rank. -/
def Rule.ofRank : Nat → Rule
  | 0 => negation
  | 1 => matching
  | 2 => membership
  | 3 => product
  | 4 => sum
  | 5 => conjunction
  | _ => disjunction

end Grammar

/-- The operators of a level, as a form. -/
def Level.operators : Level → Grammar.Form
  | disjunction => .token .keywordOr
  | conjunction => .token .keywordAnd
  | sum => .either (.token .plus) (.token .minus)
  | product => .either (.token .star) (.token .slash)
  | membership => .token .keywordIn
  | matching => .token .keywordMatches

namespace Grammar

theorem form_ofRank (l : Level) : (Rule.ofRank (l.rank + 1)).form =
    if l.repeats then chained (.ofRank l.rank) l.operators
    else paired (.ofRank l.rank) l.operators := by
  cases l <;> rfl

theorem derives_operators {l : Level} {kind : TokenKind} (h : l.accepts kind = true) :
    l.operators.Derives [kind] := by
  cases l <;> cases kind <;> first | exact absurd h (by decide) | skip
  case sum.plus => exact .left (.token _)
  case sum.minus => exact .right (.token _)
  case product.star => exact .left (.token _)
  case product.slash => exact .right (.token _)
  all_goals exact .token _

namespace Form.Derives

/-- A repeated form may be continued at its end. -/
theorem snoc {f : Form} {ks ls : List TokenKind} (h : (Form.many f).Derives ks)
    (hf : f.Derives ls) : (Form.many f).Derives (ks ++ ls) := by
  -- the other forms are excluded by the equation, which the induction keeps
  generalize hg : Form.many f = g at h
  induction h with
  | nil =>
    cases hg
    simpa using Form.Derives.cons hf .nil
  | cons hk _ _ ih =>
    cases hg
    rw [List.append_assoc]
    exact .cons hk (ih rfl)
  | _ => cases hg

/-- One operand is an expression of the level. -/
theorem looser (l : Level) {ks : List TokenKind} (h : (Form.rule (.ofRank l.rank)).Derives ks) :
    (Form.rule (.ofRank (l.rank + 1))).Derives ks := by
  refine .rule ?_
  rw [form_ofRank]
  split
  · simpa [chained] using Form.Derives.seq h .nil
  · simpa [paired] using Form.Derives.seq h .none

/-- **Two operands and an operator between them** are an expression of the level. -/
theorem binary {l : Level} {kind : TokenKind} {ks ls : List TokenKind}
    (hop : l.accepts kind = true) (hk : (Form.rule (.ofRank l.leftRank)).Derives ks)
    (hl : (Form.rule (.ofRank l.rank)).Derives ls) :
    (Form.rule (.ofRank (l.rank + 1))).Derives (ks ++ kind :: ls) := by
  have htail : (Form.seq l.operators (.rule (.ofRank l.rank))).Derives (kind :: ls) :=
    .seq (derives_operators hop) hl
  refine .rule ?_
  rw [Level.leftRank] at hk
  cases hr : l.repeats with
  | true =>
    rw [if_pos hr] at hk
    obtain _ | hk := hk
    rw [form_ofRank, if_pos hr] at hk ⊢
    cases hk with
    | seq hfirst hmany =>
      rw [List.append_assoc]
      exact .seq hfirst (hmany.snoc htail)
  | false =>
    rw [if_neg (by simp [hr])] at hk
    rw [form_ofRank, if_neg (by simp [hr])]
    exact .seq hk (.some htail)

/-- What a rule for a rank stands for, the rules for greater ranks stand for as well. -/
theorem mono {m n : Nat} {ks : List TokenKind} (hmn : m ≤ n)
    (h : (Form.rule (.ofRank m)).Derives ks) : (Form.rule (.ofRank n)).Derives ks := by
  induction hmn with
  | refl => exact h
  | @step n _ ih =>
    -- there is a rule of its own for each of the first six ranks, and one for all the others
    match n, ih with
    | 0, ih => exact ih.looser .matching
    | 1, ih => exact ih.looser .membership
    | 2, ih => exact ih.looser .product
    | 3, ih => exact ih.looser .sum
    | 4, ih => exact ih.looser .conjunction
    | 5, ih => exact ih.looser .disjunction
    | _ + 6, ih => exact ih

/-- A form between brackets. -/
theorem bracketed {f : Form} {opening closing : Token} {k l : TokenKind} {ts : List Token}
    (ho : opening.kind = k) (h : f.Derives (ts.map Token.kind)) (hc : closing.kind = l) :
    (Form.seq (.token k) (.seq f (.token l))).Derives
      ((opening :: (ts ++ [closing])).map Token.kind) := by
  rw [List.map_cons, List.map_append, List.map_singleton, ho, hc]
  exact .seq (.token k) (.seq h (.token l))

end Form.Derives

end Grammar

theorem Expr.rank_le (e : Expr) : e.rank ≤ 6 := by
  cases e with
  | term t => exact Nat.zero_le _
  | negation keyword operand => exact Nat.zero_le _
  | binary level left op right => cases level <;> simp [rank, Level.rank]

open Grammar (Form Rule)

mutual

/-- The kinds of the tokens that a tree derives can be derived by the rule for its rank. -/
theorem Expr.derives : ∀ (e : Expr) {ts : List Token}, e.DerivationOf ts →
    (Form.rule (.ofRank e.rank)).Derives (ts.map Token.kind)
  | .term t, _, .term h => .rule (.right (t.derives h))
  | .negation _ operand, _, .negation hk hr h => by
    have ih := operand.derives h
    rw [hr] at ih
    rw [List.map_cons, hk]
    exact .rule (.left (.seq (.token _) ih))
  | .binary _ left _ right, _, .binary hop hl hr h h' => by
    rw [List.map_append, List.map_cons]
    exact .binary hop ((left.derives h).mono hl) ((right.derives h').mono hr)

theorem Term.derives : ∀ (t : Term) {ts : List Token}, t.DerivationOf ts →
    (Form.rule .value).Derives (ts.map Token.kind)
  | .string t, _, .string h => by
    rw [List.map_singleton, h]
    exact .rule (.left (.token _))
  | .number t, _, .number h => by
    rw [List.map_singleton, h]
    exact .rule (.right (.left (.token _)))
  | .boolean t, _, .boolean h => by
    rw [List.map_singleton]
    rcases h with h | h
    · rw [h]
      exact .rule (.right (.right (.left (.left (.token _)))))
    · rw [h]
      exact .rule (.right (.right (.left (.right (.token _)))))
  | .array _ elements _, _, .array ho h hc =>
    have ih := Term.derives_list elements h
    .rule (.right (.right (.right (.left (.rule (.bracketed ho ih hc))))))
  | .group _ inner _, _, .group ho h hc =>
    have ih : (Form.rule .expression).Derives _ := .rule ((inner.derives h).mono inner.rank_le)
    .rule (.right (.right (.right (.right (.right (.bracketed ho ih hc))))))
  | .path _ links, _, .path hh h => by
    rw [List.map_cons, hh]
    exact .rule (.right (.right (.right (.right (.left (.rule
      (.seq (.token _) (Link.derives_chain links h))))))))

theorem Term.derives_list : ∀ (es : List Term) {ts : List Token}, Term.ListOf es ts →
    Grammar.values.Derives (ts.map Token.kind)
  | [], _, .nil => .none
  | t :: more, _, .cons h hm => by
    rw [List.map_append]
    exact .some (.seq (t.derives h) (Term.derives_more more hm))

theorem Term.derives_more : ∀ (es : List Term) {ts : List Token}, Term.MoreOf es ts →
    (Form.many (.seq (.token .comma) (.rule .value))).Derives (ts.map Token.kind)
  | [], _, .nil => .nil
  | t :: more, _, .cons hk h hm => by
    rw [List.map_cons, List.map_append, hk]
    exact .cons (.seq (.token _) (t.derives h)) (Term.derives_more more hm)

theorem Link.derives_chain : ∀ (ls : List Link) {ts : List Token}, Link.ChainOf ls ts →
    (Form.many (.either (.rule .entry) (.either (.rule .item) (.rule .call)))).Derives
      (ts.map Token.kind)
  | [], _, .nil => .nil
  | l :: ls, _, .cons h hs => by
    rw [List.map_append]
    exact .cons (l.derives h) (Link.derives_chain ls hs)

theorem Link.derives : ∀ (l : Link) {ts : List Token}, l.DerivationOf ts →
    (Form.either (.rule .entry) (.either (.rule .item) (.rule .call))).Derives
      (ts.map Token.kind)
  | .entry _ _, _, .entry hp hn => by
    rw [List.map_cons, List.map_singleton, hp, hn]
    exact .left (.rule (.seq (.token _) (.token _)))
  | .item _ index _, _, .item ho h hc => .right (.left (.rule (.bracketed ho (index.derives h) hc)))
  | .call _ arguments _, _, .call ho h hc =>
    .right (.right (.rule (.bracketed ho (Term.derives_list arguments h) hc)))

end

/-! ### From kinds to trees -/

/-- Some expression of at most a rank is a derivation of the tokens. -/
def Expr.Within (n : Nat) (ts : List Token) : Prop :=
  ∃ e : Expr, e.rank ≤ n ∧ e.DerivationOf ts

namespace Grammar

/-- There is a tree of the sort that a rule describes for the tokens. -/
def Rule.Builds : Rule → List Token → Prop
  | expression, ts => Expr.Within 6 ts
  | disjunction, ts => Expr.Within 6 ts
  | conjunction, ts => Expr.Within 5 ts
  | sum, ts => Expr.Within 4 ts
  | product, ts => Expr.Within 3 ts
  | membership, ts => Expr.Within 2 ts
  | matching, ts => Expr.Within 1 ts
  | negation, ts => Expr.Within 0 ts
  | value, ts => ∃ t : Term, t.DerivationOf ts
  | array, ts => ∃ t : Term, t.DerivationOf ts
  | path, ts => ∃ t : Term, t.DerivationOf ts
  | entry, ts => ∃ l : Link, l.DerivationOf ts
  | item, ts => ∃ l : Link, l.DerivationOf ts
  | call, ts => ∃ l : Link, l.DerivationOf ts

/-- There are trees for all the parts of a form. -/
def Form.Builds : Form → List Token → Prop
  | token kind, ts => ∃ t : Token, t.kind = kind ∧ ts = [t]
  | rule r, ts => r.Builds ts
  | seq f g, ts => ∃ us vs, ts = us ++ vs ∧ f.Builds us ∧ g.Builds vs
  | either f g, ts => f.Builds ts ∨ g.Builds ts
  | many f, ts => ∃ parts : List (List Token), ts = parts.flatten ∧ ∀ p ∈ parts, f.Builds p
  | optional f, ts => ts = [] ∨ f.Builds ts

theorem builds_ofRank (l : Level) (ts : List Token) :
    ((Rule.ofRank l.rank).Builds ts ↔ Expr.Within l.rank ts) ∧
      ((Rule.ofRank (l.rank + 1)).Builds ts ↔ Expr.Within (l.rank + 1) ts) := by
  cases l <;> exact ⟨Iff.rfl, Iff.rfl⟩

theorem exists_of_builds_operators {l : Level} {ts : List Token} (h : l.operators.Builds ts) :
    ∃ op : Token, ts = [op] ∧ l.accepts op.kind = true := by
  cases l
  case sum | product =>
    rcases h with ⟨op, hop, rfl⟩ | ⟨op, hop, rfl⟩
    · exact ⟨op, rfl, by rw [hop]; rfl⟩
    · exact ⟨op, rfl, by rw [hop]; rfl⟩
  all_goals
    obtain ⟨op, hop, rfl⟩ := h
    exact ⟨op, rfl, by rw [hop]; rfl⟩

/-- An operator and its right operand. -/
theorem exists_of_builds_tail {l : Level} {ts : List Token}
    (h : (Form.seq l.operators (.rule (.ofRank l.rank))).Builds ts) :
    ∃ (op : Token) (us : List Token), ts = op :: us ∧ l.accepts op.kind = true ∧
      Expr.Within l.rank us := by
  obtain ⟨us, vs, rfl, hus, hr⟩ := h
  obtain ⟨op, rfl, hop⟩ := exists_of_builds_operators hus
  exact ⟨op, vs, rfl, hop, (builds_ofRank l vs).1.1 hr⟩

/-- **Operators group to the left**: what follows an operand becomes part of one tree. -/
theorem within_of_parts {l : Level} (hrep : l.repeats = true) (parts : List (List Token))
    (hparts : ∀ p ∈ parts, (Form.seq l.operators (.rule (.ofRank l.rank))).Builds p)
    {ts : List Token} (h : Expr.Within (l.rank + 1) ts) :
    Expr.Within (l.rank + 1) (ts ++ parts.flatten) := by
  induction parts generalizing ts with
  | nil => simpa using h
  | cons p parts ih =>
    obtain ⟨op, us, rfl, hop, right, hr, hright⟩ := exists_of_builds_tail (hparts p (by simp))
    obtain ⟨left, hl, hleft⟩ := h
    have hlr : left.rank ≤ l.leftRank := by rwa [Level.leftRank, if_pos hrep]
    -- the tree so far is the left operand of the next operator
    rw [List.flatten_cons, ← List.append_assoc]
    exact ih (fun q hq => hparts q (by simp [hq]))
      ⟨.binary l left op right, Nat.le_refl _, .binary hop hlr hr hleft hright⟩

theorem within_of_level {l : Level} {ts : List Token}
    (h : (Rule.ofRank (l.rank + 1)).form.Builds ts) : Expr.Within (l.rank + 1) ts := by
  rw [form_ofRank] at h
  cases hrep : l.repeats with
  | true =>
    rw [if_pos hrep] at h
    obtain ⟨us, vs, rfl, hus, parts, rfl, hparts⟩ := h
    obtain ⟨e, he, hd⟩ := (builds_ofRank l us).1.1 hus
    exact within_of_parts hrep parts hparts ⟨e, Nat.le_succ_of_le he, hd⟩
  | false =>
    rw [if_neg (by simp [hrep])] at h
    obtain ⟨us, vs, rfl, hus, hvs⟩ := h
    obtain ⟨left, hl, hleft⟩ := (builds_ofRank l us).1.1 hus
    rcases hvs with rfl | hvs
    · rw [List.append_nil]
      exact ⟨left, Nat.le_succ_of_le hl, hleft⟩
    · obtain ⟨op, ws, rfl, hop, right, hr, hright⟩ := exists_of_builds_tail hvs
      have hlr : left.rank ≤ l.leftRank := by rwa [Level.leftRank, if_neg (by simp [hrep])]
      exact ⟨.binary l left op right, Nat.le_refl _, .binary hop hlr hr hleft hright⟩

theorem exists_more {ts : List Token}
    (h : (Form.many (.seq (.token .comma) (.rule .value))).Builds ts) :
    ∃ es : List Term, Term.MoreOf es ts := by
  obtain ⟨parts, rfl, hparts⟩ := h
  induction parts with
  | nil => exact ⟨[], .nil⟩
  | cons p parts ih =>
    obtain ⟨us, vs, rfl, ⟨comma, hcomma, rfl⟩, t, ht⟩ := hparts p (by simp)
    obtain ⟨es, hes⟩ := ih fun q hq => hparts q (by simp [hq])
    exact ⟨t :: es, .cons hcomma ht hes⟩

theorem exists_list {ts : List Token} (h : values.Builds ts) :
    ∃ es : List Term, Term.ListOf es ts := by
  rcases h with rfl | ⟨us, vs, rfl, ⟨t, ht⟩, hvs⟩
  · exact ⟨[], .nil⟩
  · obtain ⟨es, hes⟩ := exists_more hvs
    exact ⟨t :: es, .cons ht hes⟩

theorem exists_chain {ts : List Token}
    (h : (Form.many (.either (.rule .entry) (.either (.rule .item) (.rule .call)))).Builds ts) :
    ∃ ls : List Link, Link.ChainOf ls ts := by
  obtain ⟨parts, rfl, hparts⟩ := h
  induction parts with
  | nil => exact ⟨[], .nil⟩
  | cons p parts ih =>
    -- whichever link it is
    have hp : ∃ l : Link, l.DerivationOf p := by
      rcases hparts p (by simp) with h | h | h <;> exact h
    obtain ⟨l, hl⟩ := hp
    obtain ⟨ls, hls⟩ := ih fun q hq => hparts q (by simp [hq])
    exact ⟨l :: ls, .cons hl hls⟩

/-- What stands between two brackets. -/
theorem exists_of_builds_bracketed {f : Form} {k l : TokenKind} {ts : List Token}
    (h : (Form.seq (.token k) (.seq f (.token l))).Builds ts) :
    ∃ (opening closing : Token) (us : List Token), ts = opening :: (us ++ [closing]) ∧
      opening.kind = k ∧ f.Builds us ∧ closing.kind = l := by
  obtain ⟨_, _, rfl, ⟨opening, ho, rfl⟩, us, _, rfl, hus, closing, hc, rfl⟩ := h
  exact ⟨opening, closing, us, rfl, ho, hus, hc⟩

/-- **Every rule builds trees**: from trees for what stands on its right it makes one. -/
theorem Rule.builds_of_form : ∀ {r : Rule} {ts : List Token}, r.form.Builds ts → r.Builds ts
  | expression, _, h => h
  | disjunction, _, h => within_of_level (l := .disjunction) h
  | conjunction, _, h => within_of_level (l := .conjunction) h
  | sum, _, h => within_of_level (l := .sum) h
  | product, _, h => within_of_level (l := .product) h
  | membership, _, h => within_of_level (l := .membership) h
  | matching, _, h => within_of_level (l := .matching) h
  | negation, _, h => by
    rcases h with ⟨_, us, rfl, ⟨keyword, hk, rfl⟩, operand, hr, hd⟩ | ⟨t, ht⟩
    · exact ⟨.negation keyword operand, Nat.le_refl _, .negation hk (Nat.le_zero.1 hr) hd⟩
    · exact ⟨.term t, Nat.le_refl _, .term ht⟩
  | value, _, h => by
    rcases h with ⟨t, ht, rfl⟩ | ⟨t, ht, rfl⟩ | (⟨t, ht, rfl⟩ | ⟨t, ht, rfl⟩) | h | h | h
    · exact ⟨.string t, .string ht⟩
    · exact ⟨.number t, .number ht⟩
    · exact ⟨.boolean t, .boolean (.inl ht)⟩
    · exact ⟨.boolean t, .boolean (.inr ht)⟩
    · exact h
    · exact h
    · obtain ⟨opening, closing, us, rfl, ho, ⟨inner, _, hd⟩, hc⟩ := exists_of_builds_bracketed h
      exact ⟨.group opening inner closing, .group ho hd hc⟩
  | array, _, h => by
    obtain ⟨opening, closing, us, rfl, ho, hus, hc⟩ := exists_of_builds_bracketed h
    obtain ⟨es, hes⟩ := exists_list hus
    exact ⟨.array opening es closing, .array ho hes hc⟩
  | path, _, h => by
    obtain ⟨_, us, rfl, ⟨head, hh, rfl⟩, hus⟩ := h
    obtain ⟨ls, hls⟩ := exists_chain hus
    exact ⟨.path head ls, .path hh hls⟩
  | entry, _, h => by
    obtain ⟨_, _, rfl, ⟨period, hp, rfl⟩, name, hn, rfl⟩ := h
    exact ⟨.entry period name, .entry hp hn⟩
  | item, _, h => by
    obtain ⟨opening, closing, us, rfl, ho, ⟨index, hi⟩, hc⟩ := exists_of_builds_bracketed h
    exact ⟨.item opening index closing, .item ho hi hc⟩
  | call, _, h => by
    obtain ⟨opening, closing, us, rfl, ho, hus, hc⟩ := exists_of_builds_bracketed h
    obtain ⟨es, hes⟩ := exists_list hus
    exact ⟨.call opening es closing, .call ho hes hc⟩

theorem Form.Derives.builds {f : Form} {ks : List TokenKind} (h : f.Derives ks) :
    ∀ {ts : List Token}, ts.map Token.kind = ks → f.Builds ts := by
  induction h with
  | token kind =>
    intro ts hts
    obtain ⟨t, rfl, ht⟩ := List.map_eq_singleton_iff.1 hts
    exact ⟨t, ht, rfl⟩
  | rule _ ih => exact fun hts => Rule.builds_of_form (ih hts)
  | seq _ _ ihf ihg =>
    intro ts hts
    obtain ⟨us, vs, rfl, hus, hvs⟩ := List.map_eq_append_iff.1 hts
    exact ⟨us, vs, rfl, ihf hus, ihg hvs⟩
  | left _ ih => exact fun hts => .inl (ih hts)
  | right _ ih => exact fun hts => .inr (ih hts)
  | nil =>
    intro ts hts
    exact ⟨[], List.map_eq_nil_iff.1 hts, by simp⟩
  | cons _ _ ihf ihs =>
    intro ts hts
    obtain ⟨us, vs, rfl, hus, hvs⟩ := List.map_eq_append_iff.1 hts
    obtain ⟨parts, rfl, hparts⟩ := ihs hvs
    exact ⟨us :: parts, rfl, List.forall_mem_cons.2 ⟨ihf hus, hparts⟩⟩
  | none => exact fun hts => .inl (List.map_eq_nil_iff.1 hts)
  | some _ ih => exact fun hts => .inr (ih hts)

end Grammar

/-- **The two descriptions of the grammar agree**: the kinds of some tokens can be derived
exactly when there is a derivation tree of the tokens. -/
theorem derivable_iff_exists_derivationOf {ts : List Token} :
    Grammar.Derivable (ts.map Token.kind) ↔ ∃ e : Expr, e.DerivationOf ts := by
  constructor
  · intro h
    obtain ⟨e, -, he⟩ : Expr.Within 6 ts := Grammar.Form.Derives.builds h rfl
    exact ⟨e, he⟩
  · rintro ⟨e, he⟩
    exact .rule ((e.derives he).mono e.rank_le)

end Parley
