import Parley.Proofs.Eval.Calls
import Parley.Proofs.Eval.Names

/-!
# Terms are evaluated in the context as a whole

A term may stand in many places of an expression: as an operand, as an element of an array, as
an index or as an argument, behind any number of links and inside of any number of groups. Wherever
it stands, it has the value that it has alone. So a term without calls may be computed beforehand,
put into the context under a name that is not used otherwise, and be replaced by this name.

To say so, `Parley.Expr.Gap` is an expression with a gap in the place of one term, and
`Parley.Expr.Gap.fill` puts a term there.

* A term without calls is settled: it has the same value in every run
  (`Parley.Eval.settled_term`).
* Two terms with the same evaluation may be exchanged, also if each is evaluated in a context of
  its own, as long as the contexts agree on the rest of the expression (`Parley.Eval.expr_fill`).
* Where the expression is read from some tokens, the term in the gap is read from a part of them,
  and any other term may be read in its place (`Parley.Expr.Gap.exchangeable`).
-/

namespace Parley

open Object (Agree agree_append agree_cons)

/-! ### Expressions with a gap -/

mutual

/-- **An expression with a gap** in the place of one term. -/
inductive Expr.Gap where
  | term (gap : Term.Gap)
  | negation (keyword : Token) (operand : Expr.Gap)
  /-- The gap is in the left operand. -/
  | left (level : Level) (left : Expr.Gap) (operator : Token) (right : Expr)
  /-- The gap is in the right operand. -/
  | right (level : Level) (left : Expr) (operator : Token) (right : Expr.Gap)

/-- A term that is a gap or has one inside. -/
inductive Term.Gap where
  | here
  | array (opening : Token) (before : List Term) (element : Term.Gap) (after : List Term)
      (closing : Token)
  | group (opening : Token) (inner : Expr.Gap) (closing : Token)
  | path (head : Token) (before : List Link) (link : Link.Gap) (after : List Link)

/-- A link with a gap in its index or in one of its arguments. -/
inductive Link.Gap where
  | item (opening : Token) (index : Term.Gap) (closing : Token)
  | call (opening : Token) (before : List Term) (argument : Term.Gap) (after : List Term)
      (closing : Token)

end

mutual

/-- **The expression with a term in the gap.** -/
def Expr.Gap.fill (t : Term) : Expr.Gap → Expr
  | .term gap => .term (gap.fill t)
  | .negation keyword operand => .negation keyword (operand.fill t)
  | .left level left operator right => .binary level (left.fill t) operator right
  | .right level left operator right => .binary level left operator (right.fill t)

/-- The term with a term in the gap. -/
def Term.Gap.fill (t : Term) : Term.Gap → Term
  | .here => t
  | .array opening before element after closing =>
    .array opening (before ++ element.fill t :: after) closing
  | .group opening inner closing => .group opening (inner.fill t) closing
  | .path head before link after => .path head (before ++ link.fill t :: after)

/-- The link with a term in the gap. -/
def Link.Gap.fill (t : Term) : Link.Gap → Link
  | .item opening index closing => .item opening (index.fill t) closing
  | .call opening before argument after closing =>
    .call opening (before ++ argument.fill t :: after) closing

end

/-- How tightly an expression binds does not depend on what is in the gap. -/
theorem Expr.Gap.rank_fill (gap : Expr.Gap) (t t' : Term) :
    (gap.fill t).rank = (gap.fill t').rank := by
  cases gap <;> rfl

/-! ### Terms without calls -/

namespace Eval

variable {σ : Type} (host : Host σ) (context : Object)

mutual

theorem settled_expr : ∀ e : Expr, e.callSites = [] → Settled (expr host context e)
  | .term t, h => by
    rw [expr]
    exact settled_term t h
  | .negation _ operand, h => by
    rw [expr]
    exact (settled_expr operand h).bind fun v => settled_pure _
  | .binary _ left op right, h => by
    obtain ⟨hleft, hright⟩ := List.append_eq_nil_iff.1 h
    rw [expr]
    refine (settled_expr left hleft).bind fun a => (settled_expr right hright).bind fun b => ?_
    exact settled_orComplain _ _

/-- **A term without calls** comes to the same in every run, and does nothing besides. -/
theorem settled_term : ∀ t : Term, t.callSites = [] → Settled (term host context t)
  | .string _, _ => settled_pure _
  | .number _, _ => settled_orComplain _ _
  | .boolean _, _ => settled_pure _
  | .array _ elements _, h => by
    rw [term]
    exact (settled_terms elements h).bind fun vs => settled_pure _
  | .group _ inner _, h => by
    rw [term]
    exact settled_expr inner h
  | .path head chain, h => by
    rw [term]
    exact (settled_lookup context head).bind fun v => settled_links head chain [] h v
  | .missing _, _ => settled_throw _

theorem settled_terms : ∀ ts : List Term, Term.listCallSites ts = [] →
    Settled (terms host context ts)
  | [], _ => settled_pure _
  | t :: ts, h => by
    obtain ⟨ht, hts⟩ := List.append_eq_nil_iff.1 h
    rw [terms]
    refine (settled_term t ht).bind fun v => (settled_terms ts hts).bind fun vs => ?_
    exact settled_pure _

theorem settled_links (head : Token) : ∀ (ls before : List Link),
    Link.chainCallSites head before ls = [] → ∀ v : Value, Settled (links host context v ls)
  | [], _, _, _ => settled_pure _
  | l :: ls, before, h, v => by
    obtain ⟨hl, hls⟩ := List.append_eq_nil_iff.1 h
    rw [links]
    refine (settled_link head l before hl v).bind fun w => ?_
    exact settled_links head ls (before ++ [l]) hls w

theorem settled_link (head : Token) : ∀ (l : Link) (before : List Link),
    l.callSites head before = [] → ∀ v : Value, Settled (link host context v l)
  | .entry _ name, _, _, v => settled_entry v name
  | .item _ index _, _, h, v => by
    rw [link]
    exact (settled_term index h).bind fun i => settled_item _ _ _
  | .call _ _ _, _, h, _ =>
    -- a call is a call site
    absurd (List.append_eq_nil_iff.1 h).2 (List.cons_ne_nil _ _)

end

/-! ### Exchanging the term in a gap -/

variable {host context} {context' : Object} {t t' : Term}

/-- One term of several is exchanged. -/
theorem terms_exchange {before after : List Term} {u u' : Term}
    (hu : Agree context context' (Place.heads u.places) →
      term host context u = term host context' u')
    (hagree : Agree context context' (Place.heads (Term.listPlaces (before ++ u :: after)))) :
    terms host context (before ++ u :: after) = terms host context' (before ++ u' :: after) := by
  rw [Term.listPlaces_append, Term.listPlaces, Place.heads_append, Place.heads_append,
    agree_append, agree_append] at hagree
  obtain ⟨hbefore, hthis, hafter⟩ := hagree
  rw [terms_append, terms_append, terms, terms, hu hthis, terms_congr host before hbefore,
    terms_congr host after hafter]

/-- One link of a chain is exchanged. -/
theorem links_exchange {before after : List Link} {l l' : Link}
    (hl : Agree context context' (Place.heads l.places) →
      ∀ v : Value, link host context v l = link host context' v l')
    (hagree : Agree context context' (Place.heads (Link.chainPlaces (before ++ l :: after))))
    (v : Value) :
    links host context v (before ++ l :: after) =
      links host context' v (before ++ l' :: after) := by
  rw [Link.chainPlaces_append, Link.chainPlaces, Place.heads_append, Place.heads_append,
    agree_append, agree_append] at hagree
  obtain ⟨hbefore, hthis, hafter⟩ := hagree
  rw [links_append, links_append, links_congr host before hbefore]
  refine bind_congr fun w => ?_
  rw [links, links, hl hthis]
  exact bind_congr fun u => links_congr host after hafter u

mutual

/-- **Terms with the same evaluation may be exchanged.** What stands around the gap is evaluated
in contexts that agree on it. -/
theorem expr_fill (h : term host context t = term host context' t') : ∀ gap : Expr.Gap,
    Agree context context' (Place.heads (gap.fill t).places) →
      expr host context (gap.fill t) = expr host context' (gap.fill t')
  | .term gap, hagree => by
    rw [Expr.Gap.fill, Expr.Gap.fill, expr, expr]
    exact term_fill h gap hagree
  | .negation _ operand, hagree => by
    rw [Expr.Gap.fill, Expr.Gap.fill, expr, expr, expr_fill h operand hagree]
  | .left _ left _ right, hagree => by
    rw [Expr.Gap.fill, Expr.places, Place.heads_append] at hagree
    obtain ⟨hleft, hright⟩ := agree_append.1 hagree
    rw [Expr.Gap.fill, Expr.Gap.fill, expr, expr, expr_fill h left hleft,
      expr_congr host right hright]
  | .right _ left _ right, hagree => by
    rw [Expr.Gap.fill, Expr.places, Place.heads_append] at hagree
    obtain ⟨hleft, hright⟩ := agree_append.1 hagree
    rw [Expr.Gap.fill, Expr.Gap.fill, expr, expr, expr_fill h right hright,
      expr_congr host left hleft]

theorem term_fill (h : term host context t = term host context' t') : ∀ gap : Term.Gap,
    Agree context context' (Place.heads (gap.fill t).places) →
      term host context (gap.fill t) = term host context' (gap.fill t')
  | .here, _ => h
  | .array _ _ element _ _, hagree => by
    rw [Term.Gap.fill, Term.Gap.fill, term, term, terms_exchange (term_fill h element) hagree]
  | .group _ inner _, hagree => by
    rw [Term.Gap.fill, Term.Gap.fill, term, term]
    exact expr_fill h inner hagree
  | .path _ _ link _, hagree => by
    obtain ⟨hhead, hchain⟩ := agree_cons.1 hagree
    rw [Term.Gap.fill, Term.Gap.fill, term, term, lookup_congr hhead]
    exact bind_congr fun v => links_exchange (link_fill h link) hchain v

theorem link_fill (h : term host context t = term host context' t') : ∀ gap : Link.Gap,
    Agree context context' (Place.heads (gap.fill t).places) →
      ∀ v : Value, link host context v (gap.fill t) = link host context' v (gap.fill t')
  | .item _ index _, hagree, v => by
    rw [Link.Gap.fill, Link.Gap.fill, link, link, term_fill h index hagree]
  | .call _ _ argument _ _, hagree, v => by
    rw [Link.Gap.fill, Link.Gap.fill, link, link, terms_exchange (term_fill h argument) hagree]

end

end Eval

/-! ### Reading a term in a gap -/

/-- **The term in a gap is exchangeable** in some tokens: it is read from a part of them, and any
other term may be read in the place of this part. What is read from tokens when some term is in the
gap is up to the relation `derives`. -/
def Exchangeable (t : Term) (derives : Term → List Token → Prop) (ts : List Token) : Prop :=
  ∃ front us back, ts = front ++ (us ++ back) ∧ t.DerivationOf us ∧
    ∀ t' us', t'.DerivationOf us' → derives t' (front ++ (us' ++ back))

namespace Exchangeable

variable {t : Term} {derives derives' : Term → List Token → Prop} {ts : List Token}

/-- Behind some tokens. -/
theorem behind (h : Exchangeable t derives ts) (before : List Token)
    (hd : ∀ t' ts', derives t' ts' → derives' t' (before ++ ts')) :
    Exchangeable t derives' (before ++ ts) := by
  obtain ⟨front, us, back, rfl, ht, hother⟩ := h
  refine ⟨before ++ front, us, back, (List.append_assoc _ _ _).symm, ht, fun t' us' ht' => ?_⟩
  rw [List.append_assoc]
  exact hd t' _ (hother t' us' ht')

/-- In front of some tokens. -/
theorem ahead (h : Exchangeable t derives ts) (after : List Token)
    (hd : ∀ t' ts', derives t' ts' → derives' t' (ts' ++ after)) :
    Exchangeable t derives' (ts ++ after) := by
  obtain ⟨front, us, back, rfl, ht, hother⟩ := h
  refine ⟨front, us, back ++ after, by simp only [List.append_assoc], ht, fun t' us' ht' => ?_⟩
  have hd' := hd t' _ (hother t' us' ht')
  simp only [List.append_assoc] at hd'
  exact hd'

/-- Between some tokens and others. -/
theorem within (h : Exchangeable t derives ts) (before after : List Token)
    (hd : ∀ t' ts', derives t' ts' → derives' t' (before ++ (ts' ++ after))) :
    Exchangeable t derives' (before ++ (ts ++ after)) :=
  have hahead : Exchangeable t (fun t' us => derives' t' (before ++ us)) (ts ++ after) :=
    h.ahead after hd
  hahead.behind before fun _ _ h' => h'

section Lists

variable {f : Term → Term} {g : Term → Link}

/-- In one of the further terms of a list. -/
theorem more (hf : ∀ {us}, (f t).DerivationOf us →
      Exchangeable t (fun t' => (f t').DerivationOf) us) {after : List Term} :
    ∀ (before : List Term) {ts : List Token}, Term.MoreOf (before ++ f t :: after) ts →
      Exchangeable t (fun t' => Term.MoreOf (before ++ f t' :: after)) ts
  | [], comma :: _, .cons hk h hm => by
    refine (hf h).within [comma] _ fun t' us' h' => ?_
    have hmore := Term.MoreOf.cons hk h' hm
    exact hmore
  | _ :: before, comma :: _, .cons hk h hm =>
    (more hf before hm).behind (comma :: _) fun _ _ hm' => .cons hk h hm'

/-- In one of the terms of a list. -/
theorem list (hf : ∀ {us}, (f t).DerivationOf us →
      Exchangeable t (fun t' => (f t').DerivationOf) us) {after : List Term} :
    ∀ (before : List Term) {ts : List Token}, Term.ListOf (before ++ f t :: after) ts →
      Exchangeable t (fun t' => Term.ListOf (before ++ f t' :: after)) ts
  | [], _, .cons h hm => (hf h).ahead _ fun _ _ h' => .cons h' hm
  | _ :: before, _, .cons h hm => (more hf before hm).behind _ fun _ _ hm' => .cons h hm'

/-- In one of the links of a chain. -/
theorem chain (hg : ∀ {us}, (g t).DerivationOf us →
      Exchangeable t (fun t' => (g t').DerivationOf) us) {after : List Link} :
    ∀ (before : List Link) {ts : List Token}, Link.ChainOf (before ++ g t :: after) ts →
      Exchangeable t (fun t' => Link.ChainOf (before ++ g t' :: after)) ts
  | [], _, .cons h hs => (hg h).ahead _ fun _ _ h' => .cons h' hs
  | _ :: before, _, .cons h hs => (chain hg before hs).behind _ fun _ _ hs' => .cons h hs'

end Lists

end Exchangeable

mutual

/-- **What is in a gap is read from a part of the tokens**, in the place of which any other term
may be read. -/
theorem Expr.Gap.exchangeable {t : Term} : ∀ (gap : Expr.Gap) {ts : List Token},
    (gap.fill t).DerivationOf ts → Exchangeable t (fun t' => (gap.fill t').DerivationOf) ts
  | .term gap, _, .term h => (gap.exchangeable h).behind [] fun _ _ h' => .term h'
  | .negation keyword operand, _, .negation hk hr h =>
    (operand.exchangeable h).behind [keyword] fun t' _ h' =>
      .negation hk ((operand.rank_fill t' t).trans hr) h'
  | .left l left op right, _, .binary hop hl hr h h' =>
    (left.exchangeable h).ahead (op :: _) fun t' _ h'' =>
      .binary hop (left.rank_fill t t' ▸ hl) hr h'' h'
  | .right l left op right, _, .binary hop hl hr h h' => by
    refine Exchangeable.behind ((right.exchangeable h').behind [op] fun t' us h'' => ?_) _
      fun t' us h'' => h''
    exact .binary hop hl (right.rank_fill t t' ▸ hr) h h''

theorem Term.Gap.exchangeable {t : Term} : ∀ (gap : Term.Gap) {ts : List Token},
    (gap.fill t).DerivationOf ts → Exchangeable t (fun t' => (gap.fill t').DerivationOf) ts
  | .here, ts, h => by
    refine ⟨[], ts, [], (List.append_nil ts).symm, h, fun t' us' h' => ?_⟩
    rwa [List.append_nil]
  | .array opening before element after closing, _, .array ho h hc =>
    (Exchangeable.list element.exchangeable before h).within [opening] [closing]
      fun _ _ h' => .array ho h' hc
  | .group opening inner closing, _, .group ho h hc =>
    (inner.exchangeable h).within [opening] [closing] fun _ _ h' => .group ho h' hc
  | .path head before link after, _, .path hk h =>
    (Exchangeable.chain link.exchangeable before h).behind [head] fun _ _ h' => .path hk h'

theorem Link.Gap.exchangeable {t : Term} : ∀ (gap : Link.Gap) {ts : List Token},
    (gap.fill t).DerivationOf ts → Exchangeable t (fun t' => (gap.fill t').DerivationOf) ts
  | .item opening index closing, _, .item ho h hc =>
    (index.exchangeable h).within [opening] [closing] fun _ _ h' => .item ho h' hc
  | .call opening before argument after closing, _, .call ho h hc =>
    (Exchangeable.list argument.exchangeable before h).within [opening] [closing]
      fun _ _ h' => .call ho h' hc

end

/-! ### Names for terms -/

theorem Eval.term_name {σ : Type} (host : Host σ) (context : Object) (x : Token) (v : Value) :
    Eval.term host (Object.insert x.lexeme v context) (.path x []) = pure v := by
  rw [Eval.term, Eval.lookup, Object.get?_insert, if_pos rfl]
  rfl

/-- **Terms are evaluated in the context as a whole.** Let some term in an expression, in whatever
position and at whatever depth, make no calls and have a value `v` when it is evaluated alone. If
the term is replaced by a name `x` that the expression does not mention, the evaluation in the
context where `x` has the value `v` is the same as that of the whole expression in the old
context: in every run the same outcome after the same calls.

If the expression is parsed from a source, the tokens of the term are a part of those of the
source, and with `x` in the place of this part the tokens are read as the new expression. -/
theorem terms_are_evaluated_in_the_whole_context {gap : Expr.Gap} {t : Term}
    (hcalls : t.callSites = []) {x : Token} (hkind : x.kind = .identifier)
    (hx : x.lexeme ∉ (gap.fill t).heads) {σ : Type} {host : Host σ} {context : Object} {v : Value}
    {start stop : Run σ} (hv : (Expr.term t).evaluate host context start = (.ok v, stop)) :
    (gap.fill (.path x [])).evaluate host (Object.insert x.lexeme v context) =
        (gap.fill t).evaluate host context ∧
      ∀ source, parse source = .ok (gap.fill t) →
        ∃ front us back, (tokenize source).tokens = front ++ (us ++ back) ∧ t.DerivationOf us ∧
          Reading.ofTokens (front ++ x :: back) = ⟨gap.fill (.path x []), []⟩ := by
  constructor
  · have hrun : Eval.term host context t start = .ok v stop := by
      rw [Expr.evaluate_eq_ok, Eval.expr] at hv
      exact hv
    have hterm : Eval.term host context t = pure v :=
      (Eval.settled_term host context t hcalls).eq_pure hrun
    have hsame : Eval.term host context t =
        Eval.term host (Object.insert x.lexeme v context) (.path x []) :=
      hterm.trans (Eval.term_name host context x v).symm
    unfold Expr.evaluate
    rw [Eval.expr_fill hsame gap (Object.agree_insert hx v context)]
  · intro source hparse
    obtain ⟨-, hd⟩ := parse_eq_ok_iff.1 hparse
    obtain ⟨front, us, back, hts, ht, hother⟩ := gap.exchangeable hd
    have hname : (Term.path x []).DerivationOf [x] := .path hkind .nil
    exact ⟨front, us, back, hts, ht, Reading.ofTokens_of_derivationOf (hother _ _ hname)⟩

/-- In `a[b.i]` the index may be computed beforehand, although the path it belongs to has come to
an array by then. -/
theorem terms_are_evaluated_in_the_whole_context_index :
    Expr.evaluate ⟨fun _ _ s => (.ok .null, s)⟩
        (Object.insert "x" (.integer 1)
          [("a", .array [.null, .boolean true]), ("b", .object [("i", .integer 1)])])
        (.term (.path ⟨.identifier, "a", 1⟩
          [.item ⟨.leftBracket, "[", 2⟩ (.path ⟨.identifier, "x", 3⟩ [])
            ⟨.rightBracket, "]", 6⟩])) =
      Expr.evaluate (⟨fun _ _ s => (.ok .null, s)⟩ : Host Unit)
        [("a", .array [.null, .boolean true]), ("b", .object [("i", .integer 1)])]
        (.term (.path ⟨.identifier, "a", 1⟩
          [.item ⟨.leftBracket, "[", 2⟩
            (.path ⟨.identifier, "b", 3⟩ [.entry ⟨.period, ".", 4⟩ ⟨.identifier, "i", 5⟩])
            ⟨.rightBracket, "]", 6⟩])) := by
  have hv : Expr.evaluate (⟨fun _ _ s => (.ok .null, s)⟩ : Host Unit)
      [("a", .array [.null, .boolean true]), ("b", .object [("i", .integer 1)])]
      (.term (.path ⟨.identifier, "b", 3⟩
        [.entry ⟨.period, ".", 4⟩ ⟨.identifier, "i", 5⟩])) ⟨(), []⟩ =
      (.ok (.integer 1), ⟨(), []⟩) := by
    rfl
  have hx : "x" ∉ (Expr.Gap.fill
      (.path ⟨.identifier, "b", 3⟩ [.entry ⟨.period, ".", 4⟩ ⟨.identifier, "i", 5⟩])
      (.term (.path ⟨.identifier, "a", 1⟩ []
        (.item ⟨.leftBracket, "[", 2⟩ .here ⟨.rightBracket, "]", 6⟩) []))).heads := by
    decide
  have hname : (⟨.identifier, "x", 3⟩ : Token).kind = .identifier := rfl
  exact (terms_are_evaluated_in_the_whole_context rfl hname hx hv).1

end Parley
