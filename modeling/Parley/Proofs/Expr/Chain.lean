import Parley.Proofs.Eval.Literal
import Parley.Proofs.Expr.Grouped
import Parley.Proofs.Token.Joined

/-!
# Sources put together, and chains of operands

A source can stand inside of another one: between parentheses, or as an operand beside an operator.
Its tokens are found there as well, further to the right (`Parley.Lexer.readsAs_source`), and only
the columns are different in what is read from them. `Parley.Expr.ReadsFrom` says that some
characters are read as an expression in this way, wherever they stand. It is kept by the ways to put
sources together, and the source that comes out in the end is parsed to an expression that means
what the trees of its parts say (`Parley.Expr.ReadsFrom.parse_eq`).

Operators of one level may be repeated, and then group to the left. `Parley.Expr.chain` is the tree
of such a row of operands. It is evaluated by a loop that goes on with the value reached so far
(`Parley.Eval.expr_chain`), which is where statements about rows of any length begin.
-/

namespace Parley

/-! ### Sources inside of others -/

/-- A source that is read without errors consists of tokens. -/
theorem itemsOf_eq_map_token {source : String} (h : (tokenize source).errors = []) :
    itemsOf source = (tokenize source).tokens.map .token := by
  have hmap : ∀ items : List Item, items.filterMap Item.error? = [] →
      items = (items.filterMap Item.token?).map .token := by
    intro items hitems
    induction items with
    | nil => rfl
    | cons item items ih =>
      cases item with
      | token t => exact congrArg (Item.token t :: ·) (ih hitems)
      | error e => cases hitems
  exact hmap _ h

/-- A source that is read without errors can stand between the braces of a template; in particular
there is an even number of quotes in it. -/
theorem Template.isSource_of_errors_eq_nil {source : String} (h : (tokenize source).errors = []) :
    IsSource source.toList := by
  refine (Template.isSource_iff (tiling_itemsOf source)).2 fun e he => ?_
  rw [← mem_errors_iff, h] at he
  cases he

/-- The text of a keyword is read as this keyword. -/
theorem Token.spelled_keyword {kind : TokenKind} {s : String} (h : kind.keyword? = some s)
    (column : Nat) : Spelled ⟨kind, s, column⟩ := by
  have hletters : s.toList.all Lexer.startsWord = true := by
    cases kind <;> cases h <;> decide +kernel
  have hkind : Lexer.wordKind s.toList = kind := by
    cases kind <;> cases h <;> decide +kernel
  have hne : s.toList ≠ [] := by
    cases kind <;> cases h <;> decide +kernel
  obtain ⟨c, more, hs⟩ := List.exists_cons_of_ne_nil hne
  obtain rfl : String.ofList (c :: more) = s := by rw [← hs, String.ofList_toList]
  rw [hs] at hletters hkind
  obtain ⟨hc, hmore⟩ := List.forall_mem_cons.1 (List.all_eq_true.1 hletters)
  rw [Spelled, String.toList_ofList]
  exact .word hc (fun d hd => Lexer.continuesWord_iff.2 (.inl (hmore d hd))) (by simp)
    (TokenKind.wordKind_eq_iff.1 hkind)

namespace Lexer

/-- **A source inside of another one** has the same tokens, further to the right. -/
theorem readsAs_source {source : String} (h : (tokenize source).errors = []) (n : Nat) :
    ReadsAs (1 + n) source.toList ((tokenize source).tokens.map (Token.moved n)) := by
  intro rest items hrest htiling
  have hmoved := (tiling_itemsOf source).moved n
  rw [itemsOf_eq_map_token h, List.map_map] at hmoved
  rw [List.map_map]
  exact hmoved.append (Template.isSource_of_errors_eq_nil h).1 hrest htiling

/-- A token is read from its text. -/
theorem readsAs_spelled {t : Token} (h : t.Spelled) (column : Nat) :
    ReadsAs column t.lexeme.toList [⟨t.kind, t.lexeme, column⟩] :=
  readsAs_token (t := ⟨t.kind, t.lexeme, column⟩) fun _ hrest =>
    h.of_next column fun c hc => .inl (hrest c hc)

end Lexer

/-- The characters of texts with another one between any two. -/
theorem toList_intercalate_cons (between s : String) (sources : List String) :
    (between.intercalate (s :: sources)).toList =
      s.toList ++ sources.flatMap fun t => between.toList ++ t.toList := by
  induction sources generalizing s with
  | nil => simp
  | cons t sources ih =>
    have hcons : (between.intercalate (s :: t :: sources)).toList =
        s.toList ++ (between.toList ++ (between.intercalate (t :: sources)).toList) := by
      simp [String.toList_intercalate]
    rw [hcons, ih, List.flatMap_cons, List.append_assoc]

namespace Expr

/-! ### Reading up to the layout -/

/-- **The characters are read as the expression** up to its layout, wherever they stand. -/
def ReadsFrom (e : Expr) (cs : List Char) : Prop :=
  ∃ us, e.DerivationOf us ∧ ∀ column, 0 < column →
    ∃ ts, Lexer.ReadsAs column cs ts ∧ ts.map Token.bare = us.map Token.bare

/-- Tokens that differ in their layout only have a derivation as well, which is the same tree up to
the layout. -/
theorem exists_derivationOf_of_map_bare {e : Expr} {ts us : List Token} (h : e.DerivationOf us)
    (hbare : ts.map Token.bare = us.map Token.bare) :
    ∃ e' : Expr, e'.DerivationOf ts ∧ e'.bare = e.bare := by
  have hderivable : Grammar.Derivable (ts.map Token.kind) := by
    rw [Token.map_kind_of_map_bare hbare]
    exact derivable_iff_exists_derivationOf.2 ⟨e, h⟩
  obtain ⟨e', he'⟩ := derivable_iff_exists_derivationOf.1 hderivable
  exact ⟨e', he', bare_eq_of_derivationOf he' h hbare⟩

namespace ReadsFrom

variable {e e' : Expr} {cs ds : List Char}

/-- A source is read as its tree. -/
theorem of_parse {source : String} (h : parse source = .ok e) : e.ReadsFrom source.toList := by
  obtain ⟨hlex, hd⟩ := parse_eq_ok_iff.1 h
  refine ⟨_, hd, fun column hcolumn => ?_⟩
  obtain ⟨n, rfl⟩ := Nat.exists_eq_add_of_le hcolumn
  refine ⟨_, Lexer.readsAs_source hlex n, ?_⟩
  have hmoved : Token.bare ∘ Token.moved n = Token.bare := rfl
  rw [List.map_map, hmoved]

/-- **What is read as an expression is parsed** to an expression of the same meaning. -/
theorem parse_eq {source : String} (h : e.ReadsFrom source.toList) :
    ∃ e', parse source = .ok e' ∧ e.SameMeaning e' := by
  obtain ⟨us, hd, hreads⟩ := h
  obtain ⟨ts, hts, hbare⟩ := hreads 1 Nat.one_pos
  obtain ⟨e', hd', hbare'⟩ := exists_derivationOf_of_map_bare hd hbare
  refine ⟨e', ?_, .of_bare hd hd' hbare'.symm⟩
  rw [parse_eq_ok_iff, hts.tokenize_eq]
  exact ⟨rfl, hd'⟩

/-- **Operands** with an operator between them, and blanks around this. -/
theorem binary {l : Level} {op : Token} (h : e.ReadsFrom cs) (h' : e'.ReadsFrom ds)
    (hspelled : op.Spelled) (hop : l.accepts op.kind = true) (hrank : e.rank ≤ l.leftRank)
    (hrank' : e'.rank ≤ l.rank) :
    (Expr.binary l e op e').ReadsFrom (cs ++ ' ' :: (op.lexeme.toList ++ ' ' :: ds)) := by
  obtain ⟨us, hd, hreads⟩ := h
  obtain ⟨us', hd', hreads'⟩ := h'
  refine ⟨_, .binary hop hrank hrank' hd hd', fun column hcolumn => ?_⟩
  have hblank : ∀ c ∈ [' '], isBlank c = true := List.forall_mem_singleton.2 (by decide)
  have hends : ∀ rest, Lexer.Ends (' ' :: rest) := Lexer.ends_cons (by decide)
  obtain ⟨ts, hts, hbare⟩ := hreads column hcolumn
  obtain ⟨ts', hts', hbare'⟩ :=
    hreads' (column + cs.length + 1 + op.lexeme.toList.length + 1) (Nat.succ_pos _)
  have hoperator := (Lexer.readsAs_spelled hspelled (column + cs.length + 1)).append
    (hts'.blanks hblank) (hends ds)
  refine ⟨_, hts.append (hoperator.blanks hblank) (hends _), ?_⟩
  rw [List.map_append, List.map_append, List.map_append, hbare, hbare']
  rfl

/-- An expression between parentheses. -/
theorem enclosed (h : e.ReadsFrom cs) : e.enclosed.ReadsFrom ('(' :: (cs ++ [')'])) := by
  obtain ⟨us, hd, hreads⟩ := h
  refine ⟨_, .term (.group rfl hd rfl), fun column _ => ?_⟩
  obtain ⟨ts, hts, hbare⟩ := hreads (column + 1) (Nat.succ_pos _)
  have hclosing : Lexer.ReadsAs (column + 1 + cs.length) [')'] _ :=
    (Lexer.readsAs_nil _).punctuation rfl
  refine ⟨_, (hts.append hclosing (Lexer.ends_cons (by decide) [])).punctuation rfl, ?_⟩
  rw [Token.map_bare_bracketed, Token.map_bare_bracketed, hbare]
  rfl

/-- A negation, with a blank behind the keyword. -/
theorem negation (h : e.ReadsFrom cs) (hrank : e.rank = 0) :
    (Expr.negation ⟨.keywordNot, "not", 0⟩ e).ReadsFrom ("not".toList ++ ' ' :: cs) := by
  obtain ⟨us, hd, hreads⟩ := h
  refine ⟨_, .negation rfl hrank hd, fun column hcolumn => ?_⟩
  have hblank : ∀ c ∈ [' '], isBlank c = true := List.forall_mem_singleton.2 (by decide)
  have hkeyword : Token.Spelled ⟨.keywordNot, "not", 0⟩ := Token.spelled_keyword rfl 0
  obtain ⟨ts, hts, hbare⟩ := hreads (column + "not".toList.length + 1) (Nat.succ_pos _)
  refine ⟨_, (Lexer.readsAs_spelled hkeyword column).append (hts.blanks hblank)
    (Lexer.ends_cons (by decide) cs), ?_⟩
  rw [List.map_append, hbare]
  rfl

end ReadsFrom

/-! ### Chains -/

/-- **A chain**: operands with operators of one level between them, which group to the left. -/
def chain (l : Level) (first : Expr) (rest : List (Token × Expr)) : Expr :=
  rest.foldl (fun left p => .binary l left p.1 p.2) first

theorem chain_cons (l : Level) (first : Expr) (p : Token × Expr) (rest : List (Token × Expr)) :
    chain l first (p :: rest) = chain l (.binary l first p.1 p.2) rest := rfl

/-- **A source of operands**, with an operator between any two. -/
theorem ReadsFrom.chain {l : Level} {op : Token} {cs : List Char} {first : Expr}
    {sources : List String} {es : List Expr} (hspelled : op.Spelled)
    (hop : l.accepts op.kind = true) (hrepeats : l.repeats = true) (h : first.ReadsFrom cs)
    (hrank : first.rank ≤ l.leftRank)
    (hes : List.Forall₂ (fun s e => e.ReadsFrom s.toList ∧ e.rank ≤ l.rank) sources es) :
    (Expr.chain l first (es.map fun e => (op, e))).ReadsFrom
      (cs ++ sources.flatMap fun s => ' ' :: (op.lexeme.toList ++ ' ' :: s.toList)) := by
  induction hes generalizing cs first with
  | nil => simpa [Expr.chain] using h
  | @cons s e sources es he _ ih =>
    have hleft : (Expr.binary l first op e).rank ≤ l.leftRank := by
      rw [Level.leftRank, if_pos hrepeats]
      exact Nat.le_refl _
    rw [List.map_cons, chain_cons, List.flatMap_cons, ← List.append_assoc]
    exact ih (h.binary he.1 hspelled hop hrank he.2) hleft

/-- **Sources with an operator between any two** are read as the chain of their trees. -/
theorem ReadsFrom.intercalate {l : Level} {op : Token} {between : String} {first : Expr}
    {s : String} {sources : List String} {es : List Expr} (hspelled : op.Spelled)
    (hop : l.accepts op.kind = true) (hrepeats : l.repeats = true)
    (hbetween : between = " " ++ op.lexeme ++ " ")
    (hes : List.Forall₂ (fun s e => e.ReadsFrom s.toList ∧ e.rank ≤ l.rank) (s :: sources)
      (first :: es)) :
    (Expr.chain l first (es.map fun e => (op, e))).ReadsFrom
      (between.intercalate (s :: sources)).toList := by
  obtain ⟨⟨hfirst, hrank⟩, hes⟩ := List.forall₂_cons.1 hes
  have hchain := hfirst.chain hspelled hop hrepeats (hrank.trans l.rank_le_leftRank) hes
  rw [toList_intercalate_cons, hbetween]
  simpa using hchain

end Expr

namespace Eval

variable {σ : Type} (host : Host σ) (context : Object)

/-- One step along a chain: the next operand is evaluated, and the operator in front of it applied
to the value reached so far. -/
def advance (l : Level) (v : Value) (p : Token × Expr) : Eval σ Value := do
  let w ← expr host context p.2
  orComplain p.1.column (operate l p.1 v w)

/-- **A chain is evaluated** by going on, from the value of the first operand, with each of the
others. -/
theorem expr_chain (l : Level) (first : Expr) (rest : List (Token × Expr)) :
    expr host context (.chain l first rest) =
      expr host context first >>= fun v => rest.foldlM (advance host context l) v := by
  induction rest generalizing first with
  | nil => simp [Expr.chain]
  | cons p rest ih =>
    rw [Expr.chain_cons, ih, expr, bind_assoc]
    refine bind_congr fun v => ?_
    rw [List.foldlM_cons, advance]

end Eval

end Parley
