import Parley.Proofs.Eval.Basic
import Parley.Proofs.Expr.Bare

/-!
# The layout has no meaning

Errors and calls carry the column they are about, and nothing else of an evaluation depends on
the layout of its expression. To say so, `Parley.EvalError.bare` and `Parley.Run.bare` leave the
columns out, and two computations agree (`Parley.Eval.Agrees`) if they come to the same in runs
that are the same up to columns.

Agreement is kept by sequences (`Parley.Eval.Agrees.bind`), so that one induction over the tree
shows that an expression agrees with itself without its layout (`Parley.Eval.expr_bare`). The
induction needs a derivation, because the operator of a sum is quoted in the complaint that it
is none of arithmetic; in a derivation it is one.

Two sources with the same tokens up to the layout are therefore parsed both or not at all, to trees
of the same meaning (`Parley.layout_and_keyword_case_have_no_meaning`).
-/

namespace Parley

/-! ### Up to columns -/

/-- An error without its column. -/
def EvalError.bare : EvalError → EvalError
  | unknownKey key _ => unknownKey key 0
  | outOfBounds index length _ => outOfBounds index length 0
  | illegalState complaint _ => illegalState complaint 0
  | failed message _ => failed message 0

/-- A call without its column. -/
def Call.bare (call : Call) : Call :=
  ⟨0, call.callee, call.arguments⟩

/-- A run without the columns of its calls. -/
def Run.bare {σ : Type} (run : Run σ) : Run σ :=
  ⟨run.state, run.calls.map Call.bare⟩

/-- Where a call fails does not matter to how it fails. -/
theorem CallError.bare_at (e : CallError) (column column' : Nat) :
    (e.at column).bare = (e.at column').bare := by
  cases e <;> rfl

/-- Runs that are the same up to columns still are when the same call has been made in both. -/
theorem Run.bare_after {σ : Type} (host : Host σ) {run run' : Run σ} {call call' : Call}
    (h : run.bare = run'.bare) (hcall : call.bare = call'.bare) :
    (run.after host call).bare = (run'.after host call').bare := by
  obtain ⟨hstate, hcalls⟩ := Run.mk.inj h
  obtain ⟨-, hcallee, harguments⟩ := Call.mk.inj hcall
  simp only [Run.bare, Run.after, List.map_append, List.map_cons, List.map_nil, hstate, hcalls,
    hcall, hcallee, harguments]

/-- **Two expressions have the same meaning**: in every context, and whoever answers the calls,
they have the same value or the same error up to its column, and make the same calls up to their
columns. -/
def Expr.SameMeaning (e e' : Expr) : Prop :=
  ∀ (σ : Type) (host : Host σ) (context : Object) (run : Run σ),
    (e.evaluate host context run).1.mapError EvalError.bare =
        (e'.evaluate host context run).1.mapError EvalError.bare ∧
      (e.evaluate host context run).2.bare = (e'.evaluate host context run).2.bare

namespace Eval

variable {σ α β : Type}

/-- What a computation has come to, up to columns. -/
def bareResult : EStateM.Result EvalError (Run σ) α → EStateM.Result EvalError (Run σ) α
  | .ok a run => .ok a run.bare
  | .error e run => .error e.bare run.bare

/-- **Two computations agree** if they come to the same, up to columns, in runs that are the same
up to columns. -/
def Agrees (x y : Eval σ α) : Prop :=
  ∀ run run' : Run σ, run.bare = run'.bare → bareResult (x run) = bareResult (y run')

theorem agrees_pure (a : α) : Agrees (pure a : Eval σ α) (pure a) := by
  intro run run' hrun
  exact congrArg (EStateM.Result.ok a) hrun

theorem agrees_throw {e e' : EvalError} (h : e.bare = e'.bare) :
    Agrees (throw e : Eval σ α) (throw e') := by
  intro run run' hrun
  change EStateM.Result.error e.bare run.bare = .error e'.bare run'.bare
  rw [h, hrun]

namespace Agrees

variable {x y z : Eval σ α} {f g : α → Eval σ β}

theorem symm (h : Agrees x y) : Agrees y x :=
  fun run run' hrun => (h run' run hrun.symm).symm

theorem trans (h : Agrees x y) (h' : Agrees y z) : Agrees x z :=
  fun run run' hrun => (h run run rfl).trans (h' run run' hrun)

/-- **Sequences** agree if their parts do. -/
theorem bind (h : Agrees x y) (hf : ∀ a, Agrees (f a) (g a)) : Agrees (x >>= f) (y >>= g) := by
  intro run run' hrun
  have hxy := h run run' hrun
  cases hx : x run with
  | ok a r =>
    cases hy : y run' with
    | ok b r' =>
      rw [hx, hy] at hxy
      obtain ⟨rfl, hr⟩ := EStateM.Result.ok.inj hxy
      rw [bind_of_ok hx, bind_of_ok hy]
      exact hf a r r' hr
    | error e r' =>
      rw [hx, hy] at hxy
      cases hxy
  | error e r =>
    cases hy : y run' with
    | ok b r' =>
      rw [hx, hy] at hxy
      cases hxy
    | error e' r' =>
      rw [hx, hy] at hxy
      obtain ⟨he, hr⟩ := EStateM.Result.error.inj hxy
      rw [bind_of_error hx, bind_of_error hy, bareResult, bareResult, he, hr]

end Agrees

/-! ### The parts of an evaluation -/

theorem agrees_orComplain (column column' : Nat) (v : Except EvalError.Complaint α) :
    Agrees (orComplain column v : Eval σ α) (orComplain column' v) := by
  cases v with
  | ok a => exact agrees_pure a
  | error c => exact agrees_throw rfl

theorem agrees_lookup (entries : Object) {name name' : Token} (h : name.lexeme = name'.lexeme) :
    Agrees (lookup entries name : Eval σ Value) (lookup entries name') := by
  unfold lookup
  rw [h]
  split
  · exact agrees_pure _
  · exact agrees_throw rfl

theorem agrees_entry (v : Value) {name name' : Token} (h : name.lexeme = name'.lexeme) :
    Agrees (entry v name : Eval σ Value) (entry v name') := by
  unfold entry
  split
  · exact agrees_lookup _ h
  · rw [h]
    exact agrees_throw rfl

theorem agrees_item (column column' : Nat) (v index : Value) :
    Agrees (item column v index : Eval σ Value) (item column' v index) := by
  unfold item
  split
  · split
    · exact agrees_throw rfl
    · split
      · exact agrees_pure _
      · exact agrees_throw rfl
  · exact agrees_throw rfl

theorem agrees_callee (column column' : Nat) (v : Value) :
    Agrees (callee column v : Eval σ Callable) (callee column' v) := by
  unfold callee
  split
  · exact agrees_pure _
  · exact agrees_throw rfl

/-- **A call** is answered without regard to its column. -/
theorem agrees_invoke (host : Host σ) (column column' : Nat) (f : Callable)
    (arguments : List Value) :
    Agrees (invoke host column f arguments) (invoke host column' f arguments) := by
  intro run run' hrun
  have hafter : (run.after host ⟨column, f, arguments⟩).bare =
      (run'.after host ⟨column', f, arguments⟩).bare := Run.bare_after host hrun rfl
  obtain ⟨hstate, -⟩ := Run.mk.inj hrun
  rw [invoke_apply, invoke_apply, ← hstate]
  cases (host.call f arguments run.state).1 with
  | ok v => exact congrArg (EStateM.Result.ok v) hafter
  | error e =>
    change EStateM.Result.error (e.at column).bare _ = .error (e.at column').bare _
    rw [e.bare_at column column', hafter]

/-- Lower case is lower case of lower case. -/
theorem toLower_toLower (c : Char) : c.toLower.toLower = c.toLower := by
  have hcapital : ∀ d : Char, 'A'.val ≤ d.val ∧ d.val ≤ 'Z'.val →
      d.toLower.val = d.val + ('a'.val - 'A'.val) := fun d h => congrArg Char.val (dif_pos h)
  have hother : ∀ d : Char, ¬('A'.val ≤ d.val ∧ d.val ≤ 'Z'.val) → d.toLower = d :=
    fun d h => dif_neg h
  by_cases h : 'A'.val ≤ c.val ∧ c.val ≤ 'Z'.val
  · refine hother c.toLower ?_
    rw [hcapital c h]
    rintro ⟨-, hle⟩
    have hlower : 65 ≤ c.val.toNat := h.1
    have hupper : c.val.toNat ≤ 90 := h.2
    have hsum : (c.val + ('a'.val - 'A'.val)).toNat ≤ 90 := hle
    rw [UInt32.toNat_add] at hsum
    change (c.val.toNat + 32) % 2 ^ 32 ≤ 90 at hsum
    omega
  · rw [hother c h, hother c h]

/-- A truth value is spelled in any case of its letters. -/
theorem truth_bare (t : Token) : truth t.bare = truth t := by
  have htwice : Char.toLower ∘ Char.toLower = Char.toLower := funext toLower_toLower
  unfold truth Token.bare
  cases t.kind.keyword?.isSome with
  | false => rfl
  | true => rw [if_pos rfl, String.toList_ofList, List.map_map, htwice]

/-- An operator has no spelling of its own: only the complaint that it is none would tell. -/
theorem operate_bare {l : Level} {op : Token} (h : l.accepts op.kind = true) (a b : Value) :
    operate l op.bare a b = operate l op a b := by
  cases l <;> cases hk : op.kind <;> simp_all [operate, Level.accepts, Operator.ofKind?]

/-! ### The induction over the tree -/

variable (host : Host σ) (context : Object)

mutual

/-- **An expression agrees with itself without its layout.** -/
theorem expr_bare : ∀ (e : Expr) {ts : List Token}, e.DerivationOf ts →
    Agrees (expr host context e) (expr host context e.bare)
  | .term t, _, .term h => term_bare t h
  | .negation _ operand, _, .negation _ _ h => by
    rw [Expr.bare, expr, expr]
    exact (expr_bare operand h).bind fun v => agrees_pure _
  | .binary l left op right, _, .binary hop _ _ h h' => by
    rw [Expr.bare, expr, expr]
    refine (expr_bare left h).bind fun a => (expr_bare right h').bind fun b => ?_
    rw [operate_bare hop]
    exact agrees_orComplain _ _ _

theorem term_bare : ∀ (t : Term) {ts : List Token}, t.DerivationOf ts →
    Agrees (term host context t) (term host context t.bare)
  | .string t, _, .string hk => by
    have hcontent : t.bare.content = t.content := by
      rw [Token.content, Token.content, Token.lexeme_bare (by rw [hk]; rfl)]
    rw [Term.bare, term, term, hcontent]
    exact agrees_pure _
  | .number t, _, .number hk => by
    have hnumber : number t.bare = number t := by
      rw [number, number, Token.lexeme_bare (by rw [hk]; rfl)]
    rw [Term.bare, term, term, hnumber]
    exact agrees_orComplain _ _ _
  | .boolean t, _, .boolean _ => by
    rw [Term.bare, term, term, truth_bare]
    exact agrees_pure _
  | .array _ elements _, _, .array _ h _ => by
    rw [Term.bare, term, term]
    exact (terms_bare elements h).bind fun vs => agrees_pure _
  | .group _ inner _, _, .group _ h _ => expr_bare inner h
  | .path head chain, _, .path hk h => by
    rw [Term.bare, term, term]
    refine (agrees_lookup context ?_).bind fun v => links_bare chain h v
    rw [Token.lexeme_bare (by rw [hk]; rfl)]

theorem terms_bare : ∀ (es : List Term) {ts : List Token}, Term.ListOf es ts →
    Agrees (terms host context es) (terms host context (Term.listBare es))
  | [], _, .nil => agrees_pure _
  | t :: more, _, .cons h hm => by
    rw [Term.listBare, terms, terms]
    exact (term_bare t h).bind fun v => (more_bare more hm).bind fun vs => agrees_pure _

theorem more_bare : ∀ (es : List Term) {ts : List Token}, Term.MoreOf es ts →
    Agrees (terms host context es) (terms host context (Term.listBare es))
  | [], _, .nil => agrees_pure _
  | t :: more, _, .cons _ h hm => by
    rw [Term.listBare, terms, terms]
    exact (term_bare t h).bind fun v => (more_bare more hm).bind fun vs => agrees_pure _

theorem links_bare : ∀ (ls : List Link) {ts : List Token}, Link.ChainOf ls ts → ∀ v : Value,
    Agrees (links host context v ls) (links host context v (Link.chainBare ls))
  | [], _, .nil, _ => agrees_pure _
  | l :: ls, _, .cons h hs, v => by
    rw [Link.chainBare, links, links]
    exact (link_bare l h v).bind fun w => links_bare ls hs w

theorem link_bare : ∀ (l : Link) {ts : List Token}, l.DerivationOf ts → ∀ v : Value,
    Agrees (link host context v l) (link host context v l.bare)
  | .entry _ name, _, .entry _ hn, v => by
    rw [Link.bare, link, link]
    refine agrees_entry v ?_
    rw [Token.lexeme_bare (by rw [hn]; rfl)]
  | .item _ index _, _, .item _ h _, v => by
    rw [Link.bare, link, link]
    exact (term_bare index h).bind fun i => agrees_item _ _ _ _
  | .call _ arguments _, _, .call _ h _, v => by
    rw [Link.bare, link, link]
    refine (agrees_callee _ _ v).bind fun f => (terms_bare arguments h).bind fun args => ?_
    exact agrees_invoke host _ _ _ _

end

end Eval

namespace Expr.SameMeaning

variable {e e' e'' : Expr}

theorem symm (h : e.SameMeaning e') : e'.SameMeaning e :=
  fun σ host context run => ⟨(h σ host context run).1.symm, (h σ host context run).2.symm⟩

theorem trans (h : e.SameMeaning e') (h' : e'.SameMeaning e'') : e.SameMeaning e'' :=
  fun σ host context run => ⟨(h σ host context run).1.trans (h' σ host context run).1,
    (h σ host context run).2.trans (h' σ host context run).2⟩

/-- Expressions with one computation have one meaning. -/
theorem of_expr_eq (h : ∀ (σ : Type) (host : Host σ) (context : Object),
    Eval.expr host context e = Eval.expr host context e') : e.SameMeaning e' := by
  intro σ host context run
  rw [Expr.evaluate, Expr.evaluate, h]
  exact ⟨rfl, rfl⟩

/-- Computations that agree give the same meaning. -/
theorem of_agrees (h : ∀ (σ : Type) (host : Host σ) (context : Object),
    Eval.Agrees (Eval.expr host context e) (Eval.expr host context e')) : e.SameMeaning e' := by
  intro σ host context run
  have hrun := h σ host context run run rfl
  unfold Expr.evaluate
  cases hx : Eval.expr host context e run <;> cases hy : Eval.expr host context e' run <;>
    rw [hx, hy] at hrun
  case ok.ok v r v' r' =>
    obtain ⟨rfl, hr⟩ := EStateM.Result.ok.inj hrun
    exact ⟨rfl, hr⟩
  case error.error err r err' r' =>
    obtain ⟨herr, hr⟩ := EStateM.Result.error.inj hrun
    exact ⟨congrArg Except.error herr, hr⟩
  all_goals cases hrun

/-- Where an expression has a value, one of the same meaning has the same. -/
theorem evaluate_of_ok {σ : Type} {host : Host σ} {context : Object} {run run' : Run σ} {v : Value}
    (h : e.SameMeaning e') (hv : Eval.expr host context e run = .ok v run') :
    ∃ r, e'.evaluate host context run = (.ok v, r) ∧ r.bare = run'.bare := by
  obtain ⟨houtcome, hrun⟩ := h σ host context run
  rw [evaluate_eq_ok.2 hv] at houtcome hrun
  generalize e'.evaluate host context run = outcome at houtcome hrun
  obtain ⟨_ | w, r⟩ := outcome
  · cases houtcome
  · cases houtcome
    exact ⟨r, rfl, hrun.symm⟩

/-- **Expressions that differ in their layout only have the same meaning.** -/
theorem of_bare {ts us : List Token} (h : e.DerivationOf ts) (h' : e'.DerivationOf us)
    (hbare : e.bare = e'.bare) : e.SameMeaning e' := by
  refine of_agrees fun σ host context => ?_
  have hagrees := Eval.expr_bare host context e h
  rw [hbare] at hagrees
  exact hagrees.trans (Eval.expr_bare host context e' h').symm

end Expr.SameMeaning

/-! ### Sources -/

/-- Where one source is parsed, another one with the same tokens, up to the layout, is parsed as
well. -/
theorem exists_parse_of_map_bare {source source' : String} {e : Expr}
    (hlex : (tokenize source').errors = [])
    (htokens : (tokenize source).tokens.map Token.bare = (tokenize source').tokens.map Token.bare)
    (h : parse source = .ok e) : ∃ e', parse source' = .ok e' := by
  obtain ⟨-, hd⟩ := parse_eq_ok_iff.1 h
  -- whether there is a derivation is up to the kinds alone
  have hderivable : Grammar.Derivable ((tokenize source').tokens.map Token.kind) := by
    rw [← Token.map_kind_of_map_bare htokens]
    exact derivable_iff_exists_derivationOf.2 ⟨e, hd⟩
  obtain ⟨e', hd'⟩ := derivable_iff_exists_derivationOf.1 hderivable
  exact ⟨e', parse_eq_ok_iff.2 ⟨hlex, hd'⟩⟩

/-- **The layout of a source and the case of its keywords have no meaning.** Let two sources be cut
into tokens without errors, and let their tokens be of the same kinds and have the same texts, but
for the columns and for the case of the letters in keywords. Then both sources are parsed, or none.
If they are parsed, the trees are the same up to columns and the case of keywords, and they have
the same meaning: in every context, and whoever answers the calls, the same value or the same error
up to its column, after the same calls. -/
theorem layout_and_keyword_case_have_no_meaning {source source' : String}
    (hlex : (tokenize source).errors = []) (hlex' : (tokenize source').errors = [])
    (htokens : (tokenize source).tokens.map Token.bare =
      (tokenize source').tokens.map Token.bare) :
    ((∃ e, parse source = .ok e) ↔ ∃ e', parse source' = .ok e') ∧
      ∀ e e', parse source = .ok e → parse source' = .ok e' →
        e.bare = e'.bare ∧ e.SameMeaning e' := by
  refine ⟨⟨?_, ?_⟩, fun e e' h h' => ?_⟩
  · rintro ⟨e, h⟩
    exact exists_parse_of_map_bare hlex' htokens h
  · rintro ⟨e', h'⟩
    exact exists_parse_of_map_bare hlex htokens.symm h'
  · obtain ⟨-, hd⟩ := parse_eq_ok_iff.1 h
    obtain ⟨-, hd'⟩ := parse_eq_ok_iff.1 h'
    have hbare := Expr.bare_eq_of_derivationOf hd hd' htokens
    exact ⟨hbare, Expr.SameMeaning.of_bare hd hd' hbare⟩

/-- A negation in two layouts. -/
theorem layout_and_keyword_case_have_no_meaning_not :
    ((∃ e, parse "not TRUE" = .ok e) ↔ ∃ e', parse "  NOT\ttrue" = .ok e') ∧
      ∀ e e', parse "not TRUE" = .ok e → parse "  NOT\ttrue" = .ok e' →
        e.bare = e'.bare ∧ e.SameMeaning e' := by
  have hlex : tokenize "not TRUE" = ⟨[⟨.keywordNot, "not", 1⟩, ⟨.keywordTrue, "TRUE", 5⟩], []⟩ := by
    decide +kernel
  have hlex' : tokenize "  NOT\ttrue" =
      ⟨[⟨.keywordNot, "NOT", 3⟩, ⟨.keywordTrue, "true", 7⟩], []⟩ := by
    decide +kernel
  refine layout_and_keyword_case_have_no_meaning ?_ ?_ ?_
  · rw [hlex]
  · rw [hlex']
  · rw [hlex, hlex']
    decide

end Parley
