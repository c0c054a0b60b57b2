import Parley.Proofs.Expr.Chain

/-!
# Connectives

`or` and `and` join any number of operands of any types, and evaluate all of them. So a row of
operands comes to a truth value that depends on theirs only
(`Parley.Connective.expr_chain`), after the operands have been evaluated from left to right, as
`not` would have them evaluated one by one.

Therefore De Morgan's laws hold of whole evaluations and not only of truth values: a `not` in front
of a row may be taken to the operands if the connective is exchanged for the other one
(`Parley.Connective.expr_negated_chain`). The same calls are made, and the same operand fails.
-/

namespace Parley

/-- A connective of truth values. -/
inductive Connective where
  | disjunction
  | conjunction

namespace Connective

/-- The level of a connective. -/
def level : Connective → Level
  | disjunction => .disjunction
  | conjunction => .conjunction

/-- The keyword of a connective. -/
def token : Connective → Token
  | disjunction => ⟨.keywordOr, "or", 0⟩
  | conjunction => ⟨.keywordAnd, "and", 0⟩

/-- What stands between two operands. -/
def between : Connective → String
  | disjunction => " or "
  | conjunction => " and "

/-- The other connective. -/
def dual : Connective → Connective
  | disjunction => conjunction
  | conjunction => disjunction

/-- **What a connective makes of values**: whether some of them count as true, or all of them. -/
def holds : Connective → List Value → Bool
  | disjunction, vs => vs.any Value.truthy
  | conjunction, vs => vs.all Value.truthy

/-- What a connective makes of two truth values. -/
def combine : Connective → Bool → Bool → Bool
  | disjunction => or
  | conjunction => and

theorem holds_nil (c : Connective) (b : Bool) : c.combine b (c.holds []) = b := by
  cases c <;> cases b <;> rfl

theorem holds_cons (c : Connective) (v : Value) (vs : List Value) :
    c.holds (v :: vs) = c.combine v.truthy (c.holds vs) := by
  cases c <;> rfl

theorem combine_assoc (c : Connective) (a b d : Bool) :
    c.combine (c.combine a b) d = c.combine a (c.combine b d) := by
  cases c <;> cases a <;> rfl

/-- **De Morgan's law** for the values. -/
theorem not_holds (c : Connective) (vs : List Value) :
    (!c.holds vs) = c.dual.holds (vs.map fun v => .boolean !v.truthy) := by
  cases c with
  | disjunction => simp [holds, dual, Value.truthy, List.not_any_eq_all_not, Function.comp_def]
  | conjunction => simp [holds, dual, Value.truthy, List.not_all_eq_any_not, Function.comp_def]

/-! ### Rows of operands -/

variable {σ : Type} (host : Host σ) (context : Object)

/-- A connective refuses no values. -/
theorem operate_level (c : Connective) (op : Token) (v w : Value) :
    Eval.operate c.level op v w = .ok (.boolean (c.combine v.truthy w.truthy)) := by
  cases c <;> rfl

/-- One step along a row. -/
theorem advance_level (c : Connective) (v : Value) (p : Token × Expr) :
    Eval.advance host context c.level v p = do
      let w ← Eval.expr host context p.2
      return .boolean (c.combine v.truthy w.truthy) := by
  rw [Eval.advance]
  refine bind_congr fun w => ?_
  rw [operate_level]
  rfl

/-- **The loop along a row** carries a truth value, which the other operands are combined with. -/
theorem foldlM_advance (c : Connective) (b : Bool) (rest : List (Token × Expr)) :
    rest.foldlM (Eval.advance host context c.level) (.boolean b) = do
      let vs ← (rest.map Prod.snd).mapM (Eval.expr host context)
      return .boolean (c.combine b (c.holds vs)) := by
  induction rest generalizing b with
  | nil => simp [holds_nil]
  | cons p rest ih =>
    simp only [List.foldlM_cons, List.map_cons, List.mapM_cons, advance_level, bind_assoc,
      pure_bind, ih, holds_cons, combine_assoc, Value.truthy]

/-- **A row of two operands or more** comes to the truth value that the connective makes of their
values, after all of them have been evaluated in order. -/
theorem expr_chain (c : Connective) (first : Expr) {rest : List (Token × Expr)} (hne : rest ≠ []) :
    Eval.expr host context (.chain c.level first rest) = do
      let vs ← (first :: rest.map Prod.snd).mapM (Eval.expr host context)
      return .boolean (c.holds vs) := by
  obtain ⟨p, rest, rfl⟩ := List.exists_cons_of_ne_nil hne
  simp only [Eval.expr_chain, List.foldlM_cons, List.map_cons, List.mapM_cons, advance_level,
    foldlM_advance, bind_assoc, pure_bind, holds_cons, combine_assoc, Value.truthy]

end Connective

/-! ### Negations -/

/-- `not` and the expression between parentheses. -/
def Expr.negated (e : Expr) : Expr :=
  .negation ⟨.keywordNot, "not", 0⟩ e.enclosed

namespace Connective

variable {σ : Type} (host : Host σ) (context : Object)

theorem expr_negated (e : Expr) :
    Eval.expr host context e.negated = do
      let v ← Eval.expr host context e
      return .boolean !v.truthy := by
  rw [Expr.negated, Eval.expr, Eval.expr_enclosed]

/-- The negations of operands are evaluated like the operands. -/
theorem mapM_expr_negated (es : List Expr) :
    (es.map Expr.negated).mapM (Eval.expr host context) = do
      let vs ← es.mapM (Eval.expr host context)
      return vs.map fun v => .boolean !v.truthy := by
  induction es with
  | nil => simp
  | cons e es ih => simp [expr_negated, ih]

/-- **De Morgan's law** for whole evaluations. -/
theorem expr_negated_chain (c : Connective) (first : Expr) {rest rest' : List (Token × Expr)}
    (hne : rest ≠ []) (hrest : rest'.map Prod.snd = (rest.map Prod.snd).map Expr.negated) :
    Eval.expr host context (Expr.chain c.level first rest).negated =
      Eval.expr host context (.chain c.dual.level first.negated rest') := by
  have hne' : rest' ≠ [] := by
    rintro rfl
    simp_all
  have htruthy : ∀ b : Bool, (Value.boolean b).truthy = b := fun _ => rfl
  rw [expr_negated, expr_chain host context c first hne, expr_chain host context c.dual _ hne',
    hrest, ← List.map_cons, mapM_expr_negated]
  simp only [bind_assoc, pure_bind, htruthy, not_holds]

/-! ### Sources -/

/-- Sources with a connective between any two are read as a row. -/
theorem readsFrom_chain (c : Connective) {s : String} {sources : List String} {first : Expr}
    {es : List Expr}
    (hes : List.Forall₂ (fun s e => e.ReadsFrom s.toList ∧ e.rank ≤ c.level.rank) (s :: sources)
      (first :: es)) :
    (Expr.chain c.level first (es.map fun e => (c.token, e))).ReadsFrom
      (c.between.intercalate (s :: sources)).toList := by
  have hspelled : c.token.Spelled := by cases c <;> exact Token.spelled_keyword rfl 0
  exact .intercalate hspelled (by cases c <;> rfl) (by cases c <;> rfl) (by cases c <;> rfl) hes

end Connective

/-- A source between parentheses, behind a `not`, is read as a negation. -/
theorem Expr.ReadsFrom.negated {e : Expr} {s : String} (h : e.ReadsFrom s.toList) :
    e.negated.ReadsFrom ("not (" ++ s ++ ")").toList := by
  have hchars : ("not (" ++ s ++ ")").toList =
      "not".toList ++ ' ' :: '(' :: (s.toList ++ [')']) := by
    simp
  rw [hchars]
  exact h.enclosed.negation rfl

/-- **De Morgan's law** for sources: a row, its negation and the row of the negations are parsed,
and the latter two have the same meaning. -/
theorem Connective.exists_parse (c : Connective) {s : String} {sources : List String} {first : Expr}
    {es : List Expr} (hne : es ≠ [])
    (hes : List.Forall₂ (fun s e => e.ReadsFrom s.toList ∧ e.rank ≤ c.level.rank) (s :: sources)
      (first :: es)) :
    ∃ row e e' : Expr,
      parse (c.between.intercalate (s :: sources)) = .ok row ∧
      parse ("not (" ++ c.between.intercalate (s :: sources) ++ ")") = .ok e ∧
      parse (c.dual.between.intercalate ((s :: sources).map fun s => "not (" ++ s ++ ")")) =
        .ok e' ∧
      (Expr.chain c.level first (es.map fun e => (c.token, e))).SameMeaning row ∧
      e.SameMeaning e' := by
  have hnegated : List.Forall₂ (fun s e => e.ReadsFrom s.toList ∧ e.rank ≤ c.dual.level.rank)
      ((s :: sources).map fun s => "not (" ++ s ++ ")") ((first :: es).map Expr.negated) :=
    List.forall₂_map_left_iff.2 (List.forall₂_map_right_iff.2
      (hes.imp fun s e h => ⟨h.1.negated, Nat.zero_le _⟩))
  have hrow := c.readsFrom_chain hes
  obtain ⟨row, hparse, hmeaning⟩ := hrow.parse_eq
  obtain ⟨e, hparse₁, hmeaning₁⟩ := hrow.negated.parse_eq
  obtain ⟨e', hparse₂, hmeaning₂⟩ := (c.dual.readsFrom_chain hnegated).parse_eq
  refine ⟨row, e, e', hparse, hparse₁, hparse₂, hmeaning, ?_⟩
  refine hmeaning₁.symm.trans (.trans (.of_expr_eq fun σ host context => ?_) hmeaning₂)
  refine c.expr_negated_chain host context first ?_ ?_
  · simpa using hne
  · simp [Function.comp_def]

/-- **Connectives obey De Morgan's laws**, whatever their operands are and do. A row of two operands
or more evaluates all of them, from left to right, and ends with an error where one of them does;
otherwise `or` says whether some value counts as true and `and` whether all do. So a `not` in front
of the row in parentheses may be taken to each operand if the connective is exchanged, without any
change to the evaluation. The same is true of sources, where what binds more tightly than the
connective may be an operand: both are parsed, and have the same outcome and make the same calls in
the same order, up to columns. -/
theorem connectives_obey_de_morgan (c : Connective) :
    (∀ {σ : Type} (host : Host σ) (context : Object) (first : Expr) (rest : List (Token × Expr)),
      rest ≠ [] →
      Eval.expr host context (.chain c.level first rest) = do
        let vs ← (first :: rest.map Prod.snd).mapM (Eval.expr host context)
        return .boolean (c.holds vs)) ∧
    (∀ {σ : Type} (host : Host σ) (context : Object) (first : Expr)
      (rest rest' : List (Token × Expr)),
      rest ≠ [] → rest'.map Prod.snd = (rest.map Prod.snd).map Expr.negated →
      Eval.expr host context (Expr.chain c.level first rest).negated =
        Eval.expr host context (.chain c.dual.level first.negated rest')) ∧
    ∀ (sources : List String) (es : List Expr), 2 ≤ sources.length →
      List.Forall₂ (fun s e => parse s = .ok e ∧ e.rank ≤ c.level.rank) sources es →
      ∃ row e e' : Expr,
        parse (c.between.intercalate sources) = .ok row ∧
        parse ("not (" ++ c.between.intercalate sources ++ ")") = .ok e ∧
        parse (c.dual.between.intercalate (sources.map fun s => "not (" ++ s ++ ")")) = .ok e' ∧
        (∀ {σ : Type} (host : Host σ) (context : Object) (run run' : Run σ) (vs : List Value),
          es.mapM (Eval.expr host context) run = .ok vs run' →
          ∃ r, row.evaluate host context run = (.ok (.boolean (c.holds vs)), r) ∧
            r.bare = run'.bare) ∧
        e.SameMeaning e' := by
  refine ⟨fun host context first rest => c.expr_chain host context first,
    fun host context first rest rest' => c.expr_negated_chain host context first, ?_⟩
  intro sources es hlength hes
  have hread : List.Forall₂ (fun s e => e.ReadsFrom s.toList ∧ e.rank ≤ c.level.rank) sources es :=
    hes.imp fun s e h => ⟨.of_parse h.1, h.2⟩
  match sources, es, hlength, hread with
  | s :: s₂ :: sources, first :: e₂ :: es, _, hread =>
    obtain ⟨row, e, e', hrow, he, he', hchain, hmeaning⟩ :=
      c.exists_parse (List.cons_ne_nil e₂ es) hread
    refine ⟨row, e, e', hrow, he, he', fun host context run run' vs hvs => ?_, hmeaning⟩
    refine hchain.evaluate_of_ok ?_
    refine (congrFun (c.expr_chain host context first (List.cons_ne_nil _ _)) run).trans ?_
    refine Eval.bind_of_ok ?_
    simpa [Function.comp_def] using hvs

/-- Both operands count as false; `f` is called before it turns out. -/
theorem connectives_obey_de_morgan_call :
    ∃ row e e' : Expr,
      parse "f(x) or x" = .ok row ∧
      parse "not (f(x) or x)" = .ok e ∧
      parse "not (f(x)) and not (x)" = .ok e' ∧
      (∃ r, row.evaluate (⟨fun _ _ n => (.ok .null, n + 1)⟩ : Host Nat)
          [("f", .function (.foreign 0)), ("x", .string "")] ⟨0, []⟩ = (.ok (.boolean false), r) ∧
        r.bare = ⟨1, [⟨0, .foreign 0, [.string ""]⟩]⟩) ∧
      e.SameMeaning e' := by
  have hlexf : tokenize "f(x)" = ⟨[⟨.identifier, "f", 1⟩, ⟨.leftParen, "(", 2⟩,
      ⟨.identifier, "x", 3⟩, ⟨.rightParen, ")", 4⟩], []⟩ := by decide +kernel
  have hlexx : tokenize "x" = ⟨[⟨.identifier, "x", 1⟩], []⟩ := by decide +kernel
  have hf : parse "f(x)" = .ok (.term (.path ⟨.identifier, "f", 1⟩ [.call ⟨.leftParen, "(", 2⟩
      [.path ⟨.identifier, "x", 3⟩ []] ⟨.rightParen, ")", 4⟩])) := by
    rw [parse_eq_ok_iff, hlexf]
    exact ⟨rfl, .term (.path rfl (.cons (.call rfl (.cons (.path rfl .nil) .nil) rfl) .nil))⟩
  have hx : parse "x" = .ok (.term (.path ⟨.identifier, "x", 1⟩ [])) := by
    rw [parse_eq_ok_iff, hlexx]
    exact ⟨rfl, .term (.path rfl .nil)⟩
  obtain ⟨-, -, hsources⟩ := connectives_obey_de_morgan .disjunction
  obtain ⟨row, e, e', hrow, he, he', hvalue, hmeaning⟩ := hsources ["f(x)", "x"] _ (by decide)
    (.cons ⟨hf, Nat.zero_le _⟩ (.cons ⟨hx, Nat.zero_le _⟩ .nil))
  refine ⟨row, e, e', hrow, he, he', ?_, hmeaning⟩
  exact hvalue _ _ ⟨0, []⟩ ⟨1, [⟨2, .foreign 0, [.string ""]⟩]⟩ [.null, .string ""] rfl

end Parley
