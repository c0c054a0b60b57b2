import Parley.Proofs.Expr.Chain
import Parley.Proofs.Template.Pieces
import Parley.Proofs.Value.Exact

/-!
# Concatenation

There are two ways to put the texts of values one after another: `+` behind a string, and a template
with a source for each of them. They are spelled by different functions, `Parley.Value.fragment?`
and `Parley.Value.text`, which agree on what can be joined, that is on strings, numbers and truth
values (`Parley.Value.fragment?_eq`).

A row of operands that begins with a string stays a string, so that numbers behind it are spelled
and not added; the loop along the row carries the text reached so far
(`Parley.Eval.foldlM_advance_string`). What cannot be joined ends it, whatever stands in front
(`Parley.Eval.expr_chain_mismatch`).
-/

namespace Parley

/-! ### Two spellings -/

/-- Whether values of the type can be joined to a string by `+`. -/
def ValueType.isJoined : ValueType → Bool
  | string => true
  | number => true
  | boolean => true
  | _ => false

namespace Value

/-- **What can be joined is spelled as in chat.** -/
theorem fragment?_eq (v : Value) : v.fragment? = if v.type.isJoined then some v.text else none := by
  cases v <;> rfl

/-- A string is added to anything that contributes a text. -/
theorem arithmetic_string_of_fragment? {v : Value} {t : String} (h : v.fragment? = some t)
    (s : String) : arithmetic .add (.string s) v = .ok (.string (s ++ t)) := by
  cases v with
  | string | integer | float | boolean =>
    cases h
    rfl
  | null | array | object | function => cases h

/-- A string and what can be joined give the string with the text behind it. -/
theorem arithmetic_string {v : Value} (h : v.type.isJoined) (s : String) :
    arithmetic .add (.string s) v = .ok (.string (s ++ v.text)) :=
  arithmetic_string_of_fragment? (by rw [fragment?_eq, if_pos h]) s

/-- **What cannot be joined cannot be added**, to whatever it is. -/
theorem arithmetic_mismatch {v : Value} (h : ¬v.type.isJoined) (a : Value) :
    arithmetic .add a v = .error (.mismatch .add a.type v.type) := by
  cases v with
  | string | integer | float | boolean => exact absurd rfl h
  | null | array | object | function => cases a <;> rfl

end Value

/-! ### Rows of operands -/

namespace Eval

variable {σ : Type}

/-- Several computations have values if the first one has, and then the others. -/
theorem mapM_cons_eq_ok {α β : Type} {f : α → Eval σ β} {a : α} {as : List α} {bs : List β}
    {run run' : Run σ} :
    (a :: as).mapM f run = .ok bs run' ↔
      ∃ b r bs', f a run = .ok b r ∧ as.mapM f r = .ok bs' run' ∧ bs = b :: bs' := by
  rw [List.mapM_cons, bind_eq_ok]
  constructor
  · rintro ⟨b, r, hb, hrest⟩
    obtain ⟨bs', r', hbs, ⟨⟩⟩ := bind_eq_ok.1 hrest
    exact ⟨b, r, bs', hb, hbs, rfl⟩
  · rintro ⟨b, r, bs', hb, hbs, rfl⟩
    exact ⟨b, r, hb, bind_eq_ok.2 ⟨bs', run', hbs, rfl⟩⟩

variable {host : Host σ} {context : Object}

/-- One step along a row, with a `+` in front of the operand. -/
theorem advance_plus {v w : Value} {p : Token × Expr} {run run' : Run σ} (hop : p.1.kind = .plus)
    (h : expr host context p.2 run = .ok w run') :
    advance host context .sum v p run =
      orComplain p.1.column (Value.arithmetic .add v w) run' := by
  have hadd : Operator.ofKind? p.1.kind = some .add := by rw [hop]; rfl
  rw [advance, bind_of_ok h, operate_of_ofKind? (.inl rfl) hadd]

/-- **The loop along a row of `+`** that has reached a string goes on with strings. -/
theorem foldlM_advance_string {rest : List (Token × Expr)} {vs : List Value} {run run' : Run σ}
    (hops : ∀ p ∈ rest, p.1.kind = .plus)
    (hvs : (rest.map Prod.snd).mapM (expr host context) run = .ok vs run')
    (hjoined : ∀ v ∈ vs, v.type.isJoined) (s : String) :
    rest.foldlM (advance host context .sum) (.string s) run =
      .ok (.string (s ++ String.join (vs.map Value.text))) run' := by
  induction rest generalizing s vs run with
  | nil =>
    obtain ⟨⟩ := hvs
    simp
    rfl
  | cons p rest ih =>
    obtain ⟨hop, hops⟩ := List.forall_mem_cons.1 hops
    obtain ⟨v, r, vs, hv, hrest, rfl⟩ := mapM_cons_eq_ok.1 hvs
    obtain ⟨hjoin, hjoined⟩ := List.forall_mem_cons.1 hjoined
    have hstep : advance host context .sum (.string s) p run = .ok (.string (s ++ v.text)) r := by
      rw [advance_plus hop hv, Value.arithmetic_string hjoin]
      rfl
    rw [List.foldlM_cons, bind_of_ok hstep, ih hops hrest hjoined]
    simp [String.append_assoc]

/-- **A row that begins with a string** comes to the texts of its values. -/
theorem expr_chain_string {first : Expr} {rest : List (Token × Expr)} {s : String} {vs : List Value}
    {run run' : Run σ} (hops : ∀ p ∈ rest, p.1.kind = .plus)
    (hvs : (first :: rest.map Prod.snd).mapM (expr host context) run = .ok (.string s :: vs) run')
    (hjoined : ∀ v ∈ vs, v.type.isJoined) :
    expr host context (.chain .sum first rest) run =
      .ok (.string (String.join ((.string s :: vs).map Value.text))) run' := by
  obtain ⟨v, r, _, hfirst, hrest, heq⟩ := mapM_cons_eq_ok.1 hvs
  cases heq
  rw [expr_chain, bind_of_ok hfirst, foldlM_advance_string hops hrest hjoined]
  simp [Value.text]

/-- **What cannot be joined ends a row**, once the row in front of it has a value. -/
theorem expr_chain_mismatch {first operand : Expr} {before after : List (Token × Expr)} {op : Token}
    {acc v : Value} {run run' run'' : Run σ} (hop : op.kind = .plus)
    (hbefore : expr host context (.chain .sum first before) run = .ok acc run')
    (hv : expr host context operand run' = .ok v run'') (hjoined : ¬v.type.isJoined) :
    expr host context (.chain .sum first (before ++ (op, operand) :: after)) run =
      .error (.illegalState (.mismatch .add acc.type v.type) op.column) run'' := by
  have hchain : Expr.chain .sum first (before ++ (op, operand) :: after) =
      .chain .sum (.chain .sum first before) ((op, operand) :: after) := List.foldl_append
  have hstep : advance host context .sum acc (op, operand) run' =
      .error (.illegalState (.mismatch .add acc.type v.type) op.column) run'' := by
    rw [advance_plus hop hv, Value.arithmetic_mismatch hjoined]
    rfl
  rw [hchain, expr_chain, bind_of_ok hbefore, List.foldlM_cons, bind_of_error hstep]

end Eval

/-! ### Templates of sources -/

/-- A source as it stands in a template. -/
def Template.braced (source : String) : String :=
  "$\x7b" ++ source ++ "\x7d"

/-- A template of sources is split into them. -/
theorem splitTemplate_braced {sources : List String}
    (h : ∀ s ∈ sources, Template.IsSource s.toList) :
    splitTemplate (String.join (sources.map Template.braced)) =
      sources.map fun s => .expression s.toList := by
  have hchars : (String.join (sources.map Template.braced)).toList =
      Template.join (sources.map fun s => .expression s.toList) := by
    clear h
    induction sources with
    | nil => rfl
    | cons s sources ih => simpa [Template.braced, Segment.write] using ih
  have hopens : Template.OpensNothing (sources.map fun s => .expression s.toList) := by
    clear h hchars
    induction sources with
    | nil => exact Template.opensNothing_nil
    | cons s sources ih =>
      refine Template.opensNothing_cons.2 ⟨?_, ih⟩
      rintro (_ | ⟨text, texts⟩) after ⟨⟩
      decide
  have hgather : Template.gather [] (sources.map fun s => .expression s.toList) =
      sources.map fun s => .expression s.toList := by
    clear h hchars hopens
    induction sources with
    | nil => rfl
    | cons s sources ih => exact congrArg (Segment.expression s.toList :: ·) ih
  rw [splitTemplate, hchars, Template.splitFrom_join _ hopens, hgather]
  simpa using h

namespace Engine

variable {σ : Type} {engine : Engine} {host : Host σ} {invocation : Value}

/-- A source that is parsed and has a value is evaluated to it. -/
theorem evaluate_of_parse {source : String} {e : Expr} {v : Value} {run run' : Run σ}
    (hparse : parse source = .ok e)
    (hv : e.evaluate host (engine.contextFor invocation) run = (.ok v, run')) :
    engine.evaluate host invocation source run = (v, run') := by
  rw [evaluate_apply, tryEvaluate_of_ok _ _ _ hparse, hv]

/-- **A template of sources** is rendered as the texts of their values. -/
theorem render_braced {sources : List String} {es : List Expr} {vs : List Value} {run run' : Run σ}
    (hes : List.Forall₂ (fun s e => parse s = .ok e) sources es)
    (hvs : es.mapM (Eval.expr host (engine.contextFor invocation)) run = .ok vs run') :
    engine.render host invocation (String.join (sources.map Template.braced)) run =
      (String.join (vs.map Value.text), run') := by
  have hsources : ∀ s ∈ sources, Template.IsSource s.toList := by
    clear hvs
    induction hes with
    | nil => exact List.forall_mem_nil _
    | cons hparse _ ih =>
      have hsource := Template.isSource_of_errors_eq_nil (parse_eq_ok_iff.1 hparse).1
      exact List.forall_mem_cons.2 ⟨hsource, ih⟩
  rw [render, splitTemplate_braced hsources]
  clear hsources
  induction hes generalizing run vs with
  | nil =>
    obtain ⟨⟩ := hvs
    rfl
  | @cons s e sources es hparse _ ih =>
    obtain ⟨v, r, vs, hv, hrest, rfl⟩ := Eval.mapM_cons_eq_ok.1 hvs
    have hvalue : engine.evaluate host invocation (String.ofList s.toList) run = (v, r) := by
      rw [String.ofList_toList]
      exact evaluate_of_parse hparse (Expr.evaluate_eq_ok.2 hv)
    rw [List.map_cons, renderSegments_expression, hvalue, ih hrest]
    simp

/-- A source between braces that is parsed and has a string is rendered as the string. -/
theorem render_braced_string {source text : String} {e : Expr} {run run' : Run σ}
    (hparse : parse source = .ok e)
    (hv : e.evaluate host (engine.contextFor invocation) run = (.ok (.string text), run')) :
    engine.render host invocation (Template.braced source) run = (text, run') := by
  have hvalue : [e].mapM (Eval.expr host (engine.contextFor invocation)) run =
      .ok [.string text] run' :=
    Eval.mapM_cons_eq_ok.2 ⟨_, run', [], Expr.evaluate_eq_ok.1 hv, rfl, rfl⟩
  simpa [Value.text] using render_braced (.cons hparse .nil) hvalue

/-- **A template of one source**, with `+` between its parts, is rendered as the texts of their
values, if they begin with a string. -/
theorem render_braced_intercalate {sources : List String} {es : List Expr} {s : String}
    {vs : List Value} {run run' : Run σ}
    (hes : List.Forall₂ (fun s e => parse s = .ok e ∧ e.rank ≤ Level.sum.rank) sources es)
    (hvs : es.mapM (Eval.expr host (engine.contextFor invocation)) run = .ok (.string s :: vs) run')
    (hjoined : ∀ v ∈ vs, v.type.isJoined) :
    ∃ r, engine.render host invocation (Template.braced (" + ".intercalate sources)) run =
      (String.join ((.string s :: vs).map Value.text), r) ∧ r.bare = run'.bare := by
  cases hes with
  | nil => cases hvs
  | @cons source first sources es hfirst hes =>
    have hread : (Expr.chain .sum first (es.map fun e => (⟨.plus, "+", 0⟩, e))).ReadsFrom
        (" + ".intercalate (source :: sources)).toList :=
      .intercalate (Token.spelled_punctuation (c := '+') 0 rfl) rfl rfl rfl
        (.cons ⟨.of_parse hfirst.1, hfirst.2⟩ (hes.imp fun _ _ h => ⟨.of_parse h.1, h.2⟩))
    have hchain : Eval.expr host (engine.contextFor invocation)
        (.chain .sum first (es.map fun e => (⟨.plus, "+", 0⟩, e))) run =
          .ok (.string (String.join ((.string s :: vs).map Value.text))) run' := by
      refine Eval.expr_chain_string ?_ ?_ hjoined
      · simp
      · simpa [Function.comp_def] using hvs
    obtain ⟨e, hparse, hmeaning⟩ := hread.parse_eq
    obtain ⟨r, hr, hbare⟩ := hmeaning.evaluate_of_ok hchain
    exact ⟨r, render_braced_string hparse hr, hbare⟩

end Engine

/-- **Concatenation and rendering spell values in the same way.** Where the operands of a row of
`+` come to a string and then to strings, numbers and truth values only, the row comes to their
texts one after another. If what is in front of an operand has a value, and so has the operand, but
null, an array, an object or a function, then the row ends with a mismatch at the `+` between them,
and nothing behind is evaluated. Therefore it does not matter to the text that is rendered whether
the sources of operands stand in a template one by one, each between braces of its own, or as one
source with `+` between them. The operands may make calls; these are the same, in the same order. -/
theorem concatenation_spells_as_rendering {σ : Type} (host : Host σ) :
    (∀ (context : Object) (first : Expr) (rest : List (Token × Expr)) (s : String)
      (vs : List Value) (run run' : Run σ),
      (∀ p ∈ rest, p.1.kind = .plus) →
      (first :: rest.map Prod.snd).mapM (Eval.expr host context) run =
        .ok (.string s :: vs) run' →
      (∀ v ∈ vs, v.type.isJoined) →
      Eval.expr host context (.chain .sum first rest) run =
        .ok (.string (String.join ((.string s :: vs).map Value.text))) run') ∧
    (∀ (context : Object) (first operand : Expr) (before after : List (Token × Expr)) (op : Token)
      (acc v : Value) (run run' run'' : Run σ),
      op.kind = .plus →
      Eval.expr host context (.chain .sum first before) run = .ok acc run' →
      Eval.expr host context operand run' = .ok v run'' →
      ¬v.type.isJoined →
      Eval.expr host context (.chain .sum first (before ++ (op, operand) :: after)) run =
        .error (.illegalState (.mismatch .add acc.type v.type) op.column) run'') ∧
    ∀ (engine : Engine) (invocation : Value) (sources : List String) (es : List Expr) (s : String)
      (vs : List Value) (run run' : Run σ),
      List.Forall₂ (fun s e => parse s = .ok e ∧ e.rank ≤ Level.sum.rank) sources es →
      es.mapM (Eval.expr host (engine.contextFor invocation)) run = .ok (.string s :: vs) run' →
      (∀ v ∈ vs, v.type.isJoined) →
      engine.render host invocation (String.join (sources.map Template.braced)) run =
          (String.join ((.string s :: vs).map Value.text), run') ∧
        ∃ r, engine.render host invocation (Template.braced (" + ".intercalate sources)) run =
          (String.join ((.string s :: vs).map Value.text), r) ∧ r.bare = run'.bare := by
  refine ⟨fun _ _ _ _ _ _ _ => Eval.expr_chain_string,
    fun _ _ _ _ _ _ _ _ _ _ _ => Eval.expr_chain_mismatch, ?_⟩
  intro engine invocation sources es s vs run run' hes hvs hjoined
  exact ⟨Engine.render_braced (hes.imp fun _ _ h => h.1) hvs,
    Engine.render_braced_intercalate hes hvs hjoined⟩

/-- A number and a truth value are put behind a string. An array cannot be added to a number
either. -/
theorem concatenation_spells_as_rendering_mixed :
    Eval.expr (⟨fun _ _ s => (.ok .null, s)⟩ : Host Unit)
        [("b", .boolean true), ("n", .integer 12), ("s", .string "n = ")]
        (.chain .sum (.term (.path ⟨.identifier, "s", 1⟩ []))
          [(⟨.plus, "+", 3⟩, .term (.path ⟨.identifier, "n", 5⟩ [])),
            (⟨.plus, "+", 7⟩, .term (.path ⟨.identifier, "b", 9⟩ []))]) ⟨(), []⟩ =
      .ok (.string "n = 12true") ⟨(), []⟩ ∧
    Eval.expr (⟨fun _ _ s => (.ok .null, s)⟩ : Host Unit) [("n", .integer 12), ("xs", .array [])]
        (.chain .sum (.term (.path ⟨.identifier, "n", 1⟩ []))
          [(⟨.plus, "+", 3⟩, .term (.path ⟨.identifier, "xs", 5⟩ []))]) ⟨(), []⟩ =
      .error (.illegalState (.mismatch .add .number .array) 3) ⟨(), []⟩ ∧
    (Engine.render ⟨[.invocation]⟩ (⟨fun _ _ s => (.ok .null, s)⟩ : Host Unit)
        (.object [("n", .integer 12), ("s", .string "n = ")]) "$\x7bs\x7d$\x7bn\x7d" ⟨(), []⟩).1 =
      "n = 12" ∧
    (Engine.render ⟨[.invocation]⟩ (⟨fun _ _ s => (.ok .null, s)⟩ : Host Unit)
        (.object [("n", .integer 12), ("s", .string "n = ")]) "$\x7bs + n\x7d" ⟨(), []⟩).1 =
      "n = 12" := by
  have hlexs : tokenize "s" = ⟨[⟨.identifier, "s", 1⟩], []⟩ := by decide +kernel
  have hlexn : tokenize "n" = ⟨[⟨.identifier, "n", 1⟩], []⟩ := by decide +kernel
  have hs : parse "s" = .ok (.term (.path ⟨.identifier, "s", 1⟩ [])) := by
    rw [parse_eq_ok_iff, hlexs]
    exact ⟨rfl, .term (.path rfl .nil)⟩
  have hn : parse "n" = .ok (.term (.path ⟨.identifier, "n", 1⟩ [])) := by
    rw [parse_eq_ok_iff, hlexn]
    exact ⟨rfl, .term (.path rfl .nil)⟩
  obtain ⟨hstring, hmismatch, hrender⟩ :=
    concatenation_spells_as_rendering (⟨fun _ _ s => (.ok .null, s)⟩ : Host Unit)
  refine ⟨?_, ?_, ?_⟩
  · refine (hstring _ _ _ "n = " [.integer 12, .boolean true] _ ⟨(), []⟩ ?_ rfl ?_).trans ?_
    · decide
    · decide
    · rfl
  · exact hmismatch _ _ _ [] [] ⟨.plus, "+", 3⟩ (.integer 12) (.array []) _ _ _ rfl rfl rfl
      (by decide)
  · obtain ⟨happart, r, htogether, -⟩ := hrender ⟨[.invocation]⟩
      (.object [("n", .integer 12), ("s", .string "n = ")]) ["s", "n"] _ "n = " [.integer 12]
      ⟨(), []⟩ ⟨(), []⟩ (.cons ⟨hs, Nat.zero_le _⟩ (.cons ⟨hn, Nat.zero_le _⟩ .nil)) rfl (by decide)
    exact ⟨congrArg Prod.fst happart, congrArg Prod.fst htogether⟩

end Parley
