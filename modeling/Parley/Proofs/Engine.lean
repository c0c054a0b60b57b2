import Parley.Proofs.Parser.Accepts
import Parley.Proofs.Token.Tiling
import Parley.Proofs.Vocabulary
import Parley.Engine

/-!
# What an engine lets out

Two engines with corresponding layers, for hosts that answer alike, evaluate a source to
corresponding outcomes (`Parley.Pairing.tryEvaluate_paired`). Two statements are read off this.

* What an engine shows in chat does not depend on the messages of functions that have failed
  unexpectedly (`Parley.details_of_failures_stay_hidden`): hosts whose functions differ in these
  messages only cannot be told apart.
* An engine without further layers knows only the stock functions, and these do not fail
  (`Parley.stock_vocabulary_never_fails`). Here the engine is compared with itself, by a
  relation that holds of the stock functions and of no other, and of no failures.
-/

namespace Parley

namespace Pairing

variable {σ τ : Type} (p : Pairing σ τ)

/-- **Corresponding failures** of a source: the same errors in its syntax, or errors that one
place of its tree raises in both evaluations. -/
inductive Failures (source : String) : Failure → Failure → Prop
  | badSyntax (errors : List SyntaxError) :
      Failures source (.badSyntax errors) (.badSyntax errors)
  | evaluation {tree : Expr} {q : Place} {err err' : EvalError} : parse source = .ok tree →
      q ∈ tree.places → p.Raises q err err' →
      Failures source (.evaluation err) (.evaluation err')

variable {host : Host σ} {host' : Host τ} (hhosts : p.Hosts host host') {engine engine' : Engine}
  (hlayers : List.Forall₂ (Layer.Paired p.functions) engine.layers engine'.layers)
  {invocation invocation' : Value} (hinvocation : invocation.Paired p.functions invocation')

include hhosts hlayers hinvocation

/-- **Engines with paired layers have corresponding outcomes.** -/
theorem tryEvaluate_paired (source : String) {run : Run σ} {run' : Run τ}
    (hrun : p.states run.state run'.state) :
    PairedOutcomes p.functions (p.Failures source)
        (engine.tryEvaluate host invocation source run).1
        (engine'.tryEvaluate host' invocation' source run').1 ∧
      p.states (engine.tryEvaluate host invocation source run).2.state
        (engine'.tryEvaluate host' invocation' source run').2.state := by
  cases hparse : parse source with
  | error errors =>
    rw [Engine.tryEvaluate_of_error _ _ _ hparse, Engine.tryEvaluate_of_error _ _ _ hparse]
    exact ⟨.error (.badSyntax errors), hrun⟩
  | ok tree =>
    have hcontext : (engine.contextFor invocation).Paired p.functions
        (engine'.contextFor invocation') := Layer.assemble_paired hlayers hinvocation
    obtain ⟨houtcomes, hstates⟩ := p.evaluate_paired hhosts hcontext tree hrun
    rw [Engine.tryEvaluate_of_ok _ _ _ hparse, Engine.tryEvaluate_of_ok _ _ _ hparse]
    generalize tree.evaluate host (engine.contextFor invocation) run = x at houtcomes hstates ⊢
    generalize tree.evaluate host' (engine'.contextFor invocation') run' = y
      at houtcomes hstates ⊢
    obtain ⟨outcome, run⟩ := x
    obtain ⟨outcome', run'⟩ := y
    cases houtcomes with
    | ok hv => exact ⟨.ok hv, hstates⟩
    | error herrors =>
      obtain ⟨q, hq, hraises⟩ := herrors
      exact ⟨.error (.evaluation hparse hq hraises), hstates⟩

end Pairing

/-! ### What is shown in chat -/

/-- Two failures of a function that differ at most in the message of an unexpected one. -/
inductive CallError.SameButDetails : CallError → CallError → Prop
  | illegalArgument (message : String) :
      SameButDetails (.illegalArgument message) (.illegalArgument message)
  | failed (message message' : String) : SameButDetails (.failed message) (.failed message')

namespace Engine

variable {σ : Type} (engine : Engine) (host : Host σ) (invocation : Value) (run : Run σ)

/-- The value for chat is the value, or the text about the failure. -/
theorem evaluate_apply (source : String) :
    engine.evaluate host invocation source run =
      (match (engine.tryEvaluate host invocation source run).1 with
        | .ok v => v
        | .error failure => .string failure.chatText,
      (engine.tryEvaluate host invocation source run).2) := by
  change (match (engine.tryEvaluate host invocation source run).1 with
    | .ok v => (pure v : StateM (Run σ) Value)
    | .error failure => pure (.string failure.chatText))
      (engine.tryEvaluate host invocation source run).2 = _
  cases (engine.tryEvaluate host invocation source run).1 <;> rfl

theorem renderSegments_text (s : List Char) (rest : List Segment) :
    engine.renderSegments host invocation (.text s :: rest) run =
      (String.ofList s ++ (engine.renderSegments host invocation rest run).1,
        (engine.renderSegments host invocation rest run).2) := rfl

theorem renderSegments_expression (source : List Char) (rest : List Segment) :
    engine.renderSegments host invocation (.expression source :: rest) run =
      ((engine.evaluate host invocation (String.ofList source) run).1.text ++
          (engine.renderSegments host invocation rest
            (engine.evaluate host invocation (String.ofList source) run).2).1,
        (engine.renderSegments host invocation rest
          (engine.evaluate host invocation (String.ofList source) run).2).2) := rfl

end Engine

namespace Pairing

variable {σ τ : Type} {p : Pairing σ τ}
  (hfailures : ∀ e e', p.failures e e' → e.SameButDetails e')

include hfailures

/-- **The text about a failure** tells nothing of the details. -/
theorem chatText_eq {source : String} {failure failure' : Failure}
    (h : p.Failures source failure failure') : failure.chatText = failure'.chatText := by
  cases h with
  | badSyntax errors => rfl
  | evaluation _ _ hraises =>
    cases hraises with
    | both _ => rfl
    | answer opening he => cases hfailures _ _ he <;> rfl

variable {host : Host σ} {host' : Host τ} (hhosts : p.Hosts host host') {engine engine' : Engine}
  (hlayers : List.Forall₂ (Layer.Paired p.functions) engine.layers engine'.layers)
  {invocation invocation' : Value} (hinvocation : invocation.Paired p.functions invocation')

include hhosts hlayers hinvocation

theorem evaluate_chat_paired (source : String) {run : Run σ} {run' : Run τ}
    (hrun : p.states run.state run'.state) :
    (engine.evaluate host invocation source run).1.Paired p.functions
        (engine'.evaluate host' invocation' source run').1 ∧
      p.states (engine.evaluate host invocation source run).2.state
        (engine'.evaluate host' invocation' source run').2.state := by
  obtain ⟨houtcomes, hstates⟩ := p.tryEvaluate_paired hhosts hlayers hinvocation source hrun
  rw [Engine.evaluate_apply, Engine.evaluate_apply]
  refine ⟨?_, hstates⟩
  generalize (engine.tryEvaluate host invocation source run).1 = outcome at houtcomes
  generalize (engine'.tryEvaluate host' invocation' source run').1 = outcome' at houtcomes
  cases houtcomes with
  | ok hv => exact hv
  | error h =>
    dsimp only
    rw [chatText_eq hfailures h]
    exact .string _

/-- The segments of a template are evaluated one after another, from corresponding states to
corresponding states. -/
theorem renderSegments_eq (segments : List Segment) {run : Run σ} {run' : Run τ}
    (hrun : p.states run.state run'.state) :
    (engine.renderSegments host invocation segments run).1 =
        (engine'.renderSegments host' invocation' segments run').1 ∧
      p.states (engine.renderSegments host invocation segments run).2.state
        (engine'.renderSegments host' invocation' segments run').2.state := by
  induction segments generalizing run run' with
  | nil => exact ⟨rfl, hrun⟩
  | cons segment rest ih =>
    cases segment with
    | text s =>
      obtain ⟨htail, hstates⟩ := ih hrun
      rw [Engine.renderSegments_text, Engine.renderSegments_text, htail]
      exact ⟨rfl, hstates⟩
    | expression source =>
      obtain ⟨hv, hstates⟩ := evaluate_chat_paired hfailures hhosts hlayers hinvocation
        (String.ofList source) hrun
      obtain ⟨htail, hstates'⟩ := ih hstates
      rw [Engine.renderSegments_expression, Engine.renderSegments_expression, htail, hv.text_eq]
      exact ⟨rfl, hstates'⟩

end Pairing

/-- **Details of failures stay hidden.** Let there be two engines with the same layers, but for
functions in them, and let their functions correspond one to one, in such a way that corresponding
functions have the same answers to the same arguments; only where a function fails unexpectedly,
the other one may fail with another message. Then for every source and invocation both engines show
the same value, and for every template the same text, again but for the functions in them; and
the states of the hosts correspond afterwards, so that this goes on. -/
theorem details_of_failures_stay_hidden {σ τ : Type} {p : Pairing σ τ}
    (hfailures : ∀ e e', p.failures e e' → e.SameButDetails e') {host : Host σ} {host' : Host τ}
    (hhosts : p.Hosts host host') {engine engine' : Engine}
    (hlayers : List.Forall₂ (Layer.Paired p.functions) engine.layers engine'.layers)
    {invocation invocation' : Value} (hinvocation : invocation.Paired p.functions invocation')
    {run : Run σ} {run' : Run τ} (hrun : p.states run.state run'.state) :
    (∀ source, (engine.evaluate host invocation source run).1.Paired p.functions
        (engine'.evaluate host' invocation' source run').1 ∧
      p.states (engine.evaluate host invocation source run).2.state
        (engine'.evaluate host' invocation' source run').2.state) ∧
    ∀ template, (engine.render host invocation template run).1 =
        (engine'.render host' invocation' template run').1 ∧
      p.states (engine.render host invocation template run).2.state
        (engine'.render host' invocation' template run').2.state := by
  constructor
  · intro source
    exact Pairing.evaluate_chat_paired hfailures hhosts hlayers hinvocation source hrun
  · intro template
    exact Pairing.renderSegments_eq hfailures hhosts hlayers hinvocation (splitTemplate template)
      hrun

/-- The function `boom` fails with one of two messages. Which one it is cannot be seen from a text
that is rendered. -/
theorem details_of_failures_stay_hidden_boom :
    (Engine.render ((Engine.new {} 0).register fun _ => [("boom", .function (.foreign 0))])
        (Vocabulary.host fun _ _ s => (.error (.failed "out of memory"), s)) .null
        "It said: $\x7bboom()\x7d" ⟨(⟨⟨0, 0⟩, 0, mkStdGen 0, fun _ _ => none⟩, ()), []⟩).1 =
      (Engine.render ((Engine.new {} 0).register fun _ => [("boom", .function (.foreign 0))])
        (Vocabulary.host fun _ _ s => (.error (.failed "no connection"), s)) .null
        "It said: $\x7bboom()\x7d" ⟨(⟨⟨0, 0⟩, 0, mkStdGen 0, fun _ _ => none⟩, ()), []⟩).1 := by
  have hhosts : (Vocabulary.pairing (fun _ => True) biUnique_eq CallError.SameButDetails
      (@Eq Unit)).Hosts (Vocabulary.host fun _ _ s => (.error (.failed "out of memory"), s))
      (Vocabulary.host fun _ _ s => (.error (.failed "no connection"), s)) :=
    Vocabulary.hosts_host _ _ _ _ fun _ _ hs => ⟨.error (.failed _ _), hs⟩
  have hlayers : List.Forall₂ (Layer.Paired (Vocabulary.Pairs (fun _ => True) Eq))
      ((Engine.new {} 0).register fun _ => [("boom", .function (.foreign 0))]).layers
      ((Engine.new {} 0).register fun _ => [("boom", .function (.foreign 0))]).layers :=
    .cons (.fixed (Vocabulary.entries_paired (fun _ _ => trivial) _)) <| .cons .invocation <|
      .cons (.resolver fun _ => .cons (.mk "boom" (.function (.foreign rfl))) .nil) .nil
  exact ((details_of_failures_stay_hidden (fun _ _ h => h) hhosts hlayers .null ⟨rfl, rfl⟩).2
    "It said: $\x7bboom()\x7d").1

/-! ### The stock vocabulary alone -/

/-- **What a round bracket complains about** by itself is that a value cannot be called. -/
theorem Place.Raises.eq_notCallable {q : Place} {complaint : EvalError.Complaint} {t : Token}
    (h : q.Raises (.illegalState complaint t.column)) {source : String}
    (hstands : q.StandsIn (tokenize source).tokens) (ht : t ∈ (tokenize source).tokens)
    (hkind : t.kind = .leftParen) : ∃ found, complaint = .notCallable found := by
  -- at any other place there stands a token of another kind, and no two are at one column
  have hbracket : ∀ {u : Token} {kind : TokenKind}, u ∈ (tokenize source).tokens →
      u.kind = kind → t.column = u.column → kind = .leftParen := by
    rintro u _ hu rfl hcolumn
    rw [← eq_of_column_eq ht hu hcolumn]
    exact hkind
  generalize hcolumn : t.column = column at h
  cases h with
  | number _ => cases hbracket hstands.1 hstands.2 hcolumn
  | @operator l op _ _ _ _ =>
    obtain ⟨hop, haccepts⟩ := hstands
    rw [hbracket hop rfl hcolumn] at haccepts
    cases l <;> cases haccepts
  | notIndexable _ _ => cases hbracket hstands.1 hstands.2 hcolumn
  | indexNotWhole _ _ => cases hbracket hstands.1 hstands.2 hcolumn
  | notCallable _ found => exact ⟨found, rfl⟩
  | missing _ => exact hstands.elim

/-- The outcome of an engine without further layers corresponds to itself in such a way that only
functions of the vocabulary are around. -/
theorem Engine.tryEvaluate_alone {σ : Type} (settings : Settings) (started : Nat) {host : Host σ}
    (hhost : Vocabulary.Answers host) {invocation : Value} (hinvocation : invocation.functions = [])
    (source : String) (run : Run σ) :
    PairedOutcomes (Vocabulary.Pairs (Vocabulary.InStock settings started) fun _ _ => False)
      ((Vocabulary.alone σ (Vocabulary.InStock settings started)).Failures source)
      ((Engine.new settings started).tryEvaluate host invocation source run).1
      ((Engine.new settings started).tryEvaluate host invocation source run).1 := by
  have hlayers : List.Forall₂
      (Layer.Paired (Vocabulary.Pairs (Vocabulary.InStock settings started) fun _ _ => False))
      (Engine.new settings started).layers (Engine.new settings started).layers :=
    .cons (.fixed (Vocabulary.entries_paired (fun b hb => ⟨b.1, hb⟩) _)) <|
      .cons .invocation .nil
  exact (Pairing.tryEvaluate_paired _ (Vocabulary.hosts_alone hhost _) hlayers
    (Value.paired_self_of_functions_eq_nil hinvocation) source rfl).1

/-- **The stock vocabulary never fails.** Take an engine without further layers, and an invocation
without functions. Whatever source is evaluated, and whatever time, chance and the network are at
each call:

* a value holds no functions but those of the vocabulary;
* no error is a function that failed unexpectedly;
* a round bracket complains only about a value that cannot be called. -/
theorem stock_vocabulary_never_fails {σ : Type} (settings : Settings) (started : Nat)
    {host : Host σ} (hhost : Vocabulary.Answers host) {invocation : Value}
    (hinvocation : invocation.functions = []) (source : String) (run : Run σ) :
    (∀ v, ((Engine.new settings started).tryEvaluate host invocation source run).1 = .ok v →
      ∀ f ∈ v.functions, ∃ b, Vocabulary.InStock settings started b ∧ f = .stock b) ∧
    ∀ err, ((Engine.new settings started).tryEvaluate host invocation source run).1 =
        .error (.evaluation err) →
      (∀ message column, err ≠ .failed message column) ∧
      ∀ t ∈ (tokenize source).tokens, t.kind = .leftParen →
        ∀ complaint, err = .illegalState complaint t.column →
          ∃ found, complaint = .notCallable found := by
  have houtcomes := Engine.tryEvaluate_alone settings started hhost hinvocation source run
  generalize ((Engine.new settings started).tryEvaluate host invocation source run).1 = outcome
    at houtcomes ⊢
  constructor
  · rintro v rfl f hf
    cases houtcomes with
    | ok hv => exact Vocabulary.exists_stock_of_mem_functions hv hf
  · rintro err rfl
    cases houtcomes with
    | error herror =>
      cases herror with
      | evaluation hparse hq hraises =>
        obtain ⟨-, hd⟩ := parse_eq_ok_iff.1 hparse
        have hstands := Expr.places_stand _ hd _ hq
        -- no function has failed, so the place has raised the error by itself
        obtain hraises | ⟨_, _, _, -, hfailure, -⟩ := hraises.left
        · constructor
          · rintro message column rfl
            cases hraises
          · rintro t ht hkind complaint rfl
            exact hraises.eq_notCallable hstands ht hkind
        · exact hfailure.elim

/-- In `pick(pick)(1)` a function is given to itself. It answers a text, and this one cannot be
called. -/
theorem stock_vocabulary_never_fails_text :
    ∃ t ∈ (tokenize "pick(pick)(1)").tokens, t.kind = .leftParen ∧ ∃ complaint,
      ((Engine.new {} 0).tryEvaluate (Vocabulary.host fun _ _ s => (.error (.failed "boom"), s))
        (.object [("user", .string "ann")]) "pick(pick)(1)"
        ⟨(⟨⟨0, 0⟩, 0, mkStdGen 0, fun _ _ => none⟩, ()), []⟩).1 =
        .error (.evaluation (.illegalState complaint t.column)) ∧
      ∃ found, complaint = .notCallable found := by
  have hlex : tokenize "pick(pick)(1)" = ⟨[⟨.identifier, "pick", 1⟩, ⟨.leftParen, "(", 5⟩,
      ⟨.identifier, "pick", 6⟩, ⟨.rightParen, ")", 10⟩, ⟨.leftParen, "(", 11⟩,
      ⟨.number, "1", 12⟩, ⟨.rightParen, ")", 13⟩], []⟩ := by decide +kernel
  have hparse : parse "pick(pick)(1)" = .ok (.term (.path ⟨.identifier, "pick", 1⟩
      [.call ⟨.leftParen, "(", 5⟩ [.path ⟨.identifier, "pick", 6⟩ []] ⟨.rightParen, ")", 10⟩,
        .call ⟨.leftParen, "(", 11⟩ [.number ⟨.number, "1", 12⟩] ⟨.rightParen, ")", 13⟩])) := by
    rw [parse_eq_ok_iff, hlex]
    have hfirst : Link.DerivationOf (.call ⟨.leftParen, "(", 5⟩ [.path ⟨.identifier, "pick", 6⟩ []]
        ⟨.rightParen, ")", 10⟩) [⟨.leftParen, "(", 5⟩, ⟨.identifier, "pick", 6⟩,
          ⟨.rightParen, ")", 10⟩] := .call rfl (.cons (.path rfl .nil) .nil) rfl
    have hsecond : Link.DerivationOf (.call ⟨.leftParen, "(", 11⟩ [.number ⟨.number, "1", 12⟩]
        ⟨.rightParen, ")", 13⟩) [⟨.leftParen, "(", 11⟩, ⟨.number, "1", 12⟩,
          ⟨.rightParen, ")", 13⟩] := .call rfl (.cons (.number rfl) .nil) rfl
    exact ⟨rfl, .term (.path rfl (.cons hfirst (.cons hsecond .nil)))⟩
  have houtcome : ((Engine.new {} 0).tryEvaluate
      (Vocabulary.host fun _ _ s => (.error (.failed "boom"), s))
      (.object [("user", .string "ann")]) "pick(pick)(1)"
      ⟨(⟨⟨0, 0⟩, 0, mkStdGen 0, fun _ _ => none⟩, ()), []⟩).1 =
      .error (.evaluation (.illegalState (.notCallable .string) 11)) := by
    rw [Engine.tryEvaluate_of_ok _ _ _ hparse]
    rfl
  have hmem : (⟨.leftParen, "(", 11⟩ : Token) ∈ (tokenize "pick(pick)(1)").tokens := by
    rw [hlex]
    decide
  exact ⟨_, hmem, rfl, _, houtcome, ((stock_vocabulary_never_fails {} 0
    (Vocabulary.answers_host _) rfl "pick(pick)(1)" _).2 _ houtcome).2 _ hmem rfl _ rfl⟩

end Parley
