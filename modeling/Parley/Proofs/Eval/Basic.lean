import Parley.Engine

/-!
# Computations in the course of an evaluation

How the computations of `Parley.Eval` are taken apart: the equations of a sequence
(`Parley.Eval.bind_of_ok`, `Parley.Eval.bind_of_error`), the parts that only look at values
and therefore come to the same in every run (`Parley.Eval.Settled`) and leave it as it is
(`Parley.Eval.Steady`), lists of terms and chains of links, which may be evaluated in two parts
(`Parley.Eval.terms_append`, `Parley.Eval.links_append`), the outcome of an evaluation
(`Parley.Expr.evaluate_eq_ok`) and what an engine makes of it
(`Parley.Engine.tryEvaluate_of_ok`).
-/

namespace Parley

namespace Eval

variable {σ α β : Type} {x : Eval σ α} {f : α → Eval σ β} {run run' : Run σ}

/-! ### Sequences -/

theorem bind_of_ok {a : α} (h : x run = .ok a run') : (x >>= f) run = f a run' := by
  change EStateM.bind x f run = _
  rw [EStateM.bind, h]

theorem bind_of_error {e : EvalError} (h : x run = .error e run') :
    (x >>= f) run = .error e run' := by
  change EStateM.bind x f run = _
  rw [EStateM.bind, h]

/-- A sequence has a value exactly when both of its parts have. -/
theorem bind_eq_ok {b : β} :
    (x >>= f) run = .ok b run' ↔ ∃ a r, x run = .ok a r ∧ f a r = .ok b run' := by
  cases h : x run with
  | ok a r =>
    rw [bind_of_ok h]
    constructor
    · exact fun hf => ⟨a, r, rfl, hf⟩
    · rintro ⟨_, _, ⟨⟩, hf⟩
      exact hf
  | error e r =>
    rw [bind_of_error h]
    constructor
    · intro hf
      cases hf
    · rintro ⟨_, _, ⟨⟩, -⟩

theorem orComplain_eq_ok {column : Nat} {v : Except EvalError.Complaint α} {a : α} :
    (orComplain column v : Eval σ α) run = .ok a run' ↔ v = .ok a ∧ run = run' := by
  cases v with
  | ok b =>
    constructor
    · rintro ⟨⟩
      exact ⟨rfl, rfl⟩
    · rintro ⟨⟨⟩, rfl⟩
      rfl
  | error c =>
    constructor
    · rintro ⟨⟩
    · rintro ⟨⟨⟩, -⟩

/-! ### What leaves the run as it is -/

/-- **A settled computation** has a value, or ends with an error, whatever the run is, and leaves
the run as it is. -/
def Settled (x : Eval σ α) : Prop :=
  (∃ a, x = pure a) ∨ ∃ e, x = throw e

/-- **A steady computation** neither makes a call nor changes the state, whether it has a
value or not. -/
def Steady (x : Eval σ α) : Prop :=
  ∀ run : Run σ, (∃ a, x run = .ok a run) ∨ ∃ e, x run = .error e run

theorem Settled.steady (h : Settled x) : Steady x := by
  intro run
  rcases h with ⟨a, rfl⟩ | ⟨e, rfl⟩
  · exact .inl ⟨a, rfl⟩
  · exact .inr ⟨e, rfl⟩

/-- What a settled computation has come to once, it always comes to. -/
theorem Settled.eq_pure {a : α} (h : Settled x) (ha : x run = .ok a run') : x = pure a := by
  rcases h with ⟨b, rfl⟩ | ⟨e, rfl⟩
  · cases ha
    rfl
  · cases ha

theorem Settled.bind (h : Settled x) (hf : ∀ a, Settled (f a)) : Settled (x >>= f) := by
  rcases h with ⟨a, rfl⟩ | ⟨e, rfl⟩
  · rw [pure_bind]
    exact hf a
  · exact .inr ⟨e, rfl⟩

theorem settled_pure (a : α) : Settled (pure a : Eval σ α) :=
  .inl ⟨a, rfl⟩

theorem settled_throw (e : EvalError) : Settled (throw e : Eval σ α) :=
  .inr ⟨e, rfl⟩

theorem settled_orComplain (column : Nat) (v : Except EvalError.Complaint α) :
    Settled (orComplain column v : Eval σ α) := by
  cases v with
  | ok a => exact settled_pure a
  | error c => exact settled_throw _

theorem settled_lookup (entries : Object) (name : Token) :
    Settled (lookup entries name : Eval σ Value) := by
  unfold lookup
  split
  · exact settled_pure _
  · exact settled_throw _

theorem settled_entry (v : Value) (name : Token) : Settled (entry v name : Eval σ Value) := by
  unfold entry
  split
  · exact settled_lookup _ _
  · exact settled_throw _

theorem settled_item (column : Nat) (v index : Value) :
    Settled (item column v index : Eval σ Value) := by
  unfold item
  split
  · split
    · exact settled_throw _
    · split
      · exact settled_pure _
      · exact settled_throw _
  · exact settled_throw _

theorem settled_callee (column : Nat) (v : Value) :
    Settled (callee column v : Eval σ Callable) := by
  unfold callee
  split
  · exact settled_pure _
  · exact settled_throw _

theorem steady_pure (a : α) : Steady (pure a : Eval σ α) :=
  (settled_pure a).steady

theorem steady_throw (e : EvalError) : Steady (throw e : Eval σ α) :=
  (settled_throw e).steady

theorem steady_orComplain (column : Nat) (v : Except EvalError.Complaint α) :
    Steady (orComplain column v : Eval σ α) :=
  (settled_orComplain column v).steady

theorem steady_lookup (entries : Object) (name : Token) :
    Steady (lookup entries name : Eval σ Value) :=
  (settled_lookup entries name).steady

theorem steady_entry (v : Value) (name : Token) : Steady (entry v name : Eval σ Value) :=
  (settled_entry v name).steady

theorem steady_item (column : Nat) (v index : Value) :
    Steady (item column v index : Eval σ Value) :=
  (settled_item column v index).steady

theorem steady_callee (column : Nat) (v : Value) :
    Steady (callee column v : Eval σ Callable) :=
  (settled_callee column v).steady

/-- What can be called is a function, and nothing has happened on the way. -/
theorem callee_eq_ok {column : Nat} {v : Value} {f : Callable}
    (h : callee column v run = .ok f run') : v = .function f ∧ run = run' := by
  unfold callee at h
  split at h
  · cases h
    exact ⟨rfl, rfl⟩
  · cases h

end Eval

/-! ### Calls -/

variable {σ : Type}

/-- The run in which one more call has been made. -/
def Run.after (host : Host σ) (call : Call) (run : Run σ) : Run σ :=
  ⟨(host.call call.callee call.arguments run.state).2, run.calls ++ [call]⟩

/-- The run in which some more calls have been made, one after another. -/
def Run.afterAll (host : Host σ) (calls : List Call) (run : Run σ) : Run σ :=
  calls.foldl (fun r call => r.after host call) run

theorem Run.afterAll_append (host : Host σ) (calls calls' : List Call) (run : Run σ) :
    run.afterAll host (calls ++ calls') = (run.afterAll host calls).afterAll host calls' :=
  List.foldl_append

namespace Eval

variable (host : Host σ) (context : Object)

/-- **A call** is recorded, and its answer is what the host says. -/
theorem invoke_apply (column : Nat) (f : Callable) (arguments : List Value) (run : Run σ) :
    invoke host column f arguments run =
      match (host.call f arguments run.state).1 with
      | .ok v => .ok v (run.after host ⟨column, f, arguments⟩)
      | .error e => .error (e.at column) (run.after host ⟨column, f, arguments⟩) := by
  change (match (host.call f arguments run.state).1 with
    | .ok v => (pure v : Eval σ Value)
    | .error e => throw (e.at column)) (run.after host ⟨column, f, arguments⟩) = _
  cases (host.call f arguments run.state).1 with
  | ok v => rfl
  | error e => rfl

/-! ### Operators -/

/-- **Both operands of an operator are evaluated**, whatever the first one has come to. -/
theorem binary_eq_ok {l : Level} {left right : Expr} {op : Token} {v : Value}
    {run run' : Run σ} :
    expr host context (.binary l left op right) run = .ok v run' ↔
      ∃ a r b, expr host context left run = .ok a r ∧ expr host context right r = .ok b run' ∧
        operate l op a b = .ok v := by
  rw [expr, bind_eq_ok]
  constructor
  · rintro ⟨a, r, ha, h⟩
    obtain ⟨b, r', hb, h⟩ := bind_eq_ok.1 h
    obtain ⟨hv, rfl⟩ := orComplain_eq_ok.1 h
    exact ⟨a, r, b, ha, hb, hv⟩
  · rintro ⟨a, r, b, ha, hb, hv⟩
    exact ⟨a, r, ha, bind_eq_ok.2 ⟨b, run', hb, orComplain_eq_ok.2 ⟨hv, rfl⟩⟩⟩

/-! ### Lists of terms and chains of links -/

/-- **Terms may be evaluated in two parts.** -/
theorem terms_append (ts us : List Term) :
    terms host context (ts ++ us) = do
      let vs ← terms host context ts
      let ws ← terms host context us
      return vs ++ ws := by
  induction ts with
  | nil => simp [terms]
  | cons t ts ih => simp [terms, ih]

/-- **A chain may be followed in two parts.** -/
theorem links_append (v : Value) (ls ms : List Link) :
    links host context v (ls ++ ms) =
      links host context v ls >>= fun w => links host context w ms := by
  induction ls generalizing v with
  | nil => rw [List.nil_append, links, pure_bind]
  | cons l ls ih =>
    rw [List.cons_append, links, links, bind_assoc]
    exact bind_congr fun w => ih w

variable {host context} in
/-- Behind a chain that has led to a value, one more link is followed from this value. -/
theorem path_snoc {head : Token} {before : List Link} {l : Link} {v w : Value}
    {start run run' : Run σ} (hv : term host context (.path head before) start = .ok v run)
    (hw : link host context v l run = .ok w run') :
    term host context (.path head (before ++ [l])) start = .ok w run' := by
  rw [term] at hv ⊢
  obtain ⟨u, r, hu, hchain⟩ := bind_eq_ok.1 hv
  refine bind_eq_ok.2 ⟨u, r, hu, ?_⟩
  rw [links_append]
  refine bind_eq_ok.2 ⟨v, run, hchain, ?_⟩
  rw [links]
  exact bind_eq_ok.2 ⟨w, run', hw, rfl⟩

end Eval

/-! ### Outcomes -/

namespace Expr

variable {host : Host σ} {context : Object} {e : Expr} {run run' : Run σ}

theorem evaluate_eq_ok {v : Value} :
    e.evaluate host context run = (.ok v, run') ↔
      Eval.expr host context e run = .ok v run' := by
  unfold evaluate
  cases Eval.expr host context e run <;> constructor <;> rintro ⟨⟩ <;> rfl

theorem evaluate_eq_error {err : EvalError} :
    e.evaluate host context run = (.error err, run') ↔
      Eval.expr host context e run = .error err run' := by
  unfold evaluate
  cases Eval.expr host context e run <;> constructor <;> rintro ⟨⟩ <;> rfl

end Expr

/-! ### Engines -/

namespace Engine

variable (engine : Engine) (host : Host σ) (invocation : Value) {source : String}

/-- A source with errors in its syntax is not evaluated. -/
theorem tryEvaluate_of_error {errors : List SyntaxError} (h : parse source = .error errors)
    (run : Run σ) :
    engine.tryEvaluate host invocation source run = (.error (.badSyntax errors), run) := by
  unfold tryEvaluate
  rw [h]
  rfl

/-- Any other source is evaluated in the context of the engine. -/
theorem tryEvaluate_of_ok {tree : Expr} (h : parse source = .ok tree) (run : Run σ) :
    engine.tryEvaluate host invocation source run =
      match tree.evaluate host (engine.contextFor invocation) run with
      | (.ok v, run') => (.ok v, run')
      | (.error e, run') => (.error (.evaluation e), run') := by
  unfold tryEvaluate
  rw [h]
  have hbind : ∀ f : Except EvalError Value → StateM (Run σ) (Except Failure Value),
      (tree.evaluate host (engine.contextFor invocation) >>= f) run =
        f (tree.evaluate host (engine.contextFor invocation) run).1
          (tree.evaluate host (engine.contextFor invocation) run).2 := fun f => rfl
  refine (hbind _).trans ?_
  rcases tree.evaluate host (engine.contextFor invocation) run with ⟨v | e, run'⟩
  · rfl
  · rfl

end Engine

end Parley
