import Parley.Proofs.Eval.Basic
import Parley.Proofs.Expr.Places
import Parley.Proofs.Value.Paired

/-!
# Two evaluations in step

One expression is evaluated twice: by two hosts that answer alike, and in contexts that hold
paired values. What is meant by alike is up to a `Parley.Pairing`, which says how the functions of
the two hosts, their failures and their states correspond.

Then the two evaluations go in step (`Parley.Pairing.InStep`). Either both have a value, and the
values are paired; or both end with an error, and it is the same place of the expression that
raises it in both. Only an error that a function has answered may differ, and no more than the
failures do that correspond. Which errors a place can raise by itself is listed
in `Parley.Place.Raises`.

The one induction over the tree is `Parley.Pairing.expr_inStep`. Everything else that needs to
know what an evaluation may come to is read off it: for two hosts, or for one host and itself
(`Parley.Eval.exists_raises`).
-/

namespace Parley

/-! ### Errors and the places that raise them -/

/-- **What a place raises by itself**, without a function that has been called. -/
inductive Place.Raises : Place → EvalError → Prop
  | head (name : Token) : Raises (.head name) (.unknownKey name.lexeme name.column)
  | entry (name : Token) : Raises (.entry name) (.unknownKey name.lexeme name.column)
  | number {t : Token} {c : EvalError.Complaint} : Eval.number t = .error c →
      Raises (.number t) (.illegalState c t.column)
  | operator {l : Level} {op : Token} {a b : Value} {c : EvalError.Complaint} :
      Eval.operate l op a b = .error c → Raises (.operator l op) (.illegalState c op.column)
  | notIndexable (opening : Token) (found : ValueType) :
      Raises (.item opening) (.illegalState (.notIndexable found) opening.column)
  | indexNotWhole (opening : Token) (found : ValueType) :
      Raises (.item opening) (.illegalState (.indexNotWhole found) opening.column)
  | outOfBounds (opening : Token) {index : Int64} {length : Nat} :
      index.toInt < 0 ∨ length ≤ index.toInt →
      Raises (.item opening) (.outOfBounds index length opening.column)
  | notCallable (opening : Token) (found : ValueType) :
      Raises (.call opening) (.illegalState (.notCallable found) opening.column)
  | missing (column : Nat) : Raises (.missing column) (.illegalState .incomplete column)

/-! ### Operators -/

/-- **An operator** comes to a value without functions or complains about its operands, unless it
stands at a level of arithmetic and is none of arithmetic. -/
theorem Eval.computed_operate_or (l : Level) (op : Token) (a b : Value) :
    Value.Computed (operate l op a b) ∨
      (l = .sum ∨ l = .product) ∧ Operator.ofKind? op.kind = none ∧
        operate l op a b = .error (.notArithmetic op.lexeme) := by
  cases l with
  | disjunction => exact .inl (.ok rfl)
  | conjunction => exact .inl (.ok rfl)
  | membership => exact .inl (Value.computed_isIn a b)
  | matching => exact .inl (Value.computed_isMatched a b)
  | _ =>
    unfold operate
    dsimp only
    cases Operator.ofKind? op.kind with
    | some o => exact .inl (Value.computed_arithmetic o a b)
    | none => exact .inr ⟨by decide, rfl, rfl⟩

theorem Eval.functions_operate {l : Level} {op : Token} {a b v : Value}
    (h : operate l op a b = .ok v) : v.functions = [] := by
  rcases computed_operate_or l op a b with hcomputed | ⟨-, -, herror⟩
  · rw [h] at hcomputed
    exact hcomputed.functions_eq_nil
  · cases h.symm.trans herror

/-! ### Two hosts -/

/-- Paired outcomes: paired values, or errors that are related by `E`. -/
inductive PairedOutcomes (R : Callable → Callable → Prop) {ε ε' : Type} (E : ε → ε' → Prop) :
    Except ε Value → Except ε' Value → Prop
  | ok {v v' : Value} : v.Paired R v' → PairedOutcomes R E (.ok v) (.ok v')
  | error {e : ε} {e' : ε'} : E e e' → PairedOutcomes R E (.error e) (.error e')

/-- **How two hosts correspond**: which functions of theirs do, which failures, and which
states. No function corresponds to two others, because functions can be compared. -/
structure Pairing (σ τ : Type) where
  functions : Callable → Callable → Prop
  oneToOne : Relator.BiUnique functions
  failures : CallError → CallError → Prop
  states : σ → τ → Prop

namespace Pairing

variable {σ τ : Type} (p : Pairing σ τ)

/-- **The hosts answer alike**: in corresponding states, corresponding functions answer paired
arguments with paired values or with corresponding failures, and the states correspond again. -/
def Hosts (host : Host σ) (host' : Host τ) : Prop :=
  ∀ {f f' : Callable} {arguments arguments' : List Value} {s : σ} {s' : τ}, p.functions f f' →
    List.Forall₂ (Value.Paired p.functions) arguments arguments' → p.states s s' →
    PairedOutcomes p.functions p.failures (host.call f arguments s).1
        (host'.call f' arguments' s').1 ∧
      p.states (host.call f arguments s).2 (host'.call f' arguments' s').2

/-- **What one place raises in both evaluations**: the same error, or what corresponding failures
of a function become where it has been called. -/
inductive Raises : Place → EvalError → EvalError → Prop
  | both {q : Place} {err : EvalError} : q.Raises err → Raises q err err
  | answer (opening : Token) {e e' : CallError} : p.failures e e' →
      Raises (.call opening) (e.at opening.column) (e'.at opening.column)

theorem Raises.left {p : Pairing σ τ} {q : Place} {err err' : EvalError}
    (h : p.Raises q err err') : q.Raises err ∨ ∃ opening failure failure', q = .call opening ∧
      p.failures failure failure' ∧ err = failure.at opening.column := by
  cases h with
  | both h => exact .inl h
  | answer opening h => exact .inr ⟨opening, _, _, rfl, h, rfl⟩

section Step

variable {α β γ δ : Type}

/-- Two computations have come to corresponding ends: to related results, or to errors that are
raised by one of some places. -/
inductive Ends (ps : List Place) (A : α → β → Prop) :
    EStateM.Result EvalError (Run σ) α → EStateM.Result EvalError (Run τ) β → Prop
  | ok {a : α} {b : β} {run : Run σ} {run' : Run τ} : A a b → p.states run.state run'.state →
      Ends ps A (.ok a run) (.ok b run')
  | error {q : Place} {err err' : EvalError} {run : Run σ} {run' : Run τ} : q ∈ ps →
      p.Raises q err err' → p.states run.state run'.state →
      Ends ps A (.error err run) (.error err' run')

theorem Ends.mono {p : Pairing σ τ} {ps qs : List Place} {A : α → β → Prop}
    {ex : EStateM.Result EvalError (Run σ) α} {ey : EStateM.Result EvalError (Run τ) β}
    (h : p.Ends ps A ex ey) (hsub : ps ⊆ qs) : p.Ends qs A ex ey := by
  cases h with
  | ok hab hstates => exact .ok hab hstates
  | error hq hraises hstates => exact .error (hsub hq) hraises hstates

/-- **Two computations are in step** if from corresponding states they come to corresponding
ends. -/
def InStep (ps : List Place) (A : α → β → Prop) (x : Eval σ α) (y : Eval τ β) : Prop :=
  ∀ (run : Run σ) (run' : Run τ), p.states run.state run'.state → p.Ends ps A (x run) (y run')

namespace InStep

variable {p} {ps qs : List Place} {A : α → β → Prop} {B : γ → δ → Prop} {x : Eval σ α}
  {y : Eval τ β}

theorem mono (h : p.InStep ps A x y) (hsub : ps ⊆ qs) : p.InStep qs A x y :=
  fun run run' hrun => (h run run' hrun).mono hsub

/-- **Sequences** are in step if their parts are. -/
theorem bind {f : α → Eval σ γ} {g : β → Eval τ δ} (h : p.InStep ps A x y)
    (hf : ∀ a b, A a b → p.InStep qs B (f a) (g b)) :
    p.InStep (ps ++ qs) B (x >>= f) (y >>= g) := by
  intro run run' hrun
  have hends := h run run' hrun
  generalize hx : x run = ex at hends
  generalize hy : y run' = ey at hends
  cases hends with
  | ok hab hstates =>
    rw [Eval.bind_of_ok hx, Eval.bind_of_ok hy]
    exact (hf _ _ hab).mono (List.subset_append_right ps qs) _ _ hstates
  | error hq hraises hstates =>
    rw [Eval.bind_of_error hx, Eval.bind_of_error hy]
    exact .error (List.mem_append_left qs hq) hraises hstates

/-- A sequence whose last step is charged to one place, which stands in front in the list. -/
theorem charged {q : Place} {f : α → Eval σ γ} {g : β → Eval τ δ} (h : p.InStep ps A x y)
    (hf : ∀ a b, A a b → p.InStep [q] B (f a) (g b)) :
    p.InStep (q :: ps) B (x >>= f) (y >>= g) := by
  refine (h.bind hf).mono (List.append_subset.2 ⟨List.subset_cons_self q ps, ?_⟩)
  exact List.cons_subset.2 ⟨List.mem_cons_self, List.nil_subset _⟩

end InStep

theorem inStep_pure {A : α → β → Prop} {a : α} {b : β} (h : A a b) (ps : List Place) :
    p.InStep ps A (pure a : Eval σ α) (pure b) :=
  fun _ _ hrun => .ok h hrun

theorem inStep_throw {q : Place} {e e' : EvalError} (h : p.Raises q e e') (A : α → β → Prop) :
    p.InStep [q] A (throw e : Eval σ α) (throw e') :=
  fun _ _ hrun => .error (List.mem_singleton_self q) h hrun

variable {p} in
/-- What only puts the results together raises nothing. -/
theorem InStep.map {ps : List Place} {A : α → β → Prop} {B : γ → δ → Prop} {x : Eval σ α}
    {y : Eval τ β} {f : α → γ} {g : β → δ} (h : p.InStep ps A x y)
    (hfg : ∀ a b, A a b → B (f a) (g b)) :
    p.InStep ps B (x >>= fun a => pure (f a)) (y >>= fun b => pure (g b)) := by
  have hbind := h.bind fun a b hab => p.inStep_pure (hfg a b hab) []
  rwa [List.append_nil] at hbind

end Step

/-! ### The parts of an evaluation -/

open Eval

/-- Whatever has the same outcome in both evaluations. -/
theorem inStep_orComplain {q : Place} {column : Nat} {r : Except EvalError.Complaint Value}
    (hok : ∀ v, r = .ok v → v.Paired p.functions v)
    (herror : ∀ c, r = .error c → q.Raises (.illegalState c column)) :
    p.InStep [q] (Value.Paired p.functions) (orComplain column r : Eval σ Value)
      (orComplain column r) := by
  cases r with
  | ok v => exact p.inStep_pure (hok v rfl) [q]
  | error c => exact p.inStep_throw (.both (herror c rfl)) _

theorem inStep_number (t : Token) :
    p.InStep [.number t] (Value.Paired p.functions) (orComplain t.column (number t) : Eval σ Value)
      (orComplain t.column (number t)) := by
  refine p.inStep_orComplain (fun v hv => ?_) fun c hc => .number hc
  refine Value.paired_self_of_functions_eq_nil ?_
  unfold number at hv
  split at hv
  · cases hv
    rfl
  · split at hv <;> cases hv
    rfl

/-- **Operators** make no difference between paired operands. -/
theorem inStep_operate (l : Level) (op : Token) {a a' b b' : Value}
    (ha : a.Paired p.functions a') (hb : b.Paired p.functions b') :
    p.InStep [.operator l op] (Value.Paired p.functions)
      (orComplain op.column (operate l op a b) : Eval σ Value)
      (orComplain op.column (operate l op a' b')) := by
  have heq : operate l op a' b' = operate l op a b := by
    cases l with
    | disjunction => rw [operate, operate, ha.truthy_eq, hb.truthy_eq]
    | conjunction => rw [operate, operate, ha.truthy_eq, hb.truthy_eq]
    | membership => exact (ha.isIn_eq p.oneToOne hb).symm
    | matching => exact (ha.isMatched_eq hb).symm
    | _ => simp only [operate, ha.arithmetic_eq _ hb]
  rw [heq]
  exact p.inStep_orComplain
    (fun v hv => Value.paired_self_of_functions_eq_nil (functions_operate hv))
    fun c hc => .operator hc

theorem inStep_lookup {o o' : Object} (h : o.Paired p.functions o') {name : Token} {q : Place}
    (hq : q.Raises (.unknownKey name.lexeme name.column)) :
    p.InStep [q] (Value.Paired p.functions) (lookup o name : Eval σ Value) (lookup o' name) := by
  have hget := Object.get?_paired h name.lexeme
  unfold lookup
  generalize Object.get? name.lexeme o = found at hget
  generalize Object.get? name.lexeme o' = found' at hget
  cases hget with
  | none => exact p.inStep_throw (.both hq) _
  | some hv => exact p.inStep_pure hv _

theorem inStep_entry {v v' : Value} (h : v.Paired p.functions v') (name : Token) :
    p.InStep [.entry name] (Value.Paired p.functions) (entry v name : Eval σ Value)
      (entry v' name) := by
  cases h with
  | object h => exact p.inStep_lookup h (.entry name)
  | _ => exact p.inStep_throw (.both (.entry name)) _

/-- **Items** of paired arrays: the lengths are the same, and so is the index. -/
theorem inStep_item (opening : Token) {v v' i i' : Value} (h : v.Paired p.functions v')
    (hi : i.Paired p.functions i') :
    p.InStep [.item opening] (Value.Paired p.functions) (item opening.column v i : Eval σ Value)
      (item opening.column v' i') := by
  cases h with
  | @array items items' h =>
    unfold item
    dsimp only
    rw [← hi.integer?_eq, ← hi.type_eq, ← h.length_eq]
    cases i.integer? with
    | none => exact p.inStep_throw (.both (.indexNotWhole opening _)) _
    | some n =>
      dsimp only
      rcases Int.lt_or_le n.toInt 0 with hneg | hnonneg
      · rw [if_neg (Int.not_le.2 hneg), if_neg (Int.not_le.2 hneg)]
        exact p.inStep_throw (.both (.outOfBounds opening (.inl hneg))) _
      · have hget := rel_getElem? h n.toInt.toNat
        rw [if_pos hnonneg, if_pos hnonneg]
        generalize hfound : items[n.toInt.toNat]? = found at hget
        generalize items'[n.toInt.toNat]? = found' at hget
        cases hget with
        | none =>
          rw [List.getElem?_eq_none_iff] at hfound
          exact p.inStep_throw (.both (.outOfBounds opening (.inr (by omega)))) _
        | some hv => exact p.inStep_pure hv _
  | _ => exact p.inStep_throw (.both (.notIndexable opening _)) _

theorem inStep_callee (opening : Token) {v v' : Value} (h : v.Paired p.functions v') :
    p.InStep [.call opening] p.functions (callee opening.column v : Eval σ Callable)
      (callee opening.column v') := by
  cases h with
  | function h => exact p.inStep_pure h _
  | _ => exact p.inStep_throw (.both (.notCallable opening _)) _

/-- **Calls** are answered alike. -/
theorem inStep_invoke {host : Host σ} {host' : Host τ} (hhosts : p.Hosts host host')
    (opening : Token) {f f' : Callable} {arguments arguments' : List Value}
    (hf : p.functions f f')
    (hargs : List.Forall₂ (Value.Paired p.functions) arguments arguments') :
    p.InStep [.call opening] (Value.Paired p.functions)
      (invoke host opening.column f arguments) (invoke host' opening.column f' arguments') := by
  intro run run' hrun
  obtain ⟨hanswers, hstates⟩ := hhosts hf hargs hrun
  rw [invoke_apply, invoke_apply]
  generalize (host.call f arguments run.state).1 = answer at hanswers
  generalize (host'.call f' arguments' run'.state).1 = answer' at hanswers
  cases hanswers with
  | ok hv => exact .ok hv hstates
  | error he => exact .error (List.mem_singleton_self _) (.answer opening he) hstates

/-! ### The induction over the tree -/

variable {host : Host σ} {host' : Host τ} {context context' : Object}

mutual

/-- **The evaluations of an expression are in step**: it comes to paired values, or one of its
places raises corresponding errors. -/
theorem expr_inStep (hhosts : p.Hosts host host')
    (hcontext : context.Paired p.functions context') : ∀ e : Expr,
    p.InStep e.places (Value.Paired p.functions) (expr host context e) (expr host' context' e)
  | .term t => by
    rw [expr, expr]
    exact term_inStep hhosts hcontext t
  | .negation _ operand => by
    rw [expr, expr]
    refine (expr_inStep hhosts hcontext operand).map fun v v' hv => ?_
    rw [hv.truthy_eq]
    exact .boolean _
  | .binary l left op right => by
    rw [expr, expr]
    exact (expr_inStep hhosts hcontext left).bind fun _ _ ha =>
      (expr_inStep hhosts hcontext right).charged fun _ _ hb => p.inStep_operate l op ha hb

theorem term_inStep (hhosts : p.Hosts host host')
    (hcontext : context.Paired p.functions context') : ∀ t : Term,
    p.InStep t.places (Value.Paired p.functions) (term host context t) (term host' context' t)
  | .string t => p.inStep_pure (.string t.content) _
  | .number t => p.inStep_number t
  | .boolean t => p.inStep_pure (.boolean (truth t)) _
  | .array _ elements _ => by
    rw [term, term]
    exact (terms_inStep hhosts hcontext elements).map fun _ _ => .array
  | .group _ inner _ => by
    rw [term, term]
    exact expr_inStep hhosts hcontext inner
  | .path head chain => by
    rw [term, term]
    exact (p.inStep_lookup hcontext (.head head)).bind fun _ _ hv =>
      links_inStep hhosts hcontext chain hv
  | .missing column => p.inStep_throw (.both (.missing column)) _

theorem terms_inStep (hhosts : p.Hosts host host')
    (hcontext : context.Paired p.functions context') : ∀ ts : List Term,
    p.InStep (Term.listPlaces ts) (List.Forall₂ (Value.Paired p.functions))
      (terms host context ts) (terms host' context' ts)
  | [] => p.inStep_pure .nil _
  | t :: ts => by
    rw [terms, terms]
    exact (term_inStep hhosts hcontext t).bind fun _ _ hv =>
      (terms_inStep hhosts hcontext ts).map fun _ _ hvs => .cons hv hvs

theorem links_inStep (hhosts : p.Hosts host host')
    (hcontext : context.Paired p.functions context') : ∀ (ls : List Link) {v v' : Value},
    v.Paired p.functions v' → p.InStep (Link.chainPlaces ls) (Value.Paired p.functions)
      (links host context v ls) (links host' context' v' ls)
  | [], _, _, hv => p.inStep_pure hv _
  | l :: ls, _, _, hv => by
    rw [links, links]
    exact (link_inStep hhosts hcontext l hv).bind fun _ _ hw => links_inStep hhosts hcontext ls hw

theorem link_inStep (hhosts : p.Hosts host host')
    (hcontext : context.Paired p.functions context') : ∀ (l : Link) {v v' : Value},
    v.Paired p.functions v' → p.InStep l.places (Value.Paired p.functions)
      (link host context v l) (link host' context' v' l)
  | .entry _ name, _, _, hv => p.inStep_entry hv name
  | .item opening index _, _, _, hv => by
    rw [link, link]
    exact (term_inStep hhosts hcontext index).charged fun _ _ hi => p.inStep_item opening hv hi
  | .call opening arguments _, _, _, hv => by
    rw [link, link]
    -- the bracket of the call is charged twice: for what is called, and for the answer
    refine ((p.inStep_callee opening hv).bind fun _ _ hf =>
      (terms_inStep hhosts hcontext arguments).charged fun _ _ hargs =>
        p.inStep_invoke hhosts opening hf hargs).mono ?_
    exact List.cons_subset.2 ⟨List.mem_cons_self, List.Subset.refl _⟩

end

/-- **Evaluations have paired outcomes**, and leave the hosts in corresponding states. -/
theorem evaluate_paired (hhosts : p.Hosts host host')
    (hcontext : context.Paired p.functions context') (e : Expr) {run : Run σ} {run' : Run τ}
    (hrun : p.states run.state run'.state) :
    PairedOutcomes p.functions (fun err err' => ∃ q ∈ e.places, p.Raises q err err')
        (e.evaluate host context run).1 (e.evaluate host' context' run').1 ∧
      p.states (e.evaluate host context run).2.state (e.evaluate host' context' run').2.state := by
  have hends := p.expr_inStep hhosts hcontext e run run' hrun
  unfold Expr.evaluate
  generalize expr host context e run = ex at hends
  generalize expr host' context' e run' = ey at hends
  cases hends with
  | ok hv hstates => exact ⟨.ok hv, hstates⟩
  | error hq hraises hstates => exact ⟨.error ⟨_, hq, hraises⟩, hstates⟩

end Pairing

/-! ### One host and itself -/

theorem biUnique_eq {α : Type} : Relator.BiUnique (@Eq α) :=
  ⟨fun _ _ _ h h' => h.trans h'.symm, fun _ _ _ h h' => h.symm.trans h'⟩

/-- A host corresponds to itself: everything is the same, and a failure is one that a function has
answered. -/
def Pairing.self {σ : Type} (host : Host σ) : Pairing σ σ where
  functions := Eq
  oneToOne := biUnique_eq
  failures e e' := e = e' ∧ ∃ f arguments s, (host.call f arguments s).1 = .error e
  states := Eq

theorem Pairing.hosts_self {σ : Type} (host : Host σ) : (Pairing.self host).Hosts host host := by
  rintro f _ arguments _ s _ rfl harguments rfl
  obtain rfl := Value.eq_of_items_paired id arguments harguments
  refine ⟨?_, rfl⟩
  cases hanswer : (host.call f arguments s).1 with
  | ok v => exact .ok (v.paired_self fun _ _ => rfl)
  | error e => exact .error ⟨rfl, f, arguments, s, hanswer⟩

/-- **Every error is raised by a place of the expression**: by itself, or it is what a function has
answered, and the place is where the function has been called. -/
theorem Eval.exists_raises {σ : Type} {host : Host σ} {context : Object} {e : Expr}
    {run run' : Run σ} {err : EvalError} (h : expr host context e run = .error err run') :
    ∃ q ∈ e.places, q.Raises err ∨ ∃ opening f arguments s failure, q = .call opening ∧
      (host.call f arguments s).1 = .error failure ∧ err = failure.at opening.column := by
  have hcontext : context.Paired Eq context := Value.entries_paired_self context fun _ _ => rfl
  have hends := (Pairing.self host).expr_inStep (Pairing.hosts_self host) hcontext e run run rfl
  rw [h] at hends
  cases hends with
  | error hq hraises _ =>
    refine ⟨_, hq, hraises.left.imp_right ?_⟩
    rintro ⟨opening, failure, _, rfl, ⟨-, f, arguments, s, hanswer⟩, rfl⟩
    exact ⟨opening, f, arguments, s, failure, rfl, hanswer, rfl⟩

end Parley
