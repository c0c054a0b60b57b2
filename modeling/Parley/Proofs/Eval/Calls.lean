import Parley.Proofs.Eval.Basic

/-!
# Every call is made once and in order

The places of a tree where a function is called are its `Parley.CallSite`s, and
`Parley.Expr.callSites` lists them in the order in which they stand: operands, elements and
links from left to right, and the calls inside an index or an argument before the link they
belong to.

An evaluation that succeeds makes exactly one call for each of them, in this order
(`Parley.Performs`), and one that fails makes those of an initial part of the list. The host
is asked for nothing else: between two calls its state stays as it is.

All of this is proved by one induction over the tree with the invariant `Parley.Accounts`,
which is closed under sequences of computations (`Parley.Accounts.bind`).
-/

namespace Parley

/-! ### Call sites -/

/-- A place where a function is called: the name and the links that lead to the function, and
the link that calls it. -/
structure CallSite where
  head : Token
  before : List Link
  opening : Token
  arguments : List Term

mutual

/-- **The call sites** of an expression, in the order of evaluation. -/
def Expr.callSites : Expr → List CallSite
  | .term t => t.callSites
  | .negation _ operand => operand.callSites
  | .binary _ left _ right => left.callSites ++ right.callSites

/-- The call sites of a term. -/
def Term.callSites : Term → List CallSite
  | .string _ => []
  | .number _ => []
  | .boolean _ => []
  | .array _ elements _ => Term.listCallSites elements
  | .group _ inner _ => inner.callSites
  | .path head links => Link.chainCallSites head [] links
  | .missing _ => []

/-- The call sites of several terms. -/
def Term.listCallSites : List Term → List CallSite
  | [] => []
  | t :: ts => t.callSites ++ Term.listCallSites ts

/-- The call sites of links behind a name and the links `before`. -/
def Link.chainCallSites (head : Token) (before : List Link) : List Link → List CallSite
  | [] => []
  | l :: ls => l.callSites head before ++ Link.chainCallSites head (before ++ [l]) ls

/-- The call sites of one link. The arguments of a call come before the call itself. -/
def Link.callSites (head : Token) (before : List Link) : Link → List CallSite
  | .entry _ _ => []
  | .item _ index _ => index.callSites
  | .call opening arguments _ =>
    Term.listCallSites arguments ++ [⟨head, before, opening, arguments⟩]

end

/-! ### Calls that are made -/

variable {σ : Type}

section Performs

variable (host : Host σ) (context : Object) (origin : Run σ)

/-- **A site makes a call** in a run: the call bears the column of the site, its function is
the value that the name and the links before lead to, and its arguments are the values of the
argument terms, which have just been evaluated. The evaluation of the name started in a run
that is reached from `origin`, where the evaluation as a whole began. -/
def CallSite.Makes (run : Run σ) (site : CallSite) (call : Call) : Prop :=
  call.column = site.opening.column ∧ ∃ (earlier : List Call) (reached : Run σ),
    Eval.term host context (.path site.head site.before) (origin.afterAll host earlier) =
        .ok (.function call.callee) reached ∧
      Eval.terms host context site.arguments reached = .ok call.arguments run

/-- `Performs host context origin run sites calls run'`: from one run to the other the calls
are made, one for each of the sites and in the same order, and nothing else happens. -/
inductive Performs : Run σ → List CallSite → List Call → Run σ → Prop
  | nil (run : Run σ) : Performs run [] [] run
  | cons {run run' : Run σ} {site : CallSite} {sites : List CallSite} {call : Call}
      {calls : List Call} :
      site.Makes host context origin run call →
      Performs (run.after host call) sites calls run' →
      Performs run (site :: sites) (call :: calls) run'

/-- **The invariant**: a computation that has a value makes the calls of all the sites, one
that ends with an error those of an initial part of them. It may rely on being reached from
`origin`. -/
def Accounts {α : Type} (sites : List CallSite) (x : Eval σ α) (run : Run σ) : Prop :=
  (∃ earlier, run = origin.afterAll host earlier) →
    match x run with
    | .ok _ run' => ∃ made, Performs host context origin run sites made run'
    | .error _ run' =>
      ∃ done made, done <+: sites ∧ Performs host context origin run done made run'

end Performs

variable {host : Host σ} {context : Object} {origin : Run σ}

theorem Performs.append {r₁ r₂ r₃ : Run σ} {sites sites' : List CallSite}
    {calls calls' : List Call} (h : Performs host context origin r₁ sites calls r₂)
    (h' : Performs host context origin r₂ sites' calls' r₃) :
    Performs host context origin r₁ (sites ++ sites') (calls ++ calls') r₃ := by
  induction h with
  | nil => exact h'
  | cons hmakes _ ih => exact .cons hmakes (ih h')

/-- Nothing but the calls has happened. -/
theorem Performs.eq_afterAll {run run' : Run σ} {sites : List CallSite} {calls : List Call}
    (h : Performs host context origin run sites calls run') : run' = run.afterAll host calls := by
  induction h with
  | nil => rfl
  | cons _ _ ih => exact ih

/-! ### The calls of a computation -/

namespace Accounts

variable {α β : Type} {sites sites' : List CallSite} {x : Eval σ α} {f : α → Eval σ β}
  {run : Run σ}

theorem of_steady (h : Eval.Steady x) : Accounts host context origin [] x run := by
  intro _
  rcases h run with ⟨a, ha⟩ | ⟨e, he⟩
  · rw [ha]
    exact ⟨[], .nil run⟩
  · rw [he]
    exact ⟨[], [], List.prefix_rfl, .nil run⟩

/-- **Sequences**: the sites of the second part come after those of the first one. -/
theorem bind (h : Accounts host context origin sites x run)
    (hf : ∀ a r, x run = .ok a r → Accounts host context origin sites' (f a) r) :
    Accounts host context origin (sites ++ sites') (x >>= f) run := by
  rintro ⟨earlier, hrun⟩
  have hx := h ⟨earlier, hrun⟩
  cases hxr : x run with
  | error e r =>
    -- the second part is not reached
    rw [hxr] at hx
    obtain ⟨done, made, hdone, hmade⟩ := hx
    rw [Eval.bind_of_error hxr]
    exact ⟨done, made, hdone.trans (List.prefix_append _ _), hmade⟩
  | ok a r =>
    rw [hxr] at hx
    obtain ⟨made, hmade⟩ := hx
    have hreached : r = origin.afterAll host (earlier ++ made) := by
      rw [hmade.eq_afterAll, hrun, Run.afterAll_append]
    have hfa := hf a r hxr ⟨_, hreached⟩
    rw [Eval.bind_of_ok hxr]
    cases hfr : f a r with
    | ok b r' =>
      rw [hfr] at hfa
      obtain ⟨made', hmade'⟩ := hfa
      exact ⟨made ++ made', hmade.append hmade'⟩
    | error e r' =>
      rw [hfr] at hfa
      obtain ⟨done, made', hdone, hmade'⟩ := hfa
      exact ⟨sites ++ done, made ++ made', (List.prefix_append_right_inj sites).2 hdone,
        hmade.append hmade'⟩

/-- What is done with the value afterwards makes no calls. -/
theorem then_steady (h : Accounts host context origin sites x run)
    (hf : ∀ a, Eval.Steady (f a)) : Accounts host context origin sites (x >>= f) run := by
  have hbind : Accounts host context origin (sites ++ []) (x >>= f) run :=
    h.bind fun a _ _ => .of_steady (hf a)
  rwa [List.append_nil] at hbind

/-- What is done before makes no calls. -/
theorem of_steady_bind (hx : Eval.Steady x)
    (hf : ∀ a r, x run = .ok a r → Accounts host context origin sites (f a) r) :
    Accounts host context origin sites (x >>= f) run := by
  have hbind : Accounts host context origin ([] ++ sites) (x >>= f) run :=
    (of_steady hx).bind hf
  exact hbind

/-- **A call** is made whether it is answered with a value or with an error. -/
theorem invoke {site : CallSite} {callee : Callable} {arguments : List Value}
    (h : site.Makes host context origin run ⟨site.opening.column, callee, arguments⟩) :
    Accounts host context origin [site]
      (Eval.invoke host site.opening.column callee arguments) run := by
  intro _
  have hmade := Performs.cons h (.nil _)
  rw [Eval.invoke_apply]
  cases (host.call callee arguments run.state).1 with
  | ok v => exact ⟨_, hmade⟩
  | error e => exact ⟨_, _, List.prefix_rfl, hmade⟩

end Accounts

/-! ### The induction over the tree -/

variable (host context origin)

mutual

theorem Expr.accounts : ∀ (e : Expr) (run : Run σ),
    Accounts host context origin e.callSites (Eval.expr host context e) run
  | .term t, run => t.accounts run
  | .negation _ operand, run => (operand.accounts run).then_steady fun _ => Eval.steady_pure _
  | .binary _ left op right, run => by
    rw [Expr.callSites, Eval.expr]
    refine (left.accounts run).bind fun l r _ => ?_
    exact (right.accounts r).then_steady fun _ => Eval.steady_orComplain _ _

theorem Term.accounts : ∀ (t : Term) (run : Run σ),
    Accounts host context origin t.callSites (Eval.term host context t) run
  | .string _, _ => .of_steady (Eval.steady_pure _)
  | .number _, _ => .of_steady (Eval.steady_orComplain _ _)
  | .boolean _, _ => .of_steady (Eval.steady_pure _)
  | .array _ elements _, run =>
    (Term.list_accounts elements run).then_steady fun _ => Eval.steady_pure _
  | .group _ inner _, run => inner.accounts run
  | .path head chain, run => by
    -- the calls of the chain refer back to the run in which the name is looked up
    rintro ⟨earlier, rfl⟩
    rw [Term.callSites, Eval.term]
    refine Accounts.of_steady_bind (Eval.steady_lookup _ _) (fun v r hv => ?_) ⟨earlier, rfl⟩
    refine Link.chain_accounts head chain [] v earlier r ?_
    rw [Eval.term, Eval.bind_of_ok hv]
    rfl
  | .missing _, _ => .of_steady (Eval.steady_throw _)

theorem Term.list_accounts : ∀ (ts : List Term) (run : Run σ),
    Accounts host context origin (Term.listCallSites ts) (Eval.terms host context ts) run
  | [], _ => .of_steady (Eval.steady_pure _)
  | t :: ts, run => by
    rw [Term.listCallSites, Eval.terms]
    refine (t.accounts run).bind fun v r _ => ?_
    exact (Term.list_accounts ts r).then_steady fun _ => Eval.steady_pure _

/-- The links behind a name and the links `before`, which have led to the value `v`. -/
theorem Link.chain_accounts (head : Token) : ∀ (ls before : List Link) (v : Value)
    (earlier : List Call) (run : Run σ),
    Eval.term host context (.path head before) (origin.afterAll host earlier) = .ok v run →
    Accounts host context origin (Link.chainCallSites head before ls)
      (Eval.links host context v ls) run
  | [], _, _, _, _, _ => .of_steady (Eval.steady_pure _)
  | l :: ls, before, v, earlier, run, hv => by
    rw [Link.chainCallSites, Eval.links]
    refine (Link.accounts head l before v earlier run hv).bind fun w r hw => ?_
    exact Link.chain_accounts head ls (before ++ [l]) w earlier r (Eval.path_snoc hv hw)

theorem Link.accounts (head : Token) : ∀ (l : Link) (before : List Link) (v : Value)
    (earlier : List Call) (run : Run σ),
    Eval.term host context (.path head before) (origin.afterAll host earlier) = .ok v run →
    Accounts host context origin (l.callSites head before) (Eval.link host context v l) run
  | .entry _ _, _, _, _, _, _ => .of_steady (Eval.steady_entry _ _)
  | .item _ index _, _, _, _, run, _ =>
    (index.accounts run).then_steady fun _ => Eval.steady_item _ _ _
  | .call opening arguments _, before, v, earlier, run, hv => by
    rw [Link.callSites, Eval.link]
    -- only a function gets as far as its arguments
    refine Accounts.of_steady_bind (Eval.steady_callee _ _) fun f r hf => ?_
    obtain ⟨rfl, rfl⟩ := Eval.callee_eq_ok hf
    refine (Term.list_accounts arguments run).bind fun args r' hargs => ?_
    exact .invoke ⟨rfl, earlier, run, hv, hargs⟩

end

/-- **Every call is made exactly once, in the order of the source, and no operand is passed
over.**

An evaluation that has a value makes one call for each call site of the tree, in their order,
with the values of the argument terms; one that ends with an error makes the calls of an initial
part of the sites. Nothing else changes the run. In particular `or` and `and` have a value
exactly when both of their operands have one. A source with errors in its syntax makes no call
at all, and any other makes those of its tree. -/
theorem every_call_is_made_once_in_order (host : Host σ) :
    (∀ (e : Expr) (context : Object) (run : Run σ),
      match e.evaluate host context run with
      | (.ok _, run') => ∃ made, Performs host context run run e.callSites made run' ∧
          run' = run.afterAll host made
      | (.error _, run') => ∃ done made, done <+: e.callSites ∧
          Performs host context run run done made run' ∧ run' = run.afterAll host made) ∧
    (∀ (context : Object) (left right : Expr) (op : Token) (v : Value) (run run' : Run σ),
      (Eval.expr host context (.binary .disjunction left op right) run = .ok v run' ↔
        ∃ a r b, Eval.expr host context left run = .ok a r ∧
          Eval.expr host context right r = .ok b run' ∧
          v = .boolean (a.truthy || b.truthy)) ∧
      (Eval.expr host context (.binary .conjunction left op right) run = .ok v run' ↔
        ∃ a r b, Eval.expr host context left run = .ok a r ∧
          Eval.expr host context right r = .ok b run' ∧
          v = .boolean (a.truthy && b.truthy))) ∧
    ∀ (engine : Engine) (invocation : Value) (source : String) (run : Run σ),
      match parse source with
      | .error errors =>
        engine.tryEvaluate host invocation source run = (.error (.badSyntax errors), run)
      | .ok tree => (engine.tryEvaluate host invocation source run).2 =
          (tree.evaluate host (engine.contextFor invocation) run).2 := by
  refine ⟨fun e context run => ?_, fun context left right op v run run' => ⟨?_, ?_⟩, ?_⟩
  · have h := e.accounts host context run run ⟨[], rfl⟩
    unfold Expr.evaluate
    cases hrun : Eval.expr host context e run with
    | ok v run' =>
      rw [hrun] at h
      obtain ⟨made, hmade⟩ := h
      exact ⟨made, hmade, hmade.eq_afterAll⟩
    | error err run' =>
      rw [hrun] at h
      obtain ⟨done, made, hdone, hmade⟩ := h
      exact ⟨done, made, hdone, hmade, hmade.eq_afterAll⟩
  · rw [Eval.binary_eq_ok]
    simp only [Eval.operate, Except.ok.injEq, @eq_comm _ _ v]
  · rw [Eval.binary_eq_ok]
    simp only [Eval.operate, Except.ok.injEq, @eq_comm _ _ v]
  · intro engine invocation source run
    split
    · rename_i errors herrors
      exact engine.tryEvaluate_of_error host invocation herrors run
    · rename_i tree htree
      rw [engine.tryEvaluate_of_ok host invocation htree run]
      rcases tree.evaluate host (engine.contextFor invocation) run with ⟨v | e, run'⟩
      · rfl
      · rfl

end Parley
