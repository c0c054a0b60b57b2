import Parley.Proofs.Eval.Basic
import Parley.Proofs.Expr.Places
import Parley.Proofs.Layers
import Parley.Proofs.Parser.Accepts

/-!
# An expression depends only on the names it mentions

An evaluation looks into its context in one place only: at the head of a path. The names of
entries are looked up in the value that the path has reached, and never in the context. So two
contexts that hold the same under all the heads of an expression (`Parley.Object.Agree`) cannot
be told apart by it: its evaluations are equal, with their calls and in every run
(`Parley.Eval.expr_congr`).

A layer that defines none of these names leaves them as they are
(`Parley.Object.get?_merge_of_eq_none`), whatever else it holds. Both together say that such a
layer changes nothing (`Parley.expression_depends_only_on_its_names`).
-/

namespace Parley

/-! ### Objects that agree -/

namespace Object

/-- Two objects agree on some names: under each of them they hold the same value, or none. -/
def Agree (o o' : Object) (names : List String) : Prop :=
  ∀ key ∈ names, get? key o = get? key o'

variable {o o' o'' : Object} {names names' : List String}

theorem agree_append :
    Agree o o' (names ++ names') ↔ Agree o o' names ∧ Agree o o' names' :=
  List.forall_mem_append

theorem agree_cons {key : String} :
    Agree o o' (key :: names) ↔ get? key o = get? key o' ∧ Agree o o' names :=
  List.forall_mem_cons

theorem Agree.trans (h : Agree o o' names) (h' : Agree o' o'' names) : Agree o o'' names :=
  fun key hkey => (h key hkey).trans (h' key hkey)

/-- What is put under another name is not noticed. -/
theorem agree_insert {key : String} (h : key ∉ names) (v : Value) (o : Object) :
    Agree o (insert key v o) names := by
  intro key' hkey'
  have hne : key ≠ key' := by
    rintro rfl
    exact h hkey'
  rw [get?_insert, if_neg hne]

/-- Under a key that a layer does not have there is, after merging it, what was there before. -/
theorem get?_merge_of_eq_none {key : String} {target layer : Object} (h : get? key layer = none) :
    get? key (merge target layer) = get? key target := by
  induction layer generalizing target with
  | nil => rw [merge]
  | cons entry layer ih =>
    obtain ⟨k, v⟩ := entry
    rw [get?] at h
    split at h
    · cases h
    · rename_i hk
      rw [merge, ih h, get?_insert, if_neg hk]

end Object

open Object (Agree agree_append agree_cons)

/-! ### The evaluation -/

namespace Eval

variable {σ : Type} {context context' : Object}

theorem lookup_congr {name : Token}
    (h : Object.get? name.lexeme context = Object.get? name.lexeme context') :
    (lookup context name : Eval σ Value) = lookup context' name := by
  rw [lookup, lookup, h]

variable (host : Host σ)

mutual

/-- **In contexts that agree on its heads, an expression has the same evaluation.** -/
theorem expr_congr : ∀ e : Expr, Agree context context' (Place.heads e.places) →
    expr host context e = expr host context' e
  | .term t, h => by
    rw [expr, expr]
    exact term_congr t h
  | .negation _ operand, h => by
    rw [expr, expr, expr_congr operand h]
  | .binary _ left _ right, h => by
    rw [Expr.places, Place.heads_append] at h
    obtain ⟨hleft, hright⟩ := agree_append.1 h
    rw [expr, expr, expr_congr left hleft, expr_congr right hright]

theorem term_congr : ∀ t : Term, Agree context context' (Place.heads t.places) →
    term host context t = term host context' t
  | .string _, _ => rfl
  | .number _, _ => rfl
  | .boolean _, _ => rfl
  | .array _ elements _, h => by
    rw [term, term, terms_congr elements h]
  | .group _ inner _, h => by
    rw [term, term, expr_congr inner h]
  | .path head chain, h => by
    -- the only name that is looked up in the context
    obtain ⟨hhead, hchain⟩ := agree_cons.1 h
    rw [term, term, lookup_congr hhead]
    exact bind_congr fun v => links_congr chain hchain v
  | .missing _, _ => rfl

theorem terms_congr : ∀ ts : List Term, Agree context context' (Place.heads (Term.listPlaces ts)) →
    terms host context ts = terms host context' ts
  | [], _ => rfl
  | t :: ts, h => by
    rw [Term.listPlaces, Place.heads_append] at h
    obtain ⟨ht, hts⟩ := agree_append.1 h
    rw [terms, terms, term_congr t ht, terms_congr ts hts]

theorem links_congr : ∀ ls : List Link, Agree context context' (Place.heads (Link.chainPlaces ls)) →
    ∀ v : Value, links host context v ls = links host context' v ls
  | [], _, _ => rfl
  | l :: ls, h, v => by
    rw [Link.chainPlaces, Place.heads_append] at h
    obtain ⟨hl, hls⟩ := agree_append.1 h
    rw [links, links, link_congr l hl v]
    exact bind_congr fun w => links_congr ls hls w

theorem link_congr : ∀ l : Link, Agree context context' (Place.heads l.places) →
    ∀ v : Value, link host context v l = link host context' v l
  | .entry _ _, _, _ => rfl
  | .item _ index _, h, v => by
    rw [link, link, term_congr index h]
  | .call _ arguments _, h, v => by
    rw [link, link, terms_congr arguments h]

end

end Eval

theorem Expr.evaluate_congr {σ : Type} (host : Host σ) {context context' : Object} {e : Expr}
    (h : Agree context context' e.heads) :
    e.evaluate host context = e.evaluate host context' := by
  unfold Expr.evaluate
  rw [Eval.expr_congr host e h]

/-! ### Layers that define none of the names -/

namespace Engine

/-- A layer without some names leaves them as they are. -/
theorem agree_register (engine : Engine) {invocation : Value} {names : List String}
    {resolve : Value → Object} (h : ∀ key ∈ names, Object.get? key (resolve invocation) = none) :
    Agree ((engine.register resolve).contextFor invocation) (engine.contextFor invocation)
      names := by
  intro key hkey
  rw [contextFor, register, assemble_concat]
  exact Object.get?_merge_of_eq_none (h key hkey)

/-- So do any number of such layers. -/
theorem agree_foldl_register {invocation : Value} {names : List String}
    (resolvers : List (Value → Object)) (engine : Engine)
    (h : ∀ resolve ∈ resolvers, ∀ key ∈ names, Object.get? key (resolve invocation) = none) :
    Agree ((resolvers.foldl register engine).contextFor invocation)
      (engine.contextFor invocation) names := by
  induction resolvers generalizing engine with
  | nil => exact fun _ _ => rfl
  | cons resolve resolvers ih =>
    obtain ⟨hresolve, hresolvers⟩ := List.forall_mem_cons.1 h
    rw [List.foldl_cons]
    exact (ih (engine.register resolve) hresolvers).trans (engine.agree_register hresolve)

end Engine

/-- **An expression depends only on the names it mentions.** In two contexts that hold the same
under every name at the head of a path, anywhere in the expression, its evaluations are equal:
in every run the same outcome after the same calls.

Hence further layers that define none of the heads of a source do not change what an engine
makes of it, whatever they hold besides and however many they are. -/
theorem expression_depends_only_on_its_names {σ : Type} (host : Host σ) :
    (∀ (e : Expr) (context context' : Object), Agree context context' e.heads →
      e.evaluate host context = e.evaluate host context') ∧
    ∀ (engine : Engine) (invocation : Value) (source : String)
      (resolvers : List (Value → Object)),
      (∀ e, parse source = .ok e → ∀ resolve ∈ resolvers, ∀ key ∈ e.heads,
        Object.get? key (resolve invocation) = none) →
      (resolvers.foldl Engine.register engine).tryEvaluate host invocation source =
        engine.tryEvaluate host invocation source := by
  refine ⟨fun e context context' h => Expr.evaluate_congr host h, ?_⟩
  intro engine invocation source resolvers h
  funext run
  cases hparse : parse source with
  | error errors =>
    rw [Engine.tryEvaluate_of_error _ host invocation hparse,
      Engine.tryEvaluate_of_error _ host invocation hparse]
  | ok e =>
    have hagree : Agree ((resolvers.foldl Engine.register engine).contextFor invocation)
        (engine.contextFor invocation) e.heads :=
      Engine.agree_foldl_register resolvers engine (h e hparse)
    rw [Engine.tryEvaluate_of_ok _ host invocation hparse,
      Engine.tryEvaluate_of_ok _ host invocation hparse, Expr.evaluate_congr host hagree]

/-- What stands under `b` has no part in `a.b`, where `b` is the name of an entry: neither in a
context, nor in a layer. -/
theorem expression_depends_only_on_its_names_entry :
    Expr.evaluate (⟨fun _ _ s => (.ok .null, s)⟩ : Host Unit)
        [("a", .object [("b", .integer 1)]), ("b", .integer 2)]
        (.term (.path ⟨.identifier, "a", 1⟩ [.entry ⟨.period, ".", 2⟩ ⟨.identifier, "b", 3⟩])) =
      Expr.evaluate ⟨fun _ _ s => (.ok .null, s)⟩ [("a", .object [("b", .integer 1)])]
        (.term (.path ⟨.identifier, "a", 1⟩ [.entry ⟨.period, ".", 2⟩ ⟨.identifier, "b", 3⟩])) ∧
    (Engine.register ⟨[.invocation]⟩ fun _ => [("b", .integer 2)]).tryEvaluate
        (⟨fun _ _ s => (.ok .null, s)⟩ : Host Unit)
        (.object [("a", .object [("b", .integer 1)])]) "a.b" =
      Engine.tryEvaluate ⟨[.invocation]⟩ ⟨fun _ _ s => (.ok .null, s)⟩
        (.object [("a", .object [("b", .integer 1)])]) "a.b" := by
  have hlex : tokenize "a.b" = ⟨[⟨.identifier, "a", 1⟩, ⟨.period, ".", 2⟩,
      ⟨.identifier, "b", 3⟩], []⟩ := by decide +kernel
  have hparse : parse "a.b" = .ok (.term (.path ⟨.identifier, "a", 1⟩
      [.entry ⟨.period, ".", 2⟩ ⟨.identifier, "b", 3⟩])) := by
    rw [parse_eq_ok_iff, hlex]
    exact ⟨rfl, .term (.path rfl (.cons (.entry rfl rfl) .nil))⟩
  -- the only head is `a`
  have hheads : (Expr.term (.path ⟨.identifier, "a", 1⟩
      [.entry ⟨.period, ".", 2⟩ ⟨.identifier, "b", 3⟩])).heads = ["a"] := by
    decide
  constructor
  · refine (expression_depends_only_on_its_names _).1 _ _ _ ?_
    rw [hheads]
    exact List.forall_mem_singleton.2 rfl
  · refine (expression_depends_only_on_its_names _).2 ⟨[.invocation]⟩ _ "a.b" [_] ?_
    intro e he
    obtain rfl := Except.ok.inj (hparse.symm.trans he)
    rw [hheads]
    exact List.forall_mem_singleton.2 (List.forall_mem_singleton.2 rfl)

end Parley
