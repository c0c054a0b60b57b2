import Parley.Proofs.Eval.Index
import Parley.Proofs.Eval.Literal

/-!
# Navigation

Most expressions do nothing but follow a path: `user.tags[0].name` begins with the value of a name
and goes on into objects and arrays. `Parley.Navigation.Step` has the two ways of going on, each
with its spelling, and `Parley.Navigation.follow?` looks a list of them up in a value, without any
source, tokens or trees.

The source of a path is parsed, and its evaluation is this lookup
(`Parley.navigation_agrees_with_path_lookup`). A single step is read as one link
(`Parley.Navigation.Step.exists_readsAs`), which is evaluated as the step is followed
(`Parley.Navigation.Step.link_of_follow?`, `Parley.Navigation.Step.link_of_blocked`); for paths this
is repeated, by induction on the steps, with the column at which the next one stands.
-/

namespace Parley

namespace Navigation

open Lexer (ReadsAs Ends)

/-! ### Paths -/

/-- **A name**: a word that is no keyword. -/
structure Name where
  first : Char
  more : List Char
  starts : Lexer.startsWord first = true
  continues : ∀ c ∈ more, Lexer.continuesWord c = true
  names : TokenKind.identifier.Names (first :: more)

/-- The spelling of a name. -/
def Name.chars (name : Name) : List Char :=
  name.first :: name.more

/-- The key that a name stands for. -/
def Name.key (name : Name) : String :=
  String.ofList name.chars

/-- **An index**: the digits of a number that 64 bits can hold. There may be zeros in front. -/
structure Index where
  first : Char
  more : List Char
  isDigit_first : first.isDigit = true
  isDigit_more : ∀ c ∈ more, c.isDigit = true
  lt_bound : Numeral.ofDigits 0 (first :: more) < Whole.bound

/-- The spelling of an index. -/
def Index.chars (index : Index) : List Char :=
  index.first :: index.more

/-- The position that an index stands for. -/
def Index.position (index : Index) : Nat :=
  Numeral.ofDigits 0 index.chars

/-- **A step**: into the entry of an object, or to the item of an array. -/
inductive Step where
  | entry (name : Name)
  | item (index : Index)

/-- The spelling of a step. -/
def Step.chars : Step → List Char
  | entry name => '.' :: name.chars
  | item index => '[' :: (index.chars ++ [']'])

/-- **The source of a path**, which begins with a name. -/
def source (head : Name) (steps : List Step) : String :=
  String.ofList (head.chars ++ steps.flatMap Step.chars)

/-! ### Lookup -/

/-- Where a step leads from a value, if anywhere. -/
def Step.follow? : Step → Value → Option Value
  | entry name, .object entries => Object.get? name.key entries
  | item index, .array items => items[index.position]?
  | _, _ => none

/-- **Where steps lead from a value**, one after another. -/
def follow? : List Step → Value → Option Value
  | [], v => some v
  | step :: steps, v => (step.follow? v).bind (follow? steps)

/-- **The error of a step** that begins at a column and cannot be followed from a value. The column
is that of the name or of the bracket. -/
def Step.error (column : Nat) : Step → Value → EvalError
  | entry name, _ => .unknownKey name.key (column + 1)
  | item index, .array items => .outOfBounds (Int64.ofNat index.position) items.length column
  | item _, v => .illegalState (.notIndexable v.type) column

/-- `StopsAt v steps before step u`: **the first of the steps that cannot be followed** from `v` is
`step`. Those before it lead to `u`. -/
structure StopsAt (v : Value) (steps before : List Step) (step : Step) (u : Value) : Prop where
  split : ∃ after, steps = before ++ step :: after
  reached : follow? before v = some u
  blocked : step.follow? u = none

theorem follow?_append (steps more : List Step) (v : Value) :
    follow? (steps ++ more) v = (follow? steps v).bind (follow? more) := by
  induction steps generalizing v with
  | nil => rfl
  | cons step steps ih =>
    rw [List.cons_append, follow?, follow?, Option.bind_assoc]
    exact congrArg _ (funext ih)

/-- Where steps lead nowhere, there is a first one that cannot be followed. -/
theorem follow?_eq_none_iff {steps : List Step} {v : Value} :
    follow? steps v = none ↔ ∃ before step u, StopsAt v steps before step u := by
  constructor
  · intro h
    induction steps generalizing v with
    | nil => cases h
    | cons step steps ih =>
      cases hstep : step.follow? v with
      | none => exact ⟨[], step, v, ⟨steps, rfl⟩, rfl, hstep⟩
      | some w =>
        rw [follow?, hstep, Option.bind_some] at h
        obtain ⟨before, next, u, ⟨after, rfl⟩, hreached, hblocked⟩ := ih h
        refine ⟨step :: before, next, u, ⟨after, rfl⟩, ?_, hblocked⟩
        rw [follow?, hstep, Option.bind_some, hreached]
  · rintro ⟨before, step, u, ⟨after, rfl⟩, hreached, hblocked⟩
    rw [follow?_append, hreached, Option.bind_some, follow?, hblocked, Option.bind_none]

/-! ### Trees -/

/-- The link that a step is, at a column. -/
def Step.link (column : Nat) : Step → Link
  | entry name => .entry ⟨.period, String.singleton '.', column⟩ ⟨.identifier, name.key, column + 1⟩
  | item index =>
    .item ⟨.leftBracket, String.singleton '[', column⟩
      (.number ⟨.number, String.ofList index.chars, column + 1⟩)
      ⟨.rightBracket, String.singleton ']', column + 1 + index.chars.length⟩

/-- The links that steps are, from a column on. -/
def links (column : Nat) : List Step → List Link
  | [] => []
  | step :: steps => step.link column :: links (column + step.chars.length) steps

theorem links_append (column : Nat) (steps more : List Step) :
    links column (steps ++ more) =
      links column steps ++ links (column + (steps.flatMap Step.chars).length) more := by
  induction steps generalizing column with
  | nil => rfl
  | cons step steps ih =>
    rw [List.cons_append, links, links, ih, List.flatMap_cons, List.length_append, Nat.add_assoc]
    rfl

/-! ### Reading -/

theorem Name.readsAs (name : Name) (column : Nat) :
    ReadsAs column name.chars [⟨.identifier, name.key, column⟩] :=
  Lexer.readsAs_token fun _ hrest => .word name.starts name.continues hrest name.names

theorem Index.readsAs (index : Index) (column : Nat) :
    ReadsAs column index.chars [⟨.number, String.ofList index.chars, column⟩] :=
  Lexer.readsAs_token fun _ hrest =>
    Lexer.cut_digits index.isDigit_first index.isDigit_more hrest column

/-- **A step is read as its link.** -/
theorem Step.exists_readsAs (step : Step) (column : Nat) :
    ∃ ts, ReadsAs column step.chars ts ∧ (step.link column).DerivationOf ts := by
  cases step with
  | entry name => exact ⟨_, (name.readsAs (column + 1)).punctuation rfl, .entry rfl rfl⟩
  | item index => exact ⟨_, (index.readsAs (column + 1)).bracketed, .item rfl (.number rfl) rfl⟩

/-- Every step begins with a character that ends a word. -/
theorem ends_flatMap_chars (steps : List Step) : Ends (steps.flatMap Step.chars) := by
  cases steps with
  | nil => exact fun c hc => nomatch hc
  | cons step steps =>
    cases step with
    | entry name => exact Lexer.ends_cons (by decide) _
    | item index => exact Lexer.ends_cons (by decide) _

theorem exists_readsAs_links (steps : List Step) (column : Nat) :
    ∃ ts, ReadsAs column (steps.flatMap Step.chars) ts ∧ Link.ChainOf (links column steps) ts := by
  induction steps generalizing column with
  | nil => exact ⟨[], Lexer.readsAs_nil column, .nil⟩
  | cons step steps ih =>
    obtain ⟨ts, hreads, hlink⟩ := step.exists_readsAs column
    obtain ⟨us, hrest, hchain⟩ := ih (column + step.chars.length)
    exact ⟨ts ++ us, hreads.append hrest (ends_flatMap_chars steps), .cons hlink hchain⟩

/-- The tree of a path. -/
def tree (head : Name) (steps : List Step) : Expr :=
  .term (.path ⟨.identifier, head.key, 1⟩ (links (1 + head.chars.length) steps))

/-- **The source of a path is parsed** to its tree. -/
theorem parse_source (head : Name) (steps : List Step) :
    parse (source head steps) = .ok (tree head steps) := by
  obtain ⟨ts, hreads, hchain⟩ := exists_readsAs_links steps (1 + head.chars.length)
  have hall := (head.readsAs 1).append hreads (ends_flatMap_chars steps)
  have hlex : tokenize (source head steps) = ⟨⟨.identifier, head.key, 1⟩ :: ts, []⟩ := by
    refine Lexer.ReadsAs.tokenize_eq ?_
    rwa [source, String.toList_ofList]
  rw [parse_eq_ok_iff, hlex]
  exact ⟨rfl, .term (.path rfl hchain)⟩

/-! ### Evaluating -/

theorem Index.toInt_position (index : Index) :
    (Int64.ofNat index.position).toInt = index.position :=
  Int64.toInt_ofNat_of_lt index.lt_bound

section

variable {σ : Type} (host : Host σ) (context : Object) (column : Nat)

theorem Step.link_item (index : Index) (v : Value) :
    Eval.link host context v ((item index).link column) =
      Eval.item column v (.integer (Int64.ofNat index.position)) := by
  have hmeans := Term.means_number index.isDigit_first index.isDigit_more
    index.toInt_position.symm (column + 1) host context
  rw [Step.link, Eval.link, Index.chars, hmeans]
  rfl

variable {step : Step} {v w : Value}

/-- **A step that can be followed** is followed. -/
theorem Step.link_of_follow? (h : step.follow? v = some w) :
    Eval.link host context v (step.link column) = pure w := by
  cases step with
  | entry name =>
    cases v with
    | object entries =>
      rw [Step.follow?] at h
      simp only [Step.link, Eval.link, Eval.entry, Eval.lookup, h]
    | _ => cases h
  | item index =>
    cases v with
    | array items =>
      have hposition := index.toInt_position
      rw [Step.link_item]
      exact Eval.item_of_getElem? rfl (by omega) (by rwa [hposition, Int.toNat_natCast])
    | _ => cases h

/-- **A step that cannot be followed** is the end of the evaluation, with its error. -/
theorem Step.link_of_blocked (h : step.follow? v = none) :
    Eval.link host context v (step.link column) = throw (step.error column v) := by
  cases step with
  | entry name =>
    cases v with
    | object entries =>
      rw [Step.follow?] at h
      simp only [Step.link, Eval.link, Eval.entry, Eval.lookup, h]
      rfl
    | _ => rfl
  | item index =>
    rw [Step.link_item]
    cases v with
    | array items =>
      have hlength : items.length ≤ index.position := List.getElem?_eq_none_iff.1 h
      have hposition := index.toInt_position
      exact Eval.item_of_outside rfl (by omega)
    | _ => rfl

theorem links_of_follow? {steps : List Step} (h : follow? steps v = some w) :
    Eval.links host context v (links column steps) = pure w := by
  induction steps generalizing v column with
  | nil =>
    cases h
    rfl
  | cons step steps ih =>
    obtain ⟨u, hu, hrest⟩ := Option.bind_eq_some_iff.1 h
    rw [links, Eval.links, Step.link_of_follow? host context column hu, pure_bind, ih _ hrest]

theorem links_of_stopsAt {steps before : List Step} {u : Value}
    (h : StopsAt v steps before step u) :
    Eval.links host context v (links column steps) =
      throw (step.error (column + (before.flatMap Step.chars).length) u) := by
  obtain ⟨⟨after, rfl⟩, hreached, hblocked⟩ := h
  rw [links_append, Eval.links_append, links_of_follow? host context column hreached, pure_bind,
    links, Eval.links, Step.link_of_blocked host context _ hblocked]
  rfl

end

/-- The evaluation of a path: the head is looked up, and the links are followed from there. -/
theorem expr_tree {σ : Type} (host : Host σ) (context : Object) (head : Name) (steps : List Step) :
    Eval.expr host context (tree head steps) =
      match Object.get? head.key context with
      | some v => Eval.links host context v (links (1 + head.chars.length) steps)
      | none => throw (.unknownKey head.key 1) := by
  rw [tree, Eval.expr, Eval.term, Eval.lookup]
  cases Object.get? head.key context with
  | some v => rfl
  | none => rfl

end Navigation

open Navigation (follow? source StopsAt)

/-- **Navigation agrees with path lookup.** The source of a path, which is a name and any number of
steps, is parsed. If the context has nothing under the name, the evaluation ends with the error
`unknownKey` at the first column. Otherwise let `v` be what is there. If the steps can be followed
from `v`, the outcome is where they lead. If they cannot, there is a first step that cannot be
followed, and the outcome is the error of this step, with the column at which it stands in the
source: `unknownKey` at the name of an entry that is not there, or not in an object,
`illegalState` at the bracket behind what is no array, and `outOfBounds` at the bracket, with
the position and the length of the array, where this is too short. No call is made. -/
theorem navigation_agrees_with_path_lookup (head : Navigation.Name)
    (steps : List Navigation.Step) :
    ∃ e, parse (source head steps) = .ok e ∧
      ∀ {σ : Type} (host : Host σ) (context : Object) (run : Run σ),
        (Object.get? head.key context = none →
          e.evaluate host context run = (.error (.unknownKey head.key 1), run)) ∧
        ∀ v, Object.get? head.key context = some v →
          (∀ w, follow? steps v = some w → e.evaluate host context run = (.ok w, run)) ∧
          (follow? steps v = none ↔ ∃ before step u, StopsAt v steps before step u) ∧
          ∀ before step u, StopsAt v steps before step u →
            e.evaluate host context run =
              (.error (step.error ((source head before).length + 1) u), run) := by
  refine ⟨_, Navigation.parse_source head steps, fun host context run => ⟨fun hnone => ?_,
    fun v hv => ⟨fun w hw => ?_, Navigation.follow?_eq_none_iff, fun before step u h => ?_⟩⟩⟩
  · rw [Expr.evaluate_eq_error, Navigation.expr_tree, hnone]
    rfl
  · simp only [Expr.evaluate_eq_ok, Navigation.expr_tree, hv,
      Navigation.links_of_follow? host context _ hw]
    rfl
  · have hcolumn : (source head before).length + 1 =
        1 + head.chars.length + (before.flatMap Navigation.Step.chars).length := by
      rw [source, String.length_ofList, List.length_append]
      omega
    simp only [Expr.evaluate_eq_error, Navigation.expr_tree, hv,
      Navigation.links_of_stopsAt host context _ h, hcolumn]
    rfl

/-- The second of three steps cannot be followed, because there is one item only. -/
theorem navigation_agrees_with_path_lookup_outside :
    ∃ e, parse "a.b[07].c" = .ok e ∧
      e.evaluate (⟨fun _ _ s => (.ok .null, s)⟩ : Host Unit)
        [("a", .object [("b", .array [.object []])])] ⟨(), []⟩ =
          (.error (.outOfBounds 7 1 4), ⟨(), []⟩) := by
  have hword {c : Char} (h : Lexer.wordKind [c] = .identifier) :
      TokenKind.identifier.Names [c] := TokenKind.wordKind_eq_iff.1 h
  let head : Navigation.Name := ⟨'a', [], rfl, List.forall_mem_nil _, hword rfl⟩
  let entry : Navigation.Name := ⟨'b', [], rfl, List.forall_mem_nil _, hword rfl⟩
  let last : Navigation.Name := ⟨'c', [], rfl, List.forall_mem_nil _, hword rfl⟩
  let index : Navigation.Index :=
    ⟨'0', ['7'], rfl, List.forall_mem_singleton.2 rfl, by decide⟩
  have hstops : StopsAt (.object [("b", .array [.object []])])
      [.entry entry, .item index, .entry last] [.entry entry] (.item index)
      (.array [.object []]) := ⟨⟨[.entry last], rfl⟩, rfl, rfl⟩
  obtain ⟨e, hparse, heval⟩ :=
    navigation_agrees_with_path_lookup head [.entry entry, .item index, .entry last]
  have hcolumn : (source head [.entry entry]).length + 1 = 4 := by
    rw [source, String.length_ofList]
    rfl
  have herror := ((heval ⟨fun _ _ s => (.ok .null, s)⟩
    [("a", .object [("b", .array [.object []])])] ⟨(), []⟩).2 _ rfl).2.2 _ _ _ hstops
  rw [hcolumn] at herror
  exact ⟨e, hparse, herror⟩

end Parley
