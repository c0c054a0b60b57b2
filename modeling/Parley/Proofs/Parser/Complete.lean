import Parley.Expr.Parser
import Parley.Proofs.Grammar

/-!
# Every derivation is read

If a tree is a derivation of some tokens, then the reader, given these tokens and others behind
them, reads this very tree, meets no error and leaves the others over. The converse is in
`Parley.Proofs.Parser.Sound`.

Two things have to be arranged for this.

* **What follows must not go on with the expression.** The reader is greedy: it takes every
  link behind a name and every operator of a level it is reading. So the tokens behind have to
  be such that they stop it, which is `Parley.Parser.Stops`.
* **The budget must last.** Between two tokens the reader descends at most once through all the
  levels, so sixteen steps for each token and a constant for the way down to the first one are
  enough. `Parley.Parser.Reads` has the constant as a parameter.

The chain of the operators of one level is read from the left, with the tree read so far in
hand, while a derivation tree has the *last* operator at its root. The bridge between the two
is `Parley.Parser.Extends`: having read the left operand, the reader is in the same state as if
it had been handed that operand.
-/

namespace Parley

namespace Parsed

variable {α β : Type}

/-- Going on after a step without errors. -/
theorem andThen_of_no_errors (a : α) (rest : List Token) (next : α → List Token → Parsed β) :
    (⟨a, [], rest⟩ : Parsed α).andThen next = next a rest := rfl

theorem map_of_no_errors (f : α → β) (a : α) (rest : List Token) :
    (⟨a, [], rest⟩ : Parsed α).map f = ⟨f a, [], rest⟩ := rfl

end Parsed

namespace Parser

/-! ### What stops the reader -/

/-- The kinds of token that begin a link. -/
def opensLink : TokenKind → Bool
  | .period => true
  | .leftBracket => true
  | .leftParen => true
  | _ => false

/-- **The tokens stop an expression** of rank at most `n`: they begin neither with a link nor
with an operator of a level below that rank. -/
def Stops (n : Nat) (rest : List Token) : Prop :=
  ∀ t ∈ rest.head?, opensLink t.kind = false ∧ ∀ l : Level, l.accepts t.kind = true → n ≤ l.rank

theorem stops_nil (n : Nat) : Stops n [] := by
  intro t ht
  cases ht

theorem Stops.mono {m n : Nat} {rest : List Token} (h : Stops n rest) (hmn : m ≤ n) :
    Stops m rest :=
  fun t ht => ⟨(h t ht).1, fun l hl => Nat.le_trans hmn ((h t ht).2 l hl)⟩

/-- A closing bracket or a comma stops everything. -/
theorem stops_closer (n : Nat) {t : Token} (ht : isCloser t.kind = true) (rest : List Token) :
    Stops n (t :: rest) := by
  rintro _ ⟨⟩
  constructor
  · cases hk : t.kind <;> simp_all [isCloser, opensLink]
  · intro l hl
    cases l <;> cases hk : t.kind <;> simp_all [isCloser, Level.accepts]

/-- An operator stops the operands of its own level. -/
theorem stops_operator {l : Level} {op : Token} (hop : l.accepts op.kind = true)
    (rest : List Token) : Stops l.rank (op :: rest) := by
  rintro _ ⟨⟩
  constructor
  · cases l <;> cases hk : op.kind <;> simp_all [Level.accepts, opensLink]
  · intro m hm
    exact Nat.le_of_eq (congrArg Level.rank (Level.eq_of_accepts hop hm))

/-! ### Reading -/

/-- **A step reads** a value from some tokens: whenever they are followed by tokens that are
allowed there and the budget is large enough, it answers with the value and leaves over what
follows. -/
def Reads {α : Type} (step : Nat → List Token → Parsed α) (follows : List Token → Prop)
    (cost : Nat) (a : α) (us : List Token) : Prop :=
  ∀ (fuel : Nat) (rest : List Token), follows rest → 16 * us.length + cost ≤ fuel →
    step fuel (us ++ rest) = ⟨a, [], rest⟩

/-- A step that has spent one unit of its budget has the rest of it for what it calls. -/
theorem Reads.of_succ {α : Type} {step : Nat → List Token → Parsed α}
    {follows : List Token → Prop} {cost : Nat} {a : α} {us : List Token}
    (h : ∀ (fuel : Nat) (rest : List Token), follows rest → 16 * us.length + cost ≤ fuel →
      step (fuel + 1) (us ++ rest) = ⟨a, [], rest⟩) :
    Reads step follows (cost + 1) a us := by
  intro fuel rest hrest hfuel
  obtain ⟨fuel, rfl⟩ : ∃ f, fuel = f + 1 := ⟨fuel - 1, by omega⟩
  exact h fuel rest hrest (by omega)

variable (stop : Nat)

def ReadsNegation (e : Expr) (us : List Token) : Prop :=
  Reads (negation stop) (Stops 0) 2 e us

def ReadsOperand (l : Level) (e : Expr) (us : List Token) : Prop :=
  Reads (operand stop · l) (Stops l.rank) (2 * l.rank + 3) e us

def ReadsLevel (l : Level) (e : Expr) (us : List Token) : Prop :=
  Reads (level stop · l) (Stops (l.rank + 1)) (2 * l.rank + 4) e us

/-- **Reading an expression of a level is reading its first part and going on**, with what is
left of the budget. -/
def Extends (l : Level) (e : Expr) (us : List Token) : Prop :=
  ∀ (fuel : Nat) (rest : List Token), Stops l.rank rest →
    16 * us.length + (2 * l.rank + 4) ≤ fuel →
    ∃ fuel', fuel ≤ fuel' + us.length + 1 ∧
      level stop fuel l (us ++ rest) = chain stop fuel' l e rest

variable {stop}

theorem chain_of_stops {l : Level} {rest : List Token} (h : Stops (l.rank + 1) rest)
    (fuel : Nat) (left : Expr) : chain stop fuel l left rest = ⟨left, [], rest⟩ := by
  cases fuel with
  | zero => rfl
  | succ fuel =>
    cases rest with
    | nil => rfl
    | cons t rest =>
      -- an operator of the level would have a rank that is too small
      have hop : ¬l.accepts t.kind = true :=
        fun hop => Nat.not_succ_le_self _ ((h t rfl).2 l hop)
      rw [chain, if_neg hop]

theorem ReadsOperand.extends {l : Level} {e : Expr} {us : List Token}
    (h : ReadsOperand stop l e us) : Extends stop l e us := by
  intro fuel rest hrest hfuel
  obtain ⟨fuel, rfl⟩ : ∃ f, fuel = f + 1 := ⟨fuel - 1, by omega⟩
  have heq : operand stop fuel l (us ++ rest) = ⟨e, [], rest⟩ := h fuel rest hrest (by omega)
  refine ⟨fuel, by omega, ?_⟩
  rw [level, heq, Parsed.andThen_of_no_errors]

theorem Extends.readsLevel {l : Level} {e : Expr} {us : List Token}
    (h : Extends stop l e us) : ReadsLevel stop l e us := by
  intro fuel rest hrest hfuel
  obtain ⟨fuel', -, heq⟩ := h fuel rest (hrest.mono (Nat.le_succ _)) hfuel
  exact heq.trans (chain_of_stops hrest fuel' e)

/-- An operand of a level is an expression of the next tighter one, or a negation. -/
theorem readsOperand_of_tighter {l m : Level} {e : Expr} {us : List Token}
    (hl : l.tighter? = some m) (h : ReadsLevel stop m e us) : ReadsOperand stop l e us := by
  refine Reads.of_succ fun fuel rest hrest hfuel => ?_
  have hrank := Level.rank_of_tighter? hl
  rw [hrank] at hrest hfuel
  simp only [operand, hl]
  exact h fuel rest hrest (by omega)

theorem readsOperand_of_tightest {l : Level} {e : Expr} {us : List Token}
    (hl : l.tighter? = none) (h : ReadsNegation stop e us) : ReadsOperand stop l e us := by
  refine Reads.of_succ fun fuel rest hrest hfuel => ?_
  rw [Level.rank_of_tighter?_none hl] at hrest hfuel
  simp only [operand, hl]
  exact h fuel rest hrest (by omega)

theorem ReadsOperand.readsLevel {l : Level} {e : Expr} {us : List Token}
    (h : ReadsOperand stop l e us) : ReadsLevel stop l e us :=
  h.extends.readsLevel

section Looser

variable {e : Expr} {us : List Token} (hneg : e.rank = 0 → ReadsNegation stop e us)
  (hown : ∀ l : Level, e.rank = l.rank + 1 → ReadsLevel stop l e us)

include hneg hown

/-- **An expression is read at every level that is loose enough**, as soon as it is read at
its own: a term or a negation as such, any other expression at the level of its operator. -/
theorem readsOperand_looser (l : Level) (he : e.rank ≤ l.rank) : ReadsOperand stop l e us := by
  -- down the levels, until one is reached that is the expression's own, or the last one
  cases ht : l.tighter? with
  | none =>
    have hl := Level.rank_of_tighter?_none ht
    exact readsOperand_of_tightest ht (hneg (by omega))
  | some m =>
    have hm := Level.rank_of_tighter? ht
    refine readsOperand_of_tighter ht ?_
    rcases Nat.le_succ_iff.1 (hm ▸ he) with h | h
    · exact (readsOperand_looser m h).readsLevel
    · exact hown m h
termination_by l.rank

theorem readsLevel_looser (l : Level) (he : e.rank ≤ l.rank + 1) : ReadsLevel stop l e us := by
  rcases Nat.le_succ_iff.1 he with h | h
  · exact (readsOperand_looser hneg hown l h).readsLevel
  · exact hown l h

end Looser

/-! ### Two operands and an operator -/

section Binary

variable {l : Level} {left right : Expr} {op : Token} {us vs : List Token}

/-- The reader has the left operand in hand and goes on. -/
theorem chain_binary (hop : l.accepts op.kind = true) (hright : ReadsOperand stop l right vs)
    {fuel : Nat} {rest : List Token} (hrest : Stops l.rank rest)
    (hfuel : 16 * vs.length + (2 * l.rank + 3) ≤ fuel) :
    chain stop (fuel + 1) l left (op :: (vs ++ rest)) =
      if l.repeats then chain stop fuel l (.binary l left op right) rest
      else ⟨.binary l left op right, [], rest⟩ := by
  have heq : operand stop fuel l (vs ++ rest) = ⟨right, [], rest⟩ := hright fuel rest hrest hfuel
  rw [chain, if_pos hop, heq, Parsed.andThen_of_no_errors]

theorem Extends.binary (hrep : l.repeats = true) (hop : l.accepts op.kind = true)
    (hleft : Extends stop l left us) (hright : ReadsOperand stop l right vs) :
    Extends stop l (.binary l left op right) (us ++ op :: vs) := by
  intro fuel rest hrest hfuel
  simp only [List.length_append, List.length_cons] at hfuel
  -- the operator stops the left operand, and behind it the reader holds this operand
  obtain ⟨fuel', hle, heq⟩ :=
    hleft fuel (op :: (vs ++ rest)) (stops_operator hop _) (by omega)
  obtain ⟨fuel', rfl⟩ : ∃ f, fuel' = f + 1 := ⟨fuel' - 1, by omega⟩
  refine ⟨fuel', ?_, ?_⟩
  · simp only [List.length_append, List.length_cons]
    omega
  · rw [chain_binary hop hright hrest (by omega), if_pos hrep] at heq
    simpa only [List.append_assoc, List.cons_append] using heq

/-- An operator that may not be repeated ends the expression. -/
theorem Extends.binary_once (hrep : l.repeats = false) (hop : l.accepts op.kind = true)
    (hleft : Extends stop l left us) (hright : ReadsOperand stop l right vs) :
    ReadsLevel stop l (.binary l left op right) (us ++ op :: vs) := by
  intro fuel rest hrest hfuel
  simp only [List.length_append, List.length_cons] at hfuel
  obtain ⟨fuel', hle, heq⟩ :=
    hleft fuel (op :: (vs ++ rest)) (stops_operator hop _) (by omega)
  obtain ⟨fuel', rfl⟩ : ∃ f, fuel' = f + 1 := ⟨fuel' - 1, by omega⟩
  rw [chain_binary hop hright (hrest.mono (Nat.le_succ _)) (by omega),
    if_neg (by simp [hrep])] at heq
  simpa only [List.append_assoc, List.cons_append] using heq

end Binary

/-! ### Expressions -/

variable (stop) in
/-- **An expression is read** wherever its rank allows it to stand. -/
structure ReadsExpr (e : Expr) (us : List Token) : Prop where
  negation : e.rank = 0 → ReadsNegation stop e us
  operand (l : Level) : e.rank ≤ l.rank → ReadsOperand stop l e us
  level (l : Level) : e.rank ≤ l.rank + 1 → ReadsLevel stop l e us
  left (l : Level) : e.rank ≤ l.leftRank → Extends stop l e us

theorem readsExpr_of_negation {e : Expr} {us : List Token} (he : e.rank = 0)
    (h : ReadsNegation stop e us) : ReadsExpr stop e us := by
  -- it has no level of its own
  have hown : ∀ l : Level, e.rank = l.rank + 1 → ReadsLevel stop l e us :=
    fun l hl => absurd (he.symm.trans hl) (Nat.succ_ne_zero _).symm
  exact {
    negation := fun _ => h
    operand := readsOperand_looser (fun _ => h) hown
    level := readsLevel_looser (fun _ => h) hown
    left := fun l _ => (readsOperand_looser (fun _ => h) hown l (by omega)).extends }

theorem readsExpr_binary {l : Level} {left right : Expr} {op : Token} {us vs : List Token}
    (hop : l.accepts op.kind = true) (hleft : Extends stop l left us)
    (hright : ReadsOperand stop l right vs) :
    ReadsExpr stop (.binary l left op right) (us ++ op :: vs) := by
  have hneg : (Expr.binary l left op right).rank = 0 →
      ReadsNegation stop (.binary l left op right) (us ++ op :: vs) :=
    fun h => absurd h (Nat.succ_ne_zero _)
  have hown : ∀ m : Level, (Expr.binary l left op right).rank = m.rank + 1 →
      ReadsLevel stop m (.binary l left op right) (us ++ op :: vs) := by
    intro m hm
    obtain rfl : l = m := Level.rank_injective (Nat.succ.inj hm)
    cases hrep : l.repeats with
    | true => exact (hleft.binary hrep hop hright).readsLevel
    | false => exact hleft.binary_once hrep hop hright
  refine ⟨hneg, readsOperand_looser hneg hown, readsLevel_looser hneg hown, fun m hm => ?_⟩
  rcases Nat.le_succ_iff.1 (Nat.le_trans hm m.leftRank_le) with h | h
  · exact (readsOperand_looser hneg hown m h).extends
  · -- the rank is that of the level itself, which must then be one that may be repeated
    obtain rfl : l = m := Level.rank_injective (Nat.succ.inj h)
    have hrep : l.repeats = true := by
      cases hrep : l.repeats with
      | true => rfl
      | false =>
        rw [Level.leftRank, if_neg (by simp [hrep])] at hm
        exact absurd hm (Nat.not_succ_le_self _)
    exact hleft.binary hrep hop hright

/-! ### Terms, lists and links -/

theorem expect_of_kind {kind : TokenKind} {t : Token} (ht : t.kind = kind) (rest : List Token) :
    expect stop kind (t :: rest) = ⟨t, [], rest⟩ := by
  rw [expect, if_pos ht]

/-- The token that closes a list stands behind it. -/
def Closes (close : TokenKind) (rest : List Token) : Prop :=
  ∃ t rest', rest = t :: rest' ∧ t.kind = close

variable (stop)

def ReadsTerm (t : Term) (us : List Token) : Prop :=
  Reads (term stop) (Stops 0) 1 t us

def ReadsList (close : TokenKind) (es : List Term) (us : List Token) : Prop :=
  Reads (list stop · close) (Closes close) 2 es us

def ReadsMore (close : TokenKind) (es : List Term) (us : List Token) : Prop :=
  Reads (more stop) (Closes close) 0 es us

def ReadsChain (ls : List Link) (us : List Token) : Prop :=
  Reads (links stop) (Stops 0) 0 ls us

/-- A link is closed by a token of its own, so anything may follow. -/
def ReadsLink (l : Link) (us : List Token) : Prop :=
  ∀ (fuel : Nat) (rest : List Token), 16 * us.length ≤ fuel + 16 →
    links stop (fuel + 1) (us ++ rest) = (links stop fuel rest).map (l :: ·)

variable {stop}

/-- The kinds of token that begin a term. -/
def opensTerm : TokenKind → Bool
  | .string => true
  | .number => true
  | .keywordTrue => true
  | .keywordFalse => true
  | .identifier => true
  | .leftBracket => true
  | .leftParen => true
  | _ => false

/-- **A term has a first token**, and this token can begin one. -/
theorem exists_head {t : Term} {us : List Token} (h : t.DerivationOf us) :
    ∃ head tail, us = head :: tail ∧ opensTerm head.kind = true := by
  cases h with
  | string hk => exact ⟨_, _, rfl, by rw [hk]; rfl⟩
  | number hk => exact ⟨_, _, rfl, by rw [hk]; rfl⟩
  | boolean hk => exact ⟨_, _, rfl, by rcases hk with hk | hk <;> rw [hk] <;> rfl⟩
  | array hk _ _ => exact ⟨_, _, rfl, by rw [hk]; rfl⟩
  | group hk _ _ => exact ⟨_, _, rfl, by rw [hk]; rfl⟩
  | path hk _ => exact ⟨_, _, rfl, by rw [hk]; rfl⟩

theorem readsNegation_term {t : Term} {us : List Token} (ht : t.DerivationOf us)
    (h : ReadsTerm stop t us) : ReadsNegation stop (.term t) us := by
  refine Reads.of_succ fun fuel rest hrest hfuel => ?_
  have heq : term stop fuel (us ++ rest) = ⟨t, [], rest⟩ := h fuel rest hrest (by omega)
  obtain ⟨head, tail, rfl, hk⟩ := exists_head ht
  have hnot : head.kind ≠ .keywordNot := fun hc => by simp [hc, opensTerm] at hk
  rw [List.cons_append] at heq ⊢
  rw [negation, if_neg hnot, heq, Parsed.map_of_no_errors]

theorem ReadsNegation.negation {keyword : Token} {e : Expr} {us : List Token}
    (hk : keyword.kind = .keywordNot) (h : ReadsNegation stop e us) :
    ReadsNegation stop (.negation keyword e) (keyword :: us) := by
  refine Reads.of_succ fun fuel rest hrest hfuel => ?_
  rw [List.length_cons] at hfuel
  have heq : Parser.negation stop fuel (us ++ rest) = ⟨e, [], rest⟩ := h fuel rest hrest (by omega)
  rw [List.cons_append, Parser.negation, if_pos hk, heq, Parsed.map_of_no_errors]

theorem ReadsList.array {opening closing : Token} {es : List Term} {us : List Token}
    (ho : opening.kind = .leftBracket) (h : ReadsList stop .rightBracket es us)
    (hc : closing.kind = .rightBracket) :
    ReadsTerm stop (.array opening es closing) (opening :: (us ++ [closing])) := by
  refine Reads.of_succ fun fuel rest _ hfuel => ?_
  simp only [List.length_cons, List.length_append] at hfuel
  have heq : list stop fuel .rightBracket (us ++ closing :: rest) = ⟨es, [], closing :: rest⟩ :=
    h fuel _ ⟨closing, rest, rfl, hc⟩ (by omega)
  simp only [List.cons_append, List.append_assoc, List.nil_append, term, ho, heq,
    Parsed.andThen_of_no_errors, expect_of_kind hc, Parsed.map_of_no_errors]

theorem ReadsLevel.group {opening closing : Token} {inner : Expr} {us : List Token}
    (ho : opening.kind = .leftParen) (h : ReadsLevel stop .disjunction inner us)
    (hc : closing.kind = .rightParen) :
    ReadsTerm stop (.group opening inner closing) (opening :: (us ++ [closing])) := by
  refine Reads.of_succ fun fuel rest _ hfuel => ?_
  simp only [List.length_cons, List.length_append] at hfuel
  have heq : level stop fuel .disjunction (us ++ closing :: rest) = ⟨inner, [], closing :: rest⟩ :=
    h fuel _ (stops_closer _ (by rw [hc]; rfl) rest) (by simp only [Level.rank]; omega)
  simp only [List.cons_append, List.append_assoc, List.nil_append, term, ho, heq,
    Parsed.andThen_of_no_errors, expect_of_kind hc, Parsed.map_of_no_errors]

theorem ReadsChain.path {head : Token} {ls : List Link} {us : List Token}
    (hk : head.kind = .identifier) (h : ReadsChain stop ls us) :
    ReadsTerm stop (.path head ls) (head :: us) := by
  refine Reads.of_succ fun fuel rest hrest hfuel => ?_
  rw [List.length_cons] at hfuel
  have heq : links stop fuel (us ++ rest) = ⟨ls, [], rest⟩ := h fuel rest hrest (by omega)
  simp only [List.cons_append, term, hk, heq, Parsed.map_of_no_errors]

theorem readsList_nil (close : TokenKind) : ReadsList stop close [] [] := by
  refine Reads.of_succ ?_
  rintro fuel _ ⟨t, rest, rfl, ht⟩ -
  simp [list, ht]

theorem readsMore_nil {close : TokenKind} (hcomma : close ≠ .comma) :
    ReadsMore stop close [] [] := by
  rintro fuel _ ⟨t, rest, rfl, ht⟩ -
  have hk : ¬t.kind = .comma := ht ▸ hcomma
  cases fuel with
  | zero => rfl
  | succ fuel => rw [List.nil_append, more, if_neg hk]

section Lists

variable {close : TokenKind} (hclose : isCloser close = true)

include hclose

theorem stops_of_closes (n : Nat) {rest : List Token} (h : Closes close rest) : Stops n rest := by
  obtain ⟨t, rest, rfl, ht⟩ := h
  exact stops_closer n (by rw [ht]; exact hclose) rest

/-- What follows a term of a list stops it: either a comma or the token that closes the
list. -/
theorem stops_of_more {es : List Term} {us rest : List Token} (h : Term.MoreOf es us)
    (hrest : Closes close rest) : Stops 0 (us ++ rest) := by
  cases h with
  | nil => exact stops_of_closes hclose 0 hrest
  | cons hcomma _ _ => exact stops_closer 0 (by rw [hcomma]; rfl) _

theorem ReadsTerm.cons {t : Term} {es : List Term} {us vs : List Token} (ht : t.DerivationOf us)
    (hes : Term.MoreOf es vs) (h : ReadsTerm stop t us) (h' : ReadsMore stop close es vs) :
    ReadsList stop close (t :: es) (us ++ vs) := by
  refine Reads.of_succ fun fuel rest hrest hfuel => ?_
  rw [List.length_append] at hfuel
  have heq : term stop fuel (us ++ (vs ++ rest)) = ⟨t, [], vs ++ rest⟩ :=
    h fuel _ (stops_of_more hclose hes hrest) (by omega)
  have heq' : more stop fuel (vs ++ rest) = ⟨es, [], rest⟩ := h' fuel rest hrest (by omega)
  -- the list is not closed at once: its first token begins a term
  have hfirst : ¬((us ++ (vs ++ rest)).head?.map Token.kind) = some close := by
    obtain ⟨head, tail, rfl, hk⟩ := exists_head ht
    intro hc
    obtain rfl : head.kind = close := by simpa using hc
    cases hkind : head.kind <;> simp [hkind, opensTerm, isCloser] at hk hclose
  change list stop (fuel + 1) close (us ++ vs ++ rest) = _
  rw [List.append_assoc, list, if_neg hfirst, heq, Parsed.andThen_of_no_errors, heq',
    Parsed.map_of_no_errors]

theorem ReadsTerm.more {comma : Token} {t : Term} {es : List Term} {us vs : List Token}
    (hcomma : comma.kind = .comma) (hes : Term.MoreOf es vs) (h : ReadsTerm stop t us)
    (h' : ReadsMore stop close es vs) : ReadsMore stop close (t :: es) (comma :: (us ++ vs)) := by
  intro fuel rest hrest hfuel
  rw [List.length_cons, List.length_append] at hfuel
  obtain ⟨fuel, rfl⟩ : ∃ f, fuel = f + 1 := ⟨fuel - 1, by omega⟩
  have heq : term stop fuel (us ++ (vs ++ rest)) = ⟨t, [], vs ++ rest⟩ :=
    h fuel _ (stops_of_more hclose hes hrest) (by omega)
  have heq' : Parser.more stop fuel (vs ++ rest) = ⟨es, [], rest⟩ := h' fuel rest hrest (by omega)
  rw [List.cons_append, List.append_assoc, Parser.more, if_pos hcomma, heq,
    Parsed.andThen_of_no_errors, heq', Parsed.map_of_no_errors]

end Lists

theorem readsLink_entry {period name : Token} (hp : period.kind = .period)
    (hn : name.kind = .identifier) : ReadsLink stop (.entry period name) [period, name] := by
  intro fuel rest _
  simp only [List.cons_append, List.nil_append, links, hp, expect_of_kind hn,
    Parsed.andThen_of_no_errors]

theorem ReadsTerm.item {opening closing : Token} {index : Term} {us : List Token}
    (ho : opening.kind = .leftBracket) (h : ReadsTerm stop index us)
    (hc : closing.kind = .rightBracket) :
    ReadsLink stop (.item opening index closing) (opening :: (us ++ [closing])) := by
  intro fuel rest hfuel
  simp only [List.length_cons, List.length_append] at hfuel
  have heq : term stop fuel (us ++ closing :: rest) = ⟨index, [], closing :: rest⟩ :=
    h fuel _ (stops_closer 0 (by rw [hc]; rfl) rest) (by omega)
  simp only [List.cons_append, List.append_assoc, List.nil_append, links, ho, heq,
    Parsed.andThen_of_no_errors, expect_of_kind hc]

theorem ReadsList.call {opening closing : Token} {es : List Term} {us : List Token}
    (ho : opening.kind = .leftParen) (h : ReadsList stop .rightParen es us)
    (hc : closing.kind = .rightParen) :
    ReadsLink stop (.call opening es closing) (opening :: (us ++ [closing])) := by
  intro fuel rest hfuel
  simp only [List.length_cons, List.length_append] at hfuel
  have heq : list stop fuel .rightParen (us ++ closing :: rest) = ⟨es, [], closing :: rest⟩ :=
    h fuel _ ⟨closing, rest, rfl, hc⟩ (by omega)
  simp only [List.cons_append, List.append_assoc, List.nil_append, links, ho, heq,
    Parsed.andThen_of_no_errors, expect_of_kind hc]

theorem readsChain_nil : ReadsChain stop [] [] := by
  intro fuel rest hrest _
  cases fuel with
  | zero => rfl
  | succ fuel =>
    cases rest with
    | nil => rfl
    | cons t rest =>
      have hlink : opensLink t.kind = false := (hrest t rfl).1
      rw [List.nil_append, links]
      cases hk : t.kind <;> simp_all [opensLink]

theorem ReadsLink.cons {l : Link} {ls : List Link} {us vs : List Token} (hl : l.DerivationOf us)
    (h : ReadsLink stop l us) (h' : ReadsChain stop ls vs) :
    ReadsChain stop (l :: ls) (us ++ vs) := by
  intro fuel rest hrest hfuel
  -- a link has a token, which pays for the step
  have hpos : 0 < us.length := by cases hl <;> exact Nat.succ_pos _
  rw [List.length_append] at hfuel
  obtain ⟨fuel, rfl⟩ : ∃ f, fuel = f + 1 := ⟨fuel - 1, by omega⟩
  have heq : links stop fuel (vs ++ rest) = ⟨ls, [], rest⟩ := h' fuel rest hrest (by omega)
  rw [List.append_assoc, h fuel (vs ++ rest) (by omega), heq, Parsed.map_of_no_errors]

theorem readsTerm_token {t : Token} {value : Term}
    (h : ∀ fuel rest, term stop (fuel + 1) (t :: rest) = ⟨value, [], rest⟩) :
    ReadsTerm stop value [t] := by
  refine Reads.of_succ fun fuel rest _ _ => ?_
  exact h fuel rest

/-! ### All trees -/

variable (stop)

mutual

theorem readsExpr : ∀ (e : Expr) {us : List Token}, e.DerivationOf us → ReadsExpr stop e us
  | .term t, _, .term h =>
    readsExpr_of_negation rfl (readsNegation_term h (readsTerm t h))
  | .negation _ operand, _, .negation hk hr h =>
    readsExpr_of_negation rfl (((readsExpr operand h).negation hr).negation hk)
  | .binary l left _ right, _, .binary hop hl hr h h' =>
    readsExpr_binary hop ((readsExpr left h).left l hl) ((readsExpr right h').operand l hr)

theorem readsTerm : ∀ (t : Term) {us : List Token}, t.DerivationOf us → ReadsTerm stop t us
  | .string _, _, .string hk => readsTerm_token fun _ _ => by simp only [term, hk]
  | .number _, _, .number hk => readsTerm_token fun _ _ => by simp only [term, hk]
  | .boolean _, _, .boolean hk =>
    readsTerm_token fun _ _ => by rcases hk with hk | hk <;> simp only [term, hk]
  | .array _ elements _, _, .array ho h hc => (readsList rfl (by decide) elements h).array ho hc
  | .group _ inner _, _, .group ho h hc =>
    ((readsExpr inner h).level .disjunction inner.rank_le).group ho hc
  | .path _ ls, _, .path hk h => (readsChain ls h).path hk

theorem readsList {close : TokenKind} (hclose : isCloser close = true) (hcomma : close ≠ .comma) :
    ∀ (es : List Term) {us : List Token}, Term.ListOf es us → ReadsList stop close es us
  | [], _, .nil => readsList_nil close
  | t :: more, _, .cons h hm =>
    (readsTerm t h).cons hclose h hm (readsMore hclose hcomma more hm)

theorem readsMore {close : TokenKind} (hclose : isCloser close = true) (hcomma : close ≠ .comma) :
    ∀ (es : List Term) {us : List Token}, Term.MoreOf es us → ReadsMore stop close es us
  | [], _, .nil => readsMore_nil hcomma
  | t :: more, _, .cons hk h hm =>
    (readsTerm t h).more hclose hk hm (readsMore hclose hcomma more hm)

theorem readsChain : ∀ (ls : List Link) {us : List Token}, Link.ChainOf ls us →
    ReadsChain stop ls us
  | [], _, .nil => readsChain_nil
  | l :: ls, _, .cons h hs => (readsLink l h).cons h (readsChain ls hs)

theorem readsLink : ∀ (l : Link) {us : List Token}, l.DerivationOf us → ReadsLink stop l us
  | .entry _ _, _, .entry hp hn => readsLink_entry hp hn
  | .item _ index _, _, .item ho h hc => (readsTerm index h).item ho hc
  | .call _ arguments _, _, .call ho h hc => (readsList rfl (by decide) arguments h).call ho hc

end

end Parser

end Parley
