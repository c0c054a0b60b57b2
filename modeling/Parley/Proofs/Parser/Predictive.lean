import Parley.Proofs.Parser.Accepts

/-!
# The first error is where no sentence goes on

The reader looks one token ahead and never goes back. So what a step makes of its tokens is
settled by those it takes and the next one: it reads a value from them, or it meets its first
error in front of the next one, and in both cases it does the same with any other tokens
behind (`Parley.Parser.Predicts`).

Where it meets an error, the tokens it has taken are the beginning of something it could have
read, because each part of a rule that is under way can be completed. And with the next token
they are not, because with any completion behind this token the reader would meet the same
error, while by completeness it meets none in a sentence. Together this says that the first
error is at the first token with which the tokens are no longer the beginning of a sentence
(`Parley.first_error_is_where_no_sentence_goes_on`).

The induction is on the tokens that are left and on the way down through the levels, which is
measured by the budget that a step needs.
-/

namespace Parley

namespace Grammar

/-- The kinds can be continued to a sentence: **they are a viable prefix**. -/
def Viable (ks : List TokenKind) : Prop :=
  ∃ ls, Derivable (ks ++ ls)

/-- The first `k` of the kinds can be continued to a sentence, and with the next one they
cannot. -/
def BreaksAt (ks : List TokenKind) (k : Nat) : Prop :=
  Viable (ks.take k) ∧ ¬Viable (ks.take (k + 1))

/-- What is in front of a viable prefix is one, too. -/
theorem Viable.shorten {ks ls : List TokenKind} (h : Viable ls) (hpre : ks <+: ls) :
    Viable ks := by
  obtain ⟨ms, rfl⟩ := hpre
  obtain ⟨ns, hd⟩ := h
  exact ⟨ms ++ ns, by rwa [List.append_assoc] at hd⟩

/-- **There is at most one place** where the kinds stop being a viable prefix. -/
theorem BreaksAt.eq {ks : List TokenKind} {k m : Nat} (hk : BreaksAt ks k) (hm : BreaksAt ks m) :
    k = m := by
  have hle : ∀ {i j : Nat}, BreaksAt ks i → BreaksAt ks j → i ≤ j := by
    intro i j hi hj
    refine Nat.le_of_not_lt fun hlt => hj.2 ?_
    exact hi.1.shorten (List.take_prefix_take_left hlt)
  exact Nat.le_antisymm (hle hk hm) (hle hm hk)

end Grammar

namespace Parser

variable {α β : Type}

/-- A step of the reader is given the column behind the last token, a budget and the tokens. -/
abbrev Step (α : Type) := Nat → Nat → List Token → Parsed α

/-- One step after another, with the same budget. -/
def Step.andThen (first : Step α) (next : α → Step β) : Step β :=
  fun stop fuel ts => (first stop fuel ts).andThen fun a rest => next a stop fuel rest

/-- The same step, to be used for a larger piece. -/
def Step.map (f : α → β) (step : Step α) : Step β :=
  fun stop fuel ts => (step stop fuel ts).map f

/-! ### One token ahead -/

/-- The step reads the value from the tokens, whatever stands behind the next one. -/
def Takes (step : Step α) (cost : Nat) (a : α) (us : List Token) (next : Option Token) : Prop :=
  ∀ stop, Reads (step stop) (·.head? = next) cost a us

/-- The step meets its first error behind the tokens, whatever stands behind the next one. -/
def Stumbles (step : Step α) (cost : Nat) (us : List Token) (next : Option Token) : Prop :=
  ∀ (stop fuel : Nat) (rest : List Token), rest.head? = next → 16 * us.length + cost ≤ fuel →
    ∃ e es, (step stop fuel (us ++ rest)).errors = e :: es ∧ e.column = nextColumn stop rest

/-- **What a step makes of the tokens is settled one token ahead**, where the relation `R` says
what a value is read from: it reads one, or it stumbles over tokens that could be continued. -/
def Predicts (step : Step α) (cost : Nat) (R : α → List Token → Prop) (ts : List Token) : Prop :=
  ∃ us rest, ts = us ++ rest ∧
    ((∃ a, R a us ∧ Takes step cost a us rest.head?) ∨
      ((∃ a ws, R a (us ++ ws)) ∧ Stumbles step cost us rest.head?))

/-- The first token does not depend on what is behind the next one. -/
theorem head?_append_congr {us rest rest' : List Token} (h : rest.head? = rest'.head?) :
    (us ++ rest).head? = (us ++ rest').head? := by
  cases us with
  | nil => exact h
  | cons u us => rfl

namespace Predicts

variable {step body : Step α} {cost : Nat} {R : α → List Token → Prop} {S : β → List Token → Prop}
  {ts : List Token}

/-- A step that takes nothing. -/
theorem pure {a : α} (hR : R a [])
    (h : ∀ stop fuel rest, rest.head? = ts.head? → cost ≤ fuel →
      step stop fuel rest = ⟨a, [], rest⟩) : Predicts step cost R ts := by
  refine ⟨[], ts, rfl, .inl ⟨a, hR, fun stop fuel rest hrest hfuel => ?_⟩⟩
  exact h stop fuel rest hrest (by simpa using hfuel)

/-- A step that stumbles over the next token. -/
theorem stuck (hR : ∃ a ws, R a ws)
    (h : ∀ stop fuel rest, rest.head? = ts.head? → cost ≤ fuel →
      ∃ e es, (step stop fuel rest).errors = e :: es ∧ e.column = nextColumn stop rest) :
    Predicts step cost R ts := by
  refine ⟨[], ts, rfl, .inr ⟨hR, fun stop fuel rest hrest hfuel => ?_⟩⟩
  exact h stop fuel rest hrest (by simpa using hfuel)

/-- A larger budget does no harm. -/
theorem mono {cost' : Nat} (h : Predicts step cost R ts) (hcost : cost ≤ cost') :
    Predicts step cost' R ts := by
  obtain ⟨us, rest, rfl, ⟨a, hR, htakes⟩ | ⟨hR, hstumbles⟩⟩ := h
  · exact ⟨us, rest, rfl, .inl ⟨a, hR, fun stop fuel rest' hrest hfuel =>
      htakes stop fuel rest' hrest (by omega)⟩⟩
  · exact ⟨us, rest, rfl, .inr ⟨hR, fun stop fuel rest' hrest hfuel =>
      hstumbles stop fuel rest' hrest (by omega)⟩⟩

/-- A step that goes on with another one, which depends at most on the next token. -/
theorem of_succ (heq : ∀ stop fuel rest, rest.head? = ts.head? →
      step stop (fuel + 1) rest = body stop fuel rest) (h : Predicts body cost R ts) :
    Predicts step (cost + 1) R ts := by
  obtain ⟨us, rest, rfl, ⟨a, hR, htakes⟩ | ⟨hR, hstumbles⟩⟩ := h
  · refine ⟨us, rest, rfl, .inl ⟨a, hR, fun stop => Reads.of_succ fun fuel rest' hrest hfuel => ?_⟩⟩
    rw [heq stop fuel _ (head?_append_congr hrest)]
    exact htakes stop fuel rest' hrest hfuel
  · refine ⟨us, rest, rfl, .inr ⟨hR, fun stop fuel rest' hrest hfuel => ?_⟩⟩
    obtain ⟨fuel, rfl⟩ : ∃ f, fuel = f + 1 := ⟨fuel - 1, by omega⟩
    rw [heq stop fuel _ (head?_append_congr hrest)]
    exact hstumbles stop fuel rest' hrest (by omega)

/-- A step that takes a token and goes on behind it. The token pays for fifteen more steps. -/
theorem cons {t : Token} {cost' : Nat}
    (heq : ∀ stop fuel rest, step stop (fuel + 1) (t :: rest) = body stop fuel rest)
    (hcost : cost ≤ cost' + 15) (h : Predicts body cost (fun a us => R a (t :: us)) ts) :
    Predicts step cost' R (t :: ts) := by
  obtain ⟨us, rest, rfl, ⟨a, hR, htakes⟩ | ⟨⟨a, ws, hR⟩, hstumbles⟩⟩ := h
  · refine ⟨t :: us, rest, rfl, .inl ⟨a, hR, fun stop fuel rest' hrest hfuel => ?_⟩⟩
    rw [List.length_cons] at hfuel
    obtain ⟨fuel, rfl⟩ : ∃ f, fuel = f + 1 := ⟨fuel - 1, by omega⟩
    exact (heq stop fuel _).trans (htakes stop fuel rest' hrest (by omega))
  · refine ⟨t :: us, rest, rfl, .inr ⟨⟨a, ws, hR⟩, fun stop fuel rest' hrest hfuel => ?_⟩⟩
    rw [List.length_cons] at hfuel
    obtain ⟨fuel, rfl⟩ : ∃ f, fuel = f + 1 := ⟨fuel - 1, by omega⟩
    rw [List.cons_append, heq stop fuel]
    exact hstumbles stop fuel rest' hrest (by omega)

theorem map {f : α → β} (h : Predicts step cost R ts) (hf : ∀ a us, R a us → S (f a) us) :
    Predicts (Step.map f step) cost S ts := by
  obtain ⟨us, rest, rfl, ⟨a, hR, htakes⟩ | ⟨⟨a, ws, hR⟩, hstumbles⟩⟩ := h
  · refine ⟨us, rest, rfl, .inl ⟨f a, hf a us hR, fun stop fuel rest' hrest hfuel => ?_⟩⟩
    change (step stop fuel (us ++ rest')).map f = _
    rw [htakes stop fuel rest' hrest hfuel, Parsed.map_of_no_errors]
  · exact ⟨us, rest, rfl, .inr ⟨⟨f a, ws, hf a _ hR⟩, hstumbles⟩⟩

/-- **One step after another.** What the first one has read must be the beginning of what both
read together. -/
theorem andThen {next : α → Step β} (h : Predicts step cost R ts)
    (hopen : ∀ a us, R a us → ∃ b ws, S b (us ++ ws))
    (hnext : ∀ a us rest, rest.length ≤ ts.length → R a us →
      Predicts (next a) cost (fun b vs => S b (us ++ vs)) rest) :
    Predicts (Step.andThen step next) cost S ts := by
  obtain ⟨us, rest, rfl, ⟨a, hR, htakes⟩ | ⟨⟨a, ws, hR⟩, hstumbles⟩⟩ := h
  · obtain ⟨vs, rest, rfl, hsecond⟩ := hnext a us rest (by simp) hR
    -- the first step is the same for all that may stand behind the second one
    have hfirst : ∀ stop fuel rest', rest'.head? = rest.head? →
        16 * (us ++ vs).length + cost ≤ fuel →
        Step.andThen step next stop fuel (us ++ vs ++ rest') = next a stop fuel (vs ++ rest') := by
      intro stop fuel rest' hrest hfuel
      rw [List.length_append] at hfuel
      have hstep := htakes stop fuel (vs ++ rest') (head?_append_congr hrest) (by omega)
      rw [Step.andThen, List.append_assoc, hstep, Parsed.andThen_of_no_errors]
    refine ⟨us ++ vs, rest, (List.append_assoc _ _ _).symm, ?_⟩
    rcases hsecond with ⟨b, hS, htakes'⟩ | ⟨⟨b, ws, hS⟩, hstumbles'⟩
    · refine .inl ⟨b, hS, fun stop fuel rest' hrest hfuel => ?_⟩
      refine (hfirst stop fuel rest' hrest hfuel).trans ?_
      rw [List.length_append] at hfuel
      exact htakes' stop fuel rest' hrest (by omega)
    · refine .inr ⟨⟨b, ws, by rwa [List.append_assoc]⟩, fun stop fuel rest' hrest hfuel => ?_⟩
      rw [hfirst stop fuel rest' hrest hfuel]
      rw [List.length_append] at hfuel
      exact hstumbles' stop fuel rest' hrest (by omega)
  · obtain ⟨b, ws', hS⟩ := hopen a _ hR
    refine ⟨us, rest, rfl, .inr ⟨⟨b, ws ++ ws', by rwa [List.append_assoc] at hS⟩, ?_⟩⟩
    intro stop fuel rest' hrest hfuel
    obtain ⟨e, es, herrors, hcolumn⟩ := hstumbles stop fuel rest' hrest hfuel
    rw [Step.andThen, Parsed.errors_andThen, herrors, List.cons_append]
    exact ⟨e, _, rfl, hcolumn⟩

end Predicts

/-! ### What is due -/

/-- **The token that is due** is there, or it is what is missing. -/
theorem expect_predicts (kind : TokenKind) (ts : List Token) (cost : Nat) :
    Predicts (fun stop _ ts => expect stop kind ts) cost (fun t us => t.kind = kind ∧ us = [t])
      ts := by
  have hdue : ∃ (t : Token) (ws : List Token), t.kind = kind ∧ ws = [t] :=
    ⟨⟨kind, "", 0⟩, _, rfl, rfl⟩
  cases ts with
  | nil =>
    refine .stuck hdue fun stop fuel rest hrest _ => ?_
    rw [List.head?_eq_none_iff.1 hrest]
    exact ⟨_, _, rfl, rfl⟩
  | cons t ts =>
    by_cases hk : t.kind = kind
    · refine ⟨[t], ts, rfl, .inl ⟨t, ⟨hk, rfl⟩, fun stop fuel rest _ _ => ?_⟩⟩
      exact expect_of_kind hk rest
    · refine .stuck hdue fun stop fuel rest hrest _ => ?_
      obtain ⟨rest, rfl⟩ := List.head?_eq_some_iff.1 hrest
      rw [expect, if_neg hk]
      exact ⟨_, _, rfl, rfl⟩

/-- **A part in brackets**: behind it the closing one is due. -/
theorem Predicts.closed {inner : Step α} {cost : Nat} {R : α → List Token → Prop}
    {S : β → List Token → Prop} {ts : List Token} {close : TokenKind} {make : α → Token → β}
    (h : Predicts inner cost R ts)
    (hmake : ∀ a us closing, R a us → closing.kind = close → S (make a closing) (us ++ [closing])) :
    Predicts (Step.andThen inner fun a => Step.map (make a) fun stop _ ts => expect stop close ts)
      cost S ts := by
  refine h.andThen ?_ ?_
  · intro a us ha
    exact ⟨_, [⟨close, "", 0⟩], hmake a us ⟨close, "", 0⟩ ha rfl⟩
  · intro a us rest _ ha
    refine (expect_predicts close rest cost).map ?_
    rintro closing _ ⟨hc, rfl⟩
    exact hmake a us closing ha hc

/-- A value that is due can always be supplied, by a name. -/
theorem exists_derivationOf : ∃ (t : Term) (ws : List Token), t.DerivationOf ws :=
  ⟨.path ⟨.identifier, "", 0⟩ [], _, .path rfl .nil⟩

/-- **Where a value is due** and none begins, it is missing. -/
theorem missingValue_predicts {step : Step Term} {cost : Nat} {ts : List Token}
    (h : ∀ stop fuel rest, rest.head? = ts.head? → cost ≤ fuel →
      step stop fuel rest = missingValue stop rest) : Predicts step cost Term.DerivationOf ts := by
  refine .stuck exists_derivationOf fun stop fuel rest hrest hfuel => ?_
  rw [h stop fuel rest hrest hfuel]
  cases rest with
  | nil => exact ⟨_, _, rfl, rfl⟩
  | cons t rest => exact ⟨_, _, rfl, rfl⟩

/-- **A link in brackets** and the links behind it. -/
theorem bracketed_predicts {inner : Step α} {cost : Nat} {R : α → List Token → Prop}
    {t : Token} {ts : List Token} {close : TokenKind} {make : α → Token → Link}
    (h : Predicts inner cost R ts)
    (hmake : ∀ a us closing, R a us → closing.kind = close →
      (make a closing).DerivationOf (t :: (us ++ [closing])))
    (hlinks : ∀ rest : List Token, rest.length ≤ ts.length → Predicts links 0 Link.ChainOf rest) :
    Predicts (Step.andThen inner fun a =>
        Step.andThen (fun stop _ ts => expect stop close ts) fun closing =>
          Step.map (make a closing :: ·) links)
      cost (fun ls us => Link.ChainOf ls (t :: us)) ts := by
  have hchain : ∀ {a us} (closing : Token) {ls vs}, R a us → closing.kind = close →
      Link.ChainOf ls vs →
      Link.ChainOf (make a closing :: ls) (t :: (us ++ ([closing] ++ vs))) := by
    intro a us closing ls vs ha hc hls
    have hcons := Link.ChainOf.cons (hmake a us closing ha hc) hls
    rwa [List.cons_append, List.append_assoc] at hcons
  refine h.andThen ?_ ?_
  · intro a us ha
    exact ⟨_, [⟨close, "", 0⟩], hchain ⟨close, "", 0⟩ ha rfl .nil⟩
  · intro a us rest hlen ha
    refine .andThen (expect_predicts close rest cost) ?_ ?_
    · rintro closing _ ⟨hc, rfl⟩
      exact ⟨_, [], hchain closing ha hc .nil⟩
    · rintro closing _ rest' hlen' ⟨hc, rfl⟩
      have hrest := hlinks rest' (Nat.le_trans hlen' hlen)
      exact (hrest.mono (Nat.zero_le _)).map fun ls vs hls => hchain closing ha hc hls

/-! ### The steps of the reader

Each step is put together from others in the way it is defined. In every sequence, what the
first part has read must be shown to be the beginning of what is read as a whole. -/

/-- The expression is a derivation of the tokens, and its rank is at most `n`. -/
def DerivesWithin (n : Nat) (e : Expr) (us : List Token) : Prop :=
  e.rank ≤ n ∧ e.DerivationOf us

mutual

theorem level_predicts (l : Level) (ts : List Token) :
    Predicts (level · · l ·) (2 * l.rank + 4) (DerivesWithin (l.rank + 1)) ts := by
  have hparts : Predicts (Step.andThen (operand · · l ·) fun left => (chain · · l left ·))
      (2 * l.rank + 3) (DerivesWithin (l.rank + 1)) ts := by
    refine .andThen (operand_predicts l ts) ?_ ?_
    · rintro left us ⟨hr, hd⟩
      exact ⟨left, [], Nat.le_succ_of_le hr, by rwa [List.append_nil]⟩
    · rintro left us rest hlen ⟨hr, hd⟩
      have hchain := chain_predicts l left us rest (Nat.le_trans hr l.rank_le_leftRank) hd
      exact hchain.mono (Nat.zero_le _)
  exact hparts.of_succ fun _ _ _ _ => rfl
termination_by 16 * ts.length + (2 * l.rank + 4)

theorem operand_predicts (l : Level) (ts : List Token) :
    Predicts (operand · · l ·) (2 * l.rank + 3) (DerivesWithin l.rank) ts := by
  cases hl : l.tighter? with
  | some m =>
    have hrank := Level.rank_of_tighter? hl
    have hlevel : Predicts (operand · · l ·) (2 * m.rank + 4 + 1) (DerivesWithin (m.rank + 1)) ts :=
      (level_predicts m ts).of_succ fun _ _ _ _ => by simp only [operand, hl]
    rw [hrank]
    exact hlevel
  | none =>
    have hneg : Predicts (operand · · l ·) (2 + 1) (DerivesWithin 0) ts :=
      (negation_predicts ts).of_succ fun _ _ _ _ => by simp only [operand, hl]
    rw [Level.rank_of_tighter?_none hl]
    exact hneg
termination_by 16 * ts.length + (2 * l.rank + 3)

theorem chain_predicts (l : Level) (left : Expr) (us ts : List Token)
    (hl : left.rank ≤ l.leftRank) (hd : left.DerivationOf us) :
    Predicts (chain · · l left ·) 0 (fun e vs => DerivesWithin (l.rank + 1) e (us ++ vs)) ts := by
  have hleft : DerivesWithin (l.rank + 1) left (us ++ []) :=
    ⟨Nat.le_trans hl l.leftRank_le, by rwa [List.append_nil]⟩
  match ts with
  | [] =>
    refine .pure hleft fun stop fuel rest hrest _ => ?_
    rw [List.head?_eq_none_iff.1 hrest]
    cases fuel <;> rfl
  | op :: ts =>
    have hrank : 2 * l.rank + 3 ≤ 0 + 15 := by cases l <;> decide
    by_cases hop : l.accepts op.kind = true
    · have hparts : Predicts (Step.andThen (operand · · l ·) fun right stop fuel rest =>
            if l.repeats then chain stop fuel l (.binary l left op right) rest
            else ⟨.binary l left op right, [], rest⟩)
          (2 * l.rank + 3) (fun e vs => DerivesWithin (l.rank + 1) e (us ++ op :: vs)) ts := by
        refine .andThen (operand_predicts l ts) ?_ ?_
        · rintro right vs ⟨hr, hd'⟩
          refine ⟨.binary l left op right, [], Nat.le_refl _, ?_⟩
          rw [List.append_nil]
          exact .binary hop hl hr hd hd'
        · rintro right vs rest hlen ⟨hr, hd'⟩
          -- what has been read so far is the left operand of what follows
          have hbinary : (Expr.binary l left op right).DerivationOf (us ++ op :: vs) :=
            .binary hop hl hr hd hd'
          cases hrep : l.repeats with
          | true =>
            have hrank : (Expr.binary l left op right).rank ≤ l.leftRank := by
              rw [Level.leftRank, if_pos hrep]
              exact Nat.le_refl _
            have hchain := chain_predicts l _ (us ++ op :: vs) rest hrank hbinary
            simp only [if_true]
            simpa only [List.append_assoc, List.cons_append] using hchain.mono (Nat.zero_le _)
          | false =>
            refine .pure ⟨Nat.le_refl _, by rwa [List.append_nil]⟩ fun _ _ _ _ _ => ?_
            simp
      exact hparts.cons (fun _ _ _ => by rw [chain, if_pos hop]; rfl) hrank
    · refine .pure hleft fun stop fuel rest hrest _ => ?_
      obtain ⟨rest, rfl⟩ := List.head?_eq_some_iff.1 hrest
      cases fuel with
      | zero => rfl
      | succ fuel => rw [chain, if_neg hop]
termination_by 16 * ts.length

theorem negation_predicts (ts : List Token) :
    Predicts negation 2 (DerivesWithin 0) ts := by
  by_cases hnot : ts.head?.map Token.kind = some .keywordNot
  · obtain ⟨t, hhead, hk⟩ := Option.map_eq_some_iff.1 hnot
    obtain ⟨ts', hts⟩ := List.head?_eq_some_iff.1 hhead
    have hlength : ts.length = ts'.length + 1 := congrArg List.length hts
    have hparts : Predicts (Step.map (Expr.negation t) negation) 2
        (fun e us => DerivesWithin 0 e (t :: us)) ts' :=
      (negation_predicts ts').map fun e us ⟨hr, hd⟩ =>
        ⟨Nat.le_refl _, .negation hk (Nat.le_zero.1 hr) hd⟩
    rw [hts]
    exact hparts.cons (fun _ _ _ => by rw [negation, if_pos hk]; rfl) (by omega)
  · have hparts : Predicts (Step.map Expr.term term) 1 (DerivesWithin 0) ts :=
      (term_predicts ts).map fun t us h => ⟨Nat.le_refl _, .term h⟩
    refine hparts.of_succ fun stop fuel rest hrest => ?_
    rw [← hrest] at hnot
    cases rest with
    | nil => rfl
    | cons t rest =>
      rw [negation, if_neg (by simpa using hnot)]
      rfl
termination_by 16 * ts.length + 2

theorem term_predicts (ts : List Token) : Predicts term 1 Term.DerivationOf ts := by
  have hmissing : (∀ t ∈ ts.head?, opensTerm t.kind = false) →
      Predicts term 1 Term.DerivationOf ts := by
    intro hclosed
    refine missingValue_predicts fun stop fuel rest hrest hfuel => ?_
    obtain ⟨fuel, rfl⟩ : ∃ f, fuel = f + 1 := ⟨fuel - 1, by omega⟩
    rw [← hrest] at hclosed
    cases rest with
    | nil => rfl
    | cons t rest =>
      have hk := hclosed t rfl
      rw [term]
      cases hkind : t.kind <;> simp_all [opensTerm]
  match ts with
  | [] => exact hmissing (by simp)
  | t :: ts =>
    have htoken : ∀ a : Term, a.DerivationOf [t] →
        (∀ stop fuel rest, term stop (fuel + 1) (t :: rest) = ⟨a, [], rest⟩) →
        Predicts term 1 Term.DerivationOf (t :: ts) := by
      intro a ha heq
      refine ⟨[t], ts, rfl, .inl ⟨a, ha, fun stop fuel rest _ hfuel => ?_⟩⟩
      obtain ⟨fuel, rfl⟩ : ∃ f, fuel = f + 1 := ⟨fuel - 1, by simp at hfuel; omega⟩
      exact heq stop fuel rest
    cases hk : t.kind
    case string => exact htoken _ (.string hk) fun _ _ _ => by simp only [term, hk]
    case number => exact htoken _ (.number hk) fun _ _ _ => by simp only [term, hk]
    case keywordTrue => exact htoken _ (.boolean (.inl hk)) fun _ _ _ => by simp only [term, hk]
    case keywordFalse => exact htoken _ (.boolean (.inr hk)) fun _ _ _ => by simp only [term, hk]
    case identifier =>
      have hparts : Predicts (Step.map (Term.path t) links) 0
          (fun a us => a.DerivationOf (t :: us)) ts :=
        (links_predicts ts).map fun ls us h => .path hk h
      exact hparts.cons (fun _ _ _ => by simp only [term, hk]; rfl) (by omega)
    case leftBracket =>
      have hparts : Predicts (Step.andThen (list · · .rightBracket ·) fun elements =>
            Step.map (Term.array t elements) fun stop _ ts => expect stop .rightBracket ts) 2
          (fun a us => a.DerivationOf (t :: us)) ts :=
        (list_predicts .rightBracket ts).closed fun elements us closing h hc => .array hk h hc
      exact hparts.cons (fun _ _ _ => by simp only [term, hk]; rfl) (by omega)
    case leftParen =>
      have hparts : Predicts (Step.andThen (level · · .disjunction ·) fun inner =>
            Step.map (Term.group t inner) fun stop _ ts => expect stop .rightParen ts)
          (2 * Level.disjunction.rank + 4) (fun a us => a.DerivationOf (t :: us)) ts :=
        (level_predicts .disjunction ts).closed fun inner us closing h hc => .group hk h.2 hc
      exact hparts.cons (fun _ _ _ => by simp only [term, hk]; rfl) (by decide)
    all_goals exact hmissing (by simp [hk, opensTerm])
termination_by 16 * ts.length + 1
decreasing_by
  all_goals
    simp only [List.length_cons, Level.rank]
    omega

theorem list_predicts (close : TokenKind) (ts : List Token) :
    Predicts (list · · close ·) 2 Term.ListOf ts := by
  by_cases hclose : ts.head?.map Token.kind = some close
  · refine .pure .nil fun stop fuel rest hrest hfuel => ?_
    obtain ⟨fuel, rfl⟩ : ∃ f, fuel = f + 1 := ⟨fuel - 1, by omega⟩
    rw [← hrest] at hclose
    rw [list, if_pos hclose]
  · have hparts : Predicts (Step.andThen term fun first => Step.map (first :: ·) more) 1
        Term.ListOf ts := by
      refine .andThen (term_predicts ts) ?_ ?_
      · intro first us h
        exact ⟨_, [], .cons h .nil⟩
      · intro first us rest hlen h
        exact ((more_predicts rest).mono (Nat.zero_le _)).map fun es vs hes => .cons h hes
    refine hparts.of_succ fun stop fuel rest hrest => ?_
    rw [← hrest] at hclose
    rw [list, if_neg hclose]
    rfl
termination_by 16 * ts.length + 2

theorem more_predicts (ts : List Token) : Predicts more 0 Term.MoreOf ts := by
  by_cases hcomma : ts.head?.map Token.kind = some .comma
  · obtain ⟨t, hhead, hk⟩ := Option.map_eq_some_iff.1 hcomma
    obtain ⟨ts', hts⟩ := List.head?_eq_some_iff.1 hhead
    have hlength : ts.length = ts'.length + 1 := congrArg List.length hts
    have hparts : Predicts (Step.andThen term fun next => Step.map (next :: ·) more) 1
        (fun es us => Term.MoreOf es (t :: us)) ts' := by
      refine .andThen (term_predicts ts') ?_ ?_
      · intro next us h
        exact ⟨_, [], .cons hk h .nil⟩
      · intro next us rest hlen h
        exact ((more_predicts rest).mono (Nat.zero_le _)).map fun es vs hes => .cons hk h hes
    rw [hts]
    exact hparts.cons (fun _ _ _ => by rw [more, if_pos hk]; rfl) (by omega)
  · refine .pure .nil fun stop fuel rest hrest _ => ?_
    rw [← hrest] at hcomma
    cases fuel with
    | zero => rfl
    | succ fuel =>
      cases rest with
      | nil => rfl
      | cons t rest => rw [more, if_neg (by simpa using hcomma)]
termination_by 16 * ts.length

theorem links_predicts (ts : List Token) : Predicts links 0 Link.ChainOf ts := by
  have hdone : (∀ t ∈ ts.head?, opensLink t.kind = false) → Predicts links 0 Link.ChainOf ts := by
    intro hno
    refine .pure .nil fun stop fuel rest hrest _ => ?_
    rw [← hrest] at hno
    cases fuel with
    | zero => rfl
    | succ fuel =>
      cases rest with
      | nil => rfl
      | cons t rest =>
        have hk := hno t rfl
        rw [links]
        cases hkind : t.kind <;> simp_all [opensLink]
  match ts with
  | [] => exact hdone (by simp)
  | t :: ts =>
    cases hk : t.kind
    case period =>
      have hparts : Predicts (Step.andThen (fun stop _ ts => expect stop .identifier ts) fun name =>
            Step.map (Link.entry t name :: ·) links) 0
          (fun ls us => Link.ChainOf ls (t :: us)) ts := by
        refine .andThen (expect_predicts .identifier ts 0) ?_ ?_
        · rintro name _ ⟨hn, rfl⟩
          exact ⟨_, [], .cons (.entry hk hn) .nil⟩
        · rintro name _ rest hlen ⟨hn, rfl⟩
          exact (links_predicts rest).map fun ls us hls => .cons (.entry hk hn) hls
      exact hparts.cons (fun _ _ _ => by simp only [links, hk]; rfl) (by omega)
    case leftBracket =>
      have hparts : Predicts (Step.andThen term fun index =>
            Step.andThen (fun stop _ ts => expect stop .rightBracket ts) fun closing =>
              Step.map (Link.item t index closing :: ·) links) 1
          (fun ls us => Link.ChainOf ls (t :: us)) ts :=
        bracketed_predicts (term_predicts ts) (fun index us closing h hc => .item hk h hc)
          fun rest hlen => links_predicts rest
      exact hparts.cons (fun _ _ _ => by simp only [links, hk]; rfl) (by omega)
    case leftParen =>
      have hparts : Predicts (Step.andThen (list · · .rightParen ·) fun arguments =>
            Step.andThen (fun stop _ ts => expect stop .rightParen ts) fun closing =>
              Step.map (Link.call t arguments closing :: ·) links) 2
          (fun ls us => Link.ChainOf ls (t :: us)) ts :=
        bracketed_predicts (list_predicts .rightParen ts)
          (fun arguments us closing h hc => .call hk h hc) fun rest hlen => links_predicts rest
      exact hparts.cons (fun _ _ _ => by simp only [links, hk]; rfl) (by omega)
    all_goals exact hdone (by simp [hk, opensLink])
termination_by 16 * ts.length

end

end Parser

/-! ### The first error -/

open Grammar (Derivable Viable BreaksAt)

namespace Reading

variable {ts : List Token}

/-- An error that is met in the expression is the first one of the whole. -/
theorem errors_of_expression {e : SyntaxError} {es : List SyntaxError}
    (h : (Parser.expression ts).errors = e :: es) :
    ∃ es', (ofTokens ts).errors = e :: es' := by
  rw [errors_ofTokens, h, List.cons_append]
  exact ⟨_, rfl⟩

/-- Tokens that are no sentence are a viable prefix up to some token or the end, and **the
first error is there, whatever else stands behind this token**. -/
theorem exists_first_error (h : ¬Derivable (ts.map Token.kind)) :
    ∃ us rest, ts = us ++ rest ∧ Viable (us.map Token.kind) ∧
      ∀ rest' : List Token, rest'.head? = rest.head? →
        ∃ e es, (ofTokens (us ++ rest')).errors = e :: es ∧
          e.column = Parser.nextColumn (Parser.endColumn (us ++ rest')) rest' := by
  have hfuel : ∀ us rest : List Token, 16 * us.length + (2 * Level.disjunction.rank + 4) ≤
      Parser.budget (us ++ rest) := by
    intro us rest
    simp only [Parser.budget, Level.rank, List.length_append]
    omega
  obtain ⟨us, rest, rfl, ⟨a, ⟨-, hd⟩, htakes⟩ | ⟨⟨a, ws, -, hd⟩, hstumbles⟩⟩ :=
    Parser.level_predicts .disjunction ts
  · have hus : Derivable (us.map Token.kind) := derivable_iff_exists_derivationOf.2 ⟨a, hd⟩
    refine ⟨us, rest, rfl, ⟨[], by rwa [List.append_nil]⟩, fun rest' hrest => ?_⟩
    have heq : Parser.expression (us ++ rest') = ⟨a, [], rest'⟩ :=
      htakes _ _ rest' hrest (hfuel us rest')
    -- a sentence has been read, so that there is a token behind it
    cases rest' with
    | nil =>
      obtain rfl : rest = [] := List.head?_eq_none_iff.1 hrest.symm
      exact absurd (by rwa [List.append_nil]) h
    | cons t rest' =>
      rw [ofTokens, heq]
      exact ⟨_, [], rfl, rfl⟩
  · refine ⟨us, rest, rfl, ⟨ws.map Token.kind, ?_⟩, fun rest' hrest => ?_⟩
    · rw [← List.map_append]
      exact derivable_iff_exists_derivationOf.2 ⟨a, hd⟩
    · obtain ⟨e, es, herrors, hcolumn⟩ :=
        hstumbles (Parser.endColumn (us ++ rest')) _ rest' hrest (hfuel us rest')
      obtain ⟨es', herrors'⟩ := errors_of_expression herrors
      exact ⟨e, es', herrors', hcolumn⟩

/-- Where the first error stays whatever stands behind a token, the tokens up to this one are
no viable prefix. -/
theorem not_viable {us : List Token} {t : Token}
    (h : ∀ rest : List Token, (ofTokens (us ++ t :: rest)).errors ≠ []) :
    ¬Viable ((us ++ [t]).map Token.kind) := by
  rintro ⟨ls, hd⟩
  -- only the kinds of the completion matter
  have hkinds : (ls.map fun kind => (⟨kind, "", 0⟩ : Token)).map Token.kind = ls := by
    rw [List.map_map]
    exact List.map_id ls
  rw [← hkinds, ← List.map_append, List.append_assoc] at hd
  exact h _ (errors_eq_nil_iff.2 hd)

end Reading

/-- **The first error is at exactly the right place.** Let the kinds of the tokens not be
derivable. If the first `k` of them are the beginning of a sentence and with the next one they
are not, the first error the reader reports is at that next token. Otherwise all of them are
the beginning of a sentence, and it is just past the last token, or at the first column if
there is none. -/
theorem first_error_is_where_no_sentence_goes_on (ts : List Token)
    (h : ¬Derivable (ts.map Token.kind)) :
    ∃ e es, (Reading.ofTokens ts).errors = e :: es ∧
      (∀ (k : Nat) (hk : k < ts.length), BreaksAt (ts.map Token.kind) k →
        e.column = ts[k].column) ∧
      ((∀ k < ts.length, ¬BreaksAt (ts.map Token.kind) k) →
        Viable (ts.map Token.kind) ∧ (ts = [] → e.column = 1) ∧
          ∀ t, ts.getLast? = some t → e.column = t.column + t.width) := by
  obtain ⟨us, rest, rfl, hviable, hfirst⟩ := Reading.exists_first_error h
  obtain ⟨e, es, herrors, hcolumn⟩ := hfirst rest rfl
  refine ⟨e, es, herrors, ?_⟩
  cases rest with
  | nil =>
    rw [List.append_nil] at hcolumn ⊢
    refine ⟨fun k hk hbreaks => ?_, fun _ => ⟨hviable, ?_, ?_⟩⟩
    · exact absurd (hviable.shorten (List.take_prefix _ _)) hbreaks.2
    · rintro rfl
      exact hcolumn
    · intro t ht
      rw [hcolumn, Parser.nextColumn, Parser.endColumn, ht]
  | cons t rest =>
    have hbreaks : BreaksAt ((us ++ t :: rest).map Token.kind) us.length := by
      have hnot : ¬Viable ((us ++ [t]).map Token.kind) := by
        refine Reading.not_viable fun rest' hnil => ?_
        obtain ⟨e', es', herrors', -⟩ := hfirst (t :: rest') rfl
        exact absurd (herrors'.symm.trans hnil) (List.cons_ne_nil _ _)
      constructor
      · rwa [← List.map_take, List.take_left]
      · rwa [← List.map_take, List.take_length_add_append]
    have hk : us.length < (us ++ t :: rest).length := by simp
    refine ⟨fun k hlt hk' => ?_, fun hnone => absurd hbreaks (hnone _ hk)⟩
    obtain rfl : k = us.length := hk'.eq hbreaks
    simp only [List.getElem_append_right (Nat.le_refl _), Nat.sub_self, List.getElem_cons_zero]
    exact hcolumn

/-- The tokens of `a and` can be continued by any operand, which is missing behind them. -/
theorem first_error_is_where_no_sentence_goes_on_missing :
    ¬Derivable [.identifier, .keywordAnd] ∧
      ∃ e es, (Reading.ofTokens [⟨.identifier, "a", 1⟩, ⟨.keywordAnd, "and", 3⟩]).errors = e :: es ∧
        e.column = 6 := by
  have hread : (Reading.ofTokens [⟨.identifier, "a", 1⟩, ⟨.keywordAnd, "and", 3⟩]).errors = [] ↔
      Derivable [.identifier, .keywordAnd] := Reading.errors_eq_nil_iff
  have hread' : (Reading.ofTokens [⟨.identifier, "a", 1⟩, ⟨.keywordAnd, "and", 3⟩,
      ⟨.identifier, "b", 7⟩]).errors = [] ↔ Derivable [.identifier, .keywordAnd, .identifier] :=
    Reading.errors_eq_nil_iff
  have hnot : ¬Derivable [.identifier, .keywordAnd] := by
    rw [← hread]
    decide
  have hviable : Viable [.identifier, .keywordAnd] := ⟨[.identifier], hread'.1 (by decide)⟩
  refine ⟨hnot, ?_⟩
  obtain ⟨e, es, herrors, -, hend⟩ := first_error_is_where_no_sentence_goes_on
    [⟨.identifier, "a", 1⟩, ⟨.keywordAnd, "and", 3⟩] hnot
  obtain ⟨-, -, hlast⟩ := hend fun k _ hbreaks =>
    hbreaks.2 (hviable.shorten (List.take_prefix _ _))
  exact ⟨e, es, herrors, hlast _ rfl⟩

end Parley
