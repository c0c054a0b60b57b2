import Parley.Expr.Parser
import Parley.Proofs.Grammar

/-!
# What is read without errors is a derivation

Every step of the reader is `Parley.Parsed.Sound`: if it met no error, then what it read is a
derivation of the tokens it took, and these together with what it left over make up the tokens
it was given.

The budget plays no part in this. A step that runs out of it either reports an error or takes
nothing, and both are sound.
-/

namespace Parley

/-! ### Soundness of a step -/

/-- **A sound step**: if there was no error, the tokens are those that the value is read from,
followed by the rest. The relation `R` says what it is to be read from some tokens. -/
def Parsed.Sound {α : Type} (R : α → List Token → Prop) (ts : List Token) (p : Parsed α) : Prop :=
  p.errors = [] → ∃ us, ts = us ++ p.rest ∧ R p.value us

namespace Parsed

variable {α β : Type} {R : α → List Token → Prop} {S : β → List Token → Prop} {ts : List Token}

theorem Sound.map {p : Parsed α} {f : α → β} (h : p.Sound R ts)
    (hf : ∀ a us, R a us → S (f a) us) : (p.map f).Sound S ts := by
  intro he
  obtain ⟨us, hts, hR⟩ := h he
  exact ⟨us, hts, hf _ _ hR⟩

/-- One sound step after another is sound, where the second one knows what the first has
read. -/
theorem Sound.andThen {p : Parsed α} {next : α → List Token → Parsed β} (h : p.Sound R ts)
    (hnext : ∀ a us rest, R a us → (next a rest).Sound (fun b vs => S b (us ++ vs)) rest) :
    (p.andThen next).Sound S ts := by
  intro he
  obtain ⟨hp, hq⟩ := List.append_eq_nil_iff.1 he
  obtain ⟨us, hts, hR⟩ := h hp
  obtain ⟨vs, hrest, hS⟩ := hnext _ _ _ hR hq
  refine ⟨us ++ vs, ?_, hS⟩
  calc ts = us ++ p.rest := hts
    _ = us ++ (vs ++ (next p.value p.rest).rest) := congrArg (us ++ ·) hrest
    _ = us ++ vs ++ (p.andThen next).rest := (List.append_assoc _ _ _).symm

/-- A step that takes nothing. -/
theorem sound_pure {a : α} (h : R a []) : (⟨a, [], ts⟩ : Parsed α).Sound R ts :=
  fun _ => ⟨[], rfl, h⟩

/-- A step that takes one token. -/
theorem sound_token {a : α} {t : Token} (h : R a [t]) :
    (⟨a, [], ts⟩ : Parsed α).Sound R (t :: ts) :=
  fun _ => ⟨[t], rfl, h⟩

/-- A sound step behind a token that has been taken. -/
theorem Sound.cons {p : Parsed α} {t : Token} (h : p.Sound (fun a us => R a (t :: us)) ts) :
    p.Sound R (t :: ts) := by
  intro he
  obtain ⟨us, hts, hR⟩ := h he
  exact ⟨t :: us, by rw [hts, List.cons_append], hR⟩

end Parsed

namespace Parser

variable (stop : Nat)

theorem expect_sound (kind : TokenKind) (ts : List Token) :
    (expect stop kind ts).Sound (fun t us => t.kind = kind ∧ us = [t]) ts := by
  cases ts with
  | nil => exact fun he => absurd he (List.cons_ne_nil _ _)
  | cons t rest =>
    rw [expect]
    split
    · rename_i hk
      exact Parsed.sound_token ⟨hk, rfl⟩
    · exact fun he => absurd he (List.cons_ne_nil _ _)

theorem missingValue_sound (R : Term → List Token → Prop) (ts : List Token) :
    (missingValue stop ts).Sound R ts := by
  cases ts with
  | nil => exact fun he => absurd he (List.cons_ne_nil _ _)
  | cons t rest => exact fun he => absurd he (List.cons_ne_nil _ _)

/-! ### The steps of the reader

The operators of a level are read by `Parser.chain`, which is handed the left operand. What it
reads is therefore stated relative to the tokens `us` of that operand. -/

mutual

theorem level_sound : ∀ (fuel : Nat) (l : Level) (ts : List Token),
    (level stop fuel l ts).Sound (fun e us => e.rank ≤ l.rank + 1 ∧ e.DerivationOf us) ts
  | 0, _, ts => (missingValue_sound stop (fun _ _ => False) ts).map fun _ _ h => h.elim
  | fuel + 1, l, ts => by
    rw [level]
    refine (operand_sound fuel l ts).andThen fun left us rest ⟨hr, hd⟩ => ?_
    exact chain_sound fuel l left us rest (Nat.le_trans hr l.rank_le_leftRank) hd

theorem operand_sound : ∀ (fuel : Nat) (l : Level) (ts : List Token),
    (operand stop fuel l ts).Sound (fun e us => e.rank ≤ l.rank ∧ e.DerivationOf us) ts
  | 0, _, ts => (missingValue_sound stop (fun _ _ => False) ts).map fun _ _ h => h.elim
  | fuel + 1, l, ts => by
    rw [operand]
    split
    · rename_i tighter ht
      rw [Level.rank_of_tighter? ht]
      exact level_sound fuel tighter ts
    · rename_i ht
      rw [Level.rank_of_tighter?_none ht]
      intro he
      obtain ⟨us, hts, hr, hd⟩ := negation_sound fuel ts he
      exact ⟨us, hts, Nat.le_of_eq hr, hd⟩

theorem chain_sound : ∀ (fuel : Nat) (l : Level) (left : Expr) (us ts : List Token),
    left.rank ≤ l.leftRank → left.DerivationOf us →
    (chain stop fuel l left ts).Sound
      (fun e vs => e.rank ≤ l.rank + 1 ∧ e.DerivationOf (us ++ vs)) ts
  | fuel, l, left, us, [], hl, hd => by
    have hdone : left.rank ≤ l.rank + 1 ∧ left.DerivationOf (us ++ []) :=
      ⟨Nat.le_trans hl l.leftRank_le, by rwa [List.append_nil]⟩
    cases fuel <;> exact Parsed.sound_pure hdone
  | 0, l, left, us, op :: rest, hl, hd =>
    -- out of budget the operator is left over, and that is sound as well
    Parsed.sound_pure ⟨Nat.le_trans hl l.leftRank_le, by rwa [List.append_nil]⟩
  | fuel + 1, l, left, us, op :: rest, hl, hd => by
    rw [chain]
    split
    · rename_i hop
      refine Parsed.Sound.cons ((operand_sound fuel l rest).andThen ?_)
      rintro right vs rest' ⟨hr, hd'⟩
      -- what has been read so far, together with the operator and its right operand
      have hbinary : (Expr.binary l left op right).DerivationOf (us ++ op :: vs) :=
        .binary hop hl hr hd hd'
      split
      · rename_i hrep
        have hrank : (Expr.binary l left op right).rank ≤ l.leftRank := by
          rw [Level.leftRank, if_pos hrep]
          exact Nat.le_refl _
        simpa only [List.append_assoc, List.cons_append] using
          chain_sound fuel l (.binary l left op right) (us ++ op :: vs) rest' hrank hbinary
      · exact Parsed.sound_pure ⟨Nat.le_refl _, by rwa [List.append_nil]⟩
    · exact Parsed.sound_pure ⟨Nat.le_trans hl l.leftRank_le, by rwa [List.append_nil]⟩

theorem negation_sound : ∀ (fuel : Nat) (ts : List Token),
    (negation stop fuel ts).Sound (fun e us => e.rank = 0 ∧ e.DerivationOf us) ts
  | 0, ts => (missingValue_sound stop (fun _ _ => False) ts).map fun _ _ h => h.elim
  | fuel + 1, [] => by
    rw [negation]
    exact (term_sound fuel []).map fun t us h => ⟨rfl, .term h⟩
  | fuel + 1, t :: rest => by
    rw [negation]
    split
    · rename_i hk
      exact Parsed.Sound.cons
        ((negation_sound fuel rest).map fun e us ⟨hr, hd⟩ => ⟨rfl, .negation hk hr hd⟩)
    · exact (term_sound fuel (t :: rest)).map fun t us h => ⟨rfl, .term h⟩

theorem term_sound : ∀ (fuel : Nat) (ts : List Token),
    (term stop fuel ts).Sound Term.DerivationOf ts
  | 0, ts => missingValue_sound stop _ ts
  | fuel + 1, [] => missingValue_sound stop _ []
  | fuel + 1, t :: rest => by
    rw [term]
    split
    · rename_i hk
      exact Parsed.sound_token (.string hk)
    · rename_i hk
      exact Parsed.sound_token (.number hk)
    · rename_i hk
      exact Parsed.sound_token (.boolean (.inl hk))
    · rename_i hk
      exact Parsed.sound_token (.boolean (.inr hk))
    · rename_i hk
      exact Parsed.Sound.cons ((links_sound fuel rest).map fun ls us h => .path hk h)
    · rename_i hk
      refine Parsed.Sound.cons ((list_sound fuel .rightBracket rest).andThen ?_)
      intro elements us rest' h
      refine (expect_sound stop .rightBracket rest').map ?_
      rintro closing _ ⟨hc, rfl⟩
      exact .array hk h hc
    · rename_i hk
      refine Parsed.Sound.cons ((level_sound fuel .disjunction rest).andThen ?_)
      rintro inner us rest' ⟨-, h⟩
      refine (expect_sound stop .rightParen rest').map ?_
      rintro closing _ ⟨hc, rfl⟩
      exact .group hk h hc
    · exact missingValue_sound stop _ _

theorem list_sound : ∀ (fuel : Nat) (close : TokenKind) (ts : List Token),
    (list stop fuel close ts).Sound Term.ListOf ts
  | 0, _, _ => Parsed.sound_pure .nil
  | fuel + 1, close, ts => by
    rw [list]
    split
    · exact Parsed.sound_pure .nil
    · refine (term_sound fuel ts).andThen fun first us rest h => ?_
      exact (more_sound fuel rest).map fun es vs hes => .cons h hes

theorem more_sound : ∀ (fuel : Nat) (ts : List Token), (more stop fuel ts).Sound Term.MoreOf ts
  | 0, _ => Parsed.sound_pure .nil
  | fuel + 1, [] => Parsed.sound_pure .nil
  | fuel + 1, t :: rest => by
    rw [more]
    split
    · rename_i hk
      refine Parsed.Sound.cons ((term_sound fuel rest).andThen fun next us rest' h => ?_)
      exact (more_sound fuel rest').map fun es vs hes => .cons hk h hes
    · exact Parsed.sound_pure .nil

theorem links_sound : ∀ (fuel : Nat) (ts : List Token), (links stop fuel ts).Sound Link.ChainOf ts
  | 0, _ => Parsed.sound_pure .nil
  | fuel + 1, [] => Parsed.sound_pure .nil
  | fuel + 1, t :: rest => by
    rw [links]
    split
    · rename_i hk
      refine Parsed.Sound.cons ((expect_sound stop .identifier rest).andThen ?_)
      rintro name _ rest' ⟨hn, rfl⟩
      exact (links_sound fuel rest').map fun ls us hls => .cons (.entry hk hn) hls
    · rename_i hk
      refine Parsed.Sound.cons ((term_sound fuel rest).andThen fun index us rest' hi => ?_)
      refine (expect_sound stop .rightBracket rest').andThen ?_
      rintro closing _ rest'' ⟨hc, rfl⟩
      refine (links_sound fuel rest'').map fun ls vs hls => ?_
      simpa using Link.ChainOf.cons (.item hk hi hc) hls
    · rename_i hk
      refine Parsed.Sound.cons ((list_sound fuel .rightParen rest).andThen ?_)
      intro args us rest' ha
      refine (expect_sound stop .rightParen rest').andThen ?_
      rintro closing _ rest'' ⟨hc, rfl⟩
      refine (links_sound fuel rest'').map fun ls vs hls => ?_
      simpa using Link.ChainOf.cons (.call hk ha hc) hls
    · exact Parsed.sound_pure .nil

end

end Parser

end Parley
