import Parley.Proofs.Parser.Complete

/-!
# Errors do not cascade

There is at most one error more than there are tokens (`Parley.errors_do_not_cascade`). That is as
good as it can be, because behind a single parenthesis both a value and the closing parenthesis are
missing.

It is not enough to count tokens and errors of each step by themselves. A step that reads a value
may report one error more than it takes tokens, and so may every step of a chain. But where it
does, what comes next closes something, or separates two values, or is nothing at all: there no
operator follows and no link, and the chain is over. So in front of such tokens, and at the end,
one error is allowed less. This is `Parley.Parser.weight`, and what it comes to is that

* a step that reads a value uses up at most the number of its tokens and one
  (`Parley.Parser.term_spends`);
* a step that goes on behind a value uses up at most the weight of its tokens
  (`Parley.Parser.links_spends`);
* a token that is due may cost one more (`Parley.Parser.expect_spends`).
-/

namespace Parley

namespace Parser

/-! ### The weight of what is left -/

/-- **How many errors the tokens that are left allow**: one for each, and one more if the next
token can go on with a value. -/
def weight : List Token → Nat
  | [] => 0
  | t :: rest => if isCloser t.kind then rest.length + 1 else rest.length + 2

theorem weight_le (ts : List Token) : weight ts ≤ ts.length + 1 := by
  cases ts with
  | nil => exact Nat.zero_le _
  | cons t rest =>
    rw [weight]
    split <;> simp

/-- What a value behind the next token may spend is allowed. -/
theorem length_lt_weight (t : Token) (rest : List Token) : rest.length < weight (t :: rest) := by
  rw [weight]
  split <;> omega

/-- Where a token goes on with a value, one error more is allowed. -/
theorem weight_of_not_closer {t : Token} (h : isCloser t.kind = false) (rest : List Token) :
    weight (t :: rest) = rest.length + 2 := by
  rw [weight, if_neg (by rw [h]; decide)]

end Parser

namespace Parsed

open Parley.Parser (weight)

variable {α β : Type}

/-- **The step spends at most so much**: its errors and what it leaves for others. -/
def Spends (n : Nat) (p : Parsed α) : Prop :=
  p.errors.length + weight p.rest ≤ n

theorem Spends.mono {m n : Nat} {p : Parsed α} (h : p.Spends m) (hmn : m ≤ n) : p.Spends n :=
  Nat.le_trans h hmn

theorem Spends.map {n : Nat} {p : Parsed α} (h : p.Spends n) (f : α → β) : (p.map f).Spends n := h

/-- One step after another: the second one spends what the first one has left, and `k` more. -/
theorem Spends.andThen {n : Nat} {p : Parsed α} {next : α → List Token → Parsed β}
    (h : p.Spends n) (k : Nat) (hnext : ∀ a rest, (next a rest).Spends (weight rest + k)) :
    (p.andThen next).Spends (n + k) := by
  have hsecond : (next p.value p.rest).Spends (weight p.rest + k) := hnext _ _
  unfold Spends at *
  rw [errors_andThen, List.length_append]
  change _ + weight (next p.value p.rest).rest ≤ _
  omega

/-- A step that takes nothing and reports nothing. -/
theorem spends_pure (a : α) (ts : List Token) : (⟨a, [], ts⟩ : Parsed α).Spends (weight ts) :=
  Nat.le_of_eq (Nat.zero_add _)

end Parsed

namespace Parser

variable (stop : Nat)

/-- **A token that is due** costs one more if it is missing. -/
theorem expect_spends (kind : TokenKind) (ts : List Token) :
    (expect stop kind ts).Spends (weight ts + 1) := by
  cases ts with
  | nil => exact Nat.le_refl _
  | cons t rest =>
    rw [expect]
    split
    · refine (Parsed.spends_pure t rest).mono ?_
      exact Nat.le_trans (weight_le rest) (Nat.le_succ_of_le (length_lt_weight t rest))
    · exact Nat.le_of_eq (Nat.add_comm _ _)

/-- **A value that is missing** costs the token that is dropped for it. Where none is dropped, what
is left allows one error less. -/
theorem missingValue_spends (ts : List Token) :
    (missingValue stop ts).Spends (ts.length + 1) := by
  cases ts with
  | nil => exact Nat.le_refl _
  | cons t rest =>
    rw [missingValue]
    split
    · rename_i hcloser
      rw [Parsed.Spends, weight, if_pos hcloser]
      exact Nat.le_of_eq (Nat.add_comm _ _)
    · exact Nat.le_trans (Nat.le_of_eq (Nat.add_comm _ _)) (Nat.succ_le_succ (weight_le rest))

/-! ### The steps of the reader -/

mutual

theorem level_spends : ∀ (fuel : Nat) (l : Level) (ts : List Token),
    (level stop fuel l ts).Spends (ts.length + 1)
  | 0, _, ts => (missingValue_spends stop ts).map _
  | fuel + 1, l, ts => by
    rw [level]
    exact (operand_spends fuel l ts).andThen 0 fun left rest => chain_spends fuel l left rest

theorem operand_spends : ∀ (fuel : Nat) (l : Level) (ts : List Token),
    (operand stop fuel l ts).Spends (ts.length + 1)
  | 0, _, ts => (missingValue_spends stop ts).map _
  | fuel + 1, l, ts => by
    rw [operand]
    split
    · exact level_spends fuel _ ts
    · exact negation_spends fuel ts

theorem chain_spends : ∀ (fuel : Nat) (l : Level) (left : Expr) (ts : List Token),
    (chain stop fuel l left ts).Spends (weight ts)
  | 0, _, left, ts => Parsed.spends_pure left ts
  | fuel + 1, _, left, [] => Parsed.spends_pure left []
  | fuel + 1, l, left, op :: rest => by
    rw [chain]
    split
    · -- the operator goes on with the value, which pays for an operand that is missing
      rename_i hop
      have hparts : ((operand stop fuel l rest).andThen fun right rest =>
          if l.repeats then chain stop fuel l (.binary l left op right) rest
          else ⟨.binary l left op right, [], rest⟩).Spends (rest.length + 1) := by
        refine (operand_spends fuel l rest).andThen 0 fun right rest' => ?_
        split
        · exact chain_spends fuel l _ rest'
        · exact Parsed.spends_pure _ rest'
      exact hparts.mono (length_lt_weight op rest)
    · exact Parsed.spends_pure left (op :: rest)

theorem negation_spends : ∀ (fuel : Nat) (ts : List Token),
    (negation stop fuel ts).Spends (ts.length + 1)
  | 0, ts => (missingValue_spends stop ts).map _
  | fuel + 1, [] => (term_spends fuel []).map _
  | fuel + 1, t :: rest => by
    rw [negation]
    split
    · exact ((negation_spends fuel rest).map _).mono (Nat.le_succ _)
    · exact (term_spends fuel (t :: rest)).map _

theorem term_spends : ∀ (fuel : Nat) (ts : List Token),
    (term stop fuel ts).Spends (ts.length + 1)
  | 0, ts => missingValue_spends stop ts
  | fuel + 1, [] => missingValue_spends stop []
  | fuel + 1, t :: rest => by
    have hle : weight rest ≤ (t :: rest).length + 1 :=
      Nat.le_trans (weight_le rest) (Nat.le_succ _)
    rw [term]
    split
    · exact (Parsed.spends_pure _ rest).mono hle
    · exact (Parsed.spends_pure _ rest).mono hle
    · exact (Parsed.spends_pure _ rest).mono hle
    · exact (Parsed.spends_pure _ rest).mono hle
    · exact ((links_spends fuel rest).map _).mono hle
    · -- the opening bracket pays for the closing one
      exact (list_spends fuel .rightBracket rest).andThen 1 fun elements rest' =>
        (expect_spends stop .rightBracket rest').map _
    · exact (level_spends fuel .disjunction rest).andThen 1 fun inner rest' =>
        (expect_spends stop .rightParen rest').map _
    · exact missingValue_spends stop (t :: rest)

theorem list_spends : ∀ (fuel : Nat) (close : TokenKind) (ts : List Token),
    (list stop fuel close ts).Spends (ts.length + 1)
  | 0, _, ts => (Parsed.spends_pure [] ts).mono (weight_le ts)
  | fuel + 1, close, ts => by
    rw [list]
    split
    · exact (Parsed.spends_pure [] ts).mono (weight_le ts)
    · exact (term_spends fuel ts).andThen 0 fun first rest => (more_spends fuel rest).map _

theorem more_spends : ∀ (fuel : Nat) (ts : List Token), (more stop fuel ts).Spends (weight ts)
  | 0, ts => Parsed.spends_pure [] ts
  | fuel + 1, [] => Parsed.spends_pure [] []
  | fuel + 1, t :: rest => by
    rw [more]
    split
    · -- the comma pays for what may be missing behind it
      have hparts : ((term stop fuel rest).andThen fun next rest =>
          (more stop fuel rest).map (next :: ·)).Spends (rest.length + 1) :=
        (term_spends fuel rest).andThen 0 fun next rest' => (more_spends fuel rest').map _
      exact hparts.mono (length_lt_weight t rest)
    · exact Parsed.spends_pure [] (t :: rest)

theorem links_spends : ∀ (fuel : Nat) (ts : List Token), (links stop fuel ts).Spends (weight ts)
  | 0, ts => Parsed.spends_pure [] ts
  | fuel + 1, [] => Parsed.spends_pure [] []
  | fuel + 1, t :: rest => by
    -- a link begins with a token that goes on with the value
    have hlink : opensLink t.kind = true → weight (t :: rest) = rest.length + 2 := by
      intro hopens
      refine weight_of_not_closer ?_ rest
      cases hk : t.kind <;> simp_all [opensLink, isCloser]
    rw [links]
    split
    · rename_i hk
      rw [hlink (by rw [hk]; rfl)]
      refine ((expect_spends stop .identifier rest).andThen 0 fun name rest' =>
        (links_spends fuel rest').map _).mono ?_
      have hle := weight_le rest
      omega
    · rename_i hk
      rw [hlink (by rw [hk]; rfl)]
      exact (term_spends fuel rest).andThen 1 fun index rest' =>
        (expect_spends stop .rightBracket rest').andThen 0 fun closing rest'' =>
          (links_spends fuel rest'').map _
    · rename_i hk
      rw [hlink (by rw [hk]; rfl)]
      exact (list_spends fuel .rightParen rest).andThen 1 fun arguments rest' =>
        (expect_spends stop .rightParen rest').andThen 0 fun closing rest'' =>
          (links_spends fuel rest'').map _
    · exact Parsed.spends_pure [] (t :: rest)

end

end Parser

/-- **Errors do not cascade**: whatever the tokens, there is at most one error more than there are
tokens. -/
theorem errors_do_not_cascade (ts : List Token) :
    (Reading.ofTokens ts).errors.length ≤ ts.length + 1 := by
  have hspends : (Parser.expression ts).errors.length + Parser.weight (Parser.expression ts).rest ≤
      ts.length + 1 := Parser.level_spends _ _ .disjunction ts
  rw [Reading.errors_ofTokens, List.length_append]
  cases hrest : (Parser.expression ts).rest with
  | nil =>
    rw [hrest] at hspends
    exact hspends
  | cons t rest =>
    have hlt := Parser.length_lt_weight t rest
    rw [hrest] at hspends
    rw [List.head?_cons, Option.map_some, Option.toList_some, List.length_singleton]
    omega

/-- Behind a parenthesis alone two things are missing. -/
example : (Reading.ofTokens [⟨.leftParen, "(", 1⟩]).errors.length = 2 := by
  decide

end Parley
