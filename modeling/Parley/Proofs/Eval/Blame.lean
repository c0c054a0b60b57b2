import Mathlib.Data.List.TakeWhile
import Parley.Proofs.Eval.InStep
import Parley.Proofs.Expr.Print

/-!
# Every error points at the token that caused it

An error carries the column of a token. Which places of an expression can be the reason of which
errors is said by `Parley.Place.Blamed`: a name for not being there, an operator for its operands,
the bracket of a link for the value in front of it, for an index, or for what a function has
answered.

Whatever an evaluation ends with, one of the places of the expression is to blame for it
(`Parley.Eval.blames_expr`). This is read off the errors that places raise, and it holds of all
trees, also of those with placeholders.

In a tree that has been parsed there are no placeholders, and its numbers are runs of digits, which
can always be read. So what is left are names, operators and the brackets of links, and since no
two tokens share a column, the error tells the token (`Parley.every_error_points_at_its_cause`).
-/

namespace Parley

/-! ### Places that are to blame -/

/-- **A place is to blame for an error**: the error has the column of the place and is of a kind
that arises there. -/
def Place.Blamed : Place → EvalError → Prop
  | head name, .unknownKey key column => key = name.lexeme ∧ column = name.column
  | entry name, .unknownKey key column => key = name.lexeme ∧ column = name.column
  | number t, .illegalState _ column => (∃ c, Eval.number t = .error c) ∧ column = t.column
  | operator level op, .illegalState _ column =>
    (level ≠ .disjunction ∧ level ≠ .conjunction) ∧ column = op.column
  | item opening, .illegalState _ column => column = opening.column
  | item opening, .outOfBounds index length column =>
    (index.toInt < 0 ∨ length ≤ index.toInt) ∧ column = opening.column
  | call opening, .illegalState _ column => column = opening.column
  | call opening, .failed _ column => column = opening.column
  | missing column, .illegalState _ column' => column' = column
  | _, _ => False

/-- Whatever a place raises, it is to blame for. -/
theorem Place.Raises.blamed {p : Place} {err : EvalError} (h : p.Raises err) : p.Blamed err := by
  cases h with
  | head name => exact ⟨rfl, rfl⟩
  | entry name => exact ⟨rfl, rfl⟩
  | number hc => exact ⟨⟨_, hc⟩, rfl⟩
  | operator hc =>
    -- `or` and `and` take any operands
    refine ⟨⟨?_, ?_⟩, rfl⟩
    · rintro rfl
      cases hc
    · rintro rfl
      cases hc
  | notIndexable opening found => exact rfl
  | indexNotWhole opening found => exact rfl
  | outOfBounds opening hindex => exact ⟨hindex, rfl⟩
  | notCallable opening found => exact rfl
  | missing column => exact rfl

namespace Eval

variable {σ α : Type}

/-- For every error that a computation ends with, in whatever run, one of some places is to
blame. -/
def Blames (ps : List Place) (x : Eval σ α) : Prop :=
  ∀ (run : Run σ) (err : EvalError) (run' : Run σ), x run = .error err run' →
    ∃ p ∈ ps, p.Blamed err

/-- **One of its places is to blame for every error of an expression.** What a function complains
about, or fails with, is blamed on the call. -/
theorem blames_expr (host : Host σ) (context : Object) (e : Expr) :
    Blames e.places (expr host context e) := by
  intro run err run' herr
  obtain ⟨p, hp, hraises | ⟨opening, f, arguments, s, failure, rfl, -, rfl⟩⟩ := exists_raises herr
  · exact ⟨p, hp, hraises.blamed⟩
  · refine ⟨.call opening, hp, ?_⟩
    cases failure <;> exact rfl

end Eval

/-! ### Number literals can be read -/

/-- Digits, and at least one, spell a float. -/
theorem Numeral.exists_float?_of_digits {c : Char} {digits : List Char} (hc : c.isDigit = true)
    (hdigits : ∀ d ∈ digits, d.isDigit = true) : ∃ x, float? (c :: digits) = some x := by
  have hall : ∀ d ∈ c :: digits, d.isDigit = true := List.forall_mem_cons.2 ⟨hc, hdigits⟩
  have hmagnitude : ∃ x, magnitude? false (c :: digits) = some x := by
    unfold magnitude?
    rw [List.takeWhile_eq_self_iff.2 hall, List.dropWhile_eq_nil_iff.2 hall]
    exact ⟨_, rfl⟩
  unfold float?
  rw [sign_of_isDigit hc]
  dsimp only
  split
  · exact ⟨_, rfl⟩
  · exact hmagnitude

/-- A number token is a run of digits. -/
theorem Token.Spelled.digits_of_number {t : Token} (h : t.Spelled) (hk : t.kind = .number) :
    ∃ c digits, t.lexeme.toList = c :: digits ∧ c.isDigit = true ∧
      ∀ d ∈ digits, d.isDigit = true := by
  unfold Token.Spelled at h
  generalize t.lexeme.toList = text at h
  cases h with
  | string _ => cases hk
  | @number c digits _ _ hc hdigits _ => exact ⟨c, digits, rfl, hc, hdigits⟩
  | word _ _ _ hkind =>
    obtain rfl := hk
    cases hkind.2 rfl
  | punctuation hkind =>
    obtain rfl := hk
    unfold TokenKind.ofPunctuation? at hkind
    split at hkind <;> cases hkind

/-- **A number literal is never complained about.** -/
theorem Eval.number_ne_error {t : Token} (h : t.Spelled) (hk : t.kind = .number)
    (c : EvalError.Complaint) : number t ≠ .error c := by
  obtain ⟨d, digits, htext, hd, hdigits⟩ := h.digits_of_number hk
  obtain ⟨x, hx⟩ := Numeral.exists_float?_of_digits hd hdigits
  unfold number
  rw [htext, hx]
  cases Numeral.whole? (d :: digits) with
  | some n => exact nofun
  | none => exact nofun

/-! ### The token that is to blame -/

/-- The operators that can complain are those below `and`. -/
theorem Level.kind_mem_of_accepts {l : Level} {kind : TokenKind} (h : l.accepts kind = true)
    (hl : l ≠ .disjunction ∧ l ≠ .conjunction) :
    kind ∈ [.keywordIn, .keywordMatches, .plus, .minus, .star, .slash] := by
  cases l with
  | disjunction => exact absurd rfl hl.1
  | conjunction => exact absurd rfl hl.2
  | _ => revert h; cases kind <;> decide

/-- **What an error tells of its token**, where the token stands at one of some places:

* what is unknown is the name that is written there;
* what is out of bounds is an index, and the token is the bracket that opens it;
* what has failed is a function, and the token is the bracket that opens its arguments;
* a value is refused by an operator, or by a link, at the bracket that opens it. -/
def EvalError.IsAbout (places : List Place) (t : Token) : EvalError → Prop
  | unknownKey key _ => t.kind = .identifier ∧ t.lexeme = key
  | outOfBounds index length _ =>
    (t.kind = .leftBracket ∧ .item t ∈ places) ∧ (index.toInt < 0 ∨ length ≤ index.toInt)
  | failed _ _ => t.kind = .leftParen ∧ .call t ∈ places
  | illegalState _ _ =>
    (t.kind ∈ [.keywordIn, .keywordMatches, .plus, .minus, .star, .slash] ∧
      ∃ l, .operator l t ∈ places) ∨
    (t.kind = .leftBracket ∧ .item t ∈ places) ∨ (t.kind = .leftParen ∧ .call t ∈ places)

/-- **A place that is to blame is the token that the error is about**, among tokens that their
own texts spell. -/
theorem Place.Blamed.exists_isAbout {places : List Place} {ts : List Token} {p : Place}
    {err : EvalError} (h : p.Blamed err) (hp : p ∈ places) (hstands : p.StandsIn ts)
    (hspelled : ∀ t ∈ ts, t.Spelled) :
    ∃ t ∈ ts, t.column = err.column ∧ err.IsAbout places t := by
  cases p with
  | head name =>
    obtain ⟨hmem, hk⟩ := hstands
    cases err with
    | unknownKey key column =>
      obtain ⟨rfl, rfl⟩ := h
      exact ⟨name, hmem, rfl, hk, rfl⟩
    | _ => exact h.elim
  | entry name =>
    obtain ⟨hmem, hk⟩ := hstands
    cases err with
    | unknownKey key column =>
      obtain ⟨rfl, rfl⟩ := h
      exact ⟨name, hmem, rfl, hk, rfl⟩
    | _ => exact h.elim
  | number t =>
    obtain ⟨hmem, hk⟩ := hstands
    cases err with
    | illegalState complaint column =>
      obtain ⟨⟨c, hc⟩, -⟩ := h
      exact absurd hc (Eval.number_ne_error (hspelled t hmem) hk c)
    | _ => exact h.elim
  | operator l op =>
    obtain ⟨hmem, haccepts⟩ := hstands
    cases err with
    | illegalState complaint column =>
      obtain ⟨hl, rfl⟩ := h
      exact ⟨op, hmem, rfl, .inl ⟨Level.kind_mem_of_accepts haccepts hl, l, hp⟩⟩
    | _ => exact h.elim
  | item opening =>
    obtain ⟨hmem, hk⟩ := hstands
    cases err with
    | illegalState complaint column =>
      obtain rfl := h
      exact ⟨opening, hmem, rfl, .inr (.inl ⟨hk, hp⟩)⟩
    | outOfBounds index length column =>
      obtain ⟨hindex, rfl⟩ := h
      exact ⟨opening, hmem, rfl, ⟨hk, hp⟩, hindex⟩
    | _ => exact h.elim
  | call opening =>
    obtain ⟨hmem, hk⟩ := hstands
    cases err with
    | illegalState complaint column =>
      obtain rfl := h
      exact ⟨opening, hmem, rfl, .inr (.inr ⟨hk, hp⟩)⟩
    | failed message column =>
      obtain rfl := h
      exact ⟨opening, hmem, rfl, hk, hp⟩
    | _ => exact h.elim
  | missing column => exact hstands.elim

/-- **Every error points at its cause.** When the evaluation of a source that has been parsed ends
with an error, in any context and whatever the host answers, then exactly one token stands at the
column of the error, and it is what the error is about. -/
theorem every_error_points_at_its_cause {σ : Type} (host : Host σ) {source : String} {e : Expr}
    (hparse : parse source = .ok e) {context : Object} {run run' : Run σ} {err : EvalError}
    (herr : e.evaluate host context run = (.error err, run')) :
    ∃ t, (tokenize source).tokens.filter (fun u => u.column = err.column) = [t] ∧
      err.IsAbout e.places t := by
  obtain ⟨-, hd⟩ := parse_eq_ok_iff.1 hparse
  obtain ⟨p, hp, hblamed⟩ :=
    Eval.blames_expr host context e run err run' (Expr.evaluate_eq_error.1 herr)
  have hstands := e.places_stand hd p hp
  obtain ⟨t, ht, hcolumn, habout⟩ :=
    hblamed.exists_isAbout hp hstands fun u => Token.spelled_of_mem_tokens
  refine ⟨t, ?_, habout⟩
  rw [← hcolumn]
  exact tokens_at_column ht

/-- The array `b` is empty, so in `a[b[2]]` it is the inner index that is out of bounds. -/
theorem every_error_points_at_its_cause_inner :
    ∃ e, parse "a[b[2]]" = .ok e ∧
      ∃ err run', e.evaluate (⟨fun _ _ s => (.ok .null, s)⟩ : Host Unit)
          [("a", .array [.null]), ("b", .array [])] ⟨(), []⟩ = (.error err, run') ∧
        err = .outOfBounds 2 0 4 ∧
        ∃ t, (tokenize "a[b[2]]").tokens.filter (fun u => u.column = err.column) = [t] ∧
          err.IsAbout e.places t := by
  have hlex : tokenize "a[b[2]]" = ⟨[⟨.identifier, "a", 1⟩, ⟨.leftBracket, "[", 2⟩,
      ⟨.identifier, "b", 3⟩, ⟨.leftBracket, "[", 4⟩, ⟨.number, "2", 5⟩,
      ⟨.rightBracket, "]", 6⟩, ⟨.rightBracket, "]", 7⟩], []⟩ := by decide +kernel
  have hparse : parse "a[b[2]]" = .ok (.term (.path ⟨.identifier, "a", 1⟩
      [.item ⟨.leftBracket, "[", 2⟩
        (.path ⟨.identifier, "b", 3⟩
          [.item ⟨.leftBracket, "[", 4⟩ (.number ⟨.number, "2", 5⟩) ⟨.rightBracket, "]", 6⟩])
        ⟨.rightBracket, "]", 7⟩])) := by
    rw [parse_eq_ok_iff, hlex]
    have hinner : Link.DerivationOf (.item ⟨.leftBracket, "[", 4⟩ (.number ⟨.number, "2", 5⟩)
        ⟨.rightBracket, "]", 6⟩) [⟨.leftBracket, "[", 4⟩, ⟨.number, "2", 5⟩,
          ⟨.rightBracket, "]", 6⟩] := .item rfl (.number rfl) rfl
    exact ⟨rfl, .term (.path rfl (.cons (.item rfl (.path rfl (.cons hinner .nil)) rfl) .nil))⟩
  refine ⟨_, hparse, .outOfBounds 2 0 4, ⟨(), []⟩, ?_, rfl, ?_⟩
  · rfl
  · exact every_error_points_at_its_cause ⟨fun _ _ s => (.ok .null, s)⟩ hparse
      (show Expr.evaluate _ [("a", .array [.null]), ("b", .array [])] _ ⟨(), []⟩ = _ from rfl)

end Parley
