import Parley.Proofs.Eval.Blame

/-!
# Checked trees give no internal complaint

Where a source lacks something, the reader puts a placeholder into the tree and reports an error.
A tree that has been parsed comes without errors, so it is a derivation of the tokens of its
source, and there are no placeholders in a derivation. `Parley.Expr.Checked` says what this means
for its nodes.

The evaluation has branches for trees that have not been checked: for a missing value, for an
operator that is none of arithmetic, and for a number that cannot be read. A checked tree leads to
none of them (`Parley.checked_trees_give_no_internal_complaint`). This is decided place by place:
the errors that are raised by a place are known, and a place of a derivation is a token of the
right kind.
-/

namespace Parley

open EvalError (Complaint)

/-- An operator at a level of arithmetic is one of arithmetic. -/
theorem Level.exists_operator_of_accepts {l : Level} {kind : TokenKind}
    (h : l.accepts kind = true) (hl : l = .sum ∨ l = .product) :
    ∃ o, Operator.ofKind? kind = some o := by
  rcases hl with rfl | rfl
  · rcases Bool.or_eq_true_iff.1 h with hk | hk
    · exact ⟨.add, by rw [beq_iff_eq.1 hk]; rfl⟩
    · exact ⟨.subtract, by rw [beq_iff_eq.1 hk]; rfl⟩
  · rcases Bool.or_eq_true_iff.1 h with hk | hk
    · exact ⟨.multiply, by rw [beq_iff_eq.1 hk]; rfl⟩
    · exact ⟨.divide, by rw [beq_iff_eq.1 hk]; rfl⟩

/-- A token that stands in for one that is missing has no text, so it is not spelled by it. -/
theorem Token.Spelled.lexeme_ne {t : Token} (h : t.Spelled) : t.lexeme ≠ "" := by
  intro hempty
  refine h.text_ne_nil ?_
  rw [hempty]
  rfl

/-! ### The trees -/

/-- **Checked trees**: nothing in them stands in for what the source lacks.

A tree does not keep the commas of its lists, so among its leaves these are supplied. -/
structure Expr.Checked (source : String) (e : Expr) : Prop where
  /-- No value is missing. -/
  complete (column : Nat) : Place.missing column ∉ e.places
  /-- No token is missing: every one has a text and stands in the source. -/
  written : ∀ t ∈ e.leaves, t.lexeme ≠ "" ∧ (t = Token.comma ∨ t ∈ (tokenize source).tokens)
  /-- At the levels of sums and products there are operators of arithmetic. -/
  arithmetic : ∀ l op, Place.operator l op ∈ e.places → l = .sum ∨ l = .product →
    ∃ o, Operator.ofKind? op.kind = some o
  /-- Every number can be read. -/
  numbers : ∀ t, Place.number t ∈ e.places →
    (∃ n, Eval.number t = .ok (.integer n)) ∨ ∃ x, Eval.number t = .ok (.float x)

theorem Eval.number_eq_ok {t : Token} (h : t.Spelled) (hk : t.kind = .number) :
    (∃ n, number t = .ok (.integer n)) ∨ ∃ x, number t = .ok (.float x) := by
  have hne := number_ne_error h hk
  unfold number at hne ⊢
  cases hwhole : Numeral.whole? t.lexeme.toList with
  | some n => exact .inl ⟨n, rfl⟩
  | none =>
    rw [hwhole] at hne
    cases hfloat : Numeral.float? t.lexeme.toList with
    | some x => exact .inr ⟨x, rfl⟩
    | none =>
      rw [hfloat] at hne
      exact absurd rfl (hne _)

/-- **What has been parsed is checked.** -/
theorem Expr.checked_of_parse {source : String} {e : Expr} (h : parse source = .ok e) :
    e.Checked source := by
  obtain ⟨-, hd⟩ := parse_eq_ok_iff.1 h
  have hstands := e.places_stand hd
  refine ⟨fun column hmem => hstands _ hmem, fun t ht => ?_, fun l op hmem hl => ?_,
    fun t hmem => ?_⟩
  · rw [e.leaves_eq hd] at ht
    obtain ⟨u, hu, rfl⟩ := List.mem_map.1 ht
    refine ⟨(Token.spelled_of_mem_tokens hu).written.lexeme_ne, ?_⟩
    unfold Token.written
    split
    · exact .inl rfl
    · exact .inr hu
  · exact Level.exists_operator_of_accepts (hstands _ hmem).2 hl
  · obtain ⟨hmem, hk⟩ := hstands _ hmem
    exact Eval.number_eq_ok (Token.spelled_of_mem_tokens hmem) hk

/-! ### Their evaluation -/

/-- **What the places of a checked tree complain about** is no internal matter, and it is not in the
words of a function. -/
theorem Place.Raises.not_isInternal {p : Place} {c : Complaint} {column : Nat}
    (h : p.Raises (.illegalState c column)) {source : String} {e : Expr} (he : e.Checked source)
    (hp : p ∈ e.places) : ¬c.IsInternal ∧ ¬c.IsQuoted := by
  cases h with
  | @number t _ hc =>
    rcases he.numbers t hp with ⟨n, hn⟩ | ⟨x, hx⟩
    · cases hn.symm.trans hc
    · cases hx.symm.trans hc
  | @operator l op a b _ hc =>
    rcases Eval.computed_operate_or l op a b with hcomputed | ⟨hl, hnone, -⟩
    · rw [hc] at hcomputed
      cases hcomputed with
      | error hinternal hquoted => exact ⟨hinternal, hquoted⟩
    · obtain ⟨o, ho⟩ := he.arithmetic l op hp hl
      cases hnone.symm.trans ho
  | notIndexable _ _ => exact ⟨id, id⟩
  | indexNotWhole _ _ => exact ⟨id, id⟩
  | notCallable _ _ => exact ⟨id, id⟩
  | missing column => exact absurd hp (he.complete column)

/-- **Checked trees give no internal complaint.** A source that is parsed gives a tree without
placeholders, with operators of arithmetic where they are wanted and with numbers that can be
read. In whatever context it is evaluated, and whatever the host answers, no complaint is about an
incomplete expression, an operator that is none of arithmetic or an invalid number; and a
complaint that reads as if it were has been made by a function, in just these words. -/
theorem checked_trees_give_no_internal_complaint {source : String} {e : Expr}
    (hparse : parse source = .ok e) :
    e.Checked source ∧
      ∀ {σ : Type} (host : Host σ) (context : Object) (run run' : Run σ) (complaint : Complaint)
        (column : Nat),
        e.evaluate host context run = (.error (.illegalState complaint column), run') →
        ¬complaint.IsInternal ∧
          ∀ internal : Complaint, internal.IsInternal → complaint.message = internal.message →
            ∃ f arguments s,
              (host.call f arguments s).1 = .error (.illegalArgument complaint.message) := by
  have hchecked := Expr.checked_of_parse hparse
  refine ⟨hchecked, fun host context run run' complaint column herr => ?_⟩
  obtain ⟨p, hp, hraises | ⟨opening, f, arguments, s, failure, -, hanswer, heq⟩⟩ :=
    Eval.exists_raises (Expr.evaluate_eq_error.1 herr)
  · obtain ⟨hinternal, hquoted⟩ := hraises.not_isInternal hchecked hp
    refine ⟨hinternal, fun internal hinternal' hmessage => ?_⟩
    rcases Complaint.isInternal_or_isQuoted hinternal' hmessage with h | h
    · exact absurd h hinternal
    · exact absurd h hquoted
  · cases failure with
    | failed message => cases heq
    | illegalArgument message =>
      cases heq
      exact ⟨id, fun _ _ _ => ⟨f, arguments, s, hanswer⟩⟩

/-- In `x + 1` there is nothing wrong with the tree, so the complaint is about the value of `x`. -/
theorem checked_trees_give_no_internal_complaint_null :
    ∃ e, parse "x + 1" = .ok e ∧ e.Checked "x + 1" ∧ ∃ complaint run',
      e.evaluate (⟨fun _ _ s => (.ok .null, s)⟩ : Host Unit) [("x", .null)] ⟨(), []⟩ =
        (.error (.illegalState complaint 3), run') ∧
      complaint = .mismatch .add .null .number ∧ ¬complaint.IsInternal := by
  have hlex : tokenize "x + 1" = ⟨[⟨.identifier, "x", 1⟩, ⟨.plus, "+", 3⟩, ⟨.number, "1", 5⟩],
      []⟩ := by decide +kernel
  have hparse : parse "x + 1" = .ok (.binary .sum (.term (.path ⟨.identifier, "x", 1⟩ []))
      ⟨.plus, "+", 3⟩ (.term (.number ⟨.number, "1", 5⟩))) := by
    rw [parse_eq_ok_iff, hlex]
    exact ⟨rfl, .binary rfl (by decide) (by decide) (.term (.path rfl .nil)) (.term (.number rfl))⟩
  obtain ⟨hchecked, hcomplaint⟩ := checked_trees_give_no_internal_complaint hparse
  have herr : Expr.evaluate (⟨fun _ _ s => (.ok .null, s)⟩ : Host Unit) [("x", .null)]
      (.binary .sum (.term (.path ⟨.identifier, "x", 1⟩ [])) ⟨.plus, "+", 3⟩
        (.term (.number ⟨.number, "1", 5⟩))) ⟨(), []⟩ =
      (.error (.illegalState (.mismatch .add .null .number) 3), ⟨(), []⟩) := rfl
  exact ⟨_, hparse, hchecked, _, _, herr, rfl, (hcomplaint _ _ _ _ _ _ herr).1⟩

end Parley
