import Parley.Proofs.Eval.Formula
import Parley.Proofs.Number.FloatArithmetic

/-!
# Arithmetic on whole numbers

Two whole numbers give a whole number exactly where the result of the operator is one that 64 bits
can hold, and then it is this result (`Parley.Value.integers_eq_integer_iff`). A division by zero is
an error, and everything else is a float (`Parley.Value.exists_integers_eq_float`): what does not
fit, and what leaves a remainder. So a whole number can be relied on.

The last of these asks for a fact about floats. A divisor that is not zero is not taken for zero
when both numbers are turned into floats (`Parley.Binary64.toFloat_beq_zero`).
-/

namespace Parley

namespace Value

theorem exactResult?_eq_some_iff {op : Operator} {a b n : Int} :
    exactResult? op a b = some n ↔ op.Exact a b ∧ op.combine a b = n := by
  cases op with
  | divide =>
    rw [exactResult?]
    split
    · rename_i h
      have hexact : Operator.divide.Exact a b := fun _ => ⟨h.1, Int.dvd_of_emod_eq_zero h.2⟩
      rw [Option.some_inj]
      exact (and_iff_right hexact).symm
    · rename_i h
      refine iff_of_false (Option.some_ne_none n).symm fun hexact => h ?_
      obtain ⟨hzero, hdvd⟩ := hexact.1 rfl
      exact ⟨hzero, Int.emod_eq_zero_of_dvd hdvd⟩
  | _ => simp [exactResult?, Operator.Exact, Operator.combine]

/-- Floats give no whole number. -/
theorem floats_ne_integer (op : Operator) (x y : Float) (n : Int64) :
    floats op x y ≠ .ok (.integer n) := by
  cases op with
  | divide =>
    rw [floats]
    split <;> nofun
  | _ => nofun

theorem integers_eq_integer_iff {op : Operator} {a b n : Int64} :
    integers op a b = .ok (.integer n) ↔
      op.Exact a.toInt b.toInt ∧ op.combine a.toInt b.toInt = n.toInt := by
  constructor
  · intro h
    rw [integers] at h
    split at h
    · cases h
    split at h
    · rename_i m hm
      cases h
      obtain ⟨r, hr, hm⟩ := Option.bind_eq_some_iff.1 hm
      rw [Whole.toInt_ofInt? hm]
      exact exactResult?_eq_some_iff.1 hr
    · exact absurd h (floats_ne_integer op _ _ n)
  · rintro ⟨hexact, hn⟩
    exact integers_of_toInt hexact hn.symm

theorem integers_divide_zero (a : Int64) : integers .divide a 0 = .error .divisionByZero :=
  if_pos ⟨rfl, rfl⟩

/-- Where a divisor is not zero and no whole number comes out, a float does. -/
theorem exists_integers_eq_float {op : Operator} {a b : Int64} (hb : op = .divide → b ≠ 0)
    (hnone : ¬(op.Exact a.toInt b.toInt ∧ Whole.InRange (op.combine a.toInt b.toInt))) :
    ∃ x, integers op a b = .ok (.float x) := by
  have hresult : (exactResult? op a.toInt b.toInt).bind Whole.ofInt? = none := by
    refine Option.bind_eq_none_iff.2 fun n hn => if_neg fun hrange => hnone ?_
    obtain ⟨hexact, rfl⟩ := exactResult?_eq_some_iff.1 hn
    exact ⟨hexact, hrange⟩
  rw [integers, if_neg fun h => hb h.1 h.2, hresult]
  cases op with
  | divide =>
    exact ⟨_, if_neg fun h => hb rfl ((Binary64.toFloat_beq_zero b).1 h)⟩
  | _ => exact ⟨_, rfl⟩

end Value

/-- An operator of arithmetic applies in the same way at either level of arithmetic. -/
theorem Eval.operate_of_ofKind? {level : Level} {token : Token} {op : Operator}
    (hlevel : level = .sum ∨ level = .product) (hop : Operator.ofKind? token.kind = some op)
    (v w : Value) : operate level token v w = Value.arithmetic op v w := by
  rcases hlevel with rfl | rfl <;> rw [operate, hop]

/-- An operator of arithmetic is applied to what its operands have come to. -/
theorem Eval.expr_arithmetic {σ : Type} {host : Host σ} {context : Object} {level : Level}
    {token : Token} {op : Operator} {left right : Expr} {a b : Value} {run run' run'' : Run σ}
    (hlevel : level = .sum ∨ level = .product) (hop : Operator.ofKind? token.kind = some op)
    (hleft : left.evaluate host context run = (.ok a, run'))
    (hright : right.evaluate host context run' = (.ok b, run'')) :
    expr host context (.binary level left token right) run =
      orComplain token.column (Value.arithmetic op a b) run'' := by
  rw [expr, bind_of_ok (Expr.evaluate_eq_ok.1 hleft), bind_of_ok (Expr.evaluate_eq_ok.1 hright),
    operate_of_ofKind? hlevel hop]

/-- **Arithmetic on whole numbers is exact or says so.** Let both operands of an operator of
arithmetic come to whole numbers. Then a whole number is the value exactly where it is the result in
ordinary arithmetic, and the operator has one: for a quotient, the divisor is not zero and leaves
nothing over. A division by zero is the error `divisionByZero` at the column of the operator. In all
other cases, where the result has a fraction or 64 bits cannot hold it, the value is a float. -/
theorem whole_arithmetic_is_exact_or_says_so {σ : Type} {host : Host σ} {context : Object}
    {level : Level} {token : Token} {op : Operator} {left right : Expr} {a b : Int64}
    {run run' run'' : Run σ} (hlevel : level = .sum ∨ level = .product)
    (hop : Operator.ofKind? token.kind = some op)
    (hleft : left.evaluate host context run = (.ok (.integer a), run'))
    (hright : right.evaluate host context run' = (.ok (.integer b), run'')) :
    (∀ n : Int64, (Expr.binary level left token right).evaluate host context run =
        (.ok (.integer n), run'') ↔
      op.Exact a.toInt b.toInt ∧ op.combine a.toInt b.toInt = n.toInt) ∧
    (op = .divide → b = 0 → (Expr.binary level left token right).evaluate host context run =
        (.error (.illegalState .divisionByZero token.column), run'')) ∧
    ((op = .divide → b ≠ 0) →
      ¬(op.Exact a.toInt b.toInt ∧ Whole.InRange (op.combine a.toInt b.toInt)) →
      ∃ x, (Expr.binary level left token right).evaluate host context run =
        (.ok (.float x), run'')) := by
  have hexpr : Eval.expr host context (.binary level left token right) run =
      Eval.orComplain token.column (Value.integers op a b) run'' := by
    rw [Eval.expr_arithmetic hlevel hop hleft hright, Value.arithmetic]
  refine ⟨fun n => ?_, fun hdivide hzero => ?_, fun hdivide hnone => ?_⟩
  · rw [Expr.evaluate_eq_ok, hexpr, Eval.orComplain_eq_ok, Value.integers_eq_integer_iff,
      and_iff_left rfl]
  · subst hdivide hzero
    rw [Expr.evaluate_eq_error, hexpr, Value.integers_divide_zero]
    rfl
  · obtain ⟨x, hx⟩ := Value.exists_integers_eq_float hdivide hnone
    refine ⟨x, ?_⟩
    rw [Expr.evaluate_eq_ok, hexpr, hx]
    rfl

/-- The least whole number divided by minus one: the quotient is exact, and one too large. -/
theorem whole_arithmetic_is_exact_or_says_so_least :
    ∃ x, (Expr.binary .product (.term (.path ⟨.identifier, "a", 1⟩ [])) ⟨.slash, "/", 3⟩
        (.term (.path ⟨.identifier, "b", 5⟩ []))).evaluate
      (⟨fun _ _ s => (.ok .null, s)⟩ : Host Unit)
      [("a", .integer Int64.minValue), ("b", .integer (-1))] ⟨(), []⟩ =
        (.ok (.float x), ⟨(), []⟩) :=
  (whole_arithmetic_is_exact_or_says_so (.inr rfl)
    (rfl : Operator.ofKind? .slash = some .divide) rfl rfl).2.2
    (fun _ => by decide) fun h => absurd h.2 (by decide)

end Parley
