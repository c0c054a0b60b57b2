import Parley.Proofs.Eval.Literal

/-!
# Formulas of whole numbers

A `Parley.Formula` is put together from numerals by the four operators of arithmetic. It has a
number as its value whatever a source looks like, and `Parley.Formula.Exact` says that this number
can be computed without leaving the whole numbers of 64 bits: nothing on the way is too large or
too small, and no division leaves anything over.

`Parley.Formula.SpelledBy` says how a formula is written: operators between their operands, with
parentheses around a left operand that binds more loosely than the operator and around a right one
that does not bind more tightly, and any others on top of these. One such text is the formula with
no other parentheses and no blanks (`Parley.Formula.print`).

The texts of an exact formula are parsed and evaluated to its value
(`Parley.exact_formulas_are_computed`). The induction is over the text. Its invariant
(`Parley.Formula.ReadFrom`) goes through the whole library, as it does for literals: the characters
are read as certain tokens, these are derived to an expression that binds as loosely as the text
does, and the expression has the value of the formula.
-/

namespace Parley

/-! ### Operators -/

namespace Operator

/-- The level an operator stands at. -/
def level : Operator → Level
  | add => .sum
  | subtract => .sum
  | multiply => .product
  | divide => .product

/-- The kind of token that an operator is. -/
def kind : Operator → TokenKind
  | add => .plus
  | subtract => .minus
  | multiply => .star
  | divide => .slash

/-- How an operator is written. -/
def sign : Operator → Char
  | add => '+'
  | subtract => '-'
  | multiply => '*'
  | divide => '/'

/-- How loosely an operator binds, as the rank of an expression. -/
def rank (op : Operator) : Nat :=
  op.level.rank + 1

/-- What an operator makes of two numbers. -/
def combine : Operator → Int → Int → Int
  | add, a, b => a + b
  | subtract, a, b => a - b
  | multiply, a, b => a * b
  | divide, a, b => a / b

/-- **The result of the operator is exact**: no division is by zero, and none leaves anything
over. -/
def Exact (op : Operator) (a b : Int) : Prop :=
  op = divide → b ≠ 0 ∧ b ∣ a

theorem accepts_kind (op : Operator) : op.level.accepts op.kind = true := by
  cases op <;> rfl

theorem ofPunctuation?_sign (op : Operator) :
    TokenKind.ofPunctuation? op.sign = some op.kind := by
  cases op <;> rfl

theorem continuesWord_sign (op : Operator) : Lexer.continuesWord op.sign = false := by
  cases op <;> decide

/-- Operators of arithmetic may be repeated. -/
theorem leftRank_level (op : Operator) : op.level.leftRank = op.rank := by
  cases op <;> rfl

end Operator

/-- At its level an operator applies to two values as it always does. -/
theorem Eval.operate_level (op : Operator) (lexeme : String) (column : Nat) (v w : Value) :
    operate op.level ⟨op.kind, lexeme, column⟩ v w = Value.arithmetic op v w := by
  cases op <;> rfl

/-- **Arithmetic on whole numbers is exact** where the exact result is one of them. -/
theorem Value.integers_of_toInt {op : Operator} {a b n : Int64} (hexact : op.Exact a.toInt b.toInt)
    (hn : n.toInt = op.combine a.toInt b.toInt) : integers op a b = .ok (.integer n) := by
  have hresult : exactResult? op a.toInt b.toInt = some n.toInt := by
    rw [hn]
    cases op with
    | divide =>
      obtain ⟨hzero, hdvd⟩ := hexact rfl
      exact if_pos ⟨hzero, Int.emod_eq_zero_of_dvd hdvd⟩
    | _ => rfl
  have hzero : ¬(op = .divide ∧ b = 0) := by
    rintro ⟨hop, rfl⟩
    exact (hexact hop).1 rfl
  rw [integers, if_neg hzero, hresult, Option.bind_some, Whole.ofInt?_toInt]

/-! ### Formulas -/

/-- A formula of whole numbers. -/
inductive Formula where
  | literal (n : Nat)
  | apply (op : Operator) (left right : Formula)

namespace Formula

/-- The number that a formula stands for. -/
def value : Formula → Int
  | literal n => n
  | apply op left right => op.combine left.value right.value

/-- **The formula can be computed exactly**: 64 bits can hold the number of every part of it, no
divisor is zero, and no division leaves anything over. -/
def Exact : Formula → Prop
  | literal n => Whole.InRange n
  | apply op left right => left.Exact ∧ right.Exact ∧ op.Exact left.value right.value ∧
      Whole.InRange (op.combine left.value right.value)

theorem Exact.inRange {f : Formula} (h : f.Exact) : Whole.InRange f.value := by
  cases f with
  | literal n => exact h
  | apply op left right => exact h.2.2.2

/-- The whole number that an exact formula stands for. -/
theorem Exact.exists_toInt {f : Formula} (h : f.Exact) : ∃ n : Int64, n.toInt = f.value :=
  ⟨_, Whole.toInt_ofInt? (if_pos h.inRange)⟩

/-! ### Writing formulas -/

/-- `f.Written rank cs`: **the characters are the formula**, where `rank` says how loosely the
loosest operator binds that stands outside of parentheses. -/
inductive Written : Formula → Nat → List Char → Prop
  /-- Decimal digits, and maybe zeros in front of them. -/
  | literal {n : Nat} (zeros : Nat) :
      Written (.literal n) 0 (List.replicate zeros '0' ++ Nat.toDigits 10 n)
  /-- A left operand may bind as loosely as the operator, a right one has to bind more tightly. -/
  | apply {op : Operator} {left right : Formula} {i j : Nat} {cs before after ds : List Char} :
      left.Written i cs → i ≤ op.rank → (∀ c ∈ before, isBlank c = true) →
      (∀ c ∈ after, isBlank c = true) → right.Written j ds → j < op.rank →
      Written (.apply op left right) op.rank (cs ++ (before ++ op.sign :: (after ++ ds)))
  /-- Parentheses may stand around everything. -/
  | enclosed {f : Formula} {rank : Nat} {before cs after : List Char} :
      (∀ c ∈ before, isBlank c = true) → f.Written rank cs → (∀ c ∈ after, isBlank c = true) →
      Written f 0 ('(' :: (before ++ (cs ++ (after ++ [')']))))

/-- **The source spells the formula**, with any blanks around it. -/
def SpelledBy (f : Formula) (source : String) : Prop :=
  ∃ rank before cs after, f.Written rank cs ∧ (∀ c ∈ before, isBlank c = true) ∧
    (∀ c ∈ after, isBlank c = true) ∧ source.toList = before ++ (cs ++ after)

/-- How loosely a formula binds when nothing is in parentheses. -/
def rank : Formula → Nat
  | literal _ => 0
  | apply op _ _ => op.rank

/-- The characters between parentheses, if these are needed. -/
def enclose (needed : Prop) [Decidable needed] (cs : List Char) : List Char :=
  if needed then '(' :: (cs ++ [')']) else cs

/-- The formula without blanks, and with no parentheses but those that are needed. -/
def chars : Formula → List Char
  | literal n => Nat.toDigits 10 n
  | apply op left right =>
    enclose (op.rank < left.rank) left.chars ++
      op.sign :: enclose (op.rank ≤ right.rank) right.chars

/-- **The formula as a source**, in the shortest way. -/
def print (f : Formula) : String :=
  String.ofList f.chars

/-- An operand that is put between parentheses if needed binds tightly enough. -/
theorem Written.enclose {f : Formula} {cs : List Char} (h : f.Written f.rank cs) (needed : Prop)
    [Decidable needed] :
    f.Written (if needed then 0 else f.rank) (Formula.enclose needed cs) := by
  unfold Formula.enclose
  split
  · exact .enclosed (List.forall_mem_nil _) h (List.forall_mem_nil _)
  · exact h

theorem written_chars (f : Formula) : f.Written f.rank f.chars := by
  induction f with
  | literal n => exact .literal 0
  | apply op left right ihl ihr =>
    refine .apply (ihl.enclose _) ?_ (List.forall_mem_nil _) (List.forall_mem_nil _)
      (ihr.enclose _) ?_
    · split <;> omega
    · have : 0 < op.rank := Nat.succ_pos _
      split <;> omega

theorem spelledBy_print (f : Formula) : f.SpelledBy f.print :=
  ⟨f.rank, [], f.chars, [], f.written_chars, List.forall_mem_nil _, List.forall_mem_nil _,
    by rw [print, String.toList_ofList, List.append_nil, List.nil_append]⟩

/-! ### Reading formulas -/

open Lexer (ReadsAs Ends)

/-- From the column on, the characters are read as an expression of a rank that has the value of
the formula in whatever context it is evaluated. -/
def ReadFrom (column : Nat) (cs : List Char) (rank : Nat) (f : Formula) : Prop :=
  ∃ (ts : List Token) (e : Expr) (n : Int64), ReadsAs column cs ts ∧ e.DerivationOf ts ∧
    e.rank = rank ∧ n.toInt = f.value ∧
    ∀ {σ : Type} (host : Host σ) (context : Object), Eval.expr host context e = pure (.integer n)

theorem readFrom_literal {n : Nat} (zeros : Nat) (h : (literal n).Exact) (column : Nat) :
    ReadFrom column (List.replicate zeros '0' ++ Nat.toDigits 10 n) 0 (.literal n) := by
  obtain ⟨w, hw⟩ := h.exists_toInt
  have hw : w.toInt = n := hw
  have hnonneg : 0 ≤ w.toInt := by omega
  obtain ⟨ts, t, hreads, hterm, hmeans⟩ := Value.readFrom_integer zeros hnonneg column
  rw [hw, Int.toNat_natCast] at hreads
  refine ⟨ts, .term t, w, hreads, .term hterm, rfl, hw, fun host context => ?_⟩
  rw [Eval.expr]
  exact hmeans host context

theorem ReadFrom.apply {op : Operator} {left right : Formula} {i j column : Nat}
    {cs before after ds : List Char} (hleft : ReadFrom column cs i left) (hi : i ≤ op.rank)
    (hbefore : ∀ c ∈ before, isBlank c = true) (hafter : ∀ c ∈ after, isBlank c = true)
    (hright : ReadFrom (column + cs.length + before.length + 1 + after.length) ds j right)
    (hj : j < op.rank) (hexact : (Formula.apply op left right).Exact) :
    ReadFrom column (cs ++ (before ++ op.sign :: (after ++ ds))) op.rank
      (.apply op left right) := by
  obtain ⟨ts, e, a, hreads, hd, hrank, ha, heval⟩ := hleft
  obtain ⟨us, e', b, hreads', hd', hrank', hb, heval'⟩ := hright
  obtain ⟨n, hn⟩ := hexact.exists_toInt
  obtain ⟨-, -, hop, -⟩ := hexact
  have hends : Ends (before ++ op.sign :: (after ++ ds)) :=
    (Lexer.ends_of_blanks hbefore).append (Lexer.ends_cons op.continuesWord_sign _)
  have hbehind := ((hreads'.blanks hafter).punctuation op.ofPunctuation?_sign).blanks hbefore
  have hvalue : Value.integers op a b = .ok (.integer n) := by
    refine Value.integers_of_toInt ?_ ?_
    · rwa [ha, hb]
    · rw [ha, hb]
      exact hn
  refine ⟨_, .binary op.level e _ e', n, hreads.append hbehind hends,
    .binary op.accepts_kind ?_ ?_ hd hd', rfl, hn, fun host context => ?_⟩
  · rwa [hrank, op.leftRank_level]
  · rw [hrank']
    exact Nat.le_of_lt_succ hj
  · rw [Eval.expr, heval host context, heval' host context, pure_bind, pure_bind,
      Eval.operate_level, Value.arithmetic, hvalue]
    rfl

theorem ReadFrom.enclosed {f : Formula} {rank column : Nat} {before cs after : List Char}
    (h : ReadFrom (column + 1 + before.length) cs rank f)
    (hbefore : ∀ c ∈ before, isBlank c = true) (hafter : ∀ c ∈ after, isBlank c = true) :
    ReadFrom column ('(' :: (before ++ (cs ++ (after ++ [')'])))) 0 f := by
  obtain ⟨ts, e, n, hreads, hd, -, hn, heval⟩ := h
  have hclosing := (Lexer.readsAs_nil (column + 1 + before.length + cs.length + after.length + 1)
    |>.punctuation (c := ')') rfl).blanks hafter
  have hends : Ends (after ++ [')']) :=
    (Lexer.ends_of_blanks hafter).append (Lexer.ends_cons (by decide) [])
  have hinside := (hreads.append hclosing hends).blanks hbefore
  refine ⟨_, .term (.group _ e _), n, hinside.punctuation rfl, .term (.group rfl hd rfl), rfl, hn,
    fun host context => ?_⟩
  rw [Eval.expr, Eval.term]
  exact heval host context

/-- **A formula is read as its value**, wherever it stands. -/
theorem Written.readFrom {f : Formula} {rank : Nat} {cs : List Char} (h : f.Written rank cs)
    (hexact : f.Exact) (column : Nat) : ReadFrom column cs rank f := by
  induction h generalizing column with
  | literal zeros => exact readFrom_literal zeros hexact column
  | apply _ hi hbefore hafter _ hj ihl ihr =>
    exact (ihl hexact.1 column).apply hi hbefore hafter (ihr hexact.2.1 _) hj hexact
  | enclosed hbefore _ hafter ih => exact (ih hexact _).enclosed hbefore hafter

end Formula

/-- **Formulas of whole numbers are computed as in ordinary arithmetic.** Take a formula of numerals
and the four operators in which 64 bits can hold the number of every part, no divisor is zero and
every quotient is exact. Its shortest text spells it, and every text that does, with more
parentheses, blanks or zeros in front of the numerals, is parsed; what is parsed has as its value, in
whatever context, the whole number that the formula stands for. No call is made. -/
theorem exact_formulas_are_computed {f : Formula} (hexact : f.Exact) :
    f.SpelledBy f.print ∧ ∀ source, f.SpelledBy source → ∃ e n, parse source = .ok e ∧
      n.toInt = f.value ∧ ∀ {σ : Type} (host : Host σ) (context : Object) (run : Run σ),
        e.evaluate host context run = (.ok (.integer n), run) := by
  refine ⟨f.spelledBy_print, ?_⟩
  rintro source ⟨rank, before, cs, after, hwritten, hbefore, hafter, hsource⟩
  obtain ⟨ts, e, n, hreads, hd, -, hn, heval⟩ := hwritten.readFrom hexact (1 + before.length)
  have hbehind := hreads.append (Lexer.readsAs_blanks _ hafter) (Lexer.ends_of_blanks hafter)
  rw [List.append_nil] at hbehind
  have hlex : tokenize source = ⟨ts, []⟩ := by
    refine Lexer.ReadsAs.tokenize_eq ?_
    rw [hsource]
    exact hbehind.blanks hbefore
  refine ⟨e, n, ?_, hn, fun host context run => ?_⟩
  · rw [parse_eq_ok_iff, hlex]
    exact ⟨rfl, hd⟩
  · rw [Expr.evaluate_eq_ok, heval host context]
    rfl

/-- The least whole number of 64 bits, which no numeral spells, is halved and doubled again. -/
theorem exact_formulas_are_computed_least :
    ∃ e n, parse "(0 - 9223372036854775807 - 1) /02* 2" = .ok e ∧ n = Int64.minValue ∧
      e.evaluate (⟨fun _ _ s => (.ok .null, s)⟩ : Host Unit) [] ⟨(), []⟩ =
        (.ok (.integer n), ⟨(), []⟩) := by
  have hnone : ∀ c ∈ ([] : List Char), isBlank c = true := List.forall_mem_nil _
  have hone : ∀ c ∈ [' '], isBlank c = true := List.forall_mem_singleton.2 rfl
  have hdigits : Nat.toDigits 10 9223372036854775807 = "9223372036854775807".toList := by
    decide +kernel
  have hgreatest : Formula.Written (.literal 9223372036854775807) 0 "9223372036854775807".toList :=
    hdigits ▸ .literal 0
  have hleast : Formula.Written (.apply .subtract (.apply .subtract (.literal 0)
      (.literal 9223372036854775807)) (.literal 1)) 4 "0 - 9223372036854775807 - 1".toList :=
    .apply (.apply (.literal 0) (by decide) hone hone hgreatest (by decide)) (by decide) hone hone
      (.literal 0) (by decide)
  have hall : Formula.Written (.apply .multiply (.apply .divide (.apply .subtract (.apply .subtract
      (.literal 0) (.literal 9223372036854775807)) (.literal 1)) (.literal 2)) (.literal 2)) 3
      "(0 - 9223372036854775807 - 1) /02* 2".toList :=
    .apply (.apply (.enclosed hnone hleast hnone) (by decide) hone hnone (.literal 1) (by decide))
      (by decide) hnone hone (.literal 0) (by decide)
  have hexact : Formula.Exact (.apply .multiply (.apply .divide (.apply .subtract (.apply .subtract
      (.literal 0) (.literal 9223372036854775807)) (.literal 1)) (.literal 2)) (.literal 2)) := by
    simp only [Formula.Exact, Formula.value, Operator.Exact, Operator.combine]
    decide
  obtain ⟨e, n, hparse, hn, heval⟩ :=
    (exact_formulas_are_computed hexact).2 "(0 - 9223372036854775807 - 1) /02* 2"
      ⟨3, [], _, [], hall, hnone, hnone, (List.append_nil _).symm⟩
  refine ⟨e, n, hparse, Int64.toInt_inj.1 ?_, heval _ _ _⟩
  rw [hn]
  decide

end Parley
