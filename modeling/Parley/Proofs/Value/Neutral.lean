import Parley.Proofs.Number.ShortDigits
import Parley.Proofs.Value.Mixed

/-!
# Neutral numbers

Adding zero to a float, or multiplying it by one, should leave it as it is. With the zero or the one
a whole number it need not: the two meet as decimals, and the float has to go through a decimal and
back. The decimal arithmetic between is exact (`Parley.Value.NeutralFor.exists_ofDecimal`), so it is
the two conversions alone that change the number, and for all six ways of applying a neutral number
they change it alike. They leave floats without a fraction and floats with few digits as they are
(`Parley.Decimal.Unchanged`), and the others close to where they were.

A float that does not become a decimal is large and has no fraction. There the operation is one on
floats, and it is exact as well (`Parley.Value.NeutralFor.exists_float`).
-/

namespace Parley

namespace Decimal

open Binary64 (hiddenBit signed)

/-! ### Neutral decimals -/

/-- `Same d d'`: the two are one decimal, or both are zero. -/
def Same (d d' : Decimal) : Prop :=
  d' = d ∨ d.isZero = true ∧ d'.isZero = true

theorem divHalfEven_one (m : Nat) : divHalfEven m 1 = m := by
  rw [divHalfEven]
  simp [Nat.mod_one]

/-- Nothing is given up of a decimal. -/
theorem fit?_eq (negative : Bool) {m scale : Nat} (hlt : m < limit) (hscale : scale ≤ maxScale) :
    fit? negative m scale = some ⟨negative, m, scale⟩ := by
  have hexcess : max (excess m) (scale - maxScale) = 0 := by
    rw [excess, if_pos hlt, Nat.sub_eq_zero_of_le hscale]
    rfl
  have hround : divHalfEven m (Nat.pow 10 0) = m := divHalfEven_one m
  rw [fit?]
  dsimp only
  rw [hexcess, if_neg (Nat.not_lt_zero scale), hround, if_pos hlt, Nat.sub_zero]

variable {d : Decimal}

theorem exists_add?_zero (d : Decimal) : ∃ d', d.add? (ofWhole 0) = some d' ∧ Same d d' := by
  rw [add?]
  split
  · rename_i hzero
    exact ⟨_, rfl, .inr ⟨hzero, rfl⟩⟩
  · exact ⟨d, rfl, .inl rfl⟩

theorem sub?_zero (d : Decimal) : d.sub? (ofWhole 0) = d.add? (ofWhole 0) :=
  rfl

theorem exists_mul?_one (hlt : d.mantissa < limit) (hscale : d.scale ≤ maxScale) :
    ∃ d', d.mul? (ofWhole 1) = some d' ∧ Same d d' := by
  rw [mul?]
  split
  · rename_i hzero
    exact ⟨_, rfl, .inr ⟨by simpa [ofWhole, isZero] using hzero, rfl⟩⟩
  · refine ⟨d, ?_, .inl rfl⟩
    have := fit?_eq d.negative hlt hscale
    simpa [ofWhole] using this

theorem mul?_comm (a b : Decimal) : a.mul? b = b.mul? a := by
  rw [mul?, mul?, Bool.or_comm, Nat.mul_comm, Nat.add_comm, bne_comm]

theorem exists_div?_one (d : Decimal) : ∃ d', d.div? (ofWhole 1) = some d' ∧ Same d d' := by
  rw [div?]
  split
  · rename_i hzero
    exact ⟨_, rfl, .inr ⟨hzero, rfl⟩⟩
  · refine ⟨d, ?_, .inl rfl⟩
    have hrun (n : Nat) : Quotient.run 1 true 64 ⟨n, 0, d.scale⟩ = some (true, n, d.scale) := by
      rw [Quotient.run, if_pos ⟨rfl, Int.natCast_nonneg _⟩]
      rfl
    have hone : (ofWhole 1).mantissa = 1 := rfl
    have hscale : (d.scale : Int) - (ofWhole 1).scale = d.scale := Int.sub_zero _
    dsimp only
    rw [hone, hscale, Nat.div_one, Nat.mod_one, hrun]
    cases d with
    | mk negative m scale => cases negative <;> rfl

/-- The numbers that stay themselves on their way through a decimal: those without a fraction, and
those that have few digits. -/
def Unchanged (q : ℚ) : Prop :=
  (∃ n : ℤ, q = n) ∨ ∃ n k : ℕ, n < hiddenBit ∧ |q| = n / 10 ^ k

end Decimal

namespace Value

open Binary64 (hiddenBit value? Representable)
open Decimal (Same Unchanged)
open EvalError (Complaint)

variable {d d' : Decimal} {x : Float} {q : ℚ} {op : Operator} {a b : Value}

theorem number?_ofDecimal_of_isZero (h : d.isZero = true) : (ofDecimal d).number? = some 0 := by
  have hwhole : d.whole? = some 0 := by
    rw [Decimal.whole?, of_decide_eq_true h, if_pos (Nat.zero_mod _), Nat.zero_div]
    cases d.negative <;> rfl
  rw [ofDecimal, hwhole, number?_integer_eq_zero]

theorem number?_ofDecimal_of_same (h : Same d d') :
    (ofDecimal d').number? = (ofDecimal d).number? := by
  rcases h with rfl | ⟨hd, hd'⟩
  · rfl
  · rw [number?_ofDecimal_of_isZero hd, number?_ofDecimal_of_isZero hd']

/-- What a decimal becomes as a value. -/
theorem exists_number?_ofDecimal (hlt : d.mantissa < Decimal.limit)
    (hscale : d.scale ≤ Decimal.maxScale) (hshort : d.scale = 0 ∨ d.mantissa < hiddenBit) :
    ∃ r, (ofDecimal d).number? = some r ∧ |r - d.value| ≤ 19 / 2 ^ 53 * |d.value| ∧
      (d.mantissa % 10 ^ d.scale = 0 ∨ d.scale ≤ 22 → Representable d.value → r = d.value) := by
  rw [ofDecimal]
  cases hwhole : d.whole? with
  | some n =>
    have hn := Decimal.toInt_of_whole?_eq_some hwhole
    refine ⟨_, rfl, ?_, fun _ _ => hn⟩
    rw [hn, sub_self, abs_zero]
    positivity
  | none =>
    by_cases hmod : d.mantissa % 10 ^ d.scale = 0
    · obtain ⟨r, hr, hrounds⟩ := Decimal.exists_value?_toFloat_of_whole hlt hmod
      refine ⟨r, hr, ?_, fun _ => hrounds.eq_of_representable⟩
      obtain ⟨n, hn⟩ := Decimal.mod_eq_zero_iff.1 hmod
      rw [hn] at hrounds ⊢
      have hnear := hrounds.abs_sub_le_of_int
      rw [Binary64.hiddenBit_eq] at hnear
      linarith [abs_nonneg (n : ℚ)]
    · have hscale' : d.scale ≠ 0 := fun h => hmod (by rw [h, pow_zero, Nat.mod_one])
      have hm := hshort.resolve_left hscale'
      obtain ⟨r, hr, hnear⟩ := Decimal.exists_value?_toFloat hscale hm hmod
      refine ⟨r, hr, hnear, fun hs hrep => ?_⟩
      have hexact := Decimal.value?_toFloat_of_representable (hs.resolve_left hmod) hm hmod hrep
      exact Option.some_inj.1 (hr.symm.trans hexact)

/-- What a float becomes on its way through a decimal. -/
theorem exists_number?_of_ofFloat? (hx : value? x = some q) (hd : Decimal.ofFloat? x = some d) :
    ∃ r, (ofDecimal d).number? = some r ∧ |r - q| ≤ |q| / 10 ^ 14 + 1 / 10 ^ 28 ∧
      (Unchanged q → r = q) := by
  have henters := Decimal.enters_of_ofFloat? hx hd
  have hrep := Binary64.representable_of_value? hx
  obtain ⟨r, hr, hnear, hexact⟩ :=
    exists_number?_ofDecimal henters.mantissa_lt henters.scale_le henters.short
  refine ⟨r, hr, ?_, ?_⟩
  · have htriangle := abs_sub_le r d.value q
    cases hzero : d.isZero with
    | true =>
      have hvalue := (Decimal.isZero_iff_value d).1 hzero
      have hsmall := henters.isZero_iff.1 hzero
      rw [hvalue, abs_zero, mul_zero, sub_zero] at hnear
      rw [hvalue, sub_zero, zero_sub, abs_neg] at htriangle
      linarith [abs_nonneg q]
    | false =>
      have hclose := henters.near hzero
      have hvalue := abs_sub_abs_le_abs_sub d.value q
      linarith [abs_nonneg q]
  · rintro (⟨z, hz⟩ | ⟨n, k, hn, hq⟩)
    · have hvalue := henters.whole ⟨z, hz⟩
      have hmod := Decimal.mod_eq_zero_iff.2 ⟨z, hvalue.trans hz⟩
      exact (hexact (.inl hmod) (hvalue ▸ hrep)).trans hvalue
    · obtain ⟨hvalue, hscale⟩ := Decimal.value_of_ofFloat? hx hd hn hq
      have hdigits := hscale.symm.imp_left fun ⟨z, hz⟩ =>
        Decimal.mod_eq_zero_iff.2 ⟨z, hvalue.trans hz⟩
      exact (hexact hdigits (hvalue ▸ hrep)).trans hvalue

/-- `NeutralFor x op a b`: the operator is applied to `x` and to a whole number that is neutral on
its side. -/
inductive NeutralFor (x : Float) : Operator → Value → Value → Prop
  | addZero : NeutralFor x .add (float x) (integer 0)
  | zeroAdd : NeutralFor x .add (integer 0) (float x)
  | subtractZero : NeutralFor x .subtract (float x) (integer 0)
  | multiplyOne : NeutralFor x .multiply (float x) (integer 1)
  | oneMultiply : NeutralFor x .multiply (integer 1) (float x)
  | divideOne : NeutralFor x .divide (float x) (integer 1)

/-- A decimal comes out as it went in. -/
theorem NeutralFor.exists_ofDecimal (h : NeutralFor x op a b) (hd : Decimal.ofFloat? x = some d)
    (hlt : d.mantissa < Decimal.limit) (hscale : d.scale ≤ Decimal.maxScale) :
    ∃ d', arithmetic op a b = .ok (ofDecimal d') ∧ Same d d' := by
  have hone : (Decimal.ofWhole 1).isZero = false := rfl
  cases h <;> simp only [arithmetic, hd, mixed, decimals?]
  case addZero =>
    obtain ⟨d', hd', hsame⟩ := d.exists_add?_zero
    exact ⟨d', by rw [hd']; rfl, hsame⟩
  case zeroAdd => exact ⟨d, rfl, .inl rfl⟩
  case subtractZero =>
    obtain ⟨d', hd', hsame⟩ := d.exists_add?_zero
    exact ⟨d', by rw [Decimal.sub?_zero, hd']; rfl, hsame⟩
  case multiplyOne =>
    obtain ⟨d', hd', hsame⟩ := Decimal.exists_mul?_one hlt hscale
    exact ⟨d', by rw [hd']; rfl, hsame⟩
  case oneMultiply =>
    obtain ⟨d', hd', hsame⟩ := Decimal.exists_mul?_one hlt hscale
    exact ⟨d', by rw [Decimal.mul?_comm, hd']; rfl, hsame⟩
  case divideOne =>
    obtain ⟨d', hd', hsame⟩ := d.exists_div?_one
    exact ⟨d', by rw [hone, if_neg Bool.false_ne_true, hd']; rfl, hsame⟩

/-- A float that is not turned into a decimal stays the number that it is. -/
theorem NeutralFor.exists_float (h : NeutralFor x op a b) (hx : value? x = some q)
    (hd : Decimal.ofFloat? x = none) :
    ∃ y, arithmetic op a b = .ok (.float y) ∧ value? y = some q := by
  have hrep := Binary64.representable_of_value? hx
  have hzero : value? (Whole.toFloat 0) = some 0 := by decide +kernel
  have hone : value? (Whole.toFloat 1) = some 1 := by decide +kernel
  cases h <;> simp only [arithmetic, hd, mixed]
  case addZero =>
    refine ⟨_, rfl, ?_⟩
    rw [Binary64.value?_add hx hzero (by rwa [add_zero]), add_zero]
  case zeroAdd =>
    refine ⟨_, rfl, ?_⟩
    rw [Binary64.value?_add hzero hx (by rwa [zero_add]), zero_add]
  case subtractZero =>
    refine ⟨_, rfl, ?_⟩
    rw [Binary64.value?_sub hx hzero (by rwa [sub_zero]), sub_zero]
  case multiplyOne =>
    refine ⟨_, rfl, ?_⟩
    rw [Binary64.value?_mul hx hone (by rwa [mul_one]), mul_one]
  case oneMultiply =>
    refine ⟨_, rfl, ?_⟩
    rw [Binary64.value?_mul hone hx (by rwa [one_mul]), one_mul]
  case divideOne =>
    refine ⟨_, floats_divide_of_ne (by simp [hone]), ?_⟩
    rw [Binary64.value?_div hx hone one_ne_zero (by rwa [div_one]), div_one]

/-- All that a float and a neutral number come to is one number near the float. -/
theorem exists_number?_of_neutralFor (hx : value? x = some q) :
    ∃ r, |r - q| ≤ |q| / 10 ^ 14 + 1 / 10 ^ 28 ∧ (Unchanged q → r = q) ∧
      ∀ op a b, NeutralFor x op a b → ∃ v, arithmetic op a b = .ok v ∧ v.number? = some r := by
  cases hd : Decimal.ofFloat? x with
  | none =>
    refine ⟨q, ?_, fun _ => rfl, fun op a b h => ?_⟩
    · rw [sub_self, abs_zero]
      positivity
    · obtain ⟨y, hy, hyq⟩ := h.exists_float hx hd
      exact ⟨_, hy, hyq⟩
  | some d =>
    obtain ⟨r, hr, hnear, hexact⟩ := exists_number?_of_ofFloat? hx hd
    have henters := Decimal.enters_of_ofFloat? hx hd
    refine ⟨r, hnear, hexact, fun op a b h => ?_⟩
    obtain ⟨d', hd', hsame⟩ := h.exists_ofDecimal hd henters.mantissa_lt henters.scale_le
    exact ⟨_, hd', (number?_ofDecimal_of_same hsame).trans hr⟩

end Value

/-- **How neutral a neutral number is.** Let `x` be a finite float that is `q`. The six ways to add
or take away the whole number zero, or to multiply or divide by the whole number one, all come to
one number, which differs from `q` by at most one part in `10 ^ 14` and `1 / 10 ^ 28`. It is `q`
itself if `q` has no fraction, and also if it has a decimal expansion with digits that are, read as
one number, below `2 ^ 52`. -/
theorem neutral_number_keeps_float_near {x : Float} {q : ℚ} (hx : Binary64.value? x = some q) :
    ∃ r, |r - q| ≤ |q| / 10 ^ 14 + 1 / 10 ^ 28 ∧ (Decimal.Unchanged q → r = q) ∧
      ∀ {σ : Type} {host : Host σ} {context : Object} {level : Level} {token : Token}
        {op : Operator} {left right : Expr} {a b : Value} {run run' run'' : Run σ},
        level = .sum ∨ level = .product → Operator.ofKind? token.kind = some op →
        left.evaluate host context run = (.ok a, run') →
        right.evaluate host context run' = (.ok b, run'') → Value.NeutralFor x op a b →
        ∃ v, (Expr.binary level left token right).evaluate host context run = (.ok v, run'') ∧
          v.number? = some r := by
  obtain ⟨r, hnear, hexact, hall⟩ := Value.exists_number?_of_neutralFor hx
  refine ⟨r, hnear, hexact, fun hlevel hop hleft hright hneutral => ?_⟩
  obtain ⟨v, hv, hr⟩ := hall _ _ _ hneutral
  refine ⟨v, ?_, hr⟩
  rw [Expr.evaluate_eq_ok, Eval.expr_arithmetic hlevel hop hleft hright, hv]
  rfl

/-- Zero added to the float `4438674.98`. Its digits are rounded off one by one, which leaves
`4438674.980000001`, and this is another float. -/
theorem neutral_number_keeps_float_near_changed :
    ∃ q r, Binary64.value? (Float.ofBits 0x4150eea4beb851ec) = some q ∧
      |r - q| ≤ |q| / 10 ^ 14 + 1 / 10 ^ 28 ∧ r ≠ q ∧
      ∃ v, (Expr.binary .sum (.term (.path ⟨.identifier, "x", 1⟩ [])) ⟨.plus, "+", 3⟩
          (.term (.number ⟨.number, "0", 5⟩))).evaluate
        (⟨fun _ _ s => (.ok .null, s)⟩ : Host Unit)
        [("x", .float (Float.ofBits 0x4150eea4beb851ec))] ⟨(), []⟩ = (.ok v, ⟨(), []⟩) ∧
      v.number? = some r := by
  have hd : Decimal.ofFloat? (Float.ofBits 0x4150eea4beb851ec) =
      some ⟨false, 4438674980000001, 9⟩ := by
    decide +kernel
  have hsum : Value.arithmetic .add (.float (Float.ofBits 0x4150eea4beb851ec)) (.integer 0) =
      .ok (.float (Decimal.toFloat ⟨false, 4438674980000001, 9⟩)) := by
    rw [Value.arithmetic, hd]
    rfl
  have hne : Binary64.value? (Decimal.toFloat ⟨false, 4438674980000001, 9⟩) ≠
      Binary64.value? (Float.ofBits 0x4150eea4beb851ec) := by
    decide +kernel
  -- from here on the two floats are not to be computed with
  generalize Float.ofBits 0x4150eea4beb851ec = x at *
  generalize Decimal.toFloat ⟨false, 4438674980000001, 9⟩ = y at *
  obtain ⟨q, hq⟩ := Decimal.exists_value?_of_ofFloat? hd
  obtain ⟨r, hnear, -, hall⟩ := neutral_number_keeps_float_near hq
  refine ⟨q, r, hq, hnear, (and_iff_right_of_imp ?_).2
    (hall (.inl rfl) (rfl : Operator.ofKind? .plus = some .add) rfl rfl .addZero)⟩
  rintro ⟨v, hv, hr⟩ rfl
  have heval := (Expr.evaluate_eq_ok.1 hv).symm.trans
    (Eval.expr_arithmetic (.inl rfl) (rfl : Operator.ofKind? .plus = some .add) rfl rfl)
  cases hsum.symm.trans (Eval.orComplain_eq_ok.1 heval.symm).1
  exact hne (hr.trans hq.symm)

end Parley
