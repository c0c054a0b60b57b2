import Parley.Proofs.Number.FloatArithmetic

/-!
# Equality of floats

A float stands for a rational number or for an infinity (`Parley.Binary64.Extended`), or for
nothing if it is not a number. Two floats are equal, in the sense of `==`, exactly when they stand
for the same (`Parley.Binary64.beq_iff`). So this equality is symmetric and transitive, both zeros
are equal, and the floats that do not equal themselves are those that are no numbers
(`Parley.Binary64.beq_self_iff`).

The comparison looks at exponents and mantissas, not at numbers. It is right to do so because they
have the canonical form, in which a number determines both (`Parley.Binary64.Canonical.unique`).
-/

namespace Parley

namespace Binary64

open Float.Model (UnpackedFloat)
open Float.Model.UnpackedFloat (Sign)

/-- What a float stands for that is a number: a rational one, or an infinity on either side. -/
inductive Extended where
  | infinite (negative : Bool)
  | finite (q : ℚ)

/-- What a shape stands for, if anything. -/
def Shape.extended? : Shape → Option Extended
  | .nan => none
  | .infinite negative => some (.infinite negative)
  | .finite negative m e => some (.finite (signed negative m * 2 ^ e))

/-- **What a float stands for**, unless it is not a number. -/
def extended? (x : Float) : Option Extended :=
  (shape x).extended?

theorem extended?_eq_finite_iff {x : Float} {q : ℚ} :
    extended? x = some (.finite q) ↔ value? x = some q := by
  rw [extended?, value?]
  cases shape x with
  | finite negative m e =>
    rw [Shape.extended?, Shape.value?, Option.some_inj, Option.some_inj, Extended.finite.injEq]
  | nan => exact iff_of_false (Option.some_ne_none _).symm (Option.some_ne_none _).symm
  | infinite negative =>
    have hne : some (Extended.infinite negative) ≠ some (.finite q) := by
      rintro ⟨⟩
    exact iff_of_false hne (Option.some_ne_none _).symm

/-- A float that has been taken apart is not a number, an infinity, or it is a number. -/
theorem unpack_cases (x : Float) :
    (x.toModel.unpack = .notANumber ∧ extended? x = none) ∨
      (∃ s, x.toModel.unpack = .infinity s ∧ extended? x = some (.infinite (isMinus s))) ∨
      ∃ q, Stands x.toModel.unpack q ∧ extended? x = some (.finite q) := by
  have hshape := ofUnpacked_unpack x
  cases hu : x.toModel.unpack with
  | notANumber =>
    rw [hu] at hshape
    exact .inl ⟨rfl, congrArg Shape.extended? hshape.symm⟩
  | infinity s =>
    rw [hu] at hshape
    exact .inr (.inl ⟨s, rfl, congrArg Shape.extended? hshape.symm⟩)
  | zero s =>
    have hvalue : value? x = some 0 := value?_eq_some_iff.2 (hu.symm ▸ .zero s)
    exact .inr (.inr ⟨0, .zero s, extended?_eq_finite_iff.2 hvalue⟩)
  | finite s m e hm =>
    rw [hu] at hshape
    have hstands := Stands.finite s hm (canonical_of_shape hshape.symm)
    have hvalue := value?_eq_some_iff.2 (hu.symm ▸ hstands)
    exact .inr (.inr ⟨_, hstands, extended?_eq_finite_iff.2 hvalue⟩)

/-! ### Finite floats -/

theorem Canonical.not_lt {m m' : Nat} {e e' : Int} (h : Canonical m e) (h' : Canonical m' e')
    (heq : (m : ℚ) * 2 ^ e = m' * 2 ^ e') : ¬e < e' := by
  intro hlt
  have hleast := h.least_le
  have hhidden := h'.hidden.resolve_right (by omega)
  obtain ⟨d, rfl⟩ : ∃ d : ℕ, e' = e + (d + 1 : ℕ) := ⟨(e' - e - 1).toNat, by omega⟩
  have hpow : (0 : ℚ) < 2 ^ e := by positivity
  have hm : m = m' * 2 ^ (d + 1) := by
    rw [zpow_add₀ two_ne_zero, zpow_natCast, mul_comm (2 ^ e), ← mul_assoc] at heq
    exact_mod_cast mul_right_cancel₀ hpow.ne' heq
  have htwo : 2 ≤ 2 ^ (d + 1) := Nat.le_self_pow (Nat.succ_ne_zero d) 2
  have hle : hiddenBit * 2 ≤ m := hm ▸ Nat.mul_le_mul hhidden htwo
  have := h.mantissa_lt
  omega

/-- **A number has one mantissa and one exponent** in the canonical form. -/
theorem Canonical.unique {m m' : Nat} {e e' : Int} (h : Canonical m e) (h' : Canonical m' e')
    (heq : (m : ℚ) * 2 ^ e = m' * 2 ^ e') : e = e' ∧ m = m' := by
  obtain rfl : e = e' := by
    have := h.not_lt h' heq
    have := h'.not_lt h heq.symm
    omega
  have hpow : (0 : ℚ) < 2 ^ e := by positivity
  exact ⟨rfl, by exact_mod_cast mul_right_cancel₀ hpow.ne' heq⟩

/-- Exponents and mantissas that compare as equal are equal. -/
theorem compare_then_eq_iff {m m' : Nat} {e e' : Int} :
    (compare e e').then (compare m m') = .eq ↔ e = e' ∧ m = m' := by
  rw [Ordering.then_eq_eq, compare_eq_iff_eq, compare_eq_iff_eq]

/-- Numbers of different signs are different. -/
theorem unit_mul_ne_of_ne {s t : Sign} (h : s ≠ t) {p q : ℚ} (hp : 0 < p) (hq : 0 < q) :
    unit s * p ≠ unit t * q := by
  cases s <;> cases t <;> first | exact absurd rfl h | skip
  all_goals
    simp only [unit, Sign.apply]
    push_cast
    linarith

/-- **Finite floats are equal when their numbers are.** -/
theorem Stands.beq_iff {a b : UnpackedFloat} {p q : ℚ} (ha : Stands a p) (hb : Stands b q) :
    a.beq b = true ↔ p = q := by
  cases ha with
  | zero s =>
    cases hb with
    | zero t => exact iff_of_true rfl rfl
    | @finite t m e hm _ =>
      have hne : UnpackedFloat.beq (.zero s) (.finite t m e hm) = false := by cases t <;> rfl
      exact iff_of_false (Bool.eq_false_iff.1 hne) (unit_mul_pow_ne_zero t hm _).symm
  | @finite s m e hm h =>
    cases hb with
    | zero t =>
      have hne : UnpackedFloat.beq (.finite s m e hm) (.zero t) = false := by cases s <;> rfl
      exact iff_of_false (Bool.eq_false_iff.1 hne) (unit_mul_pow_ne_zero s hm _)
    | @finite t m' e' hm' h' =>
      have hsame : (m : ℚ) * 2 ^ e = m' * 2 ^ e' ↔ e = e' ∧ m = m' :=
        ⟨h.unique h', by rintro ⟨rfl, rfl⟩; rfl⟩
      rw [mul_assoc, mul_assoc]
      rcases eq_or_ne s t with rfl | hne
      · rw [mul_right_inj' (unit_ne_zero s), hsame, ← compare_then_eq_iff, UnpackedFloat.beq,
          beq_iff_eq]
        cases s with
        | positive => exact Option.some_inj
        | negative => exact Option.some_inj.trans Ordering.swap_eq_eq
      · have hpos : (0 : ℚ) < m * 2 ^ e := by positivity
        have hpos' : (0 : ℚ) < m' * 2 ^ e' := by positivity
        refine iff_of_false (Bool.eq_false_iff.1 ?_) (unit_mul_ne_of_ne hne hpos hpos')
        cases s <;> cases t <;> first | exact absurd rfl hne | rfl

/-! ### Floats -/

/-- An infinity equals no finite float. -/
theorem Stands.beq_infinity {u : UnpackedFloat} {q : ℚ} (h : Stands u q) (s : Sign) :
    u.beq (.infinity s) = false ∧ UnpackedFloat.beq (.infinity s) u = false := by
  cases h <;> cases s <;> exact ⟨rfl, rfl⟩

theorem beq_infinity_iff {s t : Sign} :
    UnpackedFloat.beq (.infinity s) (.infinity t) = true ↔ isMinus s = isMinus t := by
  cases s <;> cases t <;> decide

/-- What is not a number equals nothing. -/
theorem beq_notANumber (u : UnpackedFloat) :
    u.beq .notANumber = false ∧ UnpackedFloat.beq .notANumber u = false := by
  cases u with
  | infinity s => cases s <;> exact ⟨rfl, rfl⟩
  | finite s m e hm => cases s <;> exact ⟨rfl, rfl⟩
  | _ => exact ⟨rfl, rfl⟩

/-- **Floats are equal when they stand for the same.** -/
theorem beq_iff {x y : Float} :
    (x == y) = true ↔ ∃ r, extended? x = some r ∧ extended? y = some r := by
  have hbeq : (x == y) = x.toModel.unpack.beq y.toModel.unpack := rfl
  rw [hbeq]
  rcases unpack_cases x with ⟨hx, hx'⟩ | ⟨s, hx, hx'⟩ | ⟨p, hp, hx'⟩
  · rw [hx, (beq_notANumber _).2, hx']
    exact iff_of_false Bool.false_ne_true (by rintro ⟨r, ⟨⟩, -⟩)
  · rcases unpack_cases y with ⟨hy, hy'⟩ | ⟨t, hy, hy'⟩ | ⟨q, hq, hy'⟩
    · rw [hy, (beq_notANumber _).1, hy']
      exact iff_of_false Bool.false_ne_true (by rintro ⟨r, -, ⟨⟩⟩)
    · rw [hx, hy, beq_infinity_iff, hx', hy']
      simp [eq_comm]
    · rw [hx, (hq.beq_infinity s).2, hx', hy']
      exact iff_of_false Bool.false_ne_true (by rintro ⟨r, ⟨⟩, ⟨⟩⟩)
  · rcases unpack_cases y with ⟨hy, hy'⟩ | ⟨t, hy, hy'⟩ | ⟨q, hq, hy'⟩
    · rw [hy, (beq_notANumber _).1, hy']
      exact iff_of_false Bool.false_ne_true (by rintro ⟨r, -, ⟨⟩⟩)
    · rw [hy, (hp.beq_infinity t).1, hx', hy']
      exact iff_of_false Bool.false_ne_true (by rintro ⟨r, ⟨⟩, ⟨⟩⟩)
    · rw [hp.beq_iff hq, hx', hy']
      simp [eq_comm]

theorem beq_comm (x y : Float) : (x == y) = (y == x) := by
  rw [Bool.eq_iff_iff, beq_iff, beq_iff]
  exact exists_congr fun r => and_comm

theorem Stands.isNaN_eq_false {u : UnpackedFloat} {q : ℚ} (h : Stands u q) : u.isNaN = false := by
  cases h <;> rfl

theorem isNaN_eq_false_iff {x : Float} : x.isNaN = false ↔ ∃ r, extended? x = some r := by
  have hnan : x.isNaN = x.toModel.unpack.isNaN := rfl
  rw [hnan]
  rcases unpack_cases x with ⟨hx, hx'⟩ | ⟨s, hx, hx'⟩ | ⟨q, hq, hx'⟩
  · rw [hx, hx']
    exact iff_of_false nofun (by rintro ⟨r, ⟨⟩⟩)
  · rw [hx, hx']
    exact iff_of_true rfl ⟨_, rfl⟩
  · rw [hq.isNaN_eq_false, hx']
    exact iff_of_true rfl ⟨_, rfl⟩

/-- The floats that equal themselves are those that are numbers. -/
theorem beq_self_iff {x : Float} : (x == x) = true ↔ x.isNaN = false := by
  rw [beq_iff, isNaN_eq_false_iff]
  exact exists_congr fun r => and_self_iff

end Binary64

end Parley
