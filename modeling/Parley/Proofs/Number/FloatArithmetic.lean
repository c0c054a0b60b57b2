import Parley.Number.Whole
import Parley.Proofs.Number.Rounding

/-!
# Arithmetic on floats

Each operation on floats rounds the exact result (`Parley.Binary64.Rounds`), as long as this is not
beyond the greatest float: the facts about floats that have been taken apart, with the packing put
around them. The bound is a condition of each statement, since what lies beyond it is an infinity
and not a number.

Natural numbers become floats in two ways. Those below `2 ^ 53` are exact, the others pass through
a product, and `Parley.Binary64.exists_value?_ofNat` has one statement for both. Of zero there are
two floats, which `==` does not tell apart; it does tell them from all other floats
(`Parley.Binary64.beq_zero_iff`), and this is what a test for a zero divisor comes to.
-/

namespace Parley

namespace Binary64

open Float.Model (UnpackedFloat)
open Float.Model.UnpackedFloat (Sign)
open Float.Model.Format (binary64)

variable {x y : Float} {p q : ℚ}

theorem abs_le_greatest (hx : value? x = some q) : |q| ≤ greatest :=
  (value?_eq_some_iff.1 hx).abs_le_greatest

theorem exists_value?_add (hx : value? x = some p) (hy : value? y = some q)
    (hmax : |p + q| ≤ greatest) : ∃ r, value? (x + y) = some r ∧ Rounds (p + q) r := by
  obtain ⟨r, hr, hrounds⟩ := stands_add (value?_eq_some_iff.1 hx) (value?_eq_some_iff.1 hy) hmax
  exact ⟨r, hr.value?_pack, hrounds⟩

theorem exists_value?_mul (hx : value? x = some p) (hy : value? y = some q)
    (hmax : |p * q| ≤ greatest) : ∃ r, value? (x * y) = some r ∧ Rounds (p * q) r := by
  obtain ⟨r, hr, hrounds⟩ := stands_mul (value?_eq_some_iff.1 hx) (value?_eq_some_iff.1 hy) hmax
  exact ⟨r, hr.value?_pack, hrounds⟩

theorem exists_value?_div (hx : value? x = some p) (hy : value? y = some q) (hq : q ≠ 0)
    (hmax : |p / q| ≤ greatest) : ∃ r, value? (x / y) = some r ∧ Rounds (p / q) r := by
  obtain ⟨r, hr, hrounds⟩ := stands_div (value?_eq_some_iff.1 hx) (value?_eq_some_iff.1 hy) hq hmax
  exact ⟨r, hr.value?_pack, hrounds⟩

theorem Stands.neg {u : UnpackedFloat} (h : Stands u q) : Stands u.neg (-q) := by
  cases h with
  | zero s => exact neg_zero (G := ℚ) ▸ .zero (-s)
  | finite s hm h =>
    rw [← neg_mul, ← neg_mul, ← unit_neg]
    exact .finite (-s) hm h

theorem value?_neg (hx : value? x = some q) : value? (-x) = some (-q) :=
  (value?_eq_some_iff.1 hx).neg.value?_pack

theorem sub_apply (n : Int) (s : Sign) (m : Int) : n - s.apply m = n + (-s).apply m := by
  cases s with
  | negative => exact sub_neg_eq_add n m
  | positive => exact sub_eq_add_neg n m

/-- Subtracting a float is adding the opposite one. -/
theorem unpacked_sub_eq (a b : UnpackedFloat) :
    UnpackedFloat.sub binary64 a b = UnpackedFloat.add binary64 a b.neg := by
  cases a <;> cases b <;> first | rfl | skip
  rw [UnpackedFloat.sub, UnpackedFloat.neg, UnpackedFloat.add]
  simp only [sub_apply]

theorem exists_value?_sub (hx : value? x = some p) (hy : value? y = some q)
    (hmax : |p - q| ≤ greatest) : ∃ r, value? (x - y) = some r ∧ Rounds (p - q) r := by
  rw [sub_eq_add_neg] at hmax ⊢
  obtain ⟨r, hr, hrounds⟩ := stands_add (value?_eq_some_iff.1 hx) (value?_eq_some_iff.1 hy).neg hmax
  rw [← unpacked_sub_eq] at hr
  exact ⟨r, hr.value?_pack, hrounds⟩

/-! ### Whole numbers -/

theorem two_pow_le_greatest : (2 : ℚ) ^ 200 ≤ greatest := by
  have hpow : (2 : ℚ) ^ (200 : ℤ) ≤ 2 ^ (971 : ℤ) := zpow_le_zpow_right₀ (by norm_num) (by decide)
  have hone : (1 : ℚ) ≤ 2 * hiddenBit - 1 := by
    have : (1 : ℚ) ≤ hiddenBit := by exact_mod_cast (by decide : 1 ≤ hiddenBit)
    linarith
  calc (2 : ℚ) ^ 200 = 1 * 2 ^ (200 : ℤ) := by rw [one_mul]; rfl
    _ ≤ greatest := mul_le_mul hone hpow (by positivity) (by linarith)

theorem natCast_le_greatest {n : Nat} (hlt : n < 2 * hiddenBit) : (n : ℚ) ≤ greatest := by
  have hle : n ≤ 2 ^ 200 := hlt.le.trans (by decide)
  exact le_trans (by exact_mod_cast hle) two_pow_le_greatest

theorem Rounds.eq_natCast {n : Nat} {r : ℚ} (h : Rounds n r) (hlt : n < 2 * hiddenBit) :
    r = n := by
  have habs : |(n : ℤ)| < 2 * hiddenBit := by
    rw [Nat.abs_cast]
    exact_mod_cast hlt
  exact h.eq_of_mul_pow habs (by decide : leastExponent ≤ 0) (by simp)

theorem value?_toFloat {n : UInt64} (hlt : n.toNat < 2 * hiddenBit) :
    value? n.toFloat = some (n.toNat : ℚ) := by
  have hmax : |((n.toNat : ℤ) : ℚ)| * 2 ^ (0 : ℤ) ≤ greatest := by
    rw [zpow_zero, mul_one, Int.cast_natCast, Nat.abs_cast]
    exact natCast_le_greatest hlt
  obtain ⟨r, hr, hrounds⟩ := stands_normalize n.toNat 0 .positive hmax
  rw [zpow_zero, mul_one, Int.cast_natCast] at hrounds
  rw [← hrounds.eq_natCast hlt]
  exact hr.value?_pack

/-- A large number is brought to the form of a product before it is rounded. -/
theorem ofScientific_eq {n : Nat} (hn : n ≠ 0) :
    UnpackedFloat.ofScientific binary64 n 0 =
      UnpackedFloat.roundWithAccuracy binary64 .positive (n * 2 ^ 53) (-53) .exact := by
  have hhigh : ¬(0 : Int) > 2 ^ binary64.exponentBits := by decide
  have hlow : ¬(0 : Int) < -((2 ^ binary64.exponentBits : Int) + n.log2) := by
    have : (0 : Int) ≤ 2 ^ binary64.exponentBits := by decide
    omega
  rw [UnpackedFloat.ofScientific, dif_neg hn, if_neg hhigh, if_neg hlow, if_pos le_rfl,
    UnpackedFloat.mul, Nat.shiftLeft_eq, Int.toNat_zero, pow_zero, Nat.mul_one, Int.add_zero]
  rfl

theorem exists_value?_ofNat {n : Nat} (hmax : (n : ℚ) ≤ greatest) :
    ∃ r, value? (Float.ofNat n) = some r ∧ RoundsToEven n r := by
  have hofNat : Float.ofNat n = Float.ofScientific n false 0 := rfl
  rw [hofNat, Float.ofScientific]
  split
  · rename_i h
    have hn : n.toUInt64.toNat = n := Nat.mod_eq_of_lt (h.1.trans (by decide))
    have hvalue := value?_toFloat (hn.symm ▸ h.1 : n.toUInt64.toNat < 2 * hiddenBit)
    have hone : value? (Float.ofBits 0x3FF0000000000000) = some 1 := by decide +kernel
    rw [hn] at hvalue
    obtain ⟨r, hr, hrounds⟩ := exists_value?_mul hvalue hone (by rwa [mul_one, Nat.abs_cast])
    rw [mul_one] at hrounds
    rw [hrounds.eq_natCast h.1] at hr
    exact ⟨n, hr, roundsToEven_natCast n⟩
  · rename_i h
    have hlarge : 2 ^ 53 ≤ n := Nat.not_lt.1 fun hlt => h ⟨hlt, Nat.zero_le _⟩
    have hne : n ≠ 0 := (Nat.two_pow_pos 53).trans_le hlarge |>.ne'
    have hlog : 53 ≤ n.log2 := (Nat.le_log2 hne).2 hlarge
    have hle : -53 ≤ target (n * 2 ^ 53) (-53) := by
      rw [target, log2_mul_two_pow hne]
      omega
    have hvalue : ((n * 2 ^ 53 : ℕ) : ℚ) * 2 ^ (-53 : ℤ) = n := by
      rw [Nat.cast_mul, Nat.cast_pow, mul_assoc, Nat.cast_ofNat, ← zpow_natCast,
        ← zpow_add₀ two_ne_zero]
      simp
    obtain ⟨r, hr, hrounds⟩ :=
      stands_roundWithAccuracy .positive (holds_exact _) hle (hvalue.trans_le hmax)
    rw [← ofScientific_eq hne] at hr
    rw [hvalue] at hrounds
    refine ⟨r, ?_, hrounds⟩
    have hone : unit .positive * r = r := by simp [unit, Sign.apply]
    rw [hone] at hr
    exact hr.value?_pack

theorem value?_ofNat {n : Nat} (hlt : n < 2 * hiddenBit) :
    value? (Float.ofNat n) = some (n : ℚ) := by
  obtain ⟨r, hr, hrounds⟩ := exists_value?_ofNat (natCast_le_greatest hlt)
  rw [hr, hrounds.rounds.eq_natCast hlt]

theorem exists_value?_ofInt {n : Int} (hmax : |(n : ℚ)| ≤ greatest) :
    ∃ r, value? (Float.ofInt n) = some r ∧ RoundsToEven n r := by
  cases n with
  | ofNat n =>
    refine exists_value?_ofNat ?_
    simpa using hmax
  | negSucc n =>
    have hn : ((Int.negSucc n : ℤ) : ℚ) = -((n.succ : ℕ) : ℚ) := by
      rw [Int.cast_negSucc]
    rw [hn, abs_neg, Nat.abs_cast] at hmax
    obtain ⟨r, hr, hrounds⟩ := exists_value?_ofNat hmax
    rw [hn]
    exact ⟨-r, value?_neg hr, hrounds.neg⟩

theorem unit_mul_pow_ne_zero (s : Sign) {m : Nat} (hm : 0 < m) (e : Int) :
    unit s * m * 2 ^ e ≠ 0 := by
  have : (m : ℚ) ≠ 0 := by positivity
  exact mul_ne_zero (mul_ne_zero (unit_ne_zero s) this) (zpow_ne_zero _ two_ne_zero)

theorem Stands.eq_zero {u : UnpackedFloat} (h : Stands u 0) : ∃ s, u = .zero s := by
  generalize hq : (0 : ℚ) = q at h
  cases h with
  | zero s => exact ⟨s, rfl⟩
  | finite s hm h => exact absurd hq.symm (unit_mul_pow_ne_zero s hm _)

/-- The zeros of either sign are the floats that equal zero. -/
theorem beq_zero_iff : (x == 0.0) = true ↔ value? x = some 0 := by
  have hzero : value? 0.0 = some 0 := by decide +kernel
  obtain ⟨s, hs⟩ := (value?_eq_some_iff.1 hzero).eq_zero
  have hbeq : (x == 0.0) = x.toModel.unpack.beq (.zero s) := by
    rw [← hs]
    rfl
  rw [hbeq]
  constructor
  · intro h
    have : ∃ t, x.toModel.unpack = .zero t := by
      cases hu : x.toModel.unpack with
      | zero t => exact ⟨t, rfl⟩
      | notANumber => rw [hu] at h; cases h
      | infinity t => rw [hu] at h; cases t <;> cases h
      | finite t m e hm => rw [hu] at h; cases t <;> cases h
    obtain ⟨t, ht⟩ := this
    exact value?_eq_some_iff.2 (ht ▸ .zero t)
  · intro h
    obtain ⟨t, ht⟩ := (value?_eq_some_iff.1 h).eq_zero
    rw [ht]
    rfl

theorem exists_value?_toFloat (w : Int64) :
    ∃ r, value? (Whole.toFloat w) = some r ∧ RoundsToEven w.toInt r := by
  refine exists_value?_ofInt (le_trans ?_ two_pow_le_greatest)
  obtain ⟨hlo, hhi⟩ := Whole.inRange_toInt w
  have hbound : (Whole.bound : Int) ≤ 2 ^ 200 := by decide
  have habs : |w.toInt| ≤ 2 ^ 200 := abs_le.2 ⟨by omega, by omega⟩
  exact_mod_cast habs

/-- The float that is nearest to a whole number is zero only for zero. -/
theorem toFloat_beq_zero (w : Int64) : (Whole.toFloat w == 0.0) = true ↔ w = 0 := by
  constructor
  · intro h
    by_contra hne
    obtain ⟨r, hr, hrounds⟩ := exists_value?_toFloat w
    rw [beq_zero_iff, hr, Option.some_inj] at h
    have hint : w.toInt ≠ 0 := fun hzero => hne (Int64.toInt_inj.1 hzero)
    have hone : (1 : ℚ) ≤ |(w.toInt : ℚ)| := by exact_mod_cast Int.one_le_abs hint
    exact hrounds.rounds.ne_zero ((zpow_le_one_of_nonpos₀ one_le_two (by decide)).trans hone) h
  · rintro rfl
    decide +kernel

/-- Adding one half before a division without remainder leads to the nearest number. -/
theorem abs_halfUp_sub_le (m : Nat) {d : Nat} (hd : 0 < d) :
    2 * |(((2 * m + d) / (2 * d) : ℕ) : ℚ) - m / d| ≤ 1 := by
  have hlow : 2 * d * ((2 * m + d) / (2 * d)) ≤ 2 * m + d := Nat.mul_div_le _ _
  have hhigh : 2 * m + d < 2 * d * ((2 * m + d) / (2 * d) + 1) :=
    Nat.lt_mul_div_succ _ (Nat.mul_pos two_pos hd)
  generalize (2 * m + d) / (2 * d) = n at *
  have hd : (0 : ℚ) < d := by exact_mod_cast hd
  have hlow : (2 * d * n : ℚ) ≤ 2 * m + d := by exact_mod_cast hlow
  have hhigh : (2 * m + d : ℚ) < 2 * d * (n + 1) := by exact_mod_cast hhigh
  rw [← le_div_iff₀' two_pos, abs_sub_le_iff, sub_le_iff_le_add, sub_le_iff_le_add,
    ← sub_le_iff_le_add', div_le_iff₀ hd, le_div_iff₀ hd]
  constructor <;> linarith

/-- Rounding to a whole number finds a nearest one. -/
theorem exists_value?_roundHalfAway (hx : value? x = some q) :
    ∃ k : ℤ, value? (roundHalfAway x) = some (k : ℚ) ∧ 2 * |k - q| ≤ 1 := by
  rw [value?] at hx
  rw [roundHalfAway]
  cases hshape : shape x with
  | nan => rw [hshape] at hx; cases hx
  | infinite negative => rw [hshape] at hx; cases hx
  | finite negative m e =>
    have hlt := (canonical_of_shape hshape).mantissa_lt
    rw [hshape, Shape.value?, Option.some_inj] at hx
    subst hx
    cases e with
    | ofNat e =>
      refine ⟨signed negative m * 2 ^ e, ?_, ?_⟩
      · rw [value?, hshape, Shape.value?]
        push_cast
        rfl
      · push_cast
        simp
    | negSucc e =>
      have hpos : 0 < 2 ^ (e + 1) := Nat.two_pow_pos _
      have hdist := abs_halfUp_sub_le m hpos
      rw [← Nat.mul_comm (2 ^ (e + 1)), ← pow_succ] at hdist
      change 2 * |(((2 * m + Nat.pow 2 (e + 1)) / Nat.pow 2 (e + 2) : ℕ) : ℚ) - _| ≤ 1 at hdist
      have hn : (2 * m + Nat.pow 2 (e + 1)) / Nat.pow 2 (e + 2) < 2 * hiddenBit := by
        have htwo : 2 ≤ 2 ^ (e + 1) := Nat.le_self_pow (Nat.succ_ne_zero e) 2
        have hfour : 2 * (2 * hiddenBit) ≤ 2 ^ (e + 1) * (2 * hiddenBit) :=
          Nat.mul_le_mul_right _ htwo
        have hself : 2 ^ (e + 1) * 1 ≤ 2 ^ (e + 1) * (2 * hiddenBit) :=
          Nat.mul_le_mul_left _ (by decide)
        refine Nat.div_lt_of_lt_mul ?_
        rw [Nat.pow_eq, Nat.pow_eq, pow_succ 2 (e + 1), Nat.mul_right_comm]
        omega
      have hvalue := value?_ofNat hn
      rw [Nat.cast_pow, Nat.cast_ofNat, div_eq_mul_inv] at hdist
      dsimp only
      generalize (2 * m + Nat.pow 2 (e + 1)) / Nat.pow 2 (e + 2) = n at *
      rw [zpow_negSucc]
      cases negative with
      | false => exact ⟨n, hvalue, hdist⟩
      | true =>
        refine ⟨-n, by simpa using value?_neg hvalue, ?_⟩
        change 2 * |((-n : ℤ) : ℚ) - (-m : ℤ) * _| ≤ 1
        rwa [Int.cast_neg, Int.cast_neg, neg_mul, ← neg_sub', abs_neg]

end Binary64

end Parley
