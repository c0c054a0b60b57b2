import Parley.Proofs.Number.Binary64

/-!
# Rounding to floats

`Parley.Binary64.Rounds` says what arithmetic on floats does to an exact result: it is replaced by
a neighbour of it among the multiples of a power of two, which is the one that leaves a mantissa of
53 bits. Nothing else is needed of the rounding here: a number that floats can hold stays as it is
(`Parley.Binary64.Rounds.eq_of_mul_pow`), and any other changes by little
(`Parley.Binary64.Rounds.abs_sub_le`).

In the implementation bits are shifted out of a mantissa one by one, and two bits are kept of what
has been shifted out. These say on which side of the middle the number lies
(`Parley.Binary64.Holds`), which is all that the last step asks for.
-/

namespace Parley

namespace Binary64

open Float.Model (UnpackedFloat totalExponent)
open Float.Model.UnpackedFloat (Sign Accuracy ExtendedMantissa shiftToTargetExponent shiftToExponent
  roundWithAccuracy)
open Float.Model.Format (binary64)

/-- `Rounds q r`: **the number `r` is what floats make of `q`**. -/
def Rounds (q r : ℚ) : Prop :=
  ∃ t : ℤ, (∃ k : ℤ, r = k * 2 ^ t) ∧ 2 * |r - q| ≤ 2 ^ t ∧
    (t = leastExponent ∨ leastExponent ≤ t ∧ hiddenBit * 2 ^ t ≤ |q|)

/-- `RoundsToEven q r`: the same with the rule for a number in the middle between two neighbours,
**which is replaced by the even one**. -/
def RoundsToEven (q r : ℚ) : Prop :=
  ∃ t k : ℤ, r = k * 2 ^ t ∧ 2 * |r - q| ≤ 2 ^ t ∧ (2 * |r - q| = 2 ^ t → Even k) ∧
    (t = leastExponent ∨ leastExponent ≤ t ∧ hiddenBit * 2 ^ t ≤ |q|)

/-- The greatest number that a float can be. -/
def greatest : ℚ :=
  (2 * hiddenBit - 1) * 2 ^ (971 : ℤ)

theorem hiddenBit_eq : (hiddenBit : ℚ) = 2 ^ 52 := by
  rw [hiddenBit, Nat.pow_eq, Nat.cast_pow, Nat.cast_ofNat]

theorem abs_mul_two_zpow (q : ℚ) (t : ℤ) : |q * 2 ^ t| = |q| * 2 ^ t := by
  have hpos : (0 : ℚ) < 2 ^ t := by positivity
  rw [abs_mul, abs_of_pos hpos]

/-! ### What rounding does -/

namespace Rounds

variable {q r : ℚ}

theorem neg (h : Rounds q r) : Rounds (-q) (-r) := by
  obtain ⟨t, ⟨k, rfl⟩, hnear, ht⟩ := h
  refine ⟨t, ⟨-k, by push_cast; ring⟩, ?_, ?_⟩
  · rwa [← neg_sub', abs_neg]
  · rwa [abs_neg]

theorem unit_mul (s : Sign) (h : Rounds q r) : Rounds (unit s * q) (unit s * r) := by
  cases s with
  | positive => simpa [unit, Sign.apply] using h
  | negative => simpa [unit, Sign.apply] using h.neg

/-- **A number that floats can hold is left as it is.** -/
theorem eq_of_mul_pow (h : Rounds q r) {n e : ℤ} (hn : |n| < 2 * hiddenBit) (he : leastExponent ≤ e)
    (hq : q = n * 2 ^ e) : r = q := by
  obtain ⟨t, ⟨k, rfl⟩, hnear, ht⟩ := h
  have hpos : (0 : ℚ) < 2 ^ t := by positivity
  have hle : t ≤ e := by
    rcases ht with rfl | ⟨-, ht⟩
    · exact he
    · by_contra hlt
      have hstep : (2 : ℚ) ^ (e + 1) ≤ 2 ^ t := zpow_le_zpow_right₀ (by norm_num) (by omega)
      rw [zpow_add₀ two_ne_zero, zpow_one] at hstep
      have he : (0 : ℚ) < 2 ^ e := by positivity
      have hn : |(n : ℚ)| < 2 * hiddenBit := by exact_mod_cast hn
      rw [hq, abs_mul_two_zpow] at ht
      have : (hiddenBit : ℚ) * (2 ^ e * 2) ≤ |(n : ℚ)| * 2 ^ e :=
        (mul_le_mul_of_nonneg_left hstep (Nat.cast_nonneg _)).trans ht
      have := mul_lt_mul_of_pos_right hn he
      linarith
  obtain ⟨d, rfl⟩ : ∃ d : ℕ, e = t + d := ⟨(e - t).toNat, by omega⟩
  have hint : q = ((n * 2 ^ d : ℤ) : ℚ) * 2 ^ t := by
    rw [hq, zpow_add₀ two_ne_zero, zpow_natCast]
    push_cast
    ring
  rw [hint, ← sub_mul, abs_mul_two_zpow, ← mul_assoc] at hnear
  have habs : 2 * |(k : ℚ) - (n * 2 ^ d : ℤ)| ≤ 1 := by
    refine le_of_mul_le_mul_right ?_ hpos
    rwa [one_mul]
  have hzero : k - n * 2 ^ d = 0 := by
    have : 2 * |k - n * 2 ^ d| ≤ 1 := by exact_mod_cast habs
    exact Int.abs_lt_one_iff.1 (by omega)
  rw [hint, sub_eq_zero.1 hzero]

/-- **A number that is not next to zero changes by little.** -/
theorem abs_sub_le (h : Rounds q r) (hq : 2 ^ (-1022 : ℤ) ≤ |q|) :
    2 * hiddenBit * |r - q| ≤ |q| := by
  obtain ⟨t, -, hnear, ht⟩ := h
  have hle : hiddenBit * (2 : ℚ) ^ t ≤ |q| := by
    rcases ht with rfl | ⟨-, ht⟩
    · rwa [hiddenBit_eq, ← zpow_natCast, ← zpow_add₀ two_ne_zero]
    · exact ht
  have := mul_le_mul_of_nonneg_left hnear (Nat.cast_nonneg hiddenBit (α := ℚ))
  linarith

theorem ne_zero (h : Rounds q r) (hq : 2 ^ (-1022 : ℤ) ≤ |q|) : r ≠ 0 := by
  rintro rfl
  have hsmall := h.abs_sub_le hq
  have hpos : 0 < |q| := lt_of_lt_of_le (by positivity) hq
  have hone : (1 : ℚ) ≤ hiddenBit := by exact_mod_cast (by decide : 1 ≤ hiddenBit)
  rw [zero_sub, abs_neg] at hsmall
  nlinarith

end Rounds

namespace RoundsToEven

variable {q r : ℚ}

theorem rounds (h : RoundsToEven q r) : Rounds q r := by
  obtain ⟨t, k, hr, hnear, -, ht⟩ := h
  exact ⟨t, ⟨k, hr⟩, hnear, ht⟩

theorem neg (h : RoundsToEven q r) : RoundsToEven (-q) (-r) := by
  obtain ⟨t, k, rfl, hnear, heven, ht⟩ := h
  have hdist : |-(k * 2 ^ t : ℚ) - -q| = |k * 2 ^ t - q| := by rw [← neg_sub', abs_neg]
  refine ⟨t, -k, by push_cast; ring, ?_, fun hmiddle => ?_, ?_⟩
  · rwa [hdist]
  · rw [hdist] at hmiddle
    exact (heven hmiddle).neg
  · rwa [abs_neg]

end RoundsToEven

/-- A natural number is a multiple of the least float, so it stays as it is. -/
theorem roundsToEven_natCast (n : Nat) : RoundsToEven n n := by
  obtain ⟨d, hd⟩ : ∃ d : ℕ, leastExponent = -d := ⟨1074, rfl⟩
  have hpos : (0 : ℚ) < 2 ^ leastExponent := by positivity
  refine ⟨leastExponent, n * 2 ^ d, ?_, ?_, fun hmiddle => ?_, .inl rfl⟩
  · rw [hd, zpow_neg, zpow_natCast]
    push_cast
    exact (mul_inv_cancel_right₀ (by positivity) _).symm
  · rw [sub_self, abs_zero, mul_zero]
    exact hpos.le
  · rw [sub_self, abs_zero, mul_zero] at hmiddle
    exact absurd hmiddle hpos.ne

/-! ### Shifting -/

/-- Where an extended mantissa leaves a number: at the mantissa, below the middle to the next one,
in the middle, or above it. -/
def Holds (v : ℚ) : ExtendedMantissa → Prop
  | ⟨m, false, false⟩ => v = m
  | ⟨m, false, true⟩ => m < v ∧ v < m + 1 / 2
  | ⟨m, true, false⟩ => v = m + 1 / 2
  | ⟨m, true, true⟩ => m + 1 / 2 < v ∧ v < m + 1

namespace Holds

variable {v : ℚ} {em : ExtendedMantissa}

theorem shiftRightOne (h : Holds v em) : Holds (v / 2) em.shiftRightOne := by
  obtain ⟨m, round, sticky⟩ := em
  obtain ⟨k, rfl | rfl⟩ := Nat.even_or_odd' m
  · have hhalf : 2 * k / 2 = k := by omega
    have hbit : (2 * k % 2 != 0) = false := by simp
    cases round <;> cases sticky <;>
      simp only [Holds, ExtendedMantissa.shiftRightOne, hhalf, hbit, Bool.or_self, Bool.or_true,
        Bool.or_false] at h ⊢ <;>
      push_cast at h <;> first | linarith | constructor <;> linarith
  · have hhalf : (2 * k + 1) / 2 = k := by omega
    have hbit : ((2 * k + 1) % 2 != 0) = true := by simp [Nat.add_mod]
    cases round <;> cases sticky <;>
      simp only [Holds, ExtendedMantissa.shiftRightOne, hhalf, hbit, Bool.or_self, Bool.or_true,
        Bool.or_false] at h ⊢ <;>
      push_cast at h <;> first | linarith | constructor <;> linarith

theorem shiftRight (h : Holds v em) (n : Nat) : Holds (v / 2 ^ n) (em >>> n) := by
  change Holds _ (n.repeat ExtendedMantissa.shiftRightOne em)
  induction n with
  | zero => simpa [Nat.repeat] using h
  | succ n ih =>
    rw [pow_succ, ← div_div]
    exact ih.shiftRightOne

theorem mantissa_le (h : Holds v em) : em.mantissa ≤ v := by
  obtain ⟨m, _ | _, _ | _⟩ := em
  · exact (h : v = m).ge
  · exact h.1.le
  · have hv : v = m + 1 / 2 := h
    change (m : ℚ) ≤ v
    linarith
  · obtain ⟨hlo, -⟩ : (m : ℚ) + 1 / 2 < v ∧ v < m + 1 := h
    change (m : ℚ) ≤ v
    linarith

theorem lt_mantissa_add_one (h : Holds v em) : v < em.mantissa + 1 := by
  obtain ⟨m, _ | _, _ | _⟩ := em
  · have hv : v = m := h
    change v < m + 1
    linarith
  · obtain ⟨-, hhi⟩ : (m : ℚ) < v ∧ v < m + 1 / 2 := h
    change v < m + 1
    linarith
  · have hv : v = m + 1 / 2 := h
    change v < m + 1
    linarith
  · exact h.2

/-- The mantissa is rounded to the nearest number. -/
theorem abs_roundedMantissa_sub_le (h : Holds v em) : 2 * |(em.roundedMantissa : ℚ) - v| ≤ 1 := by
  suffices hbounds : -(1 / 2) ≤ (em.roundedMantissa : ℚ) - v ∧
      (em.roundedMantissa : ℚ) - v ≤ 1 / 2 by
    have := abs_le.2 hbounds
    linarith
  obtain ⟨m, _ | _, _ | _⟩ := em
  · have hv : v = m := h
    change -(1 / 2) ≤ (m : ℚ) - v ∧ (m : ℚ) - v ≤ 1 / 2
    constructor <;> linarith
  · obtain ⟨hlo, hhi⟩ : (m : ℚ) < v ∧ v < m + 1 / 2 := h
    change -(1 / 2) ≤ (m : ℚ) - v ∧ (m : ℚ) - v ≤ 1 / 2
    constructor <;> linarith
  · have hv : v = m + 1 / 2 := h
    change -(1 / 2) ≤ ((m + m % 2 : ℕ) : ℚ) - v ∧ ((m + m % 2 : ℕ) : ℚ) - v ≤ 1 / 2
    rcases Nat.mod_two_eq_zero_or_one m with hm | hm <;> rw [hm] <;> push_cast <;>
      constructor <;> linarith
  · obtain ⟨hlo, hhi⟩ : (m : ℚ) + 1 / 2 < v ∧ v < m + 1 := h
    change -(1 / 2) ≤ ((m + 1 : ℕ) : ℚ) - v ∧ ((m + 1 : ℕ) : ℚ) - v ≤ 1 / 2
    push_cast
    constructor <;> linarith

/-- In the middle between two numbers the mantissa becomes the even one. -/
theorem even_roundedMantissa (h : Holds v em) (hmiddle : 2 * |(em.roundedMantissa : ℚ) - v| = 1) :
    Even em.roundedMantissa := by
  obtain ⟨m, _ | _, _ | _⟩ := em
  · have hv : v = m := h
    change 2 * |(m : ℚ) - v| = 1 at hmiddle
    rw [hv, sub_self, abs_zero, mul_zero] at hmiddle
    exact absurd hmiddle zero_ne_one
  · obtain ⟨hlo, hhi⟩ : (m : ℚ) < v ∧ v < m + 1 / 2 := h
    change 2 * |(m : ℚ) - v| = 1 at hmiddle
    rw [abs_of_neg (sub_neg.2 hlo)] at hmiddle
    linarith
  · have hbits : (ExtendedMantissa.mk m true false).roundedMantissa = m + m % 2 := rfl
    rw [hbits, Nat.even_iff]
    omega
  · obtain ⟨hlo, hhi⟩ : (m : ℚ) + 1 / 2 < v ∧ v < m + 1 := h
    change 2 * |((m + 1 : ℕ) : ℚ) - v| = 1 at hmiddle
    push_cast at hmiddle
    rw [abs_of_pos (sub_pos.2 hhi)] at hmiddle
    linarith

end Holds

/-! ### The rounding of a mantissa -/

/-- The exponent with which a mantissa of 53 bits has a number's most significant bit in its
place, or the least one. -/
def target (m : Nat) (e : Int) : Int :=
  max (m.log2 + 1 + e - 53) leastExponent

theorem targetExponent_eq (m : Nat) (e : Int) :
    binary64.targetExponent (totalExponent m e) = target m e :=
  rfl

theorem shiftToTargetExponent_eq {m : Nat} {e t : Int} (acc : Accuracy) (ht : target m e = t)
    (hle : e ≤ t) : shiftToTargetExponent binary64 m e acc =
      (ExtendedMantissa.ofMantissaAndAccuracy m acc >>> (t - e).toNat, t) := by
  rw [shiftToTargetExponent, targetExponent_eq, ht, shiftToExponent, Int.toNat_of_nonneg (by omega)]
  congr 1
  omega

/-- A mantissa that is short enough stays as it is, whatever the exponent. -/
theorem shiftToTargetExponent_of_lt {m : Nat} {e : Int} (hm : m < 2 * hiddenBit)
    (he : leastExponent ≤ e) :
    shiftToTargetExponent binary64 m e .exact = (⟨m, false, false⟩, e) := by
  have hlog : m.log2 < 53 := by
    rcases Nat.eq_zero_or_pos m with rfl | hpos
    · decide
    · exact (Nat.log2_lt (by omega)).2 hm
  have hshift : (target m e - e).toNat = 0 := by
    rw [target]
    omega
  rw [shiftToTargetExponent, targetExponent_eq, shiftToExponent, hshift]
  change (ExtendedMantissa.mk m false false, e + 0) = _
  rw [Int.add_zero]

/-- A mantissa that has become too long by one bit is halved. -/
theorem shiftToTargetExponent_carry {e : Int} (he : leastExponent ≤ e) :
    shiftToTargetExponent binary64 (2 * hiddenBit) e .exact =
      (⟨hiddenBit, false, false⟩, e + 1) := by
  have hlog : (2 * hiddenBit).log2 = 53 := by decide +kernel
  have htarget : target (2 * hiddenBit) e = e + 1 := by
    rw [target, hlog]
    omega
  rw [shiftToTargetExponent_eq .exact htarget (by omega), add_sub_cancel_left]
  rfl

theorem holds_exact (m : Nat) : Holds m (.ofMantissaAndAccuracy m .exact) :=
  rfl

theorem mantissa_ofMantissaAndAccuracy (m : Nat) (acc : Accuracy) :
    (ExtendedMantissa.ofMantissaAndAccuracy m acc).mantissa = m := by
  rcases acc with _ | _ | _ | _ <;> rfl

/-- The mantissa in front of the least exponent that leaves it short enough is short enough, and
it is not shorter unless the exponent is the least of all. -/
theorem Holds.target_bounds {v : ℚ} {m n : Nat} {e : Int} {acc : Accuracy}
    (h : Holds v (.ofMantissaAndAccuracy m acc)) (hn : e + n = target m e) :
    v / 2 ^ n < 2 * hiddenBit ∧ (e + n = leastExponent ∨ hiddenBit ≤ v / 2 ^ n) := by
  have hlo := h.mantissa_le
  have hhi := h.lt_mantissa_add_one
  rw [mantissa_ofMantissaAndAccuracy] at hlo hhi
  have hpow : (0 : ℚ) < 2 ^ n := by positivity
  rw [target] at hn
  constructor
  · have hlog : m.log2 + 1 ≤ 53 + n := by omega
    have hm : m + 1 ≤ 2 * hiddenBit * 2 ^ n :=
      Nat.lt_log2_self.trans_le (Nat.pow_le_pow_right (by decide) hlog) |>.trans_eq (pow_add 2 53 n)
    have hm : (m : ℚ) + 1 ≤ 2 * hiddenBit * 2 ^ n := by exact_mod_cast hm
    rw [div_lt_iff₀ hpow]
    linarith
  · rw [or_iff_not_imp_left]
    intro hleast
    have hlog : m.log2 = 52 + n := by omega
    have hne : m ≠ 0 := by
      rintro rfl
      rw [Nat.log2_zero] at hlog
      omega
    have hm : hiddenBit * 2 ^ n ≤ m :=
      (pow_add 2 52 n).symm.trans_le (hlog ▸ Nat.log2_self_le hne)
    have hm : (hiddenBit : ℚ) * 2 ^ n ≤ m := by exact_mod_cast hm
    rw [le_div_iff₀ hpow]
    exact hm.trans hlo

/-- What becomes of a number when its mantissa is rounded: either there is room for the mantissa,
or it has been carried to the next bit, and there is room for that bit. -/
theorem canonical_of_near {w : ℚ} {k : Nat} {t : Int} (hnear : 2 * |(k : ℚ) - w| ≤ 1)
    (hlt : w < 2 * hiddenBit) (hleast : leastExponent ≤ t)
    (hge : t = leastExponent ∨ hiddenBit ≤ w) (hmax : w * 2 ^ t ≤ greatest) :
    k < 2 * hiddenBit ∧ Canonical k t ∨ k = 2 * hiddenBit ∧ Canonical hiddenBit (t + 1) := by
  obtain ⟨hlo, hhi⟩ := abs_le.1 (by linarith : |(k : ℚ) - w| ≤ 1 / 2)
  have hle : k ≤ 2 * hiddenBit := by
    by_contra hgt
    have : (2 * hiddenBit + 1 : ℚ) ≤ k := by exact_mod_cast Nat.not_le.1 hgt
    linarith
  have hexponent : t ≤ 971 := by
    by_contra hgt
    have hw := hge.resolve_left (by rw [leastExponent]; omega)
    have hpow : (2 : ℚ) ^ (971 + 1 : ℤ) ≤ 2 ^ t := zpow_le_zpow_right₀ (by norm_num) (by omega)
    have hprod := mul_le_mul hw hpow (by positivity) (by linarith)
    have hpos : (0 : ℚ) < 2 ^ (971 : ℤ) := by positivity
    rw [zpow_add₀ two_ne_zero, zpow_one] at hprod
    rw [greatest] at hmax
    generalize (2 : ℚ) ^ (971 : ℤ) = p at *
    linarith
  rcases hle.lt_or_eq with hk | hk
  · refine .inl ⟨hk, hk, hleast, hexponent, hge.symm.imp_left fun hw => ?_⟩
    by_contra hgt
    have : (k + 1 : ℚ) ≤ hiddenBit := by exact_mod_cast Nat.not_le.1 hgt
    linarith
  · refine .inr ⟨hk, by decide, by omega, ?_, .inl le_rfl⟩
    rcases hexponent.lt_or_eq with ht | rfl
    · exact ht
    · rw [greatest] at hmax
      have := le_of_mul_le_mul_right hmax (by positivity)
      rw [hk] at hhi
      push_cast at hhi
      clear hmax hlo
      linarith

theorem stands_roundWithAccuracy (s : Sign) {v : ℚ} {m : Nat} {e : Int} {acc : Accuracy}
    (hv : Holds v (.ofMantissaAndAccuracy m acc)) (hle : e ≤ target m e)
    (hmax : v * 2 ^ e ≤ greatest) :
    ∃ r, Stands (roundWithAccuracy binary64 s m e acc) (unit s * r) ∧
      RoundsToEven (v * 2 ^ e) r := by
  obtain ⟨t, ht⟩ : ∃ t, target m e = t := ⟨_, rfl⟩
  obtain ⟨n, hn⟩ : ∃ n : ℕ, e + n = t := ⟨(t - e).toNat, by omega⟩
  have hleast : leastExponent ≤ t := ht ▸ le_max_right _ _
  have hshift := shiftToTargetExponent_eq acc ht (ht ▸ hle)
  rw [← hn, add_sub_cancel_left, Int.toNat_natCast, hn] at hshift
  obtain ⟨hlt, hge⟩ := hv.target_bounds (hn.trans ht.symm)
  rw [hn] at hge
  have hnear := (hv.shiftRight n).abs_roundedMantissa_sub_le
  have heven := (hv.shiftRight n).even_roundedMantissa
  have hnonneg := (Nat.cast_nonneg _).trans (hv.shiftRight n).mantissa_le
  have hvalue : v * 2 ^ e = v / 2 ^ n * 2 ^ t := by
    rw [← hn, zpow_add₀ two_ne_zero, zpow_natCast, mul_comm (2 ^ e), ← mul_assoc,
      div_mul_cancel₀ v (by positivity)]
  rw [hvalue] at hmax ⊢
  generalize v / 2 ^ n = w at *
  generalize hk : (ExtendedMantissa.ofMantissaAndAccuracy m acc >>> n).roundedMantissa = k at *
  have hpow : (0 : ℚ) < 2 ^ t := by positivity
  refine ⟨k * 2 ^ t, ?_, t, k, rfl, ?_, fun hmiddle => ?_,
    hge.imp_right fun hge => ⟨hleast, ?_⟩⟩
  · rw [roundWithAccuracy]
    simp only [hshift, hk]
    rcases canonical_of_near hnear hlt hleast hge hmax with ⟨hk, hc⟩ | ⟨rfl, hc⟩
    · simp only [shiftToTargetExponent_of_lt hk hleast]
      by_cases hzero : k = 0
      · rw [dif_pos hzero, hzero]
        simpa using .zero s
      · rw [dif_neg hzero, ← mul_assoc]
        exact .finite s (Nat.pos_of_ne_zero hzero) hc
    · simp only [shiftToTargetExponent_carry hleast]
      rw [dif_neg (by decide)]
      have := Stands.finite s (by decide : 0 < hiddenBit) hc
      rw [zpow_add₀ two_ne_zero, zpow_one] at this
      convert this using 1
      push_cast
      ring
  · rw [← sub_mul, abs_mul_two_zpow, ← mul_assoc]
    exact mul_le_of_le_one_left hpow.le hnear
  · rw [← sub_mul, abs_mul_two_zpow, ← mul_assoc, mul_eq_right₀ hpow.ne'] at hmiddle
    exact (Int.even_coe_nat k).2 (heven hmiddle)
  · rw [abs_mul_two_zpow, abs_of_nonneg hnonneg]
    exact mul_le_mul_of_nonneg_right hge hpow.le

theorem log2_mul_two_pow {m : Nat} (hm : m ≠ 0) (n : Nat) :
    (m * 2 ^ n).log2 = m.log2 + n := by
  have hpos : 0 < 2 ^ n := Nat.two_pow_pos n
  rw [Nat.log2_eq_iff (Nat.mul_ne_zero hm hpos.ne'), Nat.add_right_comm, pow_add, pow_add]
  exact ⟨Nat.mul_le_mul_right _ (Nat.log2_self_le hm),
    Nat.mul_lt_mul_of_pos_right Nat.lt_log2_self hpos⟩

/-- A number with a mantissa of any length is rounded. -/
theorem stands_round (s : Sign) {m : Nat} {e : Int} (hm : m ≠ 0) (hmax : m * 2 ^ e ≤ greatest) :
    ∃ r, Stands (UnpackedFloat.round binary64 s m e) (unit s * r) ∧ Rounds (m * 2 ^ e) r := by
  obtain ⟨n, hn⟩ : ∃ n : ℕ, (e - target m e).toNat = n := ⟨_, rfl⟩
  have htarget : target (m * 2 ^ n) (e - n) = target m e := by
    have hlog := log2_mul_two_pow hm n
    rw [target, hlog, target]
    congr 1
    push_cast
    ring
  have hvalue : ((m * 2 ^ n : ℕ) : ℚ) * 2 ^ (e - n) = m * 2 ^ e := by
    rw [zpow_sub₀ two_ne_zero, zpow_natCast]
    push_cast
    field_simp
  have hround : UnpackedFloat.round binary64 s m e =
      roundWithAccuracy binary64 s (m * 2 ^ n) (e - n) .exact := by
    rw [UnpackedFloat.round, targetExponent_eq]
    dsimp only
    rw [UnpackedFloat.decreaseExponent, hn, Nat.shiftLeft_eq]
  rw [hround, ← hvalue]
  obtain ⟨r, hr, hrounds⟩ :=
    stands_roundWithAccuracy s (holds_exact _) (by rw [htarget]; omega) (hvalue ▸ hmax)
  exact ⟨r, hr, hrounds.rounds⟩

theorem stands_normalize (n : Int) (e : Int) (s : Sign) (hmax : |(n : ℚ)| * 2 ^ e ≤ greatest) :
    ∃ r, Stands (UnpackedFloat.normalize binary64 n e s) r ∧ Rounds (n * 2 ^ e) r := by
  rw [UnpackedFloat.normalize]
  rcases lt_trichotomy n 0 with hn | rfl | hn
  · obtain ⟨m, rfl⟩ : ∃ m : ℕ, n = -m := ⟨(-n).toNat, by omega⟩
    have hm : m ≠ 0 := by omega
    rw [Int.cast_neg, abs_neg, Int.cast_natCast, Nat.abs_cast] at hmax
    obtain ⟨r, hr, hrounds⟩ := stands_round .negative hm hmax
    have hvalue : ((-m : ℤ) : ℚ) * 2 ^ e = unit .negative * (m * 2 ^ e) := by
      simp [unit, Sign.apply]
    rw [compare_lt_iff_lt.2 hn, hvalue]
    exact ⟨unit .negative * r, by simpa using hr, hrounds.unit_mul .negative⟩
  · refine ⟨0, .zero s, leastExponent, ⟨0, by simp⟩, ?_, .inl rfl⟩
    rw [Int.cast_zero, zero_mul, sub_self, abs_zero, mul_zero]
    positivity
  · obtain ⟨m, rfl⟩ : ∃ m : ℕ, n = m := ⟨n.toNat, by omega⟩
    have hm : m ≠ 0 := by omega
    rw [Int.cast_natCast, Nat.abs_cast] at hmax
    obtain ⟨r, hr, hrounds⟩ := stands_round .positive hm hmax
    have hvalue : ((m : ℤ) : ℚ) * 2 ^ e = unit .positive * (m * 2 ^ e) := by
      simp [unit, Sign.apply]
    rw [compare_gt_iff_gt.2 hn, hvalue]
    exact ⟨unit .positive * r, hr, hrounds.unit_mul .positive⟩

/-! ### Arithmetic -/

theorem Stands.rounds_self {u : UnpackedFloat} {q : ℚ} (h : Stands u q) : Rounds q q := by
  have hnear (t : ℤ) : 2 * |q - q| ≤ 2 ^ t := by
    rw [sub_self, abs_zero, mul_zero]
    positivity
  cases h with
  | zero s => exact ⟨leastExponent, ⟨0, by simp⟩, hnear _, .inl rfl⟩
  | @finite s m e hm h =>
    refine ⟨e, ⟨s.apply m, ?_⟩, hnear e, h.hidden.symm.imp_right fun hhidden => ⟨h.least_le, ?_⟩⟩
    · rw [← signed_eq_unit_mul]
      cases s <;> rfl
    · rw [abs_mul_two_zpow, abs_mul, abs_unit, one_mul, Nat.abs_cast]
      exact mul_le_mul_of_nonneg_right (by exact_mod_cast hhidden) (by positivity)

theorem Stands.abs_le_greatest {u : UnpackedFloat} {q : ℚ} (h : Stands u q) : |q| ≤ greatest := by
  cases h with
  | zero s =>
    have : (1 : ℚ) ≤ hiddenBit := by exact_mod_cast (by decide : 1 ≤ hiddenBit)
    rw [abs_zero, greatest]
    exact mul_nonneg (by linarith) (by positivity)
  | @finite s m e hm h =>
    rw [abs_mul_two_zpow, abs_mul, abs_unit, one_mul, Nat.abs_cast, greatest]
    have hle : (m : ℚ) + 1 ≤ 2 * hiddenBit := by exact_mod_cast h.mantissa_lt
    have hpow : (2 : ℚ) ^ e ≤ 2 ^ (971 : ℤ) := zpow_le_zpow_right₀ (by norm_num) h.le_greatest
    exact mul_le_mul (by linarith) hpow (by positivity) (by linarith [Nat.cast_nonneg (α := ℚ) m])

theorem apply_mul_pow (s : Sign) (m k : Nat) :
    ((s.apply (m * 2 ^ k : ℕ) : ℤ) : ℚ) = unit s * m * 2 ^ k := by
  cases s <;> simp [unit, Sign.apply]

/-- A float with its exponent lowered to another one. -/
theorem unit_mul_pow_eq (s : Sign) (m : Nat) {e t : Int} (h : t ≤ e) :
    unit s * m * 2 ^ e = (s.apply (m * 2 ^ (e - t).toNat : ℕ) : ℤ) * 2 ^ t := by
  rw [apply_mul_pow, mul_assoc, mul_assoc, mul_assoc, ← zpow_natCast, ← zpow_add₀ two_ne_zero]
  congr 3
  omega

theorem stands_add {a b : UnpackedFloat} {p q : ℚ} (ha : Stands a p) (hb : Stands b q)
    (hmax : |p + q| ≤ greatest) :
    ∃ r, Stands (UnpackedFloat.add binary64 a b) r ∧ Rounds (p + q) r := by
  cases ha with
  | zero s =>
    rw [zero_add]
    refine ⟨q, ?_, hb.rounds_self⟩
    cases hb with
    | zero t =>
      rw [UnpackedFloat.add]
      split <;> exact .zero _
    | finite t hm h => exact .finite t hm h
  | finite s hm h =>
    cases hb with
    | zero t =>
      rw [add_zero]
      exact ⟨_, .finite s hm h, (Stands.finite s hm h).rounds_self⟩
    | finite t hm' h' =>
      rw [unit_mul_pow_eq s _ (min_le_left _ _), unit_mul_pow_eq t _ (min_le_right _ _),
        ← add_mul, ← Int.cast_add] at hmax ⊢
      rw [abs_mul_two_zpow] at hmax
      rw [UnpackedFloat.add]
      dsimp only
      rw [UnpackedFloat.decreaseExponent, UnpackedFloat.decreaseExponent]
      dsimp only
      rw [Nat.shiftLeft_eq, Nat.shiftLeft_eq]
      exact stands_normalize _ _ _ hmax

theorem stands_mul {a b : UnpackedFloat} {p q : ℚ} (ha : Stands a p) (hb : Stands b q)
    (hmax : |p * q| ≤ greatest) :
    ∃ r, Stands (UnpackedFloat.mul binary64 a b) r ∧ Rounds (p * q) r := by
  cases ha with
  | zero s =>
    rw [zero_mul]
    cases hb <;> exact ⟨0, .zero _, (Stands.zero s).rounds_self⟩
  | @finite s m e hm h =>
    cases hb with
    | zero t =>
      rw [mul_zero]
      exact ⟨0, .zero _, (Stands.zero t).rounds_self⟩
    | @finite t m' e' hm' h' =>
      have hvalue : unit s * m * 2 ^ e * (unit t * m' * 2 ^ e') =
          unit (s * t) * (((m * m' : ℕ) : ℚ) * 2 ^ (e + e')) := by
        rw [unit_mul, zpow_add₀ two_ne_zero]
        push_cast
        ring
      have hle : e + e' ≤ target (m * m') (e + e') := by
        by_cases hleast : e + e' ≤ leastExponent
        · exact hleast.trans (le_max_right _ _)
        · have hbig : hiddenBit ≤ m * m' := by
            rcases h.hidden with hm | rfl
            · exact hm.trans (Nat.le_mul_of_pos_right m hm')
            rcases h'.hidden with hm' | rfl
            · exact hm'.trans (Nat.le_mul_of_pos_left m' hm)
            · exact absurd (by decide) hleast
          have hlog : 52 ≤ (m * m').log2 := (Nat.le_log2 (Nat.mul_pos hm hm').ne').2 hbig
          rw [target]
          omega
      rw [hvalue] at hmax ⊢
      rw [abs_mul, abs_unit, one_mul, abs_mul_two_zpow, Nat.abs_cast] at hmax
      obtain ⟨r, hr, hrounds⟩ := stands_roundWithAccuracy (s * t) (holds_exact _) hle hmax
      exact ⟨_, hr, hrounds.rounds.unit_mul _⟩

/-- The accuracy of a division says where the quotient lies. -/
theorem holds_accuracyOfFraction (m : Nat) {d : Nat} (hd : 0 < d) :
    Holds (m / d)
      (.ofMantissaAndAccuracy (m / d) (UnpackedFloat.accuracyOfFraction (m % d) d)) := by
  have hdiv : (m : ℚ) / d = (m / d : ℕ) + (m % d : ℕ) / d := by
    rw [div_eq_iff (by positivity), add_mul, div_mul_cancel₀ _ (by positivity), mul_comm]
    exact_mod_cast (Nat.div_add_mod m d).symm
  rw [hdiv, UnpackedFloat.accuracyOfFraction]
  split
  · rename_i hzero
    rw [hzero, Nat.cast_zero, zero_div, add_zero]
    rfl
  rename_i hne
  have hrest : m % d < d := Nat.mod_lt m hd
  generalize m % d = r at *
  have hd : (0 : ℚ) < d := by exact_mod_cast hd
  have hpos : 0 < (r : ℚ) / d := div_pos (by exact_mod_cast Nat.pos_of_ne_zero hne) hd
  have hlt : (r : ℚ) / d < 1 := (div_lt_one hd).2 (by exact_mod_cast hrest)
  rcases lt_trichotomy (2 * r) d with h | h | h
  · have hhalf : (r : ℚ) / d < 1 / 2 := by
      have : (2 * r : ℚ) < d := by exact_mod_cast h
      rw [div_lt_div_iff₀ hd two_pos]
      linarith
    rw [compare_lt_iff_lt.2 h]
    exact ⟨lt_add_of_pos_right _ hpos, add_lt_add_of_le_of_lt le_rfl hhalf⟩
  · have hhalf : (r : ℚ) / d = 1 / 2 := by
      have : (2 * r : ℚ) = d := by exact_mod_cast h
      rw [div_eq_div_iff hd.ne' two_ne_zero]
      linarith
    rw [compare_eq_iff_eq.2 h, hhalf]
    rfl
  · have hhalf : 1 / 2 < (r : ℚ) / d := by
      have : (d : ℚ) < 2 * r := by exact_mod_cast h
      rw [div_lt_div_iff₀ two_pos hd]
      linarith
    rw [compare_gt_iff_gt.2 h]
    exact ⟨add_lt_add_of_le_of_lt le_rfl hhalf, add_lt_add_of_le_of_lt le_rfl hlt⟩

/-- A division is carried on until its quotient has bits enough. -/
theorem exists_divCore_eq {m m' : Nat} (e e' : Int) (hm : 0 < m) (hm' : 0 < m') :
    ∃ (n : ℕ) (t : ℤ), UnpackedFloat.divCore binary64 m e m' e' =
        (m * 2 ^ n / m', t, UnpackedFloat.accuracyOfFraction (m * 2 ^ n % m') m') ∧
      t + n = e - e' ∧ t ≤ target (m * 2 ^ n / m') t := by
  obtain ⟨t, ht⟩ : ∃ t, min (e - e') (max (m.log2 + 1 + e - (m'.log2 + 1 + e') - 53)
    leastExponent) = t := ⟨_, rfl⟩
  obtain ⟨n, hn⟩ : ∃ n : ℕ, t + n = e - e' := ⟨(e - e' - t).toNat, by omega⟩
  refine ⟨n, t, ?_, hn, ?_⟩
  · have hshift : (e - e' - t).toNat = n := by omega
    have hcore : min (e - e') (binary64.targetExponent
        (totalExponent m e - totalExponent m' e')) = t := ht
    rw [UnpackedFloat.divCore, hcore, hshift, Nat.shiftLeft_eq]
  · rw [target]
    by_cases hleast : t ≤ leastExponent
    · exact hleast.trans (le_max_right _ _)
    have hbits : 53 + m'.log2 ≤ m.log2 + n := by omega
    have hle : hiddenBit * m' ≤ m * 2 ^ n :=
      calc 2 ^ 52 * m' ≤ 2 ^ 52 * 2 ^ (m'.log2 + 1) := Nat.mul_le_mul_left _ Nat.lt_log2_self.le
        _ = 2 ^ (53 + m'.log2) := by rw [← pow_add]; congr 1; omega
        _ ≤ 2 ^ (m.log2 + n) := Nat.pow_le_pow_right two_pos hbits
        _ ≤ m * 2 ^ n := by
          rw [pow_add]
          exact Nat.mul_le_mul_right _ (Nat.log2_self_le hm.ne')
    have hquotient : hiddenBit ≤ m * 2 ^ n / m' := (Nat.le_div_iff_mul_le hm').2 hle
    have hpos : 0 < hiddenBit := by decide
    have hlog : 52 ≤ (m * 2 ^ n / m').log2 :=
      (Nat.le_log2 (hpos.trans_le hquotient).ne').2 hquotient
    omega

theorem stands_div {a b : UnpackedFloat} {p q : ℚ} (ha : Stands a p) (hb : Stands b q)
    (hq : q ≠ 0) (hmax : |p / q| ≤ greatest) :
    ∃ r, Stands (UnpackedFloat.div binary64 a b) r ∧ Rounds (p / q) r := by
  cases hb with
  | zero t => exact absurd rfl hq
  | @finite t m' e' hm' h' =>
    cases ha with
    | zero s =>
      rw [zero_div]
      exact ⟨0, .zero _, (Stands.zero s).rounds_self⟩
    | @finite s m e hm h =>
      obtain ⟨n, u, hcore, hn, hle⟩ := exists_divCore_eq e e' hm hm'
      have hvalue : unit s * m * 2 ^ e / (unit t * m' * 2 ^ e') =
          unit (s / t) * (((m * 2 ^ n : ℕ) : ℚ) / m' * 2 ^ u) := by
        have ht := unit_ne_zero t
        rw [unit_div, show e = u + n + e' by omega, zpow_add₀ two_ne_zero,
          zpow_add₀ two_ne_zero, zpow_natCast]
        push_cast
        field_simp
      rw [hvalue] at hmax ⊢
      rw [abs_mul, abs_unit, one_mul, abs_of_nonneg (by positivity)] at hmax
      obtain ⟨r, hr, hrounds⟩ :=
        stands_roundWithAccuracy (s / t) (holds_accuracyOfFraction _ hm') hle hmax
      refine ⟨_, ?_, hrounds.rounds.unit_mul _⟩
      rw [UnpackedFloat.div, hcore]
      exact hr

end Binary64

end Parley
