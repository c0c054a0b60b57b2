import Parley.Proofs.Number.ToFloat

/-!
# Floats with few digits

Some floats are not changed on their way through a decimal. Those without a fraction are among them,
and so are those like `2.75`, whose decimal expansion ends after few digits: the decimal is the
float itself (`Parley.Decimal.value_of_ofFloat?`), and what leaves is the float again
(`Parley.Decimal.value?_toFloat_of_representable`).

The reason is the same in both directions. A fraction whose lowest terms are `m / 2 ^ i` has the
digits `5 ^ i * m`, and no expansion of it has fewer. If these are below `2 ^ 52`, no halving is
short of room and no digit is rounded off; there are at most twenty-two of them behind the point,
and the powers of ten up to there are floats. So every operation on the way back has a result that a
float can be (`Parley.Binary64.Representable`), and is exact.
-/

namespace Parley

namespace Binary64

variable {x y : Float} {p q r : ℚ}

/-- The numbers that floats can be. -/
def Representable (q : ℚ) : Prop :=
  |q| ≤ greatest ∧ ∃ n e : ℤ, |n| < 2 * hiddenBit ∧ leastExponent ≤ e ∧ q = n * 2 ^ e

theorem representable_of_value? (hx : value? x = some q) : Representable q := by
  refine ⟨abs_le_greatest hx, ?_⟩
  generalize x.toModel.unpack = u, value?_eq_some_iff.1 hx = hu
  cases hu with
  | zero s => exact ⟨0, 0, by decide, by decide, by simp⟩
  | @finite s m e hm hc =>
    have hlt := hc.mantissa_lt
    refine ⟨s.apply m, e, ?_, hc.least_le, ?_⟩
    · cases s <;> simp [Float.Model.UnpackedFloat.Sign.apply] <;> omega
    · rw [← signed_eq_unit_mul]
      cases s <;> rfl

theorem representable_natCast {n : Nat} (hlt : n < 2 * hiddenBit) : Representable n :=
  representable_of_value? (value?_ofNat hlt)

theorem Representable.abs (h : Representable q) : Representable |q| := by
  rcases abs_choice q with hq | hq
  · rwa [hq]
  · obtain ⟨hmax, n, e, hn, he, rfl⟩ := h
    rw [hq]
    exact ⟨by rwa [abs_neg], -n, e, by rwa [abs_neg], he, by push_cast; ring⟩

theorem Rounds.eq_of_representable (h : Rounds q r) (hq : Representable q) : r = q := by
  obtain ⟨-, n, e, hn, he, hq⟩ := hq
  exact h.eq_of_mul_pow hn he hq

/-- A whole number changes by little, however close to zero it is. -/
theorem Rounds.abs_sub_le_of_int {n : ℤ} (h : Rounds n r) :
    2 * hiddenBit * |r - n| ≤ |(n : ℚ)| := by
  rcases eq_or_ne n 0 with rfl | hn
  · have hzero : Representable ((0 : ℤ) : ℚ) := by
      exact_mod_cast representable_natCast (by decide : 0 < 2 * hiddenBit)
    rw [h.eq_of_representable hzero]
    simp
  · have hone : (1 : ℚ) ≤ |(n : ℚ)| := by exact_mod_cast Int.one_le_abs hn
    exact h.abs_sub_le ((zpow_le_one_of_nonpos₀ one_le_two (by decide)).trans hone)

/-! ### Exact operations -/

theorem value?_add (hx : value? x = some p) (hy : value? y = some q) (h : Representable (p + q)) :
    value? (x + y) = some (p + q) := by
  obtain ⟨r, hr, hrounds⟩ := exists_value?_add hx hy h.1
  rw [hr, hrounds.eq_of_representable h]

theorem value?_sub (hx : value? x = some p) (hy : value? y = some q) (h : Representable (p - q)) :
    value? (x - y) = some (p - q) := by
  obtain ⟨r, hr, hrounds⟩ := exists_value?_sub hx hy h.1
  rw [hr, hrounds.eq_of_representable h]

theorem value?_mul (hx : value? x = some p) (hy : value? y = some q) (h : Representable (p * q)) :
    value? (x * y) = some (p * q) := by
  obtain ⟨r, hr, hrounds⟩ := exists_value?_mul hx hy h.1
  rw [hr, hrounds.eq_of_representable h]

theorem value?_div (hx : value? x = some p) (hy : value? y = some q) (hq : q ≠ 0)
    (h : Representable (p / q)) : value? (x / y) = some (p / q) := by
  obtain ⟨r, hr, hrounds⟩ := exists_value?_div hx hy hq h.1
  rw [hr, hrounds.eq_of_representable h]

theorem value?_roundHalfAway {n : ℤ} (hx : value? x = some (n : ℚ)) :
    value? (roundHalfAway x) = some (n : ℚ) := by
  obtain ⟨k, hk, hnear⟩ := exists_value?_roundHalfAway hx
  have habs : 2 * |k - n| ≤ 1 := by exact_mod_cast hnear
  have hzero : k - n = 0 := Int.abs_lt_one_iff.1 (by omega)
  rw [hk, sub_eq_zero.1 hzero]

/-- The powers of ten with at most twenty-two zeros are floats. -/
theorem value?_ofNat_ten_pow {s : Nat} (hs : s ≤ 22) :
    value? (Float.ofNat (10 ^ s)) = some ((10 ^ s : ℕ) : ℚ) := by
  have hfive : 5 ^ s ≤ 5 ^ 22 := Nat.pow_le_pow_right (by decide) hs
  have hmax : ((10 ^ s : ℕ) : ℚ) ≤ greatest := by
    have hten : 10 ^ s ≤ 10 ^ 22 := Nat.pow_le_pow_right (by decide) hs
    have hle : 10 ^ s ≤ 2 ^ 200 := hten.trans (by decide)
    exact le_trans (by exact_mod_cast hle) two_pow_le_greatest
  obtain ⟨r, hr, hrounds⟩ := exists_value?_ofNat hmax
  have hlt : |((5 ^ s : ℕ) : ℤ)| < 2 * hiddenBit := by
    have hbit : 5 ^ 22 < 2 * hiddenBit := by decide
    rw [Nat.abs_cast]
    exact_mod_cast hfive.trans_lt hbit
  have he : leastExponent ≤ (s : ℤ) := (by decide : leastExponent ≤ 0).trans (Int.natCast_nonneg s)
  rw [hr, hrounds.rounds.eq_of_mul_pow hlt he]
  push_cast
  rw [zpow_natCast, ← mul_pow]
  norm_num

/-- What a float has behind the point is a float. -/
theorem Representable.sub_natCast {n : Nat} (h : Representable q) (hn : n ≤ q) (hlt : q < n + 1) :
    Representable (q - n) := by
  obtain ⟨hmax, a, e, ha, he, hq⟩ := h
  have hnonneg : (0 : ℚ) ≤ n := Nat.cast_nonneg n
  rcases lt_or_ge e 0 with hneg | hpos
  · obtain ⟨j, rfl⟩ : ∃ j : ℕ, e = -j := ⟨(-e).toNat, by omega⟩
    have hpow : (0 : ℚ) < 2 ^ j := by positivity
    rw [zpow_neg, zpow_natCast, ← div_eq_mul_inv] at hq
    have hle : (n * 2 ^ j : ℤ) ≤ a := by
      rw [hq, le_div_iff₀ hpow] at hn
      exact_mod_cast hn
    refine ⟨?_, a - n * 2 ^ j, -j, ?_, he, ?_⟩
    · rw [abs_of_nonneg (by linarith)]
      linarith [le_abs_self q]
    · have : (0 : ℤ) ≤ n * 2 ^ j := by positivity
      rw [abs_of_nonneg (by omega)]
      linarith [le_abs_self a]
    · rw [hq, zpow_neg, zpow_natCast]
      push_cast
      field_simp
  · obtain ⟨j, rfl⟩ := Int.eq_ofNat_of_zero_le hpos
    have hint : q = (a * 2 ^ j : ℤ) := by
      rw [hq]
      push_cast
      rfl
    have heq : a * 2 ^ j = n := by
      rw [hint] at hn hlt
      have hle : (n : ℤ) ≤ a * 2 ^ j := by exact_mod_cast hn
      have hlt : a * 2 ^ j < (n : ℤ) + 1 := by exact_mod_cast hlt
      omega
    rw [hint, heq, Int.cast_natCast, sub_self]
    exact_mod_cast representable_natCast (by decide : 0 < 2 * hiddenBit)

end Binary64

namespace Decimal

open Binary64 (hiddenBit value? signed Representable)

/-! ### Few digits enter -/

theorem five_pow_mul_mod_two {m : Nat} (hodd : m % 2 = 1) (i : Nat) : 5 ^ i * m % 2 = 1 := by
  have hfive : Odd (5 ^ i) := Odd.pow (by decide)
  exact Nat.odd_iff.1 (hfive.mul (Nat.odd_iff.2 hodd))

namespace Raw

/-- Odd numbers are multiplied by five. -/
theorem repeat_halve_odd {m t i : Nat} (x : ℤ) (hodd : m % 2 = 1) (hlt : 5 ^ i * m < limit) :
    Nat.repeat halve (t + i) ⟨m * 2 ^ t, x⟩ = ⟨5 ^ i * m, x + t⟩ := by
  induction i with
  | zero => rw [Nat.add_zero, repeat_halve_eq, pow_zero, one_mul]
  | succ i ih =>
    have hpow : 5 ^ (i + 1) * m = 5 * (5 ^ i * m) := by ring
    have hcond : 5 ^ i * m % 2 = 1 ∧ 5 * (5 ^ i * m) < limit :=
      ⟨five_pow_mul_mod_two hodd i, by omega⟩
    rw [← Nat.add_assoc, Nat.repeat, ih (by omega), halve, if_pos hcond, hpow]

theorem cutDigits_of_lt {m places : Nat} (hm : m < hiddenBit) :
    cutDigits m places = (m, places) := by
  cases places with
  | zero => rfl
  | succ places => exact if_neg (Nat.not_le.2 hm)

end Raw

theorem rawOfParts_odd {m t i : Nat} (hodd : m % 2 = 1) (hlt : 5 ^ i * m < limit) :
    rawOfParts (m * 2 ^ t) (t + i) = ⟨5 ^ i * m, -i⟩ := by
  rw [rawOfParts, Raw.repeat_halve_odd _ hodd hlt]
  congr 1
  push_cast
  ring

/-- No decimal expansion of the fraction `m / 2 ^ i`, which is in lowest terms, has fewer digits
than `5 ^ i * m`. -/
theorem five_pow_mul_le {m i n k : Nat} (hodd : m % 2 = 1) (h : m * 10 ^ k = n * 2 ^ i) :
    5 ^ i * m ≤ n := by
  rw [show 10 = 5 * 2 from rfl, Nat.mul_pow, ← Nat.mul_assoc] at h
  have hle : i ≤ k := by
    by_contra hlt
    obtain ⟨j, rfl⟩ : ∃ j, i = j + 1 + k := ⟨i - k - 1, by omega⟩
    rw [Nat.pow_add, ← Nat.mul_assoc] at h
    have heq := Nat.eq_of_mul_eq_mul_right (Nat.two_pow_pos k) h
    have hleft := five_pow_mul_mod_two hodd k
    rw [Nat.mul_comm, heq, Nat.pow_succ, ← Nat.mul_assoc, Nat.mul_mod_left] at hleft
    cases hleft
  obtain ⟨j, rfl⟩ := Nat.exists_eq_add_of_le' hle
  rw [Nat.pow_add 2, ← Nat.mul_assoc] at h
  rw [← Nat.eq_of_mul_eq_mul_right (Nat.two_pow_pos i) h]
  calc 5 ^ i * m ≤ 5 ^ (j + i) * m := Nat.mul_le_mul_right m (Nat.pow_le_pow_right (by decide) hle)
    _ = m * 5 ^ (j + i) := Nat.mul_comm _ _
    _ ≤ m * 5 ^ (j + i) * 2 ^ j := Nat.le_mul_of_pos_right _ (Nat.two_pow_pos j)

theorem kept_of_lt {m places : Nat} (hm : m < hiddenBit) (hplaces : places ≤ maxScale) :
    kept m places = (m, places) := by
  rw [kept, Nat.sub_eq_zero_of_le hplaces, Raw.cutPlaces]
  exact Raw.cutDigits_of_lt hm

/-- What a fraction in lowest terms becomes when all of its digits are kept. -/
theorem stripZeros_kept_of_lt (negative : Bool) {m i : Nat} (hm : 0 < m)
    (hlt : 5 ^ i * m < hiddenBit) :
    (stripZeros negative (kept (5 ^ i * m) i).1 (kept (5 ^ i * m) i).2).value =
        signed negative m / 2 ^ i ∧
      (stripZeros negative (kept (5 ^ i * m) i).1 (kept (5 ^ i * m) i).2).scale ≤ 22 := by
  have hi : i ≤ 22 := by
    by_contra hlarge
    have hpow : 5 ^ 23 ≤ 5 ^ i := Nat.pow_le_pow_right (by decide) (by omega)
    have hself : 5 ^ i ≤ 5 ^ i * m := Nat.le_mul_of_pos_right _ hm
    have hbit : hiddenBit ≤ 5 ^ 23 := by decide
    omega
  have hmax : i ≤ maxScale := hi.trans (by decide)
  obtain ⟨hvalue, -, hscale⟩ := stripZeros_spec negative (5 ^ i * m) i
  rw [kept_of_lt hlt hmax]
  refine ⟨?_, hscale.trans hi⟩
  rw [hvalue, signed_mul, show (10 : ℚ) = 5 * 2 by norm_num, mul_pow]
  push_cast
  field_simp

/-- A fraction that is no whole number, in lowest terms. -/
theorem exists_lowest_terms {negative : Bool} {m k : Nat}
    (h : ¬∃ z : ℤ, (signed negative m : ℚ) / 2 ^ k = z) :
    ∃ t n i, m = n * 2 ^ t ∧ k = t + i ∧ n % 2 = 1 ∧
      (signed negative m : ℚ) / 2 ^ k = signed negative n / 2 ^ i := by
  have hm : m ≠ 0 := by
    rintro rfl
    exact h ⟨0, by cases negative <;> simp [signed]⟩
  obtain ⟨t, n, hodd, rfl⟩ := Nat.exists_eq_two_pow_mul_odd hm
  have ht : t ≤ k := by
    by_contra hlarge
    obtain ⟨j, rfl⟩ : ∃ j, t = j + k := ⟨t - k, by omega⟩
    refine h ⟨2 ^ j * signed negative n, ?_⟩
    rw [signed_mul, Nat.pow_add]
    push_cast
    field_simp
  obtain ⟨i, rfl⟩ := Nat.exists_eq_add_of_le ht
  refine ⟨t, n, i, Nat.mul_comm _ _, rfl, Nat.odd_iff.1 hodd, ?_⟩
  rw [signed_mul, pow_add]
  push_cast
  field_simp

/-- **A float with few digits enters as it is.** -/
theorem value_of_ofFloat? {x : Float} {q : ℚ} {d : Decimal} {n k : Nat} (hx : value? x = some q)
    (hd : ofFloat? x = some d) (hn : n < hiddenBit) (hq : |q| = n / 10 ^ k) :
    d.value = q ∧ (d.scale ≤ 22 ∨ ∃ z : ℤ, q = z) := by
  by_cases hint : ∃ z : ℤ, q = z
  · exact ⟨(enters_of_ofFloat? hx hd).whole hint, .inr hint⟩
  obtain ⟨negative, m, e, hshape, rfl⟩ := exists_shape_of_value? hx
  rw [ofFloat?, hshape] at hd
  cases e with
  | ofNat e => exact absurd ⟨signed negative m * 2 ^ e, by push_cast; rfl⟩ hint
  | negSucc e =>
    rw [zpow_negSucc, ← div_eq_mul_inv] at hint hq ⊢
    obtain ⟨t, m, i, rfl, he, hodd, hlowest⟩ := exists_lowest_terms hint
    rw [hlowest] at hq ⊢
    have hpos : 0 < m := Nat.pos_of_ne_zero (by omega)
    have hle : 5 ^ i * m ≤ n := by
      rw [abs_div, abs_signed, abs_of_pos (by positivity), div_eq_div_iff (by positivity)
        (by positivity)] at hq
      exact five_pow_mul_le hodd (by exact_mod_cast hq)
    have hlimit : 5 ^ i * m < limit := (hle.trans_lt hn).trans (by decide)
    have hne : m * 2 ^ t ≠ 0 := (Nat.mul_pos hpos (Nat.two_pow_pos t)).ne'
    dsimp only at hd
    rw [if_neg hne, he, rawOfParts_odd hodd hlimit, neg_neg, Int.toNat_natCast] at hd
    cases hd
    obtain ⟨hvalue, hscale⟩ := stripZeros_kept_of_lt negative hpos (hle.trans_lt hn)
    exact ⟨hvalue, .inl hscale⟩

/-! ### Few digits leave -/

open Binary64 in
/-- The steps from a mantissa and a unit to a float, where each of them is exact. -/
theorem value?_steps {m s : Nat} (hs : s ≤ 22) (hm : m < hiddenBit)
    (hrep : Representable (m / 10 ^ s)) :
    value? (roundHalfAway ((Float.ofNat (m / 10 ^ s) +
      Float.ofNat (m % 10 ^ s) / Float.ofNat (10 ^ s)) * Float.ofNat (10 ^ s)) /
        Float.ofNat (10 ^ s)) = some (m / 10 ^ s : ℚ) := by
  have hunit := value?_ofNat_ten_pow hs
  push_cast at hunit
  have hpos : (0 : ℚ) < 10 ^ s := by positivity
  have hdiv := Nat.div_le_self m (10 ^ s)
  have hmod := Nat.mod_le m (10 ^ s)
  have hwhole := value?_ofNat (by omega : m / 10 ^ s < 2 * hiddenBit)
  have hrest := value?_ofNat (by omega : m % 10 ^ s < 2 * hiddenBit)
  have hdivmod : (10 ^ s * (m / 10 ^ s : ℕ) + (m % 10 ^ s : ℕ) : ℚ) = m := by
    exact_mod_cast Nat.div_add_mod m (10 ^ s)
  have hfraction : ((m % 10 ^ s : ℕ) : ℚ) / 10 ^ s = m / 10 ^ s - (m / 10 ^ s : ℕ) := by
    field_simp
    linarith
  have hlt : ((m % 10 ^ s : ℕ) : ℚ) < 10 ^ s := by
    exact_mod_cast Nat.mod_lt m (Nat.pow_pos (by decide))
  have hfracRep : Representable ((m % 10 ^ s : ℕ) / 10 ^ s) := by
    have hnonneg : (0 : ℚ) ≤ (m % 10 ^ s : ℕ) / 10 ^ s := by positivity
    have hone : ((m % 10 ^ s : ℕ) : ℚ) / 10 ^ s < 1 := (div_lt_one hpos).2 hlt
    rw [hfraction] at hnonneg hone ⊢
    exact hrep.sub_natCast (by linarith) (by linarith)
  have hfrac := value?_div hrest hunit hpos.ne' hfracRep
  have hsum := value?_add hwhole hfrac (by rwa [hfraction, add_sub_cancel])
  rw [hfraction, add_sub_cancel] at hsum
  have hcancel : (m : ℚ) / 10 ^ s * 10 ^ s = m := div_mul_cancel₀ _ hpos.ne'
  have hprod := value?_mul hsum hunit
    (hcancel.symm ▸ representable_natCast (by omega : m < 2 * hiddenBit))
  rw [hcancel] at hprod
  have hround := value?_roundHalfAway (n := m) (by simpa using hprod)
  rw [Int.cast_natCast] at hround
  exact value?_div hround hunit hpos.ne' hrep

/-- **A decimal with few digits that floats can hold leaves as it is.** -/
theorem value?_toFloat_of_representable {d : Decimal} (hs : d.scale ≤ 22)
    (hm : d.mantissa < hiddenBit) (hfraction : d.mantissa % 10 ^ d.scale ≠ 0)
    (hrep : Representable d.value) : value? d.toFloat = some d.value := by
  have habs : Representable (d.mantissa / 10 ^ d.scale) := abs_value d ▸ hrep.abs
  have hmagnitude : value? (magnitude d.mantissa d.scale) =
      some (d.mantissa / 10 ^ d.scale : ℚ) := by
    rw [magnitude]
    dsimp only
    rw [if_neg hfraction, floatPower_eq d.scale (by omega)]
    exact value?_steps hs hm habs
  rw [value?_toFloat hmagnitude, value_eq]

end Decimal

end Parley
