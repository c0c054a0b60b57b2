import Parley.Proofs.Number.FromFloat

/-!
# Decimals as floats

A decimal leaves as a float by way of five operations that may each round: the fraction is divided
out, added to the whole part, brought back to the places of the decimal, rounded there, and divided
again. `Parley.Decimal.exists_value?_toFloat` bounds what this does to the number.

The bound is put together by counting roundings. `Parley.Binary64.Approx n x q` says that the float
`x` is the number `q`, but for `n` roundings; each operation adds its own rounding to those of its
operands and one more, which pays for the products of errors. The numbers of a decimal are far from
zero and from the greatest float (`Parley.Binary64.Moderate`), so that nothing overflows and all
errors are relative. Powers of ten are made by repeated squaring, which for the few that occur gives
the float nearest to them (`Parley.Decimal.floatPower_eq`).

A decimal without a fraction needs one operation, and is rounded once
(`Parley.Decimal.exists_value?_toFloat_of_whole`).
-/

namespace Parley

namespace Binary64

/-- The numbers that are far from the limits of the floats. -/
def Moderate (q : ℚ) : Prop :=
  1 / 2 ^ 100 ≤ q ∧ q ≤ 2 ^ 100

/-- `Approx n x q`: **the float is the number, but for `n` roundings**. -/
def Approx (n : ℕ) (x : Float) (q : ℚ) : Prop :=
  ∃ a, value? x = some a ∧ |a - q| ≤ n / 2 ^ 53 * q

theorem Moderate.pos {q : ℚ} (h : Moderate q) : 0 < q :=
  lt_of_lt_of_le (by norm_num) h.1

theorem two_pow_neg_le : (2 : ℚ) ^ (-1022 : ℤ) ≤ 1 / 2 ^ 101 := by
  have hle : (2 : ℚ) ^ (-1022 : ℤ) ≤ 2 ^ (-101 : ℤ) := zpow_le_zpow_right₀ one_le_two (by decide)
  rwa [zpow_neg 2 101, ← one_div] at hle

/-- One rounding of a number that is not close to zero. -/
theorem Rounds.abs_sub_le_div {q r : ℚ} (h : Rounds q r) (hq : 1 / 2 ^ 101 ≤ q) :
    |r - q| ≤ q / 2 ^ 53 := by
  have habs : |q| = q := abs_of_nonneg (le_trans (by norm_num) hq)
  have hbound := h.abs_sub_le (by rw [habs]; exact two_pow_neg_le.trans hq)
  rw [habs, hiddenBit_eq] at hbound
  linarith

namespace Approx

variable {k n m : ℕ} {x y z : Float} {p q e : ℚ}

theorem exact (hx : value? x = some q) : Approx 0 x q :=
  ⟨q, hx, by simp⟩

theorem mono (hx : Approx n x q) (hnm : n ≤ m) (hq : 0 ≤ q) : Approx m x q := by
  obtain ⟨a, ha, haq⟩ := hx
  refine ⟨a, ha, haq.trans (mul_le_mul_of_nonneg_right ?_ hq)⟩
  have : (n : ℚ) ≤ m := by exact_mod_cast hnm
  linarith

/-- An operation rounds once more, and the roundings of its operands grow by less than another
one. -/
theorem of_rounds (hz : |e| ≤ greatest → ∃ r, value? z = some r ∧ Rounds e r)
    (he : |e - q| ≤ (n + 1 / 2) / 2 ^ 53 * q) (hk : n + 2 ≤ k) (hmax : k ≤ 50)
    (hq : Moderate q) : Approx k z q := by
  refine mono (n := n + 2) ?_ hk hq.pos.le
  have hn : (n : ℚ) ≤ 50 := by exact_mod_cast (by omega : n ≤ 50)
  have hsmall : (n + 1 / 2) / 2 ^ 53 * q ≤ 1 / 2 * q :=
    mul_le_mul_of_nonneg_right (by linarith) hq.pos.le
  have hpos := hq.pos
  obtain ⟨hlo, hhi⟩ := abs_le.1 he
  obtain ⟨r, hr, hrounds⟩ := hz <| by
    rw [abs_of_nonneg (by linarith)]
    refine le_trans ?_ two_pow_le_greatest
    linarith [hq.2]
  refine ⟨r, hr, ?_⟩
  have hround := hrounds.abs_sub_le_div (by linarith [hq.1])
  have htriangle := abs_sub_le r e q
  push_cast
  linarith

theorem mul (hx : Approx n x p) (hy : Approx m y q) (hk : n + m + 2 ≤ k) (hmax : k ≤ 50)
    (hp : 0 ≤ p) (hq : 0 ≤ q) (hpq : Moderate (p * q)) : Approx k (x * y) (p * q) := by
  obtain ⟨a, ha, hap⟩ := hx
  obtain ⟨b, hb, hbq⟩ := hy
  refine of_rounds (exists_value?_mul ha hb) ?_ hk hmax hpq
  have hsplit : a * b - p * q = (a - p) * (b - q) + ((a - p) * q + p * (b - q)) := by ring
  have hn : (n : ℚ) ≤ 50 := by exact_mod_cast (by omega : n ≤ 50)
  have hm : (m : ℚ) ≤ 50 := by exact_mod_cast (by omega : m ≤ 50)
  have h1 : |(a - p) * (b - q)| ≤ n / 2 ^ 53 * p * (m / 2 ^ 53 * q) := by
    rw [abs_mul]
    exact mul_le_mul hap hbq (abs_nonneg _) (by positivity)
  have h2 : |(a - p) * q| ≤ n / 2 ^ 53 * p * q := by
    rw [abs_mul, abs_of_nonneg hq]
    exact mul_le_mul_of_nonneg_right hap hq
  have h3 : |p * (b - q)| ≤ p * (m / 2 ^ 53 * q) := by
    rw [abs_mul, abs_of_nonneg hp]
    exact mul_le_mul_of_nonneg_left hbq hp
  have h4 : (n : ℚ) * m * (p * q) ≤ 2500 * (p * q) := by
    refine mul_le_mul_of_nonneg_right ?_ hpq.pos.le
    nlinarith
  have h5 := abs_add_le ((a - p) * (b - q)) ((a - p) * q + p * (b - q))
  have h6 := abs_add_le ((a - p) * q) (p * (b - q))
  rw [hsplit]
  push_cast
  linarith [hpq.pos]

theorem div (hx : Approx n x p) (hy : Approx m y q) (hk : n + m + 2 ≤ k) (hmax : k ≤ 50)
    (hp : 0 ≤ p) (hq : 0 < q) (hpq : Moderate (p / q)) : Approx k (x / y) (p / q) := by
  obtain ⟨a, ha, hap⟩ := hx
  obtain ⟨b, hb, hbq⟩ := hy
  have hn : (n : ℚ) ≤ 50 := by exact_mod_cast (by omega : n ≤ 50)
  have hm : (m : ℚ) ≤ 50 := by exact_mod_cast (by omega : m ≤ 50)
  have hsmall : m / 2 ^ 53 * q ≤ 1 / 2 * q := mul_le_mul_of_nonneg_right (by linarith) hq.le
  have hlo := (abs_le.1 hbq).1
  have hb' : 0 < b := by linarith
  refine of_rounds (exists_value?_div ha hb hb'.ne') ?_ hk hmax hpq
  have hsplit : a / b - p / q = ((a - p) * q - p * (b - q)) / (b * q) := by
    field_simp
    ring
  have h1 : |(a - p) * q| ≤ n / 2 ^ 53 * p * q := by
    rw [abs_mul, abs_of_pos hq]
    exact mul_le_mul_of_nonneg_right hap hq.le
  have h2 : |p * (b - q)| ≤ p * (m / 2 ^ 53 * q) := by
    rw [abs_mul, abs_of_nonneg hp]
    exact mul_le_mul_of_nonneg_left hbq hp
  have h3 : (n + m) * q ≤ (n + m + 1 / 2) * b := by
    have hloss : (n + m + 1 / 2) * m * q ≤ 5025 * q := by
      refine mul_le_mul_of_nonneg_right ?_ hq.le
      nlinarith
    have := mul_le_mul_of_nonneg_left hlo (by positivity : (0 : ℚ) ≤ n + m + 1 / 2)
    linarith
  have h4 := mul_le_mul_of_nonneg_left h3 hp
  have h5 := abs_sub ((a - p) * q) (p * (b - q))
  have h6 : (n + m + 1 / 2 : ℚ) / 2 ^ 53 * (p / q) * (b * q) =
      p * ((n + m + 1 / 2) * b) / 2 ^ 53 := by
    field_simp
  rw [hsplit, abs_div, abs_of_pos (mul_pos hb' hq), div_le_iff₀ (mul_pos hb' hq)]
  push_cast
  rw [h6]
  linarith

theorem add (hx : Approx n x p) (hy : Approx n y q) (hk : n + 2 ≤ k) (hmax : k ≤ 50)
    (hpq : Moderate (p + q)) : Approx k (x + y) (p + q) := by
  obtain ⟨a, ha, hap⟩ := hx
  obtain ⟨b, hb, hbq⟩ := hy
  refine of_rounds (exists_value?_add ha hb) ?_ hk hmax hpq
  have := abs_add_le (a - p) (b - q)
  rw [add_sub_add_comm]
  linarith [hpq.pos]

/-- A natural number is rounded once. -/
theorem ofNat (hn : Moderate n) : Approx 1 (Float.ofNat n) n := by
  have hmax : (n : ℚ) ≤ greatest := le_trans (by linarith [hn.2]) two_pow_le_greatest
  obtain ⟨r, hr, hrounds⟩ := exists_value?_ofNat hmax
  refine ⟨r, hr, ?_⟩
  have := hrounds.rounds.abs_sub_le_div (by linarith [hn.1])
  rw [Nat.cast_one]
  linarith

/-- Rounding to a whole number finds the number that was meant, or at least does not double the
error. -/
theorem roundHalfAway {j : ℕ} (hx : Approx n x j) : Approx (2 * n) (roundHalfAway x) j := by
  obtain ⟨a, ha, haj⟩ := hx
  obtain ⟨i, hi, hia⟩ := exists_value?_roundHalfAway ha
  have htriangle := abs_sub_le (i : ℚ) a j
  refine ⟨i, hi, ?_⟩
  push_cast
  by_cases hclose : |a - j| < 1 / 2
  · have hlt : |(i : ℚ) - j| < 1 := by linarith
    have hzero : i - j = 0 := Int.abs_lt_one_iff.1 (by exact_mod_cast hlt)
    have hcast : (i : ℚ) - j = 0 := by exact_mod_cast hzero
    rw [hcast, abs_zero]
    positivity
  · linarith

end Approx

end Binary64

namespace Decimal

open Binary64 (Approx Moderate hiddenBit value? signed)

/-- The powers of ten that decimals have as their units come out as they are rounded. -/
theorem floatPower_eq : ∀ s < 29, floatPower 1.0 10.0 s = Float.ofNat (10 ^ s) := by
  decide +kernel

/-- The float for a decimal without its sign. -/
def magnitude (m scale : Nat) : Float :=
  let unit := 10 ^ scale
  let whole := Float.ofNat (m / unit)
  let fraction := Float.ofNat (m % unit) / Float.ofNat unit
  if m % unit = 0 then whole
  else
    let power := floatPower 1.0 10.0 scale
    Binary64.roundHalfAway ((whole + fraction) * power) / power

theorem toFloat_eq (d : Decimal) :
    d.toFloat =
      if d.negative then -magnitude d.mantissa d.scale else magnitude d.mantissa d.scale :=
  rfl

/-- What a decimal is put together from is far from the limits of the floats. -/
theorem moderate_div {a u : ℚ} (ha : 1 ≤ a) (ha' : a ≤ 2 ^ 100) (hu : 1 ≤ u) (hu' : u ≤ 10 ^ 28) :
    Moderate (a / u) := by
  have hpos : 0 < u := by linarith
  constructor
  · rw [le_div_iff₀ hpos]
    linarith
  · rw [div_le_iff₀ hpos]
    nlinarith

/-- The steps from a mantissa and a unit to a float. -/
theorem approx_steps {m u : Nat} (hu : 1 ≤ u ∧ u ≤ 10 ^ 28) (hm : m < hiddenBit)
    (hfraction : m % u ≠ 0) :
    Approx 19 (Binary64.roundHalfAway ((Float.ofNat (m / u) + Float.ofNat (m % u) / Float.ofNat u) *
      Float.ofNat u) / Float.ofNat u) (m / u) := by
  have hone : (1 : ℚ) ≤ u := by exact_mod_cast hu.1
  have hmax : (u : ℚ) ≤ 10 ^ 28 := by exact_mod_cast hu.2
  have hdivmod : ((m / u : ℕ) : ℚ) + (m % u : ℕ) / u = m / u := by
    have : (u * (m / u : ℕ) + (m % u : ℕ) : ℚ) = m := by exact_mod_cast Nat.div_add_mod m u
    field_simp
    linarith
  have hdiv := Nat.div_le_self m u
  have hmod := Nat.mod_le m u
  have hlt : ((m % u : ℕ) : ℚ) ≤ u := by exact_mod_cast (Nat.mod_lt m hu.1).le
  have hpos : (1 : ℚ) ≤ (m % u : ℕ) := by exact_mod_cast Nat.pos_of_ne_zero hfraction
  have hle : ((m % u : ℕ) : ℚ) ≤ m := by exact_mod_cast hmod
  have hbits : (m : ℚ) ≤ 2 ^ 52 := by exact_mod_cast hm.le
  have hquotient : Moderate (m / u) := moderate_div (by linarith) (by linarith) hone hmax
  have hwhole := Approx.exact (Binary64.value?_ofNat (by omega : m / u < 2 * hiddenBit))
  have hrest := Approx.exact (Binary64.value?_ofNat (by omega : m % u < 2 * hiddenBit))
  have hunit : Approx 1 (Float.ofNat u) u := .ofNat ⟨by linarith, by linarith⟩
  have hfrac : Approx 3 (Float.ofNat (m % u) / Float.ofNat u) ((m % u : ℕ) / u) :=
    hrest.div hunit (by decide) (by decide) (by linarith) (by linarith)
      (moderate_div hpos (by linarith) hone hmax)
  have hsum : Approx 5 (Float.ofNat (m / u) + Float.ofNat (m % u) / Float.ofNat u) (m / u) := by
    rw [← hdivmod] at hquotient ⊢
    exact (hwhole.mono (Nat.zero_le 3) (Nat.cast_nonneg _)).add hfrac (by decide) (by decide)
      hquotient
  have hprod : Approx 8 ((Float.ofNat (m / u) + Float.ofNat (m % u) / Float.ofNat u) *
      Float.ofNat u) m := by
    have hcancel : (m : ℚ) / u * u = m := div_mul_cancel₀ _ (by linarith)
    have hmoderate : Moderate (m / u * u) := hcancel.symm ▸ ⟨by linarith, by linarith⟩
    rw [← hcancel]
    exact hsum.mul hunit (by decide) (by decide) hquotient.pos.le (by linarith) hmoderate
  exact hprod.roundHalfAway.div hunit (by decide) (by decide) (by linarith) (by linarith) hquotient

theorem approx_magnitude {m s : Nat} (hs : s ≤ maxScale) (hm : m < hiddenBit)
    (hfraction : m % 10 ^ s ≠ 0) : Approx 19 (magnitude m s) (m / 10 ^ s) := by
  have hunit : 10 ^ s ≤ 10 ^ 28 := Nat.pow_le_pow_right (by decide) hs
  have hcast : (10 : ℚ) ^ s = (10 ^ s : ℕ) := by
    push_cast
    rfl
  rw [magnitude]
  dsimp only
  rw [if_neg hfraction, floatPower_eq s (Nat.lt_succ_of_le hs), hcast]
  exact approx_steps ⟨Nat.pow_pos (by decide), hunit⟩ hm hfraction

theorem value_eq (d : Decimal) :
    d.value = (if d.negative then -1 else 1) * (d.mantissa / 10 ^ d.scale : ℚ) := by
  rw [value, signed]
  cases d.negative with
  | false => simp
  | true => simp [neg_div]

/-- The sign of a decimal is put in front of its float. -/
theorem value?_toFloat {d : Decimal} {r : ℚ} (h : value? (magnitude d.mantissa d.scale) = some r) :
    value? d.toFloat = some ((if d.negative then -1 else 1) * r) := by
  rw [toFloat_eq]
  cases d.negative with
  | false => simpa using h
  | true => simpa using Binary64.value?_neg h

/-- **A decimal with a fraction leaves as a float that is close to it.** -/
theorem exists_value?_toFloat {d : Decimal} (hs : d.scale ≤ maxScale) (hm : d.mantissa < hiddenBit)
    (hfraction : d.mantissa % 10 ^ d.scale ≠ 0) :
    ∃ r, value? d.toFloat = some r ∧ |r - d.value| ≤ 19 / 2 ^ 53 * |d.value| := by
  obtain ⟨r, hr, hnear⟩ := approx_magnitude hs hm hfraction
  refine ⟨_, value?_toFloat hr, ?_⟩
  rw [abs_value, value_eq, ← mul_sub, abs_mul]
  have hsign : |(if d.negative then -1 else 1 : ℚ)| = 1 := by
    cases d.negative <;> simp
  rw [hsign, one_mul]
  exact hnear

/-! ### Decimals without a fraction -/

section

variable {d : Decimal}

theorem value_eq_intCast_iff {k : ℤ} :
    d.value = k ↔ d.mantissa % 10 ^ d.scale = 0 ∧
      signed d.negative (d.mantissa / 10 ^ d.scale) = k := by
  have hpow : 0 < 10 ^ d.scale := Nat.pow_pos (by decide)
  rw [← signed_div_eq_intCast_iff hpow, value, Nat.cast_pow, Nat.cast_ofNat]

theorem value_eq_signed (hmod : d.mantissa % 10 ^ d.scale = 0) :
    d.value = signed d.negative (d.mantissa / 10 ^ d.scale) :=
  value_eq_intCast_iff.2 ⟨hmod, rfl⟩

/-- A decimal has no fraction exactly if it is a whole number. -/
theorem mod_eq_zero_iff : d.mantissa % 10 ^ d.scale = 0 ↔ ∃ n : ℤ, d.value = n := by
  refine ⟨fun h => ⟨_, value_eq_signed h⟩, ?_⟩
  rintro ⟨n, hn⟩
  exact (value_eq_intCast_iff.1 hn).1

theorem toInt_of_whole?_eq_some {n : Int64} (h : d.whole? = some n) : (n.toInt : ℚ) = d.value := by
  obtain ⟨hmod, hn⟩ := Option.ite_none_right_eq_some.1 h
  rw [Whole.toInt_ofInt? hn, value_eq_signed hmod]
  rfl

/-- **A decimal without a fraction leaves as it is rounded.** -/
theorem exists_value?_toFloat_of_whole (hlt : d.mantissa < limit)
    (hwhole : d.mantissa % 10 ^ d.scale = 0) :
    ∃ r, value? d.toFloat = some r ∧ Binary64.Rounds d.value r := by
  have hmagnitude : magnitude d.mantissa d.scale = Float.ofNat (d.mantissa / 10 ^ d.scale) := by
    rw [magnitude]
    exact if_pos hwhole
  have hmax : ((d.mantissa / 10 ^ d.scale : ℕ) : ℚ) ≤ Binary64.greatest := by
    refine le_trans ?_ Binary64.two_pow_le_greatest
    have hlimit : limit ≤ 2 ^ 200 := by decide
    exact_mod_cast (Nat.div_le_self _ _).trans (hlt.le.trans hlimit)
  obtain ⟨r, hr, hrounds⟩ := Binary64.exists_value?_ofNat hmax
  rw [← hmagnitude] at hr
  refine ⟨_, value?_toFloat hr, ?_⟩
  rw [value_eq_signed hwhole, signed]
  generalize d.mantissa / 10 ^ d.scale = n at *
  cases d.negative with
  | false => simpa using hrounds.rounds
  | true => simpa using hrounds.rounds.neg

end

end Decimal

end Parley
