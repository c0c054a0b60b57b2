import Parley.Proofs.Number.ShortDigits

/-!
# The nearest float

Rounding replaces a number by a neighbour of it among the multiples of one power of two. This is
also the nearest one among all the numbers that floats can be
(`Parley.Binary64.RoundsToEven.nearest`), whatever their exponents are: those with a larger exponent
are multiples of the same power, and those with a smaller one are too close to zero to come into
question. So a whole number becomes the float that is nearest to it
(`Parley.Binary64.exists_nearest_toFloat`).
-/

namespace Parley

namespace Binary64

/-- `Nearest q r`: **of the numbers that floats can be, `r` is the nearest to `q`**, and the even
one where two are equally near, which is an even multiple of their distance. -/
structure Nearest (q r : ℚ) : Prop where
  representable : Representable r
  abs_sub_le {p : ℚ} : Representable p → |r - q| ≤ |p - q|
  even {p : ℚ} : Representable p → p ≠ r → |p - q| = |r - q| → ∃ k : ℤ, r = 2 * k * (p - r)

/-- A number that floats can be is nearest to itself. -/
theorem Nearest.eq_of_representable {q r : ℚ} (h : Nearest q r) (hq : Representable q) : r = q := by
  have hle := h.abs_sub_le hq
  rw [sub_self, abs_zero] at hle
  exact sub_eq_zero.1 (abs_eq_zero.1 (le_antisymm hle (abs_nonneg _)))

/-- Two different multiples of a number are at least as far apart as the number is from zero. -/
theorem le_abs_sub_of_ne {u : ℚ} (hu : 0 < u) {a b : ℤ} (hne : (a * u : ℚ) ≠ b * u) :
    u ≤ |(a * u : ℚ) - b * u| := by
  have hint : a - b ≠ 0 := fun h => hne (by rw [sub_eq_zero.1 h])
  have hone : (1 : ℚ) ≤ |((a - b : ℤ) : ℚ)| := by exact_mod_cast Int.one_le_abs hint
  rw [← sub_mul, ← Int.cast_sub, abs_mul, abs_of_pos hu]
  exact le_mul_of_one_le_left hu.le hone

/-- A number that floats can be is a multiple of the power of two that another one is rounded to,
or some multiple is nearer to this. -/
theorem Representable.exists_multiple {p q : ℚ} {t : ℤ} (hp : Representable p)
    (ht : t = leastExponent ∨ leastExponent ≤ t ∧ hiddenBit * 2 ^ t ≤ |q|) :
    ∃ a : ℤ, a * 2 ^ t = p ∨ |a * 2 ^ t - q| < |p - q| := by
  obtain ⟨-, n, e, hn, he, rfl⟩ := hp
  rcases le_or_gt t e with hle | hlt
  · obtain ⟨d, rfl⟩ : ∃ d : ℕ, e = t + d := ⟨(e - t).toNat, by omega⟩
    refine ⟨n * 2 ^ d, .inl ?_⟩
    rw [zpow_add₀ two_ne_zero, zpow_natCast]
    push_cast
    ring
  · have hbound := (ht.resolve_left (by omega)).2
    have hsmall : |(n : ℚ) * 2 ^ e| < hiddenBit * 2 ^ t := by
      have hpos : (0 : ℚ) < 2 ^ e := by positivity
      have hn : |(n : ℚ)| < 2 * hiddenBit := by exact_mod_cast hn
      have hstep : (2 : ℚ) ^ (e + 1) ≤ 2 ^ t := zpow_le_zpow_right₀ one_le_two (by omega)
      rw [zpow_add₀ two_ne_zero, zpow_one] at hstep
      calc |(n : ℚ) * 2 ^ e| = |(n : ℚ)| * 2 ^ e := abs_mul_two_zpow _ _
        _ < 2 * hiddenBit * 2 ^ e := mul_lt_mul_of_pos_right hn hpos
        _ = hiddenBit * (2 ^ e * 2) := by ring
        _ ≤ hiddenBit * 2 ^ t := mul_le_mul_of_nonneg_left hstep (Nat.cast_nonneg _)
    obtain ⟨hlo, hhi⟩ := abs_lt.1 hsmall
    rcases abs_choice q with hq | hq
    · refine ⟨hiddenBit, .inr ?_⟩
      rw [hq] at hbound
      rw [Int.cast_natCast, abs_of_nonpos (by linarith), abs_of_neg (by linarith)]
      linarith
    · refine ⟨-hiddenBit, .inr ?_⟩
      rw [hq] at hbound
      rw [Int.cast_neg, Int.cast_natCast, neg_mul, abs_of_nonneg (by linarith),
        abs_of_pos (by linarith)]
      linarith

/-- **Rounding finds the nearest number.** -/
theorem RoundsToEven.nearest {q r : ℚ} (h : RoundsToEven q r) (hr : Representable r) :
    Nearest q r := by
  obtain ⟨t, k, rfl, hnear, heven, ht⟩ := h
  have hpow : (0 : ℚ) < 2 ^ t := by positivity
  have hapart (a : ℤ) (hne : (a * 2 ^ t : ℚ) ≠ k * 2 ^ t) :
      2 ^ t ≤ |(a * 2 ^ t : ℚ) - k * 2 ^ t| ∧
        |(a * 2 ^ t : ℚ) - k * 2 ^ t| ≤ |a * 2 ^ t - q| + |k * 2 ^ t - q| := by
    have htriangle := abs_sub_le (a * 2 ^ t : ℚ) q (k * 2 ^ t)
    rw [abs_sub_comm q] at htriangle
    exact ⟨le_abs_sub_of_ne hpow hne, htriangle⟩
  -- no multiple is nearer: another one is too far away from this one
  have hmultiple (a : ℤ) : |(k * 2 ^ t : ℚ) - q| ≤ |a * 2 ^ t - q| := by
    by_cases hne : (a * 2 ^ t : ℚ) = k * 2 ^ t
    · rw [hne]
    · obtain ⟨hfar, htriangle⟩ := hapart a hne
      linarith
  refine ⟨hr, fun hp => ?_, fun hp hne htie => ?_⟩
  · obtain ⟨a, rfl | hlt⟩ := hp.exists_multiple ht
    · exact hmultiple a
    · exact (hmultiple a).trans hlt.le
  · obtain ⟨a, rfl | hlt⟩ := hp.exists_multiple ht
    · obtain ⟨hfar, htriangle⟩ := hapart a hne
      obtain ⟨j, rfl⟩ := heven (by linarith)
      have hdist : |(a * 2 ^ t : ℚ) - (j + j : ℤ) * 2 ^ t| = 2 ^ t :=
        le_antisymm (by linarith) hfar
      rcases eq_or_eq_neg_of_abs_eq hdist with hdiff | hdiff
      · exact ⟨j, by rw [hdiff]; push_cast; ring⟩
      · exact ⟨-j, by rw [hdiff]; push_cast; ring⟩
    · exact absurd htie (ne_of_gt (lt_of_le_of_lt (hmultiple a) hlt))

/-- **A whole number becomes the float that is nearest to it.** -/
theorem exists_nearest_toFloat (n : Int64) :
    ∃ r, value? (Whole.toFloat n) = some r ∧ Nearest n.toInt r := by
  obtain ⟨r, hr, hrounds⟩ := exists_value?_toFloat n
  exact ⟨r, hr, hrounds.nearest (representable_of_value? hr)⟩

end Binary64

end Parley
