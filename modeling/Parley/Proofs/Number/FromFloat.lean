import Parley.Number.Decimal
import Parley.Proofs.Number.FloatArithmetic

/-!
# Floats as decimals

What number is the decimal that a float is turned into? The answer is
`Parley.Decimal.Enters`, and `Parley.Decimal.enters_of_ofFloat?` says that it is true of all finite
floats: the decimal is zero for floats below `17 / (18 * 10 ^ 28)` and for no others, it is the
float itself if this has no fraction, and is near it in all cases.

A fraction `m / 2 ^ e` passes through three steps, and each has its own measure of what it loses.

* It is halved `e` times over, in powers of ten. A halving loses something only where the mantissa
  has become long, and then at most one part in `limit / 5`. The number stays below the exact one,
  and above what is left of it if each halving loses the most (`Parley.Decimal.Raw.Near`).
* Places beyond the twenty-eighth are rounded off one by one. Rounding one by one is not rounding
  at once: the losses add up to as much as five ninths of the last place that is kept
  (`Parley.Decimal.IsCut`), and a number is lost as a whole where it is below seventeen eighteenths
  of a half. This is where the bound `17 / (18 * 10 ^ 28)` comes from.
* Digits are rounded off in the same way until the mantissa is below `2 ^ 52`.

The first step loses something and the bound of the second is sharp, so the two could interfere at
the bound. They do not: the bound is not a float, floats of this size keep a distance from it that
is greater than the loss (`Parley.Decimal.seventeen_le_mul_loss`), and on the side of the decimals
the remainder of `10 ^ n` by eighteen does the rest.
-/

namespace Parley

namespace Decimal

open Binary64 (signed hiddenBit value?)

theorem limit_eq : (limit : ℚ) = 2 ^ 96 := by
  rw [limit, Nat.pow_eq, Nat.cast_pow, Nat.cast_ofNat]

/-- The number that a decimal is. -/
def value (d : Decimal) : ℚ :=
  signed d.negative d.mantissa / 10 ^ d.scale

/-! ### Powers of two in powers of ten -/

namespace Raw

/-- The number that a mantissa and an exponent of ten are. -/
def value (r : Raw) : ℚ :=
  r.mantissa * 10 ^ r.exponent

theorem value_mk (n places : Nat) : (Raw.mk n (-places)).value = n / 10 ^ places := by
  rw [value, zpow_neg, zpow_natCast, div_eq_mul_inv]

/-- The most that a halving takes away, as a part of the number. -/
def loss : ℚ :=
  5 / limit

theorem loss_eq : loss = 5 / 2 ^ 96 := by
  rw [loss, limit_eq]

theorem loss_pos : 0 < loss := by
  rw [loss_eq]
  positivity

theorem loss_le_one : loss ≤ 1 := by
  rw [loss_eq]
  norm_num

theorem value_halve (r : Raw) :
    r.halve.value ≤ 5 * r.value ∧ (1 - loss) * (5 * r.value) ≤ r.halve.value := by
  have hpow : (0 : ℚ) < 10 ^ r.exponent := by positivity
  have hm : (0 : ℚ) ≤ r.mantissa := Nat.cast_nonneg _
  have hvalue : 0 ≤ 5 * r.value := by
    rw [value]
    positivity
  rw [halve]
  split
  · rename_i h
    have heq : (Raw.mk (5 * r.mantissa) r.exponent).value = 5 * r.value := by
      simp only [value]
      push_cast
      ring
    rw [heq]
    have := loss_pos
    exact ⟨le_rfl, mul_le_of_le_one_left hvalue (by linarith)⟩
  · rename_i h
    have heq : (Raw.mk (r.mantissa / 2) (r.exponent + 1)).value =
        10 * (r.mantissa / 2 : ℕ) * 10 ^ r.exponent := by
      simp only [value]
      rw [zpow_add₀ (by norm_num), zpow_one]
      ring
    rw [heq, value, ← mul_assoc, ← mul_assoc]
    constructor
    · refine mul_le_mul_of_nonneg_right ?_ hpow.le
      have : (2 * (r.mantissa / 2 : ℕ) : ℚ) ≤ r.mantissa := by
        exact_mod_cast Nat.mul_div_le r.mantissa 2
      linarith
    · refine mul_le_mul_of_nonneg_right ?_ hpow.le
      by_cases hodd : r.mantissa % 2 = 1
      · have hlimit : (0 : ℚ) < limit := by exact_mod_cast (by decide : 0 < limit)
        have hbig : (limit : ℚ) ≤ 5 * r.mantissa := by
          exact_mod_cast Nat.not_lt.1 fun hlt => h ⟨hodd, hlt⟩
        have hhalf : (r.mantissa : ℚ) = 2 * (r.mantissa / 2 : ℕ) + 1 := by
          exact_mod_cast (by omega : r.mantissa = 2 * (r.mantissa / 2) + 1)
        have hloss : 5 ≤ loss * (5 * r.mantissa) := by
          rw [loss, div_mul_eq_mul_div, le_div_iff₀ hlimit]
          linarith
        linarith
      · have hhalf : (r.mantissa : ℚ) = 2 * (r.mantissa / 2 : ℕ) := by
          exact_mod_cast (by omega : r.mantissa = 2 * (r.mantissa / 2))
        have := mul_nonneg loss_pos.le hm
        linarith

/-- `Near v n r`: **the number is `v`, but for what `n` halvings may have taken away**. The
mantissa is in its bounds. -/
structure Near (v : ℚ) (n : ℕ) (r : Raw) : Prop where
  pos : 0 < r.mantissa
  lt_limit : r.mantissa < limit
  value_le : r.value ≤ v
  le_value : (1 - n * loss) * v ≤ r.value

theorem Near.halve {v : ℚ} {n : ℕ} {r : Raw} (h : Near v n r) : Near (5 * v) (n + 1) r.halve := by
  obtain ⟨hupper, hlower⟩ := value_halve r
  have hv : 0 ≤ v := by
    refine le_trans ?_ h.value_le
    rw [value]
    positivity
  refine ⟨?_, ?_, ?_, ?_⟩
  · have hpos := h.pos
    have hten : 10 ≤ limit := by decide
    rw [Raw.halve]
    split <;> dsimp only <;> omega
  · have := h.lt_limit
    rw [Raw.halve]
    split <;> dsimp only <;> omega
  · have := h.value_le
    linarith
  · refine le_trans ?_ hlower
    have hloss := loss_pos
    have hstep := mul_le_mul_of_nonneg_left h.le_value (sub_nonneg.2 loss_le_one)
    have hsquare : 0 ≤ n * loss * loss * v := by positivity
    push_cast
    linarith

theorem Near.repeat_halve {v : ℚ} {r : Raw} (h : Near v 0 r) (k : ℕ) :
    Near (5 ^ k * v) k (Nat.repeat Raw.halve k r) := by
  induction k with
  | zero => simpa [Nat.repeat] using h
  | succ k ih =>
    have := ih.halve
    rwa [← mul_assoc, ← pow_succ'] at this

theorem exponent_repeat_halve (r : Raw) (k : ℕ) :
    r.exponent ≤ (Nat.repeat halve k r).exponent ∧
      (Nat.repeat halve k r).exponent ≤ r.exponent + k := by
  induction k with
  | zero => simp [Nat.repeat]
  | succ k ih =>
    have hstep : (Nat.repeat halve k r).exponent ≤ (Nat.repeat halve (k + 1) r).exponent ∧
        (Nat.repeat halve (k + 1) r).exponent ≤ (Nat.repeat halve k r).exponent + 1 := by
      rw [Nat.repeat, halve]
      split <;> dsimp only <;> omega
    omega

/-- Nothing is taken away from a number without a fraction. -/
theorem repeat_halve_eq (n : ℕ) (x : ℤ) (k : ℕ) :
    Nat.repeat halve k ⟨n * 2 ^ k, x⟩ = ⟨n, x + k⟩ := by
  induction k generalizing n with
  | zero => simp [Nat.repeat]
  | succ k ih =>
    have hdouble : n * 2 ^ (k + 1) = 2 * n * 2 ^ k := by ring
    have heven : ¬(2 * n % 2 = 1 ∧ 5 * (2 * n) < limit) := fun h => by omega
    rw [Nat.repeat, hdouble, ih, halve, if_neg heven, Nat.mul_div_cancel_left n two_pos,
      Nat.cast_succ, add_assoc]

end Raw

theorem rawOfParts_near {m : Nat} (e : Nat) (hm : 0 < m) (hlt : m < limit) :
    (rawOfParts m e).Near (m / 2 ^ e) e := by
  have hvalue := Raw.value_mk m e
  have hstart : (Raw.mk m (-e)).Near (m / 10 ^ e) 0 :=
    ⟨hm, hlt, hvalue.le, by rw [hvalue]; simp⟩
  have hsplit : (5 : ℚ) ^ e * (m / 10 ^ e) = m / 2 ^ e := by
    rw [show (10 : ℚ) = 5 * 2 by norm_num, mul_pow]
    field_simp
  rw [← hsplit]
  exact hstart.repeat_halve e

theorem exists_exponent_rawOfParts (m e : Nat) :
    ∃ places : ℕ, places ≤ e ∧ (rawOfParts m e).exponent = -places := by
  have hbounds := Raw.exponent_repeat_halve ⟨m, -e⟩ e
  change -(e : ℤ) ≤ (rawOfParts m e).exponent ∧ (rawOfParts m e).exponent ≤ -(e : ℤ) + e at hbounds
  exact ⟨(-(rawOfParts m e).exponent).toNat, by omega, by omega⟩

theorem rawOfParts_mul_pow (n e : Nat) : rawOfParts (n * 2 ^ e) e = ⟨n, 0⟩ := by
  rw [rawOfParts, Raw.repeat_halve_eq, neg_add_cancel]

/-! ### Digits given up -/

theorem tenthHalfUp_bounds (n : Nat) :
    n ≤ 10 * tenthHalfUp n + 4 ∧ 10 * tenthHalfUp n ≤ n + 5 := by
  rw [tenthHalfUp]
  split <;> omega

/-- `IsCut j m n`: **the number `n` is what is left of `m` without its last `j` digits** when these
are rounded off one by one. -/
def IsCut (j m n : Nat) : Prop :=
  9 * |(10 ^ j * n : ℤ) - m| ≤ 5 * (10 ^ j - 1)

namespace IsCut

variable {j m n : Nat}

theorem refl (m : Nat) : IsCut 0 m m := by
  simp [IsCut]

theorem eq_of_zero (h : IsCut 0 m n) : n = m := by
  rw [IsCut, pow_zero, one_mul, sub_self, mul_zero] at h
  have := abs_nonpos_iff.1 (by omega : |(n : ℤ) - m| ≤ 0)
  omega

theorem step (h : IsCut j (tenthHalfUp m) n) : IsCut (j + 1) m n := by
  obtain ⟨hlo, hhi⟩ := tenthHalfUp_bounds m
  have hlast : |(10 * tenthHalfUp m : ℤ) - m| ≤ 5 := abs_le.2 ⟨by omega, by omega⟩
  have hsplit : (10 ^ (j + 1) * n : ℤ) - m =
      10 * (10 ^ j * n - tenthHalfUp m) + (10 * tenthHalfUp m - m) := by ring
  have habs : |(10 * (10 ^ j * n - tenthHalfUp m) : ℤ)| =
      10 * |(10 ^ j * n : ℤ) - tenthHalfUp m| := by
    rw [abs_mul]
    rfl
  have htriangle := abs_add_le (10 * (10 ^ j * n - tenthHalfUp m) : ℤ) (10 * tenthHalfUp m - m)
  rw [IsCut] at h ⊢
  rw [hsplit]
  rw [habs] at htriangle
  have hpow : (10 : ℤ) ^ (j + 1) = 10 * 10 ^ j := pow_succ' 10 j
  rw [hpow]
  linarith

/-- What has been cut off is less than the last of the digits that are left. -/
theorem abs_sub_le (h : IsCut j m n) : 9 * |(n : ℚ) - m / 10 ^ j| ≤ 5 := by
  have hpow : (0 : ℚ) < 10 ^ j := by positivity
  have hint := Int.cast_le (R := ℚ) |>.2 h
  push_cast at hint
  have hscale : (10 ^ j * n : ℚ) - m = 10 ^ j * (n - m / 10 ^ j) := by
    field_simp
  rw [hscale, abs_mul, abs_of_pos hpow] at hint
  refine le_of_mul_le_mul_left ?_ hpow
  linarith

end IsCut

theorem ten_pow_mod_eighteen (n : Nat) : 10 ^ (n + 1) % 18 = 10 := by
  induction n with
  | zero => rfl
  | succ n ih => rw [pow_succ, Nat.mul_mod, ih]

namespace Raw

/-- A number is given up where rounding off its places one by one leaves nothing. -/
theorem cutPlaces_eq_zero {m places spare : Nat} (h : 18 * m < 17 * 10 ^ (spare + 1) + 10) :
    cutPlaces m places (spare + 1) = (0, 0) := by
  induction spare generalizing m places with
  | zero => rw [cutPlaces, if_pos (by omega)]
  | succ spare ih =>
    rw [cutPlaces]
    split
    · rfl
    · refine ih ?_
      have := (tenthHalfUp_bounds m).2
      have hpow : 10 ^ (spare + 1 + 1) = 10 * 10 ^ (spare + 1) := pow_succ' 10 _
      omega

theorem cutPlaces_eq {m places spare : Nat} (hm : 0 < m)
    (h : spare = 0 ∨ 17 * 10 ^ spare + 10 ≤ 18 * m) :
    ∃ n, cutPlaces m places spare = (n, places - spare) ∧ 0 < n ∧ n ≤ m ∧ IsCut spare m n := by
  induction spare generalizing m places with
  | zero => exact ⟨m, rfl, hm, le_rfl, .refl m⟩
  | succ spare ih =>
    have hlarge := h.resolve_left (Nat.succ_ne_zero spare)
    have hpow : 10 ^ (spare + 1) = 10 * 10 ^ spare := pow_succ' 10 _
    have hone : 0 < 10 ^ spare := by positivity
    obtain ⟨hlo, hhi⟩ := tenthHalfUp_bounds m
    have hnext : spare = 0 ∨ 17 * 10 ^ spare + 10 ≤ 18 * tenthHalfUp m := by
      cases spare with
      | zero => exact .inl rfl
      | succ spare =>
        have hmod := ten_pow_mod_eighteen spare
        exact .inr (by omega)
    obtain ⟨n, hn, hpos, hle, hcut⟩ := @ih (tenthHalfUp m) (places - 1) (by omega) hnext
    refine ⟨n, ?_, hpos, by omega, hcut.step⟩
    rw [cutPlaces, if_neg (by omega), hn]
    congr 1
    omega

/-- Digits are given up for as long as there are too many of them in front of the point and behind
it, and no longer. -/
theorem cutDigits_eq (m places : Nat) :
    ∃ j n, cutDigits m places = (n, places - j) ∧ j ≤ places ∧ IsCut j m n ∧ n ≤ m ∧
      (0 < m → 0 < n) ∧ (j = 0 ∨ Binary64.hiddenBit ≤ 10 * n + 4) ∧
      (j = places ∨ n < Binary64.hiddenBit) := by
  induction places generalizing m with
  | zero => exact ⟨0, m, rfl, le_rfl, .refl m, le_rfl, id, .inl rfl, .inl rfl⟩
  | succ places ih =>
    rw [cutDigits]
    split
    · rename_i hlarge
      have hten : 10 ≤ Binary64.hiddenBit := by decide
      obtain ⟨hlo, hhi⟩ := tenthHalfUp_bounds m
      obtain ⟨j, n, heq, hle, hcut, hn, hpos, hdigits, hend⟩ := ih (tenthHalfUp m)
      refine ⟨j + 1, n, ?_, by omega, hcut.step, by omega, fun _ => hpos (by omega), .inr ?_,
        hend.imp_left (congrArg (· + 1))⟩
      · rw [heq, Nat.add_sub_add_right]
      · rcases hdigits with rfl | hdigits
        · rw [hcut.eq_of_zero]
          omega
        · exact hdigits
    · rename_i hsmall
      exact ⟨0, m, rfl, Nat.zero_le _, .refl m, le_rfl, id, .inl rfl, .inr (Nat.not_le.1 hsmall)⟩

end Raw

theorem signed_mul (negative : Bool) (k m : Nat) :
    signed negative (k * m) = k * signed negative m := by
  cases negative with
  | false => exact Int.natCast_mul k m
  | true =>
    change -((k * m : ℕ) : ℤ) = k * -m
    rw [Int.natCast_mul, mul_neg]

theorem stripZeros_spec (negative : Bool) (m scale : Nat) :
    (stripZeros negative m scale).value = signed negative m / 10 ^ scale ∧
      (stripZeros negative m scale).mantissa ≤ m ∧
      (stripZeros negative m scale).scale ≤ scale := by
  induction scale generalizing m with
  | zero => exact ⟨rfl, le_rfl, le_rfl⟩
  | succ scale ih =>
    rw [stripZeros]
    split
    · rename_i hzero
      obtain ⟨hvalue, hle, hscale⟩ := ih (m / 10)
      refine ⟨?_, hle.trans (Nat.div_le_self m 10), Nat.le_succ_of_le hscale⟩
      have hm : 10 * (m / 10) = m := by omega
      have hsigned : (signed negative m : ℚ) = 10 * signed negative (m / 10) := by
        rw [← hm, signed_mul, hm, Int.cast_mul]
        rfl
      rw [hvalue, hsigned, pow_succ', mul_div_mul_left _ _ (by norm_num)]
    · exact ⟨rfl, le_rfl, le_rfl⟩

/-! ### Places and digits -/

/-- The mantissa and the places that are kept of a number. -/
def kept (m places : Nat) : Nat × Nat :=
  Raw.cutDigits (Raw.cutPlaces m places (places - maxScale)).1
    (Raw.cutPlaces m places (places - maxScale)).2

/-- Digits that have been cut off, as a part of the number that is left. -/
theorem IsCut.abs_div_sub_le {j m n places : Nat} (h : IsCut j m n) (hj : j ≤ places) :
    9 * |(n : ℚ) / 10 ^ (places - j) - m / 10 ^ places| ≤ 5 / 10 ^ (places - j) := by
  have hpow : (0 : ℚ) < 10 ^ (places - j) := by positivity
  have hsplit : (10 : ℚ) ^ places = 10 ^ j * 10 ^ (places - j) := by
    rw [← pow_add]
    congr 1
    omega
  rw [hsplit, ← div_div, ← sub_div, abs_div, abs_of_pos hpow, ← mul_div_assoc]
  exact div_le_div_of_nonneg_right h.abs_sub_le hpow.le

/-- Places beyond the last one that there may be. -/
theorem IsCut.abs_sub_le_of_places {m n places : Nat} (h : IsCut (places - maxScale) m n) :
    |(n : ℚ) / 10 ^ (places - (places - maxScale)) - m / 10 ^ places| ≤ 5 / (9 * 10 ^ 28) := by
  have hbound := h.abs_div_sub_le (Nat.sub_le places maxScale)
  rcases Nat.eq_zero_or_pos (places - maxScale) with hzero | hspare
  · rw [hzero] at h ⊢
    rw [h.eq_of_zero, Nat.sub_zero, sub_self, abs_zero]
    positivity
  · have hmax : places - (places - maxScale) = 28 := by
      have : maxScale = 28 := rfl
      omega
    rw [hmax] at hbound ⊢
    linarith

/-- Digits that there are too many of. -/
theorem IsCut.abs_sub_le_of_digits {j m n places : Nat} (h : IsCut j m n) (hj : j ≤ places)
    (hdigits : j = 0 ∨ hiddenBit ≤ 10 * n + 4) :
    |(n : ℚ) / 10 ^ (places - j) - m / 10 ^ places| ≤ 6 / 2 ^ 52 * (n / 10 ^ (places - j)) := by
  rcases hdigits with rfl | hdigits
  · rw [h.eq_of_zero, Nat.sub_zero, sub_self, abs_zero]
    positivity
  · have hbound := h.abs_div_sub_le hj
    have hn : (5 : ℚ) / 9 ≤ 6 / 2 ^ 52 * n := by
      have : ((2 : ℚ) ^ 52) ≤ 10 * n + 4 := by exact_mod_cast hdigits
      linarith
    have hpow : (0 : ℚ) ≤ 10 ^ (places - j) := by positivity
    have := div_le_div_of_nonneg_right hn hpow
    rw [mul_div_assoc, div_right_comm] at this
    linarith

/-- What is kept of a number that is not given up as a whole. -/
theorem kept_spec {m places : Nat} (hm : 0 < m)
    (h : places - maxScale = 0 ∨ 17 * 10 ^ (places - maxScale) + 10 ≤ 18 * m) :
    0 < (kept m places).1 ∧ (kept m places).1 ≤ m ∧ (kept m places).2 ≤ maxScale ∧
      ((kept m places).2 = 0 ∨ (kept m places).1 < hiddenBit) ∧
      |((kept m places).1 : ℚ) / 10 ^ (kept m places).2 - m / 10 ^ places| ≤
        7 / 2 ^ 52 * (m / 10 ^ places) + 6 / 10 ^ 29 := by
  obtain ⟨n, hn, hpos, hle, hcut⟩ := @Raw.cutPlaces_eq m places _ hm h
  obtain ⟨j, k, hk, hj, hcut', hle', hpos', hdigits, hend⟩ :=
    Raw.cutDigits_eq n (places - (places - maxScale))
  have hkept : kept m places = (k, places - (places - maxScale) - j) := by
    rw [kept, hn]
    exact hk
  rw [hkept]
  refine ⟨hpos' hpos, hle'.trans hle, by omega, hend.imp_left fun h => by omega, ?_⟩
  have hfirst := hcut.abs_sub_le_of_places
  have hsecond := hcut'.abs_sub_le_of_digits hj hdigits
  have hr : (0 : ℚ) ≤ m / 10 ^ places := by positivity
  generalize (k : ℚ) / 10 ^ (places - (places - maxScale) - j) = a at *
  generalize (n : ℚ) / 10 ^ (places - (places - maxScale)) = b at *
  generalize (m : ℚ) / 10 ^ places = r at *
  have habs := abs_sub_le a b r
  have ha := le_abs_self (a - b)
  have hb := le_abs_self (b - r)
  linarith

/-! ### The least numbers -/

/-- Floats leave a gap around the bound below which nothing is left of a number: what halving takes
away does not bring a float across it. -/
theorem seventeen_le_mul_loss {m k : Nat} (hm : m < 2 * hiddenBit)
    (h : 17 ≤ 18 * 10 ^ 28 * ((m : ℚ) / 2 ^ k)) :
    17 ≤ 18 * 10 ^ 28 * ((1 - 1074 * Raw.loss) * ((m : ℚ) / 2 ^ k)) := by
  have hm : (m : ℚ) ≤ 2 ^ 53 := by exact_mod_cast hm.le
  have hk : k ≤ 146 := by
    by_contra hlarge
    have hpow : (2 : ℚ) ^ 147 ≤ 2 ^ k := pow_le_pow_right₀ one_le_two (by omega)
    have : (m : ℚ) / 2 ^ k ≤ 2 ^ 53 / 2 ^ 147 := div_le_div₀ (by positivity) hm (by positivity) hpow
    norm_num at h this
    linarith
  obtain ⟨n, hn⟩ : ∃ n : ℕ, (m : ℚ) / 2 ^ k = n / 2 ^ 146 := by
    refine ⟨m * 2 ^ (146 - k), ?_⟩
    rw [div_eq_div_iff (by positivity) (by positivity), Nat.cast_mul, Nat.cast_pow, mul_assoc,
      Nat.cast_ofNat, ← pow_add]
    congr 2
    omega
  rw [hn] at h ⊢
  have hnat : 8424725963889347 ≤ n := by
    have : 17 * 2 ^ 146 ≤ 18 * 10 ^ 28 * n := by
      rw [← mul_div_assoc, le_div_iff₀ (by positivity)] at h
      exact_mod_cast h
    omega
  have hq : (8424725963889347 : ℚ) ≤ n := by exact_mod_cast hnat
  rw [Raw.loss_eq]
  linarith

/-- **Nothing is left of a float** exactly when it is below `17 / (18 * 10 ^ 28)`. Of a number
with 28 places or less everything is left. -/
theorem collapses_iff {m k n places : Nat} (hm : m < 2 * hiddenBit) (hk : k ≤ 1074)
    (hnear : Raw.Near (m / 2 ^ k) k ⟨n, -places⟩) :
    places - maxScale ≠ 0 ∧ 18 * n < 17 * 10 ^ (places - maxScale) + 10 ↔
      18 * 10 ^ 28 * ((m : ℚ) / 2 ^ k) < 17 := by
  have hupper := hnear.value_le
  have hlower := hnear.le_value
  have hpos : 0 < n := hnear.pos
  rw [Raw.value_mk] at hupper hlower
  have hpow : (0 : ℚ) < 10 ^ places := by positivity
  constructor
  · rintro ⟨hspare, hsmall⟩
    by_contra hlarge
    have hbound := seventeen_le_mul_loss hm (not_lt.1 hlarge)
    have hloss : (1 - 1074 * Raw.loss) * ((m : ℚ) / 2 ^ k) ≤ n / 10 ^ places := by
      refine le_trans (mul_le_mul_of_nonneg_right ?_ (by positivity)) hlower
      have : (k : ℚ) ≤ 1074 := by exact_mod_cast hk
      have := mul_le_mul_of_nonneg_right this Raw.loss_pos.le
      linarith
    have hle : 17 * 10 ^ places ≤ 18 * 10 ^ 28 * n := by
      have : 17 ≤ 18 * 10 ^ 28 * ((n : ℚ) / 10 ^ places) := by linarith
      rw [← mul_div_assoc, le_div_iff₀ hpow] at this
      exact_mod_cast this
    obtain ⟨s, hs⟩ : ∃ s, places - maxScale = s + 1 := Nat.exists_eq_succ_of_ne_zero hspare
    have hplaces : places = s + 1 + 28 := by
      have : maxScale = 28 := rfl
      omega
    have hmod := ten_pow_mod_eighteen s
    rw [hplaces, pow_add] at hle
    rw [hs] at hsmall
    omega
  · intro hsmall
    have hlt : 18 * 10 ^ 28 * n < 17 * 10 ^ places := by
      have : 18 * 10 ^ 28 * ((n : ℚ) / 10 ^ places) < 17 := by linarith
      rw [← mul_div_assoc, div_lt_iff₀ hpow] at this
      exact_mod_cast this
    have hplaces : maxScale < places := by
      by_contra hle
      have := Nat.pow_le_pow_right (by decide : 0 < 10) (Nat.not_lt.1 hle)
      rw [maxScale] at this
      omega
    obtain ⟨s, rfl⟩ : ∃ s, places = s + maxScale := ⟨places - maxScale, by omega⟩
    rw [pow_add] at hlt
    rw [Nat.add_sub_cancel]
    have : maxScale = 28 := rfl
    rw [this] at hlt
    exact ⟨by omega, by omega⟩

/-! ### Floats -/

/-- `Enters q d`: **the decimal `d` is what a float that is `q` is turned into**. It is zero for the
least floats, and then only; it has the first fifteen digits of all others, and those that have no
fraction are not changed at all. -/
structure Enters (q : ℚ) (d : Decimal) : Prop where
  mantissa_lt : d.mantissa < limit
  scale_le : d.scale ≤ maxScale
  short : d.scale = 0 ∨ d.mantissa < hiddenBit
  isZero_iff : d.isZero = true ↔ 18 * 10 ^ 28 * |q| < 17
  near : d.isZero = false → |d.value - q| ≤ 8 / 2 ^ 52 * |q| + 6 / 10 ^ 29
  whole : (∃ n : ℤ, q = n) → d.value = q

theorem abs_signed (negative : Bool) (n : Nat) : |(signed negative n : ℚ)| = n := by
  cases negative <;> simp [signed]

/-- A quotient is a whole number exactly if the division leaves nothing. -/
theorem signed_div_eq_intCast_iff {negative : Bool} {m d : Nat} (hd : 0 < d) {k : ℤ} :
    (signed negative m : ℚ) / d = k ↔ m % d = 0 ∧ signed negative (m / d) = k := by
  have hpos : (0 : ℚ) < d := by exact_mod_cast hd
  constructor
  · intro h
    have habs : (m : ℚ) / d = k.natAbs := by
      rw [Nat.cast_natAbs, Int.cast_abs, ← h, abs_div, abs_signed, abs_of_pos hpos]
    rw [div_eq_iff hpos.ne'] at habs
    obtain rfl : m = d * k.natAbs := by
      rw [Nat.mul_comm]
      exact_mod_cast habs
    rw [signed_mul, Int.cast_mul, Int.cast_natCast, mul_div_cancel_left₀ _ hpos.ne'] at h
    rw [Nat.mul_div_cancel_left _ hd]
    exact ⟨Nat.mul_mod_right d _, by exact_mod_cast h⟩
  · rintro ⟨hmod, rfl⟩
    have hsigned := signed_mul negative d (m / d)
    rw [Nat.mul_div_cancel' (Nat.dvd_of_mod_eq_zero hmod)] at hsigned
    rw [hsigned, Int.cast_mul, Int.cast_natCast, mul_div_cancel_left₀ _ hpos.ne']

theorem abs_signed_div_sub (negative : Bool) (m n : Nat) (a b : ℚ) :
    |signed negative m / a - signed negative n / b| = |m / a - n / b| := by
  cases negative with
  | false => rfl
  | true =>
    rw [← abs_neg]
    congr 1
    change -(((-m : ℤ) : ℚ) / a - ((-n : ℤ) : ℚ) / b) = _
    push_cast
    ring

theorem abs_value (d : Decimal) : |d.value| = d.mantissa / 10 ^ d.scale := by
  rw [value, abs_div, abs_signed, abs_of_pos (by positivity)]

theorem isZero_iff_value (d : Decimal) : d.isZero = true ↔ d.value = 0 := by
  rw [← abs_eq_zero, abs_value, isZero, decide_eq_true_iff, div_eq_zero_iff,
    or_iff_left (by positivity), Nat.cast_eq_zero]

/-- A number without places enters as it is. -/
theorem enters_of_whole (negative : Bool) {n : Nat} (hlt : n < limit) :
    Enters (signed negative n) ⟨negative, n, 0⟩ := by
  have hvalue : value ⟨negative, n, 0⟩ = signed negative n := by
    rw [value, pow_zero, div_one]
  refine ⟨hlt, Nat.zero_le _, .inl rfl, ?_, fun _ => ?_, fun _ => hvalue⟩
  · rw [abs_signed, isZero, decide_eq_true_iff]
    constructor
    · rintro rfl
      norm_num
    · intro h
      have : 18 * 10 ^ 28 * n < 17 := by exact_mod_cast h
      change n = 0
      omega
  · rw [hvalue, sub_self, abs_zero]
    positivity

/-- The least floats enter as zero. -/
theorem enters_of_lt (negative : Bool) {q : ℚ} (h : 18 * 10 ^ 28 * |q| < 17) :
    Enters q ⟨negative, 0, 0⟩ := by
  have hvalue : value ⟨negative, 0, 0⟩ = 0 := (isZero_iff_value _).1 rfl
  have hlimit : 0 < limit := by decide
  refine ⟨hlimit, Nat.zero_le _, .inl rfl, iff_of_true rfl h, nofun, ?_⟩
  rintro ⟨n, rfl⟩
  rw [hvalue]
  have hone : |(n : ℚ)| < 1 := by linarith
  have hzero : n = 0 := Int.abs_lt_one_iff.1 (by exact_mod_cast hone)
  rw [hzero, Int.cast_zero]

/-- What halving takes away is less than the last bit of a float. -/
theorem Raw.Near.abs_sub_le {m k n places : Nat} (h : Raw.Near (m / 2 ^ k) k ⟨n, -places⟩)
    (hk : k ≤ 1074) : |(n : ℚ) / 10 ^ places - m / 2 ^ k| ≤ 1 / 2 ^ 52 * (m / 2 ^ k) := by
  have hupper := h.value_le
  have hlower := h.le_value
  rw [Raw.value_mk] at hupper hlower
  have hnonneg : (0 : ℚ) ≤ m / 2 ^ k := by positivity
  have hloss : k * Raw.loss * ((m : ℚ) / 2 ^ k) ≤ 1 / 2 ^ 52 * (m / 2 ^ k) := by
    have : (k : ℚ) ≤ 1074 := by exact_mod_cast hk
    refine mul_le_mul_of_nonneg_right ?_ hnonneg
    rw [Raw.loss_eq]
    linarith
  exact abs_le.2 ⟨by linarith, by linarith⟩

/-- A fraction that is a whole number enters as it is. -/
theorem value_stripZeros_of_whole {negative : Bool} {m k n places : Nat} {z : ℤ}
    (hz : (signed negative m : ℚ) / 2 ^ k = z) (hraw : rawOfParts m k = ⟨n, -places⟩) :
    (stripZeros negative (kept n places).1 (kept n places).2).value =
      signed negative m / 2 ^ k := by
  have habs : |(signed negative m : ℚ) / 2 ^ k| = m / 2 ^ k := by
    rw [abs_div, abs_signed, abs_of_pos (by positivity)]
  have hm : m = z.natAbs * 2 ^ k := by
    have : (m : ℚ) / 2 ^ k = z.natAbs := by
      rw [← habs, hz, Nat.cast_natAbs, Int.cast_abs]
    rw [div_eq_iff (by positivity)] at this
    exact_mod_cast this
  rw [hm, rawOfParts_mul_pow] at hraw
  obtain ⟨rfl, hzero⟩ := Raw.mk.inj hraw
  obtain rfl : places = 0 := by omega
  have hkept : kept z.natAbs 0 = (z.natAbs, 0) := rfl
  rw [hkept, (stripZeros_spec negative z.natAbs 0).1, pow_zero, div_one, hm, Nat.mul_comm,
    signed_mul, Int.cast_mul, Int.cast_natCast, Nat.cast_pow, Nat.cast_ofNat,
    mul_div_cancel_left₀ _ (by positivity)]

theorem enters_of_rawOfParts (negative : Bool) {m k : Nat} (hpos : 0 < m) (hm : m < 2 * hiddenBit)
    (hk : k ≤ 1074) {n places : Nat} (hraw : rawOfParts m k = ⟨n, -places⟩) :
    Enters (signed negative m / 2 ^ k)
      (stripZeros negative (kept n places).1 (kept n places).2) := by
  have hnear := rawOfParts_near k hpos (hm.trans (by decide))
  rw [hraw] at hnear
  have hcollapse := collapses_iff hm hk hnear
  have habs : |(signed negative m : ℚ) / 2 ^ k| = m / 2 ^ k := by
    rw [abs_div, abs_signed, abs_of_pos (by positivity)]
  by_cases hsmall : 18 * 10 ^ 28 * ((m : ℚ) / 2 ^ k) < 17
  · obtain ⟨hspare, hless⟩ := hcollapse.2 hsmall
    obtain ⟨s, hs⟩ := Nat.exists_eq_succ_of_ne_zero hspare
    have hkept : kept n places = (0, 0) := by
      rw [hs] at hless
      rw [kept, hs, Raw.cutPlaces_eq_zero hless]
      rfl
    rw [hkept]
    exact enters_of_lt negative (habs.symm ▸ hsmall)
  · have hlarge : places - maxScale = 0 ∨ 17 * 10 ^ (places - maxScale) + 10 ≤ 18 * n := by
      have := mt hcollapse.1 hsmall
      omega
    have hn : 0 < n := hnear.pos
    obtain ⟨hkept, hle, hscale, hshort, herror⟩ := kept_spec hn hlarge
    obtain ⟨hvalue, hmantissa, hplaces⟩ :=
      stripZeros_spec negative (kept n places).1 (kept n places).2
    have hne : (signed negative (kept n places).1 : ℚ) / 10 ^ (kept n places).2 ≠ 0 := by
      rw [← abs_pos, abs_div, abs_signed]
      positivity
    refine ⟨(hmantissa.trans hle).trans_lt hnear.lt_limit, hplaces.trans hscale,
      hshort.imp (fun h => by omega) hmantissa.trans_lt, ?_, fun _ => ?_, fun ⟨z, hz⟩ =>
        value_stripZeros_of_whole hz hraw⟩
    · rw [isZero_iff_value, hvalue, habs]
      exact iff_of_false hne hsmall
    · have hhalves := hnear.abs_sub_le hk
      have htriangle := abs_sub_le (((kept n places).1 : ℚ) / 10 ^ (kept n places).2)
        (n / 10 ^ places) (m / 2 ^ k)
      have hupper := hnear.value_le
      rw [Raw.value_mk] at hupper
      rw [hvalue, abs_signed_div_sub, habs]
      linarith

theorem exists_shape_of_value? {x : Float} {q : ℚ} (h : value? x = some q) :
    ∃ negative m e, Binary64.shape x = .finite negative m e ∧ q = signed negative m * 2 ^ e := by
  rw [value?] at h
  cases hshape : Binary64.shape x with
  | finite negative m e =>
    rw [hshape, Binary64.Shape.value?, Option.some_inj] at h
    exact ⟨negative, m, e, rfl, h.symm⟩
  | _ =>
    rw [hshape] at h
    cases h

/-- **What a finite float is turned into.** -/
theorem enters_of_ofFloat? {x : Float} {q : ℚ} {d : Decimal} (hx : value? x = some q)
    (hd : ofFloat? x = some d) : Enters q d := by
  obtain ⟨negative, m, e, hshape, rfl⟩ := exists_shape_of_value? hx
  have hc := Binary64.canonical_of_shape hshape
  rw [ofFloat?, hshape] at hd
  cases e with
  | ofNat e =>
    have hvalue : (signed negative m : ℚ) * 2 ^ Int.ofNat e = signed negative (m * 2 ^ e) := by
      rw [Nat.mul_comm, signed_mul]
      push_cast
      exact mul_comm _ _
    obtain ⟨hlt, hd⟩ := Option.ite_none_right_eq_some.1 hd
    cases hd
    rw [hvalue]
    exact enters_of_whole negative hlt
  | negSucc e =>
    dsimp only at hd
    split at hd
    · rename_i hzero
      cases hd
      refine enters_of_lt negative ?_
      rw [abs_mul, abs_signed, hzero, Nat.cast_zero, zero_mul, mul_zero]
      norm_num
    · rename_i hne
      cases hd
      obtain ⟨places, hle, hexponent⟩ := exists_exponent_rawOfParts m (e + 1)
      have hk : e + 1 ≤ 1074 := by
        have := hc.least_le
        rw [Binary64.leastExponent] at this
        omega
      have hraw : rawOfParts m (e + 1) = ⟨(rawOfParts m (e + 1)).mantissa, -places⟩ := by
        rw [← hexponent]
      rw [hexponent, neg_neg, Int.toNat_natCast, zpow_negSucc, ← div_eq_mul_inv]
      exact enters_of_rawOfParts negative (Nat.pos_of_ne_zero hne) hc.mantissa_lt hk hraw

theorem exists_value?_of_ofFloat? {x : Float} {d : Decimal} (hd : ofFloat? x = some d) :
    ∃ q, value? x = some q := by
  rw [value?]
  cases hshape : Binary64.shape x with
  | finite negative m e => exact ⟨_, rfl⟩
  | _ =>
    rw [ofFloat?, hshape] at hd
    cases hd

/-- Finite floats that are not turned into decimals are large. -/
theorem limit_le_of_ofFloat?_eq_none {x : Float} {q : ℚ} (hx : value? x = some q)
    (hd : ofFloat? x = none) : limit ≤ |q| := by
  obtain ⟨negative, m, e, hshape, rfl⟩ := exists_shape_of_value? hx
  rw [ofFloat?, hshape] at hd
  cases e with
  | ofNat e =>
    dsimp only at hd
    split at hd
    · cases hd
    · rename_i hlarge
      rw [abs_mul, abs_signed, Int.ofNat_eq_natCast, zpow_natCast, abs_of_pos (by positivity)]
      exact_mod_cast Nat.not_lt.1 hlarge
  | negSucc e =>
    dsimp only at hd
    split at hd <;> cases hd

end Decimal

end Parley
