import Parley.Proofs.Eval.Basic
import Parley.Proofs.Value.Mixed

/-!
# Indexes

An index is a number without a fraction: a whole number, or a float that is one
(`Parley.Binary64.whole?_eq_some_iff`). A float may be beyond the whole numbers of 64 bits, and then
it is used as the last one on its side (`Parley.Value.integer?_eq_some_iff`).

So an index that 64 bits can hold is used as it is. The item at exactly this position is found
(`Parley.Eval.item_of_getElem?`), or there is none and the error has the index that was tried
(`Parley.Eval.item_of_outside`). Beyond that there is no item either, because arrays are not as
long, but the error has another index.
-/

namespace Parley

/-! ### Floats without a fraction -/

namespace Binary64

theorem Shape.whole?_eq_some_iff {s : Shape} {k : ℤ} :
    s.whole? = some k ↔ s.value? = some (k : ℚ) := by
  cases s with
  | nan => exact iff_of_false nofun nofun
  | infinite negative => exact iff_of_false nofun nofun
  | finite negative m e =>
    rw [value?, Option.some_inj]
    cases e with
    | ofNat e =>
      have hcast : (signed negative (m * 2 ^ e) : ℚ) = signed negative m * 2 ^ (Int.ofNat e) := by
        rw [Nat.mul_comm, Decimal.signed_mul, Int.cast_mul, mul_comm, Int.cast_natCast,
          Nat.cast_pow, Nat.cast_ofNat, Int.ofNat_eq_natCast, zpow_natCast]
      rw [whole?, Option.some_inj, Nat.pow_eq, ← hcast, Int.cast_inj]
    | negSucc e =>
      have hpow : 0 < 2 ^ (e + 1) := Nat.two_pow_pos (e + 1)
      have hcast : (2 : ℚ) ^ (e + 1) = (2 ^ (e + 1) : ℕ) := by norm_num
      rw [zpow_negSucc, ← div_eq_mul_inv, hcast, Decimal.signed_div_eq_intCast_iff hpow, whole?,
        Nat.pow_eq, Option.ite_none_right_eq_some, Option.some_inj]

/-- **The whole number that a float is** is the number that it stands for, if this is whole. -/
theorem whole?_eq_some_iff {x : Float} {k : ℤ} : whole? x = some k ↔ value? x = some (k : ℚ) :=
  Shape.whole?_eq_some_iff

end Binary64

/-! ### The nearest whole number of 64 bits -/

namespace Whole

theorem toInt_clamp {k : ℤ} (h : InRange k) : (clamp k).toInt = k := by
  obtain ⟨hlo, hhi⟩ := h
  rw [clamp, if_neg (Int.not_lt.2 hlo), if_pos hhi]
  exact Int64.toInt_ofInt_of_le hlo hhi

theorem clamp_toInt (n : Int64) : clamp n.toInt = n :=
  Int64.toInt_inj.1 (toInt_clamp (inRange_toInt n))

/-- A number that 64 bits cannot hold becomes the last one on its side. -/
theorem clamp_of_not_inRange {k : ℤ} (h : ¬InRange k) :
    clamp k = if k < 0 then Int64.minValue else Int64.maxValue := by
  rw [clamp]
  by_cases hlo : k < -(bound : Int)
  · rw [if_pos hlo, if_pos (by omega)]
  · have hhi : (bound : Int) ≤ k := Int.not_lt.1 fun hhi => h ⟨Int.not_lt.1 hlo, hhi⟩
    rw [if_neg hlo, if_neg (Int.not_lt.2 hhi), if_neg (by omega)]

end Whole

/-- **The whole number that a value is used as**: the one that it is, or the nearest to it if 64
bits cannot hold it. -/
theorem Value.integer?_eq_some_iff {v : Value} {n : Int64} :
    v.integer? = some n ↔ ∃ k : ℤ, v.number? = some (k : ℚ) ∧ Whole.clamp k = n := by
  cases v with
  | integer m =>
    rw [integer?, number?, Option.some_inj]
    constructor
    · rintro rfl
      exact ⟨_, rfl, Whole.clamp_toInt m⟩
    · rintro ⟨k, hk, rfl⟩
      rw [← Int.cast_injective (Option.some_inj.1 hk), Whole.clamp_toInt]
  | float x =>
    rw [integer?, Option.map_eq_some_iff]
    exact exists_congr fun k => and_congr_left' Binary64.whole?_eq_some_iff
  | _ => exact iff_of_false (Option.some_ne_none _).symm (by rintro ⟨k, ⟨⟩, -⟩)

/-! ### Items -/

namespace Eval

variable {σ : Type} {column : Nat} {items : List Value} {index : Value} {n : Int64}

/-- **The item at a position** that is in the array. -/
theorem item_of_getElem? {v : Value} (h : index.integer? = some n) (hnonneg : 0 ≤ n.toInt)
    (hv : items[n.toInt.toNat]? = some v) :
    (item column (.array items) index : Eval σ Value) = pure v := by
  simp only [item, h, if_pos hnonneg, hv]

/-- **A position outside of the array**, which the error has. -/
theorem item_of_outside (h : index.integer? = some n)
    (hout : ¬(0 ≤ n.toInt ∧ n.toInt < items.length)) :
    (item column (.array items) index : Eval σ Value) =
      throw (.outOfBounds n items.length column) := by
  have hnone : (if 0 ≤ n.toInt then items[n.toInt.toNat]? else none) = none := by
    split
    · exact List.getElem?_eq_none (by omega)
    · rfl
  simp only [item, h, hnone]

variable {host : Host σ} {context : Object} {opening closing : Token} {term : Term} {v : Value}
  {run run' : Run σ}

/-- Behind its index, the link to an item is this item. -/
theorem link_item (h : Eval.term host context term run = .ok index run') :
    link host context v (.item opening term closing) run =
      (item opening.column v index : Eval σ Value) run' := by
  rw [link]
  exact bind_of_ok h

end Eval

/-- **Indexes are used as they are if 64 bits can hold them.** Let the index of a link come to a
number without a fraction, behind an array. If 64 bits can hold this number, the item at exactly
this position is found, and if there is none, the error has this number and the length of the
array. If they cannot, the number is used as the last one on its side: no array of a length that 64
bits can hold has such an item, and the error has the last number in place of the index that was
tried. What has a fraction is no index, nor is what is not a finite number. -/
theorem indexes_are_used_as_they_are_within_64_bits {σ : Type} {host : Host σ} {context : Object}
    {opening closing : Token} {index : Term} {v : Value} {k : ℤ} {run run' : Run σ}
    (hindex : Eval.term host context index run = .ok v run') (hk : v.number? = some (k : ℚ))
    (items : List Value) :
    (∀ w : Value, w.integer? = none ↔ ¬∃ j : ℤ, w.number? = some (j : ℚ)) ∧
    (Whole.InRange k → ∃ n : Int64, n.toInt = k ∧ v.integer? = some n ∧
      (∀ item, 0 ≤ k → items[k.toNat]? = some item →
        Eval.link host context (.array items) (.item opening index closing) run = .ok item run') ∧
      (¬(0 ≤ k ∧ k < items.length) →
        Eval.link host context (.array items) (.item opening index closing) run =
          .error (.outOfBounds n items.length opening.column) run')) ∧
    (¬Whole.InRange k → ∃ n : Int64, n = (if k < 0 then Int64.minValue else Int64.maxValue) ∧
      v.integer? = some n ∧
      (items.length < Whole.bound →
        Eval.link host context (.array items) (.item opening index closing) run =
          .error (.outOfBounds n items.length opening.column) run')) := by
  have hinteger : v.integer? = some (Whole.clamp k) := Value.integer?_eq_some_iff.2 ⟨k, hk, rfl⟩
  rw [Eval.link_item hindex]
  refine ⟨fun w => ?_, fun hrange => ?_, fun hrange => ?_⟩
  · simp only [Option.eq_none_iff_forall_ne_some, ne_eq, Value.integer?_eq_some_iff]
    exact ⟨fun h ⟨j, hj⟩ => h _ ⟨j, hj, rfl⟩, fun h n ⟨j, hj, _⟩ => h ⟨j, hj⟩⟩
  · have hclamp := Whole.toInt_clamp hrange
    refine ⟨_, hclamp, hinteger, fun item hnonneg hitem => ?_, fun hout => ?_⟩
    · rw [Eval.item_of_getElem? hinteger (hclamp.symm ▸ hnonneg) (hclamp.symm ▸ hitem)]
      rfl
    · rw [Eval.item_of_outside hinteger (hclamp.symm ▸ hout)]
      rfl
  · refine ⟨_, Whole.clamp_of_not_inRange hrange, hinteger, fun hlength => ?_⟩
    -- the last numbers are no positions in an array: one is negative, the other one too large
    have hout : ¬(0 ≤ (Whole.clamp k).toInt ∧ (Whole.clamp k).toInt < items.length) := by
      have hmin : Int64.minValue.toInt = -(Whole.bound : ℤ) := rfl
      have hmax : Int64.maxValue.toInt = Whole.bound - 1 := rfl
      rw [Whole.clamp_of_not_inRange hrange]
      split <;> omega
    rw [Eval.item_of_outside hinteger hout]
    rfl

/-- In `xs[i]`, where `xs` has two items, let `i` be the float `1.0`, and then `2 ^ 63`. -/
theorem indexes_are_used_as_they_are_within_64_bits_float :
    Eval.link (⟨fun _ _ s => (.ok .null, s)⟩ : Host Unit)
        [("i", .float (Float.ofBits 0x3ff0000000000000))]
        (.array [.boolean true, .string "b"])
        (.item ⟨.leftBracket, "[", 3⟩ (.path ⟨.identifier, "i", 4⟩ []) ⟨.rightBracket, "]", 5⟩)
        ⟨(), []⟩ = .ok (.string "b") ⟨(), []⟩ ∧
      Eval.link (⟨fun _ _ s => (.ok .null, s)⟩ : Host Unit)
        [("i", .float (Float.ofBits 0x43e0000000000000))]
        (.array [.boolean true, .string "b"])
        (.item ⟨.leftBracket, "[", 3⟩ (.path ⟨.identifier, "i", 4⟩ []) ⟨.rightBracket, "]", 5⟩)
        ⟨(), []⟩ = .error (.outOfBounds 9223372036854775807 2 3) ⟨(), []⟩ := by
  have hindex (x : Float) : Eval.term (⟨fun _ _ s => (.ok .null, s)⟩ : Host Unit) [("i", .float x)]
      (.path ⟨.identifier, "i", 4⟩ []) ⟨(), []⟩ = .ok (.float x) ⟨(), []⟩ := rfl
  constructor
  · have hone : (Value.float (Float.ofBits 0x3ff0000000000000)).number? = some ((1 : ℤ) : ℚ) :=
      Binary64.whole?_eq_some_iff.1 (by decide +kernel)
    have hinside := (@indexes_are_used_as_they_are_within_64_bits _ _ _ ⟨.leftBracket, "[", 3⟩
      ⟨.rightBracket, "]", 5⟩ _ _ _ _ _ (hindex _) hone [.boolean true, .string "b"]).2.1
    obtain ⟨n, -, -, hitem, -⟩ := hinside (by decide)
    exact hitem _ (by decide) rfl
  · have hlarge : (Value.float (Float.ofBits 0x43e0000000000000)).number? =
        some ((9223372036854775808 : ℤ) : ℚ) :=
      Binary64.whole?_eq_some_iff.1 (by decide +kernel)
    have hbeyond := (@indexes_are_used_as_they_are_within_64_bits _ _ _ ⟨.leftBracket, "[", 3⟩
      ⟨.rightBracket, "]", 5⟩ _ _ _ _ _ (hindex _) hlarge [.boolean true, .string "b"]).2.2
    obtain ⟨n, rfl, -, herror⟩ := hbeyond (by decide)
    exact herror (by decide)

end Parley
