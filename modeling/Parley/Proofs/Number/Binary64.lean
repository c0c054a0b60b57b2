import Mathlib
import Parley.Number.Binary64

/-!
# The numbers that floats stand for

A float that is finite stands for a rational number (`Parley.Binary64.value?`), which is read off
its shape. Arithmetic on floats is defined on another form of them, in which zeros are kept apart
and which is put together to bits again in the end. `Parley.Binary64.Stands` says which number
that form stands for, and it leads there from a float (`Parley.Binary64.value?_eq_some_iff`) and
back (`Parley.Binary64.Stands.value?_pack`).

What makes the way back one without loss is that the form is canonical: mantissa and exponent are
those that the bits have room for.
-/

namespace Parley

namespace Binary64

open Float.Model (UnpackedFloat)
open Float.Model.UnpackedFloat (Sign unpack unpackMantissa unpackExponent unpackSign pack
  packComponents)
open Float.Model.Format (binary64)

/-- The number that a shape stands for, if it is finite. -/
def Shape.value? : Shape → Option ℚ
  | .finite negative m e => some (signed negative m * 2 ^ e)
  | _ => none

/-- **The number that a float stands for**, if it is finite. -/
def value? (x : Float) : Option ℚ :=
  (shape x).value?

/-- A mantissa and an exponent as the bits of a float have room for them: the mantissa has 53
bits, and fewer only next to zero. -/
structure Canonical (m : Nat) (e : Int) : Prop where
  mantissa_lt : m < 2 * hiddenBit
  least_le : leastExponent ≤ e
  le_greatest : e ≤ 971
  hidden : hiddenBit ≤ m ∨ e = leastExponent

/-! ### Taking floats apart -/

/-- Whether a sign is the one of negative numbers. -/
def isMinus : Sign → Bool
  | .negative => true
  | .positive => false

/-- The shape of a float that has been taken apart for arithmetic. -/
def Shape.ofUnpacked : UnpackedFloat → Shape
  | .notANumber => .nan
  | .infinity s => .infinite (isMinus s)
  | .zero s => .finite (isMinus s) 0 leastExponent
  | .finite s m e _ => .finite (isMinus s) m e

section Unpack

variable (b : BitVec binary64.numBits)

theorem toNat_unpackMantissa : (unpackMantissa b).toNat = b.toNat % hiddenBit := by
  simp [unpackMantissa, hiddenBit]

theorem toNat_unpackExponent : (unpackExponent b).toNat = b.toNat / hiddenBit % 2048 := by
  simp [unpackExponent, hiddenBit, Nat.shiftRight_eq_div_pow]

theorem isMinus_unpackSign : isMinus (.ofBitVec (unpackSign b)) = decide (signBit ≤ b.toNat) := by
  have hlt : b.toNat < 2 ^ 64 := b.isLt
  have hsign : (unpackSign b).toNat = b.toNat / signBit := by
    simp only [unpackSign, signBit, BitVec.extractLsb_toNat, BitVec.toNat_cast,
      Nat.shiftRight_eq_div_pow]
    exact Nat.mod_eq_of_lt (Nat.div_lt_of_lt_mul hlt)
  have hiff : unpackSign b = 0#1 ↔ b.toNat < signBit := by
    rw [← BitVec.toNat_inj, hsign]
    exact Nat.div_eq_zero_iff_lt (by decide)
  rw [Sign.ofBitVec]
  by_cases h : b.toNat < signBit
  · rw [if_pos (hiff.2 h), decide_eq_false (Nat.not_le.2 h)]
    rfl
  · rw [if_neg (mt hiff.1 h), decide_eq_true (Nat.not_lt.1 h)]
    rfl

theorem unpackExponent_eq_iff {n : Nat} (hn : n < 2 ^ binary64.exponentBits) :
    unpackExponent b = BitVec.ofNat _ n ↔ b.toNat / hiddenBit % 2048 = n := by
  rw [← BitVec.toNat_inj, toNat_unpackExponent, BitVec.toNat_ofNat, Nat.mod_eq_of_lt hn]

theorem unpackMantissa_eq_zero_iff : unpackMantissa b = 0#_ ↔ b.toNat % hiddenBit = 0 := by
  rw [← BitVec.toNat_inj, toNat_unpackMantissa]
  rfl

theorem toNat_one_append : (1#1 ++ unpackMantissa b).toNat = hiddenBit + b.toNat % hiddenBit := by
  have hlt : b.toNat % hiddenBit < 2 ^ 52 := Nat.mod_lt _ (by decide)
  rw [BitVec.toNat_append, toNat_unpackMantissa, ← Nat.shiftLeft_add_eq_or_of_lt hlt]
  rfl

end Unpack

/-- Both ways of taking a float apart come to the same. -/
theorem ofUnpacked_unpack (x : Float) : Shape.ofUnpacked x.toModel.unpack = shape x := by
  obtain ⟨b, hb⟩ : ∃ b : BitVec binary64.numBits, x.toModel.toBits.toBitVec = b := ⟨_, rfl⟩
  have hbits : x.toBits.toNat = b.toNat := congrArg BitVec.toNat hb
  have hall : unpackExponent b = -1#_ ↔ b.toNat / hiddenBit % 2048 = 2047 :=
    unpackExponent_eq_iff b (by decide)
  have hnone : unpackExponent b = 0#_ ↔ b.toNat / hiddenBit % 2048 = 0 :=
    unpackExponent_eq_iff b (by decide)
  have hm := unpackMantissa_eq_zero_iff b
  rw [Float.Model.unpack, hb, unpack, shape, hbits]
  dsimp only
  by_cases h : b.toNat / hiddenBit % 2048 = 2047
  · rw [if_pos (hall.2 h), if_pos h]
    by_cases h' : b.toNat % hiddenBit = 0
    · rw [if_pos (hm.2 h'), if_pos h', Shape.ofUnpacked, isMinus_unpackSign]
    · rw [if_neg (mt hm.1 h'), if_neg h', Shape.ofUnpacked]
  rw [if_neg (mt hall.1 h), if_neg h]
  by_cases h' : b.toNat / hiddenBit % 2048 = 0
  · rw [if_pos (hnone.2 h'), if_pos h']
    by_cases hzero : b.toNat % hiddenBit = 0
    · rw [dif_pos (hm.2 hzero), Shape.ofUnpacked, isMinus_unpackSign, hzero]
    · rw [dif_neg (mt hm.1 hzero), Shape.ofUnpacked, isMinus_unpackSign, toNat_unpackMantissa,
        toNat_unpackExponent, h']
      rfl
  · rw [if_neg (mt hnone.1 h'), if_neg h', Shape.ofUnpacked, isMinus_unpackSign,
      toNat_one_append, toNat_unpackExponent]
    congr 1
    have hbias : (binary64.exponentBias : Int) + binary64.mantissaBitsWithoutImplicit = 1075 := rfl
    rw [hbias, leastExponent]
    omega

theorem canonical_of_shape {x : Float} {negative : Bool} {m : Nat} {e : Int}
    (h : shape x = .finite negative m e) : Canonical m e := by
  have hfraction : x.toBits.toNat % hiddenBit < hiddenBit := Nat.mod_lt _ (by decide)
  rw [shape] at h
  split at h
  · split at h <;> cases h
  · split at h
    · cases h
      exact ⟨by omega, by decide, by decide, .inr rfl⟩
    · cases h
      exact ⟨by omega, by rw [leastExponent]; omega, by rw [leastExponent]; omega, .inl (by omega)⟩

/-! ### Putting floats together -/

theorem toNat_packComponents (s : Sign) (e : BitVec binary64.exponentBits)
    (m : BitVec binary64.mantissaBitsWithoutImplicit) :
    (packComponents binary64 s e m).toNat =
      ((isMinus s).toNat * 2048 + e.toNat) * hiddenBit + m.toNat := by
  have hm : m.toNat < 2 ^ 52 := m.isLt
  have he : e.toNat < 2 ^ 11 := e.isLt
  have hs : s.toBitVec.toNat = (isMinus s).toNat := by cases s <;> rfl
  rw [packComponents, BitVec.toNat_append, BitVec.toNat_append, hs,
    ← Nat.shiftLeft_add_eq_or_of_lt he, ← Nat.shiftLeft_add_eq_or_of_lt hm,
    Nat.shiftLeft_eq, Nat.shiftLeft_eq]
  rfl

/-- The shape of a finite float by its three groups of bits. -/
theorem shape_packComponents {x : Float} {s : Sign} {e : BitVec binary64.exponentBits}
    {m : BitVec binary64.mantissaBitsWithoutImplicit}
    (hx : x.toModel.toBits.toBitVec = packComponents binary64 s e m) (he : e.toNat ≠ 2047) :
    shape x = if e.toNat = 0 then .finite (isMinus s) m.toNat leastExponent
      else .finite (isMinus s) (hiddenBit + m.toNat) (e.toNat - 1 + leastExponent) := by
  have hbits : x.toBits.toNat = ((isMinus s).toNat * 2048 + e.toNat) * hiddenBit + m.toNat := by
    rw [← toNat_packComponents, ← hx]
    rfl
  have hm : m.toNat < hiddenBit := m.isLt
  have hlt : e.toNat < 2048 := e.isLt
  have hmod : x.toBits.toNat % hiddenBit = m.toNat := by
    rw [hbits, Nat.mul_add_mod_of_lt hm]
  have hdiv : x.toBits.toNat / hiddenBit = (isMinus s).toNat * 2048 + e.toNat := by
    rw [hbits, Nat.mul_comm, Nat.mul_add_div (Nat.zero_lt_of_lt hm), Nat.div_eq_of_lt hm,
      Nat.add_zero]
  have hbiased : x.toBits.toNat / hiddenBit % 2048 = e.toNat := by
    rw [hdiv, Nat.mul_add_mod_of_lt hlt]
  have hsign : decide (signBit ≤ x.toBits.toNat) = isMinus s := by
    have hsplit : signBit = 2048 * hiddenBit := rfl
    have hiff : signBit ≤ x.toBits.toNat ↔ 2048 ≤ x.toBits.toNat / hiddenBit :=
      hsplit ▸ (Nat.le_div_iff_mul_le (Nat.zero_lt_of_lt hm)).symm
    refine Bool.eq_iff_iff.2 (decide_eq_true_iff.trans (hiff.trans ?_))
    rw [hdiv]
    cases isMinus s with
    | false => exact iff_of_false (by rw [Bool.toNat_false]; omega) Bool.false_ne_true
    | true => exact iff_of_true (by rw [Bool.toNat_true]; omega) rfl
  rw [shape]
  dsimp only
  rw [hbiased, hmod, hsign, if_neg he]

/-- A canonical mantissa and exponent survive being put together. -/
theorem shape_pack {s : Sign} {m : Nat} {e : Int} (hm : 0 < m) (h : Canonical m e) :
    shape (.ofModel (.pack (.finite s m e hm))) = .finite (isMinus s) m e := by
  obtain ⟨hlt, hleast, hgreatest, hhidden⟩ := h
  rw [leastExponent] at hleast hhidden
  have hbiased : (e + (binary64.exponentBias : Int) +
      binary64.mantissaBitsWithoutImplicit).toNat = (e + 1075).toNat :=
    congrArg Int.toNat (Int.add_assoc e 1023 52)
  have hfits : ¬2 ^ binary64.exponentBits ≤ (e + 1075).toNat + 1 := by
    change ¬(2048 : Nat) ≤ (e + 1075).toNat + 1
    omega
  have hbits : m.log2 + 1 = binary64.mantissaBits ↔ hiddenBit ≤ m := by
    have hne : m ≠ 0 := Nat.pos_iff_ne_zero.1 hm
    have hlog : m.log2 < 53 := (Nat.log2_lt hne).2 hlt
    have hle : 52 ≤ m.log2 ↔ hiddenBit ≤ m := Nat.le_log2 hne
    rw [← hle]
    change m.log2 + 1 = 53 ↔ _
    omega
  have hpack : pack binary64 (.finite s m e hm) =
      if hiddenBit ≤ m then packComponents binary64 s (.ofNat _ (e + 1075).toNat) (.ofNat _ m)
      else packComponents binary64 s 0#_ (.ofNat _ m) := by
    rw [pack]
    dsimp only
    rw [hbiased, if_neg hfits]
    simp only [hbits]
  by_cases hn : hiddenBit ≤ m
  · rw [if_pos hn] at hpack
    have hexponent : (BitVec.ofNat binary64.exponentBits (e + 1075).toNat).toNat =
        (e + 1075).toNat := by
      rw [BitVec.toNat_ofNat]
      refine Nat.mod_eq_of_lt ?_
      change _ < 2048
      omega
    have hfraction : (BitVec.ofNat binary64.mantissaBitsWithoutImplicit m).toNat =
        m - hiddenBit := by
      rw [BitVec.toNat_ofNat]
      change m % hiddenBit = _
      rw [Nat.mod_eq_sub_mod hn, Nat.mod_eq_of_lt]
      omega
    have hne : (e + 1075).toNat ≠ 0 := by omega
    rw [shape_packComponents hpack (by omega), hexponent, hfraction, if_neg hne,
      Nat.add_sub_of_le hn, leastExponent]
    congr 1
    omega
  · rw [if_neg hn] at hpack
    have hfraction : (BitVec.ofNat binary64.mantissaBitsWithoutImplicit m).toNat = m := by
      rw [BitVec.toNat_ofNat]
      exact Nat.mod_eq_of_lt (Nat.not_le.1 hn)
    have hzero : (BitVec.ofNat binary64.exponentBits 0).toNat = 0 := rfl
    rw [shape_packComponents hpack (by decide), hfraction, if_pos hzero, leastExponent,
      hhidden.resolve_left hn]

theorem shape_pack_zero (s : Sign) :
    shape (.ofModel (.pack (.zero s))) = .finite (isMinus s) 0 leastExponent := by
  cases s <;> decide +kernel

/-! ### Numbers -/

/-- One, with a sign. -/
def unit (s : Sign) : ℚ :=
  s.apply 1

theorem signed_eq_unit_mul (s : Sign) (m : Nat) : (signed (isMinus s) m : ℚ) = unit s * m := by
  cases s <;> simp [signed, isMinus, unit, Sign.apply]

theorem unit_ne_zero (s : Sign) : unit s ≠ 0 := by
  cases s <;> decide

theorem abs_unit (s : Sign) : |unit s| = 1 := by
  cases s <;> simp [unit, Sign.apply]

theorem unit_neg (s : Sign) : unit (-s) = -unit s := by
  cases s <;> rfl

theorem unit_mul (s t : Sign) : unit (s * t) = unit s * unit t := by
  cases s <;> cases t <;> decide +kernel

theorem unit_div (s t : Sign) : unit (s / t) = unit s / unit t := by
  cases s <;> cases t <;> decide +kernel

/-- `Stands u q`: **a float that has been taken apart is the number**, and has the canonical
form. -/
inductive Stands : UnpackedFloat → ℚ → Prop
  | zero (s : Sign) : Stands (.zero s) 0
  | finite (s : Sign) {m : Nat} {e : Int} (hm : 0 < m) (h : Canonical m e) :
      Stands (.finite s m e hm) (unit s * m * 2 ^ e)

theorem Stands.value?_ofUnpacked {u : UnpackedFloat} {q : ℚ} (h : Stands u q) :
    (Shape.ofUnpacked u).value? = some q := by
  cases h with
  | zero s =>
    rw [Shape.ofUnpacked, Shape.value?, signed_eq_unit_mul, Nat.cast_zero, mul_zero, zero_mul]
  | finite s hm h => rw [Shape.ofUnpacked, Shape.value?, signed_eq_unit_mul]

/-- The float that is put together stands for the number. -/
theorem Stands.value?_pack {u : UnpackedFloat} {q : ℚ} (h : Stands u q) :
    value? (.ofModel (.pack u)) = some q := by
  have hshape : shape (.ofModel (.pack u)) = .ofUnpacked u := by
    cases h with
    | zero s => exact shape_pack_zero s
    | finite s hm h => exact shape_pack hm h
  rw [value?, hshape, h.value?_ofUnpacked]

/-- What a float is taken apart to stands for the same number, and has the canonical form. -/
theorem value?_eq_some_iff {x : Float} {q : ℚ} :
    value? x = some q ↔ Stands x.toModel.unpack q := by
  have hshape := ofUnpacked_unpack x
  rw [value?, ← hshape]
  refine ⟨fun h => ?_, Stands.value?_ofUnpacked⟩
  cases hu : x.toModel.unpack with
  | finite s m e hm =>
    rw [hu, Shape.ofUnpacked, Shape.value?, signed_eq_unit_mul, Option.some_inj] at h
    rw [hu] at hshape
    exact h ▸ .finite s hm (canonical_of_shape hshape.symm)
  | zero s =>
    rw [hu, (Stands.zero s).value?_ofUnpacked, Option.some_inj] at h
    exact h ▸ .zero s
  | infinity s =>
    rw [hu] at h
    cases h
  | notANumber =>
    rw [hu] at h
    cases h

end Binary64

end Parley
