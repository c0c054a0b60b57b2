import Parley.Proofs.Number.Equality
import Parley.Proofs.Number.Nearest
import Parley.Value

/-!
# Equality of values

Two whole numbers are equal when they are the same, and two floats when they stand for the same. A
whole number and a float meet as floats, so what counts is the float that the whole number becomes.
In all cases equal numbers have the same *reading* (`Parley.Value.reading?`): what they stand for as
floats. Symmetry and truth go back to this, and arrays and objects are compared part by part.

The converse fails. Two whole numbers beyond `2 ^ 53` may become the same float, and then both equal
this float but not one another. So equality is transitive only as far as floats can hold the whole
numbers that are in the values at either end (`Parley.Value.WithinFloats`).
-/

namespace Parley

namespace Value

open Binary64 (Extended extended? value? Representable Nearest)

mutual

/-- **The numbers in a value**, at any depth. -/
def numbers : Value → List Value
  | null => []
  | boolean _ => []
  | integer n => [integer n]
  | float x => [float x]
  | string _ => []
  | array items => itemNumbers items
  | object entries => entryNumbers entries
  | function _ => []

/-- The numbers in the items of an array. -/
def itemNumbers : List Value → List Value
  | [] => []
  | item :: items => item.numbers ++ itemNumbers items

/-- The numbers in the entries of an object. -/
def entryNumbers : List (String × Value) → List Value
  | [] => []
  | (_, v) :: entries => v.numbers ++ entryNumbers entries

end

/-- **Floats can hold the whole numbers** that are in a value. -/
def WithinFloats (v : Value) : Prop :=
  ∀ n, integer n ∈ v.numbers → Representable (n.toInt : ℚ)

/-! ### Readings of numbers -/

/-- What a number stands for as a float. -/
def reading? (v : Value) : Option Extended :=
  v.float?.bind extended?

/-- A whole number is read as the float that is nearest to it. -/
theorem exists_reading?_integer (n : Int64) :
    ∃ r, Nearest n.toInt r ∧ (integer n).reading? = some (.finite r) := by
  obtain ⟨r, hr, hnearest⟩ := Binary64.exists_nearest_toFloat n
  exact ⟨r, hnearest, Binary64.extended?_eq_finite_iff.2 hr⟩

/-- Numbers that are equal have the same reading. -/
theorem exists_reading?_of_equal {v w : Value} (hv : v.type = .number) (h : v.equal w = true) :
    ∃ r, v.reading? = some r ∧ w.reading? = some r := by
  cases v with
  | integer n =>
    cases w with
    | integer m =>
      obtain rfl : n = m := eq_of_beq h
      obtain ⟨r, -, hr⟩ := exists_reading?_integer n
      exact ⟨_, hr, hr⟩
    | float x => exact Binary64.beq_iff.1 h
    | _ => cases h
  | float x =>
    cases w with
    | integer m =>
      obtain ⟨r, hm, hx⟩ := Binary64.beq_iff.1 h
      exact ⟨r, hx, hm⟩
    | float y => exact Binary64.beq_iff.1 h
    | _ => cases h
  | _ => cases hv

/-- Numbers with the same reading are equal, as far as floats can hold them. -/
theorem equal_of_reading? {v w : Value} {r : Extended} (hv : v.reading? = some r)
    (hw : w.reading? = some r) (hv' : v.WithinFloats) (hw' : w.WithinFloats) :
    v.equal w = true := by
  cases v with
  | integer n =>
    cases w with
    | integer m =>
      obtain ⟨p, hp, hn⟩ := exists_reading?_integer n
      obtain ⟨q, hq, hm⟩ := exists_reading?_integer m
      have hpn := hp.eq_of_representable (hv' n (List.mem_singleton_self _))
      have hqm := hq.eq_of_representable (hw' m (List.mem_singleton_self _))
      have hpq : p = q := by
        rw [hn, Option.some_inj] at hv
        rw [hm, Option.some_inj, ← hv, Extended.finite.injEq] at hw
        exact hw.symm
      have hint : (n.toInt : ℚ) = m.toInt := by rw [← hpn, ← hqm, hpq]
      exact beq_iff_eq.2 (Int64.toInt_inj.1 (Int.cast_injective hint))
    | float x => exact Binary64.beq_iff.2 ⟨r, hv, hw⟩
    | _ => cases hw
  | float x =>
    cases w with
    | integer m => exact Binary64.beq_iff.2 ⟨r, hw, hv⟩
    | float y => exact Binary64.beq_iff.2 ⟨r, hv, hw⟩
    | _ => cases hw
  | _ => cases hv

/-- The numbers that count as true are those that are not read as zero. -/
theorem truthy_iff_of_reading? {v : Value} {r : Extended} (h : v.reading? = some r) :
    v.truthy = true ↔ r ≠ .finite 0 := by
  -- a reading of zero is what a comparison with zero finds
  have hzero (x : Float) (hx : extended? x = some r) : (x == 0.0) = true ↔ r = .finite 0 := by
    rw [Binary64.beq_zero_iff, ← Binary64.extended?_eq_finite_iff, hx, Option.some_inj]
  cases v with
  | integer n =>
    have hn : (n == 0) = true ↔ r = .finite 0 := by
      rw [beq_iff_eq, ← Binary64.toFloat_beq_zero, hzero _ h]
    rw [truthy, bne, Bool.not_eq_true', ← Bool.not_eq_true, hn]
  | float x =>
    have hnumber : x.isNaN = false := Binary64.isNaN_eq_false_iff.2 ⟨r, h⟩
    rw [truthy, hnumber, bne, Bool.not_false, Bool.and_true, Bool.not_eq_true', ← Bool.not_eq_true,
      hzero x h]
  | _ => cases h

/-! ### Symmetry and reflexivity -/

mutual

/-- **Equality is symmetric.** -/
theorem equal_comm : ∀ v w : Value, v.equal w = w.equal v
  | null, w => by cases w <;> rfl
  | boolean a, w => by
    cases w with
    | boolean b => exact BEq.comm
    | _ => rfl
  | integer n, w => by
    cases w with
    | integer m => exact BEq.comm
    | _ => rfl
  | float x, w => by
    cases w with
    | float y => exact Binary64.beq_comm x y
    | _ => rfl
  | string s, w => by
    cases w with
    | string t => exact BEq.comm
    | _ => rfl
  | array items, w => by
    cases w with
    | array others => exact equalItems_comm items others
    | _ => rfl
  | object entries, w => by
    cases w with
    | object others => exact equalEntries_comm entries others
    | _ => rfl
  | function f, w => by
    cases w with
    | function g => exact BEq.comm
    | _ => rfl

theorem equalItems_comm : ∀ items others : List Value,
    equalItems items others = equalItems others items
  | [], [] => rfl
  | [], _ :: _ => rfl
  | _ :: _, [] => rfl
  | v :: items, w :: others => by
    rw [equalItems, equalItems, equal_comm v w, equalItems_comm items others]

theorem equalEntries_comm : ∀ entries others : List (String × Value),
    equalEntries entries others = equalEntries others entries
  | [], [] => rfl
  | [], (_, _) :: _ => rfl
  | (_, _) :: _, [] => rfl
  | (k, v) :: entries, (l, w) :: others => by
    rw [equalEntries, equalEntries, equal_comm v w, equalEntries_comm entries others,
      BEq.comm (a := k)]

end

mutual

/-- **A value equals itself** unless there is a float in it that is not a number. -/
theorem equal_self_iff : ∀ v : Value,
    v.equal v = true ↔ ∀ x, float x ∈ v.numbers → x.isNaN = false
  | null => iff_of_true rfl nofun
  | boolean b => iff_of_true (beq_self_eq_true b) nofun
  | integer n => iff_of_true (beq_self_eq_true n) (by simp [numbers])
  | float x => by
    refine Binary64.beq_self_iff.trans ⟨fun h y hy => ?_, fun h => h x (List.mem_singleton_self _)⟩
    obtain rfl : y = x := float.inj (List.mem_singleton.1 hy)
    exact h
  | string s => iff_of_true (beq_self_eq_true s) nofun
  | array items => equalItems_self_iff items
  | object entries => equalEntries_self_iff entries
  | function f => iff_of_true (beq_self_eq_true f) nofun

theorem equalItems_self_iff : ∀ items : List Value,
    equalItems items items = true ↔ ∀ x, float x ∈ itemNumbers items → x.isNaN = false
  | [] => iff_of_true rfl nofun
  | v :: items => by
    rw [equalItems, Bool.and_eq_true, equal_self_iff v, equalItems_self_iff items]
    simp only [itemNumbers, List.mem_append, or_imp, forall_and]

theorem equalEntries_self_iff : ∀ entries : List (String × Value),
    equalEntries entries entries = true ↔ ∀ x, float x ∈ entryNumbers entries → x.isNaN = false
  | [] => iff_of_true rfl nofun
  | (k, v) :: entries => by
    rw [equalEntries, beq_self_eq_true, Bool.true_and, Bool.and_eq_true, equal_self_iff v,
      equalEntries_self_iff entries]
    simp only [entryNumbers, List.mem_append, or_imp, forall_and]

end

/-! ### What equal values have in common -/

theorem type_eq_of_equal {v w : Value} (h : v.equal w = true) : v.type = w.type := by
  cases v <;> cases w <;> first | rfl | cases h

/-- **Equal values are true or false together.** -/
theorem truthy_eq_of_equal {v w : Value} (h : v.equal w = true) : v.truthy = w.truthy := by
  by_cases hv : v.type = .number
  · obtain ⟨r, hv', hw'⟩ := exists_reading?_of_equal hv h
    rw [Bool.eq_iff_iff, truthy_iff_of_reading? hv', truthy_iff_of_reading? hw']
  · cases v with
    | integer n => exact absurd rfl hv
    | float x => exact absurd rfl hv
    | boolean b =>
      cases w with
      | boolean c => exact eq_of_beq h
      | _ => cases h
    | string s =>
      cases w with
      | string t => exact congrArg truthy (congrArg string (eq_of_beq h))
      | _ => cases h
    | _ => cases w <;> first | rfl | cases h

/-! ### Transitivity -/

theorem equal_trans_of_number {u v w : Value} (hnumber : u.type = .number) (hu : u.WithinFloats)
    (hw : w.WithinFloats) (huv : u.equal v = true) (hvw : v.equal w = true) :
    u.equal w = true := by
  obtain ⟨r, hr, hv⟩ := exists_reading?_of_equal hnumber huv
  obtain ⟨r', hv', hr'⟩ := exists_reading?_of_equal (type_eq_of_equal huv ▸ hnumber) hvw
  obtain rfl : r = r' := Option.some_inj.1 (hv.symm.trans hv')
  exact equal_of_reading? hr hr' hu hw

mutual

/-- **Equality is transitive** as far as floats can hold the whole numbers at either end. -/
theorem equal_trans : ∀ (u : Value) {v w : Value}, u.WithinFloats → w.WithinFloats →
    u.equal v = true → v.equal w = true → u.equal w = true
  | integer _, _, _, hu, hw, huv, hvw => equal_trans_of_number rfl hu hw huv hvw
  | float _, _, _, hu, hw, huv, hvw => equal_trans_of_number rfl hu hw huv hvw
  | null, v, w, _, _, huv, hvw => by
    cases v with
    | null => exact hvw
    | _ => cases huv
  | boolean b, v, w, _, _, huv, hvw => by
    cases v with
    | boolean c => rwa [show boolean b = boolean c from congrArg boolean (eq_of_beq huv)]
    | _ => cases huv
  | string s, v, w, _, _, huv, hvw => by
    cases v with
    | string t => rwa [show string s = string t from congrArg string (eq_of_beq huv)]
    | _ => cases huv
  | function f, v, w, _, _, huv, hvw => by
    cases v with
    | function g => rwa [show function f = function g from congrArg function (eq_of_beq huv)]
    | _ => cases huv
  | array items, v, w, hu, hw, huv, hvw => by
    cases v with
    | array others =>
      cases w with
      | array more => exact equalItems_trans items hu hw huv hvw
      | _ => cases hvw
    | _ => cases huv
  | object entries, v, w, hu, hw, huv, hvw => by
    cases v with
    | object others =>
      cases w with
      | object more => exact equalEntries_trans entries hu hw huv hvw
      | _ => cases hvw
    | _ => cases huv

theorem equalItems_trans : ∀ (items : List Value) {others more : List Value},
    (array items).WithinFloats → (array more).WithinFloats →
    equalItems items others = true → equalItems others more = true → equalItems items more = true
  | [], [], more, _, _, _, h => h
  | [], _ :: _, _, _, _, h, _ => by cases h
  | _ :: _, [], _, _, _, h, _ => by cases h
  | _ :: _, _ :: _, [], _, _, _, h => by cases h
  | u :: items, v :: others, w :: more, hu, hw, huv, hvw => by
    rw [equalItems, Bool.and_eq_true] at huv hvw ⊢
    exact ⟨equal_trans u (fun n hn => hu n (List.mem_append_left _ hn))
        (fun n hn => hw n (List.mem_append_left _ hn)) huv.1 hvw.1,
      equalItems_trans items (fun n hn => hu n (List.mem_append_right _ hn))
        (fun n hn => hw n (List.mem_append_right _ hn)) huv.2 hvw.2⟩

theorem equalEntries_trans : ∀ (entries : List (String × Value))
    {others more : List (String × Value)},
    (object entries).WithinFloats → (object more).WithinFloats →
    equalEntries entries others = true → equalEntries others more = true →
    equalEntries entries more = true
  | [], [], more, _, _, _, h => h
  | [], _ :: _, _, _, _, h, _ => by cases h
  | _ :: _, [], _, _, _, h, _ => by cases h
  | _ :: _, _ :: _, [], _, _, _, h => by cases h
  | (k, u) :: entries, (l, v) :: others, (j, w) :: more, hu, hw, huv, hvw => by
    rw [equalEntries, Bool.and_eq_true, Bool.and_eq_true, beq_iff_eq] at huv hvw ⊢
    obtain ⟨⟨rfl, huv⟩, hentries⟩ := huv
    obtain ⟨⟨rfl, hvw⟩, hentries'⟩ := hvw
    exact ⟨⟨rfl, equal_trans u (fun n hn => hu n (List.mem_append_left _ hn))
        (fun n hn => hw n (List.mem_append_left _ hn)) huv hvw⟩,
      equalEntries_trans entries (fun n hn => hu n (List.mem_append_right _ hn))
        (fun n hn => hw n (List.mem_append_right _ hn)) hentries hentries'⟩

end

end Value

/-- **Equality is symmetric, it is reflexive away from what is not a number, and it is respected.**
A value equals another one exactly if the other one equals it. It equals itself exactly if all the
floats in it, at any depth, are numbers. Equal values have the same type, and they are both true or
both false. -/
theorem equality_is_symmetric_and_respected (v w : Value) :
    v.equal w = w.equal v ∧
    (v.equal v = true ↔ ∀ x, Value.float x ∈ v.numbers → x.isNaN = false) ∧
    (v.equal w = true → v.type = w.type ∧ v.truthy = w.truthy) :=
  ⟨Value.equal_comm v w, Value.equal_self_iff v,
    fun h => ⟨Value.type_eq_of_equal h, Value.truthy_eq_of_equal h⟩⟩

/-- Minus zero and the whole number zero, both of them false. -/
theorem equality_is_symmetric_and_respected_zero :
    (Value.integer 0).equal (.float (Float.ofBits 0x8000000000000000)) = true ∧
      (Value.integer 0).type = (Value.float (Float.ofBits 0x8000000000000000)).type ∧
      (Value.integer 0).truthy = (Value.float (Float.ofBits 0x8000000000000000)).truthy := by
  have h : (Value.integer 0).equal (.float (Float.ofBits 0x8000000000000000)) = true := by
    decide +kernel
  exact ⟨h, (equality_is_symmetric_and_respected _ _).2.2 h⟩

/-- **A whole number equals the float that is nearest to it.** There is one number that floats can
be, the nearest to the whole number or, of two that are equally near, the even one, such that it
equals the floats that stand for this number and no others; if floats can hold the whole number, it
is this number itself. Equality of values is transitive if floats can hold the whole numbers in the
first and the last value, at any depth. -/
theorem whole_numbers_equal_the_nearest_float (n : Int64) (u v w : Value) :
    (∃ r, Binary64.Nearest n.toInt r ∧ (Binary64.Representable n.toInt → r = n.toInt) ∧
      ∀ x, (Value.integer n).equal (.float x) = true ↔ Binary64.value? x = some r) ∧
    (u.WithinFloats → w.WithinFloats → u.equal v = true → v.equal w = true →
      u.equal w = true) := by
  refine ⟨?_, Value.equal_trans u⟩
  obtain ⟨r, hr, hnearest⟩ := Binary64.exists_nearest_toFloat n
  refine ⟨r, hnearest, hnearest.eq_of_representable, fun x => ?_⟩
  have hreading : Binary64.extended? (Whole.toFloat n) = some (.finite r) :=
    Binary64.extended?_eq_finite_iff.2 hr
  have hequal : (Value.integer n).equal (.float x) = (Whole.toFloat n == x) := rfl
  rw [hequal, Binary64.beq_iff, hreading, ← Binary64.extended?_eq_finite_iff]
  simp [eq_comm]

/-- Both zeros equal the whole number zero, and therefore one another. But two whole numbers next to
one another equal the same float, `2 ^ 53`, and they are different. -/
theorem whole_numbers_equal_the_nearest_float_between :
    ((Value.float (Float.ofBits 0)).equal (.integer 0) = true ∧
      (Value.integer 0).equal (.float (Float.ofBits 0x8000000000000000)) = true ∧
      (Value.float (Float.ofBits 0)).equal (.float (Float.ofBits 0x8000000000000000)) = true) ∧
    (Value.integer 9007199254740992).equal (.float (Float.ofBits 0x4340000000000000)) = true ∧
    (Value.float (Float.ofBits 0x4340000000000000)).equal (.integer 9007199254740993) = true ∧
    (Value.integer 9007199254740992).equal (.integer 9007199254740993) = false := by
  have hfloat (x : Float) : (Value.float x).WithinFloats := fun n hn => by
    cases List.mem_singleton.1 hn
  have hplus : (Value.float (Float.ofBits 0)).equal (.integer 0) = true := by decide +kernel
  have hminus : (Value.integer 0).equal (.float (Float.ofBits 0x8000000000000000)) = true := by
    decide +kernel
  exact ⟨⟨hplus, hminus,
      (whole_numbers_equal_the_nearest_float 0 _ _ _).2 (hfloat _) (hfloat _) hplus hminus⟩,
    by decide +kernel, by decide +kernel, by decide⟩

end Parley
