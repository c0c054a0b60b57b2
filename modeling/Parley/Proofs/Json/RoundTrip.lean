import Parley.Value.Json

/-!
# Values to documents and back

Two things have no form as a document: functions, and floats that are no finite numbers. They become
null, wherever they stand, and nothing else is changed on the way to a document and back
(`Parley.Value.ofJson_toJson`). A whole number and a whole float stay apart, because documents keep
them apart as well.

In the other direction it is the whole numbers beyond 64 bits that are lost
(`Parley.Value.toJson_ofJson_iff`): they become floats.

Both statements are about the *atoms*, which are the parts that hold no others. Arrays and objects
are put together again as they were, so that a value or a document is kept exactly if all of its
atoms are.
-/

namespace Parley

/-! ### Atoms -/

mutual

/-- **The atoms of a document**: all in it that is neither an array nor an object, at any depth. -/
def Json.atoms : Json → List Json
  | .null => [.null]
  | .bool b => [.bool b]
  | .integer n => [.integer n]
  | .float x => [.float x]
  | .string s => [.string s]
  | .array items => Json.itemAtoms items
  | .object members => Json.memberAtoms members

/-- The atoms of several documents. -/
def Json.itemAtoms : List Json → List Json
  | [] => []
  | item :: items => item.atoms ++ Json.itemAtoms items

/-- The atoms of the members of an object. -/
def Json.memberAtoms : List (String × Json) → List Json
  | [] => []
  | (_, j) :: members => j.atoms ++ Json.memberAtoms members

end

/-- **An atom that fits**: a value stands for it and for no other. So 64 bits have to hold a whole
number, and a float has to be finite. -/
def Json.Fits : Json → Prop
  | .integer n => Whole.InRange n
  | .float x => x.isFinite = true
  | _ => True

namespace Value

mutual

/-- **The atoms of a value**: all in it that is neither an array nor an object, at any depth. -/
def atoms : Value → List Value
  | null => [null]
  | boolean b => [boolean b]
  | integer n => [integer n]
  | float x => [float x]
  | string s => [string s]
  | array items => itemAtoms items
  | object entries => entryAtoms entries
  | function f => [function f]

/-- The atoms of several values. -/
def itemAtoms : List Value → List Value
  | [] => []
  | item :: items => item.atoms ++ itemAtoms items

/-- The atoms of the entries of an object. -/
def entryAtoms : List (String × Value) → List Value
  | [] => []
  | (_, v) :: entries => v.atoms ++ entryAtoms entries

end

mutual

/-- The value with something else in the place of each atom. -/
def mapAtoms (f : Value → Value) : Value → Value
  | null => f null
  | boolean b => f (boolean b)
  | integer n => f (integer n)
  | float x => f (float x)
  | string s => f (string s)
  | array items => array (mapItemAtoms f items)
  | object entries => object (mapEntryAtoms f entries)
  | function g => f (function g)

/-- The same for several values. -/
def mapItemAtoms (f : Value → Value) : List Value → List Value
  | [] => []
  | item :: items => item.mapAtoms f :: mapItemAtoms f items

/-- The same for the entries of an object. -/
def mapEntryAtoms (f : Value → Value) : List (String × Value) → List (String × Value)
  | [] => []
  | (key, v) :: entries => (key, v.mapAtoms f) :: mapEntryAtoms f entries

end

mutual

/-- A value is left as it is exactly if its atoms are. -/
theorem mapAtoms_eq_self_iff (f : Value → Value) : ∀ v : Value,
    v.mapAtoms f = v ↔ ∀ a ∈ v.atoms, f a = a
  | null => by rw [mapAtoms, atoms, List.forall_mem_singleton]
  | boolean _ => by rw [mapAtoms, atoms, List.forall_mem_singleton]
  | integer _ => by rw [mapAtoms, atoms, List.forall_mem_singleton]
  | float _ => by rw [mapAtoms, atoms, List.forall_mem_singleton]
  | string _ => by rw [mapAtoms, atoms, List.forall_mem_singleton]
  | function _ => by rw [mapAtoms, atoms, List.forall_mem_singleton]
  | array items => by rw [mapAtoms, array.injEq, mapItemAtoms_eq_self_iff f items, atoms]
  | object entries => by rw [mapAtoms, object.injEq, mapEntryAtoms_eq_self_iff f entries, atoms]

theorem mapItemAtoms_eq_self_iff (f : Value → Value) : ∀ items : List Value,
    mapItemAtoms f items = items ↔ ∀ a ∈ itemAtoms items, f a = a
  | [] => iff_of_true rfl (List.forall_mem_nil _)
  | item :: items => by
    rw [mapItemAtoms, List.cons.injEq, mapAtoms_eq_self_iff f item,
      mapItemAtoms_eq_self_iff f items, itemAtoms, List.forall_mem_append]

theorem mapEntryAtoms_eq_self_iff (f : Value → Value) : ∀ entries : List (String × Value),
    mapEntryAtoms f entries = entries ↔ ∀ a ∈ entryAtoms entries, f a = a
  | [] => iff_of_true rfl (List.forall_mem_nil _)
  | (key, v) :: entries => by
    rw [mapEntryAtoms, List.cons.injEq, Prod.mk.injEq, and_iff_right rfl,
      mapAtoms_eq_self_iff f v, mapEntryAtoms_eq_self_iff f entries, entryAtoms,
      List.forall_mem_append]

end

/-! ### Values -/

/-- **What is left of an atom** as a document: null of a function and of a float that is no finite
number, and otherwise the atom itself. -/
def orNull : Value → Value
  | float x => if x.isFinite then float x else null
  | function _ => null
  | v => v

theorem orNull_eq_self_iff (v : Value) :
    v.orNull = v ↔ v.type ≠ .function ∧ ∀ x, v = float x → x.isFinite = true := by
  cases v with
  | float x => by_cases h : x.isFinite <;> simp [orNull, type, h]
  | _ => simp [orNull, type]

mutual

/-- **What is left of a value** on the way to a document and back. -/
theorem ofJson_toJson : ∀ v : Value, ofJson v.toJson = v.mapAtoms orNull
  | null => rfl
  | boolean _ => rfl
  | integer n => by
    rw [toJson, ofJson, ofInt, Whole.ofInt?_toInt]
    rfl
  | float x => by
    rw [toJson, mapAtoms, orNull]
    split <;> rfl
  | string _ => rfl
  | function _ => rfl
  | array items => by rw [toJson, ofJson, mapAtoms, ofItems_toItems_eq items]
  | object entries => by rw [toJson, ofJson, mapAtoms, ofMembers_toMembers_eq entries]

theorem ofItems_toItems_eq : ∀ items : List Value,
    ofItems (toItems items) = mapItemAtoms orNull items
  | [] => rfl
  | item :: items => by
    rw [toItems, ofItems, mapItemAtoms, ofJson_toJson item, ofItems_toItems_eq items]

theorem ofMembers_toMembers_eq : ∀ entries : List (String × Value),
    ofMembers (toMembers entries) = mapEntryAtoms orNull entries
  | [] => rfl
  | (key, v) :: entries => by
    rw [toMembers, ofMembers, mapEntryAtoms, ofJson_toJson v, ofMembers_toMembers_eq entries]

end

/-! ### Documents -/

/-- A whole number in a document stays one exactly if 64 bits can hold it. -/
theorem toJson_ofInt_iff (n : Int) : (ofInt n).toJson = .integer n ↔ Whole.InRange n := by
  rw [ofInt]
  by_cases h : Whole.InRange n
  · obtain ⟨w, hw⟩ : ∃ w, Whole.ofInt? n = some w := ⟨_, if_pos h⟩
    rw [hw]
    exact iff_of_true (congrArg Json.integer (Whole.toInt_ofInt? hw)) h
  · rw [Whole.ofInt?, if_neg h]
    refine iff_of_false ?_ h
    -- it has become a float
    dsimp only
    rw [toJson]
    split
    · rintro ⟨⟩
    · rintro ⟨⟩

mutual

/-- **What is kept of a document** on the way to a value and back: all of it exactly if all of its
atoms fit. -/
theorem toJson_ofJson_iff : ∀ j : Json, (ofJson j).toJson = j ↔ ∀ a ∈ j.atoms, a.Fits
  | .null => by
    rw [Json.atoms, List.forall_mem_singleton]
    exact iff_of_true rfl trivial
  | .bool _ => by
    rw [Json.atoms, List.forall_mem_singleton]
    exact iff_of_true rfl trivial
  | .integer n => by
    rw [Json.atoms, List.forall_mem_singleton]
    exact toJson_ofInt_iff n
  | .float x => by
    rw [Json.atoms, List.forall_mem_singleton, Json.Fits, ofJson, toJson]
    split <;> simp_all
  | .string _ => by
    rw [Json.atoms, List.forall_mem_singleton]
    exact iff_of_true rfl trivial
  | .array items => by
    rw [ofJson, toJson, Json.array.injEq, toItems_ofItems_iff items, Json.atoms]
  | .object members => by
    rw [ofJson, toJson, Json.object.injEq, toMembers_ofMembers_iff members, Json.atoms]

theorem toItems_ofItems_iff : ∀ items : List Json,
    toItems (ofItems items) = items ↔ ∀ a ∈ Json.itemAtoms items, a.Fits
  | [] => iff_of_true rfl (List.forall_mem_nil _)
  | item :: items => by
    rw [ofItems, toItems, List.cons.injEq, toJson_ofJson_iff item, toItems_ofItems_iff items,
      Json.itemAtoms, List.forall_mem_append]

theorem toMembers_ofMembers_iff : ∀ members : List (String × Json),
    toMembers (ofMembers members) = members ↔ ∀ a ∈ Json.memberAtoms members, a.Fits
  | [] => iff_of_true rfl (List.forall_mem_nil _)
  | (name, j) :: members => by
    rw [ofMembers, toMembers, List.cons.injEq, Prod.mk.injEq, and_iff_right rfl,
      toJson_ofJson_iff j, toMembers_ofMembers_iff members, Json.memberAtoms,
      List.forall_mem_append]

end

end Value

/-- **Documents lose exactly what has no form in them.** On the way to a document and back each
function and each float that is no finite number becomes null, at any depth, and everything else is
kept as it is; so a value is kept exactly if it has neither in it. Conversely a document, whose
floats are always finite, is kept exactly if 64 bits can hold each whole number in it. -/
theorem documents_lose_what_has_no_form :
    (∀ v : Value, Value.ofJson v.toJson = v.mapAtoms Value.orNull) ∧
    (∀ v : Value, Value.ofJson v.toJson = v ↔
      ∀ a ∈ v.atoms, a.type ≠ .function ∧ ∀ x, a = .float x → x.isFinite = true) ∧
    ∀ j : Json, (∀ x, .float x ∈ j.atoms → x.isFinite = true) →
      ((Value.ofJson j).toJson = j ↔ ∀ n, .integer n ∈ j.atoms → Whole.InRange n) := by
  refine ⟨Value.ofJson_toJson, fun v => ?_, fun j hfinite => ?_⟩
  · rw [Value.ofJson_toJson, Value.mapAtoms_eq_self_iff]
    exact forall₂_congr fun a _ => a.orNull_eq_self_iff
  · rw [Value.toJson_ofJson_iff]
    constructor
    · exact fun h n hn => h _ hn
    · intro h a ha
      cases a with
      | integer n => exact h n ha
      | float x => exact hfinite x ha
      | _ => trivial

/-- The least whole number and a whole float are kept apart, and the number behind the greatest one
is lost. -/
theorem documents_lose_what_has_no_form_extremes :
    (Value.ofJson (.object [("n", .array [.integer (-9223372036854775808), .float 2.0])])).toJson =
        .object [("n", .array [.integer (-9223372036854775808), .float 2.0])] ∧
      (Value.ofJson (.array [.null, .integer 9223372036854775808])).toJson ≠
        .array [.null, .integer 9223372036854775808] := by
  obtain ⟨-, -, hdocument⟩ := documents_lose_what_has_no_form
  constructor
  · refine (hdocument _ fun x hx => ?_).2 fun n hn => ?_
    · have hx : x = 2.0 := by simpa [Json.atoms, Json.memberAtoms, Json.itemAtoms] using hx
      rw [hx]
      decide
    · have hn : n = -9223372036854775808 := by
        simpa [Json.atoms, Json.memberAtoms, Json.itemAtoms] using hn
      rw [hn]
      decide
  · have hnone : ∀ x, .float x ∈ (Json.array [.null, .integer 9223372036854775808]).atoms →
        x.isFinite = true := by
      simp [Json.atoms, Json.itemAtoms]
    intro h
    have hrange := (hdocument _ hnone).1 h 9223372036854775808
      (by simp [Json.atoms, Json.itemAtoms])
    exact absurd hrange (by decide)

end Parley
