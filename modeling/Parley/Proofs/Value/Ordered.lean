import Parley.Value.Object

/-!
# Ordered values

An object is a list of entries in the increasing order of their keys, in which no key occurs
twice. `Parley.Value.Ordered` says that all the objects of a value, at any depth, are of this
form, and `Parley.Object.Ordered` says it of the entries of one object.

Whatever builds an object keeps it so: `Parley.Object.Ordered.insert` and
`Parley.Object.Ordered.merge`. What is gained is that the entry found under a key does not
depend on where in the list one looks, so that a merge is described key by key
(`Parley.Object.get?_merge`).
-/

namespace Parley

/-- **An ordered value**: in each of its objects, at any depth, the keys increase. -/
inductive Value.Ordered : Value → Prop
  | null : Ordered .null
  | boolean (b : Bool) : Ordered (.boolean b)
  | integer (n : Int64) : Ordered (.integer n)
  | float (x : Float) : Ordered (.float x)
  | string (s : String) : Ordered (.string s)
  | function (f : Callable) : Ordered (.function f)
  | array {items : List Value} : (∀ v ∈ items, v.Ordered) → Ordered (.array items)
  | object {entries : Object} : entries.Pairwise (fun a b => a.1 < b.1) →
      (∀ entry ∈ entries, entry.2.Ordered) → Ordered (.object entries)

namespace Object

/-- The entries of an ordered object. -/
def Ordered (o : Object) : Prop :=
  (Value.object o).Ordered

theorem ordered_iff {o : Object} :
    o.Ordered ↔ o.Pairwise (fun a b => a.1 < b.1) ∧ ∀ entry ∈ o, entry.2.Ordered := by
  constructor
  · rintro (_ | _ | _ | _ | _ | _ | _ | ⟨hkeys, hvalues⟩)
    exact ⟨hkeys, hvalues⟩
  · exact fun ⟨hkeys, hvalues⟩ => .object hkeys hvalues

theorem ordered_nil : Ordered [] :=
  ordered_iff.2 ⟨.nil, by simp⟩

theorem ordered_cons {key : String} {v : Value} {o : Object} :
    Ordered ((key, v) :: o) ↔ (∀ entry ∈ o, key < entry.1) ∧ v.Ordered ∧ o.Ordered := by
  rw [ordered_iff, ordered_iff, List.pairwise_cons, List.forall_mem_cons]
  constructor
  · rintro ⟨⟨hlt, hkeys⟩, hv, hvalues⟩
    exact ⟨hlt, hv, hkeys, hvalues⟩
  · rintro ⟨hlt, hv, hkeys, hvalues⟩
    exact ⟨⟨hlt, hkeys⟩, hv, hvalues⟩

/-! ### Looking up -/

theorem mem_of_get? {key : String} {v : Value} {o : Object} (h : get? key o = some v) :
    (key, v) ∈ o := by
  induction o with
  | nil => cases h
  | cons entry o ih =>
    obtain ⟨k, w⟩ := entry
    rw [get?] at h
    split at h
    · rename_i hk
      cases h
      exact hk ▸ List.mem_cons_self
    · exact List.mem_cons_of_mem _ (ih h)

theorem Ordered.of_get? {key : String} {v : Value} {o : Object} (ho : o.Ordered)
    (h : get? key o = some v) : v.Ordered :=
  (ordered_iff.1 ho).2 _ (mem_of_get? h)

/-- A key that is smaller than all others is not among them. -/
theorem get?_eq_none_of_lt {key : String} {o : Object} (h : ∀ entry ∈ o, key < entry.1) :
    get? key o = none := by
  cases hget : get? key o with
  | none => rfl
  | some v => exact absurd (h _ (mem_of_get? hget)) (String.lt_irrefl key)

/-! ### Insertion and merging -/

theorem mem_insert {key : String} {v : Value} {o : Object} {entry : String × Value}
    (h : entry ∈ insert key v o) : entry = (key, v) ∨ entry ∈ o := by
  induction o with
  | nil => exact .inl (List.mem_singleton.1 h)
  | cons first o ih =>
    obtain ⟨k, w⟩ := first
    rw [insert] at h
    split at h
    · exact List.mem_cons.1 h
    · split at h
      · exact (List.mem_cons.1 h).imp_right (List.mem_cons_of_mem _)
      · rcases List.mem_cons.1 h with rfl | h
        · exact .inr List.mem_cons_self
        · exact (ih h).imp_right (List.mem_cons_of_mem _)

/-- **An insertion keeps the order.** -/
theorem Ordered.insert {key : String} {v : Value} {o : Object} (ho : o.Ordered)
    (hv : v.Ordered) : (Object.insert key v o).Ordered := by
  induction o with
  | nil => exact ordered_cons.2 ⟨by simp, hv, ordered_nil⟩
  | cons first o ih =>
    obtain ⟨k, w⟩ := first
    obtain ⟨hlt, hw, ho⟩ := ordered_cons.1 ho
    rw [Object.insert]
    split
    · rename_i hkey
      refine ordered_cons.2 ⟨?_, hv, ordered_cons.2 ⟨hlt, hw, ho⟩⟩
      exact List.forall_mem_cons.2 ⟨hkey, fun entry he => String.lt_trans hkey (hlt entry he)⟩
    · rename_i hkey
      split
      · rename_i heq
        exact ordered_cons.2 ⟨heq ▸ hlt, hv, ho⟩
      · rename_i hne
        have hk : k < key := Std.lt_of_le_of_ne (String.not_lt.1 hkey) hne
        refine ordered_cons.2 ⟨fun entry he => ?_, hw, ih ho⟩
        rcases mem_insert he with rfl | he
        · exact hk
        · exact hlt entry he

mutual

theorem overlay_ordered : ∀ (v : Value) {old : Option Value}, v.Ordered →
    (∀ w, old = some w → w.Ordered) → (overlay old v).Ordered
  | .null, _, hv, _ => hv
  | .boolean _, _, hv, _ => hv
  | .integer _, _, hv, _ => hv
  | .float _, _, hv, _ => hv
  | .string _, _, hv, _ => hv
  | .array _, _, hv, _ => hv
  | .function _, _, hv, _ => hv
  | .object nested, old, hv, hold => by
    unfold overlay
    split
    · exact merge_ordered nested (hold _ rfl) (ordered_iff.1 hv).2
    · exact hv

theorem merge_ordered : ∀ (layer : List (String × Value)) {target : Object}, target.Ordered →
    (∀ entry ∈ layer, entry.2.Ordered) → (merge target layer).Ordered
  | [], _, ht, _ => ht
  | (key, incoming) :: rest, target, ht, hl => by
    obtain ⟨hincoming, hrest⟩ := List.forall_mem_cons.1 hl
    have hold : ∀ w, get? key target = some w → w.Ordered := fun w hw => ht.of_get? hw
    rw [merge]
    exact merge_ordered rest (ht.insert (overlay_ordered incoming hincoming hold)) hrest

end

/-- **A merge keeps the order.** -/
theorem Ordered.merge {target layer : Object} (ht : target.Ordered) (hl : layer.Ordered) :
    (Object.merge target layer).Ordered :=
  merge_ordered layer ht (ordered_iff.1 hl).2

/-- **A merge, key by key**: under a key that the layer does not have there is what was there
before, and under any other the value of the layer, written over it. -/
theorem get?_merge {target layer : Object} (hl : layer.Ordered) (key : String) :
    get? key (Object.merge target layer) =
      match get? key layer with
      | none => get? key target
      | some v => some (overlay (get? key target) v) := by
  induction layer generalizing target with
  | nil => rw [Object.merge, get?]
  | cons entry layer ih =>
    obtain ⟨k, v⟩ := entry
    obtain ⟨hlt, -, hl⟩ := ordered_cons.1 hl
    -- the first entry is written, and then the others are merged over it
    rw [Object.merge, ih hl, get?, get?_insert]
    by_cases hk : k = key
    · -- no other entry of the layer has this key
      subst hk
      rw [get?_eq_none_of_lt hlt, if_pos rfl, if_pos rfl]
    · rw [if_neg hk, if_neg hk]

end Object

end Parley
