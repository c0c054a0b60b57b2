import Parley.Proofs.Layers

/-!
# Layers that are merged again, and ahead of time

A layer that is merged over a context once more changes nothing (`Parley.Object.merge_merge_self`).
Two layers that follow each other may be merged with each other first, and then over the context,
unless there is a clash: a path at which the context has an object, the first layer a value that is
no object, and the second layer an object again. In this order nothing of the object in the context
is left, but if the layers are merged first, their value is an object, which the one in the context
goes into. `Parley.Object.merge_assoc_iff` says that these are the only places to look at: both ways
come to the same exactly if at each clash the object of the context has nothing to add.

All of this is shown key by key, which is enough for ordered objects (`Parley.Object.Ordered.ext`).
What is found under a key in a merged object is the value of the layer written over that of the
target, where either of them may be missing. `Parley.Object.overwrite` is this operation on what has
been found, and the inductions are over the value that is written last.
-/

namespace Parley

namespace Object

variable {a b c o : Object}

/-! ### Key by key -/

theorem mem_iff_get? (ho : o.Ordered) {key : String} {v : Value} :
    (key, v) ∈ o ↔ get? key o = some v := by
  constructor
  · intro h
    induction o with
    | nil => cases h
    | cons entry o ih =>
      obtain ⟨k, w⟩ := entry
      obtain ⟨hlt, -, ho⟩ := ordered_cons.1 ho
      rw [get?]
      rcases List.mem_cons.1 h with heq | h
      · cases heq
        exact if_pos rfl
      · have hne : k ≠ key := by
          rintro rfl
          exact String.lt_irrefl k (hlt _ h)
        rw [if_neg hne]
        exact ih ho h
  · exact mem_of_get?

/-- The entries of an ordered object are all different. -/
theorem Ordered.nodup (ho : o.Ordered) : o.Nodup :=
  (ordered_iff.1 ho).1.imp (S := fun x y => x ≠ y) fun hlt heq =>
    String.lt_irrefl _ (heq ▸ hlt)

/-- **Ordered objects with the same values under all keys are the same.** -/
theorem Ordered.ext (ha : a.Ordered) (hb : b.Ordered) (h : ∀ key, get? key a = get? key b) :
    a = b := by
  have hperm : a.Perm b := (List.perm_ext_iff_of_nodup ha.nodup hb.nodup).2 fun ⟨key, v⟩ => by
    rw [mem_iff_get? ha, mem_iff_get? hb, h key]
  refine hperm.eq_of_pairwise (fun x y _ _ hxy hyx => ?_) (ordered_iff.1 ha).1 (ordered_iff.1 hb).1
  exact absurd hyx (String.lt_asymm hxy)

/-- What is found after a value, if there is one, has been written over what was found before. -/
def overwrite (old : Option Value) : Option Value → Option Value
  | none => old
  | some v => some (overlay old v)

@[simp] theorem overwrite_none (old : Option Value) : overwrite old none = old := rfl

theorem none_overwrite (new : Option Value) : overwrite none new = new := by
  cases new with
  | none => rfl
  | some v => rw [overwrite, overlay_none]

/-- A merge, key by key, without a case for the keys that are missing. -/
theorem get?_merge_eq_overwrite (hb : b.Ordered) (key : String) :
    get? key (merge a b) = overwrite (get? key a) (get? key b) := by
  rw [get?_merge hb]
  cases get? key b <;> rfl

theorem merge_nil_left (ho : o.Ordered) : merge [] o = o := by
  refine (ordered_nil.merge ho).ext ho fun key => ?_
  rw [get?_merge_eq_overwrite ho, get?_nil, none_overwrite]

/-- An object is always merged into some object, into an empty one if there is none to merge it
into. -/
theorem exists_overlay_object {old : Option Value} (hold : ∀ v, old = some v → v.Ordered)
    (ho : o.Ordered) :
    ∃ existing : Object,
      existing.Ordered ∧ overlay old (.object o) = .object (merge existing o) := by
  rcases overlay_object_cases old o with ⟨existing, rfl, heq⟩ | ⟨heq, -⟩
  · exact ⟨existing, hold _ rfl, heq⟩
  · exact ⟨[], ordered_nil, by rw [heq, merge_nil_left ho]⟩

/-! ### Once more -/

/-- **Writing a value once more** changes nothing. -/
theorem overlay_overlay_self {v : Value} (hv : v.Ordered) {old : Option Value}
    (hold : ∀ w, old = some w → w.Ordered) :
    overlay (some (overlay old v)) v = overlay old v := by
  induction hv generalizing old with
  | @object o hkeys hvalues ih =>
    have ho : o.Ordered := .object hkeys hvalues
    obtain ⟨existing, hexisting, heq⟩ := exists_overlay_object hold ho
    rw [heq]
    refine congrArg Value.object (((hexisting.merge ho).merge ho).ext (hexisting.merge ho) ?_)
    intro key
    rw [get?_merge_eq_overwrite ho, get?_merge_eq_overwrite ho]
    cases hget : get? key o with
    | none => rfl
    | some u =>
      exact congrArg some (ih _ (mem_of_get? hget) fun w hw => hexisting.of_get? hw)
  | _ => rfl

/-- **Merging a layer once more** changes nothing. -/
theorem merge_merge_self (ha : a.Ordered) (hb : b.Ordered) :
    merge (merge a b) b = merge a b := by
  have h : overlay (some (overlay (some (.object a)) (.object b))) (.object b) =
      overlay (some (.object a)) (.object b) :=
    overlay_overlay_self hb fun v hv => by
      cases hv
      exact ha
  exact Value.object.inj h

/-! ### Ahead of time -/

/-- **What is harmless** about three values, of which each may be missing: wherever there is an
object in the first and in the last one, and something else in between, the object of the first has
nothing to add to that of the last. -/
def Harmless (a b c : Option Value) : Prop :=
  ∀ (path : List String) (x : Object) (v : Value) (y : Object),
    (a.bind fun w => w.at? path) = some (.object x) → (b.bind fun w => w.at? path) = some v →
    v.type ≠ .object → (c.bind fun w => w.at? path) = some (.object y) → merge x y = y

/-- Only in an object there are objects. -/
theorem exists_object_of_at? {old : Option Value} {path : List String} {x : Object}
    (h : (old.bind fun w => w.at? path) = some (.object x)) : ∃ o, old = some (.object o) := by
  obtain ⟨w, rfl, hw⟩ := Option.bind_eq_some_iff.1 h
  rcases w.eq_object_or_type_ne with ⟨o, rfl⟩ | htype
  · exact ⟨o, rfl⟩
  · cases path with
    | nil =>
      cases hw
      exact absurd rfl htype
    | cons key path =>
      rw [Value.at?_of_type_ne htype] at hw
      cases hw

/-- Three objects are harmless if what they have under each key is. -/
theorem harmless_objects {x y z : Object} :
    Harmless (some (.object x)) (some (.object z)) (some (.object y)) ↔
      ∀ key, Harmless (get? key x) (get? key z) (get? key y) := by
  constructor
  · intro h key path
    exact h (key :: path)
  · intro h path
    cases path with
    | nil =>
      rintro _ _ _ - ⟨⟩ htype -
      exact absurd rfl htype
    | cons key path => exact h key path

/-- A value that is no object lies between two objects. -/
theorem harmless_between {x y : Object} {v : Value} (hv : v.type ≠ .object) :
    Harmless (some (.object x)) (some v) (some (.object y)) ↔ merge x y = y := by
  constructor
  · intro h
    exact h [] x v y rfl rfl hv rfl
  · rintro h path _ _ _ hx hw - hy
    cases path with
    | nil =>
      cases hx
      cases hy
      exact h
    | cons key path =>
      rw [Option.bind_some, Value.at?_of_type_ne hv] at hw
      cases hw

/-- Nothing happens where there is no object in the first value, or none in the last one. -/
theorem harmless_of_left {a b c : Option Value} (h : ∀ o, a ≠ some (.object o)) :
    Harmless a b c := by
  intro path x v y hx _ _ _
  obtain ⟨o, ho⟩ := exists_object_of_at? hx
  exact absurd ho (h o)

theorem harmless_of_right {a b c : Option Value} (h : ∀ o, c ≠ some (.object o)) :
    Harmless a b c := by
  intro path x v y _ _ _ hy
  obtain ⟨o, ho⟩ := exists_object_of_at? hy
  exact absurd ho (h o)

/-- What is no object is replaced. -/
theorem overlay_of_forall_ne {old : Option Value} (h : ∀ o, old ≠ some (.object o)) (v : Value) :
    overlay old v = v := by
  rcases v.eq_object_or_type_ne with ⟨o, rfl⟩ | hv
  · rcases overlay_object_cases old o with ⟨existing, hold, -⟩ | ⟨heq, -⟩
    · exact absurd hold (h existing)
    · exact heq
  · exact overlay_of_type_ne hv old

/-- **Writing a value over what two others have come to** is the same as writing it over the second
one first, exactly if this is harmless. -/
theorem overwrite_assoc_iff {w : Value} (hw : w.Ordered) {old mid : Option Value}
    (hold : ∀ v, old = some v → v.Ordered) (hmid : ∀ v, mid = some v → v.Ordered) :
    overwrite (overwrite old mid) (some w) = overwrite old (overwrite mid (some w)) ↔
      Harmless old mid (some w) := by
  induction hw generalizing old mid with
  | @object y hkeys hvalues ih =>
    have hy : Ordered y := .object hkeys hvalues
    cases mid with
    | none =>
      rw [overwrite_none, none_overwrite]
      exact iff_of_true rfl fun _ _ _ _ _ hv => nomatch hv
    | some v =>
      by_cases hobject : ∃ x, old = some (.object x)
      · obtain ⟨x, rfl⟩ := hobject
        have hx : Ordered x := hold _ rfl
        rcases v.eq_object_or_type_ne with ⟨z, rfl⟩ | hv
        · -- three objects, which are compared key by key
          have hz : Ordered z := hmid _ rfl
          have hkey : ∀ key, get? key (merge (merge x z) y) = get? key (merge x (merge z y)) ↔
              Harmless (get? key x) (get? key z) (get? key y) := by
            intro key
            rw [get?_merge_eq_overwrite hy, get?_merge_eq_overwrite hz,
              get?_merge_eq_overwrite (hz.merge hy), get?_merge_eq_overwrite hy]
            cases hget : get? key y with
            | none => exact iff_of_true rfl (harmless_of_right fun _ ho => nomatch ho)
            | some u =>
              exact ih _ (mem_of_get? hget) (fun _ => Ordered.of_get? hx) fun _ => hz.of_get?
          rw [harmless_objects, ← forall_congr' hkey]
          constructor
          · intro h key
            rw [Value.object.inj (Option.some.inj h)]
          · intro h
            have heq := ((hx.merge hz).merge hy).ext (hx.merge (hz.merge hy)) h
            exact congrArg (fun o => some (Value.object o)) heq
        · -- the value in between is replaced, and has replaced the object before
          have hmid : overlay (some v) (.object y) = .object y := by
            refine overlay_of_forall_ne (fun o ho => hv ?_) _
            cases ho
            rfl
          rw [overwrite, overwrite, overwrite, overwrite, overlay_of_type_ne hv, hmid,
            harmless_between hv]
          constructor
          · intro h
            exact (Value.object.inj (Option.some.inj h)).symm
          · intro h
            exact congrArg (fun o => some (Value.object o)) h.symm
      · -- nothing is merged into the first value
        have hne := not_exists.1 hobject
        refine iff_of_true ?_ (harmless_of_left hne)
        rw [overwrite, overwrite, overwrite, overwrite, overlay_of_forall_ne hne,
          overlay_of_forall_ne hne]
  | _ => exact iff_of_true rfl (harmless_of_right fun _ ho => nomatch ho)

/-- **Three objects may be merged in either order** exactly if, wherever the first and the last one
have an object and the one in between has something else, the object of the first has nothing to add
to that of the last. -/
theorem merge_assoc_iff (ha : a.Ordered) (hb : b.Ordered) (hc : c.Ordered) :
    merge (merge a b) c = merge a (merge b c) ↔
      ∀ path x v y, a.Writes path (.object x) → b.Writes path v → v.type ≠ .object →
        c.Writes path (.object y) → merge x y = y := by
  have hordered : ∀ {o : Object}, o.Ordered → ∀ v, some (Value.object o) = some v → v.Ordered := by
    rintro o ho _ ⟨⟩
    exact ho
  have h := overwrite_assoc_iff hc (hordered ha) (hordered hb)
  refine Iff.trans ⟨fun heq => ?_, fun heq => ?_⟩ h
  · exact congrArg (fun o => some (Value.object o)) heq
  · exact Value.object.inj (Option.some.inj heq)

/-- At a clash, it is only in one of the orders that the first object is still there in the end. -/
example :
    merge (merge [("k", .object [("x", .null)])] [("k", .null)]) [("k", .object [])] =
        [("k", .object [])] ∧
      merge [("k", .object [("x", .null)])] (merge [("k", .null)] [("k", .object [])]) =
        [("k", .object [("x", .null)])] :=
  ⟨rfl, rfl⟩

/-- **Objects without a clash**: wherever the first and the last one have an object, the one in
between has an object as well, if it has anything. -/
def Compatible (a b c : Object) : Prop :=
  ∀ path x v y, a.Writes path (.object x) → b.Writes path v → c.Writes path (.object y) →
    v.type = .object

theorem Compatible.merge_assoc (h : Compatible a b c) (ha : a.Ordered) (hb : b.Ordered)
    (hc : c.Ordered) : merge (merge a b) c = merge a (merge b c) :=
  (merge_assoc_iff ha hb hc).2 fun path x v y hx hv htype hy => absurd (h path x v y hx hv hy) htype

theorem writes_singleton {key k : String} {v w : Value} {path : List String} :
    Writes [(key, v)] (k :: path) w ↔ key = k ∧ v.at? path = some w := by
  rw [Writes, Value.at?, get?, get?]
  split
  · rename_i hk
    exact (and_iff_right hk).symm
  · rename_i hk
    exact iff_of_false (by simp) fun h => hk h.1

end Object

/-! ### Layers -/

/-- The layers in front make up a context, which the others are merged over. -/
theorem assemble_append (before after : List Layer) (invocation : Value) :
    assemble (before ++ after) invocation =
      after.foldl (fun context layer => Object.merge context (layer.entries invocation))
        (assemble before invocation) :=
  List.foldl_append

/-- **Layers may be merged again, and ahead of time.** Merging a layer over a context once more
changes nothing. Merging two layers over a context one after another is the same as merging the
second over the first, and that over the context, unless at some path the context has an object, the
first layer something else, and the second layer an object again. So in any list of layers, one of
them may be repeated, and two neighbours may be replaced by what they are merged to, provided that
there is no clash with what the layers in front have made up. -/
theorem layers_may_be_merged_ahead_of_time :
    (∀ a b : Object, a.Ordered → b.Ordered →
      Object.merge (Object.merge a b) b = Object.merge a b) ∧
    (∀ a b c : Object, a.Ordered → b.Ordered → c.Ordered → Object.Compatible a b c →
      Object.merge (Object.merge a b) c = Object.merge a (Object.merge b c)) ∧
    ∀ (before after : List Layer) (first second : Layer) (invocation : Value),
      (∀ l ∈ before ++ [first, second], (l.entries invocation).Ordered) →
      assemble (before ++ first :: first :: after) invocation =
          assemble (before ++ first :: after) invocation ∧
        (Object.Compatible (assemble before invocation) (first.entries invocation)
            (second.entries invocation) →
          assemble (before ++ first :: second :: after) invocation =
            assemble (before ++ .fixed (Object.merge (first.entries invocation)
              (second.entries invocation)) :: after) invocation) := by
  refine ⟨fun a b ha hb => Object.merge_merge_self ha hb,
    fun a b c ha hb hc h => h.merge_assoc ha hb hc,
    fun before after first second invocation hordered => ?_⟩
  have hbefore : (assemble before invocation).Ordered :=
    assemble_ordered fun l hl => hordered l (List.mem_append_left _ hl)
  have hfirst : (first.entries invocation).Ordered := hordered first (by simp)
  have hsecond : (second.entries invocation).Ordered := hordered second (by simp)
  simp only [assemble_append, List.foldl_cons]
  constructor
  · rw [Object.merge_merge_self hbefore hfirst]
  · intro h
    rw [h.merge_assoc hbefore hfirst hsecond]
    rfl

/-- The last layer puts an object in place of a number, at a key that the context does not have. -/
theorem layers_may_be_merged_ahead_of_time_nested :
    Object.merge (Object.merge [("k", .object [("x", .integer 1)])]
        [("k", .object [("y", .integer 2)])]) [("k", .object [("y", .integer 2)])] =
      [("k", .object [("x", .integer 1), ("y", .integer 2)])] ∧
    Object.merge [("k", .object [("x", .integer 1)])]
        (Object.merge [("k", .object [("y", .integer 2)])] [("k", .object [("y", .object [])])]) =
      [("k", .object [("x", .integer 1), ("y", .object [])])] ∧
    assemble [.fixed [("k", .object [("x", .integer 1)])],
        .fixed [("k", .object [("y", .integer 2)])], .invocation]
        (.object [("k", .object [("y", .object [])])]) =
      assemble [.fixed [("k", .object [("x", .integer 1)])],
        .fixed [("k", .object [("y", .object [])])]]
        (.object [("k", .object [("y", .object [])])]) := by
  have hsingle : ∀ key v, v.Ordered → Object.Ordered [(key, v)] := fun key v hv =>
    Object.ordered_cons.2 ⟨by simp, hv, Object.ordered_nil⟩
  have ha : Object.Ordered [("k", .object [("x", .integer 1)])] :=
    hsingle _ _ (hsingle _ _ (.integer 1))
  have hb : Object.Ordered [("k", .object [("y", .integer 2)])] :=
    hsingle _ _ (hsingle _ _ (.integer 2))
  have hc : Object.Ordered [("k", .object [("y", .object [])])] :=
    hsingle _ _ (hsingle _ _ Object.ordered_nil)
  have hcompatible : Object.Compatible [("k", .object [("x", .integer 1)])]
      [("k", .object [("y", .integer 2)])] [("k", .object [("y", .object [])])] := by
    rintro path x v y hx hv -
    cases path with
    | nil =>
      cases hv
      rfl
    | cons key path =>
      obtain ⟨rfl, hnumber⟩ := Object.writes_singleton.1 hv
      obtain ⟨-, hobject⟩ := Object.writes_singleton.1 hx
      cases path with
      | nil =>
        cases hv
        rfl
      | cons key path =>
        -- where the second object has the number, the first one has nothing
        obtain ⟨rfl, -⟩ := Object.writes_singleton.1 hnumber
        obtain ⟨hkey, -⟩ := Object.writes_singleton.1 hobject
        exact absurd hkey (by decide)
  obtain ⟨hagain, hahead, hlayers⟩ := layers_may_be_merged_ahead_of_time
  refine ⟨(hagain _ _ ha hb).trans rfl, (hahead _ _ _ ha hb hc hcompatible).symm.trans rfl,
    (hlayers [.fixed [("k", .object [("x", .integer 1)])]] []
      (.fixed [("k", .object [("y", .integer 2)])]) .invocation _ ?_).2 hcompatible⟩
  intro l hl
  rcases (by simpa using hl : l = _ ∨ l = _ ∨ l = _) with rfl | rfl | rfl
  · exact ha
  · exact hb
  · exact hc

end Parley
