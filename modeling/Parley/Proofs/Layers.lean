import Parley.Context
import Parley.Proofs.Value.Ordered

/-!
# The last layer that speaks decides

A context is looked at through *paths*: lists of keys that are followed through nested objects
(`Parley.Value.at?`). With respect to a path an object is in one of three cases. It *writes*
the path when the path leads to a value; it *blocks* it when on the way there is a value that
is no object; and it is *silent* when a key is missing before either happens.

`Parley.Value.verdict` computes which of these is the case, by recursion on the path, and
`Parley.Verdict.Settles` says what each of them makes of what was found at the path before. The
one induction is `Parley.settles_overlay`, over the path and for all values at once. Merging a
layer into a context is a case of it, so that a silent layer changes nothing at the path and
any other layer settles it, whatever the layers before it have said.
-/

namespace Parley

namespace Value

/-- The value that a path leads to, if all the keys on the way are there. -/
def at? (v : Value) : List String → Option Value
  | [] => some v
  | key :: path =>
    match v with
    | object entries => (Object.get? key entries).bind fun w => w.at? path
    | _ => none

end Value

namespace Object

/-- The object writes a path: the path leads to a value. -/
def Writes (o : Object) (path : List String) (v : Value) : Prop :=
  (Value.object o).at? path = some v

/-- The object blocks a path: some proper part of it, from the front and not empty, leads to a
value that is no object. -/
def Blocks (o : Object) (path : List String) : Prop :=
  ∃ front v, front ≠ [] ∧ front <+: path ∧ front ≠ path ∧ o.Writes front v ∧ v.type ≠ .object

/-- The object has nothing to say about a path. -/
def Silent (o : Object) (path : List String) : Prop :=
  (∀ v, ¬o.Writes path v) ∧ ¬o.Blocks path

end Object

/-! ### Verdicts -/

/-- What a value has to say about a path. -/
inductive Verdict where
  | silent
  | blocked
  | written (v : Value)

/-- The case that a value is in with respect to a path. -/
def Value.verdict (v : Value) : List String → Verdict
  | [] => .written v
  | key :: path =>
    match v with
    | object entries =>
      match Object.get? key entries with
      | some w => w.verdict path
      | none => .silent
    | _ => .blocked

/-- What a verdict makes of the value that was found before. Where an object is written, there
is an object afterwards, but not necessarily the same. -/
def Verdict.Settles : Verdict → Option Value → Option Value → Prop
  | silent, before, after => after = before
  | blocked, _, after => after = none
  | written v, _, after =>
    (v.type ≠ .object ∧ after = some v) ∨ (v.type = .object ∧ ∃ o, after = some (.object o))

namespace Value

theorem eq_object_or_type_ne (v : Value) : (∃ o, v = .object o) ∨ v.type ≠ .object := by
  cases v
  case object o => exact .inl ⟨o, rfl⟩
  all_goals exact .inr (by simp [type])

theorem at?_of_type_ne {v : Value} (hv : v.type ≠ .object) (key : String) (path : List String) :
    v.at? (key :: path) = none := by
  cases v
  case object => exact absurd rfl hv
  all_goals rfl

theorem verdict_of_type_ne {v : Value} (hv : v.type ≠ .object) (key : String)
    (path : List String) : v.verdict (key :: path) = .blocked := by
  cases v
  case object => exact absurd rfl hv
  all_goals rfl

/-- Behind a value that a path leads to, the case is that of the value. -/
theorem verdict_append {v w : Value} {front : List String} (h : v.at? front = some w)
    (path : List String) : v.verdict (front ++ path) = w.verdict path := by
  induction front generalizing v with
  | nil =>
    cases h
    rfl
  | cons key front ih =>
    rcases v.eq_object_or_type_ne with ⟨o, rfl⟩ | hv
    · obtain ⟨u, hu, hw⟩ := Option.bind_eq_some_iff.1 h
      simpa [verdict, hu] using ih hw
    · rw [at?_of_type_ne hv] at h
      cases h

theorem verdict_eq_written_iff {v w : Value} {path : List String} :
    v.verdict path = .written w ↔ v.at? path = some w := by
  induction path generalizing v with
  | nil => simp [verdict, at?]
  | cons key path ih =>
    rcases v.eq_object_or_type_ne with ⟨o, rfl⟩ | hv
    · cases hget : Object.get? key o with
      | none => simp [verdict, at?, hget]
      | some u => simpa [verdict, at?, hget] using ih
    · simp [verdict_of_type_ne hv, at?_of_type_ne hv]

/-- A value blocks a path exactly when a proper part of the path leads to a value that is no
object. -/
theorem verdict_eq_blocked_iff {v : Value} {path : List String} :
    v.verdict path = .blocked ↔
      ∃ front key rest w, path = front ++ key :: rest ∧ v.at? front = some w ∧
        w.type ≠ .object := by
  constructor
  · intro h
    induction path generalizing v with
    | nil => cases h
    | cons key path ih =>
      rcases v.eq_object_or_type_ne with ⟨o, rfl⟩ | hv
      · cases hget : Object.get? key o with
        | none => simp [verdict, hget] at h
        | some u =>
          obtain ⟨front, key', rest, w, rfl, hw, htype⟩ := ih (by simpa [verdict, hget] using h)
          exact ⟨key :: front, key', rest, w, rfl, by simpa [at?, hget] using hw, htype⟩
      · exact ⟨[], key, path, v, rfl, rfl, hv⟩
  · rintro ⟨front, key, rest, w, rfl, hw, htype⟩
    rw [verdict_append hw, verdict_of_type_ne htype]

end Value

namespace Object

variable {o : Object} {path : List String}

theorem verdict_of_writes {v : Value} (h : o.Writes path v) :
    (Value.object o).verdict path = .written v :=
  Value.verdict_eq_written_iff.2 h

theorem verdict_of_blocks (h : o.Blocks path) : (Value.object o).verdict path = .blocked := by
  obtain ⟨front, v, -, ⟨rest, rfl⟩, hne, hv, htype⟩ := h
  cases rest with
  | nil => exact absurd (List.append_nil front).symm hne
  | cons key rest => exact Value.verdict_eq_blocked_iff.2 ⟨front, key, rest, v, rfl, hv, htype⟩

theorem silent_iff : o.Silent path ↔ (Value.object o).verdict path = .silent := by
  constructor
  · intro h
    cases hv : (Value.object o).verdict path with
    | silent => rfl
    | written v => exact absurd (Value.verdict_eq_written_iff.1 hv) (h.1 v)
    | blocked =>
      obtain ⟨front, key, rest, w, rfl, hw, htype⟩ := Value.verdict_eq_blocked_iff.1 hv
      refine absurd ⟨front, w, ?_, List.prefix_append _ _, ?_, hw, htype⟩ h.2
      · -- the empty part leads to the object itself
        rintro rfl
        cases hw
        exact htype rfl
      · intro hc
        simpa using congrArg List.length hc
  · intro h
    refine ⟨fun v hv => ?_, fun hb => ?_⟩
    · rw [verdict_of_writes hv] at h
      cases h
    · rw [verdict_of_blocks hb] at h
      cases h

end Object

/-! ### One value over another -/

namespace Value

/-- A path may be followed key by key. -/
theorem at?_cons (v : Value) (key : String) (path : List String) :
    v.at? (key :: path) = (v.at? [key]).bind fun w => w.at? path := by
  rcases v.eq_object_or_type_ne with ⟨o, rfl⟩ | hv
  · cases hget : Object.get? key o with
    | none => simp [at?, hget]
    | some u => simp [at?, hget]
  · simp [at?_of_type_ne hv]

end Value

namespace Object

theorem overlay_of_type_ne {v : Value} (hv : v.type ≠ .object) (old : Option Value) :
    overlay old v = v := by
  cases v
  case object => exact absurd rfl hv
  all_goals rfl

theorem overlay_none (v : Value) : overlay none v = v := by
  cases v <;> rfl

/-- An object is merged into an object, and otherwise it stands as it is, where nothing was to
be found below what was there before. -/
theorem overlay_object_cases (old : Option Value) (o : Object) :
    (∃ existing, old = some (.object existing) ∧
      overlay old (.object o) = .object (Object.merge existing o)) ∨
    (overlay old (.object o) = .object o ∧
      ∀ key path, (old.bind fun w => w.at? (key :: path)) = none) := by
  cases old with
  | none => exact .inr ⟨overlay_none _, fun _ _ => rfl⟩
  | some w =>
    rcases w.eq_object_or_type_ne with ⟨existing, rfl⟩ | hw
    · exact .inl ⟨existing, rfl, rfl⟩
    · refine .inr ⟨?_, fun key path => Value.at?_of_type_ne hw key path⟩
      cases w
      case object => exact absurd rfl hw
      all_goals rfl

/-- What is found in an object that has been written over something else. -/
theorem at?_overlay_object {o : Object} (ho : o.Ordered) (old : Option Value) (key : String)
    (path : List String) :
    (overlay old (.object o)).at? (key :: path) =
      match get? key o with
      | none => old.bind fun w => w.at? (key :: path)
      | some u => (overlay (old.bind fun w => w.at? [key]) u).at? path := by
  rcases overlay_object_cases old o with ⟨existing, rfl, heq⟩ | ⟨heq, hnone⟩
  · rw [heq, Value.at?, get?_merge ho]
    cases get? key o with
    | none => rfl
    | some u => simp [Value.at?]
  · rw [heq, Value.at?, hnone, hnone]
    cases get? key o with
    | none => rfl
    | some u => simp [overlay_none]

end Object

/-- **Writing one value over another settles every path.** -/
theorem settles_overlay {v : Value} (hv : v.Ordered) (old : Option Value) (path : List String) :
    (v.verdict path).Settles (old.bind fun w => w.at? path) ((Object.overlay old v).at? path) := by
  induction path generalizing v old with
  | nil =>
    rcases v.eq_object_or_type_ne with ⟨o, rfl⟩ | htype
    · rcases Object.overlay_object_cases old o with ⟨_, -, heq⟩ | ⟨heq, -⟩
      · rw [heq]
        exact .inr ⟨rfl, _, rfl⟩
      · rw [heq]
        exact .inr ⟨rfl, _, rfl⟩
    · rw [Object.overlay_of_type_ne htype]
      exact .inl ⟨htype, rfl⟩
  | cons key path ih =>
    rcases v.eq_object_or_type_ne with ⟨o, rfl⟩ | htype
    · -- with the key gone, the value below it is written over what was there before
      rw [Object.at?_overlay_object hv, Value.verdict]
      cases hget : Object.get? key o with
      | none => rfl
      | some u =>
        have hu := ih (Object.Ordered.of_get? hv hget) (old.bind fun w => w.at? [key])
        simp only [Option.bind_assoc, ← Value.at?_cons] at hu
        exact hu
    · rw [Object.overlay_of_type_ne htype, Value.verdict_of_type_ne htype]
      exact Value.at?_of_type_ne htype key path

/-! ### Layers -/

/-- The last of some layers is merged over all the others. -/
theorem assemble_concat (layers : List Layer) (last : Layer) (invocation : Value) :
    assemble (layers ++ [last]) invocation =
      Object.merge (assemble layers invocation) (last.entries invocation) := by
  rw [assemble, List.foldl_append]
  rfl

/-- **One more layer settles every path.** -/
theorem settles_concat (layers : List Layer) (last : Layer) {invocation : Value}
    (hlast : (last.entries invocation).Ordered) (path : List String) :
    ((Value.object (last.entries invocation)).verdict path).Settles
      ((Value.object (assemble layers invocation)).at? path)
      ((Value.object (assemble (layers ++ [last]) invocation)).at? path) := by
  rw [assemble_concat]
  exact settles_overlay hlast (some (.object (assemble layers invocation))) path

/-- Silent layers at the end change nothing. -/
theorem at?_assemble_append (layers : List Layer) {invocation : Value} {path : List String}
    (after : List Layer) (hord : ∀ l ∈ after, (l.entries invocation).Ordered)
    (hsilent : ∀ l ∈ after, (l.entries invocation).Silent path) :
    (Value.object (assemble (layers ++ after) invocation)).at? path =
      (Value.object (assemble layers invocation)).at? path := by
  induction after generalizing layers with
  | nil => rw [List.append_nil]
  | cons l after ih =>
    obtain ⟨hl, hord⟩ := List.forall_mem_cons.1 hord
    obtain ⟨hlsilent, hsilent⟩ := List.forall_mem_cons.1 hsilent
    have hsettles := settles_concat layers l hl path
    rw [Object.silent_iff.1 hlsilent] at hsettles
    rw [List.append_cons, ih (layers ++ [l]) hord hsilent]
    exact hsettles

/-- What is assembled from objects is an object. -/
theorem assemble_ordered {layers : List Layer} {invocation : Value}
    (hord : ∀ l ∈ layers, (l.entries invocation).Ordered) :
    (assemble layers invocation).Ordered := by
  have hfold : ∀ target : Object, target.Ordered →
      (layers.foldl (fun o l => Object.merge o (l.entries invocation)) target).Ordered := by
    -- for every object to start from, since that is what changes from layer to layer
    induction layers with
    | nil => exact fun target ht => ht
    | cons l layers ih =>
      obtain ⟨hl, hord⟩ := List.forall_mem_cons.1 hord
      exact fun target ht => ih hord _ (ht.merge hl)
  exact hfold [] Object.ordered_nil

/-- **The last layer that speaks about a path decides what the context holds there.** Where no
layer writes or blocks the path, or the last one that does blocks it, there is nothing; where
the last one writes a value that is no object, there is exactly this value; and where it writes
an object, there is an object. The context is again an object with increasing keys. -/
theorem last_layer_that_speaks_decides {layers : List Layer} {invocation : Value}
    (hord : ∀ l ∈ layers, (l.entries invocation).Ordered) {path : List String}
    (hpath : path ≠ []) :
    (assemble layers invocation).Ordered ∧
    ((∀ l ∈ layers, (l.entries invocation).Silent path) →
      (Value.object (assemble layers invocation)).at? path = none) ∧
    ∀ (before : List Layer) (last : Layer) (after : List Layer),
      layers = before ++ last :: after → (∀ l ∈ after, (l.entries invocation).Silent path) →
      ((last.entries invocation).Blocks path →
        (Value.object (assemble layers invocation)).at? path = none) ∧
      (∀ v, (last.entries invocation).Writes path v → v.type ≠ .object →
        (Value.object (assemble layers invocation)).at? path = some v) ∧
      ∀ v, (last.entries invocation).Writes path v → v.type = .object →
        ∃ o, (Value.object (assemble layers invocation)).at? path = some (.object o) := by
  refine ⟨assemble_ordered hord, fun hsilent => ?_, ?_⟩
  · obtain ⟨key, path, rfl⟩ := List.exists_cons_of_ne_nil hpath
    have heq := at?_assemble_append [] layers hord hsilent
    rw [List.nil_append] at heq
    exact heq
  · rintro before last after rfl hsilent
    have hlast := hord last (by simp)
    have hafter : ∀ l ∈ after, (l.entries invocation).Ordered := fun l hl => hord l (by simp [hl])
    -- what the layers behind the last one find is what this one has settled
    have hsettles := settles_concat before last hlast path
    rw [← at?_assemble_append (before ++ [last]) after hafter hsilent, ← List.append_cons]
      at hsettles
    refine ⟨fun hb => ?_, fun v hv htype => ?_, fun v hv htype => ?_⟩
    · rwa [Object.verdict_of_blocks hb] at hsettles
    · rw [Object.verdict_of_writes hv] at hsettles
      exact hsettles.elim And.right fun h => absurd h.1 htype
    · rw [Object.verdict_of_writes hv] at hsettles
      exact hsettles.elim (fun h => absurd htype h.1) And.right

/-- An object, a number and another object under one key: what the first object had there is
gone for good. -/
theorem last_layer_that_speaks_decides_clash :
    (Value.object (assemble
      [.fixed [("k", .object [("x", .integer 1)])], .invocation,
        .resolver fun _ => [("k", .object [("y", .integer 2)])]]
      (.object [("k", .integer 5)]))).at? ["k", "x"] = none := by
  refine ((last_layer_that_speaks_decides ?_ ?_).2.2
    [.fixed [("k", .object [("x", .integer 1)])]] .invocation
    [.resolver fun _ => [("k", .object [("y", .integer 2)])]] rfl ?_).1 ?_
  · -- each layer's entries have a single key, at any depth
    have hsingle : ∀ key v, v.Ordered → Object.Ordered [(key, v)] := fun key v hv =>
      Object.ordered_cons.2 ⟨by simp, hv, Object.ordered_nil⟩
    intro l hl
    rcases (by simpa using hl : l = _ ∨ l = _ ∨ l = _) with rfl | rfl | rfl
    · exact hsingle _ _ (hsingle _ _ (.integer 1))
    · exact hsingle _ _ (.integer 5)
    · exact hsingle _ _ (hsingle _ _ (.integer 2))
  · exact List.cons_ne_nil _ _
  · refine List.forall_mem_cons.2 ⟨Object.silent_iff.2 ?_, by simp⟩
    simp [Layer.entries, Value.verdict, Object.get?]
  · exact ⟨["k"], .integer 5, by simp, ⟨["x"], rfl⟩, by simp, rfl, by simp [Value.type]⟩

end Parley
