import Mathlib.Data.List.Forall2
import Parley.Context
import Parley.Proofs.Value.Functions

/-!
# Paired values

Values that come from two different hosts cannot be the same: the functions inside of them are
not. They can be *paired*, which means that they are the same but for the functions, and that
these are related one by one by a given relation (`Parley.Value.Paired`).

Nothing that the language can ask of values tells paired ones apart: neither their types, nor
their truth, nor what arithmetic makes of them, nor the text that is shown for them
(`Parley.Value.Paired.text_eq`). A comparison asks for the identity of functions, so for
this one the relation has to be one to one (`Parley.Value.Paired.equal_eq`). Objects
and contexts that are put together from paired parts are paired (`Parley.Layer.assemble_paired`).

A value is paired with itself when all its functions are (`Parley.Value.paired_self`). In this
way the relation also serves for statements about one host alone.
-/

namespace Parley

mutual

/-- **Paired values**: they are the same, but for functions, which are related by `R`. -/
inductive Value.Paired (R : Callable → Callable → Prop) : Value → Value → Prop
  | null : Paired R .null .null
  | boolean (b : Bool) : Paired R (.boolean b) (.boolean b)
  | integer (n : Int64) : Paired R (.integer n) (.integer n)
  | float (x : Float) : Paired R (.float x) (.float x)
  | string (s : String) : Paired R (.string s) (.string s)
  | array {items items' : List Value} : List.Forall₂ (Value.Paired R) items items' →
      Paired R (.array items) (.array items')
  | object {entries entries' : List (String × Value)} :
      List.Forall₂ (Value.EntryPaired R) entries entries' →
      Paired R (.object entries) (.object entries')
  | function {f f' : Callable} : R f f' → Paired R (.function f) (.function f')

/-- Paired values under the same key. -/
inductive Value.EntryPaired (R : Callable → Callable → Prop) :
    String × Value → String × Value → Prop
  | mk (key : String) {v v' : Value} : Value.Paired R v v' → EntryPaired R (key, v) (key, v')

end

/-- Paired objects: they have the same keys in the same order, and paired values. -/
abbrev Object.Paired (R : Callable → Callable → Prop) (o o' : Object) : Prop :=
  List.Forall₂ (Value.EntryPaired R) o o'

variable {R : Callable → Callable → Prop}

/-- At each position of related lists there are related items, or none. -/
theorem rel_getElem? {α β : Type} {S : α → β → Prop} {as : List α} {bs : List β}
    (h : List.Forall₂ S as bs) (i : Nat) : Option.Rel S as[i]? bs[i]? := by
  induction h generalizing i with
  | nil => exact .none
  | cons hab _ ih =>
    cases i with
    | zero => exact .some hab
    | succ i =>
      rw [List.getElem?_cons_succ, List.getElem?_cons_succ]
      exact ih i

/-! ### A value and itself -/

namespace Value

mutual

/-- **A value is paired with itself** if all of its functions are. -/
theorem paired_self : ∀ v : Value, (∀ f ∈ v.functions, R f f) → v.Paired R v
  | null, _ => .null
  | boolean b, _ => .boolean b
  | integer n, _ => .integer n
  | float x, _ => .float x
  | string s, _ => .string s
  | array items, h => .array (items_paired_self items h)
  | object entries, h => .object (entries_paired_self entries h)
  | function f, h => .function (h f (List.mem_singleton_self f))

theorem items_paired_self : ∀ items : List Value, (∀ f ∈ itemFunctions items, R f f) →
    List.Forall₂ (Paired R) items items
  | [], _ => .nil
  | item :: items, h => by
    obtain ⟨hitem, hitems⟩ := List.forall_mem_append.1 h
    exact .cons (paired_self item hitem) (items_paired_self items hitems)

theorem entries_paired_self : ∀ entries : List (String × Value),
    (∀ f ∈ entryFunctions entries, R f f) → Object.Paired R entries entries
  | [], _ => .nil
  | (key, v) :: entries, h => by
    obtain ⟨hv, hentries⟩ := List.forall_mem_append.1 h
    exact .cons (.mk key (paired_self v hv)) (entries_paired_self entries hentries)

end

mutual

/-- Where functions are related to themselves only, so are values. -/
theorem eq_of_paired (hR : ∀ {f f' : Callable}, R f f' → f = f') :
    ∀ (v : Value) {v' : Value}, v.Paired R v' → v = v'
  | null, _, .null => rfl
  | boolean _, _, .boolean _ => rfl
  | integer _, _, .integer _ => rfl
  | float _, _, .float _ => rfl
  | string _, _, .string _ => rfl
  | array items, _, .array h => congrArg array (eq_of_items_paired hR items h)
  | object entries, _, .object h => congrArg object (eq_of_entries_paired hR entries h)
  | function _, _, .function h => congrArg function (hR h)

theorem eq_of_items_paired (hR : ∀ {f f' : Callable}, R f f' → f = f') :
    ∀ (items : List Value) {items' : List Value},
      List.Forall₂ (Paired R) items items' → items = items'
  | [], _, .nil => rfl
  | item :: items, _, .cons h hs => by
    rw [eq_of_paired hR item h, eq_of_items_paired hR items hs]

theorem eq_of_entries_paired (hR : ∀ {f f' : Callable}, R f f' → f = f') :
    ∀ (entries : List (String × Value)) {entries' : Object},
      Object.Paired R entries entries' → entries = entries'
  | [], _, .nil => rfl
  | (_, v) :: entries, _, .cons (.mk _ h) hs => by
    rw [eq_of_paired hR v h, eq_of_entries_paired hR entries hs]

end

/-- A value without functions is paired with itself, whatever the relation is. -/
theorem paired_self_of_functions_eq_nil {v : Value} (h : v.functions = []) : v.Paired R v := by
  refine paired_self v ?_
  rw [h]
  exact fun f hf => absurd hf List.not_mem_nil

mutual

/-- The functions in a paired value are related to others. -/
theorem exists_of_mem_functions : ∀ (v : Value) {v' : Value}, v.Paired R v' →
    ∀ f ∈ v.functions, ∃ f', R f f'
  | array items, _, .array h, f, hf => exists_of_mem_itemFunctions items h f hf
  | object entries, _, .object h, f, hf => exists_of_mem_entryFunctions entries h f hf
  | function _, _, .function h, _, hf => ⟨_, List.mem_singleton.1 hf ▸ h⟩

theorem exists_of_mem_itemFunctions : ∀ (items : List Value) {items' : List Value},
    List.Forall₂ (Paired R) items items' → ∀ f ∈ itemFunctions items, ∃ f', R f f'
  | item :: items, _, .cons h hs, f, hf => by
    rcases List.mem_append.1 hf with hf | hf
    · exact exists_of_mem_functions item h f hf
    · exact exists_of_mem_itemFunctions items hs f hf

theorem exists_of_mem_entryFunctions : ∀ (entries : List (String × Value)) {entries' : Object},
    Object.Paired R entries entries' → ∀ f ∈ entryFunctions entries, ∃ f', R f f'
  | (_, v) :: entries, _, .cons (.mk _ h) hs, f, hf => by
    rcases List.mem_append.1 hf with hf | hf
    · exact exists_of_mem_functions v h f hf
    · exact exists_of_mem_entryFunctions entries hs f hf

end

/-! ### What paired values have in common -/

namespace Paired

section

variable {v v' w w' : Value}

theorem type_eq (h : v.Paired R v') : v.type = v'.type := by
  cases h <;> rfl

theorem truthy_eq (h : v.Paired R v') : v.truthy = v'.truthy := by
  cases h <;> rfl

theorem integer?_eq (h : v.Paired R v') : v.integer? = v'.integer? := by
  cases h <;> rfl

theorem string?_eq (h : v.Paired R v') : v.string? = v'.string? := by
  cases h <;> rfl

/-- **Arithmetic** has no use for functions and containers, so it cannot look into them. -/
theorem arithmetic_eq (op : Operator) (h : v.Paired R v') (h' : w.Paired R w') :
    arithmetic op v w = arithmetic op v' w' := by
  cases h <;> cases h' <;> rfl

theorem isMatched_eq (h : v.Paired R v') (h' : w.Paired R w') :
    v.isMatched w = v'.isMatched w' := by
  cases h <;> cases h' <;> rfl

end

mutual

theorem toJson_eq : ∀ (v : Value) {v' : Value}, v.Paired R v' → v.toJson = v'.toJson
  | .null, _, .null => rfl
  | .boolean _, _, .boolean _ => rfl
  | .integer _, _, .integer _ => rfl
  | .float _, _, .float _ => rfl
  | .string _, _, .string _ => rfl
  | .function _, _, .function _ => rfl
  | .array items, _, .array h => by rw [toJson, toJson, toItems_eq items h]
  | .object entries, _, .object h => by rw [toJson, toJson, toMembers_eq entries h]

theorem toItems_eq : ∀ (items : List Value) {items' : List Value},
    List.Forall₂ (Paired R) items items' → toItems items = toItems items'
  | [], _, .nil => rfl
  | item :: items, _, .cons h hs => by rw [toItems, toItems, toJson_eq item h, toItems_eq items hs]

theorem toMembers_eq : ∀ (entries : List (String × Value)) {entries' : Object},
    Object.Paired R entries entries' → toMembers entries = toMembers entries'
  | [], _, .nil => rfl
  | (_, v) :: entries, _, .cons (.mk _ h) hs => by
    rw [toMembers, toMembers, toJson_eq v h, toMembers_eq entries hs]

end

mutual

/-- **Paired values are shown as the same text.** -/
theorem text_eq : ∀ (v : Value) {v' : Value}, v.Paired R v' → v.text = v'.text
  | .null, _, .null => rfl
  | .boolean _, _, .boolean _ => rfl
  | .integer _, _, .integer _ => rfl
  | .float _, _, .float _ => rfl
  | .string _, _, .string _ => rfl
  | .function _, _, .function _ => rfl
  | .array items, _, .array h => by rw [text, text, texts_eq items h]
  | .object entries, _, .object h => by
    rw [text, text, toJson_eq (Value.object entries) (.object h)]

theorem texts_eq : ∀ (items : List Value) {items' : List Value},
    List.Forall₂ (Paired R) items items' → texts items = texts items'
  | [], _, .nil => rfl
  | item :: items, _, .cons h hs => by rw [texts, texts, text_eq item h, texts_eq items hs]

end

mutual

/-- **Paired values compare in the same way**, if no function is related to two others. -/
theorem equal_eq (hR : Relator.BiUnique R) : ∀ (v : Value) {v' w w' : Value},
    v.Paired R v' → w.Paired R w' → equal v w = equal v' w'
  | .array items, _, _, _, .array h, h' => by
    cases h' with
    | array h' => rw [equal, equal, equalItems_eq hR items h h']
    | _ => rfl
  | .object entries, _, _, _, .object h, h' => by
    cases h' with
    | object h' => rw [equal, equal, equalEntries_eq hR entries h h']
    | _ => rfl
  | .function f, _, _, _, .function h, h' => by
    cases h' with
    | function h' =>
      rw [equal, equal, Bool.eq_iff_iff, beq_iff_eq, beq_iff_eq]
      exact Relator.rel_eq hR h h'
    | _ => rfl
  | .null, _, _, _, .null, h' => by cases h' <;> rfl
  | .boolean _, _, _, _, .boolean _, h' => by cases h' <;> rfl
  | .integer _, _, _, _, .integer _, h' => by cases h' <;> rfl
  | .float _, _, _, _, .float _, h' => by cases h' <;> rfl
  | .string _, _, _, _, .string _, h' => by cases h' <;> rfl

theorem equalItems_eq (hR : Relator.BiUnique R) :
    ∀ (items : List Value) {items' others others' : List Value},
      List.Forall₂ (Paired R) items items' → List.Forall₂ (Paired R) others others' →
      equalItems items others = equalItems items' others'
  | [], _, _, _, .nil, .nil => rfl
  | [], _, _, _, .nil, .cons _ _ => rfl
  | _ :: _, _, _, _, .cons _ _, .nil => rfl
  | item :: items, _, _, _, .cons h hs, .cons h' hs' => by
    rw [equalItems, equalItems, equal_eq hR item h h', equalItems_eq hR items hs hs']

theorem equalEntries_eq (hR : Relator.BiUnique R) :
    ∀ (entries : List (String × Value)) {entries' others others' : Object},
      Object.Paired R entries entries' → Object.Paired R others others' →
      equalEntries entries others = equalEntries entries' others'
  | [], _, _, _, .nil, .nil => rfl
  | [], _, _, _, .nil, .cons (.mk _ _) _ => rfl
  | (_, _) :: _, _, _, _, .cons (.mk _ _) _, .nil => rfl
  | (_, v) :: entries, _, _, _, .cons (.mk _ h) hs, .cons (.mk _ h') hs' => by
    rw [equalEntries, equalEntries, equal_eq hR v h h', equalEntries_eq hR entries hs hs']

end

theorem any_equal_eq (hR : Relator.BiUnique R) {items items' : List Value} {v v' : Value}
    (h : List.Forall₂ (Paired R) items items') (hv : v.Paired R v') :
    (items.any fun item => equal item v) = items'.any fun item => equal item v' := by
  induction h with
  | nil => rfl
  | @cons item _ _ _ hitem _ ih => rw [List.any_cons, List.any_cons, equal_eq hR item hitem hv, ih]

theorem isIn_eq (hR : Relator.BiUnique R) {v v' w w' : Value} (h : v.Paired R v')
    (h' : w.Paired R w') :
    v.isIn w = v'.isIn w' := by
  cases h' with
  | array hitems =>
    have hany := any_equal_eq hR hitems h
    cases h <;> exact congrArg (fun b => Except.ok (Value.boolean b)) hany
  | _ => cases h <;> rfl

end Paired

end Value

/-! ### Objects and contexts -/

namespace Object

variable {o o' : Object}

theorem get?_paired (h : o.Paired R o') (key : String) :
    Option.Rel (Value.Paired R) (get? key o) (get? key o') := by
  induction h with
  | nil => exact .none
  | cons hentry _ ih =>
    obtain ⟨k, hv⟩ := hentry
    rw [get?, get?]
    split
    · exact .some hv
    · exact ih

theorem insert_paired (key : String) {v v' : Value} (hv : v.Paired R v') (h : o.Paired R o') :
    (insert key v o).Paired R (insert key v' o') := by
  induction h with
  | nil => exact .cons (.mk key hv) .nil
  | cons hentry hrest ih =>
    obtain ⟨k, hw⟩ := hentry
    rw [insert, insert]
    split
    · exact .cons (.mk key hv) (.cons (.mk k hw) hrest)
    · split
      · exact .cons (.mk key hv) hrest
      · exact .cons (.mk k hw) ih

theorem ofList_paired {entries entries' : List (String × Value)}
    (h : List.Forall₂ (Value.EntryPaired R) entries entries') :
    (ofList entries).Paired R (ofList entries') := by
  have hstep : Relator.LiftFun (Object.Paired R)
      (Relator.LiftFun (Value.EntryPaired R) (Object.Paired R))
      (fun o entry => insert entry.1 entry.2 o) fun o entry => insert entry.1 entry.2 o := by
    rintro o o' ho _ _ ⟨key, hv⟩
    exact insert_paired key hv ho
  exact List.rel_foldl hstep .nil h

mutual

theorem overlay_paired : ∀ (v : Value) {v' : Value} {old old' : Option Value}, v.Paired R v' →
    Option.Rel (Value.Paired R) old old' → (overlay old v).Paired R (overlay old' v')
  | .object nested, _, _, _, .object h, .none => .object h
  | .object nested, _, _, _, .object h, .some hold => by
    cases hold with
    | object hexisting => exact .object (merge_paired nested h hexisting)
    | _ => exact .object h
  | .null, _, _, _, .null, _ => .null
  | .boolean b, _, _, _, .boolean _, _ => .boolean b
  | .integer n, _, _, _, .integer _, _ => .integer n
  | .float x, _, _, _, .float _, _ => .float x
  | .string s, _, _, _, .string _, _ => .string s
  | .array _, _, _, _, .array h, _ => .array h
  | .function _, _, _, _, .function h, _ => .function h

/-- **Paired layers, merged into paired objects,** give paired objects. -/
theorem merge_paired : ∀ (layer : List (String × Value)) {layer' target target' : Object},
    Object.Paired R layer layer' → Object.Paired R target target' →
    (merge target layer).Paired R (merge target' layer')
  | [], _, _, _, .nil, h => h
  | (key, incoming) :: rest, _, _, _, .cons (.mk _ hv) hrest, h => by
    rw [merge, merge]
    refine merge_paired rest hrest (insert_paired key ?_ h)
    exact overlay_paired incoming hv (get?_paired h key)

end

end Object

namespace Layer

/-- **Paired layers**: from paired invocations they make paired entries. -/
inductive Paired (R : Callable → Callable → Prop) : Layer → Layer → Prop
  | fixed {o o' : Object} : o.Paired R o' → Paired R (.fixed o) (.fixed o')
  | invocation : Paired R .invocation .invocation
  | resolver {resolve resolve' : Value → Object} :
      (∀ {v v' : Value}, v.Paired R v' → (resolve v).Paired R (resolve' v')) →
      Paired R (.resolver resolve) (.resolver resolve')

theorem entries_paired {layer layer' : Layer} {invocation invocation' : Value}
    (h : layer.Paired R layer') (hinvocation : invocation.Paired R invocation') :
    (layer.entries invocation).Paired R (layer'.entries invocation') := by
  cases h with
  | fixed h => exact h
  | invocation =>
    cases hinvocation with
    | object h => exact h
    | _ => exact .nil
  | resolver h => exact h hinvocation

theorem assemble_paired {layers layers' : List Layer} {invocation invocation' : Value}
    (h : List.Forall₂ (Paired R) layers layers') (hinvocation : invocation.Paired R invocation') :
    (assemble layers invocation).Paired R (assemble layers' invocation') := by
  have hstep : Relator.LiftFun (Object.Paired R) (Relator.LiftFun (Paired R) (Object.Paired R))
      (fun context layer => Object.merge context (layer.entries invocation))
      fun context layer => Object.merge context (layer.entries invocation') := by
    intro context context' hcontext layer layer' hlayer
    exact Object.merge_paired _ (entries_paired hlayer hinvocation) hcontext
  exact List.rel_foldl hstep .nil h

end Layer

end Parley
