import Parley.Command
import Parley.Proofs.Json.Reads
import Parley.Proofs.Value.Ordered

/-!
# Printed values are contexts

What a command prints in one of the JSON forms can be given to another command as its context.
If the value is plain (`Parley.Value.Plain`), so that its document says everything about it, and no
more than 127 containers are nested in it, then it is read as the same value again
(`Parley.printed_values_are_read_back`).

The document of an ordered plain value is plain (`Parley.Value.Plain.toJson`), so both printers
write layouts of it, and layouts are read as the document (`Parley.Json.parse?_of_layout`). The
document is turned back to the value (`Parley.Value.Plain.ofJson_toJson`).
-/

namespace Parley

namespace Value

/-- **A plain value**: no floats and no functions, at any depth. -/
inductive Plain : Value → Prop
  | null : Plain .null
  | boolean (b : Bool) : Plain (.boolean b)
  | integer (n : Int64) : Plain (.integer n)
  | string (s : String) : Plain (.string s)
  | array {items : List Value} : (∀ v ∈ items, v.Plain) → Plain (.array items)
  | object {entries : Object} : (∀ entry ∈ entries, entry.2.Plain) → Plain (.object entries)

mutual

/-- How many containers are nested in a value. -/
def depth : Value → Nat
  | null => 0
  | boolean _ => 0
  | integer _ => 0
  | float _ => 0
  | string _ => 0
  | array items => depthItems items + 1
  | object entries => depthEntries entries + 1
  | function _ => 0

/-- How many containers are nested in the items of an array. -/
def depthItems : List Value → Nat
  | [] => 0
  | item :: items => max (depth item) (depthItems items)

/-- How many containers are nested in the entries of an object. -/
def depthEntries : List (String × Value) → Nat
  | [] => 0
  | (_, value) :: entries => max (depth value) (depthEntries entries)

end

/-! ### The document of a value -/

theorem toItems_eq_map (items : List Value) : toItems items = items.map toJson := by
  induction items with
  | nil => rfl
  | cons item items ih => rw [toItems, ih, List.map_cons]

theorem toMembers_eq_map (entries : Object) :
    toMembers entries = entries.map fun entry => (entry.1, entry.2.toJson) := by
  induction entries with
  | nil => rfl
  | cons entry entries ih =>
    obtain ⟨name, v⟩ := entry
    rw [toMembers, ih, List.map_cons]

mutual

/-- Containers are nested in the document as they are in the value. -/
theorem depth_toJson : ∀ v : Value, v.toJson.depth = v.depth
  | null => by rw [toJson, Json.depth, depth]
  | boolean _ => by rw [toJson, Json.depth, depth]
  | integer _ => by rw [toJson, Json.depth, depth]
  | float x => by
    rw [toJson, depth]
    split <;> rw [Json.depth]
  | string _ => by rw [toJson, Json.depth, depth]
  | function _ => by rw [toJson, Json.depth, depth]
  | array items => by rw [toJson, Json.depth, depth, depthItems_toItems items]
  | object entries => by rw [toJson, Json.depth, depth, depthMembers_toMembers entries]

theorem depthItems_toItems : ∀ items : List Value, Json.depthItems (toItems items) = depthItems items
  | [] => by rw [toItems, Json.depthItems, depthItems]
  | item :: items => by
    rw [toItems, Json.depthItems, depthItems, depth_toJson item, depthItems_toItems items]

theorem depthMembers_toMembers : ∀ entries : List (String × Value),
    Json.depthMembers (toMembers entries) = depthEntries entries
  | [] => by rw [toMembers, Json.depthMembers, depthEntries]
  | (_, v) :: entries => by
    rw [toMembers, Json.depthMembers, depthEntries, depth_toJson v, depthMembers_toMembers entries]

end

theorem ofItems_toItems {items : List Value} (h : ∀ v ∈ items, ofJson v.toJson = v) :
    ofItems (toItems items) = items := by
  induction items with
  | nil => rfl
  | cons item items ih =>
    obtain ⟨hitem, hitems⟩ := List.forall_mem_cons.1 h
    rw [toItems, ofItems, hitem, ih hitems]

theorem ofMembers_toMembers {entries : Object}
    (h : ∀ entry ∈ entries, ofJson entry.2.toJson = entry.2) :
    ofMembers (toMembers entries) = entries := by
  induction entries with
  | nil => rfl
  | cons entry entries ih =>
    obtain ⟨name, v⟩ := entry
    obtain ⟨hentry, hentries⟩ := List.forall_mem_cons.1 h
    rw [toMembers, ofMembers, hentry, ih hentries]

/-- **The document of a plain value has this value.** -/
theorem Plain.ofJson_toJson {v : Value} (h : v.Plain) : ofJson v.toJson = v := by
  induction h with
  | null => rfl
  | boolean _ => rfl
  | integer n => rw [toJson, ofJson, ofInt, Whole.ofInt?_toInt]
  | string _ => rfl
  | array _ ih => rw [toJson, ofJson, ofItems_toItems ih]
  | object _ ih => rw [toJson, ofJson, ofMembers_toMembers ih]

/-- **The document of a plain value is plain**, if the value is ordered. -/
theorem Plain.toJson {v : Value} (h : v.Plain) (hordered : v.Ordered) : v.toJson.Plain := by
  induction h with
  | null => exact .null
  | boolean b => exact .bool b
  | integer n => exact .integer (Whole.inRange_toInt n)
  | string s => exact .string s
  | @array items _ ih =>
    cases hordered with
    | array hitems =>
      rw [Value.toJson, toItems_eq_map]
      refine .array (List.forall_mem_map.2 fun item hitem => ?_)
      exact ih item hitem (hitems item hitem)
  | @object entries _ ih =>
    cases hordered with
    | object hkeys hvalues =>
      rw [Value.toJson, toMembers_eq_map]
      refine .object (List.pairwise_map.2 hkeys) (List.forall_mem_map.2 fun entry hentry => ?_)
      exact ih entry hentry (hvalues entry hentry)

end Value

/-- Each layout of a document is read as the value of the document. -/
theorem Command.readContext_of_layout {j : Json} {text : String}
    (h : Json.Layout j text.toList) (hdepth : j.depth ≤ Json.maxDepth) :
    readContext (some text) = .ok (.ofJson j) := by
  -- a document is not blank, and so it is not taken for no document
  have hblank : ¬text.toList.all isBlank = true := by
    obtain ⟨c, ds, htext, hc, -⟩ := Json.Reader.begins_of_layout h
    rw [htext, List.all_cons, hc]
    exact Bool.false_ne_true
  rw [readContext, if_neg hblank, Json.parse?_of_layout h hdepth]

/-- **Printed values are read back.** Take a value without floats and functions, whose objects have
their keys in order, as all objects have, and in which no more than 127 containers are nested. It is
printed as a text which, given as a context, is the same value. This holds for the document without
blanks and for the one in lines. -/
theorem printed_values_are_read_back {v : Value} (hplain : v.Plain) (hordered : v.Ordered)
    (hdepth : v.depth ≤ 127) :
    Command.readContext (some v.toJson.compact) = .ok v ∧
      Command.readContext (some v.toJson.pretty) = .ok v := by
  have hjson : v.toJson.Plain := hplain.toJson hordered
  have hnested : v.toJson.depth ≤ Json.maxDepth := by
    rw [Value.depth_toJson]
    exact hdepth
  have hvalue : Value.ofJson v.toJson = v := hplain.ofJson_toJson
  constructor
  · rw [Command.readContext_of_layout hjson.layout_compact hnested, hvalue]
  · rw [Json.pretty, Command.readContext_of_layout (hjson.layout_prettyAt 0) hnested, hvalue]

/-- An empty name and an empty container, the least whole number, and a text with a quote and a
control character in it. -/
theorem printed_values_are_read_back_nested :
    Command.readContext
        (some "[\x7b\"\":[]\x7d,-9223372036854775808,\"\\\"\\u0001\"]") =
        .ok (.array [.object [("", .array [])], .integer Int64.minValue, .string "\"\x01"]) ∧
      Command.readContext
        (some "[\n  \x7b\n    \"\": []\n  \x7d,\n  -9223372036854775808,\n  \"\\\"\\u0001\"\n]") =
        .ok (.array [.object [("", .array [])], .integer Int64.minValue, .string "\"\x01"]) := by
  have hplain : (Value.array
      [.object [("", .array [])], .integer Int64.minValue, .string "\"\x01"]).Plain := by
    have hobject : (Value.object [("", .array [])]).Plain :=
      .object (List.forall_mem_singleton.2 (.array (fun _ h => nomatch h)))
    refine .array ?_
    simp only [List.forall_mem_cons]
    exact ⟨hobject, .integer _, .string _, fun _ h => nomatch h⟩
  have hordered : (Value.array
      [.object [("", .array [])], .integer Int64.minValue, .string "\"\x01"]).Ordered := by
    have hobject : (Value.object [("", .array [])]).Ordered :=
      .object (List.pairwise_singleton _ _)
        (List.forall_mem_singleton.2 (.array (fun _ h => nomatch h)))
    refine .array ?_
    simp only [List.forall_mem_cons]
    exact ⟨hobject, .integer _, .string _, fun _ h => nomatch h⟩
  obtain ⟨hcompact, hpretty⟩ := printed_values_are_read_back hplain hordered (by decide)
  have hread : ∀ text text' : String, text = text' →
      Command.readContext (some text) = Command.readContext (some text') := by
    rintro text _ rfl
    rfl
  exact ⟨(hread _ _ (by decide +kernel)).trans hcompact,
    (hread _ _ (by decide +kernel)).trans hpretty⟩

end Parley
