import Parley.Json.Printer
import Parley.Json.Reader

/-!
# Layouts of JSON documents

One document can be written in many ways, since blanks may stand around any of its parts.
`Parley.Json.Layout` says which texts are a document with blanks between its parts, without
saying how these texts are read. Both printers write such texts (`Parley.Json.Plain.layout_compact`
and `Parley.Json.Plain.layout_prettyAt`), provided that the document is plain
(`Parley.Json.Plain`): it has no floats, its whole numbers fit 64 bits and the names of its members
increase. The two differ in the blanks only, and in particular in those around the commas: a new
line behind each of them, or nothing at all. One lemma does for both
(`Parley.Json.row_intercalate`).
-/

namespace Parley

namespace Json

/-! ### Layouts -/

/-- Blanks that may stand between the parts of a document. -/
def Blanks (cs : List Char) : Prop :=
  ∀ c ∈ cs, Reader.isSpace c = true

/-- **The parts of a container**, of which there is at least one: with commas between them, and
blanks around each. `R` says how one part is written. -/
inductive Row {α : Type} (R : α → List Char → Prop) : List α → List Char → Prop
  | single {a : α} {before cs after : List Char} : Blanks before → R a cs → Blanks after →
      Row R [a] (before ++ (cs ++ after))
  | cons {a : α} {as : List α} {before cs after ds : List Char} : Blanks before → R a cs →
      Blanks after → Row R as ds → Row R (a :: as) (before ++ (cs ++ (after ++ ',' :: ds)))

/-- A member: its name as a string, a colon with blanks around it and its value. -/
inductive Member (R : Json → List Char → Prop) : String × Json → List Char → Prop
  | mk (name : String) {j : Json} {before after cs : List Char} : Blanks before → Blanks after →
      R j cs → Member R (name, j) (Quoted.encode name.toList ++ (before ++ ':' :: (after ++ cs)))

/-- `Layout j cs`: **the characters are the document**, with blanks between its parts. Whole numbers
are those of 64 bits, and the names of members increase. -/
inductive Layout : Json → List Char → Prop
  | null : Layout .null ['n', 'u', 'l', 'l']
  | true : Layout (.bool true) ['t', 'r', 'u', 'e']
  | false : Layout (.bool false) ['f', 'a', 'l', 's', 'e']
  | integer {n : Int} : Whole.InRange n → Layout (.integer n) (toString n).toList
  | string (s : String) : Layout (.string s) (Quoted.encode s.toList)
  | emptyArray {blanks : List Char} : Blanks blanks →
      Layout (.array []) ('[' :: (blanks ++ [']']))
  | array {items : List Json} {cs : List Char} : Row Layout items cs →
      Layout (.array items) ('[' :: (cs ++ [']']))
  | emptyObject {blanks : List Char} : Blanks blanks →
      Layout (.object []) ('\x7b' :: (blanks ++ ['\x7d']))
  | object {members : List (String × Json)} {cs : List Char} :
      members.Pairwise (fun a b => a.1 < b.1) → Row (Member Layout) members cs →
      Layout (.object members) ('\x7b' :: (cs ++ ['\x7d']))

/-- **A plain document**: no floats, whole numbers of 64 bits, and members in the order of their
names, at any depth. -/
inductive Plain : Json → Prop
  | null : Plain .null
  | bool (b : Bool) : Plain (.bool b)
  | integer {n : Int} : Whole.InRange n → Plain (.integer n)
  | string (s : String) : Plain (.string s)
  | array {items : List Json} : (∀ item ∈ items, item.Plain) → Plain (.array items)
  | object {members : List (String × Json)} : members.Pairwise (fun a b => a.1 < b.1) →
      (∀ member ∈ members, member.2.Plain) → Plain (.object members)

/-! ### What the printers write -/

theorem blanks_nil : Blanks [] :=
  fun _ h => nomatch h

theorem blanks_newLine (depth : Nat) : Blanks (newLine depth).toList := by
  have hline : (newLine depth).toList = '\n' :: List.replicate (2 * depth) ' ' := by
    simp [newLine]
  rw [hline]
  refine List.forall_mem_cons.2 ⟨rfl, fun c hc => ?_⟩
  rw [List.eq_of_mem_replicate hc]
  rfl

/-- **Parts with a separator between them** are a row, if the separator is a comma and blanks. -/
theorem row_intercalate {α : Type} {R : α → List Char → Prop} {spell : α → String}
    {before nl after : List Char} (hbefore : Blanks before) (hnl : Blanks nl)
    (hafter : Blanks after) {as : List α} (hne : as ≠ []) (h : ∀ a ∈ as, R a (spell a).toList) :
    Row R as (before ++
      (((String.ofList (',' :: nl)).intercalate (as.map spell)).toList ++ after)) := by
  induction as generalizing before with
  | nil => exact absurd rfl hne
  | cons a as ih =>
    obtain ⟨ha, has⟩ := List.forall_mem_cons.1 h
    cases as with
    | nil =>
      rw [List.map_singleton, String.intercalate_singleton]
      exact .single hbefore ha hafter
    | cons b as =>
      have hrow := Row.cons hbefore ha blanks_nil (ih hnl (List.cons_ne_nil b as) has)
      rw [List.map_cons, List.map_cons, String.intercalate_cons_cons, String.toList_append,
        String.toList_append, String.toList_ofList, List.append_assoc, List.append_assoc]
      exact hrow

theorem compactItems_eq (items : List Json) : compactItems items = items.map compact := by
  induction items with
  | nil => rfl
  | cons item items ih => rw [compactItems, ih, List.map_cons]

theorem compactMembers_eq (members : List (String × Json)) :
    compactMembers members = members.map fun m => quote m.1 ++ ":" ++ m.2.compact := by
  induction members with
  | nil => rfl
  | cons member members ih =>
    obtain ⟨name, j⟩ := member
    rw [compactMembers, ih, List.map_cons]

theorem prettyItems_eq (depth : Nat) (items : List Json) :
    prettyItems depth items = items.map (prettyAt depth) := by
  induction items with
  | nil => rfl
  | cons item items ih => rw [prettyItems, ih, List.map_cons]

theorem prettyMembers_eq (depth : Nat) (members : List (String × Json)) :
    prettyMembers depth members = members.map fun m => quote m.1 ++ ": " ++ m.2.prettyAt depth := by
  induction members with
  | nil => rfl
  | cons member members ih =>
    obtain ⟨name, j⟩ := member
    rw [prettyMembers, ih, List.map_cons]

theorem toList_quote (s : String) : (quote s).toList = Quoted.encode s.toList := by
  rw [quote, String.toList_ofList]

/-- **A plain document without blanks** is one of its layouts. -/
theorem Plain.layout_compact {j : Json} (h : j.Plain) : Layout j j.compact.toList := by
  induction h with
  | null => exact .null
  | bool b => cases b with
    | false => exact .false
    | true => exact .true
  | integer hn => exact .integer hn
  | string s =>
    rw [compact, toList_quote]
    exact .string s
  | @array items _ ih =>
    rw [compact, compactItems_eq, String.toList_append, String.toList_append]
    by_cases hne : items = []
    · subst hne
      exact .emptyArray blanks_nil
    · have hrow := row_intercalate blanks_nil blanks_nil blanks_nil hne ih
      rw [List.nil_append, List.append_nil] at hrow
      exact .array hrow
  | @object members hnames _ ih =>
    rw [compact, compactMembers_eq, String.toList_append, String.toList_append]
    by_cases hne : members = []
    · subst hne
      exact .emptyObject blanks_nil
    · have hmember : ∀ m ∈ members,
          Member Layout m (quote m.1 ++ ":" ++ m.2.compact).toList := by
        intro m hm
        rw [String.toList_append, String.toList_append, toList_quote, List.append_assoc]
        exact .mk m.1 blanks_nil blanks_nil (ih m hm)
      have hrow := row_intercalate blanks_nil blanks_nil blanks_nil hne hmember
      rw [List.nil_append, List.append_nil] at hrow
      exact .object hnames hrow

/-- The lines of a block that has some. -/
theorem toList_block {α : Type} (depth : Nat) (opening : String) {as : List α} (hne : as ≠ [])
    (spell : α → String) (closing : String) :
    (block depth opening (as.map spell) closing).toList =
      opening.toList ++ (((newLine (depth + 1)).toList ++
        (((String.ofList (',' :: (newLine (depth + 1)).toList)).intercalate
          (as.map spell)).toList ++ (newLine depth).toList)) ++ closing.toList) := by
  have hparts : ¬(as.map spell).isEmpty := by simpa using hne
  have hcomma : "," ++ newLine (depth + 1) =
      String.ofList (',' :: (newLine (depth + 1)).toList) := by
    simp
  rw [block, if_neg hparts, hcomma]
  simp only [String.toList_append, List.append_assoc]

/-- **A plain document in lines** is one of its layouts, however far in it stands. -/
theorem Plain.layout_prettyAt {j : Json} (h : j.Plain) (depth : Nat) :
    Layout j (j.prettyAt depth).toList := by
  induction h generalizing depth with
  | null =>
    rw [prettyAt]
    exact .null
  | bool b =>
    rw [prettyAt]
    cases b with
    | false => exact .false
    | true => exact .true
  | integer hn =>
    rw [prettyAt]
    exact .integer hn
  | string s =>
    rw [prettyAt, toList_quote]
    exact .string s
  | @array items _ ih =>
    rw [prettyAt, prettyItems_eq]
    by_cases hne : items = []
    · subst hne
      rw [List.map_nil, block, if_pos List.isEmpty_nil, String.toList_append]
      exact .emptyArray blanks_nil
    · rw [toList_block depth "[" hne]
      exact .array (row_intercalate (blanks_newLine _) (blanks_newLine _) (blanks_newLine _) hne
        fun item hitem => ih item hitem (depth + 1))
  | @object members hnames _ ih =>
    rw [prettyAt, prettyMembers_eq]
    by_cases hne : members = []
    · subst hne
      rw [List.map_nil, block, if_pos List.isEmpty_nil, String.toList_append]
      exact .emptyObject blanks_nil
    · have hblank : Blanks [' '] := by
        simp only [Blanks, List.forall_mem_singleton]
        rfl
      have hmember : ∀ m ∈ members,
          Member Layout m (quote m.1 ++ ": " ++ m.2.prettyAt (depth + 1)).toList := by
        intro m hm
        rw [String.toList_append, String.toList_append, toList_quote, List.append_assoc]
        exact .mk m.1 blanks_nil hblank (ih m hm (depth + 1))
      rw [toList_block depth "\x7b" hne]
      exact .object hnames (row_intercalate (blanks_newLine _) (blanks_newLine _)
        (blanks_newLine _) hne hmember)

end Json

end Parley
