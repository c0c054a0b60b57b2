import Parley.Proofs.Json.Layout
import Parley.Proofs.Token.Cut

/-!
# Layouts are read

Whatever blanks stand between the parts of a document, it is read as this document, and what
follows it is left (`Parley.Json.Reader.reads`). The induction is on how deep containers may be
nested. For the containers of one more level it is enough to know that their parts are read, so
the rows of items and of members come first, on that hypothesis (`items_of_row`, `members_of_row`).

The steps of the reader are counted. A document takes fewer than it has characters and one, since
each further step has at least a bracket or a comma of its own.
-/

namespace Parley

namespace Json

mutual

/-- How many containers are nested in a document. -/
def depth : Json → Nat
  | null => 0
  | bool _ => 0
  | integer _ => 0
  | float _ => 0
  | string _ => 0
  | array items => depthItems items + 1
  | object members => depthMembers members + 1

/-- How many containers are nested in the items of an array. -/
def depthItems : List Json → Nat
  | [] => 0
  | item :: items => max (depth item) (depthItems items)

/-- How many containers are nested in the members of an object. -/
def depthMembers : List (String × Json) → Nat
  | [] => 0
  | (_, value) :: members => max (depth value) (depthMembers members)

end

theorem depth_le_depthItems {item : Json} {items : List Json} (h : item ∈ items) :
    item.depth ≤ depthItems items := by
  induction items with
  | nil => cases h
  | cons first items ih =>
    rw [depthItems]
    rcases List.mem_cons.1 h with rfl | h
    · exact Nat.le_max_left _ _
    · exact Nat.le_trans (ih h) (Nat.le_max_right _ _)

theorem depth_le_depthMembers {member : String × Json} {members : List (String × Json)}
    (h : member ∈ members) : member.2.depth ≤ depthMembers members := by
  induction members with
  | nil => cases h
  | cons first members ih =>
    obtain ⟨name, value⟩ := first
    rw [depthMembers]
    rcases List.mem_cons.1 h with rfl | h
    · exact Nat.le_max_left _ _
    · exact Nat.le_trans (ih h) (Nat.le_max_right _ _)

/-- A member whose name comes last in the order is put behind the others. -/
theorem insertMember_of_lt {name : String} {value : Json} {members : List (String × Json)}
    (h : ∀ member ∈ members, member.1 < name) :
    insertMember name value members = members ++ [(name, value)] := by
  induction members with
  | nil => rfl
  | cons first members ih =>
    obtain ⟨k, v⟩ := first
    obtain ⟨hk, h⟩ := List.forall_mem_cons.1 h
    have hnot : ¬name < k := fun hlt => String.lt_irrefl name (String.lt_trans hlt hk)
    have hne : ¬k = name := fun heq => String.lt_irrefl name (heq ▸ hk)
    rw [insertMember, if_neg hnot, if_neg hne, ih h, List.cons_append]

/-- The members of an object are put behind one another. -/
theorem insertMember_of_pairwise {m : String × Json} {read ms : List (String × Json)}
    (h : (read ++ m :: ms).Pairwise (fun a b => a.1 < b.1)) :
    insertMember m.1 m.2 read = read ++ [m] :=
  insertMember_of_lt fun a ha => (List.pairwise_append.1 h).2.2 a ha m List.mem_cons_self

namespace Reader

/-! ### Blanks -/

theorem isSpace_iff {c : Char} : isSpace c = true ↔ c = ' ' ∨ c = '\n' ∨ c = '\t' ∨ c = '\r' := by
  simp [isSpace, or_assoc]

theorem skip_append {before : List Char} (h : Blanks before) (cs : List Char) :
    skip (before ++ cs) = skip cs :=
  List.dropWhile_append_of_pos h

theorem skip_cons {c : Char} (h : isSpace c = false) (cs : List Char) : skip (c :: cs) = c :: cs :=
  List.dropWhile_cons_of_neg (by simp [h])

theorem skip_skip (cs : List Char) : skip (skip cs) = skip cs := by
  have hfirst : ∀ d ∈ (skip cs).head?, isSpace d = false :=
    fun _ => Lexer.of_mem_head?_dropWhile isSpace
  exact Lexer.dropWhile_append (fun _ h => absurd h List.not_mem_nil) hfirst

theorem value_skip (depth fuel : Nat) (cs : List Char) :
    value depth fuel (skip cs) = value depth fuel cs := by
  cases fuel with
  | zero => rw [value, value]
  | succ fuel => rw [value, value, skip_skip]

theorem items_skip (depth fuel : Nat) (cs : List Char) :
    items depth fuel (skip cs) = items depth fuel cs := by
  cases fuel with
  | zero => rw [items, items]
  | succ fuel => rw [items, items, value_skip]

theorem members_skip (depth fuel : Nat) (read : List (String × Json)) (cs : List Char) :
    members depth fuel read (skip cs) = members depth fuel read cs := by
  cases fuel with
  | zero => rw [members, members]
  | succ fuel => rw [members, members, skip_skip]

/-! ### Numbers -/

/-- What comes here does not go on with a number. -/
def Stops (rest : List Char) : Prop :=
  ∀ c ∈ rest.head?, c.isDigit = false ∧ c ≠ '.' ∧ c ≠ 'e' ∧ c ≠ 'E'

theorem stops_cons {c : Char} (h : c.isDigit = false ∧ c ≠ '.' ∧ c ≠ 'e' ∧ c ≠ 'E')
    (rest : List Char) : Stops (c :: rest) := by
  rintro _ ⟨⟩
  exact h

theorem Stops.append {after rest : List Char} (hafter : Blanks after) (h : Stops rest) :
    Stops (after ++ rest) := by
  cases after with
  | nil => exact h
  | cons c after =>
    have hc : isSpace c = true := hafter c List.mem_cons_self
    rcases isSpace_iff.1 hc with rfl | rfl | rfl | rfl <;> exact stops_cons (by decide) _

/-- Digits are taken as long as the number fits. -/
theorem absorb_of_lt {n : Nat} {digits : List Char} (h : Numeral.ofDigits n digits < wordLimit) :
    absorb n digits = (Numeral.ofDigits n digits, digits.length, 0) := by
  induction digits generalizing n with
  | nil => rfl
  | cons c digits ih =>
    have hstep : 10 * n + Numeral.digitValue c < wordLimit :=
      Nat.lt_of_le_of_lt (Numeral.le_ofDigits _ digits) h
    rw [absorb, if_pos hstep, ih h]
    rfl

/-- **The digits of a number that fits are read as this number.** -/
theorem number_toDigits (negative : Bool) {n : Nat} (hn : n < wordLimit) {rest : List Char}
    (hrest : Stops rest) :
    number negative (Nat.toDigits 10 n ++ rest) = some (integer negative n, rest) := by
  have hdigits : ∀ c ∈ Nat.toDigits 10 n, c.isDigit = true :=
    fun c hc => Nat.isDigit_of_mem_toDigits (by decide) (by decide) hc
  have hend : ∀ c ∈ rest.head?, c.isDigit = false := fun c hc => (hrest c hc).1
  have hvalue : Numeral.ofDigits 0 (Nat.toDigits 10 n) = n := Numeral.ofDigits_toDigits 0 n
  have habsorb := absorb_of_lt (n := 0) (hvalue.symm ▸ hn)
  -- only the number zero begins with a zero
  have hzero : ((Nat.toDigits 10 n).isEmpty ||
      (Nat.toDigits 10 n).head? == some '0' && (Nat.toDigits 10 n).length != 1) = false := by
    rcases Nat.eq_zero_or_pos n with rfl | hpos
    · rfl
    · have hne : (Nat.toDigits 10 n).isEmpty = false := by
        simp [Nat.toDigits_ne_nil]
      have hhead : ((Nat.toDigits 10 n).head? == some '0') = false := by
        simp [Numeral.head?_toDigits hpos]
      rw [hne, hhead]
      rfl
  unfold number
  rw [Lexer.takeWhile_append hdigits hend, Lexer.dropWhile_append hdigits hend]
  dsimp only
  rw [hzero, habsorb, hvalue]
  cases rest with
  | nil => rfl
  | cons c rest =>
    obtain ⟨-, hpoint, hlower, hupper⟩ := hrest c rfl
    simp [hlower, hupper]

theorem value_of_isDigit {c : Char} (hc : c.isDigit = true) (depth fuel : Nat)
    (cs : List Char) : value depth (fuel + 1) (c :: cs) = number false (c :: cs) := by
  -- none of the characters that begin another document is a digit
  have hne : ∀ d : Char, d.isDigit = false → c ≠ d := by
    rintro _ hd rfl
    rw [hc] at hd
    cases hd
  have hspace : isSpace c = false := by
    simp [isSpace, hne ' ' rfl, hne '\n' rfl, hne '\t' rfl, hne '\r' rfl]
  rw [value, skip_cons hspace]
  simp [hne '\"' rfl, hne '[' rfl, hne '\x7b' rfl, hne 'n' rfl, hne 't' rfl, hne 'f' rfl,
    hne '-' rfl]

/-- **A whole number of 64 bits is read back.** -/
theorem value_integer {n : Int} (hn : Whole.InRange n) (depth fuel : Nat) {rest : List Char}
    (hrest : Stops rest) :
    value depth (fuel + 1) ((toString n).toList ++ rest) = some (.integer n, rest) := by
  obtain ⟨hleast, hgreatest⟩ := hn
  rw [Int.toString_eq_repr, Int.repr_eq_if]
  split
  · rename_i hsign
    have hlt : n.toNat < wordLimit := by
      rw [wordLimit]
      omega
    have hnumber := number_toDigits false hlt hrest
    obtain ⟨c, digits, hdigits, hc⟩ := Numeral.exists_toDigits_eq_cons n.toNat
    rw [hdigits, List.cons_append] at hnumber
    rw [Nat.toList_repr, hdigits, List.cons_append, value_of_isDigit hc, hnumber, integer,
      if_neg Bool.false_ne_true, Int.toNat_of_nonneg hsign]
  · rename_i hsign
    have hlt : (-n).toNat < wordLimit := by
      rw [wordLimit]
      omega
    have hrange : 0 < (-n).toNat ∧ (-n).toNat ≤ Whole.bound := by omega
    have hvalue : -((-n).toNat : Int) = n := by omega
    rw [String.toList_append, Nat.toList_repr]
    -- the sign is taken, and the digits come behind it
    change number true (Nat.toDigits 10 (-n).toNat ++ rest) = _
    rw [number_toDigits true hlt hrest, integer, if_pos rfl, if_pos hrange, hvalue]

/-! ### Rows -/

/-- All layouts in which at most so many containers are nested are read. -/
def Reads (depth : Nat) : Prop :=
  ∀ (j : Json) (cs : List Char), Layout j cs → j.depth ≤ depth →
    ∀ (fuel : Nat) (rest : List Char), cs.length < fuel → Stops rest →
      value depth fuel (cs ++ rest) = some (j, rest)

/-- The document of a part is read, and then the blanks behind it are skipped. -/
theorem Reads.part {depth : Nat} (h : Reads depth) {j : Json} {cs : List Char}
    (hlayout : Layout j cs) (hdepth : j.depth ≤ depth) {before after : List Char}
    (hbefore : Blanks before) (hafter : Blanks after) {fuel : Nat} (hfuel : cs.length < fuel)
    {c : Char} (hc : c = ',' ∨ c = ']' ∨ c = '\x7d') (rest : List Char) :
    value depth fuel (before ++ (cs ++ (after ++ c :: rest))) = some (j, after ++ c :: rest) ∧
      skip (after ++ c :: rest) = c :: rest := by
  have hstops : Stops (c :: rest) := by
    rcases hc with rfl | rfl | rfl <;> exact stops_cons (by decide) rest
  rw [← value_skip, skip_append hbefore, value_skip, skip_append hafter]
  refine ⟨h j cs hlayout hdepth fuel _ hfuel (hstops.append hafter), ?_⟩
  rcases hc with rfl | rfl | rfl <;> rfl

/-- **A row of items is read**, if its items are. -/
theorem items_of_row {depth : Nat} (h : Reads depth) {js : List Json} {cs : List Char}
    (hrow : Row Layout js cs) (hdepth : ∀ j ∈ js, j.depth ≤ depth) {fuel : Nat}
    (hfuel : cs.length + 1 < fuel) (rest : List Char) :
    items depth fuel (cs ++ ']' :: rest) = some (js, rest) := by
  induction hrow generalizing fuel with
  | @single j before cs after hbefore hlayout hafter =>
    simp only [List.length_append] at hfuel
    obtain ⟨fuel, rfl⟩ := Nat.exists_eq_succ_of_ne_zero (by omega : fuel ≠ 0)
    obtain ⟨hitem, hskip⟩ := h.part hlayout (hdepth j List.mem_cons_self) hbefore hafter
      (by omega : cs.length < fuel) (.inr (.inl rfl)) rest
    rw [List.append_assoc, List.append_assoc, items, hitem]
    simp [hskip]
  | @cons j js before cs after ds hbefore hlayout hafter hrow ih =>
    simp only [List.length_append, List.length_cons] at hfuel
    obtain ⟨hj, hjs⟩ := List.forall_mem_cons.1 hdepth
    obtain ⟨fuel, rfl⟩ := Nat.exists_eq_succ_of_ne_zero (by omega : fuel ≠ 0)
    obtain ⟨hitem, hskip⟩ := h.part hlayout hj hbefore hafter
      (by omega : cs.length < fuel) (.inl rfl) (ds ++ ']' :: rest)
    have hitems := ih hjs (by omega : ds.length + 1 < fuel)
    rw [List.append_assoc, List.append_assoc, List.append_assoc, List.cons_append, items, hitem]
    simp [hskip, hitems]

/-- **A member is read**: it is put in its place among the others, and what stands behind it is
looked at. -/
theorem Reads.member {depth : Nat} (h : Reads depth) {m : String × Json} {cs : List Char}
    (hm : Member Layout m cs) (hdepth : m.2.depth ≤ depth) {before after : List Char}
    (hbefore : Blanks before) (hafter : Blanks after) {fuel : Nat} (hfuel : cs.length < fuel)
    (read : List (String × Json)) (rest : List Char) :
    members depth (fuel + 1) read (before ++ (cs ++ (after ++ ',' :: rest))) =
        members depth fuel (insertMember m.1 m.2 read) rest ∧
      members depth (fuel + 1) read (before ++ (cs ++ (after ++ '\x7d' :: rest))) =
        some (insertMember m.1 m.2 read, rest) := by
  cases hm with
  | @mk name j front back cs hfront hback hlayout =>
    simp only [List.length_append, List.length_cons] at hfuel
    have hquote : ∀ tail, skip (before ++ (Quoted.encode name.toList ++ tail)) =
        '\"' :: ((Quoted.encode name.toList).tail ++ tail) := by
      intro tail
      rw [skip_append hbefore]
      rfl
    have hcolon : ∀ tail, skip (front ++ ':' :: tail) = ':' :: tail := by
      intro tail
      rw [skip_append hfront]
      rfl
    have hpart : cs.length < fuel := by omega
    simp only [List.append_assoc, List.cons_append]
    constructor
    · obtain ⟨hitem, hbehind⟩ := h.part hlayout hdepth hback hafter hpart (.inl rfl) rest
      rw [members, hquote]
      simp [Quoted.decode_encode, hcolon, hitem, hbehind]
    · obtain ⟨hitem, hbehind⟩ := h.part hlayout hdepth hback hafter hpart (.inr (.inr rfl)) rest
      rw [members, hquote]
      simp [Quoted.decode_encode, hcolon, hitem, hbehind]

/-- **A row of members is read**, if their values are. -/
theorem members_of_row {depth : Nat} (h : Reads depth) {ms : List (String × Json)}
    {cs : List Char} (hrow : Row (Member Layout) ms cs) (hdepth : ∀ m ∈ ms, m.2.depth ≤ depth)
    {fuel : Nat} (hfuel : cs.length + 1 < fuel) (read : List (String × Json))
    (hnames : (read ++ ms).Pairwise (fun a b => a.1 < b.1)) (rest : List Char) :
    members depth fuel read (cs ++ '\x7d' :: rest) = some (read ++ ms, rest) := by
  induction hrow generalizing fuel read with
  | @single m before cs after hbefore hm hafter =>
    simp only [List.length_append] at hfuel
    obtain ⟨fuel, rfl⟩ := Nat.exists_eq_succ_of_ne_zero (by omega : fuel ≠ 0)
    obtain ⟨-, hread⟩ := h.member hm (hdepth m List.mem_cons_self) hbefore hafter
      (by omega : cs.length < fuel) read rest
    rw [List.append_assoc, List.append_assoc, hread, insertMember_of_pairwise hnames]
  | @cons m ms before cs after ds hbefore hm hafter hrow ih =>
    simp only [List.length_append, List.length_cons] at hfuel
    obtain ⟨hfirst, hrest⟩ := List.forall_mem_cons.1 hdepth
    obtain ⟨fuel, rfl⟩ := Nat.exists_eq_succ_of_ne_zero (by omega : fuel ≠ 0)
    obtain ⟨hread, -⟩ := h.member hm hfirst hbefore hafter (by omega : cs.length < fuel) read
      (ds ++ '\x7d' :: rest)
    have hassoc : read ++ [m] ++ ms = read ++ m :: ms := List.append_cons .. |>.symm
    have hmembers := ih hrest (by omega : ds.length + 1 < fuel) _ (hassoc ▸ hnames)
    rw [List.append_assoc, List.append_assoc, List.append_assoc, List.cons_append, hread,
      insertMember_of_pairwise hnames, hmembers, hassoc]

/-! ### Documents -/

/-- A document or a member begins here: no blank, and nothing that closes a container. -/
def Begins (cs : List Char) : Prop :=
  ∃ c ds, cs = c :: ds ∧ isBlank c = false ∧ c ≠ ']' ∧ c ≠ '\x7d'

theorem begins_cons {c : Char} (h : isBlank c = false ∧ c ≠ ']' ∧ c ≠ '\x7d') (ds : List Char) :
    Begins (c :: ds) :=
  ⟨c, ds, rfl, h⟩

theorem Begins.append {cs : List Char} (h : Begins cs) (rest : List Char) :
    Begins (cs ++ rest) := by
  obtain ⟨c, ds, rfl, hc⟩ := h
  exact begins_cons hc _

theorem Begins.skip_eq {cs : List Char} (h : Begins cs) : skip cs = cs := by
  obtain ⟨c, ds, rfl, hblank, -⟩ := h
  refine skip_cons (Bool.eq_false_iff.2 fun hspace => ?_) ds
  rcases isSpace_iff.1 hspace with rfl | rfl | rfl | rfl <;> cases hblank

theorem begins_toDigits (n : Nat) : Begins (Nat.toDigits 10 n) := by
  obtain ⟨c, digits, hdigits, hc⟩ := Numeral.exists_toDigits_eq_cons n
  have hblank : isBlank c = false := by
    rw [Bool.eq_false_iff]
    intro hblank
    have hword := Lexer.continuesWord_of_isBlank hblank
    rw [Lexer.continuesWord_iff.2 (.inr hc)] at hword
    cases hword
  rw [hdigits]
  refine begins_cons ⟨hblank, ?_, ?_⟩ digits
  · rintro rfl
    cases hc
  · rintro rfl
    cases hc

theorem begins_of_layout {j : Json} {cs : List Char} (h : Layout j cs) : Begins cs := by
  cases h with
  | integer hn =>
    rw [Int.toString_eq_repr, Int.repr_eq_if]
    split
    · rw [Nat.toList_repr]
      exact begins_toDigits _
    · rw [String.toList_append]
      exact begins_cons (by decide) _
  | _ => exact begins_cons (by decide) _

theorem begins_of_member {m : String × Json} {cs : List Char} (h : Member Layout m cs) :
    Begins cs := by
  cases h
  exact begins_cons (by decide) _

/-- The first part of a row comes first when the blanks in front are skipped. -/
theorem begins_of_row {α : Type} {R : α → List Char → Prop}
    (hR : ∀ a cs, R a cs → Begins cs) {as : List α} {cs : List Char} (h : Row R as cs)
    (rest : List Char) : Begins (skip (cs ++ rest)) := by
  cases h with
  | single hbefore ha _ =>
    rw [List.append_assoc, skip_append hbefore, List.append_assoc,
      ((hR _ _ ha).append _).skip_eq]
    exact (hR _ _ ha).append _
  | cons hbefore ha _ _ =>
    rw [List.append_assoc, skip_append hbefore, List.append_assoc,
      ((hR _ _ ha).append _).skip_eq]
    exact (hR _ _ ha).append _

theorem value_emptyArray {blanks : List Char} (h : Blanks blanks) (depth fuel : Nat)
    (rest : List Char) :
    value (depth + 1) (fuel + 1) ('[' :: (blanks ++ ']' :: rest)) = some (.array [], rest) := by
  have hopen : skip ('[' :: (blanks ++ ']' :: rest)) = '[' :: (blanks ++ ']' :: rest) := rfl
  have hclose : skip (blanks ++ ']' :: rest) = ']' :: rest := skip_append h _
  rw [value, hopen]
  simp [hclose]

theorem value_emptyObject {blanks : List Char} (h : Blanks blanks) (depth fuel : Nat)
    (rest : List Char) :
    value (depth + 1) (fuel + 1) ('\x7b' :: (blanks ++ '\x7d' :: rest)) =
      some (.object [], rest) := by
  have hopen : skip ('\x7b' :: (blanks ++ '\x7d' :: rest)) =
      '\x7b' :: (blanks ++ '\x7d' :: rest) := rfl
  have hclose : skip (blanks ++ '\x7d' :: rest) = '\x7d' :: rest := skip_append h _
  rw [value, hopen]
  simp [hclose]

/-- **An array is read**, if its items are. -/
theorem value_array {depth : Nat} (h : Reads depth) {js : List Json} {cs : List Char}
    (hrow : Row Layout js cs) (hdepth : depthItems js ≤ depth) {fuel : Nat}
    (hfuel : cs.length + 1 < fuel) (rest : List Char) :
    value (depth + 1) (fuel + 1) ('[' :: (cs ++ ']' :: rest)) = some (.array js, rest) := by
  have hitems := items_of_row h hrow
    (fun j hj => Nat.le_trans (depth_le_depthItems hj) hdepth) hfuel rest
  have hopen : skip ('[' :: (cs ++ ']' :: rest)) = '[' :: (cs ++ ']' :: rest) := rfl
  obtain ⟨c, ds, hfirst, -, hclose, -⟩ :=
    begins_of_row (fun _ _ => begins_of_layout) hrow (']' :: rest)
  rw [← items_skip, hfirst] at hitems
  rw [value, hopen]
  simp [hfirst, hclose, hitems]

/-- **An object is read**, if its members are. -/
theorem value_object {depth : Nat} (h : Reads depth) {ms : List (String × Json)}
    {cs : List Char} (hrow : Row (Member Layout) ms cs)
    (hnames : ms.Pairwise (fun a b => a.1 < b.1)) (hdepth : depthMembers ms ≤ depth) {fuel : Nat}
    (hfuel : cs.length + 1 < fuel) (rest : List Char) :
    value (depth + 1) (fuel + 1) ('\x7b' :: (cs ++ '\x7d' :: rest)) =
      some (.object ms, rest) := by
  have hmembers := members_of_row h hrow
    (fun m hm => Nat.le_trans (depth_le_depthMembers hm) hdepth) hfuel
    [] hnames rest
  have hopen : skip ('\x7b' :: (cs ++ '\x7d' :: rest)) = '\x7b' :: (cs ++ '\x7d' :: rest) := rfl
  obtain ⟨c, ds, hfirst, -, -, hclose⟩ :=
    begins_of_row (fun _ _ => begins_of_member) hrow ('\x7d' :: rest)
  rw [← members_skip, hfirst] at hmembers
  rw [value, hopen]
  simp [hfirst, hclose, hmembers]

/-- **Whatever blanks stand between its parts, a document is read**, unless containers are nested
too deep in it. -/
theorem reads (depth : Nat) : Reads depth := by
  induction depth using Nat.strongRecOn with
  | ind depth ih =>
    intro j cs hlayout hdepth fuel rest hfuel hrest
    obtain ⟨fuel, rfl⟩ := Nat.exists_eq_succ_of_ne_zero (by omega : fuel ≠ 0)
    -- a container takes one of those that may still be opened
    cases hlayout with
    | null => rfl
    | true => rfl
    | false => rfl
    | integer hn => exact value_integer hn depth fuel hrest
    | string s =>
      have hquote : skip (Quoted.encode s.toList ++ rest) =
          '\"' :: ((Quoted.encode s.toList).tail ++ rest) := rfl
      rw [value, hquote]
      simp [Quoted.decode_encode]
    | emptyArray hblanks =>
      rw [Json.depth] at hdepth
      obtain ⟨depth, rfl⟩ := Nat.exists_eq_succ_of_ne_zero (by omega : depth ≠ 0)
      rw [List.cons_append, List.append_assoc]
      exact value_emptyArray hblanks depth fuel rest
    | array hrow =>
      rw [Json.depth] at hdepth
      simp only [List.length_cons, List.length_append] at hfuel
      obtain ⟨depth, rfl⟩ := Nat.exists_eq_succ_of_ne_zero (by omega : depth ≠ 0)
      rw [List.cons_append, List.append_assoc]
      exact value_array (ih depth (Nat.lt_succ_self depth)) hrow (Nat.le_of_succ_le_succ hdepth)
        (by simpa using hfuel) rest
    | emptyObject hblanks =>
      rw [Json.depth] at hdepth
      obtain ⟨depth, rfl⟩ := Nat.exists_eq_succ_of_ne_zero (by omega : depth ≠ 0)
      rw [List.cons_append, List.append_assoc]
      exact value_emptyObject hblanks depth fuel rest
    | object hnames hrow =>
      rw [Json.depth] at hdepth
      simp only [List.length_cons, List.length_append] at hfuel
      obtain ⟨depth, rfl⟩ := Nat.exists_eq_succ_of_ne_zero (by omega : depth ≠ 0)
      rw [List.cons_append, List.append_assoc]
      exact value_object (ih depth (Nat.lt_succ_self depth)) hrow hnames
        (Nat.le_of_succ_le_succ hdepth) (by simpa using hfuel) rest

end Reader

/-- **Each layout of a document is a text that spells it**, unless containers are nested too deep
in it. -/
theorem parse?_of_layout {j : Json} {text : String} (h : Layout j text.toList)
    (hdepth : j.depth ≤ maxDepth) : parse? text = some j := by
  have hvalue := Reader.reads maxDepth j text.toList h hdepth (2 * text.toList.length + 1) []
    (by omega) (fun _ hc => nomatch hc)
  rw [List.append_nil] at hvalue
  rw [parse?]
  simp [hvalue, Reader.skip]

end Json

end Parley
