import Parley.Proofs.Token.Cut

/-!
# The items of a source tile it

Blanks apart, every character of a source belongs to exactly one item. This is said in two
ways.

* `Parley.Lexer.Tiling` follows the source from the front: behind a blank, and behind each
  item, the tiling goes on. It holds of exactly the items that the lexer finds
  (`Parley.Lexer.tiling_iff`), and it is what other proofs do induction on.
* `Parley.Lexer.Tiles` speaks of columns: every item is cut out of the source at its column,
  no two items overlap, and what lies in no item is blank. It also says which characters are
  reported. The items of a source have all these properties
  (`Parley.lexer_tiles_the_source`).
-/

namespace Parley

/-- An item does not begin with a blank. -/
theorem Item.Cut.isBlank_head {item : Item} {c : Char} {text rest : List Char}
    (h : item.Cut (c :: text) rest) : isBlank c = false := by
  rw [Bool.eq_false_iff]
  intro hblank
  have hword := Lexer.continuesWord_of_isBlank hblank
  have hstarts := Lexer.startsToken_of_isBlank hblank
  cases h with
  | punctuation hkind => simp [Lexer.startsToken, hkind] at hstarts
  | string _ => exact absurd hblank (by decide)
  | number hdigit _ _ =>
    rw [Lexer.continuesWord_iff.2 (.inr hdigit)] at hword
    cases hword
  | word hc _ _ _ =>
    rw [Lexer.continuesWord_iff.2 (.inl hc)] at hword
    cases hword
  | unterminated _ => exact absurd hblank (by decide)
  | unexpected hc _ =>
    rw [hblank] at hc
    cases hc

/-- The item takes the character at a column. -/
def Item.Covers (item : Item) (column : Nat) : Prop :=
  item.column ≤ column ∧ column < item.column + item.width

namespace Lexer

/-! ### From the front -/

/-- `Tiling column cs items`: the items make up the characters, which begin at the column, and
only blanks are left out. -/
inductive Tiling : Nat → List Char → List Item → Prop
  | nil {column : Nat} : Tiling column [] []
  | blank {column : Nat} {c : Char} {cs : List Char} {items : List Item} :
      isBlank c = true → Tiling (column + 1) cs items → Tiling column (c :: cs) items
  | cut {column : Nat} {item : Item} {text rest : List Char} {items : List Item} :
      item.column = column → item.Cut text rest → Tiling (column + item.width) rest items →
      Tiling column (text ++ rest) (item :: items)

theorem tiling_items (column : Nat) (cs : List Char) : Tiling column cs (items column cs) := by
  fun_induction items column cs with
  | case1 column => exact .nil
  | case2 column c cs hblank ih => exact .blank hblank ih
  | case3 column c cs hblank item ih =>
    obtain ⟨hcolumn, text, htext, hcut⟩ := cut_scan column (Bool.eq_false_iff.2 hblank) cs
    rw [htext]
    exact .cut hcolumn hcut ih

/-- **The lexer finds the one tiling.** -/
theorem tiling_iff {column : Nat} {cs : List Char} {its : List Item} :
    Tiling column cs its ↔ its = items column cs := by
  constructor
  · intro h
    induction h with
    | nil => rw [items]
    | blank hblank _ ih => rw [items, if_pos hblank, ih]
    | @cut column item text rest its hcolumn hcut _ ih =>
      obtain ⟨c, text, rfl⟩ := List.exists_cons_of_ne_nil hcut.text_ne_nil
      have hscan : scan column c (text ++ rest) = (item, rest) :=
        hcolumn ▸ scan_of_cut hcut rfl
      rw [List.cons_append, items, if_neg (by simp [hcut.isBlank_head]), hscan, ih]
  · rintro rfl
    exact tiling_items column cs

namespace Tiling

variable {column : Nat} {cs : List Char} {items : List Item}

/-- **Every item is cut out** of the characters at its column. -/
theorem exists_cut (h : Tiling column cs items) {item : Item} (hitem : item ∈ items) :
    ∃ front text rest, cs = front ++ (text ++ rest) ∧ item.column = column + front.length ∧
      item.Cut text rest := by
  induction h with
  | nil => cases hitem
  | @blank column c cs items _ _ ih =>
    obtain ⟨front, text, rest, rfl, hcolumn, hcut⟩ := ih hitem
    refine ⟨c :: front, text, rest, rfl, ?_, hcut⟩
    rw [List.length_cons]
    omega
  | @cut column first text rest items hcolumn hcut _ ih =>
    rcases List.mem_cons.1 hitem with rfl | hlater
    · exact ⟨[], text, rest, rfl, hcolumn, hcut⟩
    · obtain ⟨front, text', rest', rfl, hcolumn', hcut'⟩ := ih hlater
      refine ⟨text ++ front, text', rest', by rw [List.append_assoc], ?_, hcut'⟩
      rw [List.length_append, hcut.length_eq]
      omega

theorem le_column (h : Tiling column cs items) {item : Item} (hitem : item ∈ items) :
    column ≤ item.column := by
  obtain ⟨front, text, rest, -, hcolumn, -⟩ := h.exists_cut hitem
  omega

/-- An item ends where the characters end, or before. -/
theorem column_add_width_le (h : Tiling column cs items) {item : Item} (hitem : item ∈ items) :
    item.column + item.width ≤ column + cs.length := by
  obtain ⟨front, text, rest, rfl, hcolumn, hcut⟩ := h.exists_cut hitem
  rw [hcolumn, ← hcut.length_eq, List.length_append, List.length_append]
  omega

/-- Blanks in front are skipped. -/
theorem blanks {w : List Char} (hw : ∀ c ∈ w, isBlank c = true)
    (h : Tiling (column + w.length) cs items) : Tiling column (w ++ cs) items := by
  induction w generalizing column with
  | nil => exact h
  | cons c w ih =>
    obtain ⟨hc, hw⟩ := List.forall_mem_cons.1 hw
    rw [List.length_cons, Nat.add_comm w.length, ← Nat.add_assoc] at h
    exact .blank hc (ih hw h)

/-- **The items do not overlap.** -/
theorem apart (h : Tiling column cs items) :
    items.Pairwise fun a b => a.column + a.width ≤ b.column := by
  induction h with
  | nil => exact .nil
  | blank _ _ ih => exact ih
  | cut hcolumn _ hrest ih =>
    refine .cons (fun b hb => ?_) ih
    rw [hcolumn]
    exact hrest.le_column hb

/-- Two items that take the same character are the same. -/
theorem eq_of_covers (h : Tiling column cs items) {a b : Item} (ha : a ∈ items) (hb : b ∈ items)
    {n : Nat} (han : a.Covers n) (hbn : b.Covers n) : a = b := by
  obtain ⟨ha₁, ha₂⟩ := han
  obtain ⟨hb₁, hb₂⟩ := hbn
  induction h with
  | nil => cases ha
  | blank _ _ ih => exact ih ha hb
  | @cut column first text rest items hcolumn _ hrest ih =>
    -- what comes behind the first item begins where the first item ends, or later
    rcases List.mem_cons.1 ha with rfl | ha' <;> rcases List.mem_cons.1 hb with rfl | hb'
    · rfl
    · have hle := hrest.le_column hb'
      omega
    · have hle := hrest.le_column ha'
      omega
    · exact ih ha' hb'

/-- **Nothing but blanks is left out.** -/
theorem isBlank_or_covers (h : Tiling column cs items) {i : Nat} {c : Char}
    (hc : cs[i]? = some c) :
    isBlank c = true ∨ ∃ item ∈ items, item.Covers (column + i) := by
  induction h generalizing i with
  | nil => cases hc
  | @blank column d cs items hblank _ ih =>
    cases i with
    | zero =>
      obtain rfl : d = c := by simpa using hc
      exact .inl hblank
    | succ i =>
      refine (ih hc).imp_right ?_
      rintro ⟨item, hitem, hcovers⟩
      exact ⟨item, hitem, by rwa [Nat.add_right_comm] at hcovers⟩
  | @cut column first text rest items hcolumn hcut _ ih =>
    rcases Nat.lt_or_ge i first.width with hi | hi
    · exact .inr ⟨first, List.mem_cons_self, by unfold Item.Covers; omega⟩
    · have hlength := hcut.length_eq
      rw [List.getElem?_append_right (by omega), hlength] at hc
      refine (ih hc).imp_right ?_
      rintro ⟨item, hitem, hcovers⟩
      refine ⟨item, List.mem_cons_of_mem _ hitem, ?_⟩
      rwa [Nat.add_assoc, Nat.add_sub_of_le hi] at hcovers

end Tiling

/-! ### By columns -/

/-- A character at which an error is reported, if it is in no token: one that can start none,
or a quote with no other in the `rest` behind it. -/
def Faulty (c : Char) (rest : List Char) : Prop :=
  (isBlank c = false ∧ startsToken c = false) ∨ (c = '"' ∧ '"' ∉ rest)

/-- An error is about one faulty character. -/
theorem exists_faulty_of_cut {e : SyntaxError} {text rest : List Char}
    (h : (Item.error e).Cut text rest) : ∃ c, text = [c] ∧ Faulty c rest := by
  cases h with
  | unterminated hrest => exact ⟨'"', rfl, .inr ⟨rfl, hrest⟩⟩
  | @unexpected c _ _ hblank hstarts => exact ⟨c, rfl, .inl ⟨hblank, hstarts⟩⟩

theorem Faulty.isBlank {c : Char} {rest : List Char} (h : Faulty c rest) : isBlank c = false := by
  rcases h with ⟨hblank, -⟩ | ⟨rfl, -⟩
  · exact hblank
  · decide

/-- **The items tile the source.** -/
structure Tiles (source : List Char) (items : List Item) : Prop where
  increasing : items.Pairwise fun a b => a.column < b.column
  apart : items.Pairwise fun a b => a.column + a.width ≤ b.column
  /-- A token is what stands in the source at its column, as far as it is wide. -/
  slice : ∀ t, .token t ∈ items →
    0 < t.column ∧ t.lexeme.toList = (source.drop (t.column - 1)).take t.width
  /-- Every item is cut out at its column, with regard to what follows it. -/
  cut : ∀ item ∈ items, 0 < item.column ∧
    item.Cut ((source.drop (item.column - 1)).take item.width)
      (source.drop (item.column - 1 + item.width))
  /-- What lies in no item is blank. -/
  blank : ∀ i c, source[i]? = some c → (∀ item ∈ items, ¬item.Covers (i + 1)) →
    isBlank c = true
  /-- Outside of tokens an error is reported exactly at the faulty characters. -/
  error_iff : ∀ i c, source[i]? = some c →
    ((∃ e, .error e ∈ items ∧ e.column = i + 1) ↔
      (∀ t, .token t ∈ items → ¬(Item.token t).Covers (i + 1)) ∧
        Faulty c (source.drop (i + 1)))

namespace Tiling

variable {source : List Char} {items : List Item}

/-- An item in terms of columns: it is the slice of the source of its width, and behind this
slice is what follows. -/
theorem cut_slice (h : Tiling 1 source items) {item : Item} (hitem : item ∈ items) :
    0 < item.column ∧ item.Cut ((source.drop (item.column - 1)).take item.width)
      (source.drop (item.column - 1 + item.width)) := by
  obtain ⟨front, text, rest, rfl, hcolumn, hcut⟩ := h.exists_cut hitem
  have hfront : front.length = item.column - 1 := by omega
  have hdrop : (front ++ (text ++ rest)).drop (item.column - 1) = text ++ rest :=
    List.drop_left' hfront
  have hrest : (front ++ (text ++ rest)).drop (item.column - 1 + item.width) = rest := by
    rw [← List.drop_drop, hdrop]
    exact List.drop_left' hcut.length_eq
  rw [hdrop, hrest, List.take_left' hcut.length_eq]
  exact ⟨by omega, hcut⟩

theorem error_iff (h : Tiling 1 source items) {i : Nat} {c : Char} (hc : source[i]? = some c) :
    (∃ e, .error e ∈ items ∧ e.column = i + 1) ↔
      (∀ t, .token t ∈ items → ¬(Item.token t).Covers (i + 1)) ∧
        Faulty c (source.drop (i + 1)) := by
  constructor
  · rintro ⟨e, he, hcolumn⟩
    have hcovers : (Item.error e).Covers (i + 1) :=
      ⟨Nat.le_of_eq hcolumn, hcolumn ▸ Nat.lt_succ_self _⟩
    refine ⟨fun t ht htcovers => ?_, ?_⟩
    · cases h.eq_of_covers ht he htcovers hcovers
    · obtain ⟨-, hcut⟩ := h.cut_slice he
      obtain ⟨d, htext, hfaulty⟩ := exists_faulty_of_cut hcut
      have hi : (Item.error e).column - 1 = i := Nat.sub_eq_of_eq_add hcolumn
      rw [hi] at htext hfaulty
      -- the character that the error is about is the one at its column
      have hd : d = c := by
        have hhead : ((source.drop i).take (Item.error e).width).head? = some d := by
          rw [htext]
          rfl
        rw [List.head?_take, if_neg (Nat.ne_of_gt hcut.width_pos), List.head?_drop, hc] at hhead
        exact (Option.some.inj hhead).symm
      exact hd ▸ hfaulty
  · rintro ⟨htokens, hfaulty⟩
    rcases h.isBlank_or_covers hc with hblank | ⟨item, hitem, hcovers⟩
    · rw [hfaulty.isBlank] at hblank
      cases hblank
    · rw [Nat.add_comm] at hcovers
      cases item with
      | token t => exact absurd hcovers (htokens t hitem)
      | error e =>
        obtain ⟨hle, hlt⟩ := hcovers
        exact ⟨e, hitem, Nat.le_antisymm hle (Nat.lt_succ_iff.1 hlt)⟩

end Tiling

end Lexer

theorem tiling_itemsOf (source : String) : Lexer.Tiling 1 source.toList (itemsOf source) :=
  Lexer.tiling_items 1 source.toList

theorem mem_tokens_iff {source : String} {t : Token} :
    t ∈ (tokenize source).tokens ↔ .token t ∈ itemsOf source := by
  refine List.mem_filterMap.trans ⟨?_, fun h => ⟨.token t, h, rfl⟩⟩
  rintro ⟨item, hitem, hsome⟩
  cases item with
  | token t' =>
    cases hsome
    exact hitem
  | error e => cases hsome

theorem mem_errors_iff {source : String} {e : SyntaxError} :
    e ∈ (tokenize source).errors ↔ .error e ∈ itemsOf source := by
  refine List.mem_filterMap.trans ⟨?_, fun h => ⟨.error e, h, rfl⟩⟩
  rintro ⟨item, hitem, hsome⟩
  cases item with
  | token t => cases hsome
  | error e' =>
    cases hsome
    exact hitem

/-- A source whose items are tokens is read without errors. -/
theorem tokenize_of_tiling {source : String} {ts : List Token}
    (h : Lexer.Tiling 1 source.toList (ts.map .token)) : tokenize source = ⟨ts, []⟩ := by
  have hitems : itemsOf source = ts.map .token := (Lexer.tiling_iff.1 h).symm
  have hsome : Item.token? ∘ Item.token = some := rfl
  have hnone : Item.error? ∘ Item.token = fun _ => none := rfl
  rw [tokenize, hitems, List.filterMap_map, List.filterMap_map, hsome, hnone,
    List.filterMap_some, List.filterMap_eq_nil_iff.2 fun _ _ => rfl]

/-- The columns of the tokens increase strictly. -/
theorem tokens_increasing (source : String) :
    (tokenize source).tokens.Pairwise fun t u => t.column < u.column := by
  have h := tiling_itemsOf source
  refine List.pairwise_filterMap.2 (h.apart.imp_of_mem fun {a b} ha _ hab t ht u hu => ?_)
  have hpos := (h.cut_slice ha).2.width_pos
  cases a with
  | error e => cases ht
  | token t' =>
    cases b with
    | error e => cases hu
    | token u' =>
      cases ht
      cases hu
      exact Nat.lt_of_lt_of_le (Nat.lt_add_of_pos_right hpos) hab

/-- **A column tells the token** that stands there. -/
theorem tokens_at_column {source : String} {t : Token} (ht : t ∈ (tokenize source).tokens) :
    (tokenize source).tokens.filter (fun u => u.column = t.column) = [t] := by
  have hincreasing := tokens_increasing source
  obtain ⟨before, after, heq⟩ := List.append_of_mem ht
  rw [heq] at hincreasing ⊢
  obtain ⟨-, hafter, hbefore⟩ := List.pairwise_append.1 hincreasing
  have hbefore' : before.filter (fun u => u.column = t.column) = [] := by
    refine List.filter_eq_nil_iff.2 fun u hu => ?_
    have hlt := hbefore u hu t List.mem_cons_self
    simp [Nat.ne_of_lt hlt]
  have hafter' : after.filter (fun u => u.column = t.column) = [] := by
    refine List.filter_eq_nil_iff.2 fun u hu => ?_
    have hlt := (List.pairwise_cons.1 hafter).1 u hu
    simp [Nat.ne_of_gt hlt]
  rw [List.filter_append, hbefore', List.filter_cons_of_pos (by simp), hafter', List.nil_append]

/-- Two tokens of a source at the same column are one. -/
theorem eq_of_column_eq {source : String} {t u : Token} (ht : t ∈ (tokenize source).tokens)
    (hu : u ∈ (tokenize source).tokens) (h : t.column = u.column) : t = u := by
  have hmem : u ∈ (tokenize source).tokens.filter fun v => v.column = t.column :=
    List.mem_filter.2 ⟨hu, decide_eq_true h.symm⟩
  rw [tokens_at_column ht] at hmem
  exact (List.mem_singleton.1 hmem).symm

/-- **The lexer tiles the source.** The columns of the items increase strictly, and the items
do not overlap. A token is the slice of the source of its width at its column; it is a
punctuation character, a string literal from one quote to the next, a number that no digit
follows, or a word, read to its end, which is a keyword exactly when it spells one in lower
case. What lies in no item is blank. Outside of tokens an error is reported exactly at the
characters that can start no token and at a quote without a later one. -/
theorem lexer_tiles_the_source (source : String) :
    Lexer.Tiles source.toList (itemsOf source) := by
  have h := tiling_itemsOf source
  refine ⟨?_, h.apart, ?_, fun item => h.cut_slice, fun i c hc huncovered => ?_,
    fun i c => h.error_iff⟩
  · refine h.apart.imp_of_mem fun {a b} ha _ hab => ?_
    obtain ⟨-, hcut⟩ := h.cut_slice ha
    exact Nat.lt_of_lt_of_le (Nat.lt_add_of_pos_right hcut.width_pos) hab
  · intro t ht
    obtain ⟨hpos, hcut⟩ := h.cut_slice ht
    exact ⟨hpos, hcut.toList_lexeme⟩
  · refine (h.isBlank_or_covers hc).resolve_right ?_
    rintro ⟨item, hitem, hcovers⟩
    exact huncovered item hitem (by rwa [Nat.add_comm] at hcovers)

end Parley
