import Parley.Proofs.Expr.Print
import Parley.Proofs.Template.Quotes

/-!
# Sources joined by blanks

If two sources are joined by blanks, the lexer finds the items of the first one and then those of
the second one, further to the right (`Parley.Lexer.Tiling.append`). A word and a number end at a
blank as they end with the source, so that only quotes can make a difference: a quote that is
reported in the first source, because no other follows, may find one in the second. This is
excluded by an even number of quotes. For each item takes an even number of them unless it is a
quote that is reported (`Parley.Item.Cut.evenQuotes`), which would leave an odd number.

The texts of the tokens of a source, joined by single blanks, are read as these tokens
(`Parley.Token.tokenize_spell`), whatever stood between them before.
-/

namespace Parley

/-! ### Further to the right -/

/-- The token as many columns further to the right. -/
def Token.moved (n : Nat) (t : Token) : Token :=
  ⟨t.kind, t.lexeme, t.column + n⟩

/-- The error as many columns further to the right. -/
def SyntaxError.moved (n : Nat) (e : SyntaxError) : SyntaxError :=
  ⟨e.complaint, e.column + n⟩

/-- The item as many columns further to the right. -/
def Item.moved (n : Nat) : Item → Item
  | token t => token (t.moved n)
  | error e => error (e.moved n)

namespace Item

theorem column_moved (n : Nat) (item : Item) : (item.moved n).column = item.column + n := by
  cases item <;> rfl

theorem width_moved (n : Nat) (item : Item) : (item.moved n).width = item.width := by
  cases item <;> rfl

theorem token?_moved (n : Nat) (item : Item) :
    (item.moved n).token? = item.token?.map (Token.moved n) := by
  cases item <;> rfl

theorem error?_moved (n : Nat) (item : Item) :
    (item.moved n).error? = item.error?.map (SyntaxError.moved n) := by
  cases item <;> rfl

end Item

namespace Item.Cut

variable {item : Item} {text rest : List Char}

/-- What makes up an item does not depend on its column. -/
theorem moved (h : item.Cut text rest) (n : Nat) : (item.moved n).Cut text rest := by
  cases item with
  | token t => exact h.of_next (t.column + n) fun c hc => .inr hc
  | error e =>
    cases h with
    | unterminated hrest => exact .unterminated hrest
    | unexpected hblank hstarts => exact .unexpected hblank hstarts

/-- **An item takes an even number of quotes** unless it is a quote that is reported, behind which
there is none. -/
theorem evenQuotes (h : item.Cut text rest) (heven : Template.EvenQuotes (text ++ rest)) :
    Template.EvenQuotes rest ∧ ∀ e, item = .error e → e.complaint ≠ .unterminatedString := by
  unfold Template.EvenQuotes at *
  rw [List.count_append] at heven
  cases item with
  | token t =>
    refine ⟨?_, fun e he => by cases he⟩
    rcases Template.plain_or_string_of_cut h with hplain | ⟨-, inner, hinner, rfl⟩
    · have hnone : '"' ∉ text := fun hmem => (hplain _ hmem).1 rfl
      rwa [List.count_eq_zero.2 hnone, Nat.zero_add] at heven
    · simp only [List.count_cons_self, List.count_append, List.count_eq_zero.2 hinner,
        List.count_nil] at heven
      omega
  | error e =>
    cases h with
    | unterminated hrest =>
      rw [List.count_eq_zero.2 hrest] at heven
      cases heven
    | @unexpected c _ _ _ hstarts =>
      have hquote : c ≠ '"' := by
        rintro rfl
        cases hstarts
      constructor
      · rwa [List.count_cons_of_ne hquote, List.count_nil, Nat.zero_add] at heven
      · rintro _ ⟨⟩ ⟨⟩

/-- An item stays where something is put at the end of the source that continues no word. -/
theorem append {tail : List Char} (h : item.Cut text rest)
    (hterminated : ∀ e, item = .error e → e.complaint ≠ .unterminatedString)
    (htail : ∀ c ∈ tail.head?, Lexer.continuesWord c = false) : item.Cut text (rest ++ tail) := by
  cases item with
  | token t =>
    refine h.of_next t.column fun c hc => ?_
    cases rest with
    | nil => exact .inl (htail c hc)
    | cons d rest => exact .inr hc
  | error e =>
    cases h with
    | unterminated _ => exact absurd rfl (hterminated _ rfl)
    | unexpected hblank hstarts => exact .unexpected hblank hstarts

end Item.Cut

namespace Lexer.Tiling

variable {column : Nat} {cs : List Char} {items : List Item}

/-- The items do not depend on the column where they begin. -/
theorem moved (h : Tiling column cs items) (n : Nat) :
    Tiling (column + n) cs (items.map (Item.moved n)) := by
  induction h with
  | nil => exact .nil
  | blank hblank _ ih =>
    rw [Nat.add_right_comm] at ih
    exact .blank hblank ih
  | cut hcolumn hcut _ ih =>
    rw [Nat.add_right_comm, ← Item.width_moved n] at ih
    exact .cut (by rw [Item.column_moved, hcolumn]) (hcut.moved n) ih

/-- **Two sources are put together** where the first one has an even number of quotes and the second
one does not begin with what continues a word. -/
theorem append {tail : List Char} {more : List Item} (h : Tiling column cs items)
    (heven : Template.EvenQuotes cs) (htail : ∀ c ∈ tail.head?, Lexer.continuesWord c = false)
    (hmore : Tiling (column + cs.length) tail more) :
    Tiling column (cs ++ tail) (items ++ more) := by
  induction h with
  | nil => exact hmore
  | @blank column c cs items hblank _ ih =>
    have hquote : c ≠ '"' := by
      rintro rfl
      exact absurd hblank (by decide)
    rw [List.length_cons, Nat.add_comm cs.length, ← Nat.add_assoc] at hmore
    rw [Template.EvenQuotes, List.count_cons_of_ne hquote] at heven
    exact .blank hblank (ih heven hmore)
  | @cut column item text rest items hcolumn hcut _ ih =>
    obtain ⟨hrest, hterminated⟩ := hcut.evenQuotes heven
    rw [List.length_append, hcut.length_eq, ← Nat.add_assoc] at hmore
    rw [List.append_assoc]
    exact .cut hcolumn (hcut.append hterminated htail) (ih hrest hmore)

end Lexer.Tiling

/-! ### Sources -/

/-- **The items of two sources that are joined by blanks.** -/
theorem itemsOf_joined {a w : String} (b : String) (heven : Template.EvenQuotes a.toList)
    (hne : w ≠ "") (hw : ∀ c ∈ w.toList, isBlank c = true) :
    itemsOf (a ++ w ++ b) = itemsOf a ++ (itemsOf b).map (Item.moved (a ++ w).length) := by
  have hhead : ∀ c ∈ (w.toList ++ b.toList).head?, Lexer.continuesWord c = false := by
    obtain ⟨d, ds, hds⟩ := List.exists_cons_of_ne_nil (mt String.toList_eq_nil_iff.1 hne)
    rw [hds, List.cons_append]
    rintro _ ⟨⟩
    exact Lexer.continuesWord_of_isBlank (hw d (hds ▸ List.mem_cons_self))
  have hb : Lexer.Tiling (1 + a.toList.length + w.toList.length) b.toList
      ((itemsOf b).map (Item.moved (a ++ w).length)) := by
    rw [String.length_toList, String.length_toList, Nat.add_assoc, ← String.length_append]
    exact (tiling_itemsOf b).moved _
  have hall : Lexer.Tiling 1 (a ++ w ++ b).toList
      (itemsOf a ++ (itemsOf b).map (Item.moved (a ++ w).length)) := by
    rw [String.toList_append, String.toList_append, List.append_assoc]
    exact (tiling_itemsOf a).append heven hhead (hb.blanks hw)
  exact (Lexer.tiling_iff.1 hall).symm

/-- What moves the items moves what is chosen among them. -/
theorem filterMap_moved {α : Type} {f : Item → Option α} {g : α → α} {n : Nat}
    (h : ∀ item : Item, f (item.moved n) = (f item).map g) (items : List Item) :
    (items.map (Item.moved n)).filterMap f = (items.filterMap f).map g := by
  rw [List.filterMap_map, List.map_filterMap]
  exact congrArg (List.filterMap · items) (funext h)

namespace Token

theorem map_placed (column : Nat) (ts : List Token) :
    (placed column ts).map (fun t => (t.kind, t.lexeme)) = ts.map fun t => (t.kind, t.lexeme) := by
  induction ts generalizing column with
  | nil => rfl
  | cons t ts ih => rw [placed, List.map_cons, List.map_cons, ih]

end Token

/-- **Reading is compositional at blanks.** If two sources are joined by blanks, and there is an even
number of quotes in the first one, then the tokens and errors are those of the first and behind
them those of the second, further to the right. The texts of the tokens of any source, joined by
single blanks, are read without errors, as tokens of the same kinds and texts. -/
theorem reading_is_compositional_at_blanks :
    (∀ a w b : String, Template.EvenQuotes a.toList → w ≠ "" →
      (∀ c ∈ w.toList, isBlank c = true) →
      (tokenize (a ++ w ++ b)).tokens =
          (tokenize a).tokens ++ (tokenize b).tokens.map (Token.moved (a ++ w).length) ∧
        (tokenize (a ++ w ++ b)).errors =
          (tokenize a).errors ++ (tokenize b).errors.map (SyntaxError.moved (a ++ w).length)) ∧
    ∀ source : String,
      (tokenize (Token.spell (tokenize source).tokens)).errors = [] ∧
        (tokenize (Token.spell (tokenize source).tokens)).tokens.map
            (fun t => (t.kind, t.lexeme)) =
          (tokenize source).tokens.map fun t => (t.kind, t.lexeme) := by
  refine ⟨fun a w b heven hne hw => ?_, fun source => ?_⟩
  · simp only [tokenize, itemsOf_joined b heven hne hw, List.filterMap_append]
    rw [filterMap_moved (Item.token?_moved _), filterMap_moved (Item.error?_moved _)]
    exact ⟨rfl, rfl⟩
  · rw [Token.tokenize_spell fun t ht => Token.spelled_of_mem_tokens ht]
    exact ⟨rfl, Token.map_placed 1 _⟩

/-- The string literal of the first source is over in front of the tab, and the quote of the second
one stays without another. -/
theorem reading_is_compositional_at_blanks_tab :
    Template.EvenQuotes "x + \"y\"".toList ∧ "\t" ≠ "" ∧
      (∀ c ∈ "\t".toList, isBlank c = true) ∧
      (tokenize ("x + \"y\"" ++ "\t" ++ "\" z")).tokens =
        [⟨.identifier, "x", 1⟩, ⟨.plus, "+", 3⟩, ⟨.string, "\"y\"", 5⟩, ⟨.identifier, "z", 11⟩] ∧
      (tokenize ("x + \"y\"" ++ "\t" ++ "\" z")).errors = [⟨.unterminatedString, 9⟩] := by
  have heven : Template.EvenQuotes "x + \"y\"".toList := by
    rw [Template.EvenQuotes]
    decide
  have hne : "\t" ≠ "" := by decide
  have hblank : ∀ c ∈ "\t".toList, isBlank c = true := List.all_eq_true.1 (by decide)
  obtain ⟨htokens, herrors⟩ :=
    reading_is_compositional_at_blanks.1 "x + \"y\"" "\t" "\" z" heven hne hblank
  refine ⟨heven, hne, hblank, htokens.trans ?_, herrors.trans ?_⟩
  · decide +kernel
  · decide +kernel

/-- With an odd number of quotes in front, the two sources are not read one by one. -/
example : (tokenize "\"").errors ≠ [] ∧ (tokenize ("\"" ++ " " ++ "\"")).errors = [] := by
  decide +kernel

end Parley
