import Parley.Proofs.Template
import Parley.Proofs.Token.Tiling

/-!
# Templates and the lexer agree on string literals

Two scanners decide what stands inside a string literal. The one that looks for the brace that
closes an expression turns a flag over at every quote; the lexer, at an opening quote, looks for
the next one, and passes over a quote that has none.

They agree because the lexer meets a quote only where none is open: whatever else it takes, a
string literal apart, has no quotes in it. So each item takes an even number of quotes, unless
it is a quote that is reported, and with an even number in front the flag is where it was at
the beginning (`Parley.Template.isSource_append_of_cut`). By induction along the items a text can
stand between the braces exactly if the lexer reports neither a quote nor a closing brace in it
(`Parley.Template.isSource_iff`).
-/

namespace Parley

/-- The errors that keep a text from standing between the braces of an expression. -/
def SyntaxError.Spoils (e : SyntaxError) : Prop :=
  e.complaint = .unterminatedString ∨ e.complaint = .unexpectedCharacter '\x7d'

namespace Template

/-! ### Characters that turn nothing over -/

theorem isSource_iff_isSourceFrom {source : List Char} :
    IsSource source ↔ IsSourceFrom false source := Iff.rfl

/-- Characters without quotes, and without braces unless a string literal is open, make no
difference in front of a source. -/
theorem isSourceFrom_append {quoted : Bool} {text : List Char}
    (h : ∀ c ∈ text, c ≠ '"' ∧ (c = '\x7d' → quoted = true)) (rest : List Char) :
    IsSourceFrom quoted (text ++ rest) ↔ IsSourceFrom quoted rest := by
  induction text with
  | nil => exact Iff.rfl
  | cons c text ih =>
    obtain ⟨⟨hquote, hbrace⟩, htext⟩ := List.forall_mem_cons.1 h
    have hopen : ¬(c = '\x7d' ∧ quoted = false) := by
      rintro ⟨hc, hquoted⟩
      rw [hbrace hc] at hquoted
      cases hquoted
    rw [List.cons_append, isSourceFrom_cons, if_neg hquote, ih htext, and_iff_right hopen]

/-- A string literal is over where it closes. -/
theorem isSource_append_string {inner : List Char} (h : '"' ∉ inner) (rest : List Char) :
    IsSource ('"' :: (inner ++ ['"']) ++ rest) ↔ IsSource rest := by
  have hinner : ∀ c ∈ inner, c ≠ '"' ∧ (c = '\x7d' → true = true) :=
    fun c hc => ⟨fun hquote => h (hquote ▸ hc), fun _ => rfl⟩
  calc IsSource ('"' :: (inner ++ ['"']) ++ rest)
      ↔ IsSourceFrom false ('"' :: (inner ++ '"' :: rest)) := by
        rw [List.cons_append, List.append_assoc, isSource_iff_isSourceFrom]
        exact Iff.rfl
    _ ↔ IsSourceFrom true (inner ++ '"' :: rest) := by
      rw [isSourceFrom_cons]
      simp
    _ ↔ IsSourceFrom true ('"' :: rest) := isSourceFrom_append hinner _
    _ ↔ IsSourceFrom false rest := by
      rw [isSourceFrom_cons]
      simp
    _ ↔ IsSource rest := isSource_iff_isSourceFrom.symm

/-! ### Along the items -/

/-- **A token is plain or a string literal**: it has neither quotes nor braces in it, or it is
what stands between two quotes, with these. -/
theorem plain_or_string_of_cut {t : Token} {text rest : List Char}
    (h : (Item.token t).Cut text rest) :
    (∀ c ∈ text, c ≠ '"' ∧ c ≠ '\x7d') ∨
      t.kind = .string ∧ ∃ inner, '"' ∉ inner ∧ text = '"' :: (inner ++ ['"']) := by
  have hword : ∀ c, Lexer.continuesWord c = true → c ≠ '"' ∧ c ≠ '\x7d' := by
    intro c hc
    refine ⟨Lexer.ne_quote_of_continuesWord hc, ?_⟩
    rintro rfl
    exact absurd hc (by decide)
  cases h with
  | punctuation hkind =>
    refine .inl (List.forall_mem_singleton.2 ⟨?_, ?_⟩)
    · rintro rfl
      cases hkind
    · rintro rfl
      cases hkind
  | @string inner _ _ hinner => exact .inr ⟨rfl, inner, hinner, rfl⟩
  | number hdigit hdigits _ =>
    refine .inl fun d hd => hword d (Lexer.continuesWord_iff.2 (.inr ?_))
    rcases List.mem_cons.1 hd with rfl | hd
    · exact hdigit
    · exact hdigits d hd
  | word hstarts hmore _ _ =>
    refine .inl fun d hd => hword d ?_
    rcases List.mem_cons.1 hd with rfl | hd
    · exact Lexer.continuesWord_iff.2 (.inl hstarts)
    · exact hmore d hd

/-- **An item in front of a source** leaves it one, unless the item is an error that spoils
it. -/
theorem isSource_append_of_cut {item : Item} {text rest : List Char} (h : item.Cut text rest) :
    IsSource (text ++ rest) ↔ (∀ e, item = .error e → ¬e.Spoils) ∧ IsSource rest := by
  cases item with
  | token t =>
    have hno : ∀ e, Item.token t = .error e → ¬e.Spoils := by
      intro e he
      cases he
    rw [and_iff_right hno]
    rcases plain_or_string_of_cut h with hplain | ⟨-, inner, hinner, rfl⟩
    · have hsame : ∀ c ∈ text, c ≠ '"' ∧ (c = '\x7d' → false = true) :=
        fun c hc => ⟨(hplain c hc).1, fun hbrace => absurd hbrace (hplain c hc).2⟩
      exact isSourceFrom_append hsame rest
    · exact isSource_append_string hinner rest
  | error e =>
    have hself : (∀ e', Item.error e = .error e' → ¬e'.Spoils) ↔ ¬e.Spoils :=
      ⟨fun h => h e rfl, by rintro h _ ⟨⟩; exact h⟩
    rw [hself]
    cases h with
    | unterminated hrest =>
      -- one quote and no other is an odd number
      refine iff_of_false ?_ fun h => h.1 (.inl rfl)
      rintro ⟨heven, -⟩
      simp [EvenQuotes, List.count_eq_zero.2 hrest] at heven
    | @unexpected c column _ _ hstarts =>
      have hquote : c ≠ '"' := by
        rintro rfl
        cases hstarts
      have hspoils : (SyntaxError.mk (.unexpectedCharacter c) column).Spoils ↔ c = '\x7d' := by
        simp [SyntaxError.Spoils]
      rw [hspoils, List.singleton_append, isSource_iff_isSourceFrom, isSourceFrom_cons,
        if_neg hquote, isSource_iff_isSourceFrom]
      simp only [and_true]

/-- **What can stand between the braces** of an expression is what the lexer can read without
one of the two errors. -/
theorem isSource_iff {column : Nat} {cs : List Char} {items : List Item}
    (h : Lexer.Tiling column cs items) :
    IsSource cs ↔ ∀ e, .error e ∈ items → ¬e.Spoils := by
  induction h with
  | nil => simp [IsSource, EvenQuotes]
  | @blank column c cs items hblank _ ih =>
    have hplain : ∀ d ∈ [c], d ≠ '"' ∧ (d = '\x7d' → false = true) := by
      rw [List.forall_mem_singleton]
      constructor
      · rintro rfl
        exact absurd hblank (by decide)
      · rintro rfl
        exact absurd hblank (by decide)
    exact (isSourceFrom_append hplain cs).trans ih
  | cut _ hcut _ ih =>
    rw [isSource_append_of_cut hcut, ih]
    simp only [List.mem_cons, or_imp, forall_and, eq_comm]

/-- A brace in a token is strictly between the quotes of a string literal. -/
theorem string_of_brace {t : Token} {text rest : List Char} (h : (Item.token t).Cut text rest)
    {i : Nat} (hi : text[i]? = some '\x7d') : t.kind = .string ∧ 0 < i ∧ i + 1 < t.width := by
  have hlength : text.length = t.width := h.length_eq
  rcases plain_or_string_of_cut h with hplain | ⟨hkind, inner, -, rfl⟩
  · exact absurd rfl (hplain _ (List.mem_of_getElem? hi)).2
  · refine ⟨hkind, ?_⟩
    -- it is neither the first character nor the last one, for these are quotes
    cases i with
    | zero => cases hi
    | succ i =>
      rw [List.getElem?_cons_succ] at hi
      have hlt : i < inner.length := by
        refine Nat.lt_of_not_le fun hge => ?_
        rw [List.getElem?_append_right hge] at hi
        exact absurd (List.mem_singleton.1 (List.mem_of_getElem? hi)) (by decide)
      simp only [List.length_cons, List.length_append, List.length_nil] at hlength
      omega

/-- **Where the lexer reports neither error**, every brace is inside of a string literal. -/
theorem exists_string_of_brace {cs : List Char} {items : List Item} (h : Lexer.Tiling 1 cs items)
    (hspoils : ∀ e, .error e ∈ items → ¬e.Spoils) {i : Nat} (hi : cs[i]? = some '\x7d') :
    ∃ t, .token t ∈ items ∧ t.kind = .string ∧ t.column < i + 1 ∧ i + 2 < t.column + t.width := by
  obtain hblank | ⟨item, hitem, hle, hlt⟩ := h.isBlank_or_covers hi
  · exact absurd hblank (by decide)
  · obtain ⟨front, text, rest, rfl, hcolumn, hcut⟩ := h.exists_cut hitem
    -- the place of the brace in the text of the item
    have htext : text[i - front.length]? = some '\x7d' := by
      rw [List.getElem?_append_right (by omega), List.getElem?_append_left] at hi
      · exact hi
      · rw [hcut.length_eq]
        omega
    cases item with
    | token t =>
      obtain ⟨hkind, hpos, hbefore⟩ := string_of_brace hcut htext
      have hcolumn : t.column = 1 + front.length := hcolumn
      exact ⟨t, hitem, hkind, by omega, by omega⟩
    | error e =>
      refine absurd ?_ (hspoils e hitem)
      cases hcut with
      | unterminated _ =>
        have hquote := List.mem_singleton.1 (List.mem_of_getElem? htext)
        exact absurd hquote (by decide)
      | unexpected _ _ =>
        rw [← List.mem_singleton.1 (List.mem_of_getElem? htext)]
        exact .inr rfl

/-- The template of an expression alone is split into this expression. -/
theorem splitTemplate_of_isSource {source : String} (h : IsSource source.toList) :
    splitTemplate ("$\x7b" ++ source ++ "\x7d") = [.expression source.toList] := by
  have hlist : ("$\x7b" ++ source ++ "\x7d").toList =
      (Segment.expression source.toList).write ++ [] := by
    simp [Segment.write]
  have hopen : open? ("$\x7b" ++ source ++ "\x7d").toList = some (source.toList, []) :=
    open?_eq_some_iff.2 ⟨hlist, h⟩
  rw [splitTemplate, splitFrom_of_open hopen, splitFrom_nil]
  rfl

end Template

/-- **The splitter of templates and the lexer agree about string literals.** In the source of
an expression of a template the lexer finds neither a quote without a later one nor a closing
brace that stands alone: every closing brace is inside of a string literal. Conversely a source
that the lexer reads without errors is, between `${` and a brace, the one segment of its
template. -/
theorem splitter_and_lexer_agree_on_strings :
    (∀ (template : String) (source : List Char), .expression source ∈ splitTemplate template →
      (∀ e ∈ (tokenize (String.ofList source)).errors,
        e.complaint ≠ .unterminatedString ∧ e.complaint ≠ .unexpectedCharacter '\x7d') ∧
      ∀ i, source[i]? = some '\x7d' → ∃ t ∈ (tokenize (String.ofList source)).tokens,
        t.kind = .string ∧ t.column < i + 1 ∧ i + 2 < t.column + t.width) ∧
    ∀ source : String, (tokenize source).errors = [] →
      splitTemplate ("$\x7b" ++ source ++ "\x7d") = [.expression source.toList] := by
  refine ⟨fun template source hsource => ?_, fun source herrors => ?_⟩
  · have hsplit : Template.IsSplit template.toList (splitTemplate template) :=
      Template.isSplit_iff_eq_splitFrom.2 rfl
    have htiling := tiling_itemsOf (String.ofList source)
    rw [String.toList_ofList] at htiling
    have hspoils := (Template.isSource_iff htiling).1 (hsplit.isSource source hsource)
    constructor
    · intro e he
      exact not_or.1 (hspoils e (mem_errors_iff.1 he))
    · intro i hi
      obtain ⟨t, ht, hstring⟩ := Template.exists_string_of_brace htiling hspoils hi
      exact ⟨t, mem_tokens_iff.2 ht, hstring⟩
  · refine Template.splitTemplate_of_isSource
      ((Template.isSource_iff (tiling_itemsOf source)).2 fun e he => ?_)
    have hmem := mem_errors_iff.2 he
    rw [herrors] at hmem
    cases hmem

/-- A closing brace in a string literal closes nothing. -/
theorem splitter_and_lexer_agree_on_strings_brace :
    splitTemplate ("$\x7b" ++ "\"\x7d\" in x" ++ "\x7d") =
        [.expression "\"\x7d\" in x".toList] ∧
      ∃ t ∈ (tokenize (String.ofList "\"\x7d\" in x".toList)).tokens,
        t.kind = .string ∧ t.column < 2 ∧ 3 < t.column + t.width := by
  have hsplit := splitter_and_lexer_agree_on_strings.2 "\"\x7d\" in x" (by decide +kernel)
  refine ⟨hsplit, ?_⟩
  have hmem : Segment.expression "\"\x7d\" in x".toList ∈
      splitTemplate ("$\x7b" ++ "\"\x7d\" in x" ++ "\x7d") := by
    rw [hsplit]
    exact List.mem_singleton_self _
  exact (splitter_and_lexer_agree_on_strings.1 _ _ hmem).2 1 rfl

end Parley
