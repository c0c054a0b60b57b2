import Parley.Token.Lexer

/-!
# How an item is cut out of the source

`Parley.Item.Cut` says which characters make up an item, without saying how the lexer finds
them: a word is a letter or an underscore and all the letters, digits and underscores behind
it, a number is a run of digits that no digit follows, a string literal goes from one quote to
the next, and what is reported is a character that can start no token, or a quote with no
other behind it.

The characters behind an item matter in two places: a word or a number must not go on there,
and a quote is reported only if there is none.

What the lexer finds in front of some characters, if the first one is not blank, is cut out of
them (`Parley.Lexer.cut_scan`), and it finds whatever is cut out there
(`Parley.Lexer.scan_of_cut`).
-/

namespace Parley

/-! ### The kind of a word -/

namespace TokenKind

/-- The keyword that a kind stands for, in lower case. -/
def keyword? : TokenKind → Option String
  | keywordTrue => some "true"
  | keywordFalse => some "false"
  | keywordIn => some "in"
  | keywordNot => some "not"
  | keywordAnd => some "and"
  | keywordOr => some "or"
  | keywordMatches => some "matches"
  | _ => none

/-- **The kind of a word**: that of a keyword exactly when the word, in lower case, is this
keyword, and an identifier when it is none. -/
def Names (kind : TokenKind) (word : List Char) : Prop :=
  (∀ k s, keyword? k = some s → (kind = k ↔ String.ofList (word.map Char.toLower) = s)) ∧
    (keyword? kind = none → kind = identifier)

/-- A lower-case word is looked up among the keywords. -/
theorem ofWord_eq_iff {word : String} {kind : TokenKind} :
    ofWord word = kind ↔ (keyword? kind = some word ∨
      kind = identifier ∧ ∀ k, keyword? k ≠ some word) := by
  constructor
  · rintro rfl
    unfold ofWord
    split
    case h_8 =>
      refine .inr ⟨rfl, fun k hk => ?_⟩
      cases k <;> simp_all [keyword?]
    all_goals exact .inl rfl
  · rintro (h | ⟨rfl, h⟩)
    · cases kind <;> simp [keyword?] at h <;> subst h <;> rfl
    · unfold ofWord
      split
      case h_8 => rfl
      case h_1 => exact absurd rfl (h keywordIn)
      case h_2 => exact absurd rfl (h keywordNot)
      case h_3 => exact absurd rfl (h keywordAnd)
      case h_4 => exact absurd rfl (h keywordOr)
      case h_5 => exact absurd rfl (h keywordMatches)
      case h_6 => exact absurd rfl (h keywordTrue)
      case h_7 => exact absurd rfl (h keywordFalse)

/-- No two kinds stand for the same keyword. -/
theorem keyword?_injective {k l : TokenKind} {s : String} (hk : keyword? k = some s)
    (hl : keyword? l = some s) : k = l := by
  rw [← ofWord_eq_iff.2 (.inl hk)]
  exact ofWord_eq_iff.2 (.inl hl)

/-- The lexer gives every word its kind. -/
theorem wordKind_eq_iff {kind : TokenKind} {word : List Char} :
    Lexer.wordKind word = kind ↔ kind.Names word := by
  rw [Lexer.wordKind, ofWord_eq_iff, Names]
  generalize String.ofList (word.map Char.toLower) = lowered
  constructor
  · rintro (h | ⟨rfl, h⟩)
    · refine ⟨fun k s hk => ?_, fun hnone => by cases h.symm.trans hnone⟩
      constructor
      · rintro rfl
        exact Option.some.inj (h.symm.trans hk)
      · rintro rfl
        exact keyword?_injective h hk
    · refine ⟨fun k s hk => ?_, fun _ => rfl⟩
      constructor
      · rintro rfl
        cases hk
      · rintro rfl
        exact absurd hk (h k)
  · rintro ⟨hkeyword, hother⟩
    cases hkind : keyword? kind with
    | some s => exact .inl (congrArg some ((hkeyword kind s hkind).1 rfl).symm)
    | none =>
      obtain rfl := hother hkind
      refine .inr ⟨rfl, fun k hk => ?_⟩
      obtain rfl := (hkeyword k lowered hk).2 rfl
      cases hk

end TokenKind

/-! ### Classes of characters -/

namespace Lexer

/-- A character that stands at the front of some token. -/
def startsToken (c : Char) : Bool :=
  (TokenKind.ofPunctuation? c).isSome || c == '"' || c.isDigit || startsWord c

theorem startsWord_iff {c : Char} : startsWord c = true ↔
    (65 ≤ c.toNat ∧ c.toNat ≤ 90) ∨ (97 ≤ c.toNat ∧ c.toNat ≤ 122) ∨ c.toNat = 95 := by
  have hunderscore : c = '_' ↔ c.toNat = 95 := ⟨fun h => h ▸ rfl, fun h => Char.toNat_inj.1 h⟩
  have halpha : c.isAlpha = (decide ('A'.val ≤ c.val ∧ c.val ≤ 'Z'.val) ||
      (decide ('a'.val ≤ c.val) && decide (c.val ≤ 'z'.val))) := rfl
  simp only [startsWord, halpha, Bool.or_eq_true, Bool.and_eq_true, decide_eq_true_eq, beq_iff_eq,
    UInt32.le_iff_toNat_le, or_assoc, hunderscore]
  exact Iff.rfl

theorem continuesWord_iff {c : Char} :
    continuesWord c = true ↔ startsWord c = true ∨ c.isDigit = true := by
  simp only [continuesWord, startsWord, Char.isAlphanum, Bool.or_eq_true]
  exact or_right_comm

theorem isDigit_of_startsWord {c : Char} (h : startsWord c = true) : c.isDigit = false := by
  rw [Bool.eq_false_iff]
  intro hdigit
  have hrange : 48 ≤ c.toNat ∧ c.toNat ≤ 57 := Char.isDigit_iff_toNat.1 hdigit
  rw [startsWord_iff] at h
  omega

/-- **A blank ends a word**, and a number as well. -/
theorem continuesWord_of_isBlank {c : Char} (h : isBlank c = true) : continuesWord c = false := by
  rw [Bool.eq_false_iff]
  intro hword
  rw [continuesWord_iff, startsWord_iff, Char.isDigit_iff_toNat] at hword
  change _ ∨ (48 ≤ c.toNat ∧ c.toNat ≤ 57) at hword
  simp only [isBlank, blankRanges, List.any_cons, List.any_nil, Bool.or_eq_true, Bool.and_eq_true,
    decide_eq_true_eq, Bool.or_false] at h
  omega

/-- Letters and digits are no punctuation. -/
theorem ofPunctuation?_of_continuesWord {c : Char} (h : continuesWord c = true) :
    TokenKind.ofPunctuation? c = none := by
  unfold TokenKind.ofPunctuation?
  split
  case h_11 => rfl
  all_goals exact absurd h (by decide)

theorem ne_quote_of_continuesWord {c : Char} (h : continuesWord c = true) : c ≠ '"' := by
  rintro rfl
  exact absurd h (by decide)

/-- A blank starts no token, so that blanks can be skipped. -/
theorem startsToken_of_isBlank {c : Char} (h : isBlank c = true) : startsToken c = false := by
  rw [Bool.eq_false_iff]
  intro hstarts
  simp only [startsToken, Bool.or_eq_true, beq_iff_eq] at hstarts
  rcases hstarts with ((hpunctuation | rfl) | hdigit) | hword
  · unfold TokenKind.ofPunctuation? at hpunctuation
    split at hpunctuation
    case h_11 => cases hpunctuation
    all_goals exact absurd h (by decide)
  · exact absurd h (by decide)
  · exact absurd (continuesWord_iff.2 (.inr hdigit)) (by simp [continuesWord_of_isBlank h])
  · exact absurd (continuesWord_iff.2 (.inl hword)) (by simp [continuesWord_of_isBlank h])

end Lexer

/-! ### Cutting -/

/-- `item.Cut text rest`: the item is made up of the characters `text` when those behind it are
`rest`. -/
inductive Item.Cut : Item → List Char → List Char → Prop
  /-- One character of punctuation. -/
  | punctuation {c : Char} {kind : TokenKind} {column : Nat} {rest : List Char} :
      TokenKind.ofPunctuation? c = some kind →
      Cut (.token ⟨kind, String.singleton c, column⟩) [c] rest
  /-- From one quote to the next. -/
  | string {inner : List Char} {column : Nat} {rest : List Char} : '"' ∉ inner →
      Cut (.token ⟨.string, String.ofList ('"' :: (inner ++ ['"'])), column⟩)
        ('"' :: (inner ++ ['"'])) rest
  /-- Digits, as many as there are. -/
  | number {c : Char} {digits : List Char} {column : Nat} {rest : List Char} :
      c.isDigit = true → (∀ d ∈ digits, d.isDigit = true) →
      (∀ d ∈ rest.head?, d.isDigit = false) →
      Cut (.token ⟨.number, String.ofList (c :: digits), column⟩) (c :: digits) rest
  /-- A letter or an underscore and what continues the word, as far as it goes. -/
  | word {c : Char} {more : List Char} {kind : TokenKind} {column : Nat} {rest : List Char} :
      Lexer.startsWord c = true → (∀ d ∈ more, Lexer.continuesWord d = true) →
      (∀ d ∈ rest.head?, Lexer.continuesWord d = false) → kind.Names (c :: more) →
      Cut (.token ⟨kind, String.ofList (c :: more), column⟩) (c :: more) rest
  /-- A quote, and no other behind it. -/
  | unterminated {column : Nat} {rest : List Char} : '"' ∉ rest →
      Cut (.error ⟨.unterminatedString, column⟩) ['"'] rest
  /-- A character that can start no token. -/
  | unexpected {c : Char} {column : Nat} {rest : List Char} :
      isBlank c = false → Lexer.startsToken c = false →
      Cut (.error ⟨.unexpectedCharacter c, column⟩) [c] rest

namespace Item.Cut

variable {item : Item} {text rest : List Char}

/-- The text of a token is its lexeme. -/
theorem toList_lexeme {t : Token} (h : (Item.token t).Cut text rest) :
    t.lexeme.toList = text := by
  cases h <;> simp

theorem length_eq (h : item.Cut text rest) : text.length = item.width := by
  cases item with
  | token t =>
    rw [← h.toList_lexeme, String.length_toList]
    rfl
  | error e => cases h <;> rfl

theorem text_ne_nil (h : item.Cut text rest) : text ≠ [] := by
  cases h <;> exact List.cons_ne_nil _ _

/-- An item takes at least one character. -/
theorem width_pos (h : item.Cut text rest) : 0 < item.width := by
  rw [← h.length_eq]
  exact List.length_pos_iff.2 h.text_ne_nil

/-- **A token stays where it is cut out** if it stands at another column, and if what follows does
not continue a word or followed before. -/
theorem of_next {t : Token} {rest' : List Char} (h : (Item.token t).Cut text rest) (column : Nat)
    (hnext : ∀ c ∈ rest'.head?, Lexer.continuesWord c = false ∨ c ∈ rest.head?) :
    (Item.token ⟨t.kind, t.lexeme, column⟩).Cut text rest' := by
  cases h with
  | punctuation hkind => exact .punctuation hkind
  | string hinner => exact .string hinner
  | number hdigit hdigits hrest =>
    refine .number hdigit hdigits fun c hc => ?_
    rcases hnext c hc with hends | hbefore
    · rw [Bool.eq_false_iff]
      intro hc'
      rw [Lexer.continuesWord_iff.2 (.inr hc')] at hends
      cases hends
    · exact hrest c hbefore
  | word hword hmore hrest hkind =>
    exact .word hword hmore (fun c hc => (hnext c hc).elim id (hrest c)) hkind

end Item.Cut

namespace Lexer

section Class

variable {p : Char → Bool} {front rest : List Char} (hfront : ∀ d ∈ front, p d = true)
  (hrest : ∀ d ∈ rest.head?, p d = false)

include hfront hrest

/-- A run of characters of a class, as far as it goes. -/
theorem takeWhile_append : (front ++ rest).takeWhile p = front := by
  rw [List.takeWhile_append_of_pos hfront]
  cases rest with
  | nil => exact List.append_nil front
  | cons d rest => simp [hrest d rfl]

theorem dropWhile_append : (front ++ rest).dropWhile p = rest := by
  rw [List.dropWhile_append_of_pos hfront]
  cases rest with
  | nil => rfl
  | cons d rest => simp [hrest d rfl]

end Class

/-- What follows a run of characters of a class is not of that class. -/
theorem of_mem_head?_dropWhile (p : Char → Bool) {cs : List Char} {d : Char}
    (h : d ∈ (cs.dropWhile p).head?) : p d = false := by
  have hnot := List.head?_dropWhile_not p cs
  rwa [Option.mem_def.1 h] at hnot

theorem of_mem_takeWhile {p : Char → Bool} {cs : List Char} {d : Char}
    (h : d ∈ cs.takeWhile p) : p d = true :=
  List.all_eq_true.1 List.all_takeWhile d h

/-- **What the lexer finds is cut out** of the characters it is given. -/
theorem cut_scan (column : Nat) {c : Char} (hc : isBlank c = false) (cs : List Char) :
    (scan column c cs).1.column = column ∧ ∃ text, c :: cs = text ++ (scan column c cs).2 ∧
      (scan column c cs).1.Cut text (scan column c cs).2 := by
  unfold scan
  split
  · rename_i kind hkind
    exact ⟨rfl, [c], rfl, .punctuation hkind⟩
  · rename_i hpunctuation
    split
    · rename_i hquote
      obtain rfl : c = '"' := beq_iff_eq.1 hquote
      have hinner : '"' ∉ cs.takeWhile (· != '"') := fun h => by
        simpa using of_mem_takeWhile h
      have hcs : cs.takeWhile (· != '"') ++ cs.dropWhile (· != '"') = cs :=
        List.takeWhile_append_dropWhile
      cases hdrop : cs.dropWhile (· != '"') with
      | nil =>
        -- the run goes to the end, so there is no other quote
        rw [hdrop, List.append_nil] at hcs
        exact ⟨rfl, ['"'], rfl, .unterminated (hcs ▸ hinner)⟩
      | cons close rest =>
        have hhead : close ∈ (cs.dropWhile (· != '"')).head? := by rw [hdrop]; rfl
        have hclose : (close != '"') = false := of_mem_head?_dropWhile (· != '"') hhead
        obtain rfl : close = '"' := by simpa using hclose
        refine ⟨rfl, '"' :: (cs.takeWhile (· != '"') ++ ['"']), ?_, .string hinner⟩
        rw [hdrop] at hcs
        simp [hcs]
    · rename_i hquote
      split
      · rename_i hdigit
        refine ⟨rfl, c :: cs.takeWhile Char.isDigit, ?_, .number hdigit
          (fun d hd => of_mem_takeWhile hd) fun d hd => of_mem_head?_dropWhile _ hd⟩
        rw [List.cons_append, List.takeWhile_append_dropWhile]
      · rename_i hdigit
        split
        · rename_i hword
          refine ⟨rfl, c :: cs.takeWhile continuesWord, ?_, .word hword
            (fun d hd => of_mem_takeWhile hd) (fun d hd => of_mem_head?_dropWhile _ hd)
            (TokenKind.wordKind_eq_iff.1 rfl)⟩
          rw [List.cons_append, List.takeWhile_append_dropWhile]
        · rename_i hword
          refine ⟨rfl, [c], rfl, .unexpected hc ?_⟩
          simp [startsToken, hpunctuation, hquote, hdigit, hword]

/-- **What is cut out is found**, whatever column it is at. -/
theorem scan_of_cut {item : Item} {text rest cs : List Char} {c : Char}
    (h : item.Cut text rest) (hcs : c :: cs = text ++ rest) :
    scan item.column c cs = (item, rest) := by
  cases h with
  | punctuation hkind =>
    cases hcs
    simp [scan, hkind, Item.column]
  | @string inner _ _ hinner =>
    obtain ⟨rfl, rfl⟩ := List.cons.inj hcs
    have hclass : ∀ d ∈ inner, (d != '"') = true := by
      intro d hd
      exact bne_iff_ne.2 fun hd' => hinner (hd' ▸ hd)
    have hdrop : (inner ++ '"' :: rest).dropWhile (· != '"') = '"' :: rest :=
      dropWhile_append hclass (by simp)
    have htake : (inner ++ '"' :: rest).takeWhile (· != '"') = inner :=
      takeWhile_append hclass (by simp)
    simp [scan, TokenKind.ofPunctuation?, hdrop, htake, Item.column]
  | number hdigit hdigits hrest =>
    obtain ⟨rfl, rfl⟩ := List.cons.inj hcs
    have hc := continuesWord_iff.2 (.inr hdigit)
    simp [scan, ofPunctuation?_of_continuesWord hc, ne_quote_of_continuesWord hc, hdigit,
      takeWhile_append hdigits hrest, dropWhile_append hdigits hrest, Item.column]
  | word hword hmore hrest hkind =>
    obtain ⟨rfl, rfl⟩ := List.cons.inj hcs
    have hc := continuesWord_iff.2 (.inl hword)
    simp [scan, ofPunctuation?_of_continuesWord hc, ne_quote_of_continuesWord hc,
      isDigit_of_startsWord hword, hword, takeWhile_append hmore hrest,
      dropWhile_append hmore hrest, TokenKind.wordKind_eq_iff.2 hkind, Item.column]
  | unterminated hrest =>
    cases hcs
    have hclass : ∀ d ∈ rest, (d != '"') = true := by
      intro d hd
      exact bne_iff_ne.2 fun hd' => hrest (hd' ▸ hd)
    have hdrop : rest.dropWhile (· != '"') = [] := by
      rw [← List.append_nil rest]
      exact dropWhile_append hclass (by simp)
    simp [scan, TokenKind.ofPunctuation?, hdrop, Item.column]
  | unexpected hblank hstarts =>
    cases hcs
    simp only [startsToken, Bool.or_eq_false_iff, beq_eq_false_iff_ne, Option.isSome_eq_false_iff,
      Option.isNone_iff_eq_none] at hstarts
    obtain ⟨⟨⟨hpunctuation, hquote⟩, hdigit⟩, hword⟩ := hstarts
    simp [scan, hpunctuation, hquote, hdigit, hword, Item.column]

end Lexer

end Parley
