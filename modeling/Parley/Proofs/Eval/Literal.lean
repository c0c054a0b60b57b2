import Parley.Proofs.Eval.Blame

/-!
# Literals

`Parley.Value.Literal` says how a value is written in a source, without saying how it is read: a
whole number in decimal digits, a truth value as a word in any case of its letters, a text between
quotes exactly as it is, and an array between square brackets, with commas and any blanks between
the items. There are no literals for null, for numbers below zero or with a fraction, for texts
with a quote in them, for objects and for functions; for all other values there are
(`Parley.Value.spellable_iff`).

What is written is read back (`Parley.literals_round_trip`). The induction is over the value. Its
invariant goes through the whole library: the characters are read as certain tokens, whatever
follows (`Parley.Lexer.ReadsAs`), these tokens are derived to one term, and the term has the value
without any calls (`Parley.Term.Means`).
-/

namespace Parley

/-! ### Rows of tokens without a gap -/

namespace Lexer

/-- What comes here does not go on with a word, or with a number. -/
def Ends (rest : List Char) : Prop :=
  ∀ c ∈ rest.head?, continuesWord c = false

theorem Ends.append {cs rest : List Char} (h : Ends cs) (hrest : Ends rest) :
    Ends (cs ++ rest) := by
  cases cs with
  | nil => exact hrest
  | cons c cs => exact h

theorem ends_of_blanks {blanks : List Char} (h : ∀ c ∈ blanks, isBlank c = true) :
    Ends blanks := by
  intro c hc
  exact continuesWord_of_isBlank (h c (List.mem_of_mem_head? hc))

theorem ends_cons {c : Char} (h : continuesWord c = false) (rest : List Char) :
    Ends (c :: rest) := by
  rintro _ ⟨⟩
  exact h

/-- **The characters are read as the tokens**, wherever a word ends behind them. -/
def ReadsAs (column : Nat) (cs : List Char) (ts : List Token) : Prop :=
  ∀ (rest : List Char) (items : List Item), Ends rest →
    Tiling (column + cs.length) rest items → Tiling column (cs ++ rest) (ts.map .token ++ items)

theorem readsAs_nil (column : Nat) : ReadsAs column [] [] := by
  intro rest items _ h
  exact h

/-- A token that is cut out of its text. -/
theorem readsAs_token {t : Token} {text : List Char}
    (h : ∀ rest, Ends rest → (Item.token t).Cut text rest) : ReadsAs t.column text [t] := by
  intro rest items hrest htiling
  have hcut := h rest hrest
  rw [hcut.length_eq] at htiling
  exact .cut rfl hcut htiling

/-- Blanks are skipped. -/
theorem ReadsAs.blanks {column : Nat} {blanks cs : List Char} {ts : List Token}
    (h : ReadsAs (column + blanks.length) cs ts) (hblanks : ∀ c ∈ blanks, isBlank c = true) :
    ReadsAs column (blanks ++ cs) ts := by
  intro rest items hrest htiling
  rw [List.length_append, ← Nat.add_assoc] at htiling
  rw [List.append_assoc]
  exact (h rest items hrest htiling).blanks hblanks

theorem readsAs_blanks (column : Nat) {blanks : List Char}
    (hblanks : ∀ c ∈ blanks, isBlank c = true) : ReadsAs column blanks [] := by
  have h := (readsAs_nil (column + blanks.length)).blanks hblanks
  rwa [List.append_nil] at h

/-- A character of punctuation needs no gap behind it. -/
theorem ReadsAs.punctuation {column : Nat} {cs : List Char} {ts : List Token} {c : Char}
    {kind : TokenKind} (h : ReadsAs (column + 1) cs ts)
    (hkind : TokenKind.ofPunctuation? c = some kind) :
    ReadsAs column (c :: cs) (⟨kind, String.singleton c, column⟩ :: ts) := by
  intro rest items hrest htiling
  rw [List.length_cons, Nat.add_comm cs.length, ← Nat.add_assoc] at htiling
  have hcut : (Item.token ⟨kind, String.singleton c, column⟩).Cut [c] (cs ++ rest) :=
    .punctuation hkind
  have hbehind := h rest items hrest htiling
  have hwidth : (Item.token ⟨kind, String.singleton c, column⟩).width = 1 := hcut.length_eq.symm
  rw [← hwidth] at hbehind
  have hall : Tiling column ([c] ++ (cs ++ rest)) _ := .cut rfl hcut hbehind
  exact hall

/-- **Rows** are put together where a word ends. -/
theorem ReadsAs.append {column : Nat} {cs ds : List Char} {ts us : List Token}
    (h : ReadsAs column cs ts) (h' : ReadsAs (column + cs.length) ds us) (hds : Ends ds) :
    ReadsAs column (cs ++ ds) (ts ++ us) := by
  intro rest items hrest htiling
  rw [List.length_append, ← Nat.add_assoc] at htiling
  rw [List.append_assoc, List.map_append, List.append_assoc]
  exact h _ _ (hds.append hrest) (h' rest items hrest htiling)

/-- A row of tokens in square brackets. -/
theorem ReadsAs.bracketed {column : Nat} {cs : List Char} {ts : List Token}
    (h : ReadsAs (column + 1) cs ts) :
    ReadsAs column ('[' :: (cs ++ [']']))
      (⟨.leftBracket, String.singleton '[', column⟩ ::
        (ts ++ [⟨.rightBracket, String.singleton ']', column + 1 + cs.length⟩])) := by
  have hclosing : ReadsAs (column + 1 + cs.length) [']']
      [⟨.rightBracket, String.singleton ']', column + 1 + cs.length⟩] :=
    (readsAs_nil _).punctuation rfl
  exact (h.append hclosing (ends_cons (by decide) [])).punctuation rfl

/-- A source that is a row of tokens. -/
theorem ReadsAs.tokenize_eq {source : String} {ts : List Token}
    (h : ReadsAs 1 source.toList ts) : tokenize source = ⟨ts, []⟩ := by
  have htiling : Tiling 1 (source.toList ++ []) (ts.map .token ++ []) :=
    h [] [] (fun _ hc => nomatch hc) .nil
  rw [List.append_nil, List.append_nil] at htiling
  exact tokenize_of_tiling htiling

end Lexer

/-! ### Writing values -/

mutual

/-- **Values that can be written**: whole numbers that are not negative, truth values, texts
without a quote, and arrays of such values. -/
def Value.Spellable : Value → Prop
  | .integer n => 0 ≤ n.toInt
  | .boolean _ => True
  | .string s => '"' ∉ s.toList
  | .array items => Value.SpellableItems items
  | _ => False

/-- Items that can be written. -/
def Value.SpellableItems : List Value → Prop
  | [] => True
  | item :: items => item.Spellable ∧ Value.SpellableItems items

end

mutual

/-- `v.Literal cs`: **the characters are a literal for the value.** -/
inductive Value.Literal : Value → List Char → Prop
  /-- Decimal digits, and maybe zeros in front of them. -/
  | integer {n : Int64} (zeros : Nat) : 0 ≤ n.toInt →
      Literal (.integer n) (List.replicate zeros '0' ++ Nat.toDigits 10 n.toInt.toNat)
  /-- A word, in any case of its letters. -/
  | boolean {b : Bool} {word : List Char} :
      word.map Char.toLower = (if b then "true" else "false").toList → Literal (.boolean b) word
  /-- The text itself, between quotes. -/
  | string {s : String} : '"' ∉ s.toList → Literal (.string s) ('"' :: (s.toList ++ ['"']))
  | emptyArray {blanks : List Char} : (∀ c ∈ blanks, isBlank c = true) →
      Literal (.array []) ('[' :: (blanks ++ [']']))
  | array {items : List Value} {cs : List Char} : Value.ItemLiterals items cs →
      Literal (.array items) ('[' :: (cs ++ [']']))

/-- Literals for some items, and for at least one, with a comma between any two and with blanks
around each. -/
inductive Value.ItemLiterals : List Value → List Char → Prop
  | last {item : Value} {before cs after : List Char} : (∀ c ∈ before, isBlank c = true) →
      item.Literal cs → (∀ c ∈ after, isBlank c = true) →
      ItemLiterals [item] (before ++ (cs ++ after))
  | cons {item : Value} {items : List Value} {before cs after rest : List Char} :
      (∀ c ∈ before, isBlank c = true) → item.Literal cs → (∀ c ∈ after, isBlank c = true) →
      ItemLiterals items rest →
      ItemLiterals (item :: items) (before ++ (cs ++ (after ++ ',' :: rest)))

end

namespace Value

mutual

theorem Literal.spellable : ∀ {v : Value} {cs : List Char}, v.Literal cs → v.Spellable
  | _, _, .integer _ h => h
  | _, _, .boolean _ => trivial
  | _, _, .string h => h
  | _, _, .emptyArray _ => trivial
  | _, _, .array h => h.spellable

theorem ItemLiterals.spellable : ∀ {items : List Value} {cs : List Char},
    ItemLiterals items cs → SpellableItems items
  | _, _, .last _ h _ => ⟨h.spellable, trivial⟩
  | _, _, .cons _ h _ hs => ⟨h.spellable, hs.spellable⟩

end

mutual

theorem exists_literal : ∀ v : Value, v.Spellable → ∃ cs, v.Literal cs
  | .integer _, h => ⟨_, .integer 0 h⟩
  | .boolean b, _ =>
    ⟨(if b then "true" else "false").toList, .boolean (by cases b <;> decide +kernel)⟩
  | .string _, h => ⟨_, .string h⟩
  | .array [], _ => ⟨_, .emptyArray (List.forall_mem_nil _)⟩
  | .array (item :: items), h => by
    obtain ⟨cs, hcs⟩ := exists_itemLiterals (item :: items) h (List.cons_ne_nil item items)
    exact ⟨_, .array hcs⟩

theorem exists_itemLiterals : ∀ items : List Value, SpellableItems items → items ≠ [] →
    ∃ cs, ItemLiterals items cs
  | [], _, hne => absurd rfl hne
  | [item], ⟨h, _⟩, _ => by
    obtain ⟨cs, hcs⟩ := exists_literal item h
    exact ⟨_, .last (List.forall_mem_nil _) hcs (List.forall_mem_nil _)⟩
  | item :: next :: items, ⟨h, hs⟩, _ => by
    obtain ⟨cs, hcs⟩ := exists_literal item h
    obtain ⟨rest, hrest⟩ := exists_itemLiterals (next :: items) hs (List.cons_ne_nil next items)
    exact ⟨_, .cons (List.forall_mem_nil _) hcs (List.forall_mem_nil _) hrest⟩

end

theorem ItemLiterals.ne_nil {items : List Value} {cs : List Char} (h : ItemLiterals items cs) :
    items ≠ [] := by
  cases h <;> exact List.cons_ne_nil _ _

/-- **The values that can be written** are those that have a literal. -/
theorem spellable_iff {v : Value} : v.Spellable ↔ ∃ cs, v.Literal cs := by
  constructor
  · exact exists_literal v
  · rintro ⟨cs, h⟩
    exact h.spellable

end Value

/-! ### Words and digits -/

/-- The letters of a word in lower case are those of a word. -/
theorem Lexer.startsWord_of_toLower {c : Char} (h : startsWord c.toLower = true) :
    startsWord c = true := by
  by_cases hcapital : 'A'.val ≤ c.val ∧ c.val ≤ 'Z'.val
  · exact startsWord_iff.2 (.inl hcapital)
  · have hsame : c.toLower = c := dif_neg hcapital
    rwa [hsame] at h

/-- Digits are cut out where a word ends. -/
theorem Lexer.cut_digits {c : Char} {digits rest : List Char} (hc : c.isDigit = true)
    (hdigits : ∀ d ∈ digits, d.isDigit = true) (hrest : Ends rest) (column : Nat) :
    (Item.token ⟨.number, String.ofList (c :: digits), column⟩).Cut (c :: digits) rest := by
  refine .number hc hdigits fun d hd => ?_
  rw [Bool.eq_false_iff]
  intro hdigit
  have hword := hrest d hd
  rw [continuesWord_iff.2 (.inr hdigit)] at hword
  cases hword

/-! ### Reading what is written -/

open Lexer (ReadsAs Ends)

/-- **The term stands for a value**: in whatever context it is evaluated, it has this value, and
neither the host nor the record of calls is touched. -/
def Term.Means (t : Term) (v : Value) : Prop :=
  ∀ {σ : Type} (host : Host σ) (context : Object), Eval.term host context t = pure v

/-- Digits of a number that 64 bits can hold stand for this number. -/
theorem Term.means_number {c : Char} {digits : List Char} (hc : c.isDigit = true)
    (hdigits : ∀ d ∈ digits, d.isDigit = true) {n : Int64}
    (hn : (Numeral.ofDigits 0 (c :: digits) : Int) = n.toInt) (column : Nat) :
    (Term.number ⟨.number, String.ofList (c :: digits), column⟩).Means (.integer n) := by
  intro σ host context
  rw [Eval.term, Eval.number, String.toList_ofList, Numeral.whole?, Numeral.int?_of_digits hc hdigits,
    Option.bind_some, hn, Whole.ofInt?_toInt]
  rfl

/-- The terms stand for values. -/
def Term.ListMeans (ts : List Term) (vs : List Value) : Prop :=
  ∀ {σ : Type} (host : Host σ) (context : Object), Eval.terms host context ts = pure vs

theorem Term.ListMeans.cons {t : Term} {ts : List Term} {v : Value} {vs : List Value}
    (hs : ListMeans ts vs) (h : t.Means v) : ListMeans (t :: ts) (v :: vs) := by
  intro σ host context
  rw [Eval.terms, h host context, hs host context]
  rfl

theorem Term.ListMeans.array {ts : List Term} {vs : List Value} (h : ListMeans ts vs)
    (opening closing : Token) : (Term.array opening ts closing).Means (.array vs) := by
  intro σ host context
  rw [Eval.term, h host context]
  rfl

/-- A list that is not empty may follow a comma. -/
theorem Term.ListOf.behind {comma : Token} (hcomma : comma.kind = .comma) {es : List Term}
    {ts : List Token} (h : Term.ListOf es ts) (hne : es ≠ []) : Term.MoreOf es (comma :: ts) := by
  cases h with
  | nil => exact absurd rfl hne
  | cons h hmore => exact .cons hcomma h hmore

namespace Value

/-- From the column on, the characters are read as a term that stands for the value. -/
def ReadFrom (column : Nat) (cs : List Char) (v : Value) : Prop :=
  ∃ (ts : List Token) (t : Term), ReadsAs column cs ts ∧ t.DerivationOf ts ∧ t.Means v

/-- From the column on, the characters are read as a list of terms that stand for the items. -/
def ItemsReadFrom (column : Nat) (cs : List Char) (items : List Value) : Prop :=
  ∃ (ts : List Token) (es : List Term), ReadsAs column cs ts ∧ Term.ListOf es ts ∧
    Term.ListMeans es items ∧ es.length = items.length

theorem ReadFrom.of_token {t : Token} {text : List Char} {term : Term} {v : Value}
    (hcut : ∀ rest, Ends rest → (Item.token t).Cut text rest) (hterm : term.DerivationOf [t])
    (hmeans : term.Means v) : ReadFrom t.column text v :=
  ⟨[t], term, Lexer.readsAs_token hcut, hterm, hmeans⟩

theorem readFrom_integer {n : Int64} (zeros : Nat) (h : 0 ≤ n.toInt) (column : Nat) :
    ReadFrom column (List.replicate zeros '0' ++ Nat.toDigits 10 n.toInt.toNat) (.integer n) := by
  have hall : ∀ d ∈ List.replicate zeros '0' ++ Nat.toDigits 10 n.toInt.toNat,
      d.isDigit = true := by
    intro d hd
    rcases List.mem_append.1 hd with hd | hd
    · rw [List.eq_of_mem_replicate hd]
      rfl
    · exact Nat.isDigit_of_mem_toDigits (by decide) (by decide) hd
  have hvalue := Numeral.ofDigits_toDigits zeros n.toInt.toNat
  -- zero has a digit, too, so there is always a first one
  obtain ⟨c, digits, hcs⟩ := List.exists_cons_of_ne_nil
    (List.append_ne_nil_of_right_ne_nil (List.replicate zeros '0')
      (Nat.toDigits_ne_nil : Nat.toDigits 10 n.toInt.toNat ≠ []))
  rw [hcs] at hall hvalue ⊢
  obtain ⟨hc, hdigits⟩ := List.forall_mem_cons.1 hall
  exact .of_token (fun rest hrest => Lexer.cut_digits hc hdigits hrest column) (.number rfl)
    (Term.means_number hc hdigits (by omega) column)

theorem readFrom_boolean {b : Bool} {word : List Char}
    (h : word.map Char.toLower = (if b then "true" else "false").toList) (column : Nat) :
    ReadFrom column word (.boolean b) := by
  -- letters are letters in either case, so the word is read as one
  have hletters : ∀ c ∈ word, Lexer.startsWord c = true := by
    intro c hc
    have hall : (if b then "true" else "false").toList.all Lexer.startsWord = true := by
      cases b <;> decide +kernel
    exact Lexer.startsWord_of_toLower
      (List.all_eq_true.1 hall _ (h ▸ List.mem_map_of_mem hc))
  have hne : word ≠ [] := by
    rintro rfl
    cases b <;> exact absurd h (by decide +kernel)
  obtain ⟨c, more, rfl⟩ := List.exists_cons_of_ne_nil hne
  obtain ⟨hc, hmore⟩ := List.forall_mem_cons.1 hletters
  have hkind : Lexer.wordKind (c :: more) = if b then .keywordTrue else .keywordFalse := by
    rw [Lexer.wordKind, h, String.ofList_toList]
    cases b <;> rfl
  have hcut : ∀ rest, Ends rest → (Item.token
      ⟨if b then .keywordTrue else .keywordFalse, String.ofList (c :: more), column⟩).Cut
        (c :: more) rest := fun rest hrest =>
    .word hc (fun d hd => Lexer.continuesWord_iff.2 (.inl (hmore d hd))) hrest
      (TokenKind.wordKind_eq_iff.1 hkind)
  refine .of_token hcut (.boolean (by cases b <;> simp)) fun host context => ?_
  rw [Eval.term, Eval.truth, String.toList_ofList, h]
  cases b <;> rfl

/-- Exactly one quote is taken away at either end. -/
theorem unquote_quoted (cs : List Char) : Token.unquote ('"' :: (cs ++ ['"'])) = cs := by
  have hreverse : (cs ++ ['"']).reverse = '"' :: cs.reverse := List.reverse_concat
  simp only [Token.unquote, hreverse, List.reverse_reverse]

theorem readFrom_string {s : String} (h : '"' ∉ s.toList) (column : Nat) :
    ReadFrom column ('"' :: (s.toList ++ ['"'])) (.string s) := by
  have hcut : ∀ rest, Ends rest → (Item.token
      ⟨.string, String.ofList ('"' :: (s.toList ++ ['"'])), column⟩).Cut
        ('"' :: (s.toList ++ ['"'])) rest := fun _ _ => .string h
  refine .of_token hcut (.string rfl) fun host context => ?_
  rw [Eval.term, Token.content, String.toList_ofList, unquote_quoted, String.ofList_toList]

/-- What is read between the brackets are the items. -/
theorem ItemsReadFrom.array {column : Nat} {cs : List Char} {items : List Value}
    (h : ItemsReadFrom (column + 1) cs items) :
    ReadFrom column ('[' :: (cs ++ [']'])) (.array items) := by
  obtain ⟨ts, es, hreads, hlist, hmeans, -⟩ := h
  exact ⟨_, _, hreads.bracketed, .array rfl hlist rfl, hmeans.array _ _⟩

/-- The last item, and blanks around it. -/
theorem ReadFrom.last {column : Nat} {before cs after : List Char} {v : Value}
    (h : ReadFrom (column + before.length) cs v) (hbefore : ∀ c ∈ before, isBlank c = true)
    (hafter : ∀ c ∈ after, isBlank c = true) :
    ItemsReadFrom column (before ++ (cs ++ after)) [v] := by
  obtain ⟨ts, t, hreads, hterm, hmeans⟩ := h
  have hbehind := hreads.append (Lexer.readsAs_blanks _ hafter) (Lexer.ends_of_blanks hafter)
  have hlist : Term.ListMeans [] [] := fun _ _ => rfl
  exact ⟨_, [t], hbehind.blanks hbefore, .cons hterm .nil, hlist.cons hmeans, rfl⟩

/-- An item, blanks around it, a comma and further items. -/
theorem ReadFrom.cons {column : Nat} {before cs after rest : List Char} {v : Value}
    {items : List Value} (h : ReadFrom (column + before.length) cs v)
    (hbefore : ∀ c ∈ before, isBlank c = true) (hafter : ∀ c ∈ after, isBlank c = true)
    (hs : ItemsReadFrom (column + before.length + cs.length + after.length + 1) rest items)
    (hne : items ≠ []) :
    ItemsReadFrom column (before ++ (cs ++ (after ++ ',' :: rest))) (v :: items) := by
  obtain ⟨ts, t, hreads, hterm, hmeans⟩ := h
  obtain ⟨us, es, hrest, hlist, hlistMeans, hlength⟩ := hs
  have hes : es ≠ [] := by
    rintro rfl
    exact hne (List.length_eq_zero_iff.1 hlength.symm)
  have hends : Ends (after ++ ',' :: rest) :=
    (Lexer.ends_of_blanks hafter).append (Lexer.ends_cons (by decide) rest)
  have hbehind := hreads.append ((hrest.punctuation rfl).blanks hafter) hends
  exact ⟨_, t :: es, hbehind.blanks hbefore, .cons hterm (hlist.behind rfl hes),
    hlistMeans.cons hmeans, congrArg Nat.succ hlength⟩

mutual

/-- **A literal is read as its value**, wherever it stands. -/
theorem Literal.readFrom : ∀ (v : Value) {cs : List Char}, v.Literal cs → ∀ column : Nat,
    ReadFrom column cs v
  | .integer _, _, .integer zeros h, column => readFrom_integer zeros h column
  | .boolean _, _, .boolean h, column => readFrom_boolean h column
  | .string _, _, .string h, column => readFrom_string h column
  | .array _, _, .emptyArray hblanks, _ =>
    ItemsReadFrom.array ⟨[], [], Lexer.readsAs_blanks _ hblanks, .nil, fun _ _ => rfl, rfl⟩
  | .array items, _, .array h, _ => (ItemLiterals.readFrom items h _).array

theorem ItemLiterals.readFrom : ∀ (items : List Value) {cs : List Char}, ItemLiterals items cs →
    ∀ column : Nat, ItemsReadFrom column cs items
  | [item], _, .last hbefore h hafter, _ => (Literal.readFrom item h _).last hbefore hafter
  | item :: items, _, .cons hbefore h hafter hs, _ =>
    (Literal.readFrom item h _).cons hbefore hafter (ItemLiterals.readFrom items hs _) hs.ne_nil

end

end Value

/-- **Literals round-trip.** The values that can be written are those with a literal. Every literal
for a value is parsed, and in whatever context it is evaluated, the outcome is the value itself: the
same whole number, truth value or text, the same items in the same order. No call is made. -/
theorem literals_round_trip (v : Value) :
    (v.Spellable ↔ ∃ cs, v.Literal cs) ∧
      ∀ cs, v.Literal cs → ∃ e, parse (String.ofList cs) = .ok e ∧
        ∀ {σ : Type} (host : Host σ) (context : Object) (run : Run σ),
          e.evaluate host context run = (.ok v, run) := by
  refine ⟨Value.spellable_iff, fun cs h => ?_⟩
  obtain ⟨ts, t, hreads, hterm, hmeans⟩ := Value.Literal.readFrom v h 1
  have hlex : tokenize (String.ofList cs) = ⟨ts, []⟩ := by
    refine Lexer.ReadsAs.tokenize_eq ?_
    rwa [String.toList_ofList]
  refine ⟨.term t, ?_, fun host context run => ?_⟩
  · rw [parse_eq_ok_iff, hlex]
    exact ⟨rfl, .term hterm⟩
  · rw [Expr.evaluate_eq_ok, Eval.expr, hmeans host context]
    rfl

/-- In the middle of an array there are a text with a comma and brackets in it and a truth value in
capital letters. -/
theorem literals_round_trip_nested :
    ∃ e, parse "[ 007,[\"a, [b]\",TRUE ],[]]" = .ok e ∧
      e.evaluate (⟨fun _ _ s => (.ok .null, s)⟩ : Host Unit) [] ⟨(), []⟩ =
        (.ok (.array [.integer 7, .array [.string "a, [b]", .boolean true], .array []]),
          ⟨(), []⟩) := by
  have hnone : ∀ c ∈ ([] : List Char), isBlank c = true := List.forall_mem_nil _
  have hone : ∀ c ∈ [' '], isBlank c = true := List.forall_mem_singleton.2 rfl
  have hseven : (Value.integer 7).Literal "007".toList := .integer 2 (by decide)
  have htext : (Value.string "a, [b]").Literal "\"a, [b]\"".toList := .string (by decide +kernel)
  have htrue : (Value.boolean true).Literal "TRUE".toList := .boolean (by decide +kernel)
  have hinner : (Value.array [.string "a, [b]", .boolean true]).Literal
      "[\"a, [b]\",TRUE ]".toList := .array (.cons hnone htext hnone (.last hnone htrue hone))
  have hempty : (Value.array []).Literal "[]".toList := .emptyArray hnone
  have hall : (Value.array [.integer 7, .array [.string "a, [b]", .boolean true],
      .array []]).Literal "[ 007,[\"a, [b]\",TRUE ],[]]".toList :=
    .array (.cons hone hseven hnone (.cons hnone hinner hnone (.last hnone hempty hnone)))
  obtain ⟨e, hparse, heval⟩ := (literals_round_trip _).2 _ hall
  rw [String.ofList_toList] at hparse
  exact ⟨e, hparse, heval _ _ _⟩

end Parley
