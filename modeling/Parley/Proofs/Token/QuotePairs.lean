import Mathlib.Data.List.Basic
import Parley.Proofs.Token.Joined

/-!
# Quotes are paired in order

The quotes of a source are taken two at a time, from the front: each pair is the beginning and the
end of one string literal (`Parley.Lexer.Tiling.quotes`). The induction goes along the items. An item
that is no string literal has no quote in it, and a string literal has two, so that at the beginning
of an item all quotes in front of it are paired. Only the last quote can be without another, and
this is where the count of quotes is odd.

What stands behind that quote is read as if it stood alone, further to the right
(`Parley.itemsOf_unterminated`), because nothing in front of the quote is left open.
-/

namespace Parley

namespace Lexer

/-! ### Two at a time -/

/-- The quotes of string literals, each with the one that closes it. -/
def quotePairs : List Nat → List (Nat × Nat)
  | opening :: closing :: quotes => (opening, closing) :: quotePairs quotes
  | _ => []

/-- The quote that is left over when the others are paired. -/
def leftQuote? : List Nat → Option Nat
  | _ :: _ :: quotes => leftQuote? quotes
  | quotes => quotes.head?

theorem length_quotePairs (quotes : List Nat) :
    (quotePairs quotes).length = quotes.length / 2 := by
  fun_induction quotePairs quotes with
  | case1 opening closing quotes ih =>
    simp only [List.length_cons, ih]
    omega
  | case2 quotes hfew =>
    rcases quotes with _ | ⟨a, _ | ⟨b, quotes⟩⟩
    · rfl
    · simp
    · exact absurd rfl (hfew a b quotes)

/-- The pair with the number `i` is made of the quotes with the numbers `2 * i` and
`2 * i + 1`. -/
theorem getElem?_of_getElem?_quotePairs {quotes : List Nat} {i opening closing : Nat}
    (h : (quotePairs quotes)[i]? = some (opening, closing)) :
    quotes[2 * i]? = some opening ∧ quotes[2 * i + 1]? = some closing := by
  fun_induction quotePairs quotes generalizing i with
  | case1 a b quotes ih =>
    cases i with
    | zero =>
      cases h
      exact ⟨rfl, rfl⟩
    | succ i => exact ih h
  | case2 quotes hfew => cases h

/-- A quote is left over if there is an odd number of them, and it is the last one. -/
theorem leftQuote?_eq (quotes : List Nat) :
    leftQuote? quotes = if quotes.length % 2 = 1 then quotes.getLast? else none := by
  fun_induction leftQuote? quotes with
  | case1 a b quotes ih =>
    have hlength : (a :: b :: quotes).length % 2 = quotes.length % 2 := by
      simp only [List.length_cons]
      omega
    rw [ih, hlength]
    cases quotes with
    | nil => rfl
    | cons c quotes => rw [List.getLast?_cons_cons, List.getLast?_cons_cons]
  | case2 quotes hfew =>
    rcases quotes with _ | ⟨a, _ | ⟨b, quotes⟩⟩
    · rfl
    · rfl
    · exact absurd rfl (hfew a b quotes)

/-! ### Along the items -/

/-- Where a token begins and where it ends, both included. -/
def span (t : Token) : Nat × Nat :=
  (t.column, t.column + t.width - 1)

/-- The string literals among items. -/
def strings (items : List Item) : List Token :=
  (items.filterMap Item.token?).filter (·.kind = .string)

/-- The errors among items that are about a quote. -/
def unterminated (items : List Item) : List SyntaxError :=
  (items.filterMap Item.error?).filter (·.complaint = .unterminatedString)

/-- **Only string literals have quotes in them**, and these have two. -/
theorem quotes_of_cut {t : Token} {text rest : List Char} (h : (Item.token t).Cut text rest) :
    (t.kind ≠ .string ∧ '"' ∉ text) ∨
      (t.kind = .string ∧ ∃ inner, '"' ∉ inner ∧ text = '"' :: (inner ++ ['"'])) := by
  rcases Template.plain_or_string_of_cut h with hplain | hstring
  · have hquote : '"' ∉ text := fun hmem => (hplain _ hmem).1 rfl
    refine .inl ⟨?_, hquote⟩
    cases h with
    | @punctuation c kind _ _ hkind =>
      rintro rfl
      unfold TokenKind.ofPunctuation? at hkind
      split at hkind <;> cases hkind
    | string _ => exact absurd List.mem_cons_self hquote
    | number _ _ _ => exact TokenKind.noConfusion
    | word _ _ _ hkind =>
      rintro rfl
      cases hkind.2 rfl
  · exact .inr hstring

theorem idxsOf_of_not_mem {text : List Char} (h : '"' ∉ text) (column : Nat) :
    text.idxsOf '"' column = [] := by
  rw [List.idxsOf_eq_nil_iff]
  exact fun c hc => beq_eq_false_iff_ne.2 fun heq => h (heq ▸ hc)

/-- A string literal has one quote at each end. -/
theorem idxsOf_string {inner : List Char} (h : '"' ∉ inner) (column : Nat) :
    ('"' :: (inner ++ ['"'])).idxsOf '"' column = [column, column + 1 + inner.length] := by
  rw [List.idxsOf_cons, if_pos (beq_self_eq_true _), List.idxsOf_append, idxsOf_of_not_mem h]
  rfl

/-- **The string literals are the pairs of quotes**, and the quote that is reported is the one that
is left over. -/
theorem Tiling.quotes {column : Nat} {cs : List Char} {items : List Item}
    (h : Tiling column cs items) :
    (strings items).map span = quotePairs (cs.idxsOf '"' column) ∧
      (unterminated items).map (·.column) = (leftQuote? (cs.idxsOf '"' column)).toList := by
  induction h with
  | nil => exact ⟨rfl, rfl⟩
  | @blank column c cs items hblank _ ih =>
    have hquote : (c == '"') = false := by
      refine beq_eq_false_iff_ne.2 ?_
      rintro rfl
      exact absurd hblank (by decide)
    rwa [List.idxsOf_cons, hquote]
  | @cut column item text rest items hcolumn hcut _ ih =>
    rw [List.idxsOf_append, hcut.length_eq]
    cases item with
    | token t =>
      rcases quotes_of_cut hcut with ⟨hkind, htext⟩ | ⟨hkind, inner, hinner, rfl⟩
      · have hstrings : strings (.token t :: items) = strings items :=
          List.filter_cons_of_neg (by simp [hkind])
        rw [idxsOf_of_not_mem htext, List.nil_append, hstrings]
        exact ih
      · have hstrings : strings (.token t :: items) = t :: strings items :=
          List.filter_cons_of_pos (by simp [hkind])
        have hspan : span t = (column, column + 1 + inner.length) := by
          have hwidth := hcut.length_eq
          simp only [List.length_cons, List.length_append, List.length_nil] at hwidth
          simp only [span, Prod.mk.injEq]
          exact ⟨hcolumn, by simp only [Item.column, Item.width] at hcolumn hwidth; omega⟩
        rw [idxsOf_string hinner, hstrings, List.map_cons, hspan, ih.1]
        exact ⟨rfl, ih.2⟩
    | error e =>
      cases hcut with
      | @unterminated place _ hrest =>
        -- there is no quote behind it, so that none is paired or left over
        rw [idxsOf_of_not_mem hrest] at ih ⊢
        refine ⟨ih.1, ?_⟩
        change place :: (unterminated items).map (·.column) = [column]
        rw [ih.2]
        exact congrArg (fun n => [n]) hcolumn
      | @unexpected c _ _ _ hstarts =>
        have hquote : '"' ∉ [c] := by
          rintro hmem
          obtain rfl := List.mem_singleton.1 hmem
          cases hstarts
        rw [idxsOf_of_not_mem hquote, List.nil_append]
        exact ih

end Lexer

/-! ### Behind the last quote -/

/-- **A quote without another** is reported, and what stands in front of it and behind it is read as
if it stood alone. -/
theorem itemsOf_unterminated {front rest : String} (heven : Template.EvenQuotes front.toList)
    (hrest : '"' ∉ rest.toList) :
    itemsOf (front ++ "\"" ++ rest) = itemsOf front ++
      .error ⟨.unterminatedString, front.length + 1⟩ ::
        (itemsOf rest).map (Item.moved (front.length + 1)) := by
  have hbehind : Lexer.Tiling (front.length + 1) ('"' :: rest.toList)
      (.error ⟨.unterminatedString, front.length + 1⟩ ::
        (itemsOf rest).map (Item.moved (front.length + 1))) := by
    have hcut : Item.Cut (.error ⟨.unterminatedString, front.length + 1⟩) ['"'] rest.toList :=
      .unterminated hrest
    refine .cut rfl hcut ?_
    have hmoved := (tiling_itemsOf rest).moved (front.length + 1)
    rwa [Nat.add_comm] at hmoved
  have hends : ∀ c ∈ ('"' :: rest.toList).head?, Lexer.continuesWord c = false := by
    rintro _ ⟨⟩
    decide
  rw [← String.length_toList, Nat.add_comm] at hbehind
  have hall := (tiling_itemsOf front).append heven hends hbehind
  have hsource : (front ++ "\"" ++ rest).toList = front.toList ++ '"' :: rest.toList := by
    simp
  rw [← hsource, String.length_toList, Nat.add_comm 1] at hall
  exact (Lexer.tiling_iff.1 hall).symm

/-- **Quotes are paired in order.** Of the quotes of a source the first two are the ends of the
first string literal, the next two those of the second one and so on, and there are no other string
literals. A quote is reported as unterminated if and only if there is an odd number of them, and
then only the last one. What stands behind it is read as it is read alone, and so is what stands in
front of it. -/
theorem quotes_are_paired_in_order (source : String) :
    ((tokenize source).tokens.filter (·.kind = .string)).length = source.toList.count '"' / 2 ∧
      (∀ i t, ((tokenize source).tokens.filter (·.kind = .string))[i]? = some t →
        (source.toList.idxsOf '"' 1)[2 * i]? = some t.column ∧
          (source.toList.idxsOf '"' 1)[2 * i + 1]? = some (t.column + t.width - 1)) ∧
      ((tokenize source).errors.filter (·.complaint = .unterminatedString)).map (·.column) =
        (if source.toList.count '"' % 2 = 1 then (source.toList.idxsOf '"' 1).getLast?
          else none).toList ∧
      ∀ front rest : String, source = front ++ "\"" ++ rest →
        source.toList.count '"' % 2 = 1 → '"' ∉ rest.toList →
        (tokenize source).tokens = (tokenize front).tokens ++
            (tokenize rest).tokens.map (Token.moved (front.length + 1)) ∧
          (tokenize source).errors = (tokenize front).errors ++
            ⟨.unterminatedString, front.length + 1⟩ ::
              (tokenize rest).errors.map (SyntaxError.moved (front.length + 1)) := by
  obtain ⟨hpairs, hleft⟩ := (tiling_itemsOf source).quotes
  have hcount : (source.toList.idxsOf '"' 1).length = source.toList.count '"' := List.length_idxsOf
  refine ⟨?_, fun i t ht => ?_, ?_, fun front rest hsource hodd hrest => ?_⟩
  · have hlength := congrArg List.length hpairs
    rwa [List.length_map, Lexer.length_quotePairs, hcount] at hlength
  · refine Lexer.getElem?_of_getElem?_quotePairs ?_
    rw [← hpairs, List.getElem?_map]
    exact congrArg (Option.map Lexer.span) ht
  · rw [← hcount, ← Lexer.leftQuote?_eq]
    exact hleft
  · have heven : Template.EvenQuotes front.toList := by
      have hone : ("\"" : String).toList.count '"' = 1 := rfl
      rw [hsource, String.toList_append, String.toList_append, List.count_append,
        List.count_append, hone, List.count_eq_zero.2 hrest] at hodd
      unfold Template.EvenQuotes
      omega
    have hitems := itemsOf_unterminated heven hrest
    simp only [tokenize, hsource, hitems, List.filterMap_append, List.filterMap_cons,
      Item.token?, Item.error?]
    rw [filterMap_moved (Item.token?_moved _), filterMap_moved (Item.error?_moved _)]
    exact ⟨rfl, rfl⟩

/-- The third quote is left over, and the word and the number behind it are tokens. -/
theorem quotes_are_paired_in_order_left :
    "\"x\" in \"yz 1" = "\"x\" in " ++ "\"" ++ "yz 1" ∧
      "\"x\" in \"yz 1".toList.count '"' % 2 = 1 ∧ '"' ∉ "yz 1".toList ∧
      (tokenize "\"x\" in \"yz 1").tokens =
        [⟨.string, "\"x\"", 1⟩, ⟨.keywordIn, "in", 5⟩, ⟨.identifier, "yz", 9⟩, ⟨.number, "1", 12⟩] ∧
      (tokenize "\"x\" in \"yz 1").errors = [⟨.unterminatedString, 8⟩] := by
  have hsource : "\"x\" in \"yz 1" = "\"x\" in " ++ "\"" ++ "yz 1" := by decide
  have hodd : "\"x\" in \"yz 1".toList.count '"' % 2 = 1 := by decide
  have hrest : '"' ∉ "yz 1".toList := by decide
  obtain ⟨-, -, -, hbehind⟩ := quotes_are_paired_in_order "\"x\" in \"yz 1"
  obtain ⟨htokens, herrors⟩ := hbehind "\"x\" in " "yz 1" hsource hodd hrest
  refine ⟨hsource, hodd, hrest, htokens.trans ?_, herrors.trans ?_⟩
  · decide +kernel
  · decide +kernel

end Parley
