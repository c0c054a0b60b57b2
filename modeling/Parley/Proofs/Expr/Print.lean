import Parley.Proofs.Expr.Bare
import Parley.Proofs.Expr.Leaves
import Parley.Proofs.Token.Tiling

/-!
# Writing an expression

An expression is written by its leaves, one after another with a blank between any two
(`Parley.Expr.print`). What is written is read again: tokens that their own texts spell are
found by the lexer in any such row (`Parley.Token.tokenize_spell`), and their derivation is the
expression that has been written, up to the layout (`Parley.Expr.parse_print`).

A tree does not keep the commas of its lists, so the leaves supply them.
-/

namespace Parley

/-- A token stays where it is cut out if it stands at another column and in front of a blank, or
of nothing. -/
theorem Item.Cut.move {t : Token} {text rest rest' : List Char}
    (h : (Item.token t).Cut text rest) (column : Nat)
    (hblank : ∀ c ∈ rest'.head?, isBlank c = true) :
    (Item.token ⟨t.kind, t.lexeme, column⟩).Cut text rest' :=
  h.of_next column fun c hc => .inl (Lexer.continuesWord_of_isBlank (hblank c hc))

namespace Token

/-! ### Rows of tokens -/

/-- **The token is spelled by its text**: the lexer makes the token of it. -/
def Spelled (t : Token) : Prop :=
  (Item.token t).Cut t.lexeme.toList []

/-- The tokens of a source are spelled by their texts. -/
theorem spelled_of_mem_tokens {source : String} {t : Token}
    (h : t ∈ (tokenize source).tokens) : t.Spelled := by
  obtain ⟨front, text, rest, -, -, hcut⟩ :=
    (tiling_itemsOf source).exists_cut (mem_tokens_iff.1 h)
  rw [Spelled, hcut.toList_lexeme]
  exact hcut.move t.column (by simp)

theorem spelled_punctuation {c : Char} {kind : TokenKind} (column : Nat)
    (h : TokenKind.ofPunctuation? c = some kind) :
    Spelled ⟨kind, String.singleton c, column⟩ := by
  rw [Spelled, String.toList_singleton]
  exact .punctuation h

/-- The texts of the tokens, with a blank between any two. -/
def spell (ts : List Token) : String :=
  " ".intercalate (ts.map lexeme)

/-- The tokens where they stand if they are written from a column on. -/
def placed (column : Nat) : List Token → List Token
  | [] => []
  | t :: ts => ⟨t.kind, t.lexeme, column⟩ :: placed (column + t.width + 1) ts

theorem map_bare_placed (column : Nat) (ts : List Token) :
    (placed column ts).map bare = ts.map bare := by
  induction ts generalizing column with
  | nil => rfl
  | cons t ts ih =>
    rw [placed, List.map_cons, List.map_cons, ih]
    rfl

theorem toList_spell_cons (t u : Token) (ts : List Token) :
    (spell (t :: u :: ts)).toList = t.lexeme.toList ++ ' ' :: (spell (u :: ts)).toList := by
  simp [spell, String.toList_intercalate]

/-- **What is written is found again.** -/
theorem tiling_spell {ts : List Token} (h : ∀ t ∈ ts, t.Spelled) (column : Nat) :
    Lexer.Tiling column (spell ts).toList ((placed column ts).map .token) := by
  induction ts generalizing column with
  | nil => exact .nil
  | cons t ts ih =>
    obtain ⟨ht, hts⟩ := List.forall_mem_cons.1 h
    cases ts with
    | nil =>
      have hcut : (Item.token ⟨t.kind, t.lexeme, column⟩).Cut t.lexeme.toList [] :=
        ht.move column (by simp)
      have htiling : Lexer.Tiling column (t.lexeme.toList ++ [])
          [.token ⟨t.kind, t.lexeme, column⟩] := .cut rfl hcut .nil
      simpa [spell, placed] using htiling
    | cons u ts =>
      rw [toList_spell_cons]
      refine .cut rfl (ht.move column ?_) (.blank (by decide) (ih hts _))
      rintro _ ⟨⟩
      decide

theorem tokenize_spell {ts : List Token} (h : ∀ t ∈ ts, t.Spelled) :
    tokenize (spell ts) = ⟨placed 1 ts, []⟩ :=
  tokenize_of_tiling (tiling_spell h 1)

theorem Spelled.written {t : Token} (h : t.Spelled) : t.written.Spelled := by
  unfold Token.written
  split
  · exact spelled_punctuation (c := ',') 0 rfl
  · exact h

/-- A comma is spelled in one way. -/
theorem Spelled.lexeme_of_comma {t : Token} (h : t.Spelled) (hk : t.kind = .comma) :
    t.lexeme = "," := by
  unfold Spelled at h
  generalize t.lexeme.toList = text at h
  cases h with
  | string _ => cases hk
  | number _ _ _ => cases hk
  | word _ _ _ hkind =>
    obtain rfl := hk
    cases hkind.2 rfl
  | @punctuation c _ _ _ hkind =>
    obtain rfl := hk
    unfold TokenKind.ofPunctuation? at hkind
    split at hkind <;> first | rfl | cases hkind

theorem Spelled.bare_written {t : Token} (h : t.Spelled) : t.written.bare = t.bare := by
  unfold Token.written
  split
  · rename_i hk
    have hlexeme := h.lexeme_of_comma hk
    obtain ⟨kind, lexeme, column⟩ := t
    obtain rfl : kind = .comma := hk
    obtain rfl : lexeme = "," := hlexeme
    rfl
  · rfl

end Token

/-! ### Reading what is written -/

/-- **Writes an expression**: its leaves, with a blank between any two. -/
def Expr.print (e : Expr) : String :=
  Token.spell e.leaves

/-- **What is written is parsed** to the expression that has been written, up to the layout. -/
theorem Expr.parse_print {e : Expr} {ts : List Token} (h : e.DerivationOf ts)
    (hts : ∀ t ∈ ts, t.Spelled) :
    ∃ e' us, parse e.print = .ok e' ∧ e'.DerivationOf us ∧ e'.bare = e.bare := by
  have hspelled : ∀ t ∈ e.leaves, t.Spelled := by
    rw [e.leaves_eq h]
    intro t ht
    obtain ⟨u, hu, rfl⟩ := List.mem_map.1 ht
    exact (hts u hu).written
  have hlex : tokenize e.print = ⟨Token.placed 1 e.leaves, []⟩ := Token.tokenize_spell hspelled
  -- the tokens that are read again differ from the old ones in their layout only
  have hbare : (Token.placed 1 e.leaves).map Token.bare = ts.map Token.bare := by
    rw [Token.map_bare_placed, e.leaves_eq h, List.map_map]
    exact List.map_congr_left fun t ht => (hts t ht).bare_written
  have hderivable : Grammar.Derivable ((Token.placed 1 e.leaves).map Token.kind) := by
    rw [Token.map_kind_of_map_bare hbare]
    exact derivable_iff_exists_derivationOf.2 ⟨e, h⟩
  obtain ⟨e', he'⟩ := derivable_iff_exists_derivationOf.1 hderivable
  refine ⟨e', _, parse_eq_ok_iff.2 ?_, he', Expr.bare_eq_of_derivationOf he' h hbare⟩
  rw [hlex]
  exact ⟨rfl, he'⟩

end Parley
