import Parley.Proofs.Parser.Walk

/-!
# The errors of a source in the order of their columns

When a source has errors of the lexer, all its errors are sorted by column. When it has none, the
errors of the reader are shown as they were met. That these are in order as well is due to the way
the reader goes: it walks along the tokens, whose columns increase, and what it reports is at the
column of the token that comes next, or just past the last one (`Parley.Parser.Walk.columns`).

The sort is stable. So at each column there stand first the errors of the lexer and then those of
the reader, each in their own order (`Parley.filter_sortByColumn`). The two meet where the reader
misses something at the end of the tokens and the lexer has found no token behind them.
-/

namespace Parley

/-! ### The columns of the lexer -/

variable (source : String)

/-- An error of the lexer is at a character of the source. -/
theorem errors_in_source {e : SyntaxError} (h : e ∈ (tokenize source).errors) :
    1 ≤ e.column ∧ e.column ≤ source.length := by
  have hitem := mem_errors_iff.1 h
  have hle := (tiling_itemsOf source).column_add_width_le hitem
  rw [String.length_toList] at hle
  refine ⟨(tiling_itemsOf source).le_column hitem, ?_⟩
  simp only [Item.column, Item.width] at hle
  omega

/-- A token is in the source. -/
theorem tokens_in_source {t : Token} (h : t ∈ (tokenize source).tokens) :
    1 ≤ t.column ∧ t.column + t.width ≤ source.length + 1 := by
  have hitem := mem_tokens_iff.1 h
  have hle := (tiling_itemsOf source).column_add_width_le hitem
  rw [String.length_toList, Nat.add_comm 1] at hle
  exact ⟨(tiling_itemsOf source).le_column hitem, hle⟩

/-- The columns of the errors of the lexer increase. -/
theorem errors_increasing :
    (tokenize source).errors.Pairwise fun e f => e.column < f.column := by
  refine List.pairwise_filterMap.2 ((lexer_tiles_the_source source).increasing.imp ?_)
  rintro (t | e) (u | f) hlt e' he f' hf
  all_goals cases he
  all_goals cases hf
  exact hlt

/-! ### The columns of the reader -/

namespace Parser

/-- The column just past the last token is in the source or just past it. -/
theorem endColumn_bounds : 1 ≤ endColumn (tokenize source).tokens ∧
    endColumn (tokenize source).tokens ≤ source.length + 1 := by
  rw [endColumn]
  cases hlast : (tokenize source).tokens.getLast? with
  | none => exact ⟨Nat.le_refl _, Nat.le_add_left _ _⟩
  | some t =>
    obtain ⟨hle, hend⟩ := tokens_in_source source (List.mem_of_getLast? hlast)
    exact ⟨Nat.le_trans hle (Nat.le_add_right _ _), hend⟩

/-- No token is behind it. -/
theorem column_le_endColumn {t : Token} (h : t ∈ (tokenize source).tokens) :
    t.column ≤ endColumn (tokenize source).tokens := by
  rw [endColumn]
  cases hlast : (tokenize source).tokens.getLast? with
  | none =>
    rw [List.getLast?_eq_none_iff.1 hlast] at h
    cases h
  | some last =>
    obtain ⟨front, heq⟩ := List.getLast?_eq_some_iff.1 hlast
    have hincreasing := tokens_increasing source
    rw [heq] at h hincreasing
    refine Nat.le_trans ?_ (Nat.le_add_right _ _)
    rcases List.mem_append.1 h with hfront | hself
    · have hlt := (List.pairwise_append.1 hincreasing).2.2 t hfront last (List.mem_singleton_self _)
      exact Nat.le_of_lt hlt
    · exact Nat.le_of_eq (congrArg Token.column (List.mem_singleton.1 hself))

/-- The tokens increase in column up to `stop`. -/
structure Increasing (stop : Nat) (ts : List Token) : Prop where
  pairwise : ts.Pairwise fun t u => t.column < u.column
  le_stop : ∀ t ∈ ts, t.column ≤ stop

/-- The next token is in the source, or there is none. -/
theorem nextColumn_bounds {rest : List Token} (h : ∀ t ∈ rest, t ∈ (tokenize source).tokens) :
    1 ≤ nextColumn (endColumn (tokenize source).tokens) rest ∧
      nextColumn (endColumn (tokenize source).tokens) rest ≤ source.length + 1 := by
  cases rest with
  | nil => exact endColumn_bounds source
  | cons t rest =>
    obtain ⟨hle, hend⟩ := tokens_in_source source (h t List.mem_cons_self)
    exact ⟨hle, Nat.le_trans (Nat.le_add_right _ _) hend⟩

theorem increasing_tokens :
    Increasing (endColumn (tokenize source).tokens) (tokenize source).tokens :=
  ⟨tokens_increasing source, fun _ => column_le_endColumn source⟩

variable {source} {stop : Nat} {ts us rest : List Token} {errors : List SyntaxError}

namespace Increasing

theorem tail {t : Token} (h : Increasing stop (t :: ts)) : Increasing stop ts :=
  ⟨h.pairwise.tail, fun u hu => h.le_stop u (List.mem_cons_of_mem t hu)⟩

/-- Behind a token the columns are greater. -/
theorem column_le {t : Token} (h : Increasing stop (t :: ts)) :
    t.column ≤ nextColumn stop ts := by
  cases ts with
  | nil => exact h.le_stop t List.mem_cons_self
  | cons u ts => exact Nat.le_of_lt ((List.pairwise_cons.1 h.pairwise).1 u List.mem_cons_self)

end Increasing

/-- **On a walk the columns never go back**: whatever is reported is between the column of the token
where the walk begins and that of the token where it ends, and the errors are in order. -/
theorem Walk.columns (h : Walk stop ts us errors rest) (hts : Increasing stop ts) :
    errors.Pairwise (fun e f => e.column ≤ f.column) ∧
      nextColumn stop ts ≤ nextColumn stop rest ∧
      ∀ e ∈ errors, nextColumn stop ts ≤ e.column ∧ e.column ≤ nextColumn stop rest := by
  induction h with
  | done => exact ⟨.nil, Nat.le_refl _, by simp⟩
  | take _ ih =>
    obtain ⟨hordered, hle, hbetween⟩ := ih hts.tail
    have hcolumn := hts.column_le
    exact ⟨hordered, Nat.le_trans hcolumn hle, fun e he =>
      ⟨Nat.le_trans hcolumn (hbetween e he).1, (hbetween e he).2⟩⟩
  | drop complaint _ ih =>
    obtain ⟨hordered, hle, hbetween⟩ := ih hts.tail
    have hcolumn := hts.column_le
    have hbehind := fun e he => Nat.le_trans hcolumn (hbetween e he).1
    refine ⟨.cons hbehind hordered, Nat.le_trans hcolumn hle, List.forall_mem_cons.2 ⟨?_, ?_⟩⟩
    · exact ⟨Nat.le_refl _, Nat.le_trans hcolumn hle⟩
    · exact fun e he => ⟨hbehind e he, (hbetween e he).2⟩
  | report complaint _ ih =>
    obtain ⟨hordered, hle, hbetween⟩ := ih hts
    refine ⟨.cons (fun e he => (hbetween e he).1) hordered, hle, List.forall_mem_cons.2 ⟨?_, ?_⟩⟩
    · exact ⟨Nat.le_refl _, hle⟩
    · exact hbetween

end Parser

/-- What the reader reports of a source is in order, and it is in the source or just past it. -/
theorem reading_errors_in_order (source : String) :
    (Reading.ofTokens (tokenize source).tokens).errors.Pairwise
        (fun e f => e.column ≤ f.column) ∧
      ∀ e ∈ (Reading.ofTokens (tokenize source).tokens).errors,
        1 ≤ e.column ∧ e.column ≤ source.length + 1 := by
  obtain ⟨us, hwalk, -⟩ := Parser.exists_walk source
  obtain ⟨passed, hts, -⟩ := hwalk.exists_passed
  obtain ⟨hordered, -, hbetween⟩ := hwalk.columns (Parser.increasing_tokens source)
  obtain ⟨hfirst, -⟩ := Parser.nextColumn_bounds source fun _ ht => ht
  obtain ⟨hnext, hlast⟩ := Parser.nextColumn_bounds source fun t ht =>
    hts ▸ List.mem_append_right passed ht
  have hread : ∀ e ∈ (Parser.expression (tokenize source).tokens).errors,
      1 ≤ e.column ∧ e.column ≤ source.length + 1 := fun e he =>
    ⟨Nat.le_trans hfirst (hbetween e he).1, Nat.le_trans (hbetween e he).2 hlast⟩
  rw [Reading.errors_ofTokens]
  generalize Parser.expression (tokenize source).tokens = read at *
  cases hrest : read.rest with
  | nil =>
    rw [List.head?_nil, Option.map_none, Option.toList_none, List.append_nil]
    exact ⟨hordered, hread⟩
  | cons t rest =>
    rw [hrest] at hbetween hnext hlast
    rw [List.head?_cons, Option.map_some, Option.toList_some]
    constructor
    · refine List.pairwise_append.2 ⟨hordered, List.pairwise_singleton _ _, fun e he f hf => ?_⟩
      rw [List.mem_singleton.1 hf]
      exact (hbetween e he).2
    · intro e he
      rcases List.mem_append.1 he with he | he
      · exact hread e he
      · rw [List.mem_singleton.1 he]
        exact ⟨hnext, hlast⟩

/-! ### The sort -/

theorem sortByColumn_perm (errors : List SyntaxError) : (sortByColumn errors).Perm errors :=
  List.mergeSort_perm _ _

theorem sortByColumn_ordered (errors : List SyntaxError) :
    (sortByColumn errors).Pairwise fun e f => e.column ≤ f.column := by
  have h : (sortByColumn errors).Pairwise fun e f => decide (e.column ≤ f.column) = true :=
    List.pairwise_mergeSort (fun e f g => by simpa using Nat.le_trans)
      (fun e f => by simpa using Nat.le_total _ _) errors
  simpa only [decide_eq_true_eq] using h

/-- Errors that are in order stay so. -/
theorem sublist_sortByColumn {es errors : List SyntaxError} (h : es.Sublist errors)
    (hes : es.Pairwise fun e f => e.column ≤ f.column) : es.Sublist (sortByColumn errors) :=
  List.sublist_mergeSort (fun e f g => by simpa using Nat.le_trans)
    (fun e f => by simpa using Nat.le_total _ _) (by simpa only [decide_eq_true_eq] using hes) h

/-- The sort does nothing to errors that are in order. -/
theorem sortByColumn_of_ordered {errors : List SyntaxError}
    (h : errors.Pairwise fun e f => e.column ≤ f.column) : sortByColumn errors = errors :=
  List.mergeSort_of_pairwise (by simpa only [decide_eq_true_eq] using h)

/-- **The sort is stable**: the errors at one column keep their order. -/
theorem filter_sortByColumn (errors : List SyntaxError) (column : Nat) :
    (sortByColumn errors).filter (·.column = column) = errors.filter (·.column = column) := by
  have hcolumn : ∀ {e}, e ∈ errors.filter (·.column = column) → e.column = column := by
    intro e he
    simpa using (List.mem_filter.1 he).2
  have hsame : (errors.filter (·.column = column)).Pairwise fun e f => e.column ≤ f.column :=
    List.pairwise_of_forall_mem_list fun e he f hf =>
      Nat.le_of_eq ((hcolumn he).trans (hcolumn hf).symm)
  have hsublist := (sublist_sortByColumn List.filter_sublist hsame).filter (·.column = column)
  rw [List.filter_filter] at hsublist
  simp only [Bool.and_self] at hsublist
  exact (hsublist.eq_of_length ((sortByColumn_perm errors).filter _).length_eq.symm).symm

/-! ### Both together -/

/-- The errors of a source that is not accepted are sorted, also where this is not done. -/
theorem parse_eq_error {source : String} {es : List SyntaxError} (h : parse source = .error es) :
    es ≠ [] ∧ es = sortByColumn
      ((tokenize source).errors ++ (Reading.ofTokens (tokenize source).tokens).errors) := by
  have hperm := sortByColumn_perm
    ((tokenize source).errors ++ (Reading.ofTokens (tokenize source).tokens).errors)
  rw [parse] at h
  cases hlex : (tokenize source).errors with
  | nil =>
    have hsorted := sortByColumn_of_ordered (reading_errors_in_order source).1
    simp only [hlex, List.isEmpty_nil, if_true, Reading.checked] at h
    split at h
    · cases h
    · rename_i hne
      cases h
      exact ⟨by simpa using hne, hsorted.symm⟩
  | cons e errors =>
    simp only [hlex, List.isEmpty_cons, Bool.false_eq_true, if_false] at h
    cases h
    refine ⟨?_, rfl⟩
    rw [hlex] at hperm
    exact fun hnil => absurd (hperm.symm.trans (hnil ▸ .refl _)).eq_nil (List.cons_ne_nil _ _)

/-- **The errors of a source are complete and in order.** If a source is not accepted, there are
errors, and they are those of the lexer and those of the reader on the tokens it was given, in the
order of their columns; without errors of the lexer they are as the reader met them. Both groups
keep their order, and at each column the errors of the lexer come first. Every column is in the
source or just past it. -/
theorem syntax_errors_are_complete_and_in_order {source : String} {es : List SyntaxError}
    (h : parse source = .error es) :
    es ≠ [] ∧
      es.Perm ((tokenize source).errors ++ (Reading.ofTokens (tokenize source).tokens).errors) ∧
      es.Pairwise (fun e f => e.column ≤ f.column) ∧
      ((tokenize source).errors = [] →
        es = (Reading.ofTokens (tokenize source).tokens).errors) ∧
      (tokenize source).errors.Sublist es ∧
      (Reading.ofTokens (tokenize source).tokens).errors.Sublist es ∧
      (∀ column, es.filter (·.column = column) =
        (tokenize source).errors.filter (·.column = column) ++
          (Reading.ofTokens (tokenize source).tokens).errors.filter (·.column = column)) ∧
      ∀ e ∈ es, 1 ≤ e.column ∧ e.column ≤ source.length + 1 := by
  obtain ⟨hne, rfl⟩ := parse_eq_error h
  obtain ⟨hordered, hbounds⟩ := reading_errors_in_order source
  have hlexed := (errors_increasing source).imp fun {_ _} hlt => Nat.le_of_lt hlt
  have hperm := sortByColumn_perm
    ((tokenize source).errors ++ (Reading.ofTokens (tokenize source).tokens).errors)
  refine ⟨hne, hperm, sortByColumn_ordered _, ?_, ?_, ?_, fun column => ?_, fun e he => ?_⟩
  · intro hnone
    rw [hnone, List.nil_append, sortByColumn_of_ordered hordered]
  · exact sublist_sortByColumn (List.sublist_append_left _ _) hlexed
  · exact sublist_sortByColumn (List.sublist_append_right _ _) hordered
  · rw [filter_sortByColumn, List.filter_append]
  · rcases List.mem_append.1 (hperm.mem_iff.1 he) with he | he
    · obtain ⟨hle, hend⟩ := errors_in_source source he
      exact ⟨hle, Nat.le_succ_of_le hend⟩
    · exact hbounds e he

/-- In `a.$` the lexer finds no token at the third column, and the reader misses a name there. -/
theorem syntax_errors_are_complete_and_in_order_tie :
    parse "a.$" = .error [⟨.unexpectedCharacter '$', 3⟩, ⟨.expected .identifier none, 3⟩] ∧
      [(⟨.unexpectedCharacter '$', 3⟩ : SyntaxError), ⟨.expected .identifier none, 3⟩].filter
          (·.column = 3) =
        (tokenize "a.$").errors.filter (·.column = 3) ++
          (Reading.ofTokens (tokenize "a.$").tokens).errors.filter (·.column = 3) := by
  have hlex : ¬(tokenize "a.$").errors.isEmpty = true := by decide +kernel
  have herrors : (tokenize "a.$").errors ++ (Reading.ofTokens (tokenize "a.$").tokens).errors =
      [⟨.unexpectedCharacter '$', 3⟩, ⟨.expected .identifier none, 3⟩] := by decide +kernel
  have hsorted : sortByColumn
      ((tokenize "a.$").errors ++ (Reading.ofTokens (tokenize "a.$").tokens).errors) =
        [⟨.unexpectedCharacter '$', 3⟩, ⟨.expected .identifier none, 3⟩] := by
    rw [herrors]
    exact sortByColumn_of_ordered (by simp)
  have hparse : parse "a.$" =
      .error [⟨.unexpectedCharacter '$', 3⟩, ⟨.expected .identifier none, 3⟩] :=
    (if_neg hlex).trans (congrArg Except.error hsorted)
  obtain ⟨-, -, -, -, -, -, hcolumn, -⟩ := syntax_errors_are_complete_and_in_order hparse
  exact ⟨hparse, hcolumn 3⟩

end Parley
