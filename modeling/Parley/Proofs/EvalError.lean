import Parley.EvalError

/-!
# Complaints that only an unchecked tree gives rise to

Three complaints are about the tree of an expression and not about values: that a value is
missing, that an operator is none of arithmetic, and that a number cannot be read. They are
called *internal* here, since no tree that has been parsed should lead to them.

An error is shown by its wording. The wordings of internal complaints are not those of other ones
(`Parley.EvalError.Complaint.isInternal_or_isQuoted`), with the exception that a function may refuse
its arguments in any words it likes.
-/

namespace Parley

namespace EvalError.Complaint

/-- **Complaints about a tree that has not been checked**: of a value or an operator that the source
lacks, or of a number that cannot be read. -/
def IsInternal : Complaint → Prop
  | incomplete => True
  | notArithmetic _ => True
  | invalidNumber _ => True
  | _ => False

/-- Whether a complaint is in the words of a function. -/
def IsQuoted : Complaint → Prop
  | refused _ => True
  | _ => False

/-! ### The wording -/

/-- What begins differently from `Incomplete expression` and `Invalid number`. -/
def BeginsPlainly (s : String) : Prop :=
  ∃ c cs, s = String.ofList (c :: cs) ∧ c ≠ 'I'

/-- What ends differently from `is not an arithmetic operator`. -/
def EndsPlainly (s : String) : Prop :=
  2 ≤ s.toList.length ∧ s.toList.reverse.take 2 ≠ ['r', 'o']

theorem BeginsPlainly.append {a : String} (h : BeginsPlainly a) (b : String) :
    BeginsPlainly (a ++ b) := by
  obtain ⟨c, cs, rfl, hc⟩ := h
  refine ⟨c, cs ++ b.toList, ?_, hc⟩
  rw [← List.cons_append, String.ofList_append, String.ofList_toList]

theorem EndsPlainly.append {b : String} (h : EndsPlainly b) (a : String) :
    EndsPlainly (a ++ b) := by
  obtain ⟨hlength, hends⟩ := h
  unfold EndsPlainly
  rw [String.toList_append, List.length_append, List.reverse_append,
    List.take_append_of_le_length (by rwa [List.length_reverse])]
  exact ⟨Nat.le_add_left_of_le hlength, hends⟩

theorem beginsPlainly_name (found : ValueType) : BeginsPlainly found.name := by
  cases found <;> exact ⟨_, _, rfl, by decide⟩

theorem endsPlainly_name (found : ValueType) : EndsPlainly found.name := by
  cases found <;> exact ⟨by decide +kernel, by decide +kernel⟩

/-- Any other complaint reads differently, unless it is about a pattern. -/
theorem reads_plainly {c : Complaint} (hinternal : ¬c.IsInternal) (hquoted : ¬c.IsQuoted)
    (hpattern : c ≠ invalidPattern) : BeginsPlainly c.message ∧ EndsPlainly c.message := by
  cases c with
  | incomplete => exact absurd trivial hinternal
  | notArithmetic _ => exact absurd trivial hinternal
  | invalidNumber _ => exact absurd trivial hinternal
  | refused _ => exact absurd trivial hquoted
  | invalidPattern => exact absurd rfl hpattern
  | divisionByZero => exact ⟨⟨_, _, rfl, by decide⟩, by decide +kernel, by decide +kernel⟩
  | notCallable found =>
    exact ⟨(beginsPlainly_name found).append _,
      EndsPlainly.append ⟨by decide +kernel, by decide +kernel⟩ _⟩
  | needsTexts left right =>
    have hbegins : BeginsPlainly "'matches' needs two strings, got " := ⟨_, _, rfl, by decide⟩
    exact ⟨((hbegins.append _).append _).append _, (endsPlainly_name right).append _⟩
  | mismatch op left right =>
    have hbegins : BeginsPlainly "Cannot " := ⟨_, _, rfl, by decide⟩
    exact ⟨((((hbegins.append _).append _).append _).append _).append _,
      (endsPlainly_name right).append _⟩
  | _ found =>
    exact ⟨BeginsPlainly.append ⟨_, _, rfl, by decide⟩ _, (endsPlainly_name found).append _⟩

theorem BeginsPlainly.head?_ne {s : String} (h : BeginsPlainly s) : s.toList.head? ≠ some 'I' := by
  obtain ⟨c, cs, rfl, hc⟩ := h
  rw [String.toList_ofList]
  exact fun heq => hc (Option.some.inj heq)

/-- An internal complaint does not read in this way, and it does not end in a star. -/
theorem IsInternal.reads {c : Complaint} (h : c.IsInternal) :
    ¬(BeginsPlainly c.message ∧ EndsPlainly c.message) ∧ c.message ≠ invalidPattern.message := by
  cases c with
  | incomplete => exact ⟨fun hplain => hplain.1.head?_ne (by decide +kernel), by decide +kernel⟩
  | invalidNumber lexeme =>
    refine ⟨fun hplain => hplain.1.head?_ne ?_, fun heq => ?_⟩
    · change ("Invalid number '" ++ lexeme ++ "'").toList.head? = some 'I'
      simp
    · change "Invalid number '" ++ lexeme ++ "'" = "Invalid pattern: *" at heq
      simpa using congrArg (fun s => s.toList.reverse.take 1) heq
  | notArithmetic lexeme =>
    refine ⟨fun hplain => hplain.2.2 ?_, fun heq => ?_⟩
    · change ("'" ++ lexeme ++ "' is not an arithmetic operator").toList.reverse.take 2 = ['r', 'o']
      simp
    · change "'" ++ lexeme ++ "' is not an arithmetic operator" = "Invalid pattern: *" at heq
      simpa using congrArg (fun s => s.toList.reverse.take 1) heq
  | _ => exact h.elim

/-- **Internal complaints have wordings of their own.** A complaint that reads like an internal one
is internal, or it is in the words of a function. -/
theorem isInternal_or_isQuoted {c c' : Complaint} (h' : c'.IsInternal)
    (h : c.message = c'.message) : c.IsInternal ∨ c.IsQuoted := by
  by_cases hinternal : c.IsInternal
  · exact .inl hinternal
  by_cases hquoted : c.IsQuoted
  · exact .inr hquoted
  by_cases hpattern : c = invalidPattern
  · subst hpattern
    exact absurd h.symm h'.reads.2
  · have hreads := reads_plainly hinternal hquoted hpattern
    rw [h] at hreads
    exact absurd hreads h'.reads.1

end EvalError.Complaint

end Parley
