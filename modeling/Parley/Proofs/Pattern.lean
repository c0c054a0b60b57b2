import Parley.Vocabulary

/-!
# Patterns between slashes

`Parley.Pattern.slashed` is how a regular expression is written between slashes, with flags behind
them. The body may hold slashes of its own, and is cut off at the last slash of the text: flags are
letters, so the slash in front of them is the last one (`Parley.Pattern.slashed_inj`), whatever
the body is. What the cut finds is thus exactly how the text can have been written
(`Parley.Pattern.delimited?_eq_some_iff`), and where it finds nothing, the text has not been
written like this at all.

A pattern that has been compiled is all that `matches` and `fetchHtml` know of the text of it, and
of the flags it only keeps which of `i`, `m`, `s` and `x` there are.
-/

namespace Parley

namespace Pattern

/-! ### Slashes -/

/-- **Flags** are letters out of seven, in any order and number. -/
def AreFlags (flags : List Char) : Prop :=
  ∀ c ∈ flags, c ∈ ['g', 'i', 'm', 's', 'u', 'x', 'y']

/-- A body between slashes, with flags behind them. -/
def slashed (body flags : List Char) : List Char :=
  '/' :: (body ++ '/' :: flags)

theorem areFlags_iff {flags : List Char} : AreFlags flags ↔ flags.all flagLetters.contains := by
  have hperm : ['g', 'i', 'm', 's', 'u', 'x', 'y'].Perm flagLetters := by decide
  simp only [AreFlags, hperm.mem_iff, List.all_eq_true, List.contains_iff_mem]

/-- No flag is a slash. -/
theorem AreFlags.not_mem {flags : List Char} (h : AreFlags flags) : '/' ∉ flags := fun hmem =>
  absurd (h '/' hmem) (by decide)

/-- The flags are found behind the last slash. -/
theorem delimited?_slashed (body : List Char) {flags : List Char} (h : AreFlags flags) :
    delimited? (slashed body flags) = some (body, flags) := by
  have hflags : ∀ c ∈ flags.reverse, (c != '/') = true := by
    intro c hc
    have hne : c ≠ '/' := fun heq => h.not_mem (heq ▸ List.mem_reverse.1 hc)
    simpa using hne
  -- read from behind, the first slash is the one in front of the flags
  have hreverse : (body ++ '/' :: flags).reverse = flags.reverse ++ '/' :: body.reverse := by simp
  have hdrop : (flags.reverse ++ '/' :: body.reverse).dropWhile (· != '/') =
      '/' :: body.reverse := by
    rw [List.dropWhile_append_of_pos hflags, List.dropWhile_cons_of_neg (by simp)]
  have htake : (flags.reverse ++ '/' :: body.reverse).takeWhile (· != '/') = flags.reverse := by
    rw [List.takeWhile_append_of_pos hflags, List.takeWhile_cons_of_neg (by simp), List.append_nil]
  simp only [slashed, delimited?, hreverse, hdrop, htake, List.reverse_reverse,
    if_pos (areFlags_iff.1 h)]

/-- What is cut is a body between slashes. -/
theorem exists_of_delimited? {pattern body flags : List Char}
    (h : delimited? pattern = some (body, flags)) :
    AreFlags flags ∧ pattern = slashed body flags := by
  unfold delimited? at h
  split at h
  next rest =>
    split at h
    next => cases h
    next slash front hdrop =>
      -- what is left behind the flags begins with the last slash, and turned round it is the body
      have hslash : slash = '/' := by
        have hhead := List.head?_dropWhile_not (· != '/') rest.reverse
        simpa [hdrop] using hhead
      have hrest : rest = front.reverse ++ '/' :: (rest.reverse.takeWhile (· != '/')).reverse := by
        have hcut := List.takeWhile_append_dropWhile (p := (· != '/')) (l := rest.reverse)
        rw [hdrop, hslash] at hcut
        simpa using (congrArg List.reverse hcut).symm
      obtain ⟨hflags, heq⟩ := Option.ite_none_right_eq_some.1 h
      cases heq
      exact ⟨areFlags_iff.2 hflags, congrArg _ hrest⟩
  next => cases h

/-- **The cut** is how the text is written, if it is written like this. -/
theorem delimited?_eq_some_iff {pattern body flags : List Char} :
    delimited? pattern = some (body, flags) ↔ AreFlags flags ∧ pattern = slashed body flags := by
  refine ⟨exists_of_delimited?, ?_⟩
  rintro ⟨h, rfl⟩
  exact delimited?_slashed body h

theorem delimited?_eq_none_iff {pattern : List Char} :
    delimited? pattern = none ↔ ∀ body flags, AreFlags flags → pattern ≠ slashed body flags := by
  simp only [Option.eq_none_iff_forall_ne_some, Prod.forall, ne_eq, delimited?_eq_some_iff, not_and]

/-- **A text is written between slashes in one way only.** -/
theorem slashed_inj {body flags body' flags' : List Char} (h : AreFlags flags)
    (h' : AreFlags flags') (heq : slashed body flags = slashed body' flags') :
    body = body' ∧ flags = flags' := by
  have hcut := delimited?_slashed body h
  rw [heq, delimited?_slashed body' h'] at hcut
  cases hcut
  exact ⟨rfl, rfl⟩

/-! ### Options -/

theorem options_eq (flags : List Char) :
    options flags =
      { Regex.Options.initial with
        ignoreCase := decide ('i' ∈ flags)
        multiLine := decide ('m' ∈ flags)
        dotAll := decide ('s' ∈ flags)
        extended := decide ('x' ∈ flags) } := by
  simp [options]

section Flags

variable {flags flags' : List Char} (h : ∀ c ∉ ['g', 'u', 'y'], c ∈ flags ↔ c ∈ flags')

include h

/-- Letters that change nothing are flags too. -/
theorem AreFlags.of_same (hflags : AreFlags flags) : AreFlags flags' := by
  intro c hc
  have hall : ∀ d ∈ ['g', 'u', 'y'], d ∈ ['g', 'i', 'm', 's', 'u', 'x', 'y'] := by simp
  by_cases hidle : c ∈ ['g', 'u', 'y']
  · exact hall c hidle
  · exact hflags c ((h c hidle).2 hc)

/-- Options do not depend on the order of flags, nor on those that set none. -/
theorem options_congr : options flags = options flags' := by
  simp only [options_eq, h 'i' (by decide), h 'm' (by decide), h 's' (by decide),
    h 'x' (by decide)]

end Flags

/-- The pattern that a regular expression is with options set, if it is one. -/
def ofNotation? (options : Regex.Options) (source : List Char) : Option Pattern :=
  (Regex.ofNotation? options source).map fun r => ⟨source, .ofRegex r.1⟩

theorem compile?_slashed (body : List Char) {flags : List Char} (h : AreFlags flags) :
    compile? (slashed body flags) = ofNotation? (options flags) body := by
  simp only [compile?, bodyAndOptions, delimited?_slashed body h, ofNotation?]

theorem compile?_of_ne {pattern : List Char}
    (h : ∀ body flags, AreFlags flags → pattern ≠ slashed body flags) :
    compile? pattern = ofNotation? .initial pattern := by
  simp only [compile?, bodyAndOptions, delimited?_eq_none_iff.2 h, ofNotation?]

end Pattern

/-! ### What is known of a pattern -/

/-- `matches` asks a pattern for no more than what it is compiled to. -/
theorem Eval.operate_matching_congr {pattern pattern' : String}
    (h : Pattern.compile? pattern.toList = Pattern.compile? pattern'.toList) (op : Token)
    (left : Value) :
    Eval.operate .matching op left (.string pattern) =
      Eval.operate .matching op left (.string pattern') := by
  cases left <;> simp [operate, Value.isMatched, h, Value.type]

/-- And neither does `fetchHtml`. -/
theorem Vocabulary.answer_fetchHtml_congr {pattern pattern' : String}
    (h : Pattern.compile? pattern.toList = Pattern.compile? pattern'.toList) (client : Client)
    (url : Value) (rest : List Value) (w : World) :
    Vocabulary.answer (.fetchHtml client) (url :: .string pattern :: rest) w =
      Vocabulary.answer (.fetchHtml client) (url :: .string pattern' :: rest) w := by
  simp [answer, fetchHtml, firstText?, Value.string?, h]

open Pattern (AreFlags slashed ofNotation? compile?)

/-- **Patterns are recognised unambiguously.** A body between slashes, whatever it is, with flags
behind them is compiled as a regular expression with the options that the flags set, a text that is
not of this form is compiled as it is, and no text is of this form in two ways. So it makes
no difference to `matches` and `fetchHtml` in which order flags stand and how often, nor whether
`g`, `u` and `y` are among them. -/
theorem patterns_are_recognised_unambiguously :
    (∀ body flags, AreFlags flags →
      compile? (slashed body flags) =
        ofNotation?
          { Regex.Options.initial with
            ignoreCase := decide ('i' ∈ flags)
            multiLine := decide ('m' ∈ flags)
            dotAll := decide ('s' ∈ flags)
            extended := decide ('x' ∈ flags) }
          body) ∧
      (∀ pattern, (∀ body flags, AreFlags flags → pattern ≠ slashed body flags) →
        compile? pattern = ofNotation? .initial pattern) ∧
      (∀ body flags body' flags', AreFlags flags → AreFlags flags' →
        slashed body flags = slashed body' flags' → body = body' ∧ flags = flags') ∧
      ∀ body flags flags', AreFlags flags → (∀ c ∉ ['g', 'u', 'y'], c ∈ flags ↔ c ∈ flags') →
        (∀ op left,
          Eval.operate .matching op left (.string (String.ofList (slashed body flags))) =
            Eval.operate .matching op left (.string (String.ofList (slashed body flags')))) ∧
        ∀ client url rest w,
          Vocabulary.answer (.fetchHtml client)
              (url :: .string (String.ofList (slashed body flags)) :: rest) w =
            Vocabulary.answer (.fetchHtml client)
              (url :: .string (String.ofList (slashed body flags')) :: rest) w := by
  refine ⟨fun body flags h => ?_, fun _ => Pattern.compile?_of_ne,
    fun _ _ _ _ => Pattern.slashed_inj, fun body flags flags' h hsame => ?_⟩
  · rw [Pattern.compile?_slashed body h, Pattern.options_eq]
  · have hcompile : compile? (String.ofList (slashed body flags)).toList =
        compile? (String.ofList (slashed body flags')).toList := by
      rw [String.toList_ofList, String.toList_ofList, Pattern.compile?_slashed body h,
        Pattern.compile?_slashed body (h.of_same hsame), Pattern.options_congr hsame]
    exact ⟨Eval.operate_matching_congr hcompile, Vocabulary.answer_fetchHtml_congr hcompile⟩

/-- A path is a pattern as it is, unless there are only flags behind its last slash. -/
theorem patterns_are_recognised_unambiguously_paths :
    AreFlags "i".toList ∧
      compile? "/a/b/i".toList =
        ofNotation? { Regex.Options.initial with ignoreCase := true } "a/b".toList ∧
      (∀ body flags, AreFlags flags → slashed body flags = "/a/b/i".toList →
        body = "a/b".toList ∧ flags = "i".toList) ∧
      (∀ body flags, AreFlags flags → "/a/b/c".toList ≠ slashed body flags) ∧
      compile? "/a/b/c".toList = ofNotation? .initial "/a/b/c".toList ∧
      (Value.string "A/B").isMatched (.string "/a/b/iguig") =
        (Value.string "A/B").isMatched (.string "/a/b/i") := by
  obtain ⟨hslashed, hother, hunique, hsame⟩ := patterns_are_recognised_unambiguously
  have hflags : AreFlags "i".toList := Pattern.areFlags_iff.2 (by decide)
  have hpath : ∀ body flags, AreFlags flags → "/a/b/c".toList ≠ slashed body flags :=
    Pattern.delimited?_eq_none_iff.1 (by decide)
  have hidle : ∀ c ∉ ['g', 'u', 'y'], c ∈ ['i'] ↔ c ∈ ['i', 'g', 'u', 'i', 'g'] := by grind
  have hmatch := hsame "a/b".toList "i".toList "iguig".toList hflags hidle
  exact ⟨hflags, hslashed "a/b".toList _ hflags,
    fun _ _ h heq => hunique _ _ "a/b".toList _ h hflags heq, hpath, hother _ hpath,
    (hmatch.1 ⟨.keywordMatches, "matches", 1⟩ (.string "A/B")).symm⟩

end Parley
