import Parley.Text.Blank
import Mathlib.Data.List.Chain

/-!
# Texts of words

The words of a text are put back between blanks: `Parley.Spaced` says that a text consists of given
words, with blanks in front of them, behind them and between any two of them. Cutting a text into
words finds the only words that it can consist of (`Parley.words_eq_iff`), so blanks at the ends
make no difference, and neither does changing characters one by one as long as blanks stay blanks.

The other way round, words may be put together again with one blank between any two of them
(`Parley.SingleSpaced`).
-/

namespace Parley

/-- A word has a character, and no blanks. -/
def IsWord (w : List Char) : Prop :=
  w ≠ [] ∧ ∀ c ∈ w, isBlank c = false

/-- Letters that have been collected are a word, once there is one. -/
theorem IsWord.of_letters {letters : List Char} (hne : letters ≠ [])
    (h : ∀ c ∈ letters, isBlank c = false) : IsWord letters.reverse :=
  ⟨fun hnil => hne (List.reverse_eq_nil_iff.1 hnil), fun c hc => h c (List.mem_reverse.1 hc)⟩

/-- **A text of words** with blanks around them, which consists of blanks up to a word, the word,
and a text of the other words that begins with a blank unless it is empty. -/
inductive Spaced : List (List Char) → List Char → Prop
  | blank {cs : List Char} (h : ∀ c ∈ cs, isBlank c = true) : Spaced [] cs
  | word {before w cs : List Char} {ws : List (List Char)}
      (hbefore : ∀ c ∈ before, isBlank c = true) (hw : IsWord w)
      (hgap : ∀ c ∈ cs.head?, isBlank c = true) (hrest : Spaced ws cs) :
      Spaced (w :: ws) (before ++ (w ++ cs))

namespace Spaced

variable {ws : List (List Char)} {cs : List Char}

/-- Blanks may be put in front. -/
theorem cons_blank {c : Char} (hc : isBlank c = true) (h : Spaced ws cs) : Spaced ws (c :: cs) := by
  cases h with
  | blank h => exact .blank (List.forall_mem_cons.2 ⟨hc, h⟩)
  | word hbefore hw hgap hrest =>
    exact .word (List.forall_mem_cons.2 ⟨hc, hbefore⟩) hw hgap hrest

theorem isWord {w : List Char} (h : Spaced ws cs) (hw : w ∈ ws) : IsWord w := by
  induction h with
  | blank => cases hw
  | word _ hfirst _ _ ih =>
    obtain rfl | hw := List.mem_cons.1 hw
    · exact hfirst
    · exact ih hw

/-- A text has the characters of its words. -/
theorem mem {w : List Char} {c : Char} (h : Spaced ws cs) (hw : w ∈ ws) (hc : c ∈ w) : c ∈ cs := by
  induction h with
  | blank => cases hw
  | word _ _ _ _ ih =>
    obtain rfl | hw := List.mem_cons.1 hw
    · exact List.mem_append_right _ (List.mem_append_left _ hc)
    · exact List.mem_append_right _ (List.mem_append_right _ (ih hw))

/-- Characters may be changed where blanks stay blanks, and the others what they are. -/
theorem map {f : Char → Char} (hf : ∀ c, isBlank (f c) = isBlank c) (h : Spaced ws cs) :
    Spaced (ws.map (List.map f)) (cs.map f) := by
  induction h with
  | blank h =>
    refine .blank fun c hc => ?_
    obtain ⟨d, hd, rfl⟩ := List.mem_map.1 hc
    rw [hf, h d hd]
  | @word before w cs ws hbefore hw hgap _ ih =>
    rw [List.map_append, List.map_append]
    refine .word (fun c hc => ?_) ⟨by simpa using hw.1, fun c hc => ?_⟩ (fun c hc => ?_) ih
    · obtain ⟨d, hd, rfl⟩ := List.mem_map.1 hc
      rw [hf, hbefore d hd]
    · obtain ⟨d, hd, rfl⟩ := List.mem_map.1 hc
      rw [hf, hw.2 d hd]
    · rw [List.head?_map] at hc
      obtain ⟨d, hd, rfl⟩ := Option.map_eq_some_iff.1 hc
      rw [hf, hgap d hd]

end Spaced

/-! ### Cutting into words -/

/-- The letters of a word are collected. -/
theorem wordsFrom_append {w : List Char} (hw : ∀ c ∈ w, isBlank c = false)
    (letters cs : List Char) :
    wordsFrom letters (w ++ cs) = wordsFrom (w.reverse ++ letters) cs := by
  induction w generalizing letters with
  | nil => rfl
  | cons c w ih =>
    obtain ⟨hc, hw⟩ := List.forall_mem_cons.1 hw
    rw [List.cons_append, wordsFrom, hc, List.reverse_cons, List.append_assoc]
    exact ih hw (c :: letters)

/-- A word ends at the end of the text or at a blank. -/
theorem wordsFrom_of_gap {letters cs : List Char} (hletters : letters ≠ [])
    (hgap : ∀ c ∈ cs.head?, isBlank c = true) :
    wordsFrom letters cs = letters.reverse :: words cs := by
  have hempty : letters.isEmpty = false := by simpa using hletters
  cases cs with
  | nil => simp [wordsFrom, words, hempty]
  | cons c cs =>
    have hc : isBlank c = true := hgap c rfl
    simp [wordsFrom, words, hempty, hc]

/-- Blanks in front of a word are skipped. -/
theorem words_append_of_blank {before : List Char} (h : ∀ c ∈ before, isBlank c = true)
    (cs : List Char) : words (before ++ cs) = words cs := by
  induction before with
  | nil => rfl
  | cons c before ih =>
    obtain ⟨hc, hbefore⟩ := List.forall_mem_cons.1 h
    have hskip : words (c :: (before ++ cs)) = words (before ++ cs) := by
      rw [words, wordsFrom, if_pos hc]
      rfl
    exact hskip.trans (ih hbefore)

/-- The words that a text consists of are found. -/
theorem words_of_spaced {ws : List (List Char)} {cs : List Char} (h : Spaced ws cs) :
    words cs = ws := by
  induction h with
  | @blank cs h =>
    have hskip := words_append_of_blank h []
    rwa [List.append_nil] at hskip
  | @word before w cs ws hbefore hw hgap _ ih =>
    have hne : w.reverse ++ [] ≠ [] := by simpa using hw.1
    rw [words_append_of_blank hbefore, words, wordsFrom_append hw.2, wordsFrom_of_gap hne hgap, ih]
    simp

/-- A text consists of its words, where letters may have been read in front of it. -/
theorem spaced_wordsFrom {letters : List Char} (h : ∀ c ∈ letters, isBlank c = false)
    (cs : List Char) : Spaced (wordsFrom letters cs) (letters.reverse ++ cs) := by
  induction cs generalizing letters with
  | nil =>
    cases letters with
    | nil => exact .blank (List.forall_mem_nil _)
    | cons c letters =>
      exact .word (List.forall_mem_nil _) (.of_letters (List.cons_ne_nil _ _) h) nofun
        (.blank (List.forall_mem_nil _))
  | cons c cs ih =>
    by_cases hc : isBlank c
    · have hrest : Spaced (wordsFrom [] cs) (c :: cs) :=
        (ih (List.forall_mem_nil _)).cons_blank hc
      rw [wordsFrom, if_pos hc]
      split
      next hempty =>
        rw [List.isEmpty_iff.1 hempty]
        exact hrest
      next hempty =>
        have hne : letters ≠ [] := fun hnil => hempty (List.isEmpty_iff.2 hnil)
        have hgap : ∀ d ∈ (c :: cs).head?, isBlank d = true := by
          rintro _ ⟨⟩
          exact hc
        exact .word (List.forall_mem_nil _) (.of_letters hne h) hgap hrest
    · have hletters : ∀ d ∈ c :: letters, isBlank d = false :=
        List.forall_mem_cons.2 ⟨eq_false_of_ne_true hc, h⟩
      have hmore := ih hletters
      rw [List.reverse_cons, List.append_assoc, List.singleton_append] at hmore
      rwa [wordsFrom, if_neg hc]

/-- **The words of a text** are those that it consists of. -/
theorem words_eq_iff {ws : List (List Char)} {cs : List Char} : words cs = ws ↔ Spaced ws cs := by
  refine ⟨fun h => ?_, words_of_spaced⟩
  rw [← h]
  exact spaced_wordsFrom (List.forall_mem_nil _) cs

/-! ### Capitals -/

/-- What no capital changes by turning into a small letter is the same for all characters. -/
theorem apply_toLower {p : Char → Bool} (h : ∀ n < 91, p (Char.ofNat n).toLower = p (Char.ofNat n))
    (c : Char) : p c.toLower = p c := by
  by_cases hcapital : 'A'.val ≤ c.val ∧ c.val ≤ 'Z'.val
  · have hle : c.toNat ≤ 90 := hcapital.2
    have hc := h c.toNat (by omega)
    rwa [Char.ofNat_toNat] at hc
  · have hsame : c.toLower = c := dif_neg hcapital
    rw [hsame]

/-- No capital is blank, and no letter that one turns into. -/
theorem isBlank_toLower (c : Char) : isBlank c.toLower = isBlank c :=
  apply_toLower (by decide) c

/-- Words without capitals. -/
abbrev lowered (ws : List (List Char)) : List (List Char) :=
  ws.map (List.map Char.toLower)

/-- The words of a text without capitals. -/
theorem words_map_toLower (cs : List Char) : words (cs.map Char.toLower) = lowered (words cs) :=
  words_of_spaced ((words_eq_iff.1 rfl).map isBlank_toLower)

/-! ### Trimming -/

/-- Blanks behind the words are skipped. -/
theorem wordsFrom_append_of_blank {after : List Char} (h : ∀ c ∈ after, isBlank c = true)
    (letters cs : List Char) : wordsFrom letters (cs ++ after) = wordsFrom letters cs := by
  induction cs generalizing letters with
  | nil =>
    have hnil : words after = [] := words_of_spaced (.blank h)
    cases letters with
    | nil => exact hnil
    | cons c letters =>
      have hgap : ∀ d ∈ after.head?, isBlank d = true := fun d hd => h d (List.mem_of_head? hd)
      rw [List.nil_append, wordsFrom_of_gap (List.cons_ne_nil _ _) hgap, hnil]
      rfl
  | cons c cs ih => simp only [List.cons_append, wordsFrom, ih]

/-- A text is blank up to what is left by trimming it, and behind that. -/
theorem exists_eq_append_trim (cs : List Char) :
    ∃ before after, (∀ c ∈ before, isBlank c = true) ∧ (∀ c ∈ after, isBlank c = true) ∧
      cs = before ++ (trim cs ++ after) := by
  refine ⟨cs.takeWhile isBlank, ((trimLeft cs).reverse.takeWhile isBlank).reverse,
    fun c hc => ?_, fun c hc => ?_, ?_⟩
  · exact List.all_eq_true.1 List.all_takeWhile c hc
  · exact List.all_eq_true.1 List.all_takeWhile c (List.mem_reverse.1 hc)
  · have hright : trim cs ++ ((trimLeft cs).reverse.takeWhile isBlank).reverse = trimLeft cs := by
      rw [trim, trimRight, ← List.reverse_append, List.takeWhile_append_dropWhile,
        List.reverse_reverse]
    rw [hright]
    exact List.takeWhile_append_dropWhile.symm

/-- Trimming a text does not change its words. -/
theorem words_trim (cs : List Char) : words (trim cs) = words cs := by
  obtain ⟨before, after, hbefore, hafter, heq⟩ := exists_eq_append_trim cs
  calc
    words (trim cs) = words (trim cs ++ after) := (wordsFrom_append_of_blank hafter [] _).symm
    _ = words (before ++ (trim cs ++ after)) := (words_append_of_blank hbefore _).symm
    _ = words cs := by rw [← heq]

/-- What is not blank is left by trimming. -/
theorem mem_trim {cs : List Char} {c : Char} (h : c ∈ cs) (hc : isBlank c = false) :
    c ∈ trim cs := by
  obtain ⟨before, after, hbefore, hafter, heq⟩ := exists_eq_append_trim cs
  rw [heq, List.mem_append, List.mem_append] at h
  obtain h | h | h := h
  · exact absurd (hbefore c h) (by simp [hc])
  · exact h
  · exact absurd (hafter c h) (by simp [hc])

/-! ### Words put one blank apart -/

/-- **A text whose words are one blank apart**, without blanks around them. -/
structure SingleSpaced (text : List Char) : Prop where
  eq_blank : ∀ c ∈ text, isBlank c = true → c = ' '
  head : ∀ c ∈ text.head?, isBlank c = false
  last : ∀ c ∈ text.getLast?, isBlank c = false
  /-- No blank stands next to another one. -/
  apart : text.IsChain fun c d => isBlank c = false ∨ isBlank d = false

theorem IsWord.singleSpaced {w : List Char} (hw : IsWord w) : SingleSpaced w where
  eq_blank c hc hblank := absurd hblank (by simp [hw.2 c hc])
  head c hc := hw.2 c (List.mem_of_head? hc)
  last c hc := hw.2 c (List.mem_of_getLast? hc)
  apart := (List.pairwise_of_forall_mem_list fun c hc _ _ => .inl (hw.2 c hc)).isChain

/-- A word may be put in front of a text, with one blank between. -/
theorem SingleSpaced.append {w text : List Char} (hw : IsWord w) (hne : text ≠ [])
    (h : SingleSpaced text) : SingleSpaced (w ++ ' ' :: text) where
  eq_blank c hc hblank := by
    obtain hc | rfl | hc : c ∈ w ∨ c = ' ' ∨ c ∈ text := by simpa using hc
    · exact hw.singleSpaced.eq_blank c hc hblank
    · rfl
    · exact h.eq_blank c hc hblank
  head c hc := by
    obtain ⟨d, ds, rfl⟩ := List.exists_cons_of_ne_nil hw.1
    exact hw.singleSpaced.head c hc
  last c hc := by
    rw [List.getLast?_append_of_ne_nil _ (List.cons_ne_nil _ _),
      List.getLast?_cons_of_ne_nil hne] at hc
    exact h.last c hc
  apart := by
    refine hw.singleSpaced.apart.append (h.apart.cons fun d hd => .inr (h.head d hd)) ?_
    intro c hc _ _
    exact .inl (hw.singleSpaced.last c hc)

/-- **Words put one blank apart** have no other blanks around them. -/
theorem singleSpaced_intercalate {ws : List (List Char)} (h : ∀ w ∈ ws, IsWord w) :
    SingleSpaced ([' '].intercalate ws) := by
  induction ws with
  | nil => exact ⟨nofun, nofun, nofun, .nil⟩
  | cons w ws ih =>
    obtain ⟨hw, hws⟩ := List.forall_mem_cons.1 h
    cases ws with
    | nil => simpa using hw.singleSpaced
    | cons w' ws =>
      have hne : [' '].intercalate (w' :: ws) ≠ [] := by
        have hw' : w' ≠ [] := (hws w' List.mem_cons_self).1
        cases ws with
        | nil => simpa using hw'
        | cons => simp [hw']
      simpa using SingleSpaced.append hw hne (ih hws)

end Parley
