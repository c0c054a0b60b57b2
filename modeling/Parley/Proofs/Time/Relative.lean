import Parley.Proofs.Time.Duration
import Parley.Proofs.Time.Notation
import Parley.Vocabulary

/-!
# Amounts of a unit

`in 5 minutes`, `5 minutes`, `5m` and `5 minutes ago` are amounts of a unit in one of two
directions (`Parley.Moment.Direction`). Whatever the spelling, they come to the same computation
(`Parley.Moment.Notation.shifted?`), which is done on whole numbers of 64 bits; outside leap seconds
it moves the clock by exactly so many seconds, or is refused
(`Parley.Moment.Notation.shifted?_eq_some_iff`).

The direction does not look at the amount, and an amount that is a word of its own may have a sign.
So with a minus it leads the other way (`Parley.Moment.Notation.exists_shift_of_amount?`).
-/

namespace Parley

namespace Moment

/-! ### Clocks -/

/-- The moment so many seconds away, representable or not. -/
def shift (m : Moment) (seconds : Int) : Moment :=
  ⟨m.seconds + seconds, m.nanos⟩

/-- One moment comes before another one. -/
def Before (a b : Moment) : Prop :=
  a.seconds < b.seconds ∨ a.seconds = b.seconds ∧ a.nanos < b.nanos

theorem checked_eq_some_iff {m n : Moment} : m.checked = some n ↔ m.inRange ∧ m = n := by
  unfold checked
  split
  next h => exact ⟨fun heq => ⟨h, Option.some.inj heq⟩, fun heq => congrArg some heq.2⟩
  next h => exact ⟨nofun, fun heq => absurd heq.1 h⟩

theorem add?_eq {m : Moment} (hm : m.nanos < nanosPerSecond) (seconds : Int) :
    m.add? seconds = (m.shift seconds).checked :=
  if_pos (.inl hm)

/-- Outside leap seconds, the seconds between two moments are counted exactly. -/
theorem secondsSince_shift {m : Moment} (hm : m.nanos < nanosPerSecond) (s t : Int) :
    (m.shift s).secondsSince (m.shift t) = s - t := by
  have hleap : ¬nanosPerSecond ≤ m.nanos := Nat.not_le.2 hm
  have hseconds : m.seconds + s - (m.seconds + t) + 0 = s - t := by omega
  have hnanos : (m.shift s).nanosSince (m.shift t) = (s - t) * nanosPerSecond := by
    simp only [nanosSince, shift, hleap, and_false, if_false, hseconds, Int.sub_self, Int.add_zero]
  rw [secondsSince, hnanos]
  exact Int.mul_tdiv_cancel _ (by decide)

theorem shift_zero (m : Moment) : m.shift 0 = m := by
  rw [shift, Int.add_zero]

theorem shift_before_iff (m : Moment) (seconds : Int) :
    (m.shift seconds).Before m ↔ seconds < 0 := by
  simp only [Before, shift]
  omega

theorem before_shift_iff (m : Moment) (seconds : Int) :
    m.Before (m.shift seconds) ↔ 0 < seconds := by
  simp only [Before, shift]
  omega

/-! ### Words -/

/-- The word in front of an amount that lies ahead. -/
abbrev inWord : List Char := ['i', 'n']

/-- The word behind an amount that lies back. -/
abbrev agoWord : List Char := ['a', 'g', 'o']

/-- Where an amount of a unit leads from now. -/
inductive Direction where
  | ahead
  | back
deriving DecidableEq, Repr

namespace Direction

/-- The other direction. -/
def opposite : Direction → Direction
  | ahead => back
  | back => ahead

/-- The number of seconds from now, for an amount of seconds. -/
def signed (seconds : Int) : Direction → Int
  | ahead => seconds
  | back => -seconds

theorem signed_signed (seconds : Int) (direction : Direction) :
    direction.signed (direction.signed seconds) = seconds := by
  cases direction with
  | ahead => rfl
  | back => exact Int.neg_neg seconds

theorem opposite_signed_signed (seconds : Int) (direction : Direction) :
    direction.opposite.signed (direction.signed seconds) = -seconds := by
  cases direction <;> rfl

/-- The spellings of an amount of a unit, as words. -/
def spellings (digits unit : List Char) : Direction → List (List (List Char))
  | ahead => [[inWord, digits, unit], [digits, unit], [digits ++ unit],
      [inWord, digits ++ unit]]
  | back => [[digits, unit, agoWord], [digits ++ unit, agoWord]]

/-- The function that measures durations in a direction. -/
def measure : Direction → List Value → Moment → Value
  | ahead => Vocabulary.timeUntil
  | back => Vocabulary.timeSince

end Direction

namespace Notation

/-- The moment that an amount of a unit leads to. -/
def shifted? (now : Moment) (direction : Direction) (p : List Char × List Char) :
    Option Moment := do
  let amount ← Numeral.whole? p.1
  let unit ← unitSeconds? (String.ofList p.2)
  let seconds ← Whole.ofInt? (amount.toInt * unit)
  now.add? (direction.signed seconds.toInt)

/-- **Which words make up the amount**, and which direction they tell. -/
theorem relative?_eq (now : Moment) (ws : List (List Char)) :
    relative? now ws =
      if ws.head? = some inWord then
        if (ws.drop 1).getLast? = some agoWord then none
        else amount? (ws.drop 1) >>= shifted? now .ahead
      else
        if ws.getLast? = some agoWord then amount? ws.dropLast >>= shifted? now .back
        else amount? ws >>= shifted? now .ahead := by
  unfold relative?
  by_cases hin : ws.head? = some inWord
  · simp only [if_pos hin]
    by_cases hago : (ws.drop 1).getLast? = some agoWord
    · simp only [hin, hago]
      rfl
    · simp only [hin, hago, if_false]
      rfl
  · simp only [if_neg hin]
    by_cases hago : ws.getLast? = some agoWord
    · simp only [hin, if_pos hago]
      rfl
    · simp only [hin, if_neg hago]
      rfl

theorem relative?_in_cons (now : Moment) (ws : List (List Char)) :
    relative? now (inWord :: ws) =
      if ws.getLast? = some agoWord then none else amount? ws >>= shifted? now .ahead :=
  (relative?_eq now _).trans (if_pos rfl)

/-- The direction is told by one of the words: with both of them, a text names no moment. -/
theorem relative?_concat_ago (now : Moment) (ws : List (List Char)) :
    relative? now (ws ++ [agoWord]) =
      if ws.head? = some inWord then none else amount? ws >>= shifted? now .back := by
  cases ws with
  | nil => exact (relative?_eq now _).trans (if_neg (by decide))
  | cons w ws =>
    rw [relative?_eq, List.cons_append, List.head?_cons, List.head?_cons, List.drop_succ_cons,
      List.drop_zero, ← List.cons_append, List.getLast?_concat, List.getLast?_concat,
      List.dropLast_concat, if_pos rfl, if_pos rfl]

/-- An amount in digits may stand in front of its unit with or without a blank. -/
theorem amount?_fused {digits unit : List Char} (hdigits : ∀ d ∈ digits, d.isDigit = true)
    (hunit : ∀ c ∈ unit.head?, c.isDigit = false) (hne : unit ≠ []) :
    amount? [digits ++ unit] = some (digits, unit) := by
  obtain ⟨c, cs, rfl⟩ := List.exists_cons_of_ne_nil hne
  have hc : ¬c.isDigit = true := by simp [hunit c rfl]
  have hdrop : (digits ++ c :: cs).dropWhile Char.isDigit = c :: cs := by
    rw [List.dropWhile_append_of_pos hdigits, List.dropWhile_cons_of_neg hc]
  have htake : (digits ++ c :: cs).takeWhile Char.isDigit = digits := by
    rw [List.takeWhile_append_of_pos hdigits, List.takeWhile_cons_of_neg hc, List.append_nil]
  simp only [amount?, hdrop, htake]

/-- An amount of a unit of so many seconds can be computed: 64 bits can hold it and the seconds that
it comes to, and the moment that they lead to is representable. -/
def Fits (now : Moment) (direction : Direction) (amount : Int) (size : Nat) : Prop :=
  Whole.InRange amount ∧ Whole.InRange (amount * size) ∧
    (now.shift (direction.signed (amount * size))).inRange

instance (now : Moment) (direction : Direction) (amount : Int) (size : Nat) :
    Decidable (Fits now direction amount size) :=
  inferInstanceAs (Decidable (_ ∧ _ ∧ _))

/-- **The computation** is exact wherever it goes through. -/
theorem shifted?_eq_some_iff {now : Moment} (hnow : now.nanos < nanosPerSecond)
    {direction : Direction} {p : List Char × List Char} {m : Moment} :
    shifted? now direction p = some m ↔
      ∃ amount size, Numeral.int? p.1 = some amount ∧
        unitSeconds? (String.ofList p.2) = some size ∧ Fits now direction amount size ∧
        m = now.shift (direction.signed (amount * size)) := by
  constructor
  · intro h
    obtain ⟨w, hwhole, h⟩ := Option.bind_eq_some_iff.1 h
    obtain ⟨size, hsize, h⟩ := Option.bind_eq_some_iff.1 h
    obtain ⟨seconds, hseconds, h⟩ := Option.bind_eq_some_iff.1 h
    obtain ⟨amount, hamount, hw⟩ := Option.bind_eq_some_iff.1 hwhole
    have hw := Whole.toInt_ofInt? hw
    have hseconds := Whole.toInt_ofInt? hseconds
    have hrange := Whole.inRange_toInt w
    have hproduct := Whole.inRange_toInt seconds
    rw [add?_eq hnow, checked_eq_some_iff] at h
    rw [hseconds, hw] at hproduct h
    rw [hw] at hrange
    exact ⟨amount, size, hamount, hsize, ⟨hrange, hproduct, h.1⟩, h.2.symm⟩
  · rintro ⟨amount, size, hamount, hsize, ⟨hrange, hproduct, hmoment⟩, rfl⟩
    obtain ⟨w, hw⟩ : ∃ w, Whole.ofInt? amount = some w := ⟨_, if_pos hrange⟩
    obtain ⟨seconds, hseconds⟩ : ∃ s, Whole.ofInt? (amount * size) = some s := ⟨_, if_pos hproduct⟩
    have hwhole : Numeral.whole? p.1 = some w := by
      rw [Numeral.whole?, hamount, Option.bind_some, hw]
    have hadd : now.add? (direction.signed seconds.toInt) =
        some (now.shift (direction.signed (amount * size))) := by
      rw [add?_eq hnow, Whole.toInt_ofInt? hseconds]
      exact checked_eq_some_iff.2 ⟨hmoment, rfl⟩
    refine Option.bind_eq_some_iff.2 ⟨w, hwhole, Option.bind_eq_some_iff.2 ⟨size, hsize, ?_⟩⟩
    refine Option.bind_eq_some_iff.2 ⟨seconds, ?_, hadd⟩
    rw [Whole.toInt_ofInt? hw, hseconds]

/-- A unit has a size, and a name that begins with a letter: of no date or time, nor of `ago`. -/
theorem of_unitSeconds? {unit : List Char} {size : Nat}
    (h : unitSeconds? (String.ofList unit) = some size) :
    0 < size ∧ ∃ c cs, unit = c :: cs ∧ isMark c = false ∧ c ≠ 'a' := by
  have hname : ∀ {name}, unitSeconds? name = some size →
      0 < size ∧ ∃ c cs, name.toList = c :: cs ∧ isMark c = false ∧ c ≠ 'a' := by
    intro name h
    unfold unitSeconds? at h
    split at h <;> cases h <;> refine ⟨by decide, _, _, rfl, by decide⟩
  have hunit := hname h
  rwa [String.toList_ofList] at hunit

section Spelling

variable {digits unit : List Char} {size : Nat} {direction : Direction} {ws : List (List Char)}

/-- **All spellings of an amount come to the same computation.** -/
theorem relative?_of_mem_spellings (hne : digits ≠ []) (hdigits : ∀ d ∈ digits, d.isDigit = true)
    (hunit : unitSeconds? (String.ofList unit) = some size)
    (hws : ws ∈ direction.spellings digits unit) (now : Moment) :
    relative? now ws = shifted? now direction (digits, unit) := by
  obtain ⟨-, c, cs, rfl, hc, hcago⟩ := of_unitSeconds? hunit
  obtain ⟨d, ds, rfl⟩ := List.exists_cons_of_ne_nil hne
  have hd : d.isDigit = true := hdigits d List.mem_cons_self
  have hletter {e : Char} (he : e.isDigit = false) : d ≠ e := by
    rintro rfl
    exact absurd hd (by simp [he])
  have hfused : amount? [d :: (ds ++ c :: cs)] = some (d :: ds, c :: cs) :=
    amount?_fused hdigits (fun e he => by cases he; exact isDigit_eq_false hc) (List.cons_ne_nil c cs)
  rw [relative?_eq]
  cases direction with
  | ahead =>
    simp only [Direction.spellings, List.mem_cons, List.not_mem_nil, or_false] at hws
    rcases hws with rfl | rfl | rfl | rfl
    · simp [hcago, amount?]
    · simp [hcago, hletter, amount?]
    · simp [hletter, hfused]
    · simp [hletter, hfused]
  | back =>
    simp only [Direction.spellings, List.mem_cons, List.not_mem_nil, or_false] at hws
    rcases hws with rfl | rfl
    · simp [hletter, amount?]
    · simp [hletter, hfused]

/-- A spelling has the characters of the amount and of the unit. -/
theorem exists_mem_of_mem_spellings (hws : ws ∈ direction.spellings digits unit) {c : Char}
    (hc : c ∈ digits ∨ c ∈ unit) : ∃ w ∈ ws, c ∈ w := by
  refine List.mem_flatten.1 ?_
  cases direction with
  | ahead =>
    simp only [Direction.spellings, List.mem_cons, List.not_mem_nil, or_false] at hws
    rcases hws with rfl | rfl | rfl | rfl <;>
      simp only [List.flatten_cons, List.flatten_nil, List.append_nil, List.mem_append, hc, or_true]
  | back =>
    simp only [Direction.spellings, List.mem_cons, List.not_mem_nil, or_false] at hws
    rcases hws with rfl | rfl
    · exact hc.elim (by simp +contextual) (by simp +contextual)
    · simp only [List.flatten_cons, List.mem_append, hc, true_or]

/-- **A text of a spelling**, in any case of its letters, is read as the amount of the unit. -/
theorem ofText?_of_mem_spellings (hne : digits ≠ []) (hdigits : ∀ d ∈ digits, d.isDigit = true)
    (hunit : unitSeconds? (String.ofList unit) = some size)
    (hws : lowered ws ∈ direction.spellings digits unit) {text : List Char}
    (htext : Spaced ws text) (now : Moment) :
    ofText? now text = shifted? now direction (digits, unit) := by
  obtain ⟨-, c, cs, rfl, hc, -⟩ := of_unitSeconds? hunit
  obtain ⟨w, hw, hcw⟩ := exists_mem_of_mem_spellings hws (.inr (List.mem_cons_self (l := cs)))
  have hday : ∀ e ∈ dayWords, lowered ws ≠ [e.toList] := by
    obtain ⟨d, ds, rfl⟩ := List.exists_cons_of_ne_nil hne
    obtain ⟨v, hv, hdv⟩ := exists_mem_of_mem_spellings hws (.inl (List.mem_cons_self (l := ds)))
    have hletters : ∀ e ∈ dayWords, e.toList.any Char.isDigit = false := by decide
    intro e he heq
    rw [heq, List.mem_singleton] at hv
    exact List.any_eq_false.1 (hletters e he) d (hv ▸ hdv) (hdigits d List.mem_cons_self)
  rw [ofText?_eq_relative? htext hw hcw hc hday,
    relative?_of_mem_spellings hne hdigits hunit hws]

end Spelling

/-! ### Signs -/

/-- Only an amount that is a word of its own can have a sign. -/
theorem amount?_minus_iff {ws : List (List Char)} {p : List Char × List Char}
    (h : amount? ws = some p) (digits : List Char) :
    p.1 = '-' :: digits ↔ ∃ unit, ws = ['-' :: digits, unit] := by
  unfold amount? at h
  split at h
  next amount unit =>
    obtain ⟨⟩ := h
    simp
  next both =>
    split at h
    next => cases h
    next =>
      obtain ⟨⟩ := h
      refine iff_of_false (fun hminus => ?_) (by simp)
      have htake : both.takeWhile Char.isDigit = '-' :: digits := hminus
      have hall := List.all_takeWhile (l := both) (p := Char.isDigit)
      rw [htake] at hall
      exact absurd hall (by simp)
  next => cases h

/-- **An amount leads against its direction** exactly if there is a minus in front of it. -/
theorem exists_shift_of_amount? {now : Moment} (hnow : now.nanos < nanosPerSecond)
    {ws : List (List Char)} {direction : Direction} {m : Moment}
    (h : amount? ws >>= shifted? now direction = some m) :
    ∃ s, m = now.shift (direction.signed s) ∧
      (s < 0 ↔ ∃ digits unit, ws = ['-' :: digits, unit] ∧ 0 < Numeral.ofDigits 0 digits) := by
  obtain ⟨p, hp, h⟩ := Option.bind_eq_some_iff.1 h
  obtain ⟨amount, size, hamount, hsize, -, rfl⟩ := (shifted?_eq_some_iff hnow).1 h
  rw [← String.ofList_toList (s := String.ofList p.2)] at hsize
  have hpos : 0 < (size : Int) := Int.natCast_pos.2 (of_unitSeconds? hsize).1
  refine ⟨amount * size, rfl, ?_⟩
  calc
    amount * size < 0 ↔ amount < 0 := by
      constructor
      · intro hneg
        exact Int.not_le.1 fun hle => Int.not_le.2 hneg (Int.mul_nonneg hle (Int.le_of_lt hpos))
      · intro hneg
        exact Int.mul_neg_of_neg_of_pos hneg hpos
    _ ↔ ∃ digits, p.1 = '-' :: digits ∧ 0 < Numeral.ofDigits 0 digits :=
      Numeral.int?_neg_iff hamount
    _ ↔ _ := by
      simp only [amount?_minus_iff hp, exists_and_right]

end Notation

/-! ### Measuring -/

namespace Direction

variable {now : Moment} {text : String} (rest : List Value) (direction : Direction)

/-- A text that names a moment is measured from now to this moment, in its direction. -/
theorem measure_of_eq_some (hnow : now.nanos < nanosPerSecond) {s : Int}
    (h : ofText? now text.toList = some (now.shift s)) :
    direction.measure (.string text :: rest) now =
      .string (Duration.spell (Vocabulary.flag (.string text :: rest) 1) (direction.signed s)) := by
  have huntil := secondsSince_shift hnow s 0
  have hsince := secondsSince_shift hnow 0 s
  rw [shift_zero] at huntil hsince
  have hfirst : Vocabulary.firstText? (.string text :: rest) = some text := rfl
  cases direction with
  | ahead =>
    simp only [measure, Vocabulary.timeUntil, Vocabulary.relative, hfirst, h, huntil, signed,
      Int.sub_zero]
  | back =>
    simp only [measure, Vocabulary.timeSince, Vocabulary.relative, hfirst, h, hsince, signed,
      Int.zero_sub]

/-- A text that names no moment is complained about. -/
theorem measure_of_eq_none (h : ofText? now text.toList = none) :
    direction.measure (.string text :: rest) now =
      .string ("Could not understand the time '" ++ text ++ "'") := by
  have hfirst : Vocabulary.firstText? (.string text :: rest) = some text := rfl
  cases direction with
  | ahead => simp only [measure, Vocabulary.timeUntil, Vocabulary.relative, hfirst, h]
  | back => simp only [measure, Vocabulary.timeSince, Vocabulary.relative, hfirst, h]

end Direction

end Moment

open Moment Moment.Notation

/-! ### The direction of a text -/

section Texts

variable {now m : Moment} {ws : List (List Char)} {text : String}

/-- **Only a minus turns the direction.** A text that begins with `in` names a moment before now
exactly if it is `in -N unit`, and a text that ends with `ago` a moment after now exactly if it is
`-N unit ago`, where the digits are not all zero. -/
theorem only_a_minus_turns_the_direction (hnow : now.nanos < nanosPerSecond)
    (htext : Spaced ws text.toList) (hm : ofText? now text.toList = some m) :
    ((lowered ws).head? = some inWord →
      (m.Before now ↔ ∃ digits unit, lowered ws = [inWord, '-' :: digits, unit] ∧
        0 < Numeral.ofDigits 0 digits)) ∧
    ((lowered ws).getLast? = some agoWord →
      (now.Before m ↔ ∃ digits unit, lowered ws = ['-' :: digits, unit, agoWord] ∧
        0 < Numeral.ofDigits 0 digits)) := by
  have hrelative {w : List Char} {c : Char} (hw : w ∈ lowered ws) (hcw : c ∈ w)
      (hc : isMark c = false) (hday : ∀ d ∈ dayWords, w ≠ d.toList) :
      relative? now (lowered ws) = some m := by
    rw [← hm, ofText?_eq_relative? htext hw hcw hc]
    intro d hd heq
    rw [heq, List.mem_singleton] at hw
    exact hday d hd hw
  constructor
  · intro hin
    have hm := hrelative (List.mem_of_head? hin) (c := 'i') (by decide) (by decide) (by decide)
    obtain ⟨rest, hrest⟩ := List.head?_eq_some_iff.1 hin
    rw [hrest, relative?_in_cons] at hm
    split at hm
    next => cases hm
    next =>
      obtain ⟨s, rfl, hs⟩ := exists_shift_of_amount? hnow hm
      rw [Direction.signed, shift_before_iff, hs, hrest]
      simp
  · intro hago
    have hm := hrelative (List.mem_of_getLast? hago) (c := 'g') (by decide) (by decide) (by decide)
    obtain ⟨rest, hrest⟩ := List.getLast?_eq_some_iff.1 hago
    rw [hrest, relative?_concat_ago] at hm
    split at hm
    next => cases hm
    next =>
      obtain ⟨s, rfl, hs⟩ := exists_shift_of_amount? hnow hm
      have hcut (d u : List Char) : rest ++ [agoWord] = [d, u, agoWord] ↔ rest = [d, u] := by
        change rest ++ [agoWord] = [d, u] ++ [agoWord] ↔ rest = [d, u]
        exact List.append_left_inj _
      rw [Direction.signed, before_shift_iff, Int.neg_pos, hs, hrest]
      simp only [hcut]

/-- `in -5 minutes` is five minutes ago. -/
theorem only_a_minus_turns_the_direction_in :
    Spaced ["in".toList, "-5".toList, "minutes".toList] "in -5 minutes".toList ∧
      ofText? ⟨1710072000, 0⟩ "in -5 minutes".toList = some ⟨1710071700, 0⟩ ∧
      Before ⟨1710071700, 0⟩ ⟨1710072000, 0⟩ := by
  have htext : Spaced ["in".toList, "-5".toList, "minutes".toList] "in -5 minutes".toList :=
    words_eq_iff.1 (by decide)
  have hm : ofText? ⟨1710072000, 0⟩ "in -5 minutes".toList = some ⟨1710071700, 0⟩ := by
    decide +kernel
  have hin := (only_a_minus_turns_the_direction (by decide) htext hm).1 (by decide)
  exact ⟨htext, hm, hin.2 ⟨['5'], "minutes".toList, by decide, by decide⟩⟩

end Texts

/-! ### Spellings -/

/-- **Relative times mean the same in every spelling.** Let a text consist of the words of a
spelling, in any case of their letters and with any blanks. If the amount fits, the function for its
direction gives the duration that the amount comes to, in the form that is asked for, and the one
for the other direction gives no time at all. Otherwise, both complain about the text. -/
theorem relative_times_mean_the_same {now : Moment} (hnow : now.nanos < nanosPerSecond)
    {digits unit : List Char} (hne : digits ≠ []) (hdigits : ∀ d ∈ digits, d.isDigit = true)
    {size : Nat} (hunit : unitSeconds? (String.ofList unit) = some size) {direction : Direction}
    {ws : List (List Char)} (hws : lowered ws ∈ direction.spellings digits unit) {text : String}
    (htext : Spaced ws text.toList) (rest : List Value) :
    (Fits now direction (Numeral.ofDigits 0 digits) size →
      direction.measure (.string text :: rest) now =
        .string (Duration.spell (Vocabulary.flag (.string text :: rest) 1)
          (Numeral.ofDigits 0 digits * size)) ∧
      direction.opposite.measure (.string text :: rest) now =
        .string (Duration.spell (Vocabulary.flag (.string text :: rest) 1) 0)) ∧
    (¬Fits now direction (Numeral.ofDigits 0 digits) size →
      ∀ d : Direction, d.measure (.string text :: rest) now =
        .string ("Could not understand the time '" ++ text ++ "'")) := by
  have hread := ofText?_of_mem_spellings hne hdigits hunit hws htext now
  have hamount : Numeral.int? digits = some (Numeral.ofDigits 0 digits : Int) := by
    obtain ⟨d, ds, rfl⟩ := List.exists_cons_of_ne_nil hne
    obtain ⟨hd, hds⟩ := List.forall_mem_cons.1 hdigits
    exact Numeral.int?_of_digits hd hds
  constructor
  · intro hfits
    have hsome := (shifted?_eq_some_iff (p := (digits, unit)) hnow).2
      ⟨_, _, hamount, hunit, hfits, rfl⟩
    have hnonneg : (0 : Int) ≤ Numeral.ofDigits 0 digits * size :=
      Int.mul_nonneg (Int.natCast_nonneg _) (Int.natCast_nonneg _)
    rw [← hread] at hsome
    rw [direction.measure_of_eq_some rest hnow hsome, Direction.signed_signed,
      direction.opposite.measure_of_eq_some rest hnow hsome, Direction.opposite_signed_signed,
      Duration.spell_of_nonpos _ (Int.neg_nonpos_of_nonneg hnonneg)]
    exact ⟨rfl, rfl⟩
  · intro hfits d
    refine d.measure_of_eq_none rest (Option.eq_none_iff_forall_ne_some.2 fun m hm => ?_)
    rw [hread, shifted?_eq_some_iff hnow] at hm
    obtain ⟨amount, _, hamount', hunit', hfits', -⟩ := hm
    cases hamount.symm.trans hamount'
    cases hunit.symm.trans hunit'
    exact hfits hfits'

/-- A zero in front, capitals and blanks make no difference. -/
theorem relative_times_mean_the_same_capitals :
    Spaced ["iN".toList, "0090".toList, "MinuteS".toList] " iN 0090\tMinuteS".toList ∧
      Fits ⟨1710072000, 0⟩ .ahead 90 60 ∧
      Vocabulary.timeUntil [.string " iN 0090\tMinuteS", .boolean true] ⟨1710072000, 0⟩ =
        .string "1 hour, 30 minutes" ∧
      Vocabulary.timeSince [.string " iN 0090\tMinuteS", .boolean true] ⟨1710072000, 0⟩ =
        .string "0 seconds" := by
  have htext : Spaced ["iN".toList, "0090".toList, "MinuteS".toList] " iN 0090\tMinuteS".toList :=
    words_eq_iff.1 (by decide)
  have hfits : Fits ⟨1710072000, 0⟩ .ahead 90 60 := by decide
  have hsame := @relative_times_mean_the_same ⟨1710072000, 0⟩ (by decide) "0090".toList
    "minutes".toList (by decide) (List.all_eq_true.1 (by decide)) 60 rfl .ahead _ (by decide) _ htext [.boolean true]
  exact ⟨htext, hfits, hsame.1 hfits⟩

end Parley
