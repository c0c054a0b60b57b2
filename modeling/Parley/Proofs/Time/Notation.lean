import Parley.Proofs.Text.Words
import Parley.Time.Notation

/-!
# Which reading of a moment applies

Dates, times and offsets are written with digits, blanks and a few marks
(`Parley.Moment.Notation.isMark`), the only letters being the `T` in front of a time and the `Z` of
universal time. Their readers take one piece after another up to the end of the text, and none of
the pieces can go past any other character; so a text with such a character is not one of them
(`Parley.Moment.Notation.Stuck`). Unless it is a word for a day, all that is left for it is to be an
amount of a unit (`Parley.Moment.ofText?_eq_relative?`).
-/

namespace Parley

namespace Moment

namespace Notation

/-- The characters that dates, times and offsets are written with. -/
def isMark (c : Char) : Bool :=
  c.isDigit || isBlank c || ['-', '+', '\u2212', ':', '.', 'T', 't', 'Z', 'z'].contains c

/-- Capitals are such characters where small letters are. -/
theorem isMark_toLower (c : Char) : isMark c.toLower = isMark c :=
  apply_toLower (by decide) c

section Foreign

variable {α β : Type} {c : Char}

theorem isDigit_eq_false (hc : isMark c = false) : c.isDigit = false := by
  simp only [isMark, Bool.or_eq_false_iff] at hc
  exact hc.1.1

theorem isBlank_eq_false (hc : isMark c = false) : isBlank c = false := by
  simp only [isMark, Bool.or_eq_false_iff] at hc
  exact hc.1.2

theorem mem_of_mem_cons (hc : isMark c = false) {d : Char} (hd : isMark d = true) {cs : List Char}
    (hmem : c ∈ d :: cs) : c ∈ cs := by
  refine (List.mem_cons.1 hmem).resolve_left ?_
  rintro rfl
  exact absurd hd (by simp [hc])

/-! ### Pieces -/

/-- A reader of a piece does not go past the character. -/
structure Keeps (c : Char) (p : List Char → Option (α × List Char)) : Prop where
  mem : ∀ {cs a rest}, p cs = some (a, rest) → c ∈ cs → c ∈ rest

/-- A reader of a mark does not go past the character. -/
structure Skips (c : Char) (p : List Char → Option (List Char)) : Prop where
  mem : ∀ {cs rest}, p cs = some rest → c ∈ cs → c ∈ rest

theorem mem_dropWhile {p : Char → Bool} (hc : p c = false) {cs : List Char} (hmem : c ∈ cs) :
    c ∈ cs.dropWhile p := by
  rw [← List.takeWhile_append_dropWhile (p := p) (l := cs), List.mem_append] at hmem
  refine hmem.resolve_left fun htake => ?_
  exact absurd (List.all_eq_true.1 List.all_takeWhile c htake) (by simp [hc])

/-- What is not among the first characters is among the others. -/
theorem mem_drop {digits cs : List Char} (hbegin : digits <+: cs) (hc : c ∉ digits)
    (hmem : c ∈ cs) : c ∈ cs.drop digits.length := by
  obtain ⟨rest, rfl⟩ := hbegin
  rw [List.drop_left]
  exact (List.mem_append.1 hmem).resolve_left hc

theorem keeps_number? (hc : isMark c = false) (most : Nat) : Keeps c (number? most) := by
  refine ⟨fun {cs n rest} h hmem => ?_⟩
  obtain ⟨-, ⟨⟩⟩ := Option.ite_none_left_eq_some.1 h
  refine mem_drop ((List.take_prefix _ _).trans (List.takeWhile_prefix _)) (fun hdigits => ?_) hmem
  have hdigit := List.all_eq_true.1 List.all_takeWhile c (List.mem_of_mem_take hdigits)
  exact absurd hdigit (by simp [isDigit_eq_false hc])

theorem keeps_fixed? (hc : isMark c = false) (count : Nat) : Keeps c (fixed? count) := by
  refine ⟨fun {cs n rest} h hmem => ?_⟩
  obtain ⟨⟨hlength, hall⟩, ⟨⟩⟩ := Option.ite_none_right_eq_some.1 h
  have hnot : c ∉ cs.take count := fun hin =>
    absurd (List.all_eq_true.1 hall c hin) (by simp [isDigit_eq_false hc])
  have hdrop := mem_drop (List.take_prefix _ _) hnot hmem
  rwa [hlength] at hdrop

theorem skips_mark? (hc : isMark c = false) {d : Char} (hd : isMark d = true) :
    Skips c (mark? d) := by
  refine ⟨fun {cs rest} h hmem => ?_⟩
  cases cs with
  | nil => cases h
  | cons e cs =>
    obtain ⟨heq, hrest⟩ := Option.ite_none_right_eq_some.1 h
    cases hrest
    cases heq
    exact mem_of_mem_cons hc hd hmem

theorem keeps_loose? (hc : isMark c = false) (most : Nat) : Keeps c (loose? most) := by
  refine ⟨fun {cs n rest} h hmem => ?_⟩
  exact (keeps_number? hc most).mem h (mem_dropWhile (isBlank_eq_false hc) hmem)

theorem keeps_year? (hc : isMark c = false) : Keeps c year? := by
  refine ⟨fun {cs n rest} h hmem => ?_⟩
  have hmem : c ∈ trimLeft cs := mem_dropWhile (isBlank_eq_false hc) hmem
  unfold year? at h
  split at h
  next ds heq =>
    obtain ⟨⟨m, more⟩, hm, ⟨⟩⟩ := Option.map_eq_some_iff.1 h
    exact (keeps_number? hc _).mem hm (mem_of_mem_cons hc (by decide) (heq ▸ hmem))
  next ds heq =>
    obtain ⟨⟨m, more⟩, hm, ⟨⟩⟩ := Option.map_eq_some_iff.1 h
    exact (keeps_number? hc _).mem hm (mem_of_mem_cons hc (by decide) (heq ▸ hmem))
  next =>
    obtain ⟨⟨m, more⟩, hm, ⟨⟩⟩ := Option.map_eq_some_iff.1 h
    exact (keeps_number? hc _).mem hm hmem

theorem keeps_fraction? (hc : isMark c = false) : Keeps c fraction? := by
  refine ⟨fun {cs n rest} h hmem => ?_⟩
  obtain ⟨-, ⟨⟩⟩ := Option.ite_none_left_eq_some.1 h
  exact mem_dropWhile (isDigit_eq_false hc) hmem

/-! ### Readings up to the end -/

/-- A reading fails on every text with the character. -/
structure Stuck (c : Char) (p : List Char → Option α) : Prop where
  eq_none : ∀ {cs}, c ∈ cs → p cs = none

/-- A reading that begins with a piece fails if the rest of it does. -/
theorem Stuck.piece {p : List Char → Option (α × List Char)} {f : α × List Char → Option β}
    (hp : Keeps c p) (hf : ∀ a, Stuck c fun cs => f (a, cs)) : Stuck c fun cs => p cs >>= f := by
  refine ⟨fun {cs} hmem => Option.bind_eq_none_iff.2 fun ⟨a, rest⟩ h => ?_⟩
  exact (hf a).eq_none (hp.mem h hmem)

/-- A reading that begins with a mark fails if the rest of it does. -/
theorem Stuck.mark {p : List Char → Option (List Char)} {f : List Char → Option β}
    (hp : Skips c p) (hf : Stuck c f) : Stuck c fun cs => p cs >>= f := by
  refine ⟨fun {cs} hmem => Option.bind_eq_none_iff.2 fun rest h => ?_⟩
  exact hf.eq_none (hp.mem h hmem)

/-- A reading that begins with a reading that fails does so, too. -/
theorem Stuck.bind {p : List Char → Option α} {f : α → Option β} (hp : Stuck c p) :
    Stuck c fun cs => p cs >>= f := by
  refine ⟨fun {cs} hmem => ?_⟩
  rw [hp.eq_none hmem]
  rfl

/-- A reading fails where nothing may be left. -/
theorem Stuck.finish {f : Unit → Option β} : Stuck c fun cs => demand cs.isEmpty >>= f := by
  refine ⟨fun {cs} hmem => ?_⟩
  have hempty : cs.isEmpty = false := List.isEmpty_eq_false_iff.2 (List.ne_nil_of_mem hmem)
  simp only [hempty]
  rfl

theorem of_demand {b : Bool} {u : Unit} (h : demand b = some u) : b = true :=
  (Option.ite_none_right_eq_some.1 h).1

theorem keeps_offset? (hc : isMark c = false) : Keeps c offset? := by
  refine ⟨fun {cs n rest} h hmem => ?_⟩
  unfold offset? at h
  split at h
  next ds =>
    obtain ⟨⟩ := h
    exact mem_of_mem_cons hc (by decide) hmem
  next ds =>
    obtain ⟨⟩ := h
    exact mem_of_mem_cons hc (by decide) hmem
  next d ds _ _ =>
    obtain ⟨⟨⟩, hsign, h⟩ := Option.bind_eq_some_iff.1 h
    obtain ⟨⟨hours, cs₁⟩, h₁, h⟩ := Option.bind_eq_some_iff.1 h
    obtain ⟨cs₂, h₂, h⟩ := Option.bind_eq_some_iff.1 h
    obtain ⟨⟨minutes, cs₃⟩, h₃, h⟩ := Option.bind_eq_some_iff.1 h
    obtain ⟨⟨⟩, -, ⟨⟩⟩ := Option.bind_eq_some_iff.1 h
    have hd : isMark d = true := by
      have hsigns := of_demand hsign
      simp only [Bool.or_eq_true, beq_iff_eq] at hsigns
      rcases hsigns with (rfl | rfl) | rfl <;> decide
    have hmem₁ := (keeps_fixed? hc 2).mem h₁ (mem_of_mem_cons hc hd hmem)
    exact (keeps_fixed? hc 2).mem h₃ ((skips_mark? hc (by decide)).mem h₂ hmem₁)
  next => cases h

theorem keeps_date? (hc : isMark c = false) : Keeps c date? := by
  refine ⟨fun {cs n rest} h hmem => ?_⟩
  obtain ⟨⟨year, cs₁⟩, h₁, h⟩ := Option.bind_eq_some_iff.1 h
  obtain ⟨cs₂, h₂, h⟩ := Option.bind_eq_some_iff.1 h
  obtain ⟨⟨month, cs₃⟩, h₃, h⟩ := Option.bind_eq_some_iff.1 h
  obtain ⟨cs₄, h₄, h⟩ := Option.bind_eq_some_iff.1 h
  obtain ⟨⟨day, cs₅⟩, h₅, h⟩ := Option.bind_eq_some_iff.1 h
  obtain ⟨number, -, ⟨⟩⟩ := Option.bind_eq_some_iff.1 h
  have hmem₂ := (skips_mark? hc (by decide)).mem h₂ ((keeps_year? hc).mem h₁ hmem)
  have hmem₄ := (skips_mark? hc (by decide)).mem h₄ ((keeps_loose? hc 2).mem h₃ hmem₂)
  exact (keeps_loose? hc 2).mem h₅ hmem₄

theorem stuck_time? (hc : isMark c = false) (withSeconds : Bool) : Stuck c (time? withSeconds) := by
  unfold time?
  refine .piece (keeps_loose? hc 2) fun hour => ?_
  refine .mark (skips_mark? hc (by decide)) ?_
  refine .piece (keeps_loose? hc 2) fun minute => ?_
  cases withSeconds with
  | true =>
    refine .mark (skips_mark? hc (by decide)) ?_
    refine .piece (keeps_loose? hc 2) fun second => ?_
    exact .finish
  | false => exact .finish

/-- The mark between date and time. -/
theorem skips_separator (hc : isMark c = false) :
    Skips c fun cs => (mark? 'T' cs).or ((mark? 't' cs).or (mark? ' ' cs)) := by
  refine ⟨fun {cs rest} h hmem => ?_⟩
  obtain h | ⟨-, h⟩ := Option.or_eq_some_iff.1 h
  · exact (skips_mark? hc (by decide)).mem h hmem
  · obtain h | ⟨-, h⟩ := Option.or_eq_some_iff.1 h
    · exact (skips_mark? hc (by decide)).mem h hmem
    · exact (skips_mark? hc (by decide)).mem h hmem

theorem stuck_timestamp? (hc : isMark c = false) : Stuck c timestamp? := by
  unfold timestamp?
  refine .piece (keeps_fixed? hc 4) fun year => ?_
  refine .mark (skips_mark? hc (by decide)) ?_
  refine .piece (keeps_fixed? hc 2) fun month => ?_
  refine .mark (skips_mark? hc (by decide)) ?_
  refine .piece (keeps_fixed? hc 2) fun day => ?_
  refine .mark (skips_separator hc) ?_
  refine .piece (keeps_fixed? hc 2) fun hour => ?_
  refine .mark (skips_mark? hc (by decide)) ?_
  refine .piece (keeps_fixed? hc 2) fun minute => ?_
  refine .mark (skips_mark? hc (by decide)) ?_
  refine .piece (keeps_fixed? hc 2) fun second => ?_
  refine ⟨fun {cs} hmem => ?_⟩
  dsimp only
  split
  next ds =>
    have hmem : c ∈ ds := mem_of_mem_cons hc (by decide) hmem
    refine (Stuck.piece (keeps_fraction? hc) fun nanos => ?_).eq_none hmem
    dsimp only
    refine .piece (keeps_offset? hc) fun ahead => ?_
    dsimp only
    exact .finish
  next =>
    refine (Stuck.piece (keeps_offset? hc) fun ahead => ?_).eq_none hmem
    dsimp only
    exact .finish

theorem skips_trimLeft (hc : isMark c = false) : Skips c fun cs => some (trimLeft cs) := by
  refine ⟨fun {cs rest} h hmem => ?_⟩
  cases h
  exact mem_dropWhile (isBlank_eq_false hc) hmem

theorem stuck_dateAndTime? (hc : isMark c = false) (withT withSeconds : Bool) :
    Stuck c (dateAndTime? withT withSeconds) := by
  unfold dateAndTime?
  refine .piece (keeps_date? hc) fun day => ?_
  have hend : Stuck c fun cs => time? withSeconds cs >>= onDay? day :=
    Stuck.bind (stuck_time? hc withSeconds)
  cases withT with
  | true => exact .mark (p := mark? 'T') (skips_mark? hc (by decide)) hend
  | false => exact .mark (skips_trimLeft hc) hend

theorem stuck_dateAlone? (hc : isMark c = false) : Stuck c dateAlone? := by
  unfold dateAlone?
  exact .piece (keeps_date? hc) fun day => .finish

theorem stuck_timeAlone? (hc : isMark c = false) (now : Moment) : Stuck c (timeAlone? now) :=
  Stuck.bind (stuck_time? hc false)

end Foreign

end Notation

open Notation

/-- The words for days. -/
def dayWords : List String :=
  ["now", "today", "tomorrow", "yesterday"]

/-- **A text with a character of no date or time** is the word for a day or an amount of a unit. -/
theorem ofText?_eq_relative? {text : List Char} {ws : List (List Char)} (htext : Spaced ws text)
    {w : List Char} {c : Char} (hw : w ∈ lowered ws) (hcw : c ∈ w) (hc : isMark c = false)
    (hday : ∀ d ∈ dayWords, lowered ws ≠ [d.toList]) (now : Moment) :
    ofText? now text = relative? now (lowered ws) := by
  obtain ⟨v, hv, rfl⟩ := List.mem_map.1 hw
  obtain ⟨c, hcv, rfl⟩ := List.mem_map.1 hcw
  rw [isMark_toLower] at hc
  have hwords : words ((trim text).map Char.toLower) = lowered ws := by
    rw [words_map_toLower, words_trim, words_eq_iff.2 htext]
  have hmem : c ∈ trim text := mem_trim (htext.mem hv hcv) (isBlank_eq_false hc)
  have hne {d : String} (hd : d ∈ dayWords) (hwords' : words d.toList = [d.toList]) :
      String.ofList ((trim text).map Char.toLower) ≠ d := by
    rintro rfl
    rw [String.toList_ofList] at hwords'
    exact hday _ hd (by rw [← hwords, hwords', String.toList_ofList])
  dsimp only [ofText?]
  split
  next h => exact absurd h (hne (by decide) (by decide))
  next h => exact absurd h (hne (by decide) (by decide))
  next h => exact absurd h (hne (by decide) (by decide))
  next h => exact absurd h (hne (by decide) (by decide))
  next =>
    have hdigits : ¬(9 ≤ (trim text).length ∧ (trim text).all Char.isDigit = true) := fun h =>
      absurd (List.all_eq_true.1 h.2 c hmem) (by simp [isDigit_eq_false hc])
    simp only [(stuck_timestamp? hc).eq_none hmem, (stuck_dateAndTime? hc _ _).eq_none hmem,
      (stuck_dateAlone? hc).eq_none hmem, (stuck_timeAlone? hc now).eq_none hmem, Option.or_none,
      if_neg hdigits, hwords]

end Moment

end Parley
