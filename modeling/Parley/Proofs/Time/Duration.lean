import Parley.Number.Numeral
import Parley.Time.Duration

/-!
# Reading durations

A duration in words is a listing of components, each an amount of a unit. Both forms can be read by
one reader (`Parley.Duration.read`), which takes a run of digits for an amount and the letter that
comes next for its unit, and passes over everything else; so it is nothing but the components that
the forms have in common.

The components of a number of seconds are the only ones with less than 24 hours, 60 minutes and 60
seconds that add up to it. This is why nothing is lost in writing them down without the zeros.
-/

namespace Parley

namespace Duration

/-! ### Components -/

/-- The units of a duration. -/
inductive Measure where
  | day
  | hour
  | minute
  | second
deriving DecidableEq, Repr

/-- The seconds of a unit. -/
def Measure.seconds : Measure → Nat
  | day => 86400
  | hour => 3600
  | minute => 60
  | second => 1

/-- The name of a unit. -/
def Measure.name : Measure → String
  | day => "day"
  | hour => "hour"
  | minute => "minute"
  | second => "second"

/-- The letter of a unit, which is the first one of its name. -/
def Measure.letter : Measure → String
  | day => "d"
  | hour => "h"
  | minute => "m"
  | second => "s"

/-- So many of a unit. -/
structure Component where
  amount : Nat
  unit : Measure
deriving DecidableEq, Repr

/-- The seconds of components, all together. -/
def total (cs : List Component) : Nat :=
  cs.foldr (fun c seconds => c.amount * c.unit.seconds + seconds) 0

/-- The components that are mentioned: those that are not zero, or no seconds if all are. -/
def mentioned (cs : List Component) : List Component :=
  if ∀ c ∈ cs, c.amount = 0 then [⟨0, .second⟩] else cs.filter fun c => c.amount ≠ 0

/-- A component in writing: `2h`, or `2 hours` in the long form, where one alone is in the
singular. -/
def Component.written (long : Bool) (c : Component) : String :=
  match long with
  | false => toString c.amount ++ c.unit.letter
  | true => toString c.amount ++ " " ++ c.unit.name ++ (if c.amount = 1 then "" else "s")

/-- Components in writing, with blanks between them, and with commas in the long form. -/
def listing (long : Bool) (cs : List Component) : String :=
  (if long then ", " else " ").intercalate (cs.map (Component.written long))

/-! ### Reading -/

/-- The unit with a letter. -/
def Measure.ofLetter? : Char → Option Measure
  | 'd' => some day
  | 'h' => some hour
  | 'm' => some minute
  | 's' => some second
  | _ => none

/-- The components of a text, where an amount may have been read whose unit is still to come. -/
def readFrom : Option Nat → List Char → List Component
  | _, [] => []
  | none, c :: cs => readFrom (if c.isDigit then some (Numeral.digitValue c) else none) cs
  | some n, c :: cs =>
    if c.isDigit then readFrom (some (10 * n + Numeral.digitValue c)) cs
    else
      match Measure.ofLetter? c with
      | some u => ⟨n, u⟩ :: readFrom none cs
      | none => readFrom (some n) cs

/-- **The components that a text speaks of.** The unit of an amount is told by the first letter
behind it that is the letter of one. -/
def read (text : String) : List Component :=
  readFrom none text.toList

/-- Without an amount, what is no digit is passed over. -/
theorem readFrom_none_append {cs : List Char} (h : ∀ c ∈ cs, c.isDigit = false) (rest : List Char) :
    readFrom none (cs ++ rest) = readFrom none rest := by
  induction cs with
  | nil => rfl
  | cons c cs ih =>
    obtain ⟨hc, hcs⟩ := List.forall_mem_cons.1 h
    rw [List.cons_append, readFrom, hc]
    exact ih hcs

/-- Digits go on with an amount. -/
theorem readFrom_digits {digits : List Char} (h : ∀ c ∈ digits, c.isDigit = true) (n : Nat)
    (rest : List Char) :
    readFrom (some n) (digits ++ rest) = readFrom (some (Numeral.ofDigits n digits)) rest := by
  induction digits generalizing n with
  | nil => rfl
  | cons c digits ih =>
    obtain ⟨hc, hdigits⟩ := List.forall_mem_cons.1 h
    rw [List.cons_append, readFrom, if_pos hc]
    exact ih hdigits _

/-- A number is read as an amount. -/
theorem readFrom_number (n : Nat) (rest : List Char) :
    readFrom none ((toString n).toList ++ rest) = readFrom (some n) rest := by
  have hall : ∀ c ∈ Nat.toDigits 10 n, c.isDigit = true :=
    fun c hc => Nat.isDigit_of_mem_toDigits (by decide) (by decide) hc
  have hvalue : Numeral.ofDigits 0 (Nat.toDigits 10 n) = n := Numeral.ofDigits_toDigits 0 n
  have hchars : (toString n).toList = Nat.toDigits 10 n := Nat.toList_repr
  obtain ⟨c, digits, hdigits, hc⟩ := Numeral.exists_toDigits_eq_cons n
  rw [hdigits] at hall hvalue
  have hfirst : Numeral.ofDigits (Numeral.digitValue c) digits = n := by
    rw [← hvalue, Numeral.ofDigits, Numeral.ofDigits, List.foldl_cons, Nat.mul_zero, Nat.zero_add]
  rw [hchars, hdigits, List.cons_append, readFrom, if_pos hc,
    readFrom_digits (List.forall_mem_cons.1 hall).2, hfirst]

/-- The letter of a unit ends its amount. -/
theorem readFrom_letter (n : Nat) (u : Measure) (rest : List Char) :
    readFrom (some n) (u.letter.toList ++ rest) = ⟨n, u⟩ :: readFrom none rest := by
  cases u <;> rfl

/-- The name of a unit ends its amount as well, blanks or not. -/
theorem readFrom_name (n : Nat) (u : Measure) (rest : List Char) :
    readFrom (some n) (' ' :: (u.name.toList ++ rest)) = ⟨n, u⟩ :: readFrom none rest := by
  cases u <;> rfl

/-- A component is read as it is written, whatever comes behind it. -/
theorem readFrom_written (long : Bool) (c : Component) (rest : List Char) :
    readFrom none ((c.written long).toList ++ rest) = c :: readFrom none rest := by
  obtain ⟨n, u⟩ := c
  cases long with
  | false => rw [Component.written, String.toList_append, List.append_assoc, readFrom_number,
      readFrom_letter]
  | true =>
    have hplural : ∀ d ∈ (if n = 1 then "" else "s").toList, d.isDigit = false := by
      split <;> simp
    rw [Component.written, String.toList_append, String.toList_append, String.toList_append,
      List.append_assoc, List.append_assoc, List.append_assoc, readFrom_number]
    exact (readFrom_name n u _).trans (congrArg _ (readFrom_none_append hplural rest))

/-- **What a listing says is read from it**, in either form. -/
theorem read_listing (long : Bool) (cs : List Component) : read (listing long cs) = cs := by
  have hbetween : ∀ d ∈ (if long then ", " else " ").toList, d.isDigit = false := by
    cases long <;> simp
  rw [read, listing, String.toList_intercalate]
  induction cs with
  | nil => rfl
  | cons c cs ih =>
    cases cs with
    | nil =>
      simp only [List.map_cons, List.map_nil, List.intercalate_singleton]
      have hlast := readFrom_written long c []
      rwa [List.append_nil] at hlast
    | cons d cs =>
      simp only [List.map_cons, List.intercalate_cons_cons, List.append_assoc] at ih ⊢
      rw [readFrom_written, readFrom_none_append hbetween, ih]

/-! ### The components of a number of seconds -/

/-- Components of all units, from the largest on. -/
def components (days hours minutes seconds : Nat) : List Component :=
  [⟨days, .day⟩, ⟨hours, .hour⟩, ⟨minutes, .minute⟩, ⟨seconds, .second⟩]

/-- A component with the texts that it is spelled with. -/
def Component.part (c : Component) : Part :=
  ⟨c.amount, c.unit.letter, c.unit.name⟩

theorem spell_part (long : Bool) (c : Component) : c.part.spell long = c.written long := by
  cases long <;> rfl

/-- A duration is spelled as the listing of what is mentioned of its components. -/
theorem spell_eq_listing (long : Bool) (s : Int) :
    spell long s = listing long (mentioned (components (s.toNat / 86400) (s.toNat % 86400 / 3600)
      (s.toNat % 3600 / 60) (s.toNat % 60))) := by
  have hparts : parts s.toNat = (components (s.toNat / 86400) (s.toNat % 86400 / 3600)
      (s.toNat % 3600 / 60) (s.toNat % 60)).map Component.part := rfl
  unfold spell mentioned
  rw [hparts]
  generalize components _ _ _ _ = cs
  have hshown : (cs.map Component.part).filter (fun p => 0 < p.amount) =
      (cs.filter fun c => c.amount ≠ 0).map Component.part := by
    rw [List.filter_map]
    refine congrArg (List.map _) (List.filter_congr fun c _ => ?_)
    exact decide_eq_decide.2 Nat.pos_iff_ne_zero
  simp only [hshown]
  split
  next h =>
    have hzero : ∀ c ∈ cs, c.amount = 0 := by simpa using h
    rw [if_pos hzero]
    cases long <;> rfl
  next h =>
    have hzero : ¬∀ c ∈ cs, c.amount = 0 := by simpa using h
    rw [if_neg hzero, listing, List.map_map]
    exact congrArg _ (List.map_congr_left fun c _ => spell_part long c)

/-- What is left out adds nothing. -/
theorem total_mentioned (cs : List Component) : total (mentioned cs) = total cs := by
  have hfilter : total (cs.filter fun c => c.amount ≠ 0) = total cs := by
    induction cs with
    | nil => rfl
    | cons c cs ih =>
      by_cases hc : c.amount = 0
      · rw [List.filter_cons_of_neg (by simpa using hc), ih]
        simp [total, hc]
      · rw [List.filter_cons_of_pos (by simpa using hc)]
        simp only [total, List.foldr_cons] at ih ⊢
        rw [ih]
  unfold mentioned
  split
  next h =>
    have hnone : (cs.filter fun c => c.amount ≠ 0) = [] := by simpa using h
    rw [← hfilter, hnone]
    rfl
  next => exact hfilter

theorem total_components (days hours minutes seconds : Nat) :
    total (components days hours minutes seconds) =
      86400 * days + 3600 * hours + 60 * minutes + seconds := by
  simp only [total, components, List.foldr_cons, List.foldr_nil, Measure.seconds]
  omega

/-- What lies in the past counts as no time. -/
theorem spell_of_nonpos (long : Bool) {s : Int} (h : s ≤ 0) : spell long s = spell long 0 := by
  unfold spell
  rw [Int.toNat_of_nonpos h]
  rfl

end Duration

open Duration (spell listing mentioned components read total)

/-- **Durations read back exactly.** A number of seconds, or zero if it is negative, has one form
as days, hours, minutes and seconds. Both ways of spelling it list the components that are not zero
in this order, which can be read from them; they add up to the number, so that no other one is
spelled alike. -/
theorem durations_read_back (s : Int) :
    ∃ days hours minutes seconds : Nat, hours < 24 ∧ minutes < 60 ∧ seconds < 60 ∧
      (86400 * days + 3600 * hours + 60 * minutes + seconds : Nat) = max 0 s ∧
      ∀ long,
        spell long s = listing long (mentioned (components days hours minutes seconds)) ∧
        read (spell long s) = mentioned (components days hours minutes seconds) ∧
        total (read (spell long s)) = max 0 s ∧
        ∀ t, spell long s = spell long t ↔ max 0 s = max 0 t := by
  have hread (long : Bool) (t : Int) : total (read (spell long t)) = t.toNat := by
    rw [Duration.spell_eq_listing, Duration.read_listing, Duration.total_mentioned,
      Duration.total_components]
    omega
  refine ⟨s.toNat / 86400, s.toNat % 86400 / 3600, s.toNat % 3600 / 60, s.toNat % 60, by omega,
    by omega, by omega, by omega, fun long => ?_⟩
  refine ⟨Duration.spell_eq_listing long s, ?_, ?_, fun t => ⟨?_, ?_⟩⟩
  · rw [Duration.spell_eq_listing, Duration.read_listing]
  · have htotal := hread long s
    omega
  · intro h
    have hs := hread long s
    have ht := hread long t
    rw [h] at hs
    omega
  · intro h
    have hnat : s.toNat = t.toNat := by omega
    rw [Duration.spell_eq_listing, Duration.spell_eq_listing, hnat]

end Parley
