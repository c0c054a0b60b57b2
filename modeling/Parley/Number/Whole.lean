import Parley.Number.Binary64

/-!
# Whole numbers

The whole numbers of the language are those of 64 bits, `Int64`. Arithmetic on them is done
in `Int`, where it is exact, and `Whole.ofInt?` decides whether the result is one of them.

Main statements: `toInt_ofInt?` (what is taken back is unchanged) and `ofInt?_toInt` (every
whole number is taken back).
-/

namespace Parley

namespace Whole

/-- Two to the 63rd power: whole numbers are below it, and not below its negative. -/
abbrev bound : Nat := 9223372036854775808

/-- The numbers that 64 bits can hold. -/
def InRange (n : Int) : Prop :=
  -(bound : Int) ≤ n ∧ n < (bound : Int)

instance (n : Int) : Decidable (InRange n) :=
  inferInstanceAs (Decidable (_ ∧ _))

/-- The whole number equal to an integer, if 64 bits can hold it. -/
def ofInt? (n : Int) : Option Int64 :=
  if InRange n then some (Int64.ofInt n) else none

theorem toInt_ofInt? {n : Int} {w : Int64} (h : ofInt? n = some w) : w.toInt = n := by
  unfold ofInt? at h
  split at h
  · rename_i hr
    obtain ⟨hl, hu⟩ := hr
    cases h
    exact Int64.toInt_ofInt_of_le (by simpa using hl) (by simpa using hu)
  · exact absurd h (by simp)

theorem inRange_toInt (w : Int64) : InRange w.toInt :=
  ⟨by simpa using Int64.minValue_le_toInt w, by simpa using Int64.toInt_lt w⟩

theorem ofInt?_toInt (w : Int64) : ofInt? w.toInt = some w := by
  rw [ofInt?, if_pos (inRange_toInt w), Int64.ofInt_toInt]

/-- The whole number nearest to an integer. -/
def clamp (n : Int) : Int64 :=
  if n < -(bound : Int) then Int64.minValue
  else if n < (bound : Int) then Int64.ofInt n
  else Int64.maxValue

/-- The float nearest to a whole number; between two that are equally near, the even one. -/
def toFloat (w : Int64) : Float :=
  Float.ofInt w.toInt

end Whole

end Parley
