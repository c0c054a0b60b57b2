/-!
# Moments

A moment is a second, counted from the beginning of 1970 in universal time, and a number of
nanoseconds. In a *leap second*, which is counted as part of the second before it, there are
a milliard nanoseconds or more.

Dates are those of the Gregorian calendar, extended in both directions. Only moments of the
years from -262143 to 262142 are representable.
-/

namespace Parley

/-- A point in time. -/
structure Moment where
  seconds : Int
  nanos : Nat
deriving DecidableEq, Repr

/-- The nanoseconds of a second. -/
def nanosPerSecond : Nat := 1000000000

/-- The seconds of a day. -/
def secondsPerDay : Nat := 86400

/-! ### Dates -/

namespace Date

/-- Whether a year has a 29th of February. -/
def isLeap (year : Int) : Bool :=
  year % 4 = 0 && (year % 100 ≠ 0 || year % 400 = 0)

/-- The days of a month. -/
def daysIn (year : Int) (month : Nat) : Nat :=
  match month with
  | 2 => if isLeap year then 29 else 28
  | 4 | 6 | 9 | 11 => 30
  | _ => 31

/-- The days from the beginning of 1970 to the first of January of a year. -/
def daysBeforeYear (year : Int) : Int :=
  let y := year - 1
  365 * (year - 1970) + (y / 4 - y / 100 + y / 400) - 477

/-- The days of a year before a month. -/
def daysBeforeMonth (year : Int) : Nat → Nat
  | 0 => 0
  | 1 => 0
  | month + 2 => daysBeforeMonth year (month + 1) + daysIn year (month + 1)

/-- The number of a day, counted from the first of January 1970, if there is such a date. -/
def dayNumber? (year : Int) (month day : Nat) : Option Int :=
  if -262143 ≤ year ∧ year ≤ 262142 ∧ 1 ≤ month ∧ month ≤ 12 ∧ 1 ≤ day ∧
      day ≤ daysIn year month then
    some (daysBeforeYear year + daysBeforeMonth year month + (day - 1 : Nat))
  else none

/-- The first and the last day that are representable. -/
def firstDay : Int := daysBeforeYear (-262143)

@[inherit_doc firstDay]
def lastDay : Int := daysBeforeYear 262143 - 1

end Date

namespace Moment

/-- The number of the day that a moment belongs to. -/
def day (m : Moment) : Int :=
  m.seconds / secondsPerDay

/-- The seconds of its day before a moment. -/
def secondOfDay (m : Moment) : Int :=
  m.seconds % secondsPerDay

/-- Whether a moment lies in a representable year. -/
def inRange (m : Moment) : Bool :=
  Date.firstDay ≤ m.day && m.day ≤ Date.lastDay

/-- A moment, if it is representable. -/
def checked (m : Moment) : Option Moment :=
  if m.inRange then some m else none

/-- The beginning of a day, if it is representable. -/
def midnight? (day : Int) : Option Moment :=
  checked ⟨day * secondsPerDay, 0⟩

/-- The moment a number of seconds later, or earlier if it is negative. On leaving a leap
second, its nanoseconds are counted from the second itself when going on, and from the next
one when going back. -/
def add? (m : Moment) (seconds : Int) : Option Moment :=
  if m.nanos < nanosPerSecond ∨ seconds = 0 then checked ⟨m.seconds + seconds, m.nanos⟩
  else if 0 < seconds then checked ⟨m.seconds + seconds, m.nanos - nanosPerSecond⟩
  else checked ⟨m.seconds + 1 + seconds, m.nanos - nanosPerSecond⟩

/-- The nanoseconds from one moment to another. A leap second between them counts only where
both lie in one day. -/
def nanosSince (later earlier : Moment) : Int :=
  let leap : Int :=
    if earlier.secondOfDay < later.secondOfDay ∧ nanosPerSecond ≤ earlier.nanos then 1
    else if later.secondOfDay < earlier.secondOfDay ∧ nanosPerSecond ≤ later.nanos then -1
    else 0
  (later.seconds - earlier.seconds + leap) * nanosPerSecond + (later.nanos - earlier.nanos : Int)

/-- The whole seconds from one moment to another, where a fraction is dropped. -/
def secondsSince (later earlier : Moment) : Int :=
  (later.nanosSince earlier).tdiv nanosPerSecond

end Moment

end Parley
