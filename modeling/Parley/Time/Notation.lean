import Parley.Number.Numeral
import Parley.Text.Blank
import Parley.Time.Moment

/-!
# Moments in words

How a moment is named in free text, seen from a moment that is called now. These readings
are tried in turn, and the first one that fits is taken:

1. one of the words `now`, `today`, `tomorrow` and `yesterday`;
2. a *timestamp* with an offset, such as `2024-12-24T18:30:00+01:00`;
3. a date and a time, a date alone, which means its midnight, or a time alone, which means
   today; numbers may be short, and blanks may stand in front of them;
4. nine digits or more: the seconds since the beginning of 1970;
5. an amount of a unit, after `in` or before `ago`: `in 5 minutes`, `3h`, `2 days ago`.

Days begin at midnight of universal time.
-/

namespace Parley

namespace Moment

namespace Notation

/-! ### Numbers and signs -/

/-- A number of at most so many digits, and of one at least. -/
def number? (most : Nat) (cs : List Char) : Option (Nat × List Char) :=
  let digits := (cs.takeWhile Char.isDigit).take most
  if digits.isEmpty then none else some (Numeral.ofDigits 0 digits, cs.drop digits.length)

/-- A number of exactly so many digits. -/
def fixed? (count : Nat) (cs : List Char) : Option (Nat × List Char) :=
  let digits := cs.take count
  if digits.length = count ∧ digits.all Char.isDigit then
    some (Numeral.ofDigits 0 digits, cs.drop count)
  else none

/-- What follows a character that has to come next. -/
def mark? (c : Char) : List Char → Option (List Char)
  | d :: cs => if c = d then some cs else none
  | [] => none

/-- Leaves out a value unless something holds. -/
def demand (b : Bool) : Option Unit :=
  if b then some () else none

/-! ### Times of day -/

/-- The seconds of a day and the nanoseconds of a time; the sixtieth second of a minute is
the leap second that belongs to the one before it. -/
def timeOfDay? (hour minute second nanos : Nat) : Option (Nat × Nat) := do
  demand (hour < 24 && minute < 60 && second ≤ 60)
  if second = 60 then return (hour * 3600 + minute * 60 + 59, nanosPerSecond + nanos)
  else return (hour * 3600 + minute * 60 + second, nanos)

/-- The moment of a time on a day. -/
def onDay? (day : Int) (time : Nat × Nat) : Option Moment :=
  checked ⟨day * secondsPerDay + time.1, time.2⟩

/-! ### Timestamps -/

/-- The nanoseconds behind the point; digits beyond the ninth are dropped. -/
def fraction? (cs : List Char) : Option (Nat × List Char) :=
  let digits := cs.takeWhile Char.isDigit
  if digits.isEmpty then none
  else
    let kept := digits.take 9
    some (Numeral.ofDigits 0 kept * Nat.pow 10 (9 - kept.length), cs.dropWhile Char.isDigit)

/-- The seconds by which a clock is ahead of universal time. A minus may be the sign of
mathematics, too. -/
def offset? : List Char → Option (Int × List Char)
  | 'Z' :: cs => some (0, cs)
  | 'z' :: cs => some (0, cs)
  | c :: cs => do
    demand (c == '+' || c == '-' || c == '\u2212')
    let (hours, cs) ← fixed? 2 cs
    let cs ← mark? ':' cs
    let (minutes, cs) ← fixed? 2 cs
    demand (hours < 24 && minutes < 60)
    return (Binary64.signed (c != '+') (hours * 3600 + minutes * 60), cs)
  | [] => none

/-- A date, a time and an offset, in one fixed form. -/
def timestamp? (cs : List Char) : Option Moment := do
  let (year, cs) ← fixed? 4 cs
  let cs ← mark? '-' cs
  let (month, cs) ← fixed? 2 cs
  let cs ← mark? '-' cs
  let (day, cs) ← fixed? 2 cs
  let cs ← (mark? 'T' cs).or ((mark? 't' cs).or (mark? ' ' cs))
  let (hour, cs) ← fixed? 2 cs
  let cs ← mark? ':' cs
  let (minute, cs) ← fixed? 2 cs
  let cs ← mark? ':' cs
  let (second, cs) ← fixed? 2 cs
  let (nanos, cs) ← match cs with
    | '.' :: cs => fraction? cs
    | cs => some (0, cs)
  let (ahead, cs) ← offset? cs
  demand cs.isEmpty
  let day ← Date.dayNumber? year month day
  let time ← timeOfDay? hour minute second nanos
  checked ⟨day * secondsPerDay + time.1 - ahead, time.2⟩

/-! ### Dates and times -/

/-- A number in a date or a time, with blanks in front. -/
def loose? (most : Nat) (cs : List Char) : Option (Nat × List Char) :=
  number? most (trimLeft cs)

/-- A year: of four digits at most, or of any number of them behind a sign. -/
def year? (cs : List Char) : Option (Int × List Char) :=
  match trimLeft cs with
  | '-' :: cs => (number? cs.length cs).map fun p => (-(p.1 : Int), p.2)
  | '+' :: cs => (number? cs.length cs).map fun p => ((p.1 : Int), p.2)
  | cs => (number? 4 cs).map fun p => ((p.1 : Int), p.2)

/-- The number of the day of a date. -/
def date? (cs : List Char) : Option (Int × List Char) := do
  let (year, cs) ← year? cs
  let cs ← mark? '-' cs
  let (month, cs) ← loose? 2 cs
  let cs ← mark? '-' cs
  let (day, cs) ← loose? 2 cs
  let number ← Date.dayNumber? year month day
  return (number, cs)

/-- Hours and minutes, and seconds if they are wanted, up to the end. -/
def time? (withSeconds : Bool) (cs : List Char) : Option (Nat × Nat) := do
  let (hour, cs) ← loose? 2 cs
  let cs ← mark? ':' cs
  let (minute, cs) ← loose? 2 cs
  if withSeconds then
    let cs ← mark? ':' cs
    let (second, cs) ← loose? 2 cs
    demand cs.isEmpty
    timeOfDay? hour minute second 0
  else
    demand cs.isEmpty
    timeOfDay? hour minute 0 0

/-- A date and a time, with any blanks or the letter `T` between them. -/
def dateAndTime? (withT withSeconds : Bool) (cs : List Char) : Option Moment := do
  let (day, cs) ← date? cs
  let cs ← if withT then mark? 'T' cs else some (trimLeft cs)
  let time ← time? withSeconds cs
  onDay? day time

/-- A date alone. -/
def dateAlone? (cs : List Char) : Option Moment := do
  let (day, cs) ← date? cs
  demand cs.isEmpty
  midnight? day

/-- A time alone. -/
def timeAlone? (now : Moment) (cs : List Char) : Option Moment := do
  let time ← time? false cs
  onDay? now.day time

/-! ### Amounts of a unit -/

/-- The seconds of a unit. -/
def unitSeconds? : String → Option Nat
  | "s" | "sec" | "secs" | "second" | "seconds" => some 1
  | "m" | "min" | "mins" | "minute" | "minutes" => some 60
  | "h" | "hr" | "hrs" | "hour" | "hours" => some 3600
  | "d" | "day" | "days" => some 86400
  | "w" | "week" | "weeks" => some (7 * 86400)
  | "mo" | "month" | "months" => some (30 * 86400)
  | "y" | "yr" | "yrs" | "year" | "years" => some (365 * 86400)
  | _ => none

/-- An amount and its unit: two words, or one that is cut behind its digits. -/
def amount? : List (List Char) → Option (List Char × List Char)
  | [amount, unit] => some (amount, unit)
  | [both] =>
    match both.dropWhile Char.isDigit with
    | [] => none
    | unit => some (both.takeWhile Char.isDigit, unit)
  | _ => none

/-- An amount of a unit from now on, or back from now. -/
def relative? (now : Moment) (ws : List (List Char)) : Option Moment := do
  let future := ws.head? = some ['i', 'n']
  let ws := if future then ws.drop 1 else ws
  let past := ws.getLast? = some ['a', 'g', 'o']
  let ws := if past then ws.dropLast else ws
  demand (!(future && past))
  let (amount, unit) ← amount? ws
  let amount ← Numeral.whole? amount
  let unit ← unitSeconds? (String.ofList unit)
  let seconds ← Whole.ofInt? (amount.toInt * unit)
  now.add? (if past then -seconds.toInt else seconds.toInt)

end Notation

open Notation

/-- The moment that a text names, seen from now. -/
def ofText? (now : Moment) (text : List Char) : Option Moment :=
  let cs := trim text
  let lowered := cs.map Char.toLower
  match String.ofList lowered with
  | "now" => some now
  | "today" => midnight? now.day
  | "tomorrow" => midnight? (now.day + 1)
  | "yesterday" => midnight? (now.day - 1)
  | _ =>
    let absolute :=
      (timestamp? cs).or <| (dateAndTime? false true cs).or <| (dateAndTime? false false cs).or <|
      (dateAndTime? true true cs).or <| (dateAndTime? true false cs).or <| (dateAlone? cs).or <|
      timeAlone? now cs
    match absolute with
    | some m => some m
    | none =>
      if 9 ≤ cs.length ∧ cs.all Char.isDigit then
        (Numeral.whole? cs).bind fun n => checked ⟨n.toInt, 0⟩
      else relative? now (words lowered)

end Moment

end Parley
