/-!
# Durations

A number of seconds in days, hours, minutes and seconds. Parts that are zero are left out,
unless all are; the short form writes `1d 2h`, the long one `1 day, 2 hours`. What lies in
the past counts as no time at all.
-/

namespace Parley

namespace Duration

/-- The seconds of a minute, an hour and a day. -/
def minute : Nat := 60

@[inherit_doc minute]
def hour : Nat := 60 * minute

@[inherit_doc minute]
def day : Nat := 24 * hour

/-- A unit of time, with its short name and its name. -/
structure Part where
  amount : Nat
  short : String
  name : String

/-- The parts of a number of seconds, from days on. -/
def parts (seconds : Nat) : List Part :=
  [⟨seconds / day, "d", "day"⟩, ⟨seconds % day / hour, "h", "hour"⟩,
   ⟨seconds % hour / minute, "m", "minute"⟩, ⟨seconds % minute, "s", "second"⟩]

/-- A part in words; its name is in the singular for one alone. -/
def Part.spell (long : Bool) (p : Part) : String :=
  if long then
    toString p.amount ++ " " ++ p.name ++ (if p.amount = 1 then "" else "s")
  else toString p.amount ++ p.short

/-- A duration in words, where negative ones count as zero. -/
def spell (long : Bool) (seconds : Int) : String :=
  let shown := (parts seconds.toNat).filter fun p => 0 < p.amount
  if shown.isEmpty then if long then "0 seconds" else "0s"
  else (if long then ", " else " ").intercalate (shown.map (Part.spell long))

end Duration

end Parley
