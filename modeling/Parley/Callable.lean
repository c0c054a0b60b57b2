/-!
# Functions as values

A function of the language is known by its identity alone: two function values are equal
when they are the same function. So a function is plain data, a `Callable`. What it answers
is decided elsewhere: for a function of the stock vocabulary by the library, for a foreign
one by whoever has put it into the context.
-/

namespace Parley

/-- How the stock functions that fetch pages present themselves; what is not set is left to
the network. -/
structure Client where
  userAgent : Option String
  /-- Seconds after which a request is given up. -/
  timeout : Option Nat
deriving DecidableEq, Repr

namespace Client

/-- Whether a character may stand in a header: a tab, or anything but the control characters
of ASCII. -/
def isHeaderChar (c : Char) : Bool :=
  c = '\t' || (32 ≤ c.toNat && c.toNat ≠ 127)

/-- The client for a name and a limit of time. A name that no header can hold is dropped,
and the limit with it. -/
def configure (userAgent : String) (timeout : Nat) : Client :=
  if userAgent.toList.all isHeaderChar then ⟨some userAgent, some timeout⟩ else ⟨none, none⟩

end Client

/-- The functions of the stock vocabulary, with what they were set up with. -/
inductive Builtin where
  | pick
  | randomInt
  | eightBall (answers : List String)
  | timeUntil
  | timeSince
  /-- Counts from a reading of the steady clock, in nanoseconds. -/
  | uptime (started : Nat)
  | urlEncode
  | fetchText (client : Client)
  | fetchJson (client : Client)
  | fetchHtml (client : Client)
deriving DecidableEq, Repr

/-- The identity of a function. -/
inductive Callable where
  | stock (b : Builtin)
  /-- A function from outside, by a number that tells it from the others. -/
  | foreign (number : Nat)
deriving DecidableEq, Repr

end Parley
