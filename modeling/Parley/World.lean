import Parley.Callable
import Parley.Eval
import Parley.Time.Moment

/-!
# The world outside

What functions may ask of the outside while an expression is evaluated: the time, chance and
the network. All of it is given as data beforehand, so that an evaluation is a function of it.
-/

namespace Parley

/-- What comes back for a request. -/
structure Reply where
  status : Nat
  body : String
deriving DecidableEq, Repr

/-- The body of a reply, unless its status says that the request has failed. -/
def Reply.text? (r : Reply) : Option String :=
  if 400 ≤ r.status ∧ r.status < 600 then none else some r.body

/-- The outside, as seen by functions. -/
structure World where
  /-- The time. -/
  now : Moment
  /-- The reading of a clock that is never set back, in nanoseconds. -/
  clock : Nat
  /-- Where random draws come from. -/
  draws : StdGen
  /-- What a request for an address is answered with; nothing where it does not get through. -/
  network : Client → String → Option Reply

namespace World

/-- Draws a number from zero to a limit, both included. -/
def draw (w : World) (limit : Nat) : Nat × World :=
  let (n, draws) := randNat w.draws 0 limit
  (n, { w with draws })

/-- The text at an address, if it can be had. -/
def fetch? (w : World) (client : Client) (url : String) : Option String :=
  (w.network client url).bind Reply.text?

end World

end Parley
