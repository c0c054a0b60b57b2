/-!
# Settings

What can be set when an engine is set up.
-/

namespace Parley

/-- The answers that the eight ball has from the start. -/
def stockAnswers : List String := [
  "It is certain.",
  "It is decidedly so.",
  "Without a doubt.",
  "Yes, definitely.",
  "You may rely on it.",
  "As I see it, yes.",
  "Most likely.",
  "Outlook good.",
  "Yes.",
  "Signs point to yes.",
  "Reply hazy, try again.",
  "Ask again later.",
  "Better not tell you now.",
  "Cannot predict now.",
  "Concentrate and ask again.",
  "Don't count on it.",
  "My reply is no.",
  "My sources say no.",
  "Outlook not so good.",
  "Very doubtful."]

/-- What can be set. -/
structure Settings where
  /-- Sent along with every request. -/
  userAgent : String := "chat-expr/0.1.0"
  /-- Seconds after which a request is given up. -/
  fetchTimeout : Nat := 10
  /-- What the eight ball chooses from. -/
  answers : List String := stockAnswers
deriving DecidableEq, Repr

end Parley
