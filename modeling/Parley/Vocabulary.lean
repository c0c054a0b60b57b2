import Parley.Context
import Parley.Page
import Parley.Settings
import Parley.Time.Duration
import Parley.Time.Notation
import Parley.Url
import Parley.Value.Json
import Parley.Json.Reader
import Parley.World

/-!
# The stock vocabulary

The functions that every expression can use. They never fail: where the arguments have the
wrong shape, or the network does not play along, the answer is a text that says so, so that
there is something to show in chat.
-/

namespace Parley

namespace Vocabulary

/-- The first argument as a text. -/
def firstText? (arguments : List Value) : Option String :=
  arguments.head?.bind Value.string?

/-- Whether the argument at a position is there and counts as true. -/
def flag (arguments : List Value) (position : Nat) : Bool :=
  match arguments[position]? with
  | some v => v.truthy
  | none => false

/-! ### Chance -/

/-- One of several, drawn at random. -/
def choose {α : Type} (w : World) : List α → Option α × World
  | [] => (none, w)
  | a :: rest =>
    let (n, w) := w.draw rest.length
    ((a :: rest)[n]?, w)

/-- An item of an array. -/
def pick (arguments : List Value) (w : World) : Value × World :=
  match arguments.head? with
  | some (.array items) =>
    let (item, w) := choose w items
    (item.getD (.string "Nothing to pick from"), w)
  | _ => (.string "pick expects an array", w)

/-- A whole number between two, which may be given in either order and are both included. -/
def randomInt (arguments : List Value) (w : World) : Value × World :=
  match arguments[0]?.bind Value.integer?, arguments[1]?.bind Value.integer? with
  | some a, some b =>
    let low := min a.toInt b.toInt
    let high := max a.toInt b.toInt
    let (n, w) := w.draw (high - low).toNat
    (.integer (Int64.ofInt (low + n)), w)
  | _, _ => (.string "randomInt expects two whole numbers", w)

/-- One of the answers of the eight ball. -/
def eightBall (answers : List String) (w : World) : Value × World :=
  let (answer, w) := choose w answers
  (.string (answer.getD "Ask again later."), w)

/-! ### Time -/

/-- A duration between now and a time that is described in words; `seconds` measures it. -/
def relative (name : String) (seconds : Moment → Int) (arguments : List Value) (now : Moment) :
    Value :=
  match firstText? arguments with
  | none => .string (name ++ " expects a time description")
  | some text =>
    match Moment.ofText? now text.toList with
    | some moment => .string (Duration.spell (flag arguments 1) (seconds moment))
    | none => .string ("Could not understand the time '" ++ text ++ "'")

/-- How long it is until a time. -/
def timeUntil (arguments : List Value) (now : Moment) : Value :=
  relative "timeUntil" (fun moment => moment.secondsSince now) arguments now

/-- How long a time is past. -/
def timeSince (arguments : List Value) (now : Moment) : Value :=
  relative "timeSince" (fun moment => now.secondsSince moment) arguments now

/-- How long it is since a reading of the clock. -/
def uptime (started : Nat) (arguments : List Value) (clock : Nat) : Value :=
  .string (Duration.spell (flag arguments 0)
    (min ((clock - started) / nanosPerSecond) (Whole.bound - 1) : Nat))

/-! ### The network -/

/-- The text of the first argument, percent-encoded. -/
def urlEncode (arguments : List Value) : Value :=
  .string (Url.encode ((arguments.head?.map Value.text).getD ""))

/-- What is answered when an address could not be fetched. -/
def unfetched (url : String) : Value :=
  .string ("Could not fetch " ++ url ++ ": *")

/-- What is answered when there is no address. -/
def needsUrl (name : String) : Value :=
  .string (name ++ " expects a URL")

/-- The text at an address, without blanks around it. -/
def fetchText (client : Client) (arguments : List Value) (w : World) : Value :=
  match firstText? arguments with
  | none => needsUrl "fetchText"
  | some url =>
    match w.fetch? client url with
    | some body => .string (String.ofList (trim body.toList))
    | none => unfetched url

/-- The value of the document at an address. -/
def fetchJson (client : Client) (arguments : List Value) (w : World) : Value :=
  match firstText? arguments with
  | none => needsUrl "fetchJson"
  | some url =>
    match w.fetch? client url with
    | some body =>
      match Json.parse? body with
      | some document => .ofJson document
      | none => .string ("Could not fetch " ++ url ++ ": invalid JSON: *")
    | none => unfetched url

/-- The text of a fragment of the page at an address, as picked out by a pattern. -/
def fetchHtml (client : Client) (arguments : List Value) (w : World) : Value :=
  match firstText? arguments with
  | none => needsUrl "fetchHtml"
  | some url =>
    match arguments[1]?.bind Value.string? with
    | none => .string "fetchHtml expects a URL and a pattern"
    | some pattern =>
      match Pattern.compile? pattern.toList with
      | none => .string EvalError.Complaint.invalidPattern.message
      | some p =>
        match w.fetch? client url with
        | some page => .string (String.ofList (Page.extract page.toList p))
        | none => unfetched url

/-! ### The functions as a whole -/

/-- Whether the answer of a function has to be waited for. -/
def isPending : Builtin → Bool
  | .fetchText _ => true
  | .fetchJson _ => true
  | .fetchHtml _ => true
  | _ => false

/-- **What a stock function answers**, and the world afterwards. -/
def answer (b : Builtin) (arguments : List Value) (w : World) : Value × World :=
  match b with
  | .pick => pick arguments w
  | .randomInt => randomInt arguments w
  | .eightBall answers => eightBall answers w
  | .timeUntil => (timeUntil arguments w.now, w)
  | .timeSince => (timeSince arguments w.now, w)
  | .uptime started => (uptime started arguments w.clock, w)
  | .urlEncode => (urlEncode arguments, w)
  | .fetchText client => (fetchText client arguments w, w)
  | .fetchJson client => (fetchJson client arguments w, w)
  | .fetchHtml client => (fetchHtml client arguments w, w)

/-- The functions by name, as set up when the clock had a reading. -/
def builtins (settings : Settings) (started : Nat) : List (String × Builtin) :=
  let client := Client.configure settings.userAgent settings.fetchTimeout
  [("pick", .pick), ("randomInt", .randomInt), ("eightBall", .eightBall settings.answers),
   ("timeUntil", .timeUntil), ("timeSince", .timeSince), ("uptime", .uptime started),
   ("urlEncode", .urlEncode), ("fetchText", .fetchText client), ("fetchJson", .fetchJson client),
   ("fetchHtml", .fetchHtml client)]

/-- The entries of a context that hold the functions. -/
def entries (settings : Settings) (started : Nat) : Object :=
  Object.ofList ((builtins settings started).map fun b => (b.1, .function (.stock b.2)))

/-- Who answers the calls of foreign functions, which are known by a number. -/
abbrev Foreign (σ : Type) := Nat → List Value → σ → Except CallError Value × σ

/-- The host of an engine: stock functions are answered here, and the others by whoever
brought them. -/
def host {σ : Type} (foreign : Foreign σ) : Host (World × σ) where
  call callee arguments state :=
    match callee with
    | .stock b =>
      let (v, w) := answer b arguments state.1
      (.ok v, (w, state.2))
    | .foreign n =>
      let (r, s) := foreign n arguments state.2
      (r, (state.1, s))

end Vocabulary

end Parley
