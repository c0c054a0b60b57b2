import Std.Time.DateTime.Timestamp
import Parley.Command.Arguments

/-!
# The program

Reads the arguments and the context, carries out the command, and prints what there is to
print. The time and the seed of chance are taken once, at the start. There is no network:
every request fails.
-/

open Parley

/-- The world at the start of the program. -/
def currentWorld : IO World := do
  let now ← Std.Time.Timestamp.now
  let nanos := now.toNanosecondsSinceUnixEpoch.val
  let clock ← IO.monoNanosNow
  let seed ← IO.rand 0 2147483647
  return {
    now := ⟨nanos / nanosPerSecond, (nanos % nanosPerSecond).toNat⟩
    clock := clock
    draws := mkStdGen seed
    network := fun _ _ => none }

/-- The command with its context, which may have to be read from the input. -/
def completed (command : Command) : IO Command := do
  let stdin ← IO.getStdin
  if command.wantsInput && !(← stdin.isTty) then
    return command.withInput (← stdin.readToEnd)
  else return command

/-- Carries out a command. -/
def carryOut (settings : Settings) (command : Command) : IO Report := do
  let world ← currentWorld
  let command ← completed command
  let engine := Engine.new settings world.clock
  let host := Vocabulary.host fun _ _ s => (.error (.failed "no such function"), s)
  let (answer, _) := command.answer engine host ⟨(world, ()), []⟩
  return Report.ofAnswer answer

def main (arguments : List String) : IO UInt32 := do
  match Request.ofArguments? arguments with
  | none =>
    (← IO.getStderr).putStrLn "Usage: chatexpr [OPTIONS] <eval|check|tokens|render> <TEXT>"
    return 2
  | some .version =>
    (← IO.getStdout).putStrLn Request.versionLine
    return 0
  | some (.run settings command) =>
    try
      let report ← carryOut settings command
      (← IO.getStdout).putStr report.output
      (← IO.getStderr).putStr report.complaint
      return report.status.toUInt32
    catch e =>
      (← IO.getStderr).putStrLn ("IO error: " ++ toString e)
      return 1
