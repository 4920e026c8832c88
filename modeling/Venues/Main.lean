import Venues.CommandLine
import Std.Time.DateTime.Timestamp

/-! # The program

Carries out one command line on a new deployment, whose settings come from the environment and from
the file `.env` if there is one. The index is in memory and starts out empty.
-/

namespace Venues.Program

def environment : IO (List (String × String)) := do
  let mut found := []
  for name in Settings.names do
    if let some text ← IO.getEnv name then found := found ++ [(name, text)]
  return found

/-- The text of the file with settings; it is empty if there is no such file. -/
def settingsFile : IO String := do
  try IO.FS.readFile ".env" catch _ => return ""

def clock : IO Timestamp := do
  return .ofEpoch ((← Std.Time.Timestamp.now).toSecondsSinceUnixEpoch.val * Timestamp.second)

def printAnswer (answer : CommandLine.Answer) : IO Unit := do
  if let some v := answer.document then IO.println (v.jsonLines 0)
  IO.eprint answer.complaint
  if answer.fault.isSome then IO.eprintln "The command ended with a fault."
  if answer.exitCode = 2 then IO.eprintln CommandLine.usage

end Venues.Program

open Venues Program in
/-- Carries out a command line. -/
def main (args : List String) : IO UInt32 := do
  match Settings.load [] (← environment) (← settingsFile) with
  | .error _ =>
    IO.eprintln "The settings make no sense."
    return 1
  | .ok settings =>
    let (answer, _) := CommandLine.run args { settings := settings, now := (← clock).instant }
    printAnswer answer
    return answer.exitCode.toUInt32
