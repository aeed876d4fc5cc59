import Telemetry.CommandLine

/-!
# The program

Reads the words of the command line, waits while a gateway runs, and prints what comes of it.
-/

namespace Telemetry.Program

def fileText? (path : String) : IO (Option String) := do
  try return some (← IO.FS.readFile path)
  catch _ => return none

/-- The settings that the library asks for. -/
def settings : IO (List (String × String)) :=
  StoreConfig.settingNames.filterMapM fun name => do
    return (← IO.getEnv name).map (name, ·)

/-- The file that a command names. -/
def pathOf : Command → Option String
  | .run path _ | .validate path => some path
  | .exampleConfig => none

def surroundings (words : List String) : IO CommandLine.Surroundings := do
  let path := (CommandLine.parse words).toOption.bind pathOf
  let text ← match path with
    | some path => fileText? path
    | none => pure none
  let settings ← settings
  return { file? := fun p => if some p = path then text else none,
           setting? := fun name => List.lookup name settings }

/-- Waits until the program is interrupted. -/
partial def waitForEver : IO Unit := do
  IO.sleep 1000
  waitForEver

def waitFor : CommandLine.Outcome → IO Unit
  | .running _ none => waitForEver
  | .running _ (some seconds) => for _ in [0:seconds.toNat] do IO.sleep 1000
  | _ => pure ()

def tell : CommandLine.Outcome → IO Unit
  | .printed text => IO.print text
  | .failed message => IO.eprintln ("Error: " ++ message)
  | .misused => IO.eprint CommandLine.helpText
  | .broken => IO.eprintln "a queue is too large"
  | .running _ _ => pure ()

end Telemetry.Program

open Telemetry Program in
def main (words : List String) : IO UInt32 := do
  let outcome := CommandLine.execute (← surroundings words) words
  waitFor outcome
  let outcome := outcome.finish
  tell outcome
  return UInt32.ofNat outcome.code
