import PuzzleWorlds.CommandLine.Basic

/-! The program: it reads its settings and files, and shows what its command says. -/

open PuzzleWorlds

def settingsOfProcess : IO (Except Misfit Config) := do
  let set ← Config.settingNames.filterMapM fun name => do
    return (← IO.getEnv name).map fun value => (name, value)
  return Config.ofEnvironment set

def contentOf (name : String) : IO (Option (String × String)) := do
  try
    return some (name, ← IO.FS.readFile name)
  catch _ =>
    return none

def present (outcome : CommandLine.Outcome) : IO Unit := do
  for d in outcome.shown do
    match d with
    | .line text => IO.println text
    | .pause seconds => IO.sleep (seconds * 1000).toUInt32

def main (args : List String) : IO UInt32 := do
  match ← settingsOfProcess with
  | .error m =>
    IO.eprintln m.message
    return 1
  | .ok config =>
    let names := (CommandLine.parse args).toOption.elim [] CommandLine.Command.files
    let files ← names.filterMapM contentOf
    let outcome := CommandLine.invoke args config files CommandLine.unconnected
    present outcome
    return outcome.status.toUInt32
