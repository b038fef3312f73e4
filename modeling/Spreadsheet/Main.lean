import Spreadsheet.CommandLine
import Std.Time

/-!
# `Main.lean` — the program

Gathers what a run depends on, namely the arguments, the files that they name, the local time and
a seed, and prints what the run comes to.
-/

set_option autoImplicit false

namespace Spreadsheet.Program

/-- What stood in the way of reading a file. -/
def obstacle : IO.Error → TextFile.Obstacle
  | .noFileOrDirectory .. => .missing
  | .inappropriateType _ 21 _ => .directory
  | .inappropriateType .. => .notDirectory
  | .permissionDenied .. => .denied
  | e => .other (toString e)

/-- What is at a path. -/
def readContent (path : String) : IO TextFile.Content := do
  try
    return .ok (← IO.FS.readBinFile path)
  catch e =>
    return .error (obstacle e)

/-- Where the default configuration is looked for. -/
def defaultSettings : IO (Option String) := do
  let directory ←
    match ← IO.getEnv "XDG_CONFIG_HOME" with
    | some path => if path.startsWith "/" then pure (some path) else userDirectory
    | none => userDirectory
  return directory.map (· ++ "/tabula/config.toml")
where
  userDirectory : IO (Option String) := do return (← IO.getEnv "HOME").map (· ++ "/.config")

/-- The local time. -/
def localMoment : IO Moment := do
  let now ← Std.Time.PlainDateTime.now
  return {
    date := ⟨now.year.toInt, now.month.toNat, now.day.toNat⟩
    second := now.hour.toNat * 3600 + now.minute.toNat * 60 + now.second.toNat }

/-- How many steps a recalculation may take: more than any that ends will ever need. -/
def stepAllowance : Nat := 1000000000000000

end Spreadsheet.Program

open Spreadsheet Spreadsheet.Program in
/-- Runs the program. -/
def main (args : List String) : IO UInt32 := do
  let settings ← defaultSettings
  let contents ← (CommandLine.paths settings args).mapM fun path =>
    do return (path, ← readContent path)
  let surroundings : CommandLine.Surroundings := {
    content := fun path => (contents.lookup path).getD (.error .missing)
    defaultSettings := settings
    now := ← localMoment
    seed := ← IO.rand 0 0x3FFFFFFFFFFFFFFF
    steps := stepAllowance }
  let outcome := CommandLine.run surroundings args
  (← IO.getStdout).putStr outcome.stdout
  (← IO.getStderr).putStr outcome.stderr
  return outcome.code
