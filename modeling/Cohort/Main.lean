import Cohort.CommandLine.Run

/-! # The program -/

namespace Cohort

/-- Why the system could not read a file. -/
def fileFault : IO.Error → FileFault
  | .noFileOrDirectory _ _ _ => .notFound
  | .inappropriateType _ code _ => if code = 20 then .notDirectory else .isDirectory
  | _ => .unreadable

/-- Reads a file. -/
def readFile (path : String) : IO (Except FileFault String) := do
  try
    return .ok (← IO.FS.readFile path)
  catch fault =>
    return .error (fileFault fault)

/-- Reads the rest of a stream. -/
partial def readRest (input : IO.FS.Stream) (done : String) : IO String := do
  let line ← input.getLine
  if line.isEmpty then return done else readRest input (done ++ line)

/-- The system around the program. -/
def system : Surroundings IO where
  contents := readFile
  readInput := do readRest (← IO.getStdin) ""
  lookUp := fun name => IO.getEnv name

end Cohort

/-- Runs the program. -/
def main (args : List String) : IO UInt32 := do
  let outcome ← Cohort.CommandLine.run Cohort.system args
  IO.print outcome.out
  IO.eprint outcome.err
  return UInt32.ofNat outcome.exitCode
