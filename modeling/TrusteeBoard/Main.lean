import Std.Time.DateTime.Timestamp
import TrusteeBoard.CommandLine.Run

/-!
# The program

Carries out its command line on the files of the machine. The output goes to standard output; a
failure is told on the error stream.
-/

namespace TrusteeBoard.CommandLine

/-- Whether an action succeeds. -/
def succeeds (act : IO Unit) : IO Bool := do
  try
    act
    return true
  catch _ => return false

def readMachineFile (path : String) : IO (Option (List UInt8)) := do
  try
    return some (← IO.FS.readBinFile path).data.toList
  catch _ => return none

def makeMachineDirectory (path : String) : IO (Option String) := do
  try
    IO.FS.createDirAll path
    return some (← IO.FS.realPath path).toString
  catch _ => return none

def secondsNow : IO UInt64 := do
  return UInt64.ofNat (← Std.Time.Timestamp.now).toSecondsSinceUnixEpoch.val.toNat

/-- The machine's files and clock. -/
def machine : Surroundings IO where
  readFile := readMachineFile
  writeFile path bytes := succeeds (IO.FS.writeBinFile path ⟨bytes.toArray⟩)
  makeDirectory := makeMachineDirectory
  now := do return ⟨← secondsNow⟩

/-- The environment variables that are set, of those that a run looks at. -/
def machineVariables : IO Options := do
  let found ← readVariables.mapM fun name => do
    return (← IO.getEnv name).map fun value => (name, value)
  return found.filterMap id

/-- Prints what a run leaves and answers with the exit code. -/
def report : Except Failure String → IO UInt32
  | .ok output => do
    IO.print output
    return 0
  | .error failure => do
    IO.print failure.output
    IO.eprintln s!"Error: {failure.message}"
    return failure.exitCode

end TrusteeBoard.CommandLine

def main (args : List String) : IO UInt32 := do
  TrusteeBoard.CommandLine.report
    (← TrusteeBoard.CommandLine.run TrusteeBoard.CommandLine.machine
      (← TrusteeBoard.CommandLine.machineVariables) args)
