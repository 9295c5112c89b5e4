import WindowActions.Cli

/-!
# The program

Reads the file of a command and prints what the command leaves behind.
-/

namespace WindowActions

/-- What the system says about a file that it cannot read. -/
def readErrorOf : IO.Error → ReadError
  | .noFileOrDirectory .. => .notFound
  | e => .other (toString e)

def readFile (path : String) : IO (Except ReadError String) := do
  match ← (IO.FS.readBinFile path).toBaseIO with
  | .ok bytes => return decodeFile bytes.toList
  | .error e => return .error (readErrorOf e)

def configDirectory : IO (Option String) := do
  match ← IO.getEnv "XDG_CONFIG_HOME" with
  | some directory => return some directory
  | none => return (← IO.getEnv "HOME").map (· ++ "/.config")

/-- Prints what a command leaves behind. -/
def report (outcome : Outcome) : IO UInt32 := do
  IO.print outcome.output
  IO.eprint outcome.errorOutput
  return UInt32.ofNat outcome.exitCode

end WindowActions

open WindowActions in
def main (args : List String) : IO UInt32 := do
  match Command.ofArguments? (← configDirectory) args with
  | none => report .usageError
  | some command => report (command.outcome (← readFile command.inputPath))
