import CrudBench.Preflight
import CrudBench.Store.Client

/-!
# The program

Rehearses the pre-flight check on an empty store in memory, with the command line, the environment
and the variables file that the real check would be given.
-/

namespace CrudBench

/-- The bench of a rehearsal: nothing is stored yet, connections are accepted, and the clock stands
still. -/
def rehearsal (a : CommandLine.Arguments) (env : Environment) (file : String) :
    Bench StoreClient Store :=
  Preflight.bench a none (.new false [])
    ⟨env, VariablesFile.ofText file, .empty, .new [0.0], [], ⟨.empty, []⟩⟩

/-- The environment variables that settings are looked up in, and the one that keeps variables files
from being loaded. -/
def readEnvironment : IO Environment := do
  let mut env : Environment := .empty
  for name in Environment.fileSwitch :: Setting.all.map Setting.envName do
    if let some value ← IO.getEnv name then
      env := env.insert name value
  return env

/-- The variables file, empty if there is none. -/
def readVariables : IO String := do
  try IO.FS.readFile ".env" catch _ => return ""

/-- Prints lines. -/
def printLines (lines : List String) : IO Unit := lines.forM fun line => IO.println line

/-- Prints lines to the error output. -/
def complain (lines : List String) : IO Unit := lines.forM fun line => IO.eprintln line

/-- Tells what was printed, reported and written in a rehearsal. -/
def tell (a : CommandLine.Arguments) (b : Bench StoreClient Store) : IO Unit := do
  complain ((b.log.filter fun e => a.verbose || e.level != .debug).map LogEntry.line)
  printLines b.output
  b.files.entries.forM fun e => IO.FS.writeFile e.1 e.2

/-- Runs the rehearsal that the command line asks for. The result is the exit code. -/
def rehearse (args : List String) : IO UInt32 := do
  match CommandLine.parse args with
  | .error e =>
    printLines e.output
    complain e.complaints
    return e.code.toUInt32
  | .ok a =>
    match Preflight.run a none (rehearsal a (← readEnvironment) (← readVariables)) with
    | .ok code b =>
      tell a b
      return code.toUInt32
    | .error e b =>
      tell a b
      complain [e.message]
      return 1

end CrudBench

/-- The program. -/
def main (args : List String) : IO UInt32 := CrudBench.rehearse args
