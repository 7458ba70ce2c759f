import CrudBench.CommandLine.Token

/-!
# Parsing a command line

All words are classified first, then taken from left to right; the first error counts, and words
that belong to no option are reported last.
-/

namespace CrudBench.CommandLine

/-- The short options in what stands behind a short option. Each letter has to be one; the first
that is none is an error, together with what follows it, and so is nothing at all. -/
def shortFlags (f : Flag) : List Char → Except UsageError (List Flag)
  | [] => .error (.valueUnused f "")
  | c :: cs =>
    match Flag.ofSpelling? (String.ofList ['-', c]) with
    | none => .error (.valueUnused f (String.ofList (c :: cs)))
    | some g => if cs.isEmpty then .ok [f, g] else (shortFlags g cs).map (f :: ·)

/-- Takes the words one after the other; words without an option are collected. -/
def run (a : Arguments) (extras : List String) : List Token → Except Exit (Arguments × List String)
  | [] => .ok (a, extras)
  | .argument s :: ts | .unknown s :: ts => run a (extras ++ [s]) ts
  | .separator :: ts => run a (extras ++ [CommandLine.separator]) ts
  | .long f (some value) :: ts =>
    if f.takesValue then do run (← a.setValue f value) extras ts
    else .error (.usage (.valueUnused f value))
  | .short f behind :: ts => do
    let fs ← (shortFlags f behind.toList).mapError Exit.usage
    run (← fs.foldlM Arguments.setSwitch a) extras ts
  | [.long f none] =>
    if f.takesValue then .error (.usage (.valueMissing f)) else do run (← a.setSwitch f) extras []
  | .long f none :: t :: ts =>
    if f.takesValue then
      match t with
      | .argument value => do run (← a.setValue f value) extras ts
      | _ => .error (.usage (.valueMissing f))
    else do run (← a.setSwitch f) extras (t :: ts)

/-- The arguments that the words of a command line give. -/
def parse (words : List String) : Except Exit Arguments := do
  let tokens ← (Token.ofWords words).mapError Exit.usage
  let (a, extras) ← run .none [] tokens
  if extras.isEmpty then return a
  throw (.usage (.unrecognized extras))

/-- The name of the program. -/
def program : String := "verify_setup.py"

/-- How the program is called. -/
def usageLines : List String :=
  ["usage: " ++ program ++ " [-h] [--host HOST] [--port PORT] [--table TABLE]",
    "                       [--durability \x7bhard,soft\x7d]",
    "                       [--read-consistency \x7bsingle,majority,outdated\x7d]",
    "                       [--records RECORDS] [--print-config]",
    "                       [--save-metrics SAVE_METRICS] [--verbose]"]

/-- The help text. -/
def helpLines : List String :=
  usageLines ++
    ["",
      "Verify RethinkDB setup before benchmarking",
      "",
      "options:",
      "  -h, --help            show this help message and exit",
      "  --host HOST           Comma-separated RethinkDB hosts",
      "  --port PORT           Client driver port (default: 28015)",
      "  --table TABLE         Target table (default: usertable)",
      "  --durability \x7bhard,soft\x7d",
      "                        Write durability",
      "  --read-consistency \x7bsingle,majority,outdated\x7d",
      "                        Per-read consistency override",
      "  --records RECORDS     Number of smoke records",
      "  --print-config        Show the effective properties",
      "  --save-metrics SAVE_METRICS",
      "                        Write latency summary JSON to this path",
      "  --verbose             Debug logging"]

namespace Exit

/-- The exit code. Asking for help is no error. -/
def code : Exit → Nat
  | help => 0
  | usage _ => 2

/-- What is said besides the usage. -/
def message : Exit → String
  | help => ""
  | usage e => e.message

/-- What is printed. -/
def output : Exit → List String
  | help => helpLines
  | usage _ => []

/-- What is complained about. -/
def complaints : Exit → List String
  | help => []
  | usage e => usageLines ++ [program ++ ": error: " ++ e.message]

end Exit

end CrudBench.CommandLine
