import CrudBench.Backend.Info
import CrudBench.CommandLine.Parse
import CrudBench.Smoke
import CrudBench.Template

/-!
# The pre-flight check

What has to work before a benchmark is run: the backend connects and makes its table ready, the
smoke check passes, and the connection is given up again. The check is printed as it goes, and its
metrics can be saved.
-/

namespace CrudBench

/-- What a configuration file holds: connection properties and smoke-check properties. -/
structure ConfigFile where
  connection : Properties
  smoke : SortedMap Value

namespace ConfigFile

/-- The smoke-check properties that a value holds. -/
def smokeOf : Value → Except Misfit (SortedMap Value)
  | .object fields => .ok (.ofList fields)
  | v => .error (.notMapping v.kind)

/-- The configuration file that holds these values. -/
def ofValues (connection smoke : Value) : Except Misfit ConfigFile := do
  return ⟨← Dictionary.ofValue connection, ← smokeOf smoke⟩

end ConfigFile

/-- The smoke-check properties that hold unless the configuration file has others. -/
def standardSmoke : SortedMap Value :=
  .ofList [("num_records", .int 10), ("field_count", .int 10), ("key_prefix", .str "verify_")]

namespace Bench

variable {κ ω : Type} [Client κ ω]

/-- Prints lines. -/
def print (lines : List String) : Action (Bench κ ω) Unit :=
  modify fun b => { b with output := b.output ++ lines }

/-- A smoke-check property. -/
def smokeValue (smoke : SortedMap Value) (name : String) : Value := (smoke.get? name).getD .null

/-- The plan of the smoke check. -/
def planOf (records : Value) (smoke : SortedMap Value) : Except Fault SmokePlan :=
  SmokePlan.ofValues records (smokeValue smoke "field_count") (smokeValue smoke "key_prefix")

/-- Connects, between two readings of the clock; how long it took comes with the result. A
connection that cannot be made or used is told, any other fault passes through. -/
def connect : Action (Bench κ ω) (Except String Float) := fun b =>
  match (do
    let start ← Session.now
    Session.init
    return elapsedMs start (← Session.now) : Action (Session κ ω) Float) b.toSession with
  | .ok ms s => .ok (.ok ms) { b with toSession := s }
  | .error (.connection e) s => .ok (.error e.message) { b with toSession := s }
  | .error (.operation e) s => .ok (.error e.message) { b with toSession := s }
  | .error e s => .error e { b with toSession := s }

/-- What is printed once the backend is connected. -/
def connectedLine (s : Session κ ω) (ms : Float) : String :=
  "✅ Connected to " ++
    (match s.settings with
      | some st =>
        s.host.getD "" ++ ":" ++ Text.decimal st.port ++ ", " ++ st.database ++ "." ++ st.table
      | none => "") ++
    " ready (" ++ Decimal.fixed 0 1 ms ++ " ms)"

/-- Does something and gives the connection up afterwards, whatever came of it. -/
def thenClose {α : Type} (act : Action (Bench κ ω) α) : Action (Bench κ ω) α := fun b =>
  match act b with
  | .ok a b => (do
      print ["", "3️⃣  Closing connection..."]
      viaBackend Session.cleanup
      return a : Action (Bench κ ω) α) b
  | .error e b => (do
      print ["", "3️⃣  Closing connection..."]
      viaBackend Session.cleanup
      throw e : Action (Bench κ ω) α) b

/-- Goes on with a figure, if the metrics have it. -/
def measured {α : Type} (x : Except Number.TooLarge α) : Action (Bench κ ω) α :=
  match x with
  | .ok a => return a
  | .error e => throw (.latency e)

/-- Prints the metrics. -/
def printReport : Action (Bench κ ω) Unit := do print (← measured (← get).metrics.report)

/-- Writes a file. -/
def writeFile (path text : String) : Action (Bench κ ω) Unit := fun b =>
  match b.files.write path text with
  | .ok files => .ok () { b with files }
  | .error e => .error (.file e) b

/-- Saves the metrics to a file. -/
def save (path : String) : Action (Bench κ ω) Unit := do
  writeFile path (← measured (← get).metrics.fileText)
  print [savedLine path]

/-- What is printed about the smoke check. -/
def verdictLines (failures : List String) : List String :=
  failures.map (fun f => "   ❌ " ++ f) ++
    [if failures.isEmpty then "✅ All operations returned the expected status"
      else "❌ " ++ Text.decimal failures.length ++ " operation(s) failed"]

/-- Prints the properties in the order of their names. -/
def showProperties : Action (Bench κ ω) Unit := do
  print ["", "🔧 Effective properties:"]
  print ((← Action.given (← get).config.sorted).map fun e => Template.entryLine e.1.text e.2)

/-- The check of a connected backend. -/
def checkConnected (table records : Value) (smokeConfig : SortedMap Value)
    (saveTo : Option String) : Action (Bench κ ω) Bool := do
  print ["", "2️⃣  Running CRUD smoke sequence on " ++ records.text ++ " records..."]
  let failures ← thenClose (smoke table (planOf records smokeConfig))
  print (verdictLines failures)
  printReport
  let path := saveTo.getD ""
  unless path.isEmpty do save path
  return failures.isEmpty

/-- The whole check, with the smoke-check properties in force and the properties that the backend
was made with. -/
def verify (a : CommandLine.Arguments) (smokeConfig : SortedMap Value) :
    Action (Bench κ ω) Bool := do
  let records := match a.records.value? with
    | some n => if n = 0 then smokeValue smokeConfig "num_records" else .int n
    | none => smokeValue smokeConfig "num_records"
  if a.printConfig then showProperties
  print ["", "1️⃣  Connecting and bootstrapping schema..."]
  match ← connect with
  | .error message =>
    print ["❌ init failed: " ++ message]
    return false
  | .ok ms =>
    let info ← viaBackend Session.info
    print [connectedLine (← get).toSession ms]
    match info.settings with
    | some st => checkConnected (.str st.table) records smokeConfig a.saveMetrics.value?
    | none => return false

end Bench

namespace Preflight

/-- What is printed first. -/
def heading : List String := [rule 70, "PRE-FLIGHT CHECKLIST FOR RETHINKDB BENCHMARK", rule 70]

/-- What is printed if there is no configuration file. -/
def noConfigFile : String :=
  "💡 No config.py found, using RETHINKDB_* environment / defaults " ++
    "(cp config.template.py config.py to customize)"

/-- The bench on which the check is run. -/
def bench {κ ω : Type} (a : CommandLine.Arguments) (file : Option ConfigFile) (client : κ)
    (site : Site ω) : Bench κ ω where
  toBackend := .new (a.overlay ((file.map (·.connection)).getD .empty)) client
  toSite := site
  metrics := .empty
  output := heading ++ if file.isSome then [] else [noConfigFile]
  files := .empty

/-- The smoke-check properties in force. -/
def smokeConfig (file : Option ConfigFile) : SortedMap Value :=
  standardSmoke.overlay ((file.map (·.smoke)).getD .empty)

/-- The check for a parsed command line. Its verdict is an exit code. -/
def run {κ ω : Type} [Client κ ω] (a : CommandLine.Arguments) (file : Option ConfigFile) :
    Action (Bench κ ω) Nat := do
  if ← Bench.verify a (smokeConfig file) then
    Bench.print ["✅ Ready to benchmark"]
    return 0
  else
    Bench.print ["❌ Fix the issues above before benchmarking"]
    return 1

end Preflight

end CrudBench
