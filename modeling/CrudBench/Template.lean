import CrudBench.Data.OrderedMap
import CrudBench.Fault
import CrudBench.Metrics.Report
import CrudBench.Text.Blank

/-!
# The configuration template

A configuration file starts from a template: connection properties and the size of the smoke check,
both in the order in which they are shown. Checking it lists everything that is wrong.
-/

namespace CrudBench

/-- Connection properties and smoke-check properties. -/
structure Template where
  connection : OrderedMap Value
  smoke : OrderedMap Value

/-- What can be wrong with a configuration. -/
inductive Template.Issue where
  | noHost
  | durability
  | readMode
  | noRecords
  deriving DecidableEq, Repr

/-- Why a configuration cannot be checked. -/
inductive Template.Obstacle where
  /-- An entry is missing. -/
  | missing (name : String)
  /-- An entry should be a number. -/
  | misfit (e : Misfit)

namespace Template

/-- The template as it is handed out. -/
def standard : Template where
  connection := .ofList
    [("rethinkdb.host", .str "localhost"), ("rethinkdb.port", .int 28015),
      ("rethinkdb.database", .str "ycsb"), ("rethinkdb.table", .str "usertable"),
      ("rethinkdb.durability", .str "hard"), ("rethinkdb.timeout", .int 20)]
  smoke := .ofList
    [("num_records", .int 10), ("field_count", .int 10), ("key_prefix", .str "verify_")]

/-- The wording of an issue. -/
def Issue.message : Issue → String
  | noHost => "RethinkDB host not configured"
  | durability => "Durability must be 'hard' or 'soft'"
  | readMode => "Read consistency must be 'single', 'majority' or 'outdated'"
  | noRecords => "Smoke check needs at least one record"

/-- The wording of an obstacle. -/
def Obstacle.message : Obstacle → String
  | missing name => Text.quoted name
  | misfit e => e.message

/-- A host is configured. -/
def hasHost (t : Template) : Bool :=
  !Text.isBlank (((t.connection.get? "rethinkdb.host").map Value.text).getD "")

/-- The durability is one of the allowed ones. -/
def hasDurability (t : Template) : Bool :=
  match t.connection.get? "rethinkdb.durability" with
  | some (.str s) => (Durability.ofName? s).isSome
  | _ => false

/-- The read mode, if there is one, is one of the allowed ones. -/
def hasReadMode (t : Template) : Bool :=
  match t.connection.get? "rethinkdb.read_consistency" with
  | none | some .null => true
  | some (.str s) => (ReadMode.ofName? s).isSome
  | some _ => false

/-- The smoke check has no record to work on. -/
def lacksRecords (t : Template) : Except Obstacle Bool :=
  match t.smoke.get? "num_records" with
  | none => .error (.missing "num_records")
  | some v => v.belowOne.mapError .misfit

/-- Everything that is wrong. -/
def issues (t : Template) : Except Obstacle (List Issue) := do
  let lacksRecords ← t.lacksRecords
  return (if t.hasHost then [] else [.noHost]) ++ (if t.hasDurability then [] else [.durability]) ++
    (if t.hasReadMode then [] else [.readMode]) ++ (if lacksRecords then [.noRecords] else [])

/-- What is printed about the issues, nothing if there are none. -/
def issueLines (issues : List Issue) : List String :=
  if issues.isEmpty then []
  else
    "⚠️  Configuration issues found:" :: issues.map (fun i => "   - " ++ i.message) ++
      ["", "💡 Edit config.py to fix these issues"]

/-- An entry as it is shown. -/
def entryLine (name : String) (v : Value) : String := "   " ++ name ++ ": " ++ v.text

/-- Entries as they are shown. -/
def entryLines (m : OrderedMap Value) : List String := m.entries.map fun e => entryLine e.1 e.2

/-- What is printed about the configuration. -/
def lines (t : Template) : List String :=
  [rule 80, "CURRENT CONFIGURATION", rule 80, "", "🔧 RethinkDB:"] ++
    entryLines t.connection ++ ["", "📊 Smoke check:"] ++ entryLines t.smoke ++
    ["", rule 80]

/-- What is printed when the configuration is shown and checked. -/
def checkLines (t : Template) : Except Obstacle (List String) := do
  let issues ← t.issues
  return t.lines ++ [""] ++ issueLines issues ++
    [if issues.isEmpty then "✅ Configuration is valid!"
      else "❌ Please fix configuration issues above"]

end Template

end CrudBench
