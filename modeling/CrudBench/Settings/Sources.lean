import CrudBench.Settings.Basic
import CrudBench.Settings.Environment
import CrudBench.Text.Case

/-!
# Sources of settings

A setting comes from the first source that has a non-blank text for it: the property with the
namespace in front, the bare property, and, if the environment may be consulted, its variable.
-/

namespace CrudBench

/-- The things that can be configured. -/
inductive Setting where
  | host
  | port
  | durability
  | readMode
  | timeout
  | table
  | database
  deriving DecidableEq, Repr

namespace Setting

/-- All settings. -/
def all : List Setting := [host, port, durability, readMode, timeout, table, database]

/-- The property that holds the setting. -/
def property : Setting → String
  | host => "host"
  | port => "port"
  | durability => "durability"
  | readMode => "read_consistency"
  | timeout => "timeout"
  | table => "table"
  | database => "database"

/-- The property, with the namespace in front. -/
def qualified (s : Setting) : String := "rethinkdb." ++ s.property

/-- The environment variable that holds the setting. -/
def envName : Setting → String
  | host => "RETHINKDB_HOST"
  | port => "RETHINKDB_PORT"
  | durability => "RETHINKDB_DURABILITY"
  | readMode => "RETHINKDB_READ_CONSISTENCY"
  | timeout => "RETHINKDB_TIMEOUT"
  | table => "RETHINKDB_TABLE"
  | database => "RETHINKDB_DATABASE"

/-- What holds if no source has anything to say. There is no default read mode: the server decides.
-/
def fallback? : Setting → Option String
  | host => some "localhost"
  | port => some "28015"
  | durability => some "hard"
  | readMode => none
  | timeout => some "20"
  | table => some "usertable"
  | database => some "ycsb"

end Setting

/-- Where settings are looked up: properties, and the environment unless it is to be ignored. -/
structure Sources where
  properties : SortedMap Value
  environment : Option Environment

namespace Sources

/-- A text without the white space around it, if anything is left. -/
def nonblank? (s : String) : Option String :=
  if Text.trim s = "" then none else some (Text.trim s)

/-- The text of a property; null counts as missing. -/
def ofProperties? (src : Sources) (name : String) : Option String :=
  match src.properties.get? name with
  | none | some .null => none
  | some v => nonblank? v.text

/-- The text of an environment variable. -/
def ofEnvironment? (src : Sources) (name : String) : Option String :=
  src.environment >>= (·.get? name) >>= nonblank?

/-- The text of a setting from the first source that has one. -/
def lookup? (src : Sources) (s : Setting) : Option String :=
  (src.ofProperties? s.qualified).or
    ((src.ofProperties? s.property).or (src.ofEnvironment? s.envName))

/-- The text of a setting, or else its default. -/
def effective (src : Sources) (s : Setting) : String :=
  (src.lookup? s).getD (s.fallback?.getD "")

/-- The value, or the reason why there is none. -/
def required {α : Type} (x : Option α) (e : Settings.Invalid) : Except Settings.Invalid α :=
  match x with
  | some a => .ok a
  | none => .error e

/-- The choice with this name in lower case. -/
def chosen {α : Type} (find? : String → Option α) (e : String → Settings.Invalid) (raw : String) :
    Except Settings.Invalid α :=
  required (find? (Text.lower raw)) (e (Text.lower raw))

/-- The settings that the sources give. Of several errors the first in the order of the fields is
reported: hosts, port, durability, read mode, timeout. -/
def resolve (src : Sources) : Except Settings.Invalid Settings := do
  let hosts ← required (HostList.parse? (src.effective .host)) (.hosts (src.effective .host))
  let port ← required (Text.readInt? (src.effective .port)) (.port (src.effective .port))
  let durability ← chosen Durability.ofName? .durability (src.effective .durability)
  let readMode ← (src.lookup? .readMode).mapM (chosen ReadMode.ofName? .readMode)
  let timeout ←
    required (Text.readInt? (src.effective .timeout)) (.timeout (src.effective .timeout))
  return {
    hosts, port, durability, readMode, timeout
    table := src.effective .table
    database := src.effective .database }

end Sources

/-- The settings as properties from which they can be resolved again. -/
def Settings.properties (s : Settings) : SortedMap Value :=
  .ofList (s.fields.filter fun f => match f.2 with | .null => false | _ => true)

end CrudBench
