import CrudBench.Settings.HostList
import CrudBench.Value.Text

/-!
# Settings

What a backend needs to know: where the cluster is, which database and table it works on, and how
durable its writes and how consistent its reads have to be.
-/

namespace CrudBench

/-- When a write is acknowledged: once it is on disk, or at once. -/
inductive Durability where
  | hard
  | soft
  deriving DecidableEq, Repr

namespace Durability

/-- The choices, in the order in which messages list them. -/
def all : List Durability := [hard, soft]

/-- The name of a choice. -/
def name : Durability → String
  | hard => "hard"
  | soft => "soft"

/-- The choice with this name. -/
def ofName? (s : String) : Option Durability := all.find? (·.name == s)

end Durability

/-- How many replicas a read consults. -/
inductive ReadMode where
  | single
  | majority
  | outdated
  deriving DecidableEq, Repr

namespace ReadMode

/-- The choices, in the order in which messages list them. -/
def all : List ReadMode := [single, majority, outdated]

/-- The name of a choice. -/
def name : ReadMode → String
  | single => "single"
  | majority => "majority"
  | outdated => "outdated"

/-- The choice with this name. -/
def ofName? (s : String) : Option ReadMode := all.find? (·.name == s)

end ReadMode

/-- The settings of one backend. -/
structure Settings where
  hosts : HostList
  port : Int
  durability : Durability
  table : String
  database : String
  readMode : Option ReadMode
  timeout : Int
  deriving DecidableEq

/-- Why a configuration gives no settings. -/
inductive Settings.Invalid where
  | hosts (raw : String)
  | port (raw : String)
  | durability (given : String)
  | readMode (given : String)
  | timeout (raw : String)
  deriving DecidableEq, Repr

/-- The wording of a configuration error. -/
def Settings.Invalid.message : Settings.Invalid → String
  | hosts raw => "No usable host in " ++ Text.quoted raw
  | port raw => "Invalid port: " ++ Text.quoted raw
  | durability given =>
    "Invalid durability " ++ Text.quoted given ++ ", expected one of " ++
      ", ".intercalate (Durability.all.map Durability.name)
  | readMode given =>
    "Invalid read_consistency " ++ Text.quoted given ++ ", expected one of " ++
      ", ".intercalate (ReadMode.all.map ReadMode.name)
  | timeout raw => "Invalid timeout: " ++ Text.quoted raw

/-- The settings as named values. -/
def Settings.fields (s : Settings) : List (String × Value) :=
  [("host", .str s.hosts.text), ("port", .int s.port), ("durability", .str s.durability.name),
    ("table", .str s.table), ("database", .str s.database),
    ("read_consistency", (s.readMode.map fun m => Value.str m.name).getD .null),
    ("timeout", .int s.timeout)]

end CrudBench
