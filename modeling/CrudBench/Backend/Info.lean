import CrudBench.Backend.Basic
import CrudBench.Text.Search

/-!
# Information about a backend

What a backend tells about itself. Configuration entries whose name suggests a secret are masked: of
a text only the last four characters are shown.
-/

namespace CrudBench

/-- The kinds of stores that backends work on. -/
inductive BackendKind where
  | rethinkdb
  deriving DecidableEq, Repr

/-- The name of a kind. -/
def BackendKind.name : BackendKind → String
  | rethinkdb => "rethinkdb"

/-- Parts of a name that suggest a secret. -/
def secretMarks : List String := ["password", "token", "secret", "auth_key"]

/-- The name suggests a secret, however it is capitalised. -/
def isSecret (name : String) : Bool := secretMarks.any (Text.isPartOf · (Text.lower name))

/-- The end of a text: at most four characters. -/
def tail4 (s : String) : String := String.ofList (s.toList.drop (s.toList.length - 4))

/-- A secret as it is shown: of a text that is not empty the end, anything else as it is. -/
def maskValue : Value → Value
  | .str s => if s.isEmpty then .str s else .str ("***" ++ tail4 s)
  | v => v

/-- A configuration with its secrets masked. -/
def maskConfig (config : OrderedMap Value) : OrderedMap Value :=
  config.mapWithKey fun name v => if isSecret name then maskValue v else v

/-- What a backend tells about itself. A backend of no particular kind knows neither hosts nor
settings. -/
structure BackendInfo where
  kind : Option BackendKind
  name : String
  config : OrderedMap Value
  connected : Bool
  host : Option (Option String)
  settings : Option Settings

/-- The configuration as it is shown, if all names in it are texts. -/
def Properties.masked (p : Properties) : Except Misfit (OrderedMap Value) :=
  p.lowerable.map maskConfig

/-- The information about a backend in its present state. -/
def Backend.info {κ : Type} (b : Backend κ) : Except Misfit BackendInfo := do
  return {
    kind := some .rethinkdb
    name := "RethinkDBBackend"
    config := ← b.config.masked
    connected := b.connected
    host := some b.host
    settings := b.settings }

/-- Tells about the backend. -/
def Session.info {κ ω : Type} : Action (Session κ ω) BackendInfo := do
  Action.given (← get).toBackend.info

end CrudBench
