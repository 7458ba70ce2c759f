import CrudBench.Settings.Sources

/-!
# Reading settings

Settings are read from properties and from the environment, unless that is to be left out. A
variables file is loaded into the environment before, and what was loaded stays there, whether the
settings can be read or not.
-/

namespace CrudBench

namespace Settings

/-- Why settings cannot be read. -/
inductive Unreadable where
  /-- The variables file cannot be loaded. -/
  | environment (e : Environment.Refusal)
  /-- What is found gives no settings. -/
  | invalid (e : Invalid)
  deriving DecidableEq, Repr

/-- The wording of the error. -/
def Unreadable.message : Unreadable → String
  | environment e => e.message
  | invalid e => e.message

/-- Reads settings in an environment. If that fails, what was loaded before stays. -/
abbrev Reading := EStateM Unreadable Environment

/-- The environment to look settings up in, if it is to be consulted. The variables file is loaded
into it before. -/
def consult (file : VariablesFile) (consulted : Bool) : Reading (Option Environment) := fun env =>
  if consulted then
    match Environment.load file env with
    | .ok _ env => .ok (some env) env
    | .error e env => .error (.environment e) env
  else .ok none env

/-- The settings that properties give, with the environment if it is to be consulted. -/
def ofProperties (file : VariablesFile) (consulted : Bool) (properties : SortedMap Value) :
    Reading Settings := do
  let environment ← consult file consulted
  match Sources.resolve ⟨properties, environment⟩ with
  | .ok st => return st
  | .error e => throw (.invalid e)

namespace Reading

variable {α : Type}

/-- What a reading comes to. -/
def result (r : Reading α) (env : Environment) : Except Unreadable α :=
  match r env with
  | .ok a _ => .ok a
  | .error e _ => .error e

/-- The environment that a reading leaves. -/
def left (r : Reading α) (env : Environment) : Environment :=
  match r env with
  | .ok _ env | .error _ env => env

end Reading

end Settings

/-- Where settings are read besides properties: in the environment, once a variables file was loaded
into it, unless the environment is not to be consulted. -/
structure Surroundings where
  environment : Environment
  file : VariablesFile
  consulted : Bool

namespace Surroundings

/-- The environment in which settings are looked up, if any. A file that cannot be loaded is in the
way. -/
def seen (x : Surroundings) : Except Settings.Unreadable (Option Environment) :=
  (Settings.consult x.file x.consulted).result x.environment

/-- The settings that properties give. -/
def settings (x : Surroundings) (properties : SortedMap Value) :
    Except Settings.Unreadable Settings :=
  (Settings.ofProperties x.file x.consulted properties).result x.environment

end Surroundings

end CrudBench
