import CrudBench.Settings.Basic
import CrudBench.Settings.Properties

/-!
# The options of the command line

Which options there are, how they are written, and what they say when they are given.
-/

namespace CrudBench.CommandLine

/-- The options. -/
inductive Flag where
  | help
  | host
  | port
  | table
  | durability
  | readMode
  | records
  | printConfig
  | saveMetrics
  | verbose
  deriving DecidableEq, Repr

namespace Flag

/-- All options, in the order in which they are listed. -/
def all : List Flag :=
  [help, host, port, table, durability, readMode, records, printConfig, saveMetrics, verbose]

/-- The spellings of an option. -/
def spellings : Flag → List String
  | help => ["-h", "--help"]
  | host => ["--host"]
  | port => ["--port"]
  | table => ["--table"]
  | durability => ["--durability"]
  | readMode => ["--read-consistency"]
  | records => ["--records"]
  | printConfig => ["--print-config"]
  | saveMetrics => ["--save-metrics"]
  | verbose => ["--verbose"]

/-- The option is followed by a value. -/
def takesValue : Flag → Bool
  | help | printConfig | verbose => false
  | _ => true

/-- The option as messages name it. -/
def label (f : Flag) : String := "/".intercalate f.spellings

/-- All spellings with their options. -/
def spelled : List (String × Flag) := all.flatMap fun f => f.spellings.map (·, f)

/-- The option with this spelling. -/
def ofSpelling? (s : String) : Option Flag := spelled.lookup s

end Flag

/-- The word behind which all words are arguments. -/
def separator : String := "--"

/-- What a command line says about an option that is followed by a value. -/
inductive Given (α : Type) where
  /-- The option is not there. -/
  | absent
  /-- The separator is attached to the option, which is a value of no kind. -/
  | bare
  | value (a : α)
  deriving DecidableEq

namespace Given

variable {α : Type}

/-- The value, if there is one. -/
def value? : Given α → Option α
  | value a => some a
  | _ => none

/-- What stands for the option if it is there: its value, or an empty list. -/
def shown? (f : α → Value) : Given α → Option Value
  | absent => none
  | bare => some (.list [])
  | value a => some (f a)

end Given

/-- What a command line says. -/
structure Arguments where
  host : Given String
  port : Given Int
  table : Given String
  durability : Given Durability
  readMode : Given ReadMode
  records : Given Int
  printConfig : Bool
  saveMetrics : Given String
  verbose : Bool
  deriving DecidableEq

/-- A command line that says nothing. -/
def Arguments.none : Arguments :=
  ⟨.absent, .absent, .absent, .absent, .absent, .absent, false, .absent, false⟩

/-- What is wrong with a command line. -/
inductive UsageError where
  | ambiguous (given : String) (candidates : List String)
  | valueMissing (f : Flag)
  | valueUnused (f : Flag) (value : String)
  | notAnInteger (f : Flag) (value : String)
  | noChoice (f : Flag) (value : String) (choices : List String)
  | unrecognized (args : List String)
  deriving DecidableEq, Repr

/-- The wording of the error. -/
def UsageError.message : UsageError → String
  | ambiguous given candidates =>
    "ambiguous option: " ++ given ++ " could match " ++ ", ".intercalate candidates
  | valueMissing f => "argument " ++ f.label ++ ": expected one argument"
  | valueUnused f value =>
    "argument " ++ f.label ++ ": ignored explicit argument " ++ Text.quoted value
  | notAnInteger f value => "argument " ++ f.label ++ ": invalid int value: " ++ Text.quoted value
  | noChoice f value choices =>
    "argument " ++ f.label ++ ": invalid choice: " ++ Text.quoted value ++ " (choose from " ++
      ", ".intercalate (choices.map Text.quoted) ++ ")"
  | unrecognized args => "unrecognized arguments: " ++ " ".intercalate args

/-- Why a command line gives no arguments. -/
inductive Exit where
  /-- Help was asked for. -/
  | help
  | usage (e : UsageError)
  deriving DecidableEq, Repr

namespace Arguments

/-- The integer that a value denotes. -/
def integer (f : Flag) (value : String) : Except Exit Int :=
  match Text.readInt? value with
  | some n => .ok n
  | .none => .error (.usage (.notAnInteger f value))

/-- The choice that a value names. -/
def choice {α : Type} (f : Flag) (find? : String → Option α) (names : List String)
    (value : String) : Except Exit α :=
  match find? value with
  | some a => .ok a
  | .none => .error (.usage (.noChoice f value names))

/-- What a value says, read by the given reader unless it is the separator. -/
def given {α : Type} (read : String → Except Exit α) (value : String) : Except Exit (Given α) :=
  if value = separator then .ok .bare else (read value).map Given.value

/-- The arguments with an option that is followed by a value. The last value of an option counts. -/
def setValue (a : Arguments) (f : Flag) (value : String) : Except Exit Arguments :=
  match f with
  | .host => (given .ok value).map fun v => { a with host := v }
  | .port => (given (integer f) value).map fun v => { a with port := v }
  | .table => (given .ok value).map fun v => { a with table := v }
  | .durability =>
    (given (choice f Durability.ofName? (Durability.all.map Durability.name)) value).map fun v =>
      { a with durability := v }
  | .readMode =>
    (given (choice f ReadMode.ofName? (ReadMode.all.map ReadMode.name)) value).map fun v =>
      { a with readMode := v }
  | .records => (given (integer f) value).map fun v => { a with records := v }
  | .saveMetrics => (given .ok value).map fun v => { a with saveMetrics := v }
  | .help | .printConfig | .verbose => .error (.usage (.valueUnused f value))

/-- The arguments with an option that stands alone. -/
def setSwitch (a : Arguments) : Flag → Except Exit Arguments
  | .help => .error .help
  | .printConfig => .ok { a with printConfig := true }
  | .verbose => .ok { a with verbose := true }
  | f => .error (.usage (.valueMissing f))

/-- Properties, overlaid with what the command line says about the connection. -/
def overlay (a : Arguments) (base : Properties) : Properties :=
  base.setAll
    ([("rethinkdb.host", a.host.shown? .str), ("rethinkdb.port", a.port.shown? .int),
        ("rethinkdb.table", a.table.shown? .str),
        ("rethinkdb.durability", a.durability.shown? fun d => .str d.name),
        ("rethinkdb.read_consistency", a.readMode.shown? fun m => .str m.name)].filterMap
      fun e => e.2.map fun v => (e.1, v))

end Arguments

end CrudBench.CommandLine
