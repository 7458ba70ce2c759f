import CrudBench.Fault

/-!
# Log entries

What a backend reports while it works, as events; the wording and the level belong to the event.
-/

namespace CrudBench

/-- The weight of a log entry. -/
inductive LogLevel where
  | debug
  | info
  | warning
  deriving DecidableEq, Repr

/-- The name of a level. -/
def LogLevel.name : LogLevel → String
  | debug => "DEBUG"
  | info => "INFO"
  | warning => "WARNING"

/-- The operations on records. -/
inductive Operation where
  | read
  | scan
  | update
  | insert
  | delete
  deriving DecidableEq, Repr

/-- The name of an operation. -/
def Operation.name : Operation → String
  | read => "read"
  | scan => "scan"
  | update => "update"
  | insert => "insert"
  | delete => "delete"

/-- What a backend reports. -/
inductive LogEntry where
  /-- A statement of the variables file cannot be read. -/
  | unreadable (line : Nat)
  /-- The variables file is not to be loaded. -/
  | fileIgnored
  | connecting (host : String) (port : Int)
  | databaseCreated (database : String)
  | databaseExists (database : String)
  | tableCreated (database table : String) (durability : Durability)
  | tableExists (database table : String)
  | failed (op : Operation) (key : String) (e : OperationError)

namespace LogEntry

/-- The level of an entry. -/
def level : LogEntry → LogLevel
  | fileIgnored | connecting .. => .debug
  | databaseCreated .. | databaseExists .. | tableCreated .. | tableExists .. => .info
  | unreadable _ | failed .. => .warning

/-- The wording of an entry. -/
def message : LogEntry → String
  | unreadable line =>
    "python-dotenv could not parse statement starting at line " ++ Text.decimal line
  | fileIgnored =>
    "python-dotenv: .env loading disabled by " ++ Environment.fileSwitch ++ " environment variable"
  | connecting host port => "Connecting to RethinkDB at " ++ host ++ ":" ++ Text.decimal port
  | databaseCreated db => "Created database " ++ db
  | databaseExists db => "Database " ++ db ++ " already exists"
  | tableCreated db t durability =>
    "Created table " ++ db ++ "." ++ t ++ " (durability=" ++ durability.name ++ ")"
  | tableExists db t => "Table " ++ db ++ "." ++ t ++ " already exists"
  | failed op key e => op.name ++ " " ++ key ++ " failed: " ++ e.message

/-- An entry as a line. -/
def line (e : LogEntry) : String := "[" ++ e.level.name ++ "] " ++ e.message

end LogEntry

end CrudBench
