import CrudBench.Value.Basic

/-!
# Errors of the database driver

What the driver raises while it builds or runs a query. Most kinds belong to one family, which the
client turns into errors of its own; the others pass through it.
-/

namespace CrudBench

/-- The kinds of errors that a server or its driver reports. -/
inductive ErrorKind where
  | general
  | compile
  | driverCompile
  | serverCompile
  | runtime
  | queryLogic
  | nonExistence
  | resourceLimit
  | user
  | internal
  | availability
  | opFailed
  | opIndeterminate
  | permission
  | driver
  | auth
  | timeout
  | cursorEmpty
  | system
  | fault
  | encoding
  | misuse
  deriving DecidableEq, Repr

/-- The kind belongs to the driver's own family. An exhausted cursor, an error of the operating
system, a plain fault, a value that cannot be encoded and a misuse of the driver do not. -/
def ErrorKind.inFamily : ErrorKind → Bool
  | cursorEmpty | system | fault | encoding | misuse => false
  | _ => true

/-- An error raised by the driver. -/
inductive DriverError where
  /-- An error with a wording of its own. -/
  | reported (kind : ErrorKind) (text : String)
  /-- A value is nested too deeply to be sent. -/
  | tooDeep
  /-- What should be field names is nothing to go through. -/
  | notNames (kind : ValueKind)
  /-- A float that is no number, or infinite, cannot be sent. -/
  | notFinite
  /-- There is no connection to send a query on. -/
  | noConnection
  /-- The server has gone away. -/
  | closed
  deriving DecidableEq, Repr

namespace DriverError

/-- The kind of the error. -/
def kind : DriverError → ErrorKind
  | reported kind _ => kind
  | tooDeep => .driverCompile
  | notNames _ => .misuse
  | notFinite => .encoding
  | noConnection | closed => .driver

/-- The wording of the error. Two kinds always have the same. -/
def message : DriverError → String
  | reported .timeout _ => "Operation timed out."
  | reported .cursorEmpty _ => "Cursor is empty."
  | reported _ text => text
  | tooDeep => "Nesting depth limit exceeded."
  | notNames kind =>
    "rethinkdb.ast.RqlQuery.pluck() argument after * must be an iterable, not " ++ kind.name
  | notFinite => "Out of range float values are not JSON compliant"
  | noConnection => "RqlQuery.run must be given a connection to run on."
  | closed => "Connection is closed."

/-- The error belongs to the driver's own family. -/
def inFamily (e : DriverError) : Bool := e.kind.inFamily

end DriverError

end CrudBench
