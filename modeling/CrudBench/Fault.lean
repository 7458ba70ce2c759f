import CrudBench.Directory
import CrudBench.Metrics.Latency
import CrudBench.Receipt
import CrudBench.Server.Error
import CrudBench.Settings.Surroundings
import CrudBench.Value.Misfit

/-!
# Faults

Why an operation of a client or a backend does not return: the connection cannot be made, kept or
given up properly, a query failed, or something passed through that nobody handles.
-/

namespace CrudBench

/-- Why a query failed. -/
inductive OperationError where
  /-- The driver raised an error. -/
  | reported (e : DriverError)
  /-- A failure was injected. -/
  | injected (text : String)
  /-- The table is not there. -/
  | noTable (database table : String)
  /-- A write was not confirmed. -/
  | rejected (wanted : Counter) (receipt : Receipt)

/-- The wording of a failure. -/
def OperationError.message : OperationError → String
  | reported e => e.message
  | injected text => text
  | noTable database table => "Table \x60" ++ database ++ "." ++ table ++ "\x60 does not exist."
  | rejected wanted receipt => receipt.complaint wanted

/-- Why there is no connection, or none that could be used. -/
inductive ConnectionError where
  /-- The host did not accept. -/
  | unreachable (host port : Value) (reason : String)
  /-- There is no connection to close. -/
  | notConnected
  /-- The connection could not be closed properly. -/
  | closing (e : DriverError)
  /-- The settings cannot be read. -/
  | configuration (e : Settings.Unreadable)
  /-- The database and its table could not be made ready. -/
  | bootstrap (e : OperationError)

/-- The wording of a connection error. -/
def ConnectionError.message : ConnectionError → String
  | unreachable host port reason =>
    "Cannot connect to " ++ host.text ++ ":" ++ port.text ++ ": " ++ reason
  | notConnected => "Not connected"
  | closing e => e.message
  | configuration e => "Invalid configuration: " ++ e.message
  | bootstrap e => "Schema bootstrap failed: " ++ e.message

/-- Why an operation does not return. -/
inductive Fault where
  | connection (e : ConnectionError)
  | operation (e : OperationError)
  /-- An error of the driver that passes through. -/
  | driver (e : DriverError)
  /-- The tables of a database were asked for that is not there. -/
  | noDatabase (name : String)
  /-- A value is of a kind that something cannot be done with. -/
  | misfit (e : Misfit)
  /-- The first of no keys was asked for. -/
  | noKeys
  /-- A file cannot be written. -/
  | file (e : Directory.Refusal)
  /-- There are no statistics of a latency. -/
  | latency (e : Number.TooLarge)

/-- The wording of a fault. -/
def Fault.message : Fault → String
  | connection e => e.message
  | operation e => e.message
  | driver e => e.message
  | noDatabase name => Text.quoted name
  | misfit e => e.message
  | noKeys => "list index out of range"
  | file e => e.message
  | latency e => e.message

end CrudBench
