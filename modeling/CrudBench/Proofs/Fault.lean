import CrudBench.Backend.Log

/-!
# Errors of the driver in faults

Which error of the driver a fault comes from, or a failure that the log tells of. One of them should
never come up: that a query was sent without a connection.
-/

namespace CrudBench

/-- The failure that an entry of the log tells of. -/
def LogEntry.cause? : LogEntry → Option OperationError
  | failed _ _ e => some e
  | _ => none

/-- The error of the driver that an operation failed with. -/
def OperationError.driverError? : OperationError → Option DriverError
  | reported e => some e
  | _ => none

/-- The error of the driver that a connection failed with. -/
def ConnectionError.driverError? : ConnectionError → Option DriverError
  | closing e => some e
  | bootstrap e => e.driverError?
  | _ => none

/-- The error of the driver that a fault comes from. -/
def Fault.driverError? : Fault → Option DriverError
  | connection e => e.driverError?
  | operation e => e.driverError?
  | driver e => some e
  | _ => none

/-- The fault is not that a query was sent without a connection. -/
def Fault.Sound (e : Fault) : Prop := e.driverError? ≠ some .noConnection

/-- The entry does not tell of a query that was sent without a connection. -/
def LogEntry.Sound (e : LogEntry) : Prop :=
  ∀ cause, e.cause? = some cause → cause.driverError? ≠ some .noConnection

end CrudBench
