import CrudBench.Metrics.Registry
import CrudBench.Value.Basic

/-!
# Outcomes

What a benchmark operation comes to: a status, the time it took, and the data that it read or the
reason why it failed.
-/

namespace CrudBench

/-- How an operation ended. -/
inductive Status where
  | ok
  | notFound
  | error
  deriving DecidableEq, Repr

/-- The name under which a status is counted. -/
def Status.name : Status → String
  | ok => "OK"
  | notFound => "NOT_FOUND"
  | error => "ERROR"

/-- What an operation read: one record, or several in the order of their keys. -/
inductive Payload where
  | record (d : Document)
  | records (ds : List Document)

/-- The result of an operation. -/
structure Outcome where
  status : Status
  latency : Latency
  data : Option Payload
  error : Option String

namespace Outcome

/-- A success without data. -/
def ok (latency : Latency) : Outcome := ⟨.ok, latency, none, none⟩

/-- A success with data. -/
def found (data : Payload) (latency : Latency) : Outcome := ⟨.ok, latency, some data, none⟩

/-- There is no such record. -/
def notFound (latency : Latency) : Outcome := ⟨.notFound, latency, none, none⟩

/-- A failure. -/
def failed (error : String) (latency : Latency) : Outcome := ⟨.error, latency, none, some error⟩

end Outcome

/-- Records an outcome under the name of its operation. -/
def Registry.recordOutcome (r : Registry) (name : String) (o : Outcome) : Registry :=
  r.record name o.latency o.status.name o.error

end CrudBench
