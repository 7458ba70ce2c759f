import CrudBench.Data.OrderedMap
import CrudBench.Metrics.Latency
import CrudBench.Metrics.Statistics

/-!
# Metrics

For each operation the latencies, the number of outcomes of each status, and the error texts. The
operations are listed in the order of their first use.
-/

namespace CrudBench

/-- What was recorded under one name. -/
structure Series where
  latencies : List Latency
  statuses : OrderedMap Nat
  errors : List String

namespace Series

/-- Nothing recorded. -/
def empty : Series := ⟨[], .empty, []⟩

/-- Records one outcome. An empty error text counts as none. -/
def record (s : Series) (latency : Latency) (status : String) (error : Option String) : Series where
  latencies := s.latencies ++ [latency]
  statuses := s.statuses.insert status ((s.statuses.get? status).getD 0 + 1)
  errors := s.errors ++ error.toList.filter (!·.isEmpty)

end Series

/-- What was recorded, by operation. -/
abbrev Registry := OrderedMap Series

namespace Registry

/-- What was recorded under a name. -/
def series (r : Registry) (name : String) : Series := (r.get? name).getD .empty

/-- Lists a name, if it is not listed yet. -/
def use (r : Registry) (name : String) : Registry := r.insert name (r.series name)

/-- Records one outcome under a name. -/
def record (r : Registry) (name : String) (latency : Latency) (status : String)
    (error : Option String) : Registry :=
  r.insert name ((r.series name).record latency status error)

end Registry

/-- What is reported about latencies. -/
structure Measured where
  errors : Nat
  latency : Statistics

/-- The summary of one operation. Without a latency there is nothing to measure. -/
structure Summary where
  name : String
  operations : Nat
  statuses : OrderedMap Nat
  measured : Option Measured

/-- What is reported about the latencies, nothing if there are none. -/
def Series.measured (s : Series) : Except Number.TooLarge (Option Measured) := do
  if s.latencies.isEmpty then return none
  return some ⟨s.errors.length, ← Statistics.of s.latencies⟩

/-- The summary of what was recorded under a name. -/
def Series.summary (s : Series) (name : String) : Except Number.TooLarge Summary := do
  return ⟨name, s.latencies.length, s.statuses, ← s.measured⟩

/-- All summaries, in the order of first use. -/
def Registry.summaries (r : Registry) : Except Number.TooLarge (List (String × Summary)) :=
  r.entries.mapM fun e => return (e.1, ← e.2.summary e.1)

end CrudBench
