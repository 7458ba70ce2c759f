import CrudBench.Json.Tree
import CrudBench.Metrics.Report

/-!
# The saved metrics

The metrics file holds, for each operation, its summary, the latencies as they were recorded, and
the error texts.
-/

namespace CrudBench

/-- A float as a number in the file. -/
def JsonTree.ofFloat (x : Float) : JsonTree := .number (Decimal.fileStyle.write x)

/-- A count as a number in the file. -/
def JsonTree.ofNat (n : Nat) : JsonTree := .number (Text.decimal n)

/-- The latency figures of a summary. -/
def Statistics.members (s : Statistics) : List (String × JsonTree) :=
  [("min", .ofFloat s.min), ("max", .ofFloat s.max), ("mean", .ofFloat s.mean),
    ("p50", .ofFloat s.p50), ("p95", .ofFloat s.p95), ("p99", .ofFloat s.p99)]

/-- A summary as members of an object. -/
def Summary.members (s : Summary) : List (String × JsonTree) :=
  [("name", .str s.name), ("num_operations", .ofNat s.operations),
      ("status_counts", .object (s.statuses.entries.map fun e => (e.1, .ofNat e.2)))] ++
    match s.measured with
    | none => [("error", .str noLatency)]
    | some m => [("num_errors", .ofNat m.errors), ("latency_ms", .object m.latency.members)]

/-- What the file says about one operation. -/
def Series.tree (s : Series) (name : String) : Except Number.TooLarge JsonTree := do
  return .object ((← s.summary name).members ++
    [("raw_latencies", .list (s.latencies.map fun l => .number l.fileText)),
      ("errors", .list (s.errors.map .str))])

/-- What the file says. -/
def Registry.tree (r : Registry) : Except Number.TooLarge JsonTree := do
  return .object (← r.entries.mapM fun e => return (e.1, ← e.2.tree e.1))

/-- The text of the metrics file. -/
def Registry.fileText (r : Registry) : Except Number.TooLarge String :=
  r.tree.map JsonTree.fileText

/-- What is printed once the file is written. -/
def savedLine (path : String) : String := "💾 Metrics saved to: " ++ path

end CrudBench
