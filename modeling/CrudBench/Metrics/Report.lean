import CrudBench.Decimal.Fixed
import CrudBench.Metrics.Registry
import CrudBench.Text.Case

/-!
# The printed report

A summary as lines for a reader: the operation, the outcomes by status, and the latencies with two
decimal places in a column.
-/

namespace CrudBench

/-- What a summary without latencies says. -/
def noLatency : String := "No latency data collected"

/-- One latency figure. -/
def figureLine (label : String) (x : Float) : String :=
  "  " ++ label ++ Decimal.fixed 8 2 x ++ " ms"

/-- The number of outcomes of each status, in the order of the statuses. -/
def statusList (statuses : OrderedMap Nat) : String :=
  let sorted := statuses.entries.mergeSort fun a b => decide (a.1 ≤ b.1)
  ", ".intercalate (sorted.map fun e => e.1 ++ "=" ++ Text.decimal e.2)

/-- A summary as lines. -/
def Summary.report (s : Summary) : List String :=
  ["", "[" ++ Text.upper s.name ++ "]"] ++
    match s.measured with
    | none => ["  ❌ " ++ noLatency]
    | some m =>
      ["  Operations: " ++ Text.decimal s.operations ++ "  (" ++ statusList s.statuses ++ ")",
        figureLine "Min:  " m.latency.min, figureLine "Mean: " m.latency.mean,
        figureLine "P50:  " m.latency.p50, figureLine "P95:  " m.latency.p95,
        figureLine "P99:  " m.latency.p99, figureLine "Max:  " m.latency.max]

/-- A line across a report. -/
def rule (width : Nat) : String := String.ofList (List.replicate width '=')

/-- All summaries under a heading. -/
def Registry.report (r : Registry) : Except Number.TooLarge (List String) := do
  return ["", rule 70, "OPERATION LATENCIES", rule 70] ++
    (← r.summaries).flatMap (·.2.report) ++ [rule 70, ""]

/-- Lines as text, each with its line break. -/
def linesText (lines : List String) : String := String.join (lines.map (· ++ "\n"))

end CrudBench
