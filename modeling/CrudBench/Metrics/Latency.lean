import CrudBench.Decimal.Written
import CrudBench.Number
import CrudBench.Text.Numeral

/-!
# Latencies

A latency in milliseconds, as it was recorded: a whole number or a float. A whole number can be too
large for double precision, and then there are no statistics of it.
-/

namespace CrudBench

/-- A latency in milliseconds. -/
abbrev Latency := Number

namespace Latency

/-- The latency of what took no time to find out. -/
def zero : Latency := .real 0.0

/-- The latency as a number in a file. -/
def fileText : Latency → String
  | .whole n => Text.decimal n
  | .real x => Decimal.fileStyle.write x

end Latency

end CrudBench
