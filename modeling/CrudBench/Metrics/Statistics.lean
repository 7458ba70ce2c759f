import CrudBench.Data.QuickSort
import CrudBench.Metrics.Latency

/-!
# Statistics of latencies

Extremes, mean and percentiles. The figures are computed from machine words if all latencies are
whole numbers that fit, from exact numbers if one of them is too large for a word, and from floats
otherwise; the results are floats. The order of the additions is part of the result: sums of floats
are taken in eight lanes within blocks of 128, and blocks are added pairwise.
-/

namespace CrudBench

/-- Adds blocks of eight numbers to eight running sums; what is left over comes second. -/
def laneSums (lanes : List Float) (xs : List Float) : List Float × List Float :=
  if _h : 8 ≤ xs.length then laneSums (List.zipWith (· + ·) lanes (xs.take 8)) (xs.drop 8)
  else (lanes, xs)
termination_by xs.length
decreasing_by simp; omega

/-- The sum of eight running sums. -/
def joinLanes : List Float → Float
  | [a, b, c, d, e, f, g, h] => ((a + b) + (c + d)) + ((e + f) + (g + h))
  | xs => xs.foldl (· + ·) 0.0

/-- The sum of at most 128 numbers. -/
def blockSum (xs : List Float) : Float :=
  if xs.length < 8 then xs.foldl (· + ·) 0.0
  else
    let (lanes, rest) := laneSums (xs.take 8) (xs.drop 8)
    rest.foldl (· + ·) (joinLanes lanes)

/-- Where a list of more than 128 numbers is cut: near the middle, after a multiple of eight. -/
def cut (n : Nat) : Nat := n / 2 - n / 2 % 8

/-- The sum of any list of numbers. -/
def pairwiseSum (xs : List Float) : Float :=
  if _h : xs.length ≤ 128 then blockSum xs
  else pairwiseSum (xs.take (cut xs.length)) + pairwiseSum (xs.drop (cut xs.length))
termination_by xs.length
decreasing_by all_goals simp [cut]; omega

/-- The mean. -/
def mean (xs : List Float) : Float := (0.0 + pairwiseSum xs) / xs.length.toFloat

/-- No number. -/
def notANumber : Float := 0.0 / 0.0

/-- The least float; of equal ones the last. -/
def least : List Float → Float
  | [] => notANumber
  | x :: xs => xs.foldl (fun m y => if m < y then m else y) x

/-- The greatest float; of equal ones the last. -/
def greatest : List Float → Float
  | [] => notANumber
  | x :: xs => xs.foldl (fun m y => if y < m then m else y) x

/-- A point between two numbers, of which the distance is given too, computed from the nearer end.
-/
def interpolate (lo hi distance share : Float) : Float :=
  if share ≥ 0.5 then hi - distance * (1.0 - share) else lo + distance * share

/-- Where a percentile lies in a sorted list: between two places, at a share of the way. -/
structure Rank where
  below : Nat
  above : Nat
  share : Float

/-- The rank of a percentile among `n` numbers, counted from zero. A single number stands for both
neighbours. -/
def Rank.of (n : Nat) (percent : Float) : Rank :=
  let last := (n - 1).toFloat
  let rank := last * (percent / 100.0)
  if rank ≥ last then ⟨n - 1, n - 1, rank + 1.0⟩
  else
    let i := rank.floor.toUInt64.toNat
    ⟨i, i + 1, rank - rank.floor⟩

/-- What a summary says about latencies. -/
structure Statistics where
  min : Float
  max : Float
  mean : Float
  p50 : Float
  p95 : Float
  p99 : Float

/-- What statistics can be made of: how a number of the kind becomes a float, and the distance of
two of them. -/
structure Measure (α : Type) where
  toFloat : α → Except Number.TooLarge Float
  distance : α → α → Except Number.TooLarge Float

namespace Measure

/-- Floats. -/
def float : Measure Float := ⟨.ok, fun a b => .ok (b - a)⟩

/-- Words of 64 bits, whose differences wrap around. -/
def word : Measure Int :=
  ⟨fun n => .ok (Float.ofInt n), fun a b => .ok (Float.ofInt ((b - a).bmod (Nat.pow 2 64)))⟩

/-- Numbers of any size. -/
def exact : Measure Number := ⟨Number.toFloat, fun a b => do (← b.sub a).toFloat⟩

variable {α : Type}

/-- A percentile of sorted numbers. -/
def percentile (m : Measure α) (sorted : List α) (percent : Float) :
    Except Number.TooLarge Float :=
  let r := Rank.of sorted.length percent
  match sorted[r.below]?, sorted[r.above]? with
  | some lo, some hi => do
    return interpolate (← m.toFloat lo) (← m.toFloat hi) (← m.distance lo hi) r.share
  | _, _ => .ok notANumber

/-- The statistics of sorted numbers with these extremes and this mean. -/
def statistics (m : Measure α) (sorted : List α) (min max mean : Float) :
    Except Number.TooLarge Statistics := do
  return ⟨min, max, mean, ← m.percentile sorted 50.0, ← m.percentile sorted 95.0,
    ← m.percentile sorted 99.0⟩

end Measure

/-- The statistics of floats. If one of them is no number, no order statistic is one. -/
def Statistics.ofFloats (xs : List Float) : Except Number.TooLarge Statistics :=
  if xs.any Float.isNaN then
    .ok ⟨notANumber, notANumber, CrudBench.mean xs, notANumber, notANumber, notANumber⟩
  else
    Measure.float.statistics (xs.mergeSort fun a b => decide (a ≤ b)) (least xs) (greatest xs)
      (CrudBench.mean xs)

/-- The statistics of words. -/
def Statistics.ofWords (ns : List Int) : Except Number.TooLarge Statistics :=
  let xs := ns.map Float.ofInt
  Measure.word.statistics (ns.mergeSort fun a b => decide (a ≤ b)) (least xs) (greatest xs)
    (CrudBench.mean xs)

/-- The statistics of numbers of any size, of which there is at least one. Here what is no number
takes part in comparisons, and nothing is less than it or greater. -/
def Statistics.ofNumbers : List Number → Except Number.TooLarge Statistics
  | [] => .ok ⟨notANumber, notANumber, notANumber, notANumber, notANumber, notANumber⟩
  | x :: xs => do
    let least := xs.foldl (fun m y => if m.atMost y then m else y) x
    let greatest := xs.foldl (fun m y => if y.atMost m then m else y) x
    let sum ← xs.foldlM Number.add x
    Measure.exact.statistics (QuickSort.sort Number.less (x :: xs)) (← least.toFloat)
      (← greatest.toFloat) ((← sum.toFloat) / (xs.length + 1).toFloat)

/-- The whole numbers among these. -/
def wholes (xs : List Number) : List Int :=
  xs.filterMap fun | .whole n => some n | .real _ => none

/-- The number is a word with a sign. -/
def isSignedWord (n : Int) : Bool := -Int.pow 2 63 ≤ n && n < Int.pow 2 63

/-- The number is a word without a sign, and too large for one with a sign. -/
def isLargeWord (n : Int) : Bool := Int.pow 2 63 ≤ n && n < Int.pow 2 64

/-- The statistics of latencies, of which there is at least one. -/
def Statistics.of (ls : List Latency) : Except Number.TooLarge Statistics := do
  let ns := wholes ls
  if ns.any fun n => !(isSignedWord n || isLargeWord n) then ofNumbers ls
  else if ns.length = ls.length && (ns.all isSignedWord || ns.all isLargeWord) then ofWords ns
  else ofFloats (← ls.mapM Number.toFloat)

end CrudBench
