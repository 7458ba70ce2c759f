import CrudBench.Data.MergeSort.Merge
import CrudBench.Data.MergeSort.Run

/-!
# Merge sort

Sorting by merging runs, with comparisons that may fail. Each boundary between two runs has a depth,
which tells where it lies in a binary division of the whole list; deeper boundaries are removed
first. The sort is stable.
-/

namespace CrudBench.MergeSort

variable {α ε : Type} (less : α → α → Except ε Bool)

/-- The least length of a run in a list of this length: the length itself below 64, and otherwise
between 32 and 64, so that the number of runs is close to a power of two. -/
def leastRun (n : Nat) : Nat :=
  if n < 64 then n else (n + Nat.pow 2 (n.log2 - 5) - 1) / Nat.pow 2 (n.log2 - 5)

/-- The depth of a boundary in a list of `n` elements: how many binary digits the middles of the two
runs at the boundary share, as fractions of the list. A run is given by its two ends. -/
def depth (n start boundary stop : Nat) : Nat :=
  ((List.range n).takeWhile fun k =>
    (start + boundary) * Nat.pow 2 k / n == (boundary + stop) * Nat.pow 2 k / n).length

/-- A run that waits for a merge, where it starts, and the depth of the boundary behind it. -/
structure Pending (α : Type) where
  start : Nat
  items : List α
  depth : Nat

/-- Merges a run with the ones before it, the nearest first, as long as the boundary between them is
deeper than the one behind the run. -/
def collapse (limit patience : Nat) (start : Nat) (items : List α) :
    List (Pending α) → Except ε (Nat × List (Pending α))
  | [] => .ok (patience, [⟨start, items, limit⟩])
  | p :: ps => do
    if limit < p.depth then
      let (patience, merged) ← merge less patience p.items items
      collapse limit patience p.start merged ps
    else return (patience, ⟨start, items, limit⟩ :: p :: ps)

/-- Merges all runs, given from the last to the first. If the last run but two is shorter than the
last one, it is merged with its neighbour before. -/
def finish (patience : Nat) (last : List α) : List (List α) → Except ε (List α)
  | [] => .ok last
  | [xs] => return (← merge less patience xs last).2
  | ys :: xs :: rest => do
    if xs.length < last.length then
      let (patience, merged) ← merge less patience xs ys
      finish patience last (merged :: rest)
    else
      let (patience, merged) ← merge less patience ys last
      finish patience merged (xs :: rest)
termination_by runs => runs.length

/-- Merges the runs of what is left of a list of `n` elements with one that was taken already. -/
def sortRuns (n : Nat) : (steps patience start : Nat) → (run : List α) → List (Pending α) →
    List α → Except ε (List α)
  | 0, _, _, run, _, rest => .ok (run ++ rest)
  | steps + 1, patience, start, run, waiting, rest => do
    if rest.isEmpty then finish less patience run (waiting.map (·.items))
    else
      let boundary := start + run.length
      let (next, rest) ← takeRun less (leastRun n) rest
      let limit := depth n start boundary (boundary + next.length)
      let (patience, waiting) ← collapse less limit patience start run waiting
      sortRuns n steps patience boundary next waiting rest

/-- Sorts a list. -/
def sort (xs : List α) : Except ε (List α) := do
  let (run, rest) ← takeRun less (leastRun xs.length) xs
  sortRuns less xs.length xs.length Merge.worthwhile 0 run [] rest

end CrudBench.MergeSort
