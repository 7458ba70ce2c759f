/-!
# Runs

A run is a stretch of a list that is in order already. The run that a list starts with is kept, or
turned round if it descends; it is made longer by inserting the elements behind it, whose places are
found by halving. Comparisons may fail, and the failure is that of the first one that does.
-/

namespace CrudBench.MergeSort

variable {α ε : Type} (less : α → α → Except ε Bool)

/-- The elements that go on as a run does whose last element is given, and those behind them. -/
def continueRun (descending : Bool) (last : α) : List α → Except ε (List α × List α)
  | [] => .ok ([], [])
  | x :: xs => do
    if (← less x last) = descending then
      let (run, rest) ← continueRun descending x xs
      return (x :: run, rest)
    else return ([], x :: xs)

/-- The run that a list starts with, in ascending order, and the elements behind it. -/
def firstRun : List α → Except ε (List α × List α)
  | x :: y :: xs => do
    let descending ← less y x
    let (run, rest) ← continueRun less descending y xs
    return (if descending then (x :: y :: run).reverse else x :: y :: run, rest)
  | xs => .ok (xs, [])

/-- The place of an element among sorted ones, between two bounds: behind those that it is not less
than. -/
def place (v : α) (sorted : List α) (low high : Nat) : Except ε Nat :=
  if _h : low < high then
    match sorted[(low + high) / 2]? with
    | none => .ok low
    | some x => do
      if ← less v x then place v sorted low ((low + high) / 2)
      else place v sorted ((low + high) / 2 + 1) high
  else .ok low
termination_by high - low
decreasing_by all_goals omega

/-- Inserts an element into a run, behind those that are equal to it. -/
def insert (run : List α) (v : α) : Except ε (List α) := do
  return run.insertIdx (← place less v run 0 run.length) v

/-- The run that a list starts with, made as long as is asked for if there are as many elements, and
the elements behind it. -/
def takeRun (length : Nat) (xs : List α) : Except ε (List α × List α) := do
  let (run, rest) ← firstRun less xs
  let missing := length - run.length
  return (← (rest.take missing).foldlM (insert less) run, rest.drop missing)

end CrudBench.MergeSort
