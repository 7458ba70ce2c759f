/-!
# Galloping

How many elements at the start of a list pass a test, if those that do come first. The first element
that fails is looked for in leaps that grow, and then by halving what the last leap has passed over.
-/

namespace CrudBench.MergeSort

variable {α ε : Type} (passes : α → Except ε Bool)

/-- Leaps from a place whose element passes to one whose element does not, or to the end. The last
place that is known to pass comes first. -/
def leap (xs : List α) (last next : Nat) : Except ε (Nat × Nat) :=
  if _h : next < xs.length then do
    if ← passes xs[next] then leap xs next (2 * next + 1) else return (last, next)
  else .ok (last, xs.length)
termination_by xs.length - next
decreasing_by omega

/-- The middle between two bounds; of two middles the one that comes first, if the list is read from
its start, or else the one that comes last. -/
def middle (fromStart : Bool) (low high : Nat) : Nat :=
  if fromStart then low + (high - low) / 2 else high - 1 - (high - low) / 2

/-- The middle between two bounds lies between them. -/
theorem middle_bounds (fromStart : Bool) {low high : Nat} (h : low < high) :
    low ≤ middle fromStart low high ∧ middle fromStart low high < high := by
  cases fromStart <;> simp [middle] <;> omega

/-- The first place between two bounds whose element fails, or else the upper bound. -/
def halve (fromStart : Bool) (xs : List α) (low high : Nat) : Except ε Nat :=
  if _h : low < high then
    match xs[middle fromStart low high]? with
    | none => .ok high
    | some x => do
      if ← passes x then halve fromStart xs (middle fromStart low high + 1) high
      else halve fromStart xs low (middle fromStart low high)
  else .ok low
termination_by high - low
decreasing_by
  all_goals
    have := middle_bounds fromStart ‹low < high›
    omega

/-- The number of elements at the start of a list that pass. The list is either read from its start
or is one that is read from its end. -/
def countLeading (fromStart : Bool) : List α → Except ε Nat
  | [] => .ok 0
  | x :: xs => do
    if ← passes x then
      let (last, next) ← leap passes (x :: xs) 0 1
      halve passes fromStart (x :: xs) (last + 1) next
    else return 0

end CrudBench.MergeSort
