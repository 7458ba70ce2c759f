import CrudBench.Data.MergeSort.Gallop

/-!
# Merging

Two runs that follow each other become one. What need not move is left out first; then the shorter
run is put aside, and the elements of both are taken one by one, from the start if the first run is
the shorter one and from the end otherwise. If one run wins often enough in a row, elements are
taken in gallops, as long as these pay. How often it has to win is learned from merge to merge.
-/

namespace CrudBench.MergeSort

/-- The two runs of a merge: one was put aside, the other one stays where it is. -/
inductive Side where
  | aside
  | staying
  deriving DecidableEq

/-- The side on the other side. -/
def Side.other : Side → Side
  | aside => staying
  | staying => aside

/-- A merge under way: what was taken, the last element first, and what is left of both runs. -/
structure Merge (α : Type) where
  taken : List α
  staying : List α
  aside : List α

namespace Merge

variable {α ε : Type}

/-- Nothing needs to be compared any more: the run that stays is used up, or of the other one no
more than its last element is left, which comes last. -/
def isOver (m : Merge α) : Bool := m.staying.isEmpty || m.aside.length ≤ 1

/-- Takes elements from a side. -/
def take (m : Merge α) (n : Nat) : Side → Merge α
  | .staying => { m with
      taken := (m.staying.take n).reverse ++ m.taken, staying := m.staying.drop n }
  | .aside => { m with taken := (m.aside.take n).reverse ++ m.taken, aside := m.aside.drop n }

/-- All elements: those that were taken, and then those that are left. -/
def result (m : Merge α) : List α := m.taken.reverse ++ m.staying ++ m.aside

/-- How a merge decides: whether an element of the run that stays comes before one of the other run,
and from which end both are read. -/
structure Rule (α ε : Type) where
  ahead : α → α → Except ε Bool
  fromStart : Bool

/-- The fewest elements for which a gallop pays. -/
def worthwhile : Nat := 7

/-- Takes elements one by one until a side wins so many times in a row, or the merge is over. So far
the given side has won some times in a row. -/
def compete (rule : Rule α ε) (patience : Nat) (m : Merge α) (winner : Side) (wins : Nat) :
    (steps : Nat) → Except ε (Merge α)
  | 0 => .ok m
  | steps + 1 =>
    match m.staying, m.aside with
    | x :: _, y :: _ => do
      let side := if ← rule.ahead x y then Side.staying else Side.aside
      let wins := if side = winner then wins + 1 else 1
      let m := m.take 1 side
      if m.isOver || patience ≤ wins then return m
      else compete rule patience m side wins steps
    | _, _ => .ok m

/-- Takes all elements from a side that come before the next one of the other side, and then that
one. How many were taken from the side comes first. -/
def gallop (rule : Rule α ε) (m : Merge α) (side : Side) : Except ε (Nat × Merge α) := do
  match m.staying, m.aside with
  | x :: _, y :: _ =>
    let n ← match side with
      | .staying => countLeading (rule.ahead · y) rule.fromStart m.staying
      | .aside => countLeading (fun z => return !(← rule.ahead x z)) rule.fromStart m.aside
    let m := m.take n side
    return (n, if m.isOver then m else m.take 1 side.other)
  | _, _ => return (0, m)

/-- Gallops on both sides in turn, as long as one of the two gallops pays or the merge is over. The
longer this goes on, the fewer wins in a row it takes to start it again. -/
def race (rule : Rule α ε) (first : Side) : (steps patience : Nat) → Merge α →
    Except ε (Nat × Merge α)
  | 0, patience, m => .ok (patience, m)
  | steps + 1, patience, m => do
    let (n, m) ← gallop rule m first
    if m.isOver then return (patience, m)
    let (k, m) ← gallop rule m first.other
    if m.isOver then return (patience, m)
    if worthwhile ≤ n || worthwhile ≤ k then race rule first steps (max 1 (patience - 1)) m
    else return (patience + 1, m)

/-- Takes elements one by one and in gallops until the merge is over. -/
def run (rule : Rule α ε) (first : Side) : (steps patience : Nat) → Merge α →
    Except ε (Nat × List α)
  | 0, patience, m => .ok (patience, m.result)
  | steps + 1, patience, m => do
    if m.isOver then return (patience, m.result)
    let m ← compete rule patience m first 0 (m.staying.length + m.aside.length)
    if m.isOver then return (patience, m.result)
    let (patience, m) ← race rule first (m.staying.length + m.aside.length) patience m
    run rule first steps patience m

/-- Merges two runs that are read from the start or from the end. The first element is one of the
run that stays. -/
def perform (rule : Rule α ε) (first : Side) (patience : Nat) (staying aside : List α) :
    Except ε (Nat × List α) :=
  run rule first (staying.length + aside.length) patience
    ((⟨[], staying, aside⟩ : Merge α).take 1 .staying)

end Merge

variable {α ε : Type} (less : α → α → Except ε Bool)

/-- Merges two runs of which the first one starts, and the second one ends, with an element that has
to move. -/
def mergeMoving (patience : Nat) (xs ys : List α) : Except ε (Nat × List α) :=
  if xs.length ≤ ys.length then Merge.perform ⟨fun y x => less y x, true⟩ .aside patience ys xs
  else do
    let (patience, merged) ←
      Merge.perform ⟨fun x y => less y x, false⟩ .staying patience xs.reverse ys.reverse
    return (patience, merged.reverse)

/-- Merges two runs; how many wins in a row it takes to gallop is handed on. The elements of the
first run that come before the second one stay where they are, and so do those of the second one
that come behind the first. -/
def merge (patience : Nat) (xs ys : List α) : Except ε (Nat × List α) := do
  match ys with
  | [] => return (patience, xs)
  | y :: _ =>
    let settled ← countLeading (fun x => return !(← less y x)) true xs
    match (xs.drop settled).getLast? with
    | none => return (patience, xs ++ ys)
    | some x =>
      let moving := ys.length - (← countLeading (fun y => return !(← less y x)) false ys.reverse)
      if moving = 0 then return (patience, xs ++ ys)
      else
        let (patience, merged) ← mergeMoving less patience (xs.drop settled) (ys.take moving)
        return (patience, xs.take settled ++ merged ++ ys.drop moving)

end CrudBench.MergeSort
