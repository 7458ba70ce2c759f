/-!
# Heap sort

Sorting by comparisons, in fixed steps. The elements are arranged so that none is less than its two
children, and then the first of them is taken off again and again. The comparison need not be an
order; if it is none, what comes out depends on the steps.
-/

namespace CrudBench.HeapSort

variable {α : Type u} (less : α → α → Bool)

/-- The first of two places holds the lesser element. -/
def lessAt (a : Array α) (i j : Nat) : Bool :=
  match a[i]?, a[j]? with
  | some x, some y => less x y
  | _, _ => false

/-- The first child of a place, or the second one if it is within the heap and greater. -/
def greaterChild (a : Array α) (size i : Nat) : Nat :=
  if 2 * i + 2 < size && lessAt less a (2 * i + 1) (2 * i + 2) then 2 * i + 2 else 2 * i + 1

/-- A child lies behind its parent. -/
theorem lt_greaterChild (a : Array α) (size i : Nat) : i < greaterChild less a size i := by
  unfold greaterChild
  split <;> omega

/-- Puts an element into a heap at a free place or below it: it sinks beneath children that are
greater. The heap is made of the first so many places. -/
def sink (v : α) (size : Nat) (a : Array α) (i : Nat) : Array α :=
  let child := greaterChild less a size i
  if _h : child < size then
    match a[child]? with
    | some x =>
      if less v x then sink v size (a.setIfInBounds i x) child else a.setIfInBounds i v
    | none => a.setIfInBounds i v
  else a.setIfInBounds i v
termination_by size - i
decreasing_by
  have := lt_greaterChild less a size i
  omega

/-- Lets the element at a place sink. -/
def sinkFrom (a : Array α) (i : Nat) : Array α :=
  match a[i]? with
  | some v => sink less v a.size a i
  | none => a

/-- Makes a heap: the elements that have children sink, from the last to the first. -/
def arrange (a : Array α) : Array α :=
  (List.range (a.size / 2)).reverse.foldl (sinkFrom less) a

/-- Takes a heap apart. The first element is exchanged for the one at the end of the heap, which
sinks in the heap that is left. -/
def takeApart : (size : Nat) → Array α → Array α
  | 0, a => a
  | last + 1, a =>
    match a[0]?, a[last]? with
    | some first, some v =>
      if last = 0 then a
      else takeApart last (sink less v last (a.setIfInBounds last first) 0)
    | _, _ => a

/-- Sorts a list. -/
def sort (xs : List α) : List α :=
  (takeApart less xs.length (arrange less xs.toArray)).toList

end CrudBench.HeapSort
