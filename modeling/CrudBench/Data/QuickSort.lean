import CrudBench.Data.HeapSort

/-!
# Quick sort

Sorting by comparisons, in fixed steps. A long list is split at the median of its first, middle and
last element, a short one is sorted by insertion, and a part that is left after too many splits by
means of a heap. The comparison need not be an order: if some elements compare with nothing, what
comes out depends on the steps, and these are the steps.
-/

namespace CrudBench.QuickSort

variable {α : Type u} (less : α → α → Bool)

/-- Puts an element at the end of a sorted list, given in reverse: it passes the elements that it is
less than. -/
def insertBack (v : α) : List α → List α
  | [] => [v]
  | x :: xs => if less v x then x :: insertBack v xs else v :: x :: xs

/-- Sorts by insertion, from the first element to the last. -/
def insertionSort (xs : List α) : List α :=
  (xs.foldl (fun sorted v => insertBack less v sorted) []).reverse

/-- Exchanges the elements at two places if the second one is less than the first. -/
def orderAt (a : Array α) (i j : Nat) : Array α :=
  match a[i]?, a[j]? with
  | some x, some y => if less y x then a.swapIfInBounds i j else a
  | _, _ => a

/-- The first place from `i` on, up to a limit, whose element is not less than the pivot. -/
def fromLeft (a : Array α) (pivot : α) (limit : Nat) : (steps i : Nat) → Nat
  | 0, i => i
  | n + 1, i =>
    if i < limit && a[i]?.any (less · pivot) then fromLeft a pivot limit n (i + 1) else i

/-- The first place from `j` back, down to a limit, whose element the pivot is not less than. -/
def fromRight (a : Array α) (pivot : α) (limit : Nat) : (steps j : Nat) → Nat
  | 0, j => j
  | n + 1, j =>
    if limit < j && a[j]?.any (less pivot ·) then fromRight a pivot limit n (j - 1) else j

/-- Exchanges elements on the wrong sides of the pivot until the searches from the two ends meet;
the place where they do comes second. -/
def exchange (pivot : α) : (steps : Nat) → Array α → Nat → Nat → Array α × Nat
  | 0, a, i, _ => (a, i)
  | n + 1, a, i, j =>
    let i := fromLeft less a pivot j a.size (i + 1)
    let j := fromRight less a pivot i a.size (j - 1)
    if j ≤ i then (a, i) else exchange pivot n (a.swapIfInBounds i j) i j

/-- The elements before the pivot, the pivot, and those behind it. The pivot is the median of the
first, the middle and the last element, and waits beside the last while the others are exchanged. -/
def split (xs : List α) : List α × List α × List α :=
  let last := xs.length - 1
  let middle := last / 2
  let a := orderAt less (orderAt less (orderAt less xs.toArray 0 middle) middle last) 0 middle
  match a[middle]? with
  | none => (xs, [], [])
  | some pivot =>
    let (a, i) := exchange less pivot a.size (a.swapIfInBounds middle (last - 1)) 0 (last - 1)
    let sorted := (a.swapIfInBounds i (last - 1)).toList
    (sorted.take i, (sorted.drop i).take 1, sorted.drop (i + 1))

/-- The longest list that is sorted by insertion. -/
def short : Nat := 16

/-- Sorts a list. Once so many splits lie between the whole and a part, the longer one of two parts
is no longer split but sorted by means of a heap. -/
def sortWithin (splits : Nat) (xs : List α) : List α :=
  if xs.length ≤ short then insertionSort less xs
  else
    let (before, pivot, behind) := split less xs
    if _h : before.length < xs.length ∧ behind.length < xs.length then
      match splits with
      | 0 =>
        if before.length < behind.length then
          sortWithin 0 before ++ pivot ++ HeapSort.sort less behind
        else HeapSort.sort less before ++ pivot ++ sortWithin 0 behind
      | left + 1 => sortWithin left before ++ pivot ++ sortWithin left behind
    else insertionSort less xs
termination_by xs.length
decreasing_by all_goals omega

/-- Sorts a list. The limit for splits is twice the binary logarithm of its length. -/
def sort (xs : List α) : List α := sortWithin less (2 * Nat.log2 xs.length) xs

end CrudBench.QuickSort
