import CrudBench.Data.QuickSort
import Mathlib.Tactic.Lemma

/-!
# Sorting invents nothing

Whatever the comparison is, what comes out of a sort was put into it (`QuickSort.mem_of_mem_sort`).
Elements are only moved: exchanged for others, or put back into the place that was left free for
them.
-/

namespace CrudBench

variable {α : Type u} {less : α → α → Bool} {x : α}

/-! ## By means of a heap -/

namespace HeapSort

/-- Where an element sinks, the others move. -/
lemma mem_of_mem_sink {v : α} {size : Nat} {a : Array α} {i : Nat}
    (h : x ∈ sink less v size a i) : x ∈ a ∨ x = v := by
  induction a, i using sink.induct less v size with
  | case1 a i child hc y hy hless ih =>
    rw [sink, dif_pos hc] at h
    simp only [child, hy, hless, if_true] at h ih
    rcases ih h with h | h
    · rcases Array.mem_or_eq_of_mem_setIfInBounds h with h | rfl
      · exact .inl h
      · exact .inl (Array.mem_of_getElem? hy)
    · exact .inr h
  | case2 a i child hc y hy hless =>
    rw [sink, dif_pos hc] at h
    simp only [child, hy, hless] at h
    exact Array.mem_or_eq_of_mem_setIfInBounds h
  | case3 a i child hc hnone =>
    rw [sink, dif_pos hc] at h
    simp only [child, hnone] at h
    exact Array.mem_or_eq_of_mem_setIfInBounds h
  | case4 a i child hc =>
    rw [sink, dif_neg hc] at h
    exact Array.mem_or_eq_of_mem_setIfInBounds h

lemma mem_of_mem_sinkFrom {a : Array α} {i : Nat} (h : x ∈ sinkFrom less a i) : x ∈ a := by
  rw [sinkFrom] at h
  split at h
  next v hv =>
    rcases mem_of_mem_sink h with h | rfl
    · exact h
    · exact Array.mem_of_getElem? hv
  · exact h

lemma mem_of_mem_arrange {a : Array α} (h : x ∈ arrange less a) : x ∈ a := by
  rw [arrange] at h
  generalize (List.range (a.size / 2)).reverse = places at h
  induction places generalizing a with
  | nil => exact h
  | cons i places ih => exact mem_of_mem_sinkFrom (ih h)

lemma mem_of_mem_takeApart {size : Nat} {a : Array α} (h : x ∈ takeApart less size a) : x ∈ a := by
  induction size generalizing a with
  | zero => exact h
  | succ last ih =>
    rw [takeApart] at h
    split at h
    next first v hfirst hv =>
      split at h
      · exact h
      · rcases mem_of_mem_sink (ih h) with h | rfl
        · rcases Array.mem_or_eq_of_mem_setIfInBounds h with h | rfl
          · exact h
          · exact Array.mem_of_getElem? hfirst
        · exact Array.mem_of_getElem? hv
    · exact h

lemma mem_of_mem_sort {xs : List α} (h : x ∈ sort less xs) : x ∈ xs :=
  List.mem_toArray.1 (mem_of_mem_arrange (mem_of_mem_takeApart (Array.mem_toList_iff.1 h)))

end HeapSort

/-! ## By splitting -/

namespace QuickSort

lemma mem_of_mem_insertBack {v : α} {xs : List α} (h : x ∈ insertBack less v xs) :
    x = v ∨ x ∈ xs := by
  induction xs with
  | nil => exact .inl (List.mem_singleton.1 h)
  | cons y xs ih =>
    rw [insertBack] at h
    split at h
    · rcases List.mem_cons.1 h with rfl | h
      · exact .inr List.mem_cons_self
      · exact (ih h).imp_right (List.mem_cons_of_mem y)
    · exact List.mem_cons.1 h

lemma mem_of_mem_insertionSort {xs : List α} (h : x ∈ insertionSort less xs) : x ∈ xs := by
  have hfold (ys sorted : List α)
      (h : x ∈ ys.foldl (fun sorted v => insertBack less v sorted) sorted) :
      x ∈ ys ∨ x ∈ sorted := by
    induction ys generalizing sorted with
    | nil => exact .inr h
    | cons v ys ih =>
      rcases ih _ h with h | h
      · exact .inl (List.mem_cons_of_mem v h)
      · rcases mem_of_mem_insertBack h with rfl | h
        · exact .inl List.mem_cons_self
        · exact .inr h
  simpa using hfold xs [] (List.mem_reverse.1 h)

lemma mem_of_mem_swap {a : Array α} {i j : Nat} (h : x ∈ a.swapIfInBounds i j) : x ∈ a := by
  rw [Array.swapIfInBounds] at h
  split at h
  · split at h
    · exact (Array.swap_perm _ _).mem_iff.1 h
    · exact h
  · exact h

lemma mem_of_mem_orderAt {a : Array α} {i j : Nat} (h : x ∈ orderAt less a i j) : x ∈ a := by
  rw [orderAt] at h
  split at h
  · split at h
    · exact mem_of_mem_swap h
    · exact h
  · exact h

lemma mem_of_mem_exchange {pivot : α} {steps : Nat} {a : Array α} {i j : Nat}
    (h : x ∈ (exchange less pivot steps a i j).1) : x ∈ a := by
  induction steps generalizing a i j with
  | zero => exact h
  | succ n ih =>
    simp only [exchange] at h
    split at h
    · exact h
    · exact mem_of_mem_swap (ih h)

/-- The parts of a list hold nothing that the list does not hold. -/
lemma mem_of_mem_split {xs before pivot behind : List α}
    (hs : split less xs = (before, pivot, behind))
    (h : x ∈ before ∨ x ∈ pivot ∨ x ∈ behind) : x ∈ xs := by
  rw [split] at hs
  simp only at hs
  generalize ha : orderAt less (orderAt less (orderAt less xs.toArray 0 ((xs.length - 1) / 2))
    ((xs.length - 1) / 2) (xs.length - 1)) 0 ((xs.length - 1) / 2) = a at hs
  have hordered (y : α) (hy : y ∈ a) : y ∈ xs := by
    rw [← ha] at hy
    exact List.mem_toArray.1 (mem_of_mem_orderAt (mem_of_mem_orderAt (mem_of_mem_orderAt hy)))
  split at hs
  · cases hs
    simpa using h
  next v _ =>
    generalize hex : exchange less v a.size (a.swapIfInBounds ((xs.length - 1) / 2)
      (xs.length - 1 - 1)) 0 (xs.length - 1 - 1) = exchanged at hs
    have hmem : x ∈ (exchanged.1.swapIfInBounds exchanged.2 (xs.length - 1 - 1)).toList := by
      cases hs
      rcases h with h | h | h
      · exact List.mem_of_mem_take h
      · exact List.mem_of_mem_drop (List.mem_of_mem_take h)
      · exact List.mem_of_mem_drop h
    have hexchanged : x ∈ exchanged.1 := mem_of_mem_swap (Array.mem_toList_iff.1 hmem)
    rw [← hex] at hexchanged
    exact hordered x (mem_of_mem_swap (mem_of_mem_exchange hexchanged))

lemma mem_of_mem_sortWithin {splits : Nat} {xs : List α} (h : x ∈ sortWithin less splits xs) :
    x ∈ xs := by
  induction splits, xs using sortWithin.induct less with
  | case1 splits xs hshort =>
    rw [sortWithin, if_pos hshort] at h
    exact mem_of_mem_insertionSort h
  | case2 xs hlong before pivot behind hs hsize hless ih =>
    rw [sortWithin, if_neg hlong] at h
    simp only [hs, dif_pos hsize, if_pos hless, List.mem_append] at h
    refine mem_of_mem_split hs ?_
    rcases h with (h | h) | h
    · exact .inl (ih h)
    · exact .inr (.inl h)
    · exact .inr (.inr (HeapSort.mem_of_mem_sort h))
  | case3 xs hlong before pivot behind hs hsize hless ih =>
    rw [sortWithin, if_neg hlong] at h
    simp only [hs, dif_pos hsize, if_neg hless, List.mem_append] at h
    refine mem_of_mem_split hs ?_
    rcases h with (h | h) | h
    · exact .inl (HeapSort.mem_of_mem_sort h)
    · exact .inr (.inl h)
    · exact .inr (.inr (ih h))
  | case4 xs hlong before pivot behind hs hsize left ih ih' =>
    rw [sortWithin, if_neg hlong] at h
    simp only [hs, dif_pos hsize, List.mem_append] at h
    refine mem_of_mem_split hs ?_
    rcases h with (h | h) | h
    · exact .inl (ih h)
    · exact .inr (.inl h)
    · exact .inr (.inr (ih' h))
  | case5 splits xs hlong before pivot behind hs hsize =>
    rw [sortWithin, if_neg hlong] at h
    simp only [hs, dif_neg hsize] at h
    exact mem_of_mem_insertionSort h

/-- What comes out of a sort was put into it. -/
theorem mem_of_mem_sort {xs : List α} (h : x ∈ sort less xs) : x ∈ xs := mem_of_mem_sortWithin h

end QuickSort

end CrudBench
