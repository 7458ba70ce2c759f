import CrudBench.Data.MergeSort.Schedule
import CrudBench.Proofs.Data.Returns
import Mathlib.Data.List.InsertIdx
import Mathlib.Tactic.Lemma

/-!
# When merge sort returns

Merge sort fails only where a comparison does. It compares nothing but elements of its list, so it
returns if these can be compared with each other (`MergeSort.returns_sort`).
-/

namespace CrudBench.MergeSort

variable {α ε : Type} {P : α → Prop}

/-! ## Galloping -/

section Gallop

variable {passes : α → Except ε Bool} {xs : List α}
  (h : ∀ x ∈ xs, Returns (fun _ => True) (passes x))

include h

lemma returns_leap (last next : Nat) : Returns (fun _ => True) (leap passes xs last next) := by
  fun_induction leap passes xs last next with
  | case1 last next hlt ih =>
    refine (h _ (List.getElem_mem hlt)).bind fun b _ => ?_
    cases b with
    | true => exact ih
    | false => exact returns_pure.2 trivial
  | case2 => exact returns_ok.2 trivial

lemma returns_halve (fromStart : Bool) (low high : Nat) :
    Returns (fun _ => True) (halve passes fromStart xs low high) := by
  fun_induction halve passes fromStart xs low high with
  | case1 => exact returns_ok.2 trivial
  | case2 low high hlt x hx ih ih' =>
    refine (h x (List.mem_of_getElem? hx)).bind fun b _ => ?_
    cases b with
    | true => exact ih
    | false => exact ih'
  | case3 => exact returns_ok.2 trivial

lemma returns_countLeading (fromStart : Bool) :
    Returns (fun _ => True) (countLeading passes fromStart xs) := by
  cases xs with
  | nil => exact returns_ok.2 trivial
  | cons x xs =>
    refine (h x List.mem_cons_self).bind fun b _ => ?_
    cases b with
    | true => exact (returns_leap h 0 1).bind fun r _ => returns_halve h fromStart _ _
    | false => exact returns_pure.2 trivial

end Gallop

/-! ## Merging -/

namespace Merge

/-- All elements of the merge have a property. -/
structure All (P : α → Prop) (m : Merge α) : Prop where
  taken : ∀ x ∈ m.taken, P x
  staying : ∀ x ∈ m.staying, P x
  aside : ∀ x ∈ m.aside, P x

/-- An element of the run that stays can be compared with one of the other run. -/
def Rule.Decides (P : α → Prop) (rule : Rule α ε) : Prop :=
  ∀ x y, P x → P y → Returns (fun _ => True) (rule.ahead x y)

lemma All.take {m : Merge α} (h : m.All P) (n : Nat) (side : Side) : (m.take n side).All P := by
  have htaken {xs : List α} (hx : ∀ x ∈ xs, P x) : ∀ x ∈ (xs.take n).reverse ++ m.taken, P x := by
    intro x hm
    rcases List.mem_append.1 hm with hm | hm
    · exact hx x (List.mem_of_mem_take (List.mem_reverse.1 hm))
    · exact h.taken x hm
  cases side with
  | aside => exact ⟨htaken h.aside, h.staying, fun x hx => h.aside x (List.mem_of_mem_drop hx)⟩
  | staying => exact ⟨htaken h.staying, fun x hx => h.staying x (List.mem_of_mem_drop hx), h.aside⟩

lemma All.result {m : Merge α} (h : m.All P) : ∀ x ∈ m.result, P x := by
  intro x hx
  simp only [Merge.result, List.mem_append, List.mem_reverse] at hx
  rcases hx with (hx | hx) | hx
  · exact h.taken x hx
  · exact h.staying x hx
  · exact h.aside x hx

variable {rule : Rule α ε} (hr : rule.Decides P)

include hr

lemma returns_compete {m : Merge α} (hm : m.All P) (patience : Nat) (winner : Side)
    (wins steps : Nat) : Returns (All P) (compete rule patience m winner wins steps) := by
  induction steps generalizing m winner wins with
  | zero => exact returns_ok.2 hm
  | succ steps ih =>
    rw [compete]
    split
    next x xs y ys hs ha =>
      have hx : P x := hm.staying x (hs ▸ List.mem_cons_self)
      have hy : P y := hm.aside y (ha ▸ List.mem_cons_self)
      refine (hr x y hx hy).bind fun b _ => ?_
      dsimp only
      generalize (if b = true then Side.staying else Side.aside) = side
      generalize (if side = winner then wins + 1 else 1) = wins
      split
      · exact returns_pure.2 (hm.take 1 side)
      · exact ih (hm.take 1 side) _ _
    · exact returns_ok.2 hm

lemma returns_gallop {m : Merge α} (hm : m.All P) (side : Side) :
    Returns (fun r => r.2.All P) (gallop rule m side) := by
  rw [gallop]
  split
  next x xs y ys hs ha =>
    have hx : P x := hm.staying x (hs ▸ List.mem_cons_self)
    have hy : P y := hm.aside y (ha ▸ List.mem_cons_self)
    have hdone (n : Nat) : All P (if (m.take n side).isOver then m.take n side
        else (m.take n side).take 1 side.other) := by
      split
      · exact hm.take n side
      · exact (hm.take n side).take 1 side.other
    cases side with
    | staying =>
      exact (returns_countLeading (fun z hz => hr z y (hm.staying z hz) hy) _).bind fun n _ =>
        returns_pure.2 (hdone n)
    | aside =>
      refine (returns_countLeading (fun z hz => ?_) _).bind fun n _ => returns_pure.2 (hdone n)
      exact (hr x z hx (hm.aside z hz)).bind fun _ _ => returns_pure.2 trivial
  · exact returns_pure.2 hm

lemma returns_race {m : Merge α} (hm : m.All P) (first : Side) (steps patience : Nat) :
    Returns (fun r => r.2.All P) (race rule first steps patience m) := by
  induction steps generalizing m patience with
  | zero => exact returns_ok.2 hm
  | succ steps ih =>
    refine (returns_gallop hr hm first).bind fun ⟨n, m⟩ hm => ?_
    dsimp only
    split
    · exact returns_pure.2 hm
    · refine (returns_gallop hr hm first.other).bind fun ⟨k, m⟩ hm => ?_
      dsimp only
      split
      · exact returns_pure.2 hm
      · split
        · exact ih hm _
        · exact returns_pure.2 hm

lemma returns_run {m : Merge α} (hm : m.All P) (first : Side) (steps patience : Nat) :
    Returns (fun r => ∀ x ∈ r.2, P x) (run rule first steps patience m) := by
  induction steps generalizing m patience with
  | zero => exact returns_ok.2 hm.result
  | succ steps ih =>
    rw [run]
    split
    · exact returns_pure.2 hm.result
    · refine (returns_compete hr hm _ _ _ _).bind fun m hm => ?_
      split
      · exact returns_pure.2 hm.result
      · exact (returns_race hr hm _ _ _).bind fun ⟨patience, m⟩ hm => ih hm patience

lemma returns_perform {staying aside : List α} (hs : ∀ x ∈ staying, P x) (ha : ∀ x ∈ aside, P x)
    (first : Side) (patience : Nat) :
    Returns (fun r => ∀ x ∈ r.2, P x) (perform rule first patience staying aside) :=
  returns_run hr (All.take ⟨nofun, hs, ha⟩ 1 .staying) first _ patience

end Merge

/-! ## Sorting -/

section Less

variable {less : α → α → Except ε Bool}
  (h : ∀ x y, P x → P y → Returns (fun _ => True) (less x y))

include h

lemma returns_mergeMoving {xs ys : List α} (hx : ∀ x ∈ xs, P x) (hy : ∀ y ∈ ys, P y)
    (patience : Nat) : Returns (fun r => ∀ x ∈ r.2, P x) (mergeMoving less patience xs ys) := by
  rw [mergeMoving]
  split
  · exact Merge.returns_perform (fun y x hy hx => h y x hy hx) hy hx _ _
  · refine (Merge.returns_perform (P := P) (fun x y hx hy => h y x hy hx) ?_ ?_ _ _).bind
      fun r hr => returns_pure.2 fun x hm => hr x (List.mem_reverse.1 hm)
    · exact fun x hm => hx x (List.mem_reverse.1 hm)
    · exact fun y hm => hy y (List.mem_reverse.1 hm)

lemma returns_merge {xs ys : List α} (hx : ∀ x ∈ xs, P x) (hy : ∀ y ∈ ys, P y)
    (patience : Nat) : Returns (fun r => ∀ x ∈ r.2, P x) (merge less patience xs ys) := by
  have happend {xs ys : List α} (hx : ∀ x ∈ xs, P x) (hy : ∀ y ∈ ys, P y) :
      ∀ x ∈ xs ++ ys, P x := List.forall_mem_append.2 ⟨hx, hy⟩
  have hnot {x y : α} (hx : P x) (hy : P y) :
      Returns (fun _ => True) (do return !(← less x y)) :=
    (h x y hx hy).bind fun _ _ => returns_pure.2 trivial
  cases ys with
  | nil => exact returns_pure.2 hx
  | cons y ys =>
    have hsettled : Returns (fun _ => True)
        (countLeading (fun x => do return !(← less y x)) true xs) :=
      returns_countLeading (fun x hm => hnot (hy y List.mem_cons_self) (hx x hm)) true
    refine hsettled.bind fun settled _ => ?_
    split
    · exact returns_pure.2 (happend hx hy)
    next x hlast =>
      have hdrop : ∀ x ∈ xs.drop settled, P x := fun x hm => hx x (List.mem_of_mem_drop hm)
      have hmoving : Returns (fun _ => True)
          (countLeading (fun z => do return !(← less z x)) false (y :: ys).reverse) :=
        returns_countLeading (fun z hm => hnot (hy z (List.mem_reverse.1 hm))
          (hdrop x (List.mem_of_getLast? hlast))) false
      refine hmoving.bind fun n _ => ?_
      dsimp only
      split
      · exact returns_pure.2 (happend hx hy)
      · refine (returns_mergeMoving h hdrop (fun z hm => hy z (List.mem_of_mem_take hm))
          patience).bind fun r hr => returns_pure.2 ?_
        exact happend (happend (fun x hm => hx x (List.mem_of_mem_take hm)) hr)
          fun z hm => hy z (List.mem_of_mem_drop hm)

lemma returns_continueRun (descending : Bool) {last : α} (hl : P last) {xs : List α}
    (hx : ∀ x ∈ xs, P x) :
    Returns (fun r => (∀ x ∈ r.1, P x) ∧ ∀ x ∈ r.2, P x)
      (continueRun less descending last xs) := by
  induction xs generalizing last with
  | nil => exact returns_ok.2 ⟨nofun, nofun⟩
  | cons x xs ih =>
    obtain ⟨hhead, htail⟩ := List.forall_mem_cons.1 hx
    refine (h x last hhead hl).bind fun b _ => ?_
    split
    · exact (ih hhead htail).bind fun r hr =>
        returns_pure.2 ⟨List.forall_mem_cons.2 ⟨hhead, hr.1⟩, hr.2⟩
    · exact returns_pure.2 ⟨nofun, hx⟩

lemma returns_firstRun {xs : List α} (hx : ∀ x ∈ xs, P x) :
    Returns (fun r => (∀ x ∈ r.1, P x) ∧ ∀ x ∈ r.2, P x) (firstRun less xs) := by
  match xs, hx with
  | [], hx => exact returns_ok.2 ⟨hx, nofun⟩
  | [x], hx => exact returns_ok.2 ⟨hx, nofun⟩
  | x :: y :: xs, hx =>
    simp only [List.forall_mem_cons] at hx
    obtain ⟨hx, hy, hxs⟩ := hx
    refine (h y x hy hx).bind fun descending _ => ?_
    refine (returns_continueRun h descending hy hxs).bind fun r hr => returns_pure.2 ⟨?_, hr.2⟩
    have hrun : ∀ z ∈ x :: y :: r.1, P z :=
      List.forall_mem_cons.2 ⟨hx, List.forall_mem_cons.2 ⟨hy, hr.1⟩⟩
    split
    · exact fun z hz => hrun z (List.mem_reverse.1 hz)
    · exact hrun

lemma returns_place {v : α} (hv : P v) {sorted : List α} (hs : ∀ x ∈ sorted, P x)
    (low high : Nat) : Returns (fun _ => True) (place less v sorted low high) := by
  fun_induction place less v sorted low high with
  | case1 => exact returns_ok.2 trivial
  | case2 low high hlt x hx ih ih' =>
    refine (h v x hv (hs x (List.mem_of_getElem? hx))).bind fun b _ => ?_
    cases b with
    | true => exact ih
    | false => exact ih'
  | case3 => exact returns_ok.2 trivial

lemma returns_insert {run : List α} (hr : ∀ x ∈ run, P x) {v : α} (hv : P v) :
    Returns (fun r => ∀ x ∈ r, P x) (insert less run v) := by
  refine (returns_place h hv hr _ _).bind fun i _ => returns_pure.2 fun x hx => ?_
  rcases List.eq_or_mem_of_mem_insertIdx hx with rfl | hx
  · exact hv
  · exact hr x hx

lemma returns_takeRun (length : Nat) {xs : List α} (hx : ∀ x ∈ xs, P x) :
    Returns (fun r => (∀ x ∈ r.1, P x) ∧ ∀ x ∈ r.2, P x) (takeRun less length xs) := by
  refine (returns_firstRun h hx).bind fun r hr => ?_
  refine (Returns.foldlM hr.1 fun run v hrun hv => ?_).bind fun run hrun =>
    returns_pure.2 ⟨hrun, fun x hm => hr.2 x (List.mem_of_mem_drop hm)⟩
  exact returns_insert h hrun (hr.2 v (List.mem_of_mem_take hv))

lemma returns_collapse (limit patience start : Nat) {items : List α} (hi : ∀ x ∈ items, P x)
    {waiting : List (Pending α)} (hw : ∀ p ∈ waiting, ∀ x ∈ p.items, P x) :
    Returns (fun r => ∀ p ∈ r.2, ∀ x ∈ p.items, P x)
      (collapse less limit patience start items waiting) := by
  induction waiting generalizing patience start items with
  | nil => exact returns_ok.2 (List.forall_mem_singleton.2 hi)
  | cons p ps ih =>
    obtain ⟨hp, hps⟩ := List.forall_mem_cons.1 hw
    rw [collapse]
    split
    · exact (returns_merge h hp hi patience).bind fun r hr => ih r.1 p.start hr hps
    · exact returns_pure.2 (List.forall_mem_cons.2 ⟨hi, hw⟩)

lemma returns_finish (patience : Nat) {last : List α} (hl : ∀ x ∈ last, P x)
    {runs : List (List α)} (hr : ∀ xs ∈ runs, ∀ x ∈ xs, P x) :
    Returns (fun r => ∀ x ∈ r, P x) (finish less patience last runs) := by
  fun_induction finish less patience last runs with
  | case1 => exact returns_ok.2 hl
  | case2 patience last xs =>
    exact (returns_merge h (hr xs List.mem_cons_self) hl patience).bind fun r hr =>
      returns_pure.2 hr
  | case3 patience last ys xs rest hlt ih =>
    simp only [List.forall_mem_cons] at hr
    obtain ⟨hy, hx, hrest⟩ := hr
    exact (returns_merge h hx hy patience).bind fun r hm =>
      ih r.1 r.2 hl (List.forall_mem_cons.2 ⟨hm, hrest⟩)
  | case4 patience last ys xs rest hlt ih =>
    simp only [List.forall_mem_cons] at hr
    obtain ⟨hy, hx, hrest⟩ := hr
    exact (returns_merge h hy hl patience).bind fun r hm =>
      ih r.1 r.2 hm (List.forall_mem_cons.2 ⟨hx, hrest⟩)

lemma returns_sortRuns (n steps patience start : Nat) {run rest : List α}
    (hr : ∀ x ∈ run, P x) {waiting : List (Pending α)}
    (hw : ∀ p ∈ waiting, ∀ x ∈ p.items, P x) (hx : ∀ x ∈ rest, P x) :
    Returns (fun r => ∀ x ∈ r, P x) (sortRuns less n steps patience start run waiting rest) := by
  induction steps generalizing patience start run waiting rest with
  | zero => exact returns_ok.2 (List.forall_mem_append.2 ⟨hr, hx⟩)
  | succ steps ih =>
    rw [sortRuns]
    split
    · refine returns_finish h patience hr fun xs hxs => ?_
      obtain ⟨p, hp, rfl⟩ := List.mem_map.1 hxs
      exact hw p hp
    · refine (returns_takeRun h _ hx).bind fun next hnext => ?_
      refine (returns_collapse h _ patience start hr hw).bind fun r hwaiting => ?_
      exact ih r.1 _ hnext.1 hwaiting hnext.2

/-- Elements that can be compared with each other can be sorted. -/
theorem returns_sort {xs : List α} (hx : ∀ x ∈ xs, P x) :
    Returns (fun r => ∀ x ∈ r, P x) (sort less xs) :=
  (returns_takeRun h _ hx).bind fun _ hr => returns_sortRuns h _ _ _ _ hr.1 nofun hr.2

end Less

end CrudBench.MergeSort
