import CrudBench.Metrics.Statistics
import CrudBench.Proofs.Data.QuickSort
import CrudBench.Proofs.Data.Returns

/-!
# When there are statistics

Statistics of latencies that can be converted to floats fail only where numbers of any size are
computed with, that is, if one of the latencies is no machine word: then the sum, or the distance of
two neighbours that a percentile lies between, can leave the range of floats
(`Statistics.returns_of_iff`).
-/

namespace CrudBench

namespace Number

/-- The number can be converted to a float. -/
def Convertible (x : Number) : Prop := Returns (fun _ => True) x.toFloat

/-- The number is a whole one that is no machine word. -/
def IsWide : Number → Prop
  | whole n => isSignedWord n = false ∧ isLargeWord n = false
  | real _ => False

/-- Every float is one. -/
lemma convertible_real (x : Float) : (real x).Convertible := ⟨x, rfl, trivial⟩

lemma convertible_whole_iff {n : Int} : (whole n).Convertible ↔ n.natAbs < overflow := by
  rw [Convertible, toFloat]
  split
  next h => exact iff_of_true (returns_ok.2 trivial) h
  next h => exact iff_of_false not_returns_error h

/-- A machine word can be converted. -/
lemma convertible_of_not_wide {x : Number} (h : ¬x.IsWide) : x.Convertible := by
  cases x with
  | real x => exact convertible_real x
  | whole n =>
    have hsigned : Int.pow 2 63 = 9223372036854775808 := by decide
    have hlarge : Int.pow 2 64 = 18446744073709551616 := by decide
    have hwords : n.natAbs ≤ 18446744073709551616 := by
      by_contra hn
      refine h ⟨?_, ?_⟩ <;>
        simp only [isSignedWord, isLargeWord, hsigned, hlarge, Bool.and_eq_false_iff,
          decide_eq_false_iff_not] <;> omega
    exact convertible_whole_iff.2 (Nat.lt_of_le_of_lt hwords (by decide +kernel))

end Number

namespace Statistics

variable {ls : List Latency}

/-- The sum of latencies, added up in their order. -/
def total : List Latency → Except Number.TooLarge Number
  | [] => .ok (.whole 0)
  | l :: ls => ls.foldlM Number.add l

/-- The neighbours between which a percentile lies among the sorted latencies. -/
def neighbours (ls : List Latency) (percent : Float) : Option (Latency × Latency) :=
  let sorted := QuickSort.sort Number.less ls
  let r := Rank.of sorted.length percent
  match sorted[r.below]?, sorted[r.above]? with
  | some lo, some hi => some (lo, hi)
  | _, _ => none

/-- What is computed of latencies with numbers of any size stays in the range of floats. -/
structure Representable (ls : List Latency) : Prop where
  total : Returns Number.Convertible (Statistics.total ls)
  distance : ∀ percent ∈ [50.0, 95.0, 99.0], ∀ lo hi, neighbours ls percent = some (lo, hi) →
    Returns (fun _ => True) (Measure.exact.distance lo hi)

/-- Latencies of which there are statistics, given that each can be converted. -/
def Manageable (ls : List Latency) : Prop := (∀ l ∈ ls, ¬l.IsWide) ∨ Representable ls

/-- What is picked from a list, one against one, is in the list. -/
lemma foldl_pick_mem {f : Latency → Latency → Bool} (l : Latency) (ls : List Latency) :
    ls.foldl (fun m y => if f m y then m else y) l ∈ l :: ls := by
  induction ls generalizing l with
  | nil => exact List.mem_cons_self
  | cons y ls ih =>
    rw [List.foldl_cons]
    rcases List.mem_cons.1 (ih (if f l y then l else y)) with h | h
    · rw [h]
      split
      · exact List.mem_cons_self
      · exact List.mem_cons_of_mem l List.mem_cons_self
    · exact List.mem_cons_of_mem l (List.mem_cons_of_mem y h)

/-- A percentile is there if the distance of the neighbours is, and that always with floats. -/
lemma returns_percentile_iff (hconv : ∀ l ∈ ls, l.Convertible) (percent : Float) :
    Returns (fun _ => True)
        (Measure.exact.percentile (QuickSort.sort Number.less ls) percent) ↔
      ∀ lo hi, neighbours ls percent = some (lo, hi) →
        Returns (fun _ => True) (Measure.exact.distance lo hi) := by
  have hmem {l : Latency} {i : Nat} (h : (QuickSort.sort Number.less ls)[i]? = some l) :
      Returns (fun _ => True) (Measure.exact.toFloat l) :=
    hconv l (QuickSort.mem_of_mem_sort (List.mem_of_getElem? h))
  simp only [Measure.percentile, neighbours]
  split
  next lo hi hlo hhi =>
    obtain ⟨x, hx, -⟩ := hmem hlo
    obtain ⟨y, hy, -⟩ := hmem hhi
    simp only [hx, hy, hlo, hhi, returns_bind, returns_ok, returns_pure]
    refine ⟨fun h lo' hi' he => ?_, fun h => h lo hi rfl⟩
    cases he
    exact h
  next hnone =>
    refine iff_of_true (returns_ok.2 trivial) fun lo hi he => ?_
    split at he
    next hlo hhi => exact (hnone _ _ hlo hhi).elim
    next => cases he

/-- There are statistics of whatever can always be converted and compared. -/
lemma returns_statistics {α : Type} {m : Measure α} {sorted : List α} {min max mean : Float}
    (hf : ∀ a, Returns (fun _ => True) (m.toFloat a))
    (hd : ∀ a b, Returns (fun _ => True) (m.distance a b)) :
    Returns (fun _ => True) (m.statistics sorted min max mean) := by
  have hp (percent : Float) : Returns (fun _ => True) (m.percentile sorted percent) := by
    simp only [Measure.percentile]
    split
    next lo hi _ _ =>
      exact (hf lo).bind fun _ _ => (hf hi).bind fun _ _ => (hd lo hi).bind fun _ _ =>
        returns_pure.2 trivial
    · exact returns_ok.2 trivial
  exact (hp 50.0).bind fun _ _ => (hp 95.0).bind fun _ _ => (hp 99.0).bind fun _ _ =>
    returns_pure.2 trivial

/-- Numbers of any size have statistics if what is computed of them stays in range. -/
lemma returns_ofNumbers_iff (hconv : ∀ l ∈ ls, l.Convertible) :
    Returns (fun _ => True) (ofNumbers ls) ↔ ls = [] ∨ Representable ls := by
  cases ls with
  | nil => simp [ofNumbers]
  | cons l ls =>
    obtain ⟨least, hleast, -⟩ := hconv _ (foldl_pick_mem (f := fun m y => m.atMost y) l ls)
    obtain ⟨greatest, hgreatest, -⟩ := hconv _ (foldl_pick_mem (f := fun m y => y.atMost m) l ls)
    have hpercentile := returns_percentile_iff hconv
    simp only [ofNumbers, hleast, hgreatest, returns_bind, returns_ok, Measure.statistics,
      returns_pure]
    constructor
    · rintro ⟨s, hs, x, hx, p50, h50, p95, h95, p99, h99, -⟩
      refine .inr ⟨⟨s, hs, x, hx, trivial⟩, fun percent hp => (hpercentile percent).1 ?_⟩
      simp only [List.mem_cons, List.not_mem_nil, or_false] at hp
      rcases hp with rfl | rfl | rfl
      · exact ⟨p50, h50, trivial⟩
      · exact ⟨p95, h95, trivial⟩
      · exact ⟨p99, h99, trivial⟩
    · rintro (h | ⟨⟨s, hs, x, hx, -⟩, hd⟩)
      · cases h
      · refine ⟨s, hs, x, hx, ?_⟩
        obtain ⟨p50, h50, -⟩ := (hpercentile 50.0).2 (hd 50.0 (by simp))
        obtain ⟨p95, h95, -⟩ := (hpercentile 95.0).2 (hd 95.0 (by simp))
        obtain ⟨p99, h99, -⟩ := (hpercentile 99.0).2 (hd 99.0 (by simp))
        exact ⟨p50, h50, p95, h95, p99, h99, trivial⟩

/-- There are always statistics of floats. -/
lemma returns_ofFloats (xs : List Float) : Returns (fun _ => True) (ofFloats xs) := by
  rw [ofFloats]
  split
  · exact returns_ok.2 trivial
  · exact returns_statistics (fun _ => returns_ok.2 trivial) fun _ _ => returns_ok.2 trivial

/-- There are always statistics of words. -/
lemma returns_ofWords (ns : List Int) : Returns (fun _ => True) (ofWords ns) :=
  returns_statistics (fun _ => returns_ok.2 trivial) fun _ _ => returns_ok.2 trivial

lemma any_wholes_iff :
    ((wholes ls).any fun n => !(isSignedWord n || isLargeWord n)) = true ↔ ∃ l ∈ ls, l.IsWide := by
  simp only [wholes, List.any_eq_true, List.mem_filterMap]
  constructor
  · rintro ⟨n, ⟨l, hl, hn⟩, hwide⟩
    refine ⟨l, hl, ?_⟩
    cases l with
    | real x => cases hn
    | whole k =>
      cases hn
      simpa [Number.IsWide] using hwide
  · rintro ⟨l, hl, hwide⟩
    cases l with
    | real x => exact hwide.elim
    | whole n => exact ⟨n, ⟨_, hl, rfl⟩, by simpa [Number.IsWide] using hwide⟩

/-- There are statistics of latencies that can be converted, unless one of them is no machine word
and exact arithmetic leaves the range of floats. -/
theorem returns_of_iff (hne : ls ≠ []) (hconv : ∀ l ∈ ls, l.Convertible) :
    Returns (fun _ => True) (Statistics.of ls) ↔ Manageable ls := by
  rw [Statistics.of, Manageable]
  split
  next h =>
    obtain ⟨l, hl, hwide⟩ := any_wholes_iff.1 h
    rw [returns_ofNumbers_iff hconv]
    constructor
    · rintro (h | h)
      · exact absurd h hne
      · exact .inr h
    · rintro (h | h)
      · exact absurd hwide (h l hl)
      · exact .inr h
  next h =>
    have hwords : ∀ l ∈ ls, ¬l.IsWide := fun l hl hwide => h (any_wholes_iff.2 ⟨l, hl, hwide⟩)
    refine iff_of_true ?_ (.inl hwords)
    split
    · exact returns_ofWords _
    · exact (Returns.mapM hconv).bind fun xs _ => returns_ofFloats xs

end Statistics

end CrudBench
