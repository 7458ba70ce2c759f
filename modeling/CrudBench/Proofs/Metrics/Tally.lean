import CrudBench.Outcome
import Mathlib.Tactic.Lemma

/-!
# What metrics tell

Metrics count what was recorded in them: under each name the outcomes of each status, and as many
latencies as there were outcomes (`Registry.Tells`).
-/

namespace CrudBench

namespace Registry

variable {r : Registry} {events : List (String × String)}

/-- Recording an outcome changes the series under its name only. -/
lemma series_record (r : Registry) (name name' : String) (latency : Latency) (status : String)
    (error : Option String) :
    (r.record name latency status error).series name' =
      if name' = name then (r.series name).record latency status error else r.series name' := by
  rw [series, record, OrderedMap.get?_insert]
  split <;> rfl

/-- How many outcomes of a status were recorded under a name. -/
def count (r : Registry) (name status : String) : Nat :=
  ((r.series name).statuses.get? status).getD 0

/-- How many outcomes were recorded under a name. -/
def operations (r : Registry) (name : String) : Nat := (r.series name).latencies.length

/-- What was recorded are these outcomes, of which each has a name and a status. -/
structure Tells (r : Registry) (events : List (String × String)) : Prop where
  count : ∀ name status, r.count name status = events.count (name, status)
  operations : ∀ name, r.operations name = (events.map Prod.fst).count name

/-- Nothing was recorded in metrics that are empty. -/
lemma tells_empty : Tells .empty [] := ⟨fun _ _ => rfl, fun _ => rfl⟩

/-- One more outcome was recorded. -/
lemma Tells.record (h : r.Tells events) (name : String) (latency : Latency) (status : String)
    (error : Option String) :
    (r.record name latency status error).Tells (events ++ [(name, status)]) := by
  constructor
  · intro name' status'
    rw [Registry.count, series_record, List.count_append, List.count_singleton, ← h.count]
    by_cases hn : name' = name
    · subst hn
      rw [if_pos rfl, Series.record, OrderedMap.get?_insert]
      by_cases hs : status' = status
      · subst hs
        simp [Registry.count]
      · simp [Registry.count, hs, Ne.symm hs]
    · simp [Registry.count, hn, Ne.symm hn]
  · intro name'
    rw [Registry.operations, series_record, List.map_append, List.count_append, ← h.operations]
    by_cases hn : name' = name
    · subst hn
      simp [Registry.operations, Series.record]
    · simp [Registry.operations, hn, Ne.symm hn]

end Registry

end CrudBench
