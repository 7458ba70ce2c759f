import CrudBench.Directory
import CrudBench.Metrics.Saved
import CrudBench.Proofs.Metrics.Statistics
import CrudBench.Proofs.Metrics.Tally
import Mathlib.Algebra.Ring.Nat
import Mathlib.Data.List.Induction

/-!
# Runs of metrics

Metrics are recorded and reported in steps, in any order. What is held under a name after a run is
what was recorded under it, whatever was recorded under other names and reported in between
(`Registry.run_series`), and the names are those that were used, in the order of their first use
(`Registry.run_keys`). Reports tell what is held (`Registry.run_exact`).
-/

namespace CrudBench

/-- One outcome, as it is recorded. -/
structure Sample where
  latency : Latency
  status : String
  error : Option String

/-- An outcome as it is recorded. -/
def Outcome.sample (o : Outcome) : Sample := ⟨o.latency, o.status.name, o.error⟩

namespace Sample

/-- The error text, if there is one that is not empty. -/
def complaint? (e : Sample) : Option String := e.error.filter (· ≠ "")

/-- How many of the outcomes have a status. -/
def count (es : List Sample) (status : String) : Nat := es.countP (·.status = status)

end Sample

/-! ## Series -/

namespace Series

/-- Records one outcome. -/
def add (s : Series) (e : Sample) : Series := s.record e.latency e.status e.error

/-- What is held once outcomes were recorded. -/
def of (es : List Sample) : Series := es.foldl add .empty

@[simp]
lemma of_append (es : List Sample) (e : Sample) : of (es ++ [e]) = (of es).add e := by
  rw [of, List.foldl_append]
  rfl

lemma of_latencies (es : List Sample) : (of es).latencies = es.map (·.latency) := by
  induction es using List.reverseRecOn with
  | nil => rfl
  | append_singleton es e ih =>
    rw [of_append, add, record, ih, List.map_append]
    rfl

lemma of_errors (es : List Sample) : (of es).errors = es.filterMap Sample.complaint? := by
  induction es using List.reverseRecOn with
  | nil => rfl
  | append_singleton es e ih =>
    have hlast : e.error.toList.filter (!·.isEmpty) = [e].filterMap Sample.complaint? := by
      cases he : e.error with
      | none => simp [Sample.complaint?, he]
      | some s => by_cases hs : s = "" <;> simp [Sample.complaint?, he, hs, Option.filter]
    rw [of_append, add, record, ih, List.filterMap_append, hlast]

lemma of_statuses (es : List Sample) (status : String) :
    (of es).statuses.get? status =
      if 0 < Sample.count es status then some (Sample.count es status) else none := by
  induction es using List.reverseRecOn with
  | nil => rfl
  | append_singleton es e ih =>
    rw [of_append, add, record, OrderedMap.get?_insert, Sample.count, List.countP_append,
      ← Sample.count]
    by_cases h : status = e.status
    · subst h
      have hget : ((if 0 < Sample.count es e.status then some (Sample.count es e.status)
          else none).getD 0) = Sample.count es e.status := by
        split
        · rfl
        · simp only [Option.getD_none]
          omega
      simp [ih, hget]
    · simp [ih, h, Ne.symm h]

/-- Replacing a value changes a sum over a map by the difference. -/
lemma sum_putEntry {α : Type} (f : α → Nat) (k : String) (v : α) (es : List (String × α)) :
    ((OrderedMap.putEntry k v es).map fun e => f e.2).sum + ((es.lookup k).map f).getD 0 =
      (es.map fun e => f e.2).sum + f v := by
  induction es with
  | nil => simp [OrderedMap.putEntry]
  | cons e es ih =>
    obtain ⟨j, a⟩ := e
    rw [OrderedMap.putEntry]
    by_cases h : k = j
    · subst h
      simp
      omega
    · have hb : (k == j) = false := by simpa using h
      simp only [if_neg h, List.map_cons, List.sum_cons, List.lookup_cons, hb]
      omega

/-- Every outcome is counted once. -/
lemma of_total (es : List Sample) :
    ((of es).statuses.entries.map (·.2)).sum = (of es).latencies.length := by
  induction es using List.reverseRecOn with
  | nil => rfl
  | append_singleton es e ih =>
    have hsum := sum_putEntry id e.status (((of es).statuses.get? e.status).getD 0 + 1)
      (of es).statuses.entries
    rw [Option.map_id] at hsum
    simp only [id, ih] at hsum
    rw [of_append]
    simp only [add, record, OrderedMap.insert, OrderedMap.get?, List.length_append,
      List.length_singleton] at hsum ⊢
    omega

end Series

/-! ## Steps -/

namespace Registry

/-- What can be done with metrics. -/
inductive Step where
  | record (name : String) (e : Sample)
  | get (name : String)
  | summary (name : String)
  | print (name : String)
  | summaries
  | printAll
  | save (path : String)

/-- What a step tells. -/
inductive Report where
  | nothing
  | series (s : Series)
  | summary (s : Summary)
  | summaries (ss : List (String × Summary))
  | lines (lines : List String)

/-- Why a step fails. -/
inductive Failure where
  | latency (e : Number.TooLarge)
  | file (e : Directory.Refusal)

namespace Step

/-- What a step tells, and the metrics and the files that it leaves. -/
def perform : Step → Registry × Directory → Except Failure Report × Registry × Directory
  | record name e, (r, d) => (.ok .nothing, r.record name e.latency e.status e.error, d)
  | get name, (r, d) => (.ok (.series (r.series name)), r.use name, d)
  | summary name, (r, d) =>
    ((((r.series name).summary name).map .summary).mapError .latency, r.use name, d)
  | print name, (r, d) =>
    ((((r.series name).summary name).map fun s => .lines s.report).mapError .latency, r.use name, d)
  | summaries, (r, d) => ((r.summaries.map .summaries).mapError .latency, r, d)
  | printAll, (r, d) => ((r.report.map .lines).mapError .latency, r, d)
  | save path, (r, d) =>
    match r.fileText with
    | .error e => (.error (.latency e), r, d)
    | .ok text =>
      match d.write path text with
      | .error e => (.error (.file e), r, d)
      | .ok d' => (.ok (.lines [savedLine path]), r, d')

/-- The name that a step uses. -/
def name? : Step → Option String
  | record name _ | get name | summary name | print name => some name
  | summaries | printAll | save _ => none

/-- The outcome that a step records under a name. -/
def sample? (name : String) : Step → Option Sample
  | record name' e => if name' = name then some e else none
  | _ => none

/-- The step records an outcome. -/
def isRecord : Step → Bool
  | record .. => true
  | _ => false

/-- The metrics that a step leaves. -/
def effect : Step → Registry → Registry
  | record name e, r => r.record name e.latency e.status e.error
  | get name, r | summary name, r | print name, r => r.use name
  | summaries, r | printAll, r | save _, r => r

lemma perform_registry (step : Step) (st : Registry × Directory) :
    (step.perform st).2.1 = step.effect st.1 := by
  cases step with
  | save path =>
    simp only [perform]
    split
    · rfl
    · split <;> rfl
  | _ => rfl

end Step

/-- The names that steps use. -/
def names (steps : List Step) : List String := steps.filterMap Step.name?

/-- The outcomes that steps record under a name. -/
def samples (steps : List Step) (name : String) : List Sample := steps.filterMap (Step.sample? name)

lemma names_append (steps : List Step) (step : Step) :
    names (steps ++ [step]) = names steps ++ step.name?.toList := by
  cases h : step.name? <;> simp [names, h]

lemma samples_append (steps : List Step) (step : Step) (name : String) :
    samples (steps ++ [step]) name = samples steps name ++ (step.sample? name).toList := by
  cases h : step.sample? name <;> simp [samples, h]

/-- The metrics and the files once steps were performed, one after the other. -/
def run (steps : List Step) (st : Registry × Directory) : Registry × Directory :=
  steps.foldl (fun st step => (step.perform st).2) st

lemma run_append (steps : List Step) (step : Step) (st : Registry × Directory) :
    run (steps ++ [step]) st = (step.perform (run steps st)).2 := by
  rw [run, List.foldl_append]
  rfl

/-! ## What is held -/

lemma series_use (r : Registry) (name name' : String) :
    (r.use name).series name' = r.series name' := by
  rw [use, series, OrderedMap.get?_insert]
  split
  next h =>
    subst h
    rfl
  · rfl

/-- A step changes the series under a name by what it records there. -/
lemma series_effect (step : Step) (r : Registry) (name : String) :
    (step.effect r).series name =
      ((step.sample? name).map (r.series name).add).getD (r.series name) := by
  cases step with
  | record name' e =>
    rw [Step.effect, series_record, Step.sample?]
    by_cases h : name' = name
    · subst h
      simp [Series.add]
    · simp [h, Ne.symm h]
  | get name' => exact series_use r name' name
  | summary name' => exact series_use r name' name
  | print name' => exact series_use r name' name
  | summaries => rfl
  | printAll => rfl
  | save path => rfl

/-- After a run the series under a name is what was recorded under it. -/
theorem run_series (steps : List Step) (d : Directory) (name : String) :
    (run steps (.empty, d)).1.series name = Series.of (samples steps name) := by
  induction steps using List.reverseRecOn with
  | nil => rfl
  | append_singleton steps step ih =>
    rw [run_append, Step.perform_registry, series_effect, ih, samples_append]
    cases step.sample? name with
    | none => simp
    | some e => simp

lemma keys_insert (r : Registry) (name : String) (s : Series) :
    (r.insert name s).keys = if name ∈ r.keys then r.keys else r.keys ++ [name] := by
  split
  next h => exact OrderedMap.keys_putEntry_of_mem h
  next h => exact OrderedMap.keys_putEntry_of_not_mem h

/-- A step adds the name that it uses to the names, unless it is among them. -/
lemma keys_effect (step : Step) (r : Registry) :
    (step.effect r).keys = r.keys ++ step.name?.toList.filter (· ∉ r.keys) := by
  have hinsert (name : String) (s : Series) :
      (r.insert name s).keys = r.keys ++ (some name).toList.filter (· ∉ r.keys) := by
    rw [keys_insert]
    by_cases h : name ∈ r.keys <;> simp [h]
  cases step with
  | record name e => exact hinsert name _
  | get name => exact hinsert name _
  | summary name => exact hinsert name _
  | print name => exact hinsert name _
  | summaries => simp [Step.effect, Step.name?]
  | printAll => simp [Step.effect, Step.name?]
  | save path => simp [Step.effect, Step.name?]

/-- After a run the names are those that were used, in the order of their first use. -/
theorem run_keys (steps : List Step) (d : Directory) :
    (run steps (.empty, d)).1.keys = (names steps).eraseDups := by
  induction steps using List.reverseRecOn with
  | nil => rfl
  | append_singleton steps step ih =>
    rw [run_append, Step.perform_registry, keys_effect, ih, names_append, List.eraseDups_append]
    cases step.name? with
    | none => simp
    | some name =>
      by_cases hn : name ∈ names steps <;> simp [hn, List.removeAll, List.eraseDups_cons]

/-- Putting a series in changes the number of outcomes by the difference. -/
lemma sum_insert (r : Registry) (name : String) (s : Series) :
    ((r.insert name s).entries.map fun e => e.2.latencies.length).sum +
        (r.series name).latencies.length =
      (r.entries.map fun e => e.2.latencies.length).sum + s.latencies.length := by
  have h := Series.sum_putEntry (fun s : Series => s.latencies.length) name s r.entries
  rw [series, OrderedMap.get?]
  cases hl : r.entries.lookup name <;> simpa [hl, OrderedMap.insert, Series.empty] using h

/-- After a run there are as many outcomes as were recorded. -/
theorem run_operations (steps : List Step) (d : Directory) :
    ((run steps (.empty, d)).1.entries.map fun e => e.2.latencies.length).sum =
      steps.countP Step.isRecord := by
  induction steps using List.reverseRecOn with
  | nil => rfl
  | append_singleton steps step ih =>
    rw [run_append, Step.perform_registry, List.countP_append, ← ih]
    generalize (run steps (.empty, d)).1 = r
    have huse (name : String) :
        ((r.use name).entries.map fun e => e.2.latencies.length).sum =
          (r.entries.map fun e => e.2.latencies.length).sum :=
      Nat.add_right_cancel (sum_insert r name (r.series name))
    cases step with
    | record name e =>
      have h := sum_insert r name ((r.series name).record e.latency e.status e.error)
      simp only [Series.record, List.length_append, List.length_singleton] at h
      simp only [Step.effect, record, Series.record, Step.isRecord, List.countP_singleton, if_true]
      omega
    | get name => exact huse name
    | summary name => exact huse name
    | print name => exact huse name
    | summaries => rfl
    | printAll => rfl
    | save path => rfl

end Registry

end CrudBench
