import CrudBench.Proofs.Metrics.Run
import Mathlib.Algebra.Ring.Int.Defs

/-!
# Reports of metrics

A summary tells what was recorded under its name and nothing else (`Summary.Tells`). Whether there
is one depends on the latencies under that name only: there is none if exact arithmetic on them
leaves the range of floats. The reports of all names are made of the summaries, in the order of the
names, and there are such reports if every name has a summary (`Registry.run_exact`).
-/

namespace CrudBench

/-- A summary tells what was recorded under a name. -/
structure Summary.Tells (s : Summary) (name : String) (es : List Sample) : Prop where
  name : s.name = name
  operations : s.operations = es.length
  statuses : ∀ status, s.statuses.get? status =
    if 0 < Sample.count es status then some (Sample.count es status) else none
  unmeasured : es = [] → s.measured = none
  measured : es ≠ [] → ∃ m, s.measured = some m ∧
    m.errors = (es.filterMap Sample.complaint?).length ∧
    Statistics.of (es.map (·.latency)) = .ok m.latency

/-- What the file says about one name. -/
def Summary.filed (s : Summary) (es : List Sample) : JsonTree :=
  .object (s.members ++
    [("raw_latencies", .list (es.map fun e => .number e.latency.fileText)),
      ("errors", .list ((es.filterMap Sample.complaint?).map .str))])

/-- Nothing was recorded, or there are statistics of the latencies. -/
def Sample.InRange (es : List Sample) : Prop :=
  es = [] ∨ Returns (fun _ => True) (Statistics.of (es.map (·.latency)))

/-- Of latencies that can be converted there are statistics as far as they are manageable. -/
lemma Sample.inRange_iff {es : List Sample} (hconv : ∀ e ∈ es, e.latency.Convertible) :
    Sample.InRange es ↔ Statistics.Manageable (es.map (·.latency)) := by
  cases es with
  | nil => exact iff_of_true (.inl rfl) (.inl nofun)
  | cons e es =>
    refine (or_iff_right (List.cons_ne_nil e es)).trans ?_
    refine Statistics.returns_of_iff (by simp) fun l hl => ?_
    obtain ⟨e', he', rfl⟩ := List.mem_map.1 hl
    exact hconv e' he'

/-- Of floats and machine words there are statistics. -/
lemma Sample.inRange_of_not_wide {es : List Sample} (h : ∀ e ∈ es, ¬e.latency.IsWide) :
    Sample.InRange es := by
  refine (inRange_iff fun e he => Number.convertible_of_not_wide (h e he)).2 (.inl fun l hl => ?_)
  obtain ⟨e, he, rfl⟩ := List.mem_map.1 hl
  exact h e he

namespace Series

variable {name : String} {es : List Sample}

/-- There is a summary if there are statistics, and it tells what was recorded. -/
lemma returns_summary (name : String) (h : Sample.InRange es) :
    Returns (Summary.Tells · name es) ((of es).summary name) := by
  rw [summary, measured, of_latencies]
  cases es with
  | nil => exact ⟨_, rfl, rfl, rfl, of_statuses [], fun _ => rfl, fun hne => absurd rfl hne⟩
  | cons e es =>
    obtain ⟨m, hm, -⟩ := h.resolve_left (List.cons_ne_nil e es)
    rw [hm]
    refine ⟨_, rfl, rfl, List.length_map _, of_statuses (e :: es), nofun, fun _ => ?_⟩
    exact ⟨_, rfl, congrArg List.length (of_errors (e :: es)), hm⟩

/-- There is no summary if there are no statistics. -/
lemma summary_eq_error (name : String) (h : ¬Sample.InRange es) :
    (of es).summary name = .error {} := by
  rw [summary, measured, of_latencies]
  cases es with
  | nil => exact absurd (.inl rfl) h
  | cons e es =>
    cases hm : Statistics.of ((e :: es).map (·.latency)) with
    | ok m => exact absurd (.inr ⟨m, hm, trivial⟩) h
    | error e' => rfl

lemma tree_of_summary {s : Summary} (h : (of es).summary name = .ok s) :
    (of es).tree name = .ok (s.filed es) := by
  rw [tree, h, of_latencies, of_errors, List.map_map]
  rfl

end Series

namespace Registry

variable {r : Registry} {own : String → List Sample}

lemma series_of_mem {e : String × Series} (h : e ∈ r.entries) : r.series e.1 = e.2 := by
  obtain ⟨before, after, hsplit⟩ := List.append_of_mem h
  have hbefore : ∀ p ∈ before, e.1 != p.1 := by
    have hn := r.distinct
    rw [hsplit, List.map_append, List.map_cons, List.nodup_append] at hn
    intro p hp
    exact bne_iff_ne.2 (hn.2.2 p.1 (List.mem_map_of_mem hp) e.1 List.mem_cons_self).symm
  have hlookup : r.entries.lookup e.1 = some e.2 :=
    List.lookup_eq_some_iff.2 ⟨before, after, hsplit, hbefore⟩
  rw [series, OrderedMap.get?, hlookup]
  rfl

section

variable (hseries : ∀ name, r.series name = Series.of (own name))

include hseries

/-- The reports of all names are made of summaries, one for each name in their order. -/
lemma returns_reports (h : ∀ name, Sample.InRange (own name)) :
    ∃ ss : List (String × Summary), r.summaries = .ok ss ∧
      r.tree = .ok (.object (ss.map fun s => (s.1, s.2.filed (own s.1)))) ∧
      List.Forall₂ (fun name s => s.1 = name ∧ s.2.Tells name (own name)) r.keys ss := by
  have hentry (e : String × Series) (he : e ∈ r.entries) : e.2 = Series.of (own e.1) := by
    rw [← hseries, series_of_mem he]
  have hsummaries : Returns (List.Forall₂ (fun e (s : String × Summary) => s.1 = e.1 ∧
      e.2.summary e.1 = .ok s.2 ∧ e.2.tree e.1 = .ok (s.2.filed (own e.1)) ∧
      s.2.Tells e.1 (own e.1)) r.entries) r.summaries := by
    refine Returns.mapM fun e he => ?_
    obtain ⟨s, hs, htells⟩ := Series.returns_summary e.1 (h e.1)
    have htree := Series.tree_of_summary hs
    rw [← hentry e he] at hs htree
    rw [hs]
    exact ⟨_, rfl, rfl, rfl, htree, htells⟩
  obtain ⟨ss, hss, hall⟩ := hsummaries
  refine ⟨ss, hss, ?_, ?_⟩
  · have htrees : r.entries.mapM (fun e => do return (e.1, ← e.2.tree e.1)) =
        .ok (ss.map fun s => (s.1, s.2.filed (own s.1))) := by
      refine mapM_eq_ok (List.forall₂_map_right_iff.2 (hall.imp ?_))
      rintro e s ⟨hname, -, htree, -⟩
      rw [htree, hname]
      rfl
    rw [tree, htrees]
    rfl
  · refine List.forall₂_map_left_iff.2 (hall.imp ?_)
    rintro e s ⟨hname, -, -, htells⟩
    exact ⟨hname, htells⟩

/-- There are no reports of all names if one of them has no summary. -/
lemma reports_eq_error {name : String} (h : ¬Sample.InRange (own name)) :
    r.summaries = .error {} ∧ r.tree = .error {} := by
  obtain ⟨s, hs⟩ : ∃ s, (name, s) ∈ r.entries := by
    by_contra hn
    have hnone : r.get? name = none := by
      rw [OrderedMap.get?, List.lookup_eq_none_iff]
      rintro ⟨k, s⟩ hk
      refine bne_iff_ne.2 ?_
      rintro rfl
      exact hn ⟨s, hk⟩
    have hempty : Series.of (own name) = .empty := by
      rw [← hseries, series, hnone]
      rfl
    have hlatencies := congrArg Series.latencies hempty
    rw [Series.of_latencies] at hlatencies
    exact h (.inl (List.map_eq_nil_iff.1 hlatencies))
  have hsummary : s.summary name = .error {} := by
    have he := Series.summary_eq_error name h
    rwa [← hseries, series_of_mem hs] at he
  have hfails {α : Type} {f : String × Series → Except Number.TooLarge α}
      (hf : f (name, s) = .error {}) : r.entries.mapM f = .error {} := by
    cases hm : r.entries.mapM f with
    | error e => rfl
    | ok ys =>
      obtain ⟨y, hy, -⟩ := Returns.of_mapM (P := fun _ => True) ⟨ys, hm, trivial⟩ _ hs
      cases hf.symm.trans hy
  refine ⟨hfails (by rw [hsummary]; rfl), ?_⟩
  have htree : s.tree name = .error {} := by
    rw [Series.tree, hsummary]
    rfl
  rw [tree, hfails (by rw [htree]; rfl)]
  rfl

end

/-! ## Runs -/

/-- What metrics hold after steps: under each name what was recorded under it, and every name that
was used. -/
structure Holds (r : Registry) (steps : List Step) : Prop where
  keys : r.keys = (names steps).eraseDups
  latencies : ∀ name, (r.series name).latencies = (samples steps name).map (·.latency)
  errors : ∀ name, (r.series name).errors = (samples steps name).filterMap Sample.complaint?
  statuses : ∀ name status, (r.series name).statuses.get? status =
    if 0 < Sample.count (samples steps name) status
    then some (Sample.count (samples steps name) status) else none
  total : ∀ name,
    ((r.series name).statuses.entries.map (·.2)).sum = (r.series name).latencies.length
  operations : (r.entries.map fun e => e.2.latencies.length).sum = steps.countP Step.isRecord

/-- There are statistics of the latencies that steps record under a name. -/
def Measurable (steps : List Step) (name : String) : Prop :=
  Statistics.Manageable ((samples steps name).map (·.latency))

/-- What is reported after steps. -/
structure Reports (st : Registry × Directory) (steps : List Step) : Prop where
  one : ∀ name, Measurable steps name → ∃ s : Summary, s.Tells name (samples steps name) ∧
    ((Step.summary name).perform st).1 = .ok (.summary s) ∧
    ((Step.print name).perform st).1 = .ok (.lines s.report)
  all : (∀ name, Measurable steps name) → ∃ ss : List (String × Summary),
    List.Forall₂ (fun name s => s.1 = name ∧ s.2.Tells name (samples steps name)) st.1.keys ss ∧
    (Step.summaries.perform st).1 = .ok (.summaries ss) ∧
    (Step.printAll.perform st).1 = .ok (.lines (["", rule 70, "OPERATION LATENCIES", rule 70] ++
      ss.flatMap (·.2.report) ++ [rule 70, ""])) ∧
    ∀ path, (Step.save path).perform st =
      match st.2.write path
        (JsonTree.object (ss.map fun s => (s.1, s.2.filed (samples steps s.1)))).fileText with
      | .error e => (.error (.file e), st)
      | .ok d => (.ok (.lines [savedLine path]), st.1, d)
  none : ∀ name, ¬Measurable steps name →
    ((Step.summary name).perform st).1 = .error (.latency {}) ∧
    ((Step.print name).perform st).1 = .error (.latency {}) ∧
    Step.summaries.perform st = (.error (.latency {}), st) ∧
    Step.printAll.perform st = (.error (.latency {}), st) ∧
    ∀ path, (Step.save path).perform st = (.error (.latency {}), st)

lemma run_holds (steps : List Step) (d : Directory) : Holds (run steps (.empty, d)).1 steps where
  keys := run_keys steps d
  latencies name := by rw [run_series, Series.of_latencies]
  errors name := by rw [run_series, Series.of_errors]
  statuses name status := by rw [run_series, Series.of_statuses]
  total name := by rw [run_series, Series.of_total]
  operations := run_operations steps d

lemma convertible_samples {steps : List Step}
    (hconv : ∀ name e, Step.record name e ∈ steps → e.latency.Convertible) (name : String) :
    ∀ e ∈ samples steps name, e.latency.Convertible := by
  intro e he
  obtain ⟨step, hstep, hsample⟩ := List.mem_filterMap.1 he
  cases step with
  | record name' e' =>
    rw [Step.sample?] at hsample
    split at hsample
    · cases hsample
      exact hconv name' e hstep
    · cases hsample
  | _ => cases hsample

lemma run_reports (steps : List Step) (d : Directory)
    (hconv : ∀ name e, Step.record name e ∈ steps → e.latency.Convertible) :
    Reports (run steps (.empty, d)) steps := by
  have hseries := run_series steps d
  have hrange (name : String) : Sample.InRange (samples steps name) ↔ Measurable steps name :=
    Sample.inRange_iff (convertible_samples hconv name)
  generalize run steps (.empty, d) = st at hseries ⊢
  obtain ⟨r, d⟩ := st
  refine ⟨fun name h => ?_, fun h => ?_, fun name h => ?_⟩
  · obtain ⟨s, hs, htells⟩ := Series.returns_summary name ((hrange name).2 h)
    rw [← hseries] at hs
    refine ⟨s, htells, ?_, ?_⟩ <;> simp only [Step.perform, hs] <;> rfl
  · obtain ⟨ss, hss, htree, hall⟩ := returns_reports hseries fun name => (hrange name).2 (h name)
    refine ⟨ss, hall, ?_, ?_, fun path => ?_⟩
    · simp only [Step.perform, hss]
      rfl
    · simp only [Step.perform, report, hss]
      rfl
    · simp only [Step.perform, fileText, htree]
      rfl
  · have hs := Series.summary_eq_error name (mt (hrange name).1 h)
    obtain ⟨hss, htree⟩ := reports_eq_error hseries (mt (hrange name).1 h)
    rw [← hseries] at hs
    refine ⟨?_, ?_, ?_, ?_, fun path => ?_⟩
    · simp only [Step.perform, hs]
      rfl
    · simp only [Step.perform, hs]
      rfl
    · simp only [Step.perform, hss]
      rfl
    · simp only [Step.perform, report, hss]
      rfl
    · simp only [Step.perform, fileText, htree]
      rfl

/-- The series under a name is that of the run in which nothing else happens. -/
lemma run_alone (steps : List Step) (d d' : Directory) (name : String) :
    (run ((samples steps name).map (Step.record name)) (.empty, d')).1.series name =
      (run steps (.empty, d)).1.series name := by
  have hown (es : List Sample) : samples (es.map (Step.record name)) name = es := by
    induction es with
    | nil => rfl
    | cons e es ih =>
      rw [List.map_cons, samples, List.filterMap_cons_some (b := e) (by simp [Step.sample?]),
        ← samples, ih]
  rw [run_series, run_series, hown]

/-- Metrics lose nothing and mix nothing up. After any steps they hold what was recorded, under each
name what was recorded under it, and reports tell just that, as they would had nothing else been
recorded; a step that does not record changes no series, and one that uses no name nothing at all.
Where exact arithmetic on the latencies of a name leaves the range of floats, its summary and all
reports of which it is a part fail, and change nothing. -/
theorem run_exact (steps : List Step) (d : Directory)
    (hconv : ∀ name e, Step.record name e ∈ steps → e.latency.Convertible) :
    Holds (run steps (.empty, d)).1 steps ∧ Reports (run steps (.empty, d)) steps ∧
      (∀ name d', ((Step.summary name).perform (run steps (.empty, d))).1 =
        ((Step.summary name).perform
          (run ((samples steps name).map (Step.record name)) (.empty, d'))).1) ∧
      (∀ step : Step, step.isRecord = false → ∀ name,
        (step.perform (run steps (.empty, d))).2.1.series name =
          (run steps (.empty, d)).1.series name) ∧
      (∀ step : Step, step.name? = none →
        (step.perform (run steps (.empty, d))).2.1 = (run steps (.empty, d)).1) := by
  refine ⟨run_holds steps d, run_reports steps d hconv, fun name d' => ?_, fun step h name => ?_,
    fun step h => ?_⟩
  · have halone := run_alone steps d d' name
    generalize run steps (.empty, d) = st at halone ⊢
    generalize run ((samples steps name).map (Step.record name)) (.empty, d') = st' at halone ⊢
    simp only [Step.perform, halone]
  · rw [Step.perform_registry, series_effect]
    cases step with
    | record => cases h
    | _ => rfl
  · rw [Step.perform_registry]
    cases step with
    | summaries => rfl
    | printAll => rfl
    | save path => rfl
    | _ => cases h

/-- Two reads with a report of scans between them. -/
theorem run_exact_interleaved :
    let steps : List Step := [.record "read" ⟨.whole 3, "OK", none⟩, .print "scan",
      .record "read" ⟨.whole 5, "ERROR", some "x"⟩, .summaries]
    (run steps (.empty, .empty)).1.keys = ["read", "scan"] ∧
      ∃ s m, ((Step.summary "read").perform (run steps (.empty, .empty))).1 = .ok (.summary s) ∧
        s.operations = 2 ∧ s.measured = some m ∧ m.errors = 1 := by
  intro steps
  have hconv : ∀ name e, Step.record name e ∈ steps → e.latency.Convertible := by
    intro name e he
    simp only [steps, List.mem_cons, List.not_mem_nil, Step.record.injEq, reduceCtorEq, or_false,
      false_or] at he
    rcases he with ⟨-, rfl⟩ | ⟨-, rfl⟩
    · exact Number.convertible_whole_iff.2 (by decide +kernel)
    · exact Number.convertible_whole_iff.2 (by decide +kernel)
  obtain ⟨hholds, hreports, -⟩ := run_exact steps .empty hconv
  have hread : samples steps "read" = [⟨.whole 3, "OK", none⟩, ⟨.whole 5, "ERROR", some "x"⟩] := rfl
  have hwords : Measurable steps "read" := by
    rw [Measurable, hread]
    refine .inl fun l hl => ?_
    simp only [List.map_cons, List.map_nil, List.mem_cons, List.not_mem_nil, or_false] at hl
    rcases hl with rfl | rfl <;> exact fun h => absurd h.1 (by decide +kernel)
  obtain ⟨s, htells, hs, -⟩ := hreports.one "read" hwords
  rw [hread] at htells
  obtain ⟨m, hm, herrors, -⟩ := htells.measured nofun
  exact ⟨hholds.keys, s, m, hs, htells.operations, hm, herrors⟩

/-- Two whole numbers that can be converted, and the sum of which cannot: there is no summary. -/
theorem run_exact_overflow :
    let steps : List Step := [.record "op" ⟨.whole (9 * 10 ^ 307), "OK", none⟩,
      .record "op" ⟨.whole (9 * 10 ^ 307), "OK", none⟩]
    (∀ name e, Step.record name e ∈ steps → e.latency.Convertible) ∧
      ((Step.summary "op").perform (run steps (.empty, .empty))).1 = .error (.latency {}) := by
  intro steps
  have hconv : ∀ name e, Step.record name e ∈ steps → e.latency.Convertible := by
    intro name e he
    simp only [steps, List.mem_cons, List.not_mem_nil, Step.record.injEq, or_false, or_self] at he
    rcases he with ⟨-, rfl⟩
    exact Number.convertible_whole_iff.2 (by decide +kernel)
  refine ⟨hconv, ((run_reports steps .empty hconv).none "op" ?_).1⟩
  have hop : (samples steps "op").map (·.latency) =
      [.whole (9 * 10 ^ 307), .whole (9 * 10 ^ 307)] := rfl
  rw [Measurable, hop]
  rintro (hwords | hrepresentable)
  · refine hwords _ List.mem_cons_self ⟨?_, ?_⟩ <;> decide +kernel
  · have hsum := hrepresentable.total.of_ok
      (a := .whole (9 * 10 ^ 307 + 9 * 10 ^ 307)) rfl
    rw [Number.convertible_whole_iff] at hsum
    revert hsum
    decide +kernel

end Registry

end CrudBench
