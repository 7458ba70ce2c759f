import CrudBench.Proofs.Json.Reader
import CrudBench.Proofs.Metrics.Reports

/-!
# The saved metrics, read back

The tree that is saved for a summary is a picture of the summary (`Summary.depicts`): every text in
it stands for itself, every count and every whole latency for a whole number, and every float for
its text. So the saved file has ASCII characters only, and reading it gives back what was recorded,
name by name in the order of first use (`Registry.save_read?`). If there are no statistics under
some name, nothing is saved.
-/

namespace CrudBench

/-! ## Pictures of lists and objects -/

namespace JsonTree

/-- Trees one by one are pictures of the items of a list. -/
lemma Depicts.items {ts : List JsonTree} {vs : List Json} (h : List.Forall₂ Depicts ts vs) :
    Depicts (JsonTree.list ts) (.list vs) := by
  have hpairs : ∃ ps : List (JsonTree × Json), (∀ p ∈ ps, p.1.Depicts p.2) ∧
      ts = ps.map (·.1) ∧ vs = ps.map (·.2) := by
    induction h with
    | nil => exact ⟨[], nofun, rfl, rfl⟩
    | @cons t v ts vs ht _ ih =>
      obtain ⟨ps, hps, rfl, rfl⟩ := ih
      exact ⟨(t, v) :: ps, List.forall_mem_cons.2 ⟨ht, hps⟩, rfl, rfl⟩
  obtain ⟨ps, hps, rfl, rfl⟩ := hpairs
  exact .list ps hps

/-- The two members have one name, and the tree is a picture of the value. -/
def DepictsMember (m : String × JsonTree) (v : String × Json) : Prop := m.1 = v.1 ∧ m.2.Depicts v.2

/-- Trees one by one are pictures of the members of an object. -/
lemma Depicts.members {ms : List (String × JsonTree)} {vs : List (String × Json)}
    (h : List.Forall₂ DepictsMember ms vs) (hn : (ms.map (·.1)).Nodup) :
    Depicts (JsonTree.object ms) (.object vs) := by
  have htriples : ∃ ts : List (String × JsonTree × Json), (∀ t ∈ ts, t.2.1.Depicts t.2.2) ∧
      ms = ts.map (fun t => (t.1, t.2.1)) ∧ vs = ts.map (fun t => (t.1, t.2.2)) := by
    clear hn
    induction h with
    | nil => exact ⟨[], nofun, rfl, rfl⟩
    | @cons m v ms vs hm _ ih =>
      obtain ⟨ts, hts, rfl, rfl⟩ := ih
      obtain ⟨hname, hv⟩ := hm
      refine ⟨(m.1, m.2, v.2) :: ts, List.forall_mem_cons.2 ⟨hv, hts⟩, rfl, ?_⟩
      rw [List.map_cons, hname]
  obtain ⟨ts, hts, rfl, rfl⟩ := htriples
  rw [List.map_map] at hn
  exact .object ts hn hts

lemma Depicts.ofNat (n : Nat) : Depicts (.ofNat n) (.int n) := .number (Json.word?_decimal n)

end JsonTree

/-! ## What is saved of a summary -/

/-- A float, as its text. -/
def Json.ofFloat (x : Float) : Json := .float (Decimal.fileStyle.write x)

lemma JsonTree.Depicts.ofFloat (x : Float) : Depicts (.ofFloat x) (.ofFloat x) :=
  .number (Json.word?_float x)

/-- A latency: a whole number, or a float as its text. -/
def Latency.json : Latency → Json
  | .whole n => .int n
  | .real x => .ofFloat x

lemma Latency.depicts (l : Latency) : (JsonTree.number l.fileText).Depicts l.json := by
  cases l with
  | whole n => exact .number (Json.word?_decimal n)
  | real x => exact JsonTree.Depicts.ofFloat x

/-- The latency figures of a summary. -/
def Statistics.json (s : Statistics) : List (String × Json) :=
  [("min", .ofFloat s.min), ("max", .ofFloat s.max), ("mean", .ofFloat s.mean),
    ("p50", .ofFloat s.p50), ("p95", .ofFloat s.p95), ("p99", .ofFloat s.p99)]

lemma Statistics.depicts (s : Statistics) :
    (JsonTree.object s.members).Depicts (.object s.json) := by
  have hmember (name : String) (x : Float) :
      JsonTree.DepictsMember (name, .ofFloat x) (name, .ofFloat x) := ⟨rfl, .ofFloat x⟩
  refine .members ?_ ?_
  · exact .cons (hmember ..) (.cons (hmember ..) (.cons (hmember ..) (.cons (hmember ..)
      (.cons (hmember ..) (.cons (hmember ..) .nil)))))
  · show ["min", "max", "mean", "p50", "p95", "p99"].Nodup
    decide

/-- A summary. -/
def Summary.json (s : Summary) : List (String × Json) :=
  [("name", .str s.name), ("num_operations", .int s.operations),
      ("status_counts", .object (s.statuses.entries.map fun e => (e.1, .int e.2)))] ++
    match s.measured with
    | none => [("error", .str noLatency)]
    | some m => [("num_errors", .int m.errors), ("latency_ms", .object m.latency.json)]

lemma Summary.depicts_members (s : Summary) :
    List.Forall₂ JsonTree.DepictsMember s.members s.json := by
  have hstatuses : (JsonTree.object (s.statuses.entries.map fun e => (e.1, .ofNat e.2))).Depicts
      (.object (s.statuses.entries.map fun e => (e.1, .int e.2))) := by
    refine .members ?_ ?_
    · rw [List.forall₂_map_left_iff, List.forall₂_map_right_iff, List.forall₂_same]
      exact fun e _ => ⟨rfl, .ofNat e.2⟩
    · rw [List.map_map]
      exact s.statuses.distinct
  rw [members, json]
  refine .cons ⟨rfl, .str _⟩ (.cons ⟨rfl, .ofNat _⟩ (.cons ⟨rfl, hstatuses⟩ ?_))
  cases s.measured with
  | none => exact .cons ⟨rfl, .str _⟩ .nil
  | some m => exact .cons ⟨rfl, .ofNat _⟩ (.cons ⟨rfl, m.latency.depicts⟩ .nil)

/-- A summary with what it was made of: the latencies and the error texts. -/
def Summary.record (s : Summary) (es : List Sample) : Json :=
  .object (s.json ++
    [("raw_latencies", .list (es.map fun e => e.latency.json)),
      ("errors", .list ((es.filterMap Sample.complaint?).map .str))])

/-- What is saved of a summary is a picture of it. -/
lemma Summary.depicts (s : Summary) (es : List Sample) : (s.filed es).Depicts (s.record es) := by
  have hlatencies : (JsonTree.list (es.map fun e => .number e.latency.fileText)).Depicts
      (.list (es.map fun e => e.latency.json)) := by
    refine .items ?_
    rw [List.forall₂_map_left_iff, List.forall₂_map_right_iff, List.forall₂_same]
    exact fun e _ => e.latency.depicts
  have herrors : (JsonTree.list ((es.filterMap Sample.complaint?).map .str)).Depicts
      (.list ((es.filterMap Sample.complaint?).map .str)) := by
    refine .items ?_
    rw [List.forall₂_map_left_iff, List.forall₂_map_right_iff, List.forall₂_same]
    exact fun text _ => .str text
  refine .members (List.rel_append s.depicts_members
    (.cons ⟨rfl, hlatencies⟩ (.cons ⟨rfl, herrors⟩ .nil))) ?_
  rw [members]
  cases s.measured with
  | none =>
    show ["name", "num_operations", "status_counts", "error", "raw_latencies", "errors"].Nodup
    decide
  | some m =>
    show ["name", "num_operations", "status_counts", "num_errors", "latency_ms", "raw_latencies",
      "errors"].Nodup
    decide

/-- Writing a file that is no device puts the text there and leaves all other files alone. -/
lemma Directory.write_file {d : Directory} {path file : String} (h : d.resolve path = .ok file)
    (hd : Device.ofPath? file = none) (text : String) :
    ∃ d', d.write path text = .ok d' ∧
      ∀ other, d'.get? other = if other = file then some text else d.get? other := by
  refine ⟨d.insert file text, ?_, fun other => SortedMap.get?_insert d file other text⟩
  simp only [write, h, bind, Except.bind, hd]
  rfl

namespace Registry

/-- What is saved of summaries under different names is a picture of them all. -/
lemma depicts_summaries {ss : List (String × Summary)} (own : String → List Sample)
    (hn : (ss.map (·.1)).Nodup) :
    (JsonTree.object (ss.map fun s => (s.1, s.2.filed (own s.1)))).Depicts
      (.object (ss.map fun s => (s.1, s.2.record (own s.1)))) := by
  refine .members ?_ ?_
  · rw [List.forall₂_map_left_iff, List.forall₂_map_right_iff, List.forall₂_same]
    exact fun s _ => ⟨rfl, s.2.depicts _⟩
  · rw [List.map_map]
    exact hn

/-- Where there are statistics under each name there is a text, of a tree that is a picture of the
summaries with what they were made of. -/
lemma returns_fileText {r : Registry} {own : String → List Sample}
    (hseries : ∀ name, r.series name = Series.of (own name))
    (h : ∀ name, Sample.InRange (own name)) :
    ∃ (ss : List (String × Summary)) (t : JsonTree), r.summaries = .ok ss ∧
      r.fileText = .ok t.fileText ∧
      t.Depicts (.object (ss.map fun s => (s.1, s.2.record (own s.1)))) ∧
      List.Forall₂ (fun name s => s.1 = name ∧ s.2.Tells name (own name)) r.keys ss := by
  obtain ⟨ss, hss, htree, hall⟩ := returns_reports hseries h
  have hsame : r.keys = ss.map (·.1) := by
    rw [← List.forall₂_eq_eq_eq, List.forall₂_map_right_iff]
    exact hall.imp fun name s hs => hs.1.symm
  refine ⟨ss, _, hss, ?_, depicts_summaries own ?_, hall⟩
  · rw [fileText, htree]
    rfl
  · rw [← hsame]
    exact r.distinct

/-- What was recorded comes back from the file in which it was saved. After any steps of which there
are summaries, every path that leads to a file other than a device gets one text in ASCII, and
reading that text gives one entry for each name that was used, in the order of first use: its
summary, its latencies and its error texts, as they were recorded. If there are no statistics under
some name, saving fails and changes nothing; but of floats and machine words there always are. -/
theorem save_read? (steps : List Step) (d : Directory) :
    let st := run steps (.empty, d)
    ((∀ name, Sample.InRange (samples steps name)) → ∃ ss text,
      Step.summaries.perform st = (.ok (.summaries ss), st) ∧
      List.Forall₂ (fun name s => s.1 = name ∧ s.2.Tells name (samples steps name))
        (names steps).eraseDups ss ∧
      (∀ c ∈ text.toList, c.toNat < 128) ∧
      Json.read? text = some (.object (ss.map fun s => (s.1, s.2.record (samples steps s.1)))) ∧
      ∀ path file, st.2.resolve path = .ok file → Device.ofPath? file = none → ∃ d',
        (Step.save path).perform st = (.ok (.lines [savedLine path]), st.1, d') ∧
        ∀ other, d'.get? other = if other = file then some text else st.2.get? other) ∧
    (∀ name, ¬Sample.InRange (samples steps name) → ∀ path,
      (Step.save path).perform st = (.error (.latency {}), st)) ∧
    ∀ name, (∀ e ∈ samples steps name, ¬e.latency.IsWide) →
      Sample.InRange (samples steps name) := by
  intro st
  have hseries : ∀ name, st.1.series name = Series.of (samples steps name) := run_series steps d
  have hkeys : st.1.keys = (names steps).eraseDups := run_keys steps d
  refine ⟨fun h => ?_, fun name h path => ?_, fun name => Sample.inRange_of_not_wide⟩
  · obtain ⟨ss, t, hss, htext, hdepicts, hall⟩ := returns_fileText hseries h
    refine ⟨ss, t.fileText, ?_, hkeys ▸ hall, ?_, hdepicts.read?_fileText,
      fun path file hpath hdevice => ?_⟩
    · simp only [Step.perform, hss]
      rfl
    · rw [JsonTree.fileText, String.toList_ofList]
      exact hdepicts.ascii 0
    · obtain ⟨d', hwrite, hfiles⟩ := Directory.write_file hpath hdevice t.fileText
      refine ⟨d', ?_, hfiles⟩
      simp only [Step.perform, htext, hwrite]
  · obtain ⟨-, htree⟩ := reports_eq_error hseries h
    simp only [Step.perform, fileText, htree]
    rfl

/-- Texts with all kinds of escapes, a whole number, a float, and a name without outcomes. -/
theorem save_read?_escapes :
    let name := "\"\\é😀"
    let es : List Sample := [⟨.whole (-3), "OK\n", some "\x7f"⟩, ⟨.real 2.5, "OK\n", none⟩]
    let steps : List Step := [.record name es[0], .get "scan", .record name es[1]]
    let st := run steps (.empty, .empty)
    ∃ (s s' : Summary) (text : String) (d' : Directory),
      (Step.save "m.json").perform st = (.ok (.lines ["💾 Metrics saved to: m.json"]), st.1, d') ∧
      d'.get? "m.json" = some text ∧
      Json.read? text = some (.object [(name, s.record es), ("scan", s'.record [])]) ∧
      s.operations = 2 ∧ s'.measured = none := by
  intro name es steps st
  obtain ⟨hsaved, -, hrange⟩ := save_read? steps .empty
  have hinRange : ∀ name, Sample.InRange (samples steps name) := by
    intro name'
    refine hrange name' fun e he => ?_
    obtain ⟨step, hstep, hsample⟩ := List.mem_filterMap.1 he
    simp only [steps, List.mem_cons, List.not_mem_nil, or_false] at hstep
    rcases hstep with rfl | rfl | rfl <;> simp only [Step.sample?] at hsample
    · split at hsample <;> cases hsample
      exact fun h => absurd h.1 (by decide +kernel)
    · cases hsample
    · split at hsample <;> cases hsample
      exact id
  obtain ⟨ss, text, -, hall, -, hread, hfile⟩ := hsaved hinRange
  have hnames : (names steps).eraseDups = [name, "scan"] := by decide
  have hfirst : samples steps name = es := rfl
  have hsecond : samples steps "scan" = [] := rfl
  rw [hnames] at hall
  obtain ⟨⟨n, s⟩, rest, ⟨rfl, hs⟩, hrest, rfl⟩ := List.forall₂_cons_left_iff.1 hall
  obtain ⟨⟨n', s'⟩, rest, ⟨rfl, hs'⟩, hend, rfl⟩ := List.forall₂_cons_left_iff.1 hrest
  cases List.forall₂_nil_left_iff.1 hend
  rw [hfirst] at hs
  rw [hsecond] at hs'
  obtain ⟨d', hsave, hfiles⟩ := hfile "m.json" "m.json" (by decide +kernel) (by decide)
  refine ⟨s, s', text, d', hsave, (hfiles "m.json").trans (if_pos rfl), ?_, hs.operations,
    hs'.unmeasured rfl⟩
  rw [hread, List.map_cons, List.map_cons, List.map_nil, hfirst, hsecond]

/-- Two whole numbers of which there are no statistics: nothing is saved, though the path leads to a
file. -/
theorem save_read?_overflow :
    let steps : List Step := [.record "op" ⟨.whole (9 * 10 ^ 307), "OK", none⟩,
      .record "op" ⟨.whole (9 * 10 ^ 307), "OK", none⟩]
    let st := run steps (.empty, .empty)
    st.2.resolve "m.json" = .ok "m.json" ∧ Device.ofPath? "m.json" = none ∧
      (Step.save "m.json").perform st = (.error (.latency {}), st) ∧ st.2.get? "m.json" = none := by
  intro steps st
  have htree : st.1.tree = .error {} := by
    have hnone : (Statistics.of ((samples steps "op").map (·.latency))).isOk = false := by
      decide +kernel
    have hrange : ¬Sample.InRange (samples steps "op") := by
      rintro (hempty | ⟨m, hm, -⟩)
      · cases hempty
      · rw [hm] at hnone
        cases hnone
    exact (reports_eq_error (run_series steps .empty) hrange).2
  refine ⟨by decide +kernel, by decide, ?_, rfl⟩
  simp only [Step.perform, fileText, htree]
  rfl

end Registry

end CrudBench
