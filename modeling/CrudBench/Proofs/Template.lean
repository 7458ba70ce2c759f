import CrudBench.Preflight
import CrudBench.Proofs.Settings.Overlay
import CrudBench.Proofs.Smoke.Latency
import CrudBench.Proofs.Store.Conclusion
import CrudBench.Template

/-!
# What the check of a template promises

A template in which nothing is found wrong can be used if, besides, its hosts name one and its port
and its timeout are numbers; nothing looks at these (`Template.usable`). The hosts, the durability
and the read mode of its settings are the ones that are written there, and the smoke check on a
connected backend over a store of records ends with a report in any case.
-/

namespace CrudBench

/-! ## Smoke checks that end -/

/-- Whatever a connected session over a store of records is asked for in plain form, there is an
outcome, and it is such a session still. -/
lemma PlainRequest.keeps_connected (st : Settings) (r : PlainRequest) :
    Action.Keeps (fun s : Session StoreClient Store =>
        (s.connected = true ∧ s.settings = some st) ∧ s.far.databases.Recorded)
      (fun _ => True) (fun _ => False) r.request.perform := by
  have hstable : Session.Stable (fun s : Session StoreClient Store =>
      s.connected = true ∧ s.settings = some st) (fun _ => True) :=
    .of_linked (fun h => h) (fun _ h => h) fun _ h => h
  rintro s ⟨hs, hr⟩
  obtain ⟨o, t, ht, hrecorded⟩ :
      ∃ o t, r.request.perform s = .ok o t ∧ t.far.databases.Recorded := by
    rcases r.perform_ends (fun _ => by rw [hs.2]; rfl) hr with
      ⟨o, t, ht, hsame, -⟩ | ⟨st', -, latency, t, ht, -, hrecorded, -⟩
    · exact ⟨o, t, ht, hsame ▸ hr⟩
    · exact ⟨_, t, ht, hrecorded⟩
  rw [ht]
  exact ⟨⟨((hstable.keeps_perform r.request).of_ok hs ht).1, hrecorded⟩, trivial⟩

namespace Bench

/-- A smoke check of some records on a connected backend over a store of records ends with a report.
-/
lemma carryOut_ends {b : Bench StoreClient Store} {st : Settings} (hc : b.connected = true)
    (hs : b.settings = some st) (hr : b.far.databases.Recorded) (T : String) {n : Int}
    (hn : 1 ≤ n) (fields : Count) (keyPrefix : String) :
    ∃ failures b', carryOut (.str T) ⟨.int n, fields, keyPrefix⟩ b = .ok failures b' := by
  have hprobe (x : Trial) : Action.Keeps (fun b : Bench StoreClient Store =>
        (b.connected = true ∧ b.settings = some st) ∧ b.far.databases.Recorded)
      (fun _ => True) (fun _ => False) (probe T ⟨.int n, fields, keyPrefix⟩ x) := by
    intro b hb
    have hx : x.request T ⟨.int n, fields, keyPrefix⟩ =
        (x.plain T ⟨.int n, fields, keyPrefix⟩).request := by
      obtain ⟨aim, key⟩ := x
      cases aim <;> rfl
    have hk :=
      PlainRequest.keeps_connected st (x.plain T ⟨.int n, fields, keyPrefix⟩) b.toSession hb
    rw [probe_apply, hx]
    cases hp : (x.plain T ⟨.int n, fields, keyPrefix⟩).request.perform b.toSession with
    | ok o s =>
      rw [hp] at hk
      exact hk
    | error e s =>
      rw [hp] at hk
      exact hk.2.elim
  have hk := keeps_gather hprobe (SmokePlan.trials ⟨.int n, fields, keyPrefix⟩)
  rw [← carryOut_eq T ⟨.int n, fields, keyPrefix⟩ hn] at hk
  cases hx : carryOut (.str T) ⟨.int n, fields, keyPrefix⟩ b with
  | ok failures b' => exact ⟨failures, b', rfl⟩
  | error e b' => exact (hk.of_error ⟨⟨hc, hs⟩, hr⟩ hx).2.elim

end Bench

namespace Template

variable {t : Template} {k : Setting}

/-- Where the settings of a template are looked up: in its connection properties only. -/
def sources (t : Template) : Sources := ⟨.ofList t.connection.entries, none⟩

/-- The template has qualified properties, texts and integers for the connection, and integers for
the numbers of records and fields. -/
structure Formed (t : Template) : Prop where
  names : ∀ e ∈ t.connection.entries, "rethinkdb.".toList <+: e.1.toList
  values : ∀ e ∈ t.connection.entries, e.2.kind ∈ [ValueKind.str, .int]
  counts : ∀ e ∈ t.smoke.entries, e.1 ∈ ["num_records", "field_count"] → e.2.kind = .int

/-- The smoke-check properties that are in force: those of the template, over those that hold
otherwise. -/
def smokeConfig (t : Template) : SortedMap Value := standardSmoke.overlay (.ofList t.smoke.entries)

/-- What is written for the setting can be read. -/
def Readable (t : Template) (k : Setting) : Prop :=
  ∀ v, t.connection.get? k.qualified = some v →
    Text.trim v.text = "" ∨ k.Accepts (Text.trim v.text)

lemma prefix_qualified (k : Setting) : "rethinkdb.".toList <+: k.qualified.toList := by
  rw [Setting.qualified, String.toList_append]
  exact List.prefix_append _ _

lemma formed_standard : standard.Formed := by
  refine ⟨fun e he => ?_, by decide +kernel, by decide +kernel⟩
  have hqualified : ∀ e ∈ standard.connection.entries, e.1 ∈ Setting.all.map Setting.qualified := by
    decide +kernel
  obtain ⟨k, -, hk⟩ := List.mem_map.1 (hqualified e he)
  exact hk ▸ prefix_qualified k

/-- A text can be written for any setting. -/
lemma Formed.insert (h : t.Formed) (k : Setting) (text : String) :
    Formed { t with connection := t.connection.insert k.qualified (.str text) } where
  names e he := by
    rcases OrderedMap.eq_or_mem_of_mem_insert he with rfl | he
    · exact prefix_qualified k
    · exact h.names e he
  values e he := by
    rcases OrderedMap.eq_or_mem_of_mem_insert he with rfl | he
    · exact List.mem_cons_self
    · exact h.values e he
  counts := h.counts

lemma get?_sources (t : Template) (name : String) :
    t.sources.properties.get? name = t.connection.get? name := by
  rw [sources, SortedMap.get?_ofList, SortedMap.lookup_reverse t.connection.distinct]
  rfl

section

variable (h : t.Formed)

include h

lemma Formed.get?_property (k : Setting) : t.connection.get? k.property = none := by
  refine List.lookup_eq_none_iff.2 fun e he => ?_
  have hname := h.names e he
  have hne : k.property ≠ e.1 := by
    rintro heq
    rw [← heq] at hname
    revert hname
    cases k <;> decide +kernel
  simpa using hne

/-- What is written is not null. -/
lemma Formed.given? {name : String} {v : Value} (hv : t.connection.get? name = some v) :
    v.given? = some v.text := by
  have hkind := h.values _ (OrderedMap.mem_of_get? hv)
  cases v with
  | null => cases hkind with | tail _ h => cases h with | tail _ h => cases h
  | _ => rfl

/-- The numbers of records and fields are integers. -/
lemma Formed.exists_count {name : String} {v : Value}
    (hname : name ∈ ["num_records", "field_count"])
    (hv : t.smoke.get? name = some v) : ∃ n, v = .int n := by
  have hkind := h.counts _ (OrderedMap.mem_of_get? hv) hname
  cases v with
  | int n => exact ⟨n, rfl⟩
  | _ => cases hkind

/-- In effect is what is written, unless that is blank. -/
lemma Formed.inEffect?_eq (k : Setting) :
    t.sources.inEffect? k =
      (t.connection.get? k.qualified >>= fun v => Sources.nonblank? v.text).or k.fallback? := by
  have htexts : t.sources.texts k = ((t.connection.get? k.qualified).map Value.text).toList := by
    rw [Sources.texts, get?_sources, get?_sources, h.get?_property]
    cases hv : t.connection.get? k.qualified with
    | none => rfl
    | some v => simp [sources, h.given? hv]
  rw [Sources.inEffect?, htexts, Sources.find?_trim]
  cases t.connection.get? k.qualified <;> rfl

/-- Where what is written is not blank, it is in effect. -/
lemma Formed.inEffect?_of_some {v : Value} (hv : t.connection.get? k.qualified = some v)
    (hne : Text.trim v.text ≠ "") : t.sources.inEffect? k = some (Text.trim v.text) := by
  simp [h.inEffect?_eq, hv, Sources.nonblank?, hne]

/-- What is in effect can be read if what is written can. -/
lemma Formed.exists_read_iff :
    (∃ a, k.read (t.sources.inEffect? k) = some a) ↔ t.Readable k := by
  have hfallback := Sources.exists_read_fallback k
  rw [Readable, h.inEffect?_eq]
  cases hv : t.connection.get? k.qualified with
  | none => exact iff_of_true hfallback nofun
  | some v =>
    by_cases hne : Text.trim v.text = ""
    · refine iff_of_true ?_ fun w hw => .inl (by cases hw; exact hne)
      simpa [Sources.nonblank?, hne] using hfallback
    · simp [Sources.nonblank?, hne, ← Sources.isSome_read_some, Option.isSome_iff_exists]

end

/-! ## What is checked -/

/-- Nothing is wrong if none of the four checks finds anything. -/
lemma checks_of_issues (hv : t.issues = .ok []) :
    t.hasHost = true ∧ t.hasDurability = true ∧ t.hasReadMode = true ∧
      t.lacksRecords = .ok false := by
  rw [issues] at hv
  cases hr : t.lacksRecords with
  | error e =>
    rw [hr] at hv
    cases hv
  | ok lacks =>
    rw [hr] at hv
    have hnil := Except.ok.inj hv
    simpa using hnil

lemma qualified_eq : Setting.host.qualified = "rethinkdb.host" ∧
    Setting.durability.qualified = "rethinkdb.durability" ∧
    Setting.readMode.qualified = "rethinkdb.read_consistency" := by decide +kernel

lemma exists_host (h : t.hasHost = true) :
    ∃ v, t.connection.get? Setting.host.qualified = some v ∧ Text.trim v.text ≠ "" := by
  rw [qualified_eq.1]
  rw [hasHost, Bool.not_eq_true', ← Bool.not_eq_true, Text.isBlank_iff] at h
  cases hv : t.connection.get? "rethinkdb.host" with
  | none =>
    rw [hv] at h
    exact absurd (by decide) h
  | some v =>
    rw [hv] at h
    exact ⟨v, rfl, h⟩

lemma exists_durability (h : t.hasDurability = true) :
    ∃ d : Durability, t.connection.get? Setting.durability.qualified = some (.str d.name) := by
  rw [qualified_eq.2.1]
  rw [hasDurability] at h
  split at h
  next s hs =>
    obtain ⟨d, hd⟩ := Option.isSome_iff_exists.1 h
    have hname : d.name = s := by simpa using List.find?_some hd
    exact ⟨d, hname ▸ hs⟩
  · cases h

lemma Formed.exists_readMode (hf : t.Formed) (h : t.hasReadMode = true) :
    ∃ m : Option ReadMode, t.connection.get? Setting.readMode.qualified =
      m.map fun m => .str m.name := by
  rw [qualified_eq.2.2]
  rw [hasReadMode] at h
  split at h
  next hnone => exact ⟨none, hnone⟩
  next hnull => cases hf.given? hnull
  next s hs =>
    obtain ⟨m, hm⟩ := Option.isSome_iff_exists.1 h
    have hname : m.name = s := by simpa using List.find?_some hm
    exact ⟨some m, hs.trans (by rw [Option.map_some, hname])⟩
  · cases h

lemma Formed.exists_records (hf : t.Formed) (h : t.lacksRecords = .ok false) :
    ∃ n : Int, t.smoke.get? "num_records" = some (.int n) ∧ 1 ≤ n := by
  rw [lacksRecords] at h
  split at h
  · cases h
  next v hv =>
    obtain ⟨n, rfl⟩ := hf.exists_count (by simp) hv
    refine ⟨n, hv, ?_⟩
    by_contra hn
    have hless : (Number.whole n).less (.whole 1) = true := by
      have hcompare : compare n 1 = .lt := Int.compare_eq_lt.2 (by omega)
      simp [Number.less, Number.compare?, hcompare]
    simp [Value.belowOne, Value.number?, hless, Except.mapError] at h

/-! ## What is written is what is read -/

/-- The settings are the ones that are written in the template: the hosts, once they are separated
and trimmed, the durability, and the read mode, if there is one. -/
structure Gives (t : Template) (st : Settings) : Prop where
  hosts : ∃ v, t.connection.get? Setting.host.qualified = some v ∧
    st.hosts.names = HostList.namesIn (Text.trim v.text)
  durability : t.connection.get? Setting.durability.qualified = some (.str st.durability.name)
  readMode : t.connection.get? Setting.readMode.qualified =
    st.readMode.map fun m => .str m.name

lemma read_durability (d : Durability) :
    Text.trim d.name ≠ "" ∧ Setting.durability.read (some (Text.trim d.name)) = some d := by
  cases d <;> decide +kernel

lemma read_readMode (m : ReadMode) :
    Text.trim m.name ≠ "" ∧ Setting.readMode.read (some (Text.trim m.name)) = some (some m) := by
  cases m <;> decide +kernel

section

variable (hf : t.Formed) (hv : t.issues = .ok [])

include hf hv

/-- Of a template in which nothing is wrong, all can be read but, perhaps, hosts, port and timeout.
-/
lemma Formed.readable (hk : k ∉ [.host, .port, .timeout]) : t.Readable k := by
  obtain ⟨-, hdurability, hmode, -⟩ := checks_of_issues hv
  rw [← hf.exists_read_iff]
  cases k with
  | host | port | timeout => simp at hk
  | table | database => exact (hf.exists_read_iff).2 fun _ _ => .inr trivial
  | durability =>
    obtain ⟨d, hd⟩ := exists_durability hdurability
    obtain ⟨hne, hread⟩ := read_durability d
    exact ⟨d, by rw [hf.inEffect?_of_some hd hne]; exact hread⟩
  | readMode =>
    obtain ⟨m, hm⟩ := hf.exists_readMode hmode
    cases m with
    | none => exact ⟨none, by rw [hf.inEffect?_eq, hm]; rfl⟩
    | some m =>
      obtain ⟨hne, hread⟩ := read_readMode m
      exact ⟨some m, by rw [hf.inEffect?_of_some hm hne]; exact hread⟩

/-- Settings that are resolved are the ones that are written. -/
lemma Formed.gives {st : Settings} (h : t.sources.resolve = .ok st) : t.Gives st := by
  obtain ⟨hhost, hdurability, hmode, -⟩ := checks_of_issues hv
  have hread := Sources.resolve_ok_iff.1 h
  constructor
  · obtain ⟨v, hv, hne⟩ := exists_host hhost
    have hparse := hread .host
    rw [hf.inEffect?_of_some hv hne, Setting.read_host] at hparse
    exact ⟨v, hv, HostList.names_of_parse? hparse⟩
  · obtain ⟨d, hd⟩ := exists_durability hdurability
    obtain ⟨hne, hd'⟩ := read_durability d
    have hst := hread .durability
    rw [hf.inEffect?_of_some hd hne] at hst
    have hsame : d = st.durability := Option.some.inj (hd'.symm.trans hst)
    rw [hd, hsame]
  · obtain ⟨m, hm⟩ := hf.exists_readMode hmode
    have hst := hread .readMode
    cases m with
    | none =>
      rw [hf.inEffect?_eq, hm] at hst
      have hnone : none = st.readMode := Option.some.inj hst
      rw [hm, ← hnone]
    | some m =>
      obtain ⟨hne, hm'⟩ := read_readMode m
      rw [hf.inEffect?_of_some hm hne] at hst
      have hsome : some m = st.readMode := Option.some.inj (hm'.symm.trans hst)
      rw [hm, ← hsome]

/-- The plan of the smoke check has the numbers that are written, of which the first is at least
one. -/
lemma Formed.planOf_eq : ∃ (n fields : Int) (keyPrefix : String), 1 ≤ n ∧
    Bench.planOf (Bench.smokeValue t.smokeConfig "num_records") t.smokeConfig =
      .ok ⟨.int n, .int fields, keyPrefix⟩ := by
  obtain ⟨n, hn, hpos⟩ := hf.exists_records (checks_of_issues hv).2.2.2
  have hvalue (name : String) : Bench.smokeValue t.smokeConfig name =
      ((t.smoke.get? name).or (standardSmoke.get? name)).getD .null := by
    rw [Bench.smokeValue, smokeConfig, SortedMap.get?_overlay, SortedMap.get?_ofList,
      SortedMap.lookup_reverse t.smoke.distinct]
    rfl
  obtain ⟨fields, hfields⟩ : ∃ fields : Int,
      Bench.smokeValue t.smokeConfig "field_count" = .int fields := by
    rw [hvalue]
    cases hg : t.smoke.get? "field_count" with
    | none => exact ⟨10, rfl⟩
    | some v =>
      obtain ⟨fields, rfl⟩ := hf.exists_count (by simp) hg
      exact ⟨fields, rfl⟩
  refine ⟨n, fields, (Bench.smokeValue t.smokeConfig "key_prefix").text, hpos, ?_⟩
  rw [hvalue "num_records", hn, Bench.planOf, hfields]
  rfl

end

end Template

end CrudBench
