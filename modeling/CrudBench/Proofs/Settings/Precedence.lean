import CrudBench.Proofs.Settings.Loading
import CrudBench.Proofs.Settings.RoundTrip

/-!
# The precedence of settings

What is in effect for a setting is the first text that its own sources have for it and that is not
blank, or else its default (`Sources.inEffect?`). Each setting is read from what is in effect for it
(`Sources.resolve_ok_iff`), and of those that cannot be read the first in the order of the checks is
reported (`Sources.resolve_error`). Nothing else has a say: neither the other settings, nor an
environment that is not consulted, nor earlier calls (`Surroundings.settings_by_precedence`).
-/

namespace CrudBench

/-- The text of a value; null counts as missing. -/
def Value.given? : Value → Option String
  | .null => none
  | v => some v.text

namespace Setting

/-- What a setting is, once it was read. -/
abbrev Kind : Setting → Type
  | host => HostList
  | port | timeout => Int
  | durability => Durability
  | readMode => Option ReadMode
  | table | database => String

/-- How a setting is read from what is in effect for it. -/
def read : (x : Setting) → Option String → Option x.Kind
  | host, raw => raw >>= HostList.parse?
  | port, raw | timeout, raw => raw >>= Text.readInt?
  | durability, raw => raw >>= fun s => Durability.ofName? (Text.lower s)
  | readMode, raw => raw.mapM fun s => ReadMode.ofName? (Text.lower s)
  | table, raw | database, raw => raw

lemma read_host (raw : String) : read host (some raw) = HostList.parse? raw := rfl

lemma read_port (raw : String) : read port (some raw) = Text.readInt? raw := rfl

lemma read_durability (raw : String) :
    read durability (some raw) = Durability.ofName? (Text.lower raw) := rfl

lemma read_timeout (raw : String) : read timeout (some raw) = Text.readInt? raw := rfl

lemma read_table (raw : String) : read table (some raw) = some raw := rfl

lemma read_database (raw : String) : read database (some raw) = some raw := rfl

/-- The texts that can be read. -/
def Accepts : Setting → String → Prop
  | host, raw => ∃ entry ∈ raw.toList.splitOn ',', Text.trimChars entry ≠ []
  | port, raw | timeout, raw => ∃ n, Text.readInt? raw = some n
  | durability, raw => Text.lower raw ∈ ["hard", "soft"]
  | readMode, raw => Text.lower raw ∈ ["single", "majority", "outdated"]
  | table, _ | database, _ => True

/-- The settings that are checked, in the order of the checks, and the complaint about each. -/
def checks : List (Setting × (String → Settings.Invalid)) :=
  [(host, .hosts), (port, .port), (durability, fun raw => .durability (Text.lower raw)),
    (readMode, fun raw => .readMode (Text.lower raw)), (timeout, .timeout)]

end Setting

/-- One of the settings. -/
def Settings.get (st : Settings) : (x : Setting) → x.Kind
  | .host => st.hosts
  | .port => st.port
  | .durability => st.durability
  | .readMode => st.readMode
  | .timeout => st.timeout
  | .table => st.table
  | .database => st.database

/-! ## What is in effect -/

namespace Sources

variable {src : Sources}

/-- The texts that the sources have for a setting: the qualified property, the bare property and the
environment variable. -/
def texts (src : Sources) (x : Setting) : List String :=
  (src.properties.get? x.qualified >>= Value.given?).toList ++
    (src.properties.get? x.property >>= Value.given?).toList ++
    (src.environment >>= (·.get? x.envName)).toList

/-- What is in effect for a setting. -/
def inEffect? (src : Sources) (x : Setting) : Option String :=
  (((src.texts x).map Text.trim).find? (· ≠ "")).or x.fallback?

/-- All that is in effect for a setting can be read. -/
def Admits (src : Sources) (x : Setting) : Prop := ∀ raw, src.inEffect? x = some raw → x.Accepts raw

lemma find?_trim (s : Option String) :
    (s.toList.map Text.trim).find? (· ≠ "") = s >>= nonblank? := by
  cases s with
  | none => rfl
  | some s => by_cases h : Text.trim s = "" <;> simp [nonblank?, h]

lemma ofProperties?_eq (src : Sources) (name : String) :
    src.ofProperties? name = (src.properties.get? name >>= Value.given?) >>= nonblank? := by
  rw [ofProperties?]
  cases src.properties.get? name with
  | none => rfl
  | some v => cases v <;> simp [Value.given?]

/-- What is looked up is the first text that is not blank. -/
lemma lookup?_eq (src : Sources) (x : Setting) :
    src.lookup? x = ((src.texts x).map Text.trim).find? (· ≠ "") := by
  rw [texts, List.map_append, List.map_append, List.find?_append, List.find?_append, find?_trim,
    find?_trim, find?_trim, Option.or_assoc, lookup?, ofProperties?_eq, ofProperties?_eq]
  rfl

lemma inEffect?_readMode : src.inEffect? .readMode = src.lookup? .readMode := by
  rw [inEffect?, ← lookup?_eq]
  exact Option.or_none

/-- Something is in effect for every setting but the read mode. -/
lemma inEffect?_eq_some {x : Setting} (h : x ≠ .readMode) :
    src.inEffect? x = some (src.effective x) := by
  obtain ⟨d, hd⟩ : ∃ d, x.fallback? = some d := by
    cases x with
    | readMode => exact absurd rfl h
    | _ => exact ⟨_, rfl⟩
  rw [inEffect?, ← lookup?_eq, effective, hd]
  cases src.lookup? x <;> rfl

/-! ## Reading what is in effect -/

lemma isSome_parse?_iff {raw : String} :
    (HostList.parse? raw).isSome = true ↔
      ∃ entry ∈ raw.toList.splitOn ',', Text.trimChars entry ≠ [] := by
  have hnames : HostList.namesIn raw ≠ [] ↔
      ∃ entry ∈ raw.toList.splitOn ',', Text.trimChars entry ≠ [] := by
    simp [HostList.namesIn, List.filter_eq_nil_iff]
  rw [← hnames, HostList.parse?]
  split <;> simp_all

/-- Exactly the texts that are accepted can be read. -/
lemma isSome_read_some {x : Setting} {raw : String} :
    (x.read (some raw)).isSome = true ↔ x.Accepts raw := by
  cases x with
  | host => exact isSome_parse?_iff
  | port => exact Option.isSome_iff_exists
  | timeout => exact Option.isSome_iff_exists
  | durability =>
    simp [Setting.read, Setting.Accepts, Durability.ofName?, Durability.all, Durability.name,
      eq_comm (b := Text.lower raw)]
  | readMode =>
    simp [Setting.read, Setting.Accepts, ReadMode.ofName?, ReadMode.all, ReadMode.name,
      eq_comm (b := Text.lower raw)]
  | table => exact ⟨fun _ => trivial, fun _ => rfl⟩
  | database => exact ⟨fun _ => trivial, fun _ => rfl⟩

/-- A setting can be read if all that is in effect for it is accepted. -/
lemma isSome_read_iff {x : Setting} : (x.read (src.inEffect? x)).isSome = true ↔ src.Admits x := by
  rw [Admits]
  cases h : src.inEffect? x with
  | some raw => simpa using isSome_read_some
  | none =>
    have hx : x = .readMode := by
      by_contra hne
      cases h.symm.trans (inEffect?_eq_some hne)
    subst hx
    simp [Setting.read]

/-- Sources give settings if each is what is read from what is in effect for it. -/
theorem resolve_ok_iff {st : Settings} :
    src.resolve = .ok st ↔ ∀ x : Setting, x.read (src.inEffect? x) = some (st.get x) := by
  rw [resolve_eq_ok]
  have hin {x : Setting} (hx : x ≠ .readMode) : src.inEffect? x = some (src.effective x) :=
    inEffect?_eq_some hx
  constructor
  · intro h x
    cases x with
    | host => rw [hin (by decide), Setting.read_host, h.hosts]; rfl
    | port => rw [hin (by decide), Setting.read_port, h.port]; rfl
    | durability => rw [hin (by decide), Setting.read_durability, h.durability]; rfl
    | readMode => rw [inEffect?_readMode]; exact h.readMode
    | timeout => rw [hin (by decide), Setting.read_timeout, h.timeout]; rfl
    | table => rw [hin (by decide), Setting.read_table, h.table]; rfl
    | database => rw [hin (by decide), Setting.read_database, h.database]; rfl
  · intro h
    refine ⟨?_, ?_, ?_, ?_, ?_, ?_, ?_⟩
    · rw [← Setting.read_host, ← hin (by decide), h]; rfl
    · rw [← Setting.read_port, ← hin (by decide), h]; rfl
    · rw [← Setting.read_durability, ← hin (by decide), h]; rfl
    · have hmode := h .readMode
      rw [inEffect?_readMode] at hmode
      exact hmode
    · rw [← Setting.read_timeout, ← hin (by decide), h]; rfl
    · exact Option.some.inj (by rw [← Setting.read_table, ← hin (by decide), h]; rfl)
    · exact Option.some.inj (by rw [← Setting.read_database, ← hin (by decide), h]; rfl)

/-- The complaint about what is in effect for a setting, if it cannot be read. -/
def refusal? (src : Sources) (check : Setting × (String → Settings.Invalid)) :
    Option Settings.Invalid :=
  if (check.1.read (src.inEffect? check.1)).isSome then none
  else (src.inEffect? check.1).map check.2

lemma refusal?_eq_none {check : Setting × (String → Settings.Invalid)} :
    src.refusal? check = none ↔ src.Admits check.1 := by
  rw [refusal?, ← isSome_read_iff]
  split
  next h => exact ⟨fun _ => h, fun _ => rfl⟩
  next h =>
    refine ⟨fun hnone => ?_, fun hs => absurd hs h⟩
    rw [Option.map_eq_none_iff] at hnone
    rw [isSome_read_iff, Admits, hnone]
    nofun

lemma refusal?_eq_some {check : Setting × (String → Settings.Invalid)} {e : Settings.Invalid} :
    src.refusal? check = some e ↔
      ∃ raw, src.inEffect? check.1 = some raw ∧ ¬ check.1.Accepts raw ∧ e = check.2 raw := by
  rw [refusal?]
  split
  next h =>
    refine ⟨nofun, ?_⟩
    rintro ⟨raw, hraw, hn, -⟩
    exact absurd (isSome_read_iff.1 h raw hraw) hn
  next h =>
    rw [Option.map_eq_some_iff]
    constructor
    · rintro ⟨raw, hraw, rfl⟩
      rw [hraw, isSome_read_some] at h
      exact ⟨raw, hraw, h, rfl⟩
    · rintro ⟨raw, hraw, -, rfl⟩
      exact ⟨raw, hraw, rfl⟩

/-- Either the sources give settings, or a check fails and the first that does is reported. -/
lemma resolve_error {e : Settings.Invalid} :
    src.resolve = .error e ↔ Setting.checks.findSome? src.refusal? = some e := by
  have hread {x : Setting} (hx : x ≠ .readMode) : src.inEffect? x = some (src.effective x) :=
    inEffect?_eq_some hx
  simp only [resolve, Setting.checks, List.findSome?_cons, refusal?, inEffect?_readMode,
    hread (x := .host) (by decide), hread (x := .port) (by decide),
    hread (x := .durability) (by decide), hread (x := .timeout) (by decide), Setting.read, chosen,
    Option.bind_eq_bind, Option.bind_some, Option.map_some]
  cases HostList.parse? (src.effective .host) with
  | none => simp [required, bind, Except.bind]
  | some hosts =>
  cases Text.readInt? (src.effective .port) with
  | none => simp [required, bind, Except.bind]
  | some port =>
  cases Durability.ofName? (Text.lower (src.effective .durability)) with
  | none => simp [required, bind, Except.bind]
  | some durability =>
  cases src.lookup? .readMode with
  | none =>
    cases Text.readInt? (src.effective .timeout) <;>
      simp [required, bind, Except.bind, pure, Except.pure]
  | some raw =>
    cases hm : ReadMode.ofName? (Text.lower raw) with
    | none => simp [required, bind, Except.bind, chosen, hm, Option.mapM_some]
    | some mode =>
      cases Text.readInt? (src.effective .timeout) <;>
        simp [required, bind, Except.bind, pure, Except.pure, chosen, hm]

/-- The outcome is what the sources ask for: settings of which each is read from what is in effect
for it, or else the complaint of the first check that fails. -/
structure Decides (src : Sources) (outcome : Except Settings.Unreadable Settings) : Prop where
  read : ∀ st, outcome = .ok st ↔ ∀ k : Setting, k.read (src.inEffect? k) = some (st.get k)
  refused : (∃ e, outcome = .error e) ↔ ∃ k, ¬src.Admits k
  first : ∀ e, outcome = .error e ↔ ∃ before check rest raw,
    Setting.checks = before ++ check :: rest ∧ (∀ c ∈ before, src.Admits c.1) ∧
      src.inEffect? check.1 = some raw ∧ ¬check.1.Accepts raw ∧ e = .invalid (check.2 raw)

end Sources

/-! ## Settings in their surroundings -/

namespace Surroundings

variable {x y : Surroundings} {properties : SortedMap Value}

/-- Something is in the way only where the environment is consulted, and then it is the first
variable that the file has to set and that cannot be set. -/
lemma seen_eq_error {e : Settings.Unreadable} :
    x.seen = .error e ↔ x.consulted = true ∧
      ∃ r, Environment.firstRefusal? (x.environment.missing x.file) = some r ∧
        e = .environment r := by
  rw [seen_eq_load, Environment.load_apply]
  cases x.consulted with
  | false =>
    refine ⟨fun h => ?_, fun h => ?_⟩
    · cases h
    · cases h.1
  | true =>
    cases Environment.firstRefusal? (x.environment.missing x.file) with
    | none =>
      refine ⟨fun h => ?_, ?_⟩
      · cases h
      · rintro ⟨-, _, h, -⟩
        cases h
    | some r =>
      refine ⟨fun h => ?_, ?_⟩
      · cases h
        exact ⟨rfl, r, rfl, rfl⟩
      · rintro ⟨-, _, h, rfl⟩
        cases h
        rfl

/-- What is seen, if the environment is consulted, is what is left of it once the file was loaded.
-/
lemma seen_eq_some {env : Environment} :
    x.seen = .ok (some env) ↔
      x.consulted = true ∧ Environment.load x.file x.environment = .ok () env := by
  rw [seen_eq_load]
  cases x.consulted with
  | false =>
    refine ⟨fun h => ?_, fun h => ?_⟩
    · cases h
    · cases h.1
  | true =>
    cases Environment.load x.file x.environment with
    | error r left =>
      refine ⟨fun h => ?_, fun h => ?_⟩
      · cases h
      · cases h.2
    | ok a left =>
      refine ⟨fun h => ?_, fun h => ?_⟩
      · cases h
        exact ⟨rfl, rfl⟩
      · cases h.2
        rfl

lemma seen_eq_none : x.seen = .ok none ↔ x.consulted = false := by
  rw [seen_eq_load]
  cases x.consulted with
  | false => exact ⟨fun _ => rfl, fun _ => rfl⟩
  | true =>
    refine ⟨fun h => ?_, fun h => ?_⟩
    · cases hload : Environment.load x.file x.environment <;> rw [hload] at h <;> cases h
    · cases h

lemma settings_of_seen {env : Option Environment} (h : x.seen = .ok env) :
    x.settings properties =
      (Sources.resolve ⟨properties, env⟩).mapError Settings.Unreadable.invalid := by
  rw [settings_eq_resolve, h]
  rfl

lemma settings_ok_iff {env : Option Environment} (h : x.seen = .ok env) {st : Settings} :
    x.settings properties = .ok st ↔
      ∀ k : Setting, k.read (Sources.inEffect? ⟨properties, env⟩ k) = some (st.get k) := by
  rw [settings_eq_ok, ← Sources.resolve_ok_iff, Sources.resolve_eq_ok]
  refine ⟨?_, fun hg => ⟨env, h, hg⟩⟩
  rintro ⟨env', h', hg⟩
  cases h.symm.trans h'
  exact hg

lemma settings_eq_error {env : Option Environment} (h : x.seen = .ok env)
    {e : Settings.Unreadable} :
    x.settings properties = .error e ↔
      ∃ i, Sources.resolve ⟨properties, env⟩ = .error i ∧ e = .invalid i := by
  rw [settings_of_seen h]
  cases Sources.resolve ⟨properties, env⟩ with
  | ok st => exact ⟨nofun, fun ⟨_, h, _⟩ => by cases h⟩
  | error i =>
    refine ⟨fun he => ?_, ?_⟩
    · cases he
      exact ⟨i, rfl, rfl⟩
    · rintro ⟨_, hi, rfl⟩
      cases hi
      rfl

/-- An error is the complaint of the first check that fails. -/
lemma settings_first {env : Option Environment} (h : x.seen = .ok env) {e : Settings.Unreadable} :
    x.settings properties = .error e ↔ ∃ before check rest raw,
      Setting.checks = before ++ check :: rest ∧
        (∀ c ∈ before, Sources.Admits ⟨properties, env⟩ c.1) ∧
        Sources.inEffect? ⟨properties, env⟩ check.1 = some raw ∧ ¬check.1.Accepts raw ∧
        e = .invalid (check.2 raw) := by
  rw [settings_eq_error h]
  constructor
  · rintro ⟨i, hi, rfl⟩
    obtain ⟨before, check, rest, hsplit, hcheck, hbefore⟩ :=
      List.findSome?_eq_some_iff.1 (Sources.resolve_error.1 hi)
    obtain ⟨raw, hraw, hn, rfl⟩ := Sources.refusal?_eq_some.1 hcheck
    exact ⟨before, check, rest, raw, hsplit,
      fun c hc => Sources.refusal?_eq_none.1 (hbefore c hc), hraw, hn, rfl⟩
  · rintro ⟨before, check, rest, raw, hsplit, hbefore, hraw, hn, rfl⟩
    refine ⟨_, Sources.resolve_error.2 (List.findSome?_eq_some_iff.2 ?_), rfl⟩
    exact ⟨before, check, rest, hsplit, Sources.refusal?_eq_some.2 ⟨raw, hraw, hn, rfl⟩,
      fun c hc => Sources.refusal?_eq_none.2 (hbefore c hc)⟩

/-- Unless something is in the way, the sources decide. -/
lemma decides {env : Option Environment} (h : x.seen = .ok env) :
    Sources.Decides ⟨properties, env⟩ (x.settings properties) where
  read _ := settings_ok_iff h
  first _ := settings_first h
  refused := by
    constructor
    · rintro ⟨e, he⟩
      obtain ⟨_, check, _, raw, -, -, hraw, hn, -⟩ := (settings_first h).1 he
      exact ⟨check.1, fun hadmits => hn (hadmits raw hraw)⟩
    · rintro ⟨k, hk⟩
      cases hs : x.settings properties with
      | error e => exact ⟨e, rfl⟩
      | ok st =>
        refine absurd (Sources.isSome_read_iff.1 ?_) hk
        rw [(settings_ok_iff h).1 hs k]
        rfl

/-- The environment that a call leaves, with these properties, which consults it or not. -/
def after (file : VariablesFile) (env : Environment) (call : SortedMap Value × Bool) :
    Environment :=
  (Settings.ofProperties file call.2 call.1).left env

/-- However many calls there were, a file that can be loaded was loaded or not. -/
lemma foldl_after {file : VariablesFile} {env env' : Environment}
    (h : Environment.load file env = .ok () env') (calls : List (SortedMap Value × Bool))
    {cur : Environment} (hcur : cur = env ∨ cur = env') :
    calls.foldl (after file) cur = env ∨ calls.foldl (after file) cur = env' := by
  induction calls generalizing cur with
  | nil => exact hcur
  | cons call calls ih =>
    refine ih ?_
    rw [after, Settings.left_ofProperties, Settings.left_consult]
    split
    · rcases hcur with rfl | rfl
      · rw [h]
        exact .inr rfl
      · rw [Environment.load_load h]
        exact .inr rfl
    · exact hcur

/-- Where nothing is in the way, earlier calls make no difference. -/
lemma settings_after {env : Option Environment} (h : x.seen = .ok env)
    (calls : List (SortedMap Value × Bool)) :
    settings { x with environment := calls.foldl (after x.file) x.environment } properties =
      x.settings properties := by
  have hseen : seen { x with environment := calls.foldl (after x.file) x.environment } =
      x.seen := by
    cases env with
    | none =>
      have hc := seen_eq_none.1 h
      rw [h]
      exact seen_eq_none.2 hc
    | some env =>
      obtain ⟨-, hload⟩ := seen_eq_some.1 h
      rcases foldl_after hload calls (.inl rfl) with he | he
      · rw [he]
      · rw [he]
        exact seen_loaded h
  rw [settings_eq_resolve, settings_eq_resolve, hseen]

/-- A setting depends on the texts that its own sources have for it, and on nothing else. -/
lemma get_eq_of_texts {properties' : SortedMap Value} {st st' : Settings}
    {env env' : Option Environment} {k : Setting} (hx : x.seen = .ok env) (hy : y.seen = .ok env')
    (h : x.settings properties = .ok st) (h' : y.settings properties' = .ok st')
    (htexts : Sources.texts ⟨properties, env⟩ k = Sources.texts ⟨properties', env'⟩ k) :
    st.get k = st'.get k := by
  have hin : Sources.inEffect? ⟨properties, env⟩ k = Sources.inEffect? ⟨properties', env'⟩ k := by
    rw [Sources.inEffect?, Sources.inEffect?, htexts]
  have hget := settings_ok_iff hx |>.1 h k
  rw [hin, settings_ok_iff hy |>.1 h' k] at hget
  exact (Option.some.inj hget).symm

/-- Settings are resolved by precedence. If the environment is consulted and its variables file
cannot be loaded, that is the outcome. Otherwise the file hides nothing that is set, the sources
decide, and they do so again after any calls. Each setting depends on its own sources only, and none
on an environment that is not consulted. -/
theorem settings_by_precedence (x : Surroundings) (properties : SortedMap Value) :
    (∀ e, x.seen = .error e → x.settings properties = .error e ∧ x.consulted = true ∧
      ∃ r, Environment.firstRefusal? (x.environment.missing x.file) = some r ∧
        e = .environment r) ∧
    (∀ env, x.seen = .ok env →
      (∀ loaded, env = some loaded → x.consulted = true ∧ ∀ name, loaded.get? name =
        (x.environment.get? name).or ((x.environment.missing x.file).lookup name)) ∧
      (env = none → x.consulted = false) ∧
      Sources.Decides ⟨properties, env⟩ (x.settings properties) ∧
      ∀ calls : List (SortedMap Value × Bool),
        settings { x with environment := calls.foldl (after x.file) x.environment } properties =
          x.settings properties) ∧
    (∀ (y : Surroundings) (properties' : SortedMap Value) (env env' : Option Environment)
      (st st' : Settings) (k : Setting), x.seen = .ok env → y.seen = .ok env' →
      x.settings properties = .ok st → y.settings properties' = .ok st' →
      Sources.texts ⟨properties, env⟩ k = Sources.texts ⟨properties', env'⟩ k →
      st.get k = st'.get k) ∧
    (∀ y : Surroundings, x.consulted = false → y.consulted = false →
      y.settings properties = x.settings properties) := by
  refine ⟨fun e he => ⟨?_, seen_eq_error.1 he⟩,
    fun env he => ⟨?_, ?_, decides he, settings_after he⟩,
    fun y properties' env env' st st' k => get_eq_of_texts, fun y hx hy => ?_⟩
  · rw [settings_eq_resolve, he]
    rfl
  · rintro loaded rfl
    obtain ⟨hc, hload⟩ := seen_eq_some.1 he
    exact ⟨hc, Environment.get?_load hload⟩
  · rintro rfl
    exact seen_eq_none.1 he
  · rw [settings_of_seen (seen_eq_none.2 hx), settings_of_seen (seen_eq_none.2 hy)]

/-- A variable that is set to nothing hides what the file says, and a blank property hides nothing.
-/
theorem settings_by_precedence_hidden :
    settings
      ⟨.ofList [("RETHINKDB_TABLE", ""), ("RETHINKDB_PORT", "0")],
        .ofText "RETHINKDB_TABLE=t\nRETHINKDB_TIMEOUT=1_0\n", true⟩
      (.ofList [("host", .str " db1,,db2"), ("rethinkdb.host", .str " "),
        ("rethinkdb.port", .str " -7 ")]) =
    .ok ⟨⟨["db1", "db2"], by decide⟩, -7, .hard, "usertable", "ycsb", none, 10⟩ := by
  have hx : seen
      ⟨.ofList [("RETHINKDB_TABLE", ""), ("RETHINKDB_PORT", "0")],
        .ofText "RETHINKDB_TABLE=t\nRETHINKDB_TIMEOUT=1_0\n", true⟩ =
      .ok (some (.ofList [("RETHINKDB_TABLE", ""), ("RETHINKDB_PORT", "0"),
        ("RETHINKDB_TIMEOUT", "1_0")])) := seen_of_toOption (by decide +kernel)
  refine (((settings_by_precedence _ _).2.1 _ hx).2.2.1.read _).2 fun k => ?_
  cases k <;> decide +kernel

/-- Nothing is wrong with these properties, wherever they are resolved, but no variable can hold
what the file says. -/
theorem settings_by_precedence_unloadable :
    let properties : SortedMap Value :=
      .ofList [("host", .str "localhost"), ("port", .int 28015), ("durability", .str "hard"),
        ("table", .str "usertable"), ("database", .str "ycsb"), ("read_consistency", .str "single"),
        ("timeout", .int 20)]
    (∀ env k, Sources.Admits ⟨properties, env⟩ k) ∧
      settings ⟨.empty, .ofText "RETHINKDB_TABLE=\x00", true⟩ properties =
        .error (.environment .nulCharacter) := by
  intro properties
  let st : Settings :=
    ⟨⟨["localhost"], by decide⟩, 28015, .hard, "usertable", "ycsb", some .single, 20⟩
  have hhosts : st.hosts.text = "localhost" := by decide +kernel
  have hproperties : properties = st.properties := by
    rw [Settings.properties, Settings.fields, hhosts]
    rfl
  have hresolve (env : Option Environment) : Sources.resolve ⟨properties, env⟩ = .ok st := by
    have hgives : Sources.Gives ⟨properties, none⟩ st :=
      ⟨by decide +kernel, by decide +kernel, by decide +kernel, by decide +kernel,
        by decide +kernel, by decide +kernel, by decide +kernel⟩
    rw [hproperties]
    exact Sources.resolve_properties hgives.normal (fun h => by cases h)
  refine ⟨fun env k => Sources.isSome_read_iff.1 ?_, ?_⟩
  · rw [Sources.resolve_ok_iff.1 (hresolve env) k]
    rfl
  · have hseen : seen ⟨.empty, .ofText "RETHINKDB_TABLE=\x00", true⟩ =
        .error (.environment .nulCharacter) :=
      seen_eq_error.2 ⟨rfl, .nulCharacter, by decide +kernel, rfl⟩
    rw [settings_eq_resolve, hseen]
    rfl

end Surroundings

end CrudBench
