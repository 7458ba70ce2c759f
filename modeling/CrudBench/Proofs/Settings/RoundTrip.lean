import CrudBench.Proofs.Settings.Environment
import CrudBench.Proofs.Settings.HostList
import CrudBench.Proofs.SortedMap
import CrudBench.Proofs.Text.Numeral
import CrudBench.Settings.Surroundings

/-!
# Settings that survive being written

What settings come to when they are written as properties and resolved again, wherever that is done.
Settings that were resolved are in a normal form (`Settings.Normal`), and settings in that form are
what their own properties give (`Sources.resolve_properties`).
-/

namespace CrudBench

/-! ## Where settings are read -/

namespace Settings

/-- Settings are resolved once the environment was consulted, unless that fails. -/
lemma ofProperties_apply (file : VariablesFile) (consulted : Bool) (properties : SortedMap Value)
    (env : Environment) :
    ofProperties file consulted properties env = match consult file consulted env with
      | .ok environment left => match Sources.resolve ⟨properties, environment⟩ with
        | .ok st => .ok st left
        | .error e => .error (.invalid e) left
      | .error e left => .error e left := by
  show EStateM.bind _ _ env = _
  unfold EStateM.bind
  cases consult file consulted env with
  | error e left => rfl
  | ok environment left =>
    dsimp only
    cases Sources.resolve ⟨properties, environment⟩ <;> rfl

/-- The environment is left as it is, unless it is consulted: then the file was loaded into it, as
far as it could be. -/
lemma left_consult (file : VariablesFile) (consulted : Bool) (env : Environment) :
    (consult file consulted).left env = if consulted then
      match Environment.load file env with
      | .ok _ env' | .error _ env' => env'
    else env := by
  rw [Reading.left, consult]
  cases consulted with
  | false => rfl
  | true => cases Environment.load file env <;> rfl

/-- Properties make no difference to the environment. -/
lemma left_ofProperties (file : VariablesFile) (consulted : Bool) (properties : SortedMap Value)
    (env : Environment) :
    (ofProperties file consulted properties).left env = (consult file consulted).left env := by
  rw [Reading.left, Reading.left, ofProperties_apply]
  cases consult file consulted env with
  | error e left => rfl
  | ok environment left =>
    dsimp only
    cases Sources.resolve ⟨properties, environment⟩ <;> rfl

end Settings

namespace Surroundings

/-- What is seen is the environment once the file was loaded into it. -/
lemma seen_eq_load (x : Surroundings) :
    x.seen = if x.consulted then
      match Environment.load x.file x.environment with
      | .ok _ env => .ok (some env)
      | .error e _ => .error (.environment e)
    else .ok none := by
  rw [seen, Settings.Reading.result, Settings.consult]
  cases x.consulted with
  | false => rfl
  | true => cases Environment.load x.file x.environment <;> rfl

/-- Settings are resolved in what is seen. -/
lemma settings_eq_resolve (x : Surroundings) (properties : SortedMap Value) :
    x.settings properties = x.seen >>= fun environment =>
      (Sources.resolve ⟨properties, environment⟩).mapError .invalid := by
  rw [settings, seen, Settings.Reading.result, Settings.Reading.result,
    Settings.ofProperties_apply]
  cases Settings.consult x.file x.consulted x.environment with
  | error e left => rfl
  | ok environment left =>
    dsimp only [bind, Except.bind]
    cases Sources.resolve ⟨properties, environment⟩ <;> rfl

end Surroundings

/-! ## Settings in normal form -/

/-- The text is what is left of it once it is trimmed, and that is not nothing. -/
structure Plain (s : String) : Prop where
  trimmed : Text.Trimmed s
  nonempty : s ≠ ""

/-- Settings whose texts and numbers are read as they are written. -/
structure Settings.Normal (s : Settings) : Prop where
  hosts : ∀ name ∈ s.hosts.names, IsHostName name
  port : Text.Readable s.port
  timeout : Text.Readable s.timeout
  table : Plain s.table
  database : Plain s.database

namespace Sources

lemma nonblank?_eq_some {s t : String} (h : nonblank? s = some t) : Plain t := by
  rw [nonblank?] at h
  split at h
  · cases h
  next hne =>
    cases h
    exact ⟨Text.trimmed_trim s, hne⟩

/-- A plain text is not blank. -/
lemma nonblank?_of_plain {s : String} (h : Plain s) : nonblank? s = some s := by
  rw [nonblank?, h.trimmed.trim_eq, if_neg h.nonempty]

lemma required_eq_ok {α : Type} {x : Option α} {e : Settings.Invalid} {a : α} :
    required x e = .ok a ↔ x = some a := by
  cases x with
  | none => exact ⟨nofun, nofun⟩
  | some b => simp [required]

/-- What is looked up is a plain text. -/
lemma plain_of_lookup? {src : Sources} {x : Setting} {t : String} (h : src.lookup? x = some t) :
    Plain t := by
  have hp {name : String} (hn : src.ofProperties? name = some t) : Plain t := by
    rw [ofProperties?] at hn
    split at hn
    · cases hn
    · cases hn
    · exact nonblank?_eq_some hn
  have he (hn : src.ofEnvironment? x.envName = some t) : Plain t := by
    obtain ⟨s, -, hs⟩ := Option.bind_eq_some_iff.1 hn
    exact nonblank?_eq_some hs
  rw [lookup?, Option.or_eq_some_iff, Option.or_eq_some_iff] at h
  rcases h with h | ⟨-, h | ⟨-, h⟩⟩
  · exact hp h
  · exact hp h
  · exact he h

/-- What is in effect is a plain text if what holds otherwise is. -/
lemma plain_effective {src : Sources} {x : Setting} (h : Plain (x.fallback?.getD "")) :
    Plain (src.effective x) := by
  rw [effective]
  cases hl : src.lookup? x with
  | none => exact h
  | some t => exact plain_of_lookup? hl

/-- One action after another returns if the first returns something from which the second does. -/
lemma bind_eq_ok {α β : Type} {x : Except Settings.Invalid α} {f : α → Except Settings.Invalid β}
    {b : β} : x >>= f = .ok b ↔ ∃ a, x = .ok a ∧ f a = .ok b := by
  cases x with
  | ok a =>
    constructor
    · exact fun h => ⟨a, rfl, h⟩
    · rintro ⟨_, ha, h⟩
      cases ha
      exact h
  | error e =>
    constructor
    · nofun
    · rintro ⟨_, ha, _⟩
      cases ha

lemma mapM_chosen_eq_ok {α : Type} {find? : String → Option α} {e : String → Settings.Invalid}
    {raw : Option String} {a : Option α} :
    raw.mapM (chosen find? e) = .ok a ↔ raw.mapM (fun s => find? (Text.lower s)) = some a := by
  cases raw with
  | none => exact ⟨fun h => by cases h; rfl, fun h => by cases h; rfl⟩
  | some s =>
    simp only [Option.mapM_some, chosen]
    cases find? (Text.lower s) with
    | none => exact ⟨nofun, nofun⟩
    | some b => exact ⟨fun h => by cases h; rfl, fun h => by cases h; rfl⟩

/-- Each of the settings is what its own text in effect is read as. -/
structure Gives (src : Sources) (s : Settings) : Prop where
  hosts : HostList.parse? (src.effective .host) = some s.hosts
  port : Text.readInt? (src.effective .port) = some s.port
  durability : Durability.ofName? (Text.lower (src.effective .durability)) = some s.durability
  readMode : (src.lookup? .readMode).mapM (fun raw => ReadMode.ofName? (Text.lower raw)) =
    some s.readMode
  timeout : Text.readInt? (src.effective .timeout) = some s.timeout
  table : src.effective .table = s.table
  database : src.effective .database = s.database

/-- Sources give settings if they give each of them. -/
theorem resolve_eq_ok {src : Sources} {s : Settings} : src.resolve = .ok s ↔ src.Gives s := by
  simp only [resolve, bind_eq_ok, required_eq_ok, mapM_chosen_eq_ok]
  constructor
  · rintro ⟨hosts, hh, port, hp, durability, hd, readMode, hr, timeout, ht, h⟩
    cases h
    exact ⟨hh, hp, required_eq_ok.1 hd, hr, ht, rfl, rfl⟩
  · rintro ⟨hh, hp, hd, hr, ht, htable, hdb⟩
    refine ⟨_, hh, _, hp, _, required_eq_ok.2 hd, _, hr, _, ht, ?_⟩
    rw [htable, hdb]
    rfl

/-- Settings that were resolved are in normal form. -/
lemma Gives.normal {src : Sources} {s : Settings} (h : src.Gives s) : s.Normal where
  hosts := HostList.isHostName_of_parse? h.hosts
  port := Text.readable_of_readInt? h.port
  timeout := Text.readable_of_readInt? h.timeout
  table := h.table ▸ plain_effective ⟨Text.stripped_of_any (by decide), by decide⟩
  database := h.database ▸ plain_effective ⟨Text.stripped_of_any (by decide), by decide⟩

end Sources

/-! ## Settings as properties -/

/-- What the properties of settings hold for a setting. -/
def Settings.property? (s : Settings) : Setting → Option Value
  | .host => some (.str s.hosts.text)
  | .port => some (.int s.port)
  | .durability => some (.str s.durability.name)
  | .readMode => s.readMode.map fun m => .str m.name
  | .timeout => some (.int s.timeout)
  | .table => some (.str s.table)
  | .database => some (.str s.database)

/-- Settings as properties have every setting under its bare name. -/
lemma Settings.get?_properties (s : Settings) (x : Setting) :
    s.properties.get? x.property = s.property? x := by
  rw [properties, SortedMap.get?_ofList]
  cases hm : s.readMode <;> cases x <;>
    simp [fields, hm, property?, Setting.property, List.lookup_cons]

/-- Settings as properties have no setting under its qualified name. -/
lemma Settings.get?_properties_qualified (s : Settings) (x : Setting) :
    s.properties.get? x.qualified = none := by
  rw [properties, SortedMap.get?_ofList]
  cases hm : s.readMode <;> cases x <;>
    simp [fields, hm, Setting.qualified, Setting.property, List.lookup_cons]

section

variable {s : Settings} (h : s.Normal)

include h

/-- What the properties of settings in normal form hold are plain texts. -/
lemma Settings.Normal.plain_property {x : Setting} {v : Value} (hv : s.property? x = some v) :
    Plain v.text := by
  have hword {t : String} (ht : t.toList.any Text.isBlankChar = false) (hne : t ≠ "") :
      Plain t := ⟨Text.stripped_of_any ht, hne⟩
  have hnum (n : Int) : Plain (Value.text (.int n)) :=
    ⟨Text.trimmed_decimal n, Text.decimal_ne_empty n⟩
  cases x with
  | host =>
    cases hv
    exact ⟨(HostList.trimmed_text h.hosts).1, (HostList.trimmed_text h.hosts).2⟩
  | port =>
    cases hv
    exact hnum _
  | durability =>
    cases hv
    cases s.durability <;> exact hword (by decide) (by decide)
  | readMode =>
    obtain ⟨m, -, rfl⟩ := Option.map_eq_some_iff.1 hv
    cases m <;> exact hword (by decide) (by decide)
  | timeout =>
    cases hv
    exact hnum _
  | table =>
    cases hv
    exact h.table
  | database =>
    cases hv
    exact h.database

namespace Sources

/-- Where settings are looked up in their own properties, these come before the environment. -/
lemma lookup?_properties (env : Option Environment) (x : Setting) :
    lookup? ⟨s.properties, env⟩ x =
      ((s.property? x).map Value.text).or (ofEnvironment? ⟨s.properties, env⟩ x.envName) := by
  have hq : ofProperties? ⟨s.properties, env⟩ x.qualified = none := by
    simp [ofProperties?, s.get?_properties_qualified]
  have hb : ofProperties? ⟨s.properties, env⟩ x.property = (s.property? x).map Value.text := by
    rw [ofProperties?, s.get?_properties]
    cases hv : s.property? x with
    | none => rfl
    | some v =>
      have hp := nonblank?_of_plain (h.plain_property hv)
      cases v with
      | null =>
        -- no property of settings is null
        cases x <;> simp [Settings.property?] at hv
      | _ => exact hp
  rw [lookup?, hq, hb, Option.none_or]

/-- A setting that the properties hold is in effect. -/
lemma effective_properties (env : Option Environment) {x : Setting} {v : Value}
    (hv : s.property? x = some v) : effective ⟨s.properties, env⟩ x = v.text := by
  rw [effective, lookup?_properties h, hv]
  rfl

/-- Settings in normal form are what their own properties give, unless the environment adds a read
mode. -/
theorem resolve_properties {env : Option Environment}
    (hr : s.readMode = none → ofEnvironment? ⟨s.properties, env⟩ Setting.readMode.envName = none) :
    resolve ⟨s.properties, env⟩ = .ok s := by
  have he {x : Setting} {v : Value} := effective_properties (x := x) (v := v) h env
  refine resolve_eq_ok.2 ⟨?_, ?_, ?_, ?_, ?_, he (v := .str s.table) rfl,
    he (v := .str s.database) rfl⟩
  · rw [he rfl]
    exact HostList.parse?_text h.hosts
  · rw [he rfl]
    exact Text.readInt?_decimal h.port
  · rw [he rfl]
    cases s.durability <;> decide
  · rw [lookup?_properties h, Settings.property?]
    cases hm : s.readMode with
    | none =>
      rw [hr hm]
      rfl
    | some m =>
      have hname : ReadMode.ofName? (Text.lower m.name) = some m := by cases m <;> decide
      simp [Value.text, hname]
  · rw [he rfl]
    exact Text.readInt?_decimal h.timeout

end Sources

end

/-! ## Settings resolved again -/

namespace Surroundings

/-- Nothing but blanks is seen of a read mode. -/
def NamesNoReadMode (x : Surroundings) : Prop :=
  ∀ env, x.seen = .ok (some env) → ∀ s, env.get? Setting.readMode.envName = some s →
    Text.trim s = ""

variable {x y : Surroundings} {properties : SortedMap Value} {s : Settings}

/-- Settings are there if something is seen and gives them. -/
lemma settings_eq_ok :
    x.settings properties = .ok s ↔
      ∃ env, x.seen = .ok env ∧ Sources.Gives ⟨properties, env⟩ s := by
  have hresolve (env : Option Environment) :
      ((Sources.resolve ⟨properties, env⟩).mapError Settings.Unreadable.invalid = .ok s) ↔
        Sources.Gives ⟨properties, env⟩ s := by
    rw [← Sources.resolve_eq_ok]
    cases Sources.resolve ⟨properties, env⟩ <;> constructor <;> rintro ⟨⟩ <;> rfl
  rw [settings_eq_resolve]
  cases x.seen with
  | error e =>
    constructor
    · rintro ⟨⟩
    · rintro ⟨_, he, _⟩
      cases he
  | ok env =>
    refine (hresolve env).trans ⟨fun h => ⟨env, rfl, h⟩, ?_⟩
    rintro ⟨_, he, h⟩
    cases he
    exact h

/-- Settings without a read mode were resolved where none was named. -/
lemma namesNoReadMode (h : x.settings properties = .ok s) (hs : s.readMode = none) :
    x.NamesNoReadMode := by
  obtain ⟨env', he, hg⟩ := settings_eq_ok.1 h
  intro env hx t ht
  cases he.symm.trans hx
  have hl : Sources.lookup? ⟨properties, some env⟩ .readMode = none := by
    have hm := hg.readMode
    rw [hs] at hm
    cases hl : Sources.lookup? ⟨properties, some env⟩ .readMode with
    | none => rfl
    | some raw => cases hn : ReadMode.ofName? (Text.lower raw) <;> simp [hl, hn] at hm
  simp only [Sources.lookup?, Option.or_eq_none_iff] at hl
  have hb : Sources.nonblank? t = none := by
    simpa [Sources.ofEnvironment?, ht] using hl.2.2
  simpa [Sources.nonblank?] using hb

/-- Settings that were resolved are what their properties give wherever something is seen, unless a
read mode is named there and they have none. -/
lemma settings_eq_of_normal (hs : s.Normal) (hr : s.readMode = none → y.NamesNoReadMode) :
    y.settings s.properties = y.seen.map fun _ => s := by
  rw [settings_eq_resolve]
  cases hy : y.seen with
  | error e => rfl
  | ok env =>
    have hn : s.readMode = none →
        Sources.ofEnvironment? ⟨s.properties, env⟩ Setting.readMode.envName = none := by
      intro hm
      rw [Sources.ofEnvironment?]
      cases env with
      | none => rfl
      | some env =>
        cases ht : env.get? Setting.readMode.envName with
        | none => simp [ht]
        | some t => simp [ht, Sources.nonblank?, hr hm env hy t ht]
    simp only [bind, Except.bind, Sources.resolve_properties hs hn]
    rfl

/-- What was loaded is seen again once it is in the environment. -/
lemma seen_loaded {env : Environment} (h : x.seen = .ok (some env)) :
    Surroundings.seen { x with environment := env } = x.seen := by
  rw [h]
  simp only [seen_eq_load] at h ⊢
  split at h
  next hc =>
    split at h
    next hl =>
      cases h
      rw [if_pos hc, Environment.load_load hl]
    · cases h
  · cases h

/-- Whoever has seen something sees it again. -/
lemma seen_left {env : Option Environment} (h : x.seen = .ok env) :
    Surroundings.seen { x with
      environment := (Settings.consult x.file x.consulted).left x.environment } = x.seen := by
  rw [Settings.left_consult]
  cases hc : x.consulted with
  | false =>
    rw [seen_eq_load, seen_eq_load, hc]
    rfl
  | true =>
    rw [seen_eq_load, if_pos hc] at h
    rw [if_pos rfl]
    cases hl : Environment.load x.file x.environment with
    | error e left =>
      rw [hl] at h
      cases h
    | ok a left =>
      have hs : x.seen = .ok (some left) := by rw [seen_eq_load, if_pos hc, hl]
      simpa only [hc] using seen_loaded hs

/-- Settings that were resolved survive being written as properties and resolved again, whatever is
seen of the environment and of the variables file then, unless they have no read mode and one is
named there; a file that cannot be loaded is all that can be in the way. No read mode is named if
the environment is not consulted, or is the one in which they were resolved, before or after the
variables file was loaded into it. The hosts and the numbers are read as they are written. -/
theorem settings_properties (h : x.settings properties = .ok s) :
    (∀ y : Surroundings, (s.readMode = none → y.NamesNoReadMode) →
      y.settings s.properties = y.seen.map fun _ => s) ∧
    (∀ y : Surroundings, y.consulted = false ∨ y.seen = x.seen → y.settings s.properties = .ok s) ∧
    (∀ env, x.seen = .ok (some env) →
      Surroundings.settings { x with environment := env } s.properties = .ok s) ∧
    HostList.parse? s.hosts.text = some s.hosts ∧
    Text.readInt? (Text.decimal s.port) = some s.port ∧
    Text.readInt? (Text.decimal s.timeout) = some s.timeout := by
  obtain ⟨env, hx, hg⟩ := settings_eq_ok.1 h
  have hs : s.Normal := hg.normal
  have hsame {y : Surroundings} (hy : y.seen = x.seen) : y.settings s.properties = .ok s := by
    have hr (hm : s.readMode = none) : y.NamesNoReadMode := fun env he =>
      namesNoReadMode h hm env (hy ▸ he)
    rw [settings_eq_of_normal hs hr, hy, hx]
    rfl
  refine ⟨fun y => settings_eq_of_normal hs, fun y hy => ?_, fun env he => hsame (seen_loaded he),
    HostList.parse?_text hs.hosts, Text.readInt?_decimal hs.port, Text.readInt?_decimal hs.timeout⟩
  rcases hy with hy | hy
  · have hnone : y.seen = .ok none := by simp [seen_eq_load, hy]
    have hr (_ : s.readMode = none) : y.NamesNoReadMode := fun env he => by
      cases hnone.symm.trans he
    rw [settings_eq_of_normal hs hr, hnone]
    rfl
  · exact hsame hy

/-- The settings of no properties do not survive where the variables file holds a value that no
variable can have. -/
theorem settings_properties_unloadable :
    let x : Surroundings := ⟨.empty, .ofText "", false⟩
    let y : Surroundings := ⟨.empty, .ofText "RETHINKDB_TABLE=\x00", true⟩
    ∃ s, x.settings .empty = .ok s ∧ (s.readMode = none → y.NamesNoReadMode) ∧
      y.settings s.properties = .error (.environment .nulCharacter) := by
  intro x y
  have h : x.settings .empty =
      .ok ⟨⟨["localhost"], by decide⟩, 28015, .hard, "usertable", "ycsb", none, 20⟩ :=
    settings_eq_ok.2 ⟨none, rfl, by decide +kernel, by decide +kernel, by decide +kernel,
      by decide +kernel, by decide +kernel, by decide +kernel, by decide +kernel⟩
  have hload : (match Environment.load y.file y.environment with
      | .ok _ _ => false
      | .error e _ => decide (e = .nulCharacter)) = true := by decide +kernel
  have hy : y.seen = .error (.environment .nulCharacter) := by
    rw [seen_eq_load, if_pos (show y.consulted = true from rfl)]
    cases hl : Environment.load y.file y.environment with
    | ok _ _ =>
      rw [hl] at hload
      cases hload
    | error e _ =>
      rw [hl] at hload
      rw [of_decide_eq_true hload]
  refine ⟨_, h, fun _ env he => ?_, ?_⟩
  · cases hy.symm.trans he
  · rw [settings_eq_resolve, hy]
    rfl

/-- What there is of a result as an option was returned. -/
lemma ok_of_toOption {ε α : Type} {x : Except ε α} {a : α} (h : x.toOption = some a) :
    x = .ok a := by
  cases x with
  | error e => cases h
  | ok b => exact congrArg Except.ok (Option.some.inj h)

/-- What is seen, if the environment is consulted and the file can be loaded. -/
lemma seen_of_toOption {x : Surroundings} {env : Environment}
    (h : x.seen.toOption = some (some env)) : x.seen = .ok (some env) := ok_of_toOption h

/-- Settings with an oddly written port, from all three sources. -/
theorem settings_properties_odd :
    ∃ s, Surroundings.settings
        ⟨.ofList [("RETHINKDB_TIMEOUT", " 1_0 ")], .ofText "RETHINKDB_TABLE='t'\n", true⟩
        (.ofList [("host", .str " db1,,db2"), ("rethinkdb.port", .str "-0_29015")]) = .ok s ∧
      s.port = -29015 ∧ s.timeout = 10 ∧ s.table = "t" ∧
      Surroundings.settings ⟨.empty, .ofText "RETHINKDB_TABLE=u", true⟩ s.properties = .ok s := by
  have hx : Surroundings.seen
      ⟨.ofList [("RETHINKDB_TIMEOUT", " 1_0 ")], .ofText "RETHINKDB_TABLE='t'\n", true⟩ =
      .ok (some (.ofList [("RETHINKDB_TIMEOUT", " 1_0 "), ("RETHINKDB_TABLE", "t")])) :=
    seen_of_toOption (by decide +kernel)
  have hy : Surroundings.seen ⟨.empty, .ofText "RETHINKDB_TABLE=u", true⟩ =
      .ok (some (.ofList [("RETHINKDB_TABLE", "u")])) := seen_of_toOption (by decide +kernel)
  have h : Surroundings.settings
      ⟨.ofList [("RETHINKDB_TIMEOUT", " 1_0 ")], .ofText "RETHINKDB_TABLE='t'\n", true⟩
      (.ofList [("host", .str " db1,,db2"), ("rethinkdb.port", .str "-0_29015")]) =
      .ok ⟨⟨["db1", "db2"], by decide⟩, -29015, .hard, "t", "ycsb", none, 10⟩ :=
    settings_eq_ok.2 ⟨_, hx, by decide +kernel, by decide +kernel, by decide +kernel,
      by decide +kernel, by decide +kernel, by decide +kernel, by decide +kernel⟩
  refine ⟨_, h, rfl, rfl, rfl, ?_⟩
  rw [(settings_properties h).1, hy]
  · rfl
  · intro _ env he t ht
    cases hy.symm.trans he
    cases ht

end Surroundings

end CrudBench
