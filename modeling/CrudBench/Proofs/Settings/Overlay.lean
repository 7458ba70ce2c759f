import CrudBench.CommandLine.Option
import CrudBench.Proofs.Dictionary
import CrudBench.Proofs.Memory
import CrudBench.Proofs.Settings.Precedence
import Mathlib.Tactic.Choose

/-!
# Settings from the command line

What is on the command line about a setting wins over all other sources of that setting, and changes
no other setting (`Surroundings.settings_overlay`). Each setting depends on its own sources, so it
is what it would be if nothing was said about any other one (`Sources.alone_eq_ok`), and where
settings cannot be resolved, one of them cannot be read by itself.
-/

namespace CrudBench

/-! ## Settings one by one -/

/-- Settings can be put together from what they are one by one. -/
lemma Settings.exists_get {P : (k : Setting) → k.Kind → Prop} (h : ∀ k, ∃ a, P k a) :
    ∃ st : Settings, ∀ k, P k (st.get k) := by
  choose f hf using h
  refine ⟨⟨f .host, f .port, f .durability, f .table, f .database, f .readMode, f .timeout⟩,
    fun k => ?_⟩
  cases k <;> exact hf _

namespace Sources

variable {src : Sources} {k : Setting}

/-- Sources give settings if each of them can be read. -/
lemma exists_resolve_iff :
    (∃ st, src.resolve = .ok st) ↔ ∀ k : Setting, ∃ a, k.read (src.inEffect? k) = some a := by
  constructor
  · rintro ⟨st, h⟩ k
    exact ⟨_, resolve_ok_iff.1 h k⟩
  · intro h
    obtain ⟨st, hst⟩ := Settings.exists_get h
    exact ⟨st, resolve_ok_iff.2 hst⟩

/-- What sources say about a setting, and nothing else. -/
def only (src : Sources) (k : Setting) : Sources where
  properties := src.properties.filterKeys fun name => name == k.qualified || name == k.property
  environment := src.environment.map (·.filterKeys (· == k.envName))

/-- What sources give for a setting if they say nothing about the others. -/
def alone (src : Sources) (k : Setting) : Except Settings.Invalid k.Kind :=
  (src.only k).resolve.map (·.get k)

lemma texts_only (src : Sources) (k : Setting) : (src.only k).texts k = src.texts k := by
  have henv : ((src.only k).environment >>= (·.get? k.envName)) =
      (src.environment >>= (·.get? k.envName)) := by
    cases he : src.environment with
    | none => simp [only, he]
    | some env => simp [only, he, SortedMap.get?_filterKeys]
  rw [texts, texts, henv, only]
  simp [SortedMap.get?_filterKeys]

/-- The names of one setting are not those of another. -/
lemma names_ne {j k : Setting} (h : j ≠ k) :
    j.qualified ≠ k.qualified ∧ j.property ≠ k.property ∧ j.envName ≠ k.envName := by
  cases j <;> cases k <;> first | exact absurd rfl h | decide

lemma qualified_ne_property (j k : Setting) : j.qualified ≠ k.property := by
  cases j <;> cases k <;> decide

lemma texts_only_of_ne {j : Setting} (h : j ≠ k) (src : Sources) : (src.only k).texts j = [] := by
  obtain ⟨hq, hp, he⟩ := names_ne h
  have henv : ((src.only k).environment >>= (·.get? j.envName)) = none := by
    cases hs : src.environment with
    | none => simp [only, hs]
    | some env => simp [only, hs, SortedMap.get?_filterKeys, he]
  rw [texts, henv, only]
  simp [SortedMap.get?_filterKeys, hq, hp, qualified_ne_property, (qualified_ne_property _ _).symm]

/-- What holds if no source has anything to say can be read. -/
lemma exists_read_fallback (k : Setting) : ∃ a, k.read k.fallback? = some a := by
  rw [← Option.isSome_iff_exists]
  cases k <;> decide +kernel

/-- By itself a setting is what is read from what is in effect for it. -/
lemma alone_eq_ok {a : k.Kind} : src.alone k = .ok a ↔ k.read (src.inEffect? k) = some a := by
  have hown : (src.only k).inEffect? k = src.inEffect? k := by rw [inEffect?, inEffect?, texts_only]
  have hother {j : Setting} (hj : j ≠ k) : ∃ a, j.read ((src.only k).inEffect? j) = some a := by
    rw [inEffect?, texts_only_of_ne hj]
    exact exists_read_fallback j
  rw [alone]
  constructor
  · intro h
    cases hr : (src.only k).resolve with
    | error e =>
      rw [hr] at h
      cases h
    | ok st =>
      rw [hr] at h
      cases h
      rw [← hown]
      exact resolve_ok_iff.1 hr k
  · intro h
    obtain ⟨st, hst⟩ : ∃ st, (src.only k).resolve = .ok st := exists_resolve_iff.2 fun j => by
      by_cases hj : j = k
      · subst hj
        exact ⟨a, hown ▸ h⟩
      · exact hother hj
    have hk := resolve_ok_iff.1 hst k
    rw [hown, h] at hk
    rw [hst]
    exact congrArg Except.ok (Option.some.inj hk).symm

end Sources

/-! ## What is on the command line -/

namespace CommandLine.Arguments

variable {a : Arguments} {k : Setting}

/-- What the command line says about a setting. -/
def flag? (a : Arguments) : Setting → Option Value
  | .host => a.host.shown? .str
  | .port => a.port.shown? .int
  | .table => a.table.shown? .str
  | .durability => a.durability.shown? fun d => .str d.name
  | .readMode => a.readMode.shown? fun m => .str m.name
  | .timeout | .database => .none

/-- The properties that the command line says something about, with what it says. -/
def overrides (a : Arguments) : List (String × Value) :=
  [Setting.host, .port, .table, .durability, .readMode].filterMap fun k =>
    (a.flag? k).map (k.qualified, ·)

lemma overlay_eq (a : Arguments) (file : Properties) :
    a.overlay file = file.setAll a.overrides := rfl

/-- Of settings with different names each is found under its own. -/
lemma lookup_qualified (f : Setting → Option Value) (ks : List Setting) (k : Setting) :
    (ks.filterMap fun j => (f j).map (j.qualified, ·)).lookup k.qualified =
      if k ∈ ks then f k else .none := by
  induction ks with
  | nil => rfl
  | cons j ks ih =>
    rw [List.filterMap_cons]
    by_cases hj : k = j
    · subst hj
      cases hf : f k with
      | none => simp [ih, hf]
      | some v => simp
    · have hne : (k.qualified == j.qualified) = false := by simpa using (Sources.names_ne hj).1
      cases hf : f j with
      | none => simp [ih, hj]
      | some v => simp [List.lookup_cons, hne, ih, hj]

/-- What the command line says about a setting takes the place of its qualified property. -/
lemma get?_overlay_qualified (a : Arguments) (file : Properties) (k : Setting) :
    (a.overlay file).get? (.str k.qualified) =
      (a.flag? k).or (file.get? (.str k.qualified)) := by
  rw [overlay_eq, Properties.get?_setAll, overrides, ← List.filterMap_reverse, lookup_qualified]
  cases k <;> rfl

/-- Bare properties stay as they are. -/
lemma get?_overlay_property (a : Arguments) (file : Properties) (k : Setting) :
    (a.overlay file).get? (.str k.property) = file.get? (.str k.property) := by
  have hnone : a.overrides.reverse.lookup k.property = .none := by
    refine List.lookup_eq_none_iff.2 fun e he => ?_
    obtain ⟨j, -, hj⟩ := List.mem_filterMap.1 (List.mem_reverse.1 he)
    obtain ⟨v, -, rfl⟩ := Option.map_eq_some_iff.1 hj
    simpa using (Sources.qualified_ne_property j k).symm
  rw [overlay_eq, Properties.get?_setAll, hnone, Option.none_or]

/-- What is on the command line is not null. -/
lemma given?_flag {v : Value} (h : a.flag? k = some v) : v.given? = some v.text := by
  have hshown {α : Type} {f : α → Value} (hf : ∀ b, (f b).given? = some (f b).text)
      {g : Given α} (hg : g.shown? f = some v) : v.given? = some v.text := by
    cases g with
    | absent => cases hg
    | bare =>
      cases hg
      rfl
    | value b =>
      cases hg
      exact hf b
  cases k with
  | timeout | database => cases h
  | _ => exact hshown (fun _ => rfl) h

/-! ## Overlaying in place -/

/-- Makes a copy of the properties at an address, overlays it in place, and tells its address. -/
def overlayAt (a : Arguments) (file : Nat) : Action Memory Nat := do
  let properties ← Memory.copy file
  a.overrides.forM fun e => Memory.assign properties (.str e.1) e.2
  return properties

/-- What is overlaid is a copy, which is new in memory; what was there before stays. -/
lemma overlayAt_apply {m : Memory} {i : Nat} {file : Properties} (h : m[i]? = some file) :
    a.overlayAt i m = .ok m.length (m ++ [a.overlay file]) := by
  have hset (p : Properties) (es : List (String × Value)) :
      (es.forM fun e => Memory.assign m.length (.str e.1) e.2) (m ++ [p]) =
        .ok () (m ++ [p.setAll es]) := by
    induction es generalizing p with
    | nil => rfl
    | cons e es ih =>
      rw [List.forM, Action.bind_apply, Memory.assign_last]
      exact ih _
  rw [overlayAt, Action.bind_apply, Memory.copy_apply h]
  dsimp only
  rw [Action.bind_apply, hset, overlay_eq]
  rfl

end CommandLine.Arguments

/-! ## Settings under an overlay -/

open CommandLine (Arguments)

namespace Sources

variable {src : Sources} {k : Setting} {v : Value}

/-- A qualified property that is not blank is in effect. -/
lemma inEffect?_of_qualified (h : src.properties.get? k.qualified = some v)
    (hgiven : v.given? = some v.text) (hv : Text.trim v.text ≠ "") :
    src.inEffect? k = some (Text.trim v.text) := by
  have htext : (src.properties.get? k.qualified >>= Value.given?) = some v.text := by
    rw [h]
    exact hgiven
  rw [inEffect?, texts, htext]
  simp [hv]

/-- Without a word on the command line, in effect is what was in effect before. -/
lemma inEffect?_overlay {a : Arguments} (h : a.flag? k = none) (file : Properties)
    (env : Option Environment) :
    inEffect? ⟨(a.overlay file).named, env⟩ k = inEffect? ⟨file.named, env⟩ k := by
  rw [inEffect?, inEffect?, texts, texts]
  simp only [Dictionary.get?_named, Arguments.get?_overlay_qualified,
    Arguments.get?_overlay_property, h, Option.none_or]

end Sources

namespace Surroundings

variable {x : Surroundings} {a : Arguments} {file : Properties} {env : Option Environment}

/-- What properties give in their surroundings for a setting if nothing is said about the others. -/
def alone (x : Surroundings) (properties : SortedMap Value) (k : Setting) :
    Except Settings.Unreadable k.Kind := do
  let environment ← x.seen
  (Sources.alone ⟨properties, environment⟩ k).mapError .invalid

/-- What there is for a setting if each is taken by itself: what the command line says about it, and
nothing else, or else what the file gives for it in its surroundings. -/
def apart (x : Surroundings) (a : Arguments) (file : Properties) (k : Setting) :
    Except Settings.Unreadable k.Kind :=
  match a.flag? k with
  | some v => (Sources.alone ⟨.ofList [(k.qualified, v)], none⟩ k).mapError .invalid
  | none => x.alone file.named k

lemma mapError_eq_ok {α ε ε' : Type} {f : ε → ε'} {y : Except ε α} {b : α} :
    y.mapError f = .ok b ↔ y = .ok b := by
  cases y <;> simp [Except.mapError]

/-- Each setting by itself is what is read from what is in effect for it under the overlay. -/
lemma apart_eq_ok (hx : x.seen = .ok env)
    (hflags : ∀ k v, a.flag? k = some v → Text.trim v.text ≠ "") {k : Setting} {b : k.Kind} :
    x.apart a file k = .ok b ↔
      k.read (Sources.inEffect? ⟨(a.overlay file).named, env⟩ k) = some b := by
  rw [apart]
  cases hk : a.flag? k with
  | none =>
    rw [Sources.inEffect?_overlay hk, ← Sources.alone_eq_ok]
    simp only [alone, hx]
    exact mapError_eq_ok
  | some v =>
    have hqualified : (a.overlay file).named.get? k.qualified = some v := by
      rw [Dictionary.get?_named, Arguments.get?_overlay_qualified, hk, Option.some_or]
    have hself : (SortedMap.ofList [(k.qualified, v)]).get? k.qualified = some v := by
      simp [SortedMap.get?_ofList]
    have hgiven := Arguments.given?_flag hk
    have hoverlay : Sources.inEffect? ⟨(a.overlay file).named, env⟩ k = some (Text.trim v.text) :=
      Sources.inEffect?_of_qualified hqualified hgiven (hflags k v hk)
    rw [mapError_eq_ok, Sources.alone_eq_ok, hoverlay,
      Sources.inEffect?_of_qualified hself hgiven (hflags k v hk)]

/-- Where the file cannot be loaded, nothing is given for the database, which no flag is about. -/
lemma apart_database {e : Settings.Unreadable} (hx : x.seen = .error e) :
    x.apart a file .database = .error e := by
  show x.alone file.named .database = .error e
  rw [alone, hx]
  rfl

/-- Under an overlay settings are what each of them is by itself. -/
lemma settings_overlay_eq_ok (hflags : ∀ k v, a.flag? k = some v → Text.trim v.text ≠ "")
    {st : Settings} :
    x.settings (a.overlay file).named = .ok st ↔ ∀ k, x.apart a file k = .ok (st.get k) := by
  cases hx : x.seen with
  | error e =>
    refine iff_of_false (fun h => ?_) fun h => ?_
    · rw [settings_eq_resolve, hx] at h
      cases h
    · cases (apart_database hx).symm.trans (h .database)
  | ok env =>
    rw [settings_ok_iff hx]
    exact forall_congr' fun k => (apart_eq_ok hx hflags).symm

lemma exists_error_iff {α ε : Type} {y : Except ε α} : (∃ e, y = .error e) ↔ ∀ b, y ≠ .ok b := by
  cases y <;> simp

/-- If nothing on the command line is blank, each setting is what it is by itself: what the command
line alone says about it, or else what the file gives for it in its surroundings. There are none
exactly if one of them cannot be had by itself. A setting that the command line does not mention is
the one that the file gives, if that gives settings at all. The properties of the file are not
changed in memory: the overlay is a new copy. -/
theorem settings_overlay (x : Surroundings) (a : Arguments) (file : Properties)
    (hflags : ∀ k v, a.flag? k = some v → Text.trim v.text ≠ "") :
    (∀ st, x.settings (a.overlay file).named = .ok st ↔ ∀ k, x.apart a file k = .ok (st.get k)) ∧
    ((∃ e, x.settings (a.overlay file).named = .error e) ↔ ∃ k e, x.apart a file k = .error e) ∧
    (∀ st st', x.settings (a.overlay file).named = .ok st → x.settings file.named = .ok st' →
      ∀ k, a.flag? k = none → st.get k = st'.get k) ∧
    ∀ (m : Memory) (i : Nat), m[i]? = some file →
      a.overlayAt i m = .ok m.length (m ++ [a.overlay file]) := by
  refine ⟨fun st => settings_overlay_eq_ok hflags, ?_, fun st st' h h' k hk => ?_,
    fun m i => Arguments.overlayAt_apply⟩
  · have hall : (∃ st, x.settings (a.overlay file).named = .ok st) ↔
        ∀ k, ∃ b, x.apart a file k = .ok b := by
      simp only [settings_overlay_eq_ok hflags]
      exact ⟨fun ⟨st, h⟩ k => ⟨_, h k⟩, Settings.exists_get⟩
    rw [exists_error_iff, ← not_exists, hall, not_forall]
    exact exists_congr fun k => by rw [exists_error_iff, not_exists]
  · obtain ⟨env, hx, hg⟩ := settings_eq_ok.1 h'
    have hread := (settings_ok_iff hx).1 h k
    rw [Sources.inEffect?_overlay hk, (settings_ok_iff hx).1 h' k] at hread
    exact (Option.some.inj hread).symm

/-- Hosts and port from the command line, over a file with a port that is none and surroundings with
a table. -/
theorem settings_overlay_port :
    let x : Surroundings :=
      ⟨.ofList [("RETHINKDB_HOST", "db9")], .ofText "RETHINKDB_TABLE=t\n", true⟩
    let a : Arguments := { Arguments.none with host := .value "db1, db2", port := .value 29015 }
    let file : Properties :=
      .ofFields [("rethinkdb.host", .str "db7"), ("host", .str "db8"), ("port", .str "none")]
    (∀ k v, a.flag? k = some v → Text.trim v.text ≠ "") ∧
      (∃ e, x.settings file.named = .error e) ∧
      x.settings (a.overlay file).named =
        .ok ⟨⟨["db1", "db2"], by decide⟩, 29015, .hard, "t", "ycsb", none, 20⟩ ∧
      a.overlayAt 0 [file] = .ok 1 [file, a.overlay file] := by
  intro x a file
  have hflags : ∀ k v, a.flag? k = some v → Text.trim v.text ≠ "" := by
    intro k v h
    cases k <;> cases h <;> decide +kernel
  have hx : x.seen = .ok (some (.ofList [("RETHINKDB_HOST", "db9"), ("RETHINKDB_TABLE", "t")])) :=
    seen_of_toOption (by decide +kernel)
  obtain ⟨hget, -, -, hcopy⟩ := settings_overlay x a file hflags
  refine ⟨hflags, ?_, (hget _).2 fun k => (apart_eq_ok hx hflags).2 ?_, hcopy [file] 0 rfl⟩
  · refine exists_error_iff.2 fun st h => ?_
    have hport := (settings_ok_iff hx).1 h .port
    have hnone : Setting.port.read (Sources.inEffect? ⟨file.named, some (.ofList
        [("RETHINKDB_HOST", "db9"), ("RETHINKDB_TABLE", "t")])⟩ .port) = none := by decide +kernel
    cases hnone.symm.trans hport
  · cases k <;> decide +kernel

end Surroundings

end CrudBench
