import CrudBench.Proofs.Query.Term
import Mathlib.Data.List.Forall2

/-!
# How deeply values are nested

A value has no term if it has more levels than can be sent. A query has none for that reason just
if one of the values has that it is built from (`Query.term_eq_tooDeep`).
-/

namespace CrudBench

namespace Value

mutual

/-- The levels of a value: a list or an object has one more than what it holds. -/
def levels : Value → Nat
  | list items => levelsOfItems items + 1
  | object fields => levelsOfFields fields + 1
  | null | bool _ | int _ | float _ | str _ => 1

/-- The most levels of an item. -/
def levelsOfItems : List Value → Nat
  | [] => 0
  | v :: vs => max (levels v) (levelsOfItems vs)

/-- The most levels of a field. -/
def levelsOfFields : List (String × Value) → Nat
  | [] => 0
  | (_, v) :: fs => max (levels v) (levelsOfFields fs)

end

/-- The value has more levels than can be sent. -/
def TooDeep (v : Value) : Prop := Term.nestingLimit < v.levels

end Value

namespace Term

/-- Mapping what is built keeps that it could not be built. -/
lemma map_eq_tooDeep {α β : Type} {x : Except DriverError α} (f : α → β) :
    x.map f = .error .tooDeep ↔ x = .error .tooDeep := by
  cases x <;> simp [Except.map]

/-- Of two things that are built one after the other one cannot be built. -/
lemma seq_eq_tooDeep {α β γ : Type} {x : Except DriverError α} {y : Except DriverError β}
    (hx : Yields (fun _ => True) (· = .tooDeep) x) (f : α → β → γ) :
    (do return f (← x) (← y) : Except DriverError γ) = .error .tooDeep ↔
      x = .error .tooDeep ∨ y = .error .tooDeep := by
  cases x with
  | error e =>
    have he : e = .tooDeep := hx
    subst he
    exact ⟨fun _ => .inl rfl, fun _ => rfl⟩
  | ok a =>
    have h : (do return f a (← y) : Except DriverError γ) = .error .tooDeep ↔
        y = .error .tooDeep := map_eq_tooDeep (f a)
    exact ⟨fun hr => .inr (h.1 hr), fun hr => h.2 (hr.resolve_left nofun)⟩

mutual

/-- A value has no term if it has more levels than it may have. -/
lemma ofNested_eq_tooDeep :
    ∀ (depth : Nat) (v : Value), ofNested depth v = .error .tooDeep ↔ depth < v.levels
  | 0, .null | 0, .bool _ | 0, .int _ | 0, .float _ | 0, .str _ | 0, .list _ | 0, .object _ =>
    ⟨fun _ => Nat.succ_pos _, fun _ => rfl⟩
  | depth + 1, .list items => by
    rw [ofNested, map_eq_tooDeep, ofItems_eq_tooDeep depth items, Value.levels,
      Nat.add_lt_add_iff_right]
  | depth + 1, .object fields => by
    rw [ofNested, map_eq_tooDeep, ofFields_eq_tooDeep depth fields, Value.levels,
      Nat.add_lt_add_iff_right]
  | depth + 1, .null | depth + 1, .bool _ | depth + 1, .int _ | depth + 1, .float _
  | depth + 1, .str _ => ⟨nofun, fun h => absurd h (Nat.not_lt.2 (Nat.succ_pos depth))⟩

/-- Items have no terms if one of them has more levels than it may have. -/
lemma ofItems_eq_tooDeep : ∀ (depth : Nat) (vs : List Value),
    ofItems depth vs = .error .tooDeep ↔ depth < Value.levelsOfItems vs
  | _, [] => ⟨nofun, nofun⟩
  | depth, v :: vs => by
    rw [ofItems, seq_eq_tooDeep (yields_ofNested depth v), ofNested_eq_tooDeep depth v,
      ofItems_eq_tooDeep depth vs, Value.levelsOfItems]
    omega

/-- Fields have no terms if one of them has more levels than it may have. -/
lemma ofFields_eq_tooDeep : ∀ (depth : Nat) (fs : List (String × Value)),
    ofFields depth fs = .error .tooDeep ↔ depth < Value.levelsOfFields fs
  | _, [] => ⟨nofun, nofun⟩
  | depth, (k, v) :: fs => by
    rw [ofFields, seq_eq_tooDeep (yields_ofNested depth v) fun t ts => (k, t) :: ts,
      ofNested_eq_tooDeep depth v, ofFields_eq_tooDeep depth fs, Value.levelsOfFields]
    omega

end

end Term

/-! ## Queries -/

/-- What is built from values cannot be built if one of them is nested too deeply, and for no other
reason. -/
structure BuiltFrom {α : Type} (vs : List Value) (x : Except DriverError α) : Prop where
  yields : Yields (fun _ => True) (· = .tooDeep) x
  tooDeep : x = .error .tooDeep ↔ ∃ v ∈ vs, v.TooDeep

namespace BuiltFrom

variable {α β γ : Type} {vs ws : List Value}

lemma of_ok (a : α) : BuiltFrom [] (.ok a : Except DriverError α) := ⟨trivial, by simp⟩

lemma value (v : Value) : BuiltFrom [v] (Term.ofValue v) :=
  ⟨Term.yields_ofNested _ v, (Term.ofNested_eq_tooDeep _ v).trans (by simp [Value.TooDeep])⟩

/-- What is built one after the other is built from the values of both. -/
lemma seq {x : Except DriverError α} {y : Except DriverError β} (hx : BuiltFrom vs x)
    (hy : BuiltFrom ws y) (f : α → β → γ) :
    BuiltFrom (vs ++ ws) (do return f (← x) (← y) : Except DriverError γ) := by
  refine ⟨hx.yields.bind fun a _ => hy.yields.bind fun b _ => trivial, ?_⟩
  rw [Term.seq_eq_tooDeep hx.yields, hx.tooDeep, hy.tooDeep]
  simp only [List.mem_append, or_and_right, exists_or]

lemma map {x : Except DriverError α} (hx : BuiltFrom vs x) (f : α → β) :
    BuiltFrom vs (do return f (← x) : Except DriverError β) :=
  ⟨hx.yields.bind fun _ _ => trivial, (Term.map_eq_tooDeep f).trans hx.tooDeep⟩

/-- What is built item by item is built from the values of all items. -/
lemma mapM {f : α → Except DriverError β} {vss : List (List Value)} {as : List α}
    (h : List.Forall₂ (fun vs a => BuiltFrom vs (f a)) vss as) :
    BuiltFrom vss.flatten (as.mapM f) := by
  induction h with
  | nil => exact of_ok []
  | cons h _ ih =>
    rw [List.mapM_cons]
    exact h.seq ih List.cons

end BuiltFrom

namespace Query

variable {vs : List Value}

/-- An operation is built from its arguments and options. -/
lemma builtFrom_apply (op : Op) {vss wss : List (List Value)} {args : List Built}
    {options : List (String × Built)} (ha : List.Forall₂ BuiltFrom vss args)
    (ho : List.Forall₂ (fun vs (o : String × Built) => BuiltFrom vs o.2) wss options) :
    BuiltFrom (vss.flatten ++ wss.flatten) (apply op args options) :=
  (BuiltFrom.mapM ha).seq (.mapM (ho.imp fun _ o h => h.map (Prod.mk o.1))) (Term.call op)

/-- The read mode of a table, if one is asked for. -/
def modeParts (mode : Value) : List Value := if mode.isTruthy then [mode] else []

/-- The names of fields, if any are asked for. -/
def fieldParts (fields : Value) : List Value :=
  if fields.isTruthy then fields.items?.getD [] else []

/-- The values that the term of a query is built from. -/
def parts : Query → List Value
  | databaseList => []
  | databaseCreate database | tableList database => [database]
  | tableCreate database table key durability => [database, table, key, durability]
  | tableWait database table => [database, table]
  | get database table key fields mode =>
    database :: table :: modeParts mode ++ key :: fieldParts fields
  | between database table low limit fields mode =>
    database :: table :: modeParts mode ++ low :: limit :: fieldParts fields
  | update database table key values durability => [database, table, key, values, durability]
  | insert database table document durability => [database, table, document, durability]
  | delete database table key durability => [database, table, key, durability]

lemma builtFrom_databaseTerm (database : Value) : BuiltFrom [database] (databaseTerm database) :=
  builtFrom_apply .database (.cons (.value database) .nil) .nil

lemma builtFrom_tableTerm (database table mode : Value) :
    BuiltFrom (database :: table :: modeParts mode) (tableTerm database table mode) := by
  have ha : List.Forall₂ BuiltFrom [[database], [table]]
      [databaseTerm database, Term.ofValue table] :=
    .cons (builtFrom_databaseTerm database) (.cons (.value table) .nil)
  rw [tableTerm, modeParts]
  split
  · exact builtFrom_apply .table ha (.cons (a := [mode]) (.value mode) .nil)
  · exact builtFrom_apply .table ha .nil

lemma builtFrom_recordTerm (database table key mode : Value) :
    BuiltFrom (database :: table :: modeParts mode ++ [key])
      (recordTerm database table key mode) := by
  have h := builtFrom_apply .get
    (.cons (builtFrom_tableTerm database table mode) (.cons (.value key) .nil)) .nil
  rw [recordTerm]
  simpa using h

lemma builtFrom_rangeTerm (database table low limit mode : Value) :
    BuiltFrom (database :: table :: modeParts mode ++ [low, limit])
      (rangeTerm database table low limit mode) := by
  have hmax : BuiltFrom [] (apply .maxValue [] []) := .of_ok _
  have hkey : BuiltFrom [] (apply .ascending [Term.ofValue (.str primaryKey)] []) := .of_ok _
  have hrange := builtFrom_apply .between (.cons (builtFrom_tableTerm database table mode)
    (.cons (.value low) (.cons hmax .nil))) .nil
  have hsorted := builtFrom_apply .orderBy (.cons hrange .nil)
    (.cons (b := ("index", apply .ascending [Term.ofValue (.str primaryKey)] [])) hkey .nil)
  have h := builtFrom_apply .limit (.cons hsorted (.cons (.value limit) .nil)) .nil
  rw [rangeTerm]
  simpa using h

/-- Fields are taken from a subject if they are names, and else it is built in vain. -/
lemma pluck_cases {subject : Built} (h : BuiltFrom vs subject) (fields : Value) :
    BuiltFrom (vs ++ fields.items?.getD []) (pluck subject fields) ∨
      fields.items? = none ∧
        pluck subject fields = subject.bind fun _ => .error (.notNames fields.kind) := by
  rw [pluck]
  cases hn : fields.items? with
  | some names =>
    left
    have hnames : List.Forall₂ BuiltFrom (names.map fun v => [v]) (names.map Term.ofValue) := by
      rw [List.forall₂_map_left_iff, List.forall₂_map_right_iff, List.forall₂_same]
      exact fun v _ => .value v
    have hflat : (names.map fun v => [v]).flatten = names := by
      rw [← List.flatMap_def, List.flatMap_singleton']
    have hp := builtFrom_apply .pluck (.cons h hnames) .nil
    simpa [hflat] using hp
  | none => exact .inr ⟨rfl, rfl⟩

/-- A query is built from its parts, unless what should be field names is nothing to go through. -/
lemma term_cases (q : Query) :
    BuiltFrom q.parts q.term ∨ ∃ (subject : Built) (kind : ValueKind),
      BuiltFrom q.parts subject ∧ q.term = subject.bind fun _ => .error (.notNames kind) := by
  have hs (s : String) : BuiltFrom [] (Term.ofValue (.str s)) := .of_ok _
  have hnull : BuiltFrom [] (Term.ofValue .null) := .of_ok _
  cases q with
  | databaseList => exact .inl (builtFrom_apply .databaseList .nil .nil)
  | databaseCreate database =>
    exact .inl (builtFrom_apply .databaseCreate (.cons (.value database) .nil) .nil)
  | tableList database =>
    exact .inl (builtFrom_apply .tableList (.cons (builtFrom_databaseTerm database) .nil) .nil)
  | tableCreate database table key durability =>
    exact .inl (builtFrom_apply .tableCreate
      (.cons (builtFrom_databaseTerm database) (.cons (.value table) .nil))
      (.cons (b := ("primary_key", _)) (.value key)
        (.cons (b := ("durability", _)) (.value durability) .nil)))
  | tableWait database table =>
    exact .inl (builtFrom_apply .wait (.cons (builtFrom_tableTerm database table .null) .nil) .nil)
  | get database table key fields mode =>
    have hr := builtFrom_recordTerm database table key mode
    rw [term, parts, fieldParts]
    split
    · rcases pluck_cases hr fields with hp | ⟨hn, hp⟩
      · have hd := builtFrom_apply .default (.cons hp (.cons hnull .nil)) .nil
        exact .inl (by simpa using hd)
      · refine .inr ⟨_, fields.kind, by rwa [hn], ?_⟩
        -- the default is never come to
        rw [hp]
        cases recordTerm database table key mode <;> rfl
    · exact .inl hr
  | between database table low limit fields mode =>
    have hr := builtFrom_rangeTerm database table low limit mode
    rw [term, parts, fieldParts]
    split
    · rcases pluck_cases hr fields with hp | ⟨hn, hp⟩
      · exact .inl (by simpa using hp)
      · exact .inr ⟨_, fields.kind, by rwa [hn], hp⟩
    · exact .inl hr
  | update database table key values durability =>
    exact .inl (builtFrom_apply .update
      (.cons (builtFrom_recordTerm database table key .null) (.cons (.value values) .nil))
      (.cons (b := ("durability", _)) (.value durability) .nil))
  | insert database table document durability =>
    exact .inl (builtFrom_apply .insert
      (.cons (builtFrom_tableTerm database table .null) (.cons (.value document) .nil))
      (.cons (b := ("durability", _)) (.value durability)
        (.cons (b := ("conflict", _)) (hs "error") .nil)))
  | delete database table key durability =>
    exact .inl (builtFrom_apply .delete
      (.cons (builtFrom_recordTerm database table key .null) .nil)
      (.cons (b := ("durability", _)) (.value durability) .nil))

/-- A query has no term because of a value that is nested too deeply just if there is one among the
values that it is built from. -/
theorem term_eq_tooDeep (q : Query) : q.term = .error .tooDeep ↔ ∃ v ∈ q.parts, v.TooDeep := by
  rcases q.term_cases with h | ⟨subject, kind, h, ht⟩
  · exact h.tooDeep
  · rw [ht, ← h.tooDeep]
    cases subject with
    | ok t => exact ⟨nofun, nofun⟩
    | error e => exact Iff.rfl

/-- Every other reason why a query has no term is that it names no fields. -/
lemma eq_notNames_of_term {q : Query} {e : DriverError} (h : q.term = .error e)
    (he : e ≠ .tooDeep) : ∃ kind, e = .notNames kind := by
  rcases q.term_cases with hb | ⟨subject, kind, hb, ht⟩
  · have hy := hb.yields
    rw [h] at hy
    exact absurd hy he
  · have hy := hb.yields
    rw [h] at ht
    cases subject with
    | ok t => exact ⟨kind, Except.error.inj ht⟩
    | error e' => exact absurd ((Except.error.inj ht).trans hy) he

end Query

end CrudBench
