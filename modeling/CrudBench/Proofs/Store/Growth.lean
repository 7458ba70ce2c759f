import CrudBench.Proofs.Request
import CrudBench.Proofs.Store.Schema

/-!
# Databases that grow

No call to a store removes a database or a table, so whatever a backend asks for makes the databases
grow (`Session.Grown`). What makes sure of a database or a table also keeps all the others as they
were (`Databases.Kept`).
-/

namespace CrudBench

/-! ## Databases and what is there -/

/-- Something that a call can create. -/
inductive Creation where
  | database (db : String)
  | table (db t : String)
  deriving DecidableEq, Repr

/-- It is there. -/
def Creation.In (dbs : Databases) : Creation → Prop
  | database db => dbs.contains db = true
  | table db t => (dbs.table? db t).isSome = true

/-- The database of a table that is there is there. -/
lemma Creation.In.database {dbs : Databases} {db t : String} (h : (table db t).In dbs) :
    (database db).In dbs := by
  obtain ⟨content, hc⟩ := Option.isSome_iff_exists.1 h
  obtain ⟨tables, ht, -⟩ := Option.bind_eq_some_iff.1 hc
  exact Option.isSome_iff_exists.2 ⟨tables, ht⟩

namespace Databases

/-- Whatever is there in the first stays there in the second. -/
def Grows (dbs dbs' : Databases) : Prop := ∀ x : Creation, x.In dbs → x.In dbs'

/-- Every database of the first is there in the second, with all its tables as they were. -/
def Kept (dbs dbs' : Databases) : Prop :=
  ∀ db tables, dbs.get? db = some tables → ∃ tables', dbs'.get? db = some tables' ∧
    ∀ t content, tables.get? t = some content → tables'.get? t = some content

lemma Grows.refl (dbs : Databases) : dbs.Grows dbs := fun _ h => h

lemma Grows.trans {dbs dbs' dbs'' : Databases} (h : dbs.Grows dbs') (h' : dbs'.Grows dbs'') :
    dbs.Grows dbs'' := fun x hx => h' x (h x hx)

lemma Kept.refl (dbs : Databases) : dbs.Kept dbs := fun _ tables h => ⟨tables, h, fun _ _ ht => ht⟩

lemma Kept.trans {dbs dbs' dbs'' : Databases} (h : dbs.Kept dbs') (h' : dbs'.Kept dbs'') :
    dbs.Kept dbs'' := by
  intro db tables ht
  obtain ⟨tables', ht', hk⟩ := h db tables ht
  obtain ⟨tables'', ht'', hk'⟩ := h' db tables' ht'
  exact ⟨tables'', ht'', fun t content hc => hk' t content (hk t content hc)⟩

/-- Databases that are kept have grown. -/
lemma Kept.grows {dbs dbs' : Databases} (h : dbs.Kept dbs') : dbs.Grows dbs' := by
  intro x hx
  cases x with
  | database db =>
    obtain ⟨tables, ht⟩ := Option.isSome_iff_exists.1 hx
    obtain ⟨tables', ht', -⟩ := h db tables ht
    exact Option.isSome_iff_exists.2 ⟨tables', ht'⟩
  | table db t =>
    obtain ⟨content, hc⟩ := Option.isSome_iff_exists.1 hx
    obtain ⟨tables, ht, hc⟩ := Option.bind_eq_some_iff.1 hc
    obtain ⟨tables', ht', hk⟩ := h db tables ht
    exact Option.isSome_iff_exists.2 ⟨content, by rw [table?, ht']; exact hk t content hc⟩

/-- Making sure of a database keeps all of them. -/
lemma kept_ensureDatabase (dbs : Databases) (db : String) : dbs.Kept (dbs.ensureDatabase db) := by
  intro db' tables ht
  refine ⟨tables, ?_, fun _ _ h => h⟩
  rw [ensureDatabase]
  split
  · exact ht
  next hn =>
    rw [SortedMap.get?_insert]
    split
    next he =>
      refine absurd ?_ hn
      rw [SortedMap.contains, ← he, ht]
      rfl
    · exact ht

/-- Making sure of a table keeps all of them. -/
lemma kept_ensureTable (dbs : Databases) (db t : String) : dbs.Kept (dbs.ensureTable db t) := by
  intro db' tables ht
  rw [ensureTable]
  split
  · exact ⟨tables, ht, fun _ _ h => h⟩
  next hn =>
    -- the table that is added was not there, so every other is found as before
    by_cases he : db' = db
    · subst he
      refine ⟨tables.insert t .empty, ?_, fun t' content hc => ?_⟩
      · rw [putTable, SortedMap.get?_insert, if_pos rfl, ht]
        rfl
      · rw [SortedMap.get?_insert, if_neg]
        · exact hc
        · rintro rfl
          refine hn ?_
          rw [table?, ht]
          exact congrArg Option.isSome hc
    · refine ⟨tables, ?_, fun _ _ h => h⟩
      rw [putTable, SortedMap.get?_insert, if_neg he]
      exact ht

/-- Putting a table in makes databases grow. -/
lemma grows_putTable (dbs : Databases) (db t : String) (content : Table) :
    dbs.Grows (dbs.putTable db t content) := by
  intro x hx
  cases x with
  | database db' =>
    show SortedMap.contains (dbs.putTable db t content) db' = true
    rw [SortedMap.contains, putTable, SortedMap.get?_insert]
    split
    · rfl
    · exact hx
  | table db' t' =>
    show (Databases.table? (dbs.putTable db t content) db' t').isSome = true
    rw [table?_putTable]
    split
    · rfl
    · exact hx

end Databases

/-! ## Calls that make databases grow -/

/-- The second side has come from the first by calls that made databases grow, without a failure
that is armed. -/
structure StoreClient.Grown (l₀ l : Side) : Prop where
  unarmed : l.near.armed = none
  grows : Databases.Grows l₀.far.databases l.far.databases

namespace StoreClient

variable {l₀ : Side} {F : Fault → Prop}

lemma keeps_record (e : StoreEvent) : Action.Keeps (Grown l₀) (fun _ => True) F (record e) :=
  fun _ hl => ⟨⟨hl.unarmed, hl.grows⟩, trivial⟩

/-- No failure is met. -/
lemma keeps_tripwire : Action.Keeps (Grown l₀) (fun _ => True) F tripwire := by
  refine Action.keeps_get.bind fun l hl => ?_
  rw [hl.unarmed]
  exact Action.keeps_pure trivial

lemma keeps_databases : Action.Keeps (Grown l₀) (Databases.Grows l₀.far.databases) F databases :=
  Action.keeps_get.bind fun _ hl => Action.keeps_pure hl.grows

lemma keeps_setDatabases {dbs : Databases} (h : Databases.Grows l₀.far.databases dbs) :
    Action.Keeps (Grown l₀) (fun _ => True) F (setDatabases dbs) :=
  fun _ hl => ⟨⟨hl.unarmed, h⟩, trivial⟩

lemma keeps_database (db : String) :
    Action.Keeps (Grown l₀) (fun _ => True) (fun _ => True) (database db) := by
  refine keeps_databases.bind fun dbs _ => ?_
  split
  · exact Action.keeps_pure trivial
  · exact Action.keeps_throw trivial

lemma keeps_table (db : String) (t : Value) :
    Action.Keeps (Grown l₀) (fun _ => True) (fun _ => True) (table db t) := by
  refine (Action.keeps_given (fun _ _ => trivial) fun _ => trivial).bind fun name _ => ?_
  refine keeps_databases.bind fun dbs _ => ?_
  split
  · exact Action.keeps_pure trivial
  · exact Action.keeps_throw trivial

/-- A write removes no database and no table. -/
lemma keeps_write (db : String) (t : Value) (change : Table → Except Misfit (Value × Table)) :
    Action.Keeps (Grown l₀) (fun _ => True) (fun _ => True) (write db t change) := by
  refine (keeps_table db t).bind fun found _ => ?_
  refine (Action.keeps_given (fun _ _ => trivial) fun _ => trivial).bind fun done _ => ?_
  refine keeps_databases.bind fun dbs hdbs => ?_
  exact (keeps_setDatabases (hdbs.trans (dbs.grows_putTable db found.1 done.2))).bind fun _ _ =>
    Action.keeps_pure trivial

/-- No answer removes a database or a table. -/
lemma keeps_answer (c : Call) :
    Action.Keeps (Grown l₀) (fun _ => True) (fun _ => True) (answer c) := by
  cases c with
  | databaseList => exact keeps_databases.bind fun _ _ => Action.keeps_pure trivial
  | databaseCreate db =>
    refine keeps_databases.bind fun dbs hdbs => ?_
    refine (keeps_setDatabases (hdbs.trans (dbs.kept_ensureDatabase db).grows)).bind fun _ _ => ?_
    exact Action.keeps_get.bind fun _ _ => Action.keeps_pure trivial
  | tableList db => exact (keeps_database db).bind fun _ _ => Action.keeps_pure trivial
  | tableCreate db t key durability =>
    refine (keeps_database db).bind fun tables _ => keeps_databases.bind fun dbs hdbs => ?_
    refine (keeps_setDatabases (hdbs.trans (dbs.kept_ensureTable db t).grows)).bind fun _ _ => ?_
    exact Action.keeps_get.bind fun _ _ => Action.keeps_pure trivial
  | tableWait db t => exact Action.keeps_pure trivial
  | get db t key fields mode | between db t low limit fields mode =>
    exact (keeps_table db t).bind fun _ _ =>
      Action.keeps_given (fun _ _ => trivial) fun _ => trivial
  | update db t key values durability => exact keeps_write db t (Table.update · key values)
  | insert db t row durability => exact keeps_write db t (Table.insert · row)
  | delete db t key durability => exact keeps_write db t (Table.delete · key)

/-- No call removes a database or a table. -/
lemma keeps_ask (c : Call) : Action.Keeps (Grown l₀) (fun _ => True) (fun _ => True) (ask c) :=
  (keeps_record _).bind fun _ _ => keeps_tripwire.bind fun _ _ => keeps_answer c

end StoreClient

/-- The second session has come from the first by calls that made databases grow, without a failure
that is armed. -/
structure Session.Grown (s t : Session StoreClient Store) : Prop where
  settings : t.settings = s.settings
  link : StoreClient.Grown ⟨s.client, s.far⟩ ⟨t.client, t.far⟩

namespace Session.Grown

variable {s : Session StoreClient Store}

/-- Asking removes no database and no table. -/
lemma keeps_ask (c : Call) : Action.Keeps s.Grown (fun _ => True) (fun _ => True) (ask c) :=
  keeps_viaClient (StoreClient.keeps_ask c) (fun _ ht => ht.link) fun _ _ ht hl => ⟨ht.settings, hl⟩

/-- Whatever is made of calls removes no database and no table. -/
lemma stable (s : Session StoreClient Store) : Stable s.Grown (fun _ => True) where
  ticked ht := ⟨ht.settings, ht.link⟩
  logged ht _ := ⟨ht.settings, ht.link⟩
  ask := keeps_ask
  misfit _ := trivial
  rejected _ _ := trivial

end Session.Grown

end CrudBench
