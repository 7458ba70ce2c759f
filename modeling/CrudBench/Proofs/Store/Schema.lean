import CrudBench.Proofs.Initialisation
import CrudBench.Proofs.Store.Answer

/-!
# Schemas of a store

What a client of a store answers to calls about databases and tables while no failure is armed, and
what a backend that makes its schema ready does to the databases with it: it adds its database and
its table if they are not there (`Session.ensureSchema_apply`).
-/

namespace CrudBench

/-! ## Databases and their names -/

/-- The keys of a map are listed as what the map contains. -/
lemma Session.lists_keys {α : Type} (m : SortedMap α) (name : String) :
    lists (m.keys.map Value.str) name = m.contains name := by
  rw [Bool.eq_iff_iff, ← SortedMap.mem_keys, lists, List.any_map, List.any_eq_true]
  constructor
  · rintro ⟨k, hk, he⟩
    rwa [← eq_of_beq (show (k == name) = true from he)]
  · intro h
    exact ⟨name, h, beq_self_eq_true name⟩

namespace Databases

/-- The names of the tables of a database. -/
def tableNames (dbs : Databases) (db : String) : List String := ((dbs.get? db).getD .empty).keys

/-- A table is there if its database lists it. -/
lemma mem_tableNames {dbs : Databases} {db t : String} :
    t ∈ dbs.tableNames db ↔ (dbs.table? db t).isSome = true := by
  rw [tableNames, SortedMap.mem_keys, table?]
  cases dbs.get? db <;> rfl

/-- A database that was made sure of is there. -/
lemma contains_ensureDatabase (dbs : Databases) (db : String) :
    (dbs.ensureDatabase db).contains db = true := by
  rw [ensureDatabase]
  split
  next h => exact h
  · rw [SortedMap.contains, SortedMap.get?_insert, if_pos rfl]
    rfl

/-- Making sure of a database does not change what tables hold. -/
lemma table?_ensureDatabase (dbs : Databases) (db db' t : String) :
    (dbs.ensureDatabase db).table? db' t = dbs.table? db' t := by
  rw [ensureDatabase]
  split
  · rfl
  next h =>
    have hn : dbs.get? db = none := by simpa [SortedMap.contains] using h
    rw [table?, SortedMap.get?_insert]
    split
    next he =>
      rw [he, table?, hn]
      rfl
    · rfl

/-- Making sure of a table adds one without records, or nothing. -/
lemma table?_ensureTable (dbs : Databases) (db t db' t' : String) :
    (dbs.ensureTable db t).table? db' t' =
      (dbs.table? db' t').or (if db' = db ∧ t' = t then some Dictionary.empty else none) := by
  rw [ensureTable]
  split
  next h =>
    by_cases he : db' = db ∧ t' = t
    · obtain ⟨rfl, rfl⟩ := he
      obtain ⟨content, hc⟩ := Option.isSome_iff_exists.1 h
      rw [hc]
      rfl
    · rw [if_neg he, Option.or_none]
  next h =>
    have hn : dbs.table? db t = none := by simpa using h
    rw [table?_putTable]
    by_cases he : db' = db ∧ t' = t
    · obtain ⟨rfl, rfl⟩ := he
      rw [hn, if_pos ⟨rfl, rfl⟩]
      rfl
    · rw [if_neg he, if_neg he, Option.or_none]

/-- Databases of records stay so if a database and a table are made sure of. -/
lemma Recorded.ensure {dbs : Databases} (h : dbs.Recorded) (db t : String) :
    Recorded ((dbs.ensureDatabase db).ensureTable db t) := by
  intro db' t' content hc
  rw [table?_ensureTable, table?_ensureDatabase] at hc
  cases ht : dbs.table? db' t' with
  | some content' =>
    rw [ht] at hc
    cases hc
    exact h db' t' content ht
  | none =>
    rw [ht, Option.none_or] at hc
    split at hc
    · cases hc
      exact Table.recorded_empty
    · cases hc

/-- Making sure of a database and a table is making sure of their contents. -/
lemma records_ensure (dbs : Databases) (db t : String) :
    records ((dbs.ensureDatabase db).ensureTable db t) = (records dbs).ensure db t := by
  rw [ensureTable, table?_ensureDatabase, Contents.ensure, at?_records, Option.isSome_map]
  split
  next h =>
    obtain ⟨content, hc⟩ := Option.isSome_iff_exists.1 h
    obtain ⟨tables, ht, -⟩ := Option.bind_eq_some_iff.1 hc
    rw [ensureDatabase, if_pos (by rw [SortedMap.contains, ht]; rfl)]
  · -- a database that is added for the table is the empty one that the table is put in anyway
    rw [records_putTable, Table.records_empty, ensureDatabase]
    split
    · rfl
    next h =>
      have hn : (records dbs).get? db = none := by
        have hd : dbs.get? db = none := by simpa [SortedMap.contains] using h
        rw [records, SortedMap.get?_map, hd]
        rfl
      rw [records, SortedMap.map_insert]
      exact SortedMap.putAt_insert_empty hn t .empty

end Databases

/-! ## Calls of a bootstrap -/

namespace Databases

/-- The calls that make a database ready: it is created unless it is listed. -/
def callsForDatabase (dbs : Databases) (db : String) : List Call :=
  .databaseList :: if db ∈ dbs.keys then [] else [.databaseCreate db]

/-- The calls that make a table ready: it is created unless its database lists it. -/
def callsForTable (dbs : Databases) (db t : String) (durability : Durability) : List Call :=
  .tableList db :: if t ∈ dbs.tableNames db then [] else [.tableCreate db t primaryKey durability]

lemma callsForTable_ensureDatabase (dbs : Databases) (db db' t : String) (durability : Durability) :
    (dbs.ensureDatabase db).callsForTable db' t durability =
      dbs.callsForTable db' t durability := by
  simp only [callsForTable, mem_tableNames, table?_ensureDatabase]

end Databases

/-- The calls that make a schema ready. -/
def Settings.calls (st : Settings) (dbs : Databases) : List Call :=
  dbs.callsForDatabase st.database ++ dbs.callsForTable st.database st.table st.durability ++
    [.tableWait st.database st.table]

/-- The databases once a schema was made ready. -/
def Settings.ensured (st : Settings) (dbs : Databases) : Databases :=
  (dbs.ensureDatabase st.database).ensureTable st.database st.table

/-- The store after calls have reached it and left it with these databases. -/
def Store.calledAll (w : Store) (cs : List Call) (dbs : Databases) : Store :=
  ⟨dbs, w.trace ++ cs.map .call⟩

namespace Session

variable {s : Session StoreClient Store}

/-! ## Calls about databases and tables -/

section Calls

variable (h : s.client.armed = none) (db t : String)

include h

lemma ask_databaseList : ask .databaseList s =
    .ok (s.far.databases.keys.map Value.str) (s.asked .databaseList s.far.databases) :=
  ask_ok h .databaseList rfl

/-- A database is made sure of. It counts as created if it was not there, and nobody else was first.
-/
lemma ask_databaseCreate : ask (.databaseCreate db) s =
    .ok (!(s.far.databases.contains db || s.client.races.contains db))
      (s.asked (.databaseCreate db) (s.far.databases.ensureDatabase db)) :=
  ask_ok h (.databaseCreate db) rfl

lemma ask_tableList {tables : Database} (hd : s.far.databases.get? db = some tables) :
    ask (.tableList db) s =
      .ok (tables.keys.map Value.str) (s.asked (.tableList db) s.far.databases) := by
  refine ask_ok h (.tableList db) ?_
  simp only [StoreClient.answer, StoreClient.database, StoreClient.databases, Action.bind_apply,
    Action.get_apply, Action.pure_apply, Store.called, hd]

/-- A table of a database is made sure of. It counts as created if it was not there, and nobody else
was first. -/
lemma ask_tableCreate {tables : Database} (hd : s.far.databases.get? db = some tables)
    (key : String) (durability : Durability) :
    ask (.tableCreate db t key durability) s =
      .ok (!(tables.contains t || s.client.races.contains t))
        (s.asked (.tableCreate db t key durability) (s.far.databases.ensureTable db t)) := by
  refine ask_ok h (.tableCreate db t key durability) ?_
  simp only [StoreClient.answer, StoreClient.database, StoreClient.databases,
    StoreClient.setDatabases, Action.bind_apply, Action.get_apply, Action.pure_apply,
    Action.modify_apply, Store.called, hd]

lemma ask_tableWait :
    ask (.tableWait db t) s = .ok () (s.asked (.tableWait db t) s.far.databases) :=
  ask_ok h (.tableWait db t) rfl

end Calls

/-! ## Making a schema ready -/

/-- While no failure is armed, making a database ready makes sure of it. -/
lemma ensureDatabase_apply (h : s.client.armed = none) (db : String) :
    ∃ t, ensureDatabase db s = .ok () t ∧ t.toBackend = s.toBackend ∧
      t.far = s.far.calledAll (s.far.databases.callsForDatabase db)
        (s.far.databases.ensureDatabase db) := by
  simp only [ensureDatabase, Action.bind_apply, ask_databaseList h, lists_keys,
    Databases.callsForDatabase, SortedMap.mem_keys]
  by_cases hc : s.far.databases.contains db = true
  · rw [if_pos hc, if_pos hc, Databases.ensureDatabase, if_pos hc]
    exact ⟨_, rfl, rfl, rfl⟩
  · rw [if_neg hc, if_neg hc]
    have ha := ask_databaseCreate (s := s.asked .databaseList s.far.databases) h db
    simp only [Action.bind_apply, ha]
    refine ⟨_, rfl, rfl, ?_⟩
    rw [Store.calledAll, List.map_cons, List.append_cons]
    rfl

/-- While no failure is armed, making a table of a database ready makes sure of it. -/
lemma ensureTable_apply (h : s.client.armed = none) {db : String}
    (hd : s.far.databases.contains db = true) (t : String) (durability : Durability) :
    ∃ u, ensureTable db t durability s = .ok () u ∧ u.toBackend = s.toBackend ∧
      u.far = s.far.calledAll (s.far.databases.callsForTable db t durability)
        (s.far.databases.ensureTable db t) := by
  obtain ⟨tables, hd⟩ := Option.isSome_iff_exists.1 hd
  have ht : (s.far.databases.table? db t).isSome = tables.contains t := by
    rw [Databases.table?, hd]
    rfl
  simp only [ensureTable, Action.bind_apply, ask_tableList h db hd, lists_keys,
    Databases.callsForTable, Databases.mem_tableNames, ht, Databases.ensureTable]
  by_cases hc : tables.contains t = true
  · rw [if_pos hc, if_pos hc, if_pos hc]
    exact ⟨_, rfl, rfl, rfl⟩
  · rw [if_neg hc, if_neg hc, if_neg hc]
    have ha := ask_tableCreate (s := s.asked (.tableList db) s.far.databases) h db t hd primaryKey
      durability
    rw [asked_databases, Databases.ensureTable, ht, if_neg hc] at ha
    simp only [Action.bind_apply, ha]
    refine ⟨_, rfl, rfl, ?_⟩
    rw [Store.calledAll, List.map_cons, List.append_cons]
    rfl

/-- While no failure is armed, making a schema ready makes sure of its database and its table. -/
lemma ensureSchema_apply (h : s.client.armed = none) (st : Settings) :
    ∃ t, ensureSchema st s = .ok () t ∧ t.toBackend = s.toBackend ∧
      t.far = s.far.calledAll (st.calls s.far.databases) (st.ensured s.far.databases) := by
  obtain ⟨t, ht, hb, hf⟩ := ensureDatabase_apply h st.database
  have hc : t.far.databases.contains st.database = true := by
    rw [hf]
    exact Databases.contains_ensureDatabase s.far.databases st.database
  have hn : t.client.armed = none := by
    rw [hb]
    exact h
  obtain ⟨u, hu, hb', hf'⟩ := ensureTable_apply hn hc st.table st.durability
  have hn' : u.client.armed = none := by
    rw [hb']
    exact hn
  refine ⟨u.asked (.tableWait st.database st.table) u.far.databases, ?_, hb'.trans hb, ?_⟩
  · simp only [ensureSchema, Action.bind_apply, ht, hu, ask_tableWait hn']
  · show u.far.called _ u.far.databases = _
    rw [hf', hf]
    simp only [Store.called, Store.calledAll, Databases.callsForTable_ensureDatabase,
      Settings.calls, Settings.ensured, List.map_append, List.append_assoc]
    rfl

/-- A schema is made ready only while no failure is armed. -/
lemma unarmed_of_ensureSchema {st : Settings} {t : Session StoreClient Store}
    (h : ensureSchema st s = .ok () t) : s.client.armed = none := by
  cases ha : s.client.armed with
  | none => rfl
  | some message =>
    simp only [ensureSchema, ensureDatabase, Action.bind_apply, ask_of_armed ha .databaseList] at h
    cases h

end Session

/-- A client that opens a connection is open, and leaves the databases alone. -/
lemma StoreClient.connect_ok {e : Endpoint} {l l' : Side} (h : connect e l = .ok () l') :
    l'.near = { l.near with isOpen := true } ∧ l'.far.databases = l.far.databases := by
  simp only [connect, record, Action.bind_apply, Action.modify_apply, Action.get_apply] at h
  split at h
  · cases h
  · cases h
    exact ⟨rfl, rfl⟩

/-- An initialised session is connected and has settings, of which the database and the table are
there. No failure is armed. -/
lemma Session.init_ok {s t : Session StoreClient Store} (h : init s = .ok () t) :
    ∃ st, t.connected = true ∧ t.settings = some st ∧ t.client.armed = none ∧
      t.far.databases =
        (s.far.databases.ensureDatabase st.database).ensureTable st.database st.table := by
  rcases init_cases s with ⟨e, u, hu, -⟩ | ⟨st, host, u, hp, hi⟩
  · rw [hu] at h
    cases h
  · rw [hi] at h
    cases hx : Client.connect ⟨host, st.port, st.timeout⟩ ⟨u.client, u.far⟩ with
    | error e l =>
      rw [hx] at h
      cases h
    | ok a l =>
      obtain ⟨hn, hf⟩ := StoreClient.connect_ok hx
      rw [hx] at h
      have hv : ensureSchema st (u.opened l) = .ok () t := ensureSchema_of_bootstrap h
      have ha := unarmed_of_ensureSchema hv
      obtain ⟨w, hw, hb, hd⟩ := ensureSchema_apply ha st
      cases hv.symm.trans hw
      refine ⟨st, ?_, ?_, ?_, ?_⟩
      · rw [hb]
        exact congrArg StoreClient.isOpen hn
      · rw [hb]
        exact hp.settings
      · rw [hb]
        exact ha
      · rw [hd]
        show st.ensured (u.opened l).far.databases = _
        rw [show (u.opened l).far.databases = _ from hf, hp.far]
        rfl

end CrudBench
