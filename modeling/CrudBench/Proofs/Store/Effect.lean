import CrudBench.Proofs.Store.Schema

/-!
# What calls do to a store

Whatever a call is about, it is traced, disarms the failure that it meets, and changes the databases
by at most a database, a table or one table's content (`StoreClient.ask_ends`). A write changes a
table only if its receipt confirms it, as long as the tables hold records only
(`Table.Reports`).
-/

namespace CrudBench

/-! ## Tables that hold records -/

lemma Dictionary.mem_of_lookup {α : Type} {name : Value} {a : α} {es : List (Value × α)}
    (h : lookup name es = some a) : ∃ x ∈ es, x.2 = a := by
  induction es with
  | nil => cases h
  | cons e es ih =>
    rw [lookup] at h
    split at h
    · exact ⟨e, List.mem_cons_self, Option.some.inj h⟩
    · obtain ⟨x, hx, ha⟩ := ih h
      exact ⟨x, List.mem_cons_of_mem _ hx, ha⟩

lemma Dictionary.value_of_mem_putEntry {α : Type} {name : Value} {a : α} {es : List (Value × α)}
    {x : Value × α} (h : x ∈ putEntry name a es) : x.2 = a ∨ x ∈ es := by
  induction es with
  | nil =>
    cases List.mem_singleton.1 h
    exact .inl rfl
  | cons e es ih =>
    rw [putEntry] at h
    split at h
    · rcases List.mem_cons.1 h with rfl | h
      · exact .inl rfl
      · exact .inr (List.mem_cons_of_mem _ h)
    · rcases List.mem_cons.1 h with rfl | h
      · exact .inr List.mem_cons_self
      · exact (ih h).imp_right (List.mem_cons_of_mem _)

namespace Table

/-- The table holds records only, under whatever names. -/
def Rowed (t : Table) : Prop := ∀ x ∈ t.entries, ∃ row, x.2 = .row row

lemma rowed_empty : Rowed Dictionary.empty := nofun

lemma Recorded.rowed {t : Table} (h : t.Recorded) : t.Rowed := by
  intro x hx
  obtain ⟨k, row, rfl⟩ := h x hx
  exact ⟨row, rfl⟩

namespace Rowed

variable {t : Table} (h : t.Rowed)

include h

lemma put (key : Value) (row : Row) : Rowed (t.put key (.row row)) := by
  intro x hx
  rcases Dictionary.value_of_mem_putEntry hx with hx | hx
  · exact ⟨row, hx⟩
  · exact h x hx

lemma erase (key : Value) : Rowed (t.erase key) := fun x hx => h x (List.mem_filter.1 hx).1

lemma row_of_get? {key : Value} {e : Entry} (he : t.get? key = some e) : ∃ row, e = .row row := by
  obtain ⟨x, hx, rfl⟩ := Dictionary.mem_of_lookup he
  exact h x hx

end Rowed

/-- The change of a table of records is receipted, and leaves a table of records. The table is the
same unless the receipt confirms that the counter is one. -/
def Reports (wanted : Counter) (change : Table → Except Misfit (Value × Table)) : Prop :=
  ∀ t v t', t.Rowed → change t = .ok (v, t') →
    t'.Rowed ∧ ∃ r, Receipt.ofValue? v = some r ∧ (r.confirms wanted = false → t' = t)

/-- Values that are returned by a name are returned by the value itself, if it is a name. -/
lemma bind_asName_eq_ok {α : Type} {key : Value} {f : Value → Except Misfit α} {a : α}
    (h : (key.asName >>= f) = .ok a) : f key = .ok a := by
  rw [Value.asName] at h
  split at h
  · exact h
  · cases h

lemma reports_update (key : Value) (values : Document) :
    Reports .replaced (update · key values) := by
  intro t v t' ht h
  have h := bind_asName_eq_ok h
  cases he : t.get? key with
  | none =>
    rw [he] at h
    cases h
    exact ⟨ht, _, rfl, fun _ => rfl⟩
  | some e =>
    obtain ⟨row, rfl⟩ := ht.row_of_get? he
    rw [he] at h
    dsimp only at h
    split at h
    · cases h
      exact ⟨ht, _, rfl, fun _ => rfl⟩
    · cases h
      exact ⟨ht.put key _, _, rfl, nofun⟩

lemma reports_insert (row : Row) : Reports .inserted (insert · row) := by
  intro t v t' ht h
  have h := bind_asName_eq_ok h
  split at h
  · cases h
    exact ⟨ht, _, rfl, fun _ => rfl⟩
  · cases h
    exact ⟨ht.put _ row, _, rfl, nofun⟩

lemma reports_delete (key : Value) : Reports .deleted (delete · key) := by
  intro t v t' ht h
  dsimp only [delete] at h
  split at h
  · cases h
    exact ⟨ht, _, rfl, fun _ => rfl⟩
  · have h := bind_asName_eq_ok h
    cases he : t.get? key with
    | none =>
      rw [he] at h
      cases h
      exact ⟨ht, _, rfl, fun _ => rfl⟩
    | some e =>
      obtain ⟨row, rfl⟩ := ht.row_of_get? he
      rw [he] at h
      cases h
      exact ⟨ht.erase key, _, rfl, nofun⟩

end Table

namespace Databases

/-- Every table of the databases holds records only. -/
def Rowed (dbs : Databases) : Prop :=
  ∀ db t content, Databases.table? dbs db t = some content → content.Rowed

lemma Recorded.rowed {dbs : Databases} (h : dbs.Recorded) : dbs.Rowed :=
  fun db t content hc => (h db t content hc).rowed

lemma Rowed.ensureDatabase {dbs : Databases} (h : dbs.Rowed) (db : String) :
    Rowed (dbs.ensureDatabase db) := by
  intro db' t content hc
  rw [table?_ensureDatabase] at hc
  exact h db' t content hc

lemma Rowed.ensureTable {dbs : Databases} (h : dbs.Rowed) (db t : String) :
    Rowed (dbs.ensureTable db t) := by
  intro db' t' content hc
  rw [table?_ensureTable] at hc
  rcases Option.or_eq_some_iff.1 hc with hc | ⟨-, hc⟩
  · exact h db' t' content hc
  · split at hc
    · cases hc
      exact Table.rowed_empty
    · cases hc

/-- The second are the first after one table of a database was changed, which was answered with a
value. -/
def Rewritten (db : String) (change : Table → Except Misfit (Value × Table)) (v : Value)
    (dbs dbs' : Databases) : Prop :=
  ∃ t content content', dbs.table? db t = some content ∧ change content = .ok (v, content') ∧
    dbs' = dbs.putTable db t content'

/-- A change that is receipted leaves databases of records, which are the same unless the receipt
confirms it. -/
lemma Rewritten.reports {db : String} {change : Table → Except Misfit (Value × Table)} {v : Value}
    {dbs dbs' : Databases} {wanted : Counter} (h : Rewritten db change v dbs dbs')
    (hr : Table.Reports wanted change) (hd : dbs.Rowed) :
    dbs'.Rowed ∧ ∃ r, Receipt.ofValue? v = some r ∧ (r.confirms wanted = false → dbs' = dbs) := by
  obtain ⟨t, content, content', ht, hc, rfl⟩ := h
  obtain ⟨hrow, r, hv, hsame⟩ := hr content v content' (hd db t content ht) hc
  refine ⟨fun db' t' c h' => ?_, r, hv, fun hn => ?_⟩
  · rw [table?_putTable] at h'
    split at h'
    · cases h'
      exact hrow
    · exact hd db' t' c h'
  · rw [hsame hn]
    exact SortedMap.putAt_self ht

end Databases

/-! ## Calls -/

/-- The databases after a call, from those before it. -/
def Call.Changes (c : Call) (dbs dbs' : Databases) : Prop :=
  match c with
  | .databaseCreate db => dbs' = dbs.ensureDatabase db
  | .tableCreate db t _ _ => dbs' = dbs ∨ dbs' = dbs.ensureTable db t
  | .update db _ key values _ =>
    dbs' = dbs ∨ ∃ v, Databases.Rewritten db (Table.update · key values) v dbs dbs'
  | .insert db _ row _ =>
    dbs' = dbs ∨ ∃ v, Databases.Rewritten db (Table.insert · row) v dbs dbs'
  | .delete db _ key _ =>
    dbs' = dbs ∨ ∃ v, Databases.Rewritten db (Table.delete · key) v dbs dbs'
  | _ => dbs' = dbs

/-- No call puts anything but records into tables of records. -/
lemma Call.Changes.rowed {c : Call} {dbs dbs' : Databases} (h : c.Changes dbs dbs')
    (hd : dbs.Rowed) : dbs'.Rowed := by
  cases c with
  | databaseCreate db =>
    subst h
    exact hd.ensureDatabase db
  | tableCreate db t key durability =>
    rcases h with rfl | rfl
    · exact hd
    · exact hd.ensureTable db t
  | update db t key values durability =>
    rcases h with rfl | ⟨v, h⟩
    · exact hd
    · exact (h.reports (Table.reports_update key values) hd).1
  | insert db t row durability =>
    rcases h with rfl | ⟨v, h⟩
    · exact hd
    · exact (h.reports (Table.reports_insert row) hd).1
  | delete db t key durability =>
    rcases h with rfl | ⟨v, h⟩
    · exact hd
    · exact (h.reports (Table.reports_delete key) hd).1
  | databaseList | tableList | tableWait | get | between =>
    cases h
    exact hd

/-- The store after a connection to it was tried. -/
def Store.dialled (w : Store) (e : Endpoint) : Store := { w with trace := w.trace ++ [.connect e] }

namespace StoreClient

lemma connect_apply (e : Endpoint) (l : Side) :
    connect e l =
      if l.near.refuses then
        .error (.connection (.unreachable (.str e.host) (.int e.port) "Connection refused"))
          ⟨l.near, l.far.dialled e⟩
      else .ok () ⟨{ l.near with isOpen := true }, l.far.dialled e⟩ := by
  simp only [connect, record, Action.bind_apply, Action.modify_apply, Action.get_apply]
  split <;> rfl

lemma close_apply (l : Side) :
    close l = if l.near.isOpen then .ok () ⟨{ l.near with isOpen := false }, l.far⟩
      else .error (.connection .notConnected) l := by
  simp only [close, Action.bind_apply, Action.get_apply]
  split <;> rfl

/-- A table is found, or it is not; nothing changes. -/
lemma table_cases (db : String) (t : Value) (l : Side) :
    (∃ e, table db t l = .error e l) ∨
      ∃ name content, l.far.databases.table? db name = some content ∧
        table db t l = .ok (name, content) l := by
  simp only [table, Value.asName]
  cases t.isHashable with
  | false => exact .inl ⟨_, rfl⟩
  | true =>
    simp only [if_true, Action.given_ok, databases, Action.bind_apply, Action.pure_apply,
      Action.get_apply]
    cases hs : t.str? with
    | none => exact .inl ⟨_, rfl⟩
    | some name =>
      have ht : t = .str name := by
        cases t <;> simp_all [Value.str?]
      cases hc : l.far.databases.table? db name with
      | none => exact .inl ⟨_, by simp only [Option.bind_eq_bind, Option.bind_some, hc]; rfl⟩
      | some content =>
        refine .inr ⟨name, content, hc, ?_⟩
        simp only [Option.bind_eq_bind, Option.bind_some, hc, ht]
        rfl

/-- A write fails, and nothing changes, or it rewrites a table. -/
lemma write_cases (db : String) (t : Value) (change : Table → Except Misfit (Value × Table))
    (l : Side) :
    (∃ e, write db t change l = .error e l) ∨
      ∃ v dbs, Databases.Rewritten db change v l.far.databases dbs ∧
        write db t change l = .ok v ⟨l.near, ⟨dbs, l.far.trace⟩⟩ := by
  simp only [write, Action.bind_apply]
  obtain ⟨e, h⟩ | ⟨name, content, hc, h⟩ := table_cases db t l
  · exact .inl ⟨e, by rw [h]⟩
  · rw [h]
    dsimp only
    cases hchange : change content with
    | error e => exact .inl ⟨.misfit e, rfl⟩
    | ok done => exact .inr ⟨done.1, _, ⟨name, content, done.2, hc, hchange, rfl⟩, rfl⟩

lemma lookup_ends {α : Type} (db : String) (t : Value) (f : Table → Except Misfit α) (l : Side) :
    ((do Action.given (f (← table db t).2) : Action Side α).outcome l).2 = l := by
  rw [Action.outcome, Action.bind_apply]
  obtain ⟨e, h⟩ | ⟨name, content, -, h⟩ := table_cases db t l
  · rw [h]
  · rw [h]
    dsimp only
    cases f content <;> rfl

lemma write_ends (db : String) (t : Value) (change : Table → Except Misfit (Value × Table))
    (l : Side) :
    ∃ dbs, ((write db t change).outcome l).2 = ⟨l.near, ⟨dbs, l.far.trace⟩⟩ ∧
      (dbs = l.far.databases ∨ ∃ v, Databases.Rewritten db change v l.far.databases dbs) := by
  rw [Action.outcome]
  obtain ⟨e, h⟩ | ⟨v, dbs, hd, h⟩ := write_cases db t change l
  · exact ⟨l.far.databases, by rw [h], .inl rfl⟩
  · exact ⟨dbs, by rw [h], .inr ⟨v, hd⟩⟩

/-- An answer leaves the client and the trace as they are, and changes the databases as the call
says. -/
lemma answer_ends (c : Call) (l : Side) :
    ∃ dbs, ((answer c).outcome l).2 = ⟨l.near, ⟨dbs, l.far.trace⟩⟩ ∧
      c.Changes l.far.databases dbs := by
  cases c with
  | databaseList => exact ⟨_, rfl, rfl⟩
  | databaseCreate db => exact ⟨_, rfl, rfl⟩
  | tableList db =>
    refine ⟨l.far.databases, ?_, rfl⟩
    simp only [answer, database, databases, Action.outcome, Action.bind_apply, Action.get_apply,
      Action.pure_apply]
    cases l.far.databases.get? db <;> rfl
  | tableCreate db t key durability =>
    simp only [answer, database, databases, setDatabases, Action.outcome, Action.bind_apply,
      Action.get_apply, Action.pure_apply]
    cases l.far.databases.get? db with
    | none => exact ⟨l.far.databases, rfl, .inl rfl⟩
    | some tables => exact ⟨_, rfl, .inr rfl⟩
  | tableWait db t => exact ⟨_, rfl, rfl⟩
  | get db t key fields mode => exact ⟨_, lookup_ends db t (·.get key fields) l, rfl⟩
  | between db t low limit fields mode =>
    exact ⟨_, lookup_ends db t (·.between low limit fields) l, rfl⟩
  | update db t key values durability => exact write_ends db t (Table.update · key values) l
  | insert db t row durability => exact write_ends db t (Table.insert · row) l
  | delete db t key durability => exact write_ends db t (Table.delete · key) l

/-- A call is traced, and disarms the failure that it meets. The databases are as they were, or as
the call changes them. -/
lemma ask_ends (c : Call) (l : Side) :
    ∃ dbs, ((ask c).outcome l).2 = ⟨{ l.near with armed := none }, l.far.called c dbs⟩ ∧
      (dbs = l.far.databases ∨ c.Changes l.far.databases dbs) := by
  cases h : l.near.armed with
  | some message =>
    refine ⟨l.far.databases, ?_, .inl rfl⟩
    rw [Action.outcome, ask_of_armed h]
  | none =>
    -- the call is traced before it is answered
    obtain ⟨dbs, ha, hd⟩ := answer_ends c ⟨l.near, l.far.called c l.far.databases⟩
    refine ⟨dbs, ?_, .inr hd⟩
    rw [Action.outcome, ask_of_unarmed h, ← Action.outcome, ha]
    obtain ⟨⟨isOpen, refuses, armed, races⟩, far⟩ := l
    cases h
    rfl

end StoreClient

lemma Session.cleanup_apply (s : Session StoreClient Store) :
    cleanup s = if s.client.isOpen then
        .ok () { s with connected := false, client := { s.client with isOpen := false } }
      else .error (.connection .notConnected) { s with connected := false } := by
  have hc : Client.close ⟨s.client, s.far⟩ = _ := StoreClient.close_apply ⟨s.client, s.far⟩
  rw [cleanup, viaClient_apply, hc]
  cases s.client.isOpen <;> rfl

end CrudBench
