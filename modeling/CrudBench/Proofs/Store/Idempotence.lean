import CrudBench.Proofs.Store.Growth
import CrudBench.Proofs.Store.Visit

/-!
# Bootstraps that are repeated

Initialising a backend adds its database and its table to a store if they are not there, and nothing
else. If it fails it changes no databases, and leaves no connection. So it can be repeated, and once
it succeeds the databases are those that it would have reached at first
(`World.inits_repeatable`).
-/

namespace CrudBench

/-! ## Databases that are made ready -/

namespace Databases

/-- The second databases keep all that is in the first. What they have beside it are the database
and the table of the settings, the table without records. -/
structure Extends (st : Settings) (dbs dbs' : Databases) : Prop where
  kept : dbs.Kept dbs'
  database : ∀ db, dbs'.contains db = true → dbs.contains db = true ∨ db = st.database
  table : ∀ db t content, dbs'.table? db t = some content → dbs.table? db t = some content ∨
    dbs.table? db t = none ∧ db = st.database ∧ t = st.table ∧ content = Dictionary.empty

lemma contains_of_ensureDatabase {dbs : Databases} {db db' : String}
    (h : (dbs.ensureDatabase db).contains db' = true) : dbs.contains db' = true ∨ db' = db := by
  rw [ensureDatabase] at h
  split at h
  · exact .inl h
  · rw [SortedMap.contains, SortedMap.get?_insert] at h
    split at h
    next he => exact .inr he
    · exact .inl h

lemma contains_of_ensureTable {dbs : Databases} {db t db' : String}
    (h : (dbs.ensureTable db t).contains db' = true) : dbs.contains db' = true ∨ db' = db := by
  rw [ensureTable] at h
  split at h
  · exact .inl h
  · rw [SortedMap.contains, putTable, SortedMap.get?_insert] at h
    split at h
    next he => exact .inr he
    · exact .inl h

/-- Making a schema ready adds a database and a table at most. -/
lemma extends_ensured (st : Settings) (dbs : Databases) : dbs.Extends st (st.ensured dbs) := by
  refine ⟨(dbs.kept_ensureDatabase _).trans (kept_ensureTable _ _ _), fun db h => ?_,
    fun db t content h => ?_⟩
  · rcases contains_of_ensureTable h with h | h
    · exact contains_of_ensureDatabase h
    · exact .inr h
  · rw [Settings.ensured, table?_ensureTable, table?_ensureDatabase] at h
    rcases Option.or_eq_some_iff.1 h with h | ⟨hn, h⟩
    · exact .inl h
    · split at h
      next he =>
        cases h
        exact .inr ⟨hn, he.1, he.2, rfl⟩
      · cases h

lemma isSome_ensured (st : Settings) (dbs : Databases) :
    ((st.ensured dbs).table? st.database st.table).isSome = true := by
  rw [Settings.ensured, table?_ensureTable, if_pos ⟨rfl, rfl⟩, Option.isSome_or]
  exact Bool.or_true _

/-- A schema that is there is listed and left alone. -/
lemma ensured_of_table {st : Settings} {dbs : Databases}
    (h : (dbs.table? st.database st.table).isSome = true) :
    st.ensured dbs = dbs ∧ st.calls dbs =
      [.databaseList, .tableList st.database, .tableWait st.database st.table] := by
  have hd : dbs.contains st.database = true := Creation.In.database (t := st.table) h
  constructor
  · rw [Settings.ensured, ensureDatabase, if_pos hd, ensureTable, if_pos h]
  · rw [Settings.calls, callsForDatabase, callsForTable, if_pos (SortedMap.mem_keys.2 hd),
      if_pos (mem_tableNames.2 h)]
    rfl

end Databases

namespace Settings

variable {st : Settings} {dbs : Databases}

lemma databaseCreate_mem_calls {db : String} :
    .databaseCreate db ∈ st.calls dbs ↔ db = st.database ∧ db ∉ dbs.keys := by
  simp only [calls, Databases.callsForDatabase, Databases.callsForTable]
  split <;> split <;> simp_all

lemma tableCreate_mem_calls {db t key : String} {durability : Durability} :
    .tableCreate db t key durability ∈ st.calls dbs ↔
      (db = st.database ∧ t = st.table ∧ key = primaryKey ∧ durability = st.durability) ∧
        t ∉ dbs.tableNames db := by
  simp only [calls, Databases.callsForDatabase, Databases.callsForTable]
  split <;> split <;> simp_all

end Settings

namespace Session

variable {s : Session StoreClient Store} {st : Settings}

/-! ## How initialisations end -/

lemma ensureSchema_of_armed {message : String} (h : s.client.armed = some message)
    (st : Settings) : ensureSchema st s = .error (.operation (.injected message))
      (s.linked ⟨{ s.client with armed := none },
        s.far.called .databaseList s.far.databases⟩) := by
  simp only [ensureSchema, ensureDatabase, Action.bind_apply, ask_of_armed h .databaseList]

lemma init_of_refused (hr : s.resolved = .ok st) (h : s.client.refuses = true) :
    ∃ x, init s = .error (.connection x)
      ((s.connecting st).linked ⟨s.client, s.far.dialled (s.endpoint st)⟩) := by
  have hc : Client.connect (s.endpoint st) ⟨s.client, s.far⟩ = _ :=
    StoreClient.connect_apply (s.endpoint st) ⟨s.client, s.far⟩
  rw [if_pos h] at hc
  rw [init_apply, hr]
  dsimp only
  rw [hc]
  exact ⟨_, rfl⟩

/-- The session once its client has opened a connection to the store. -/
def attached (s : Session StoreClient Store) (st : Settings) : Session StoreClient Store :=
  (s.connecting st).opened ⟨{ s.client with isOpen := true }, s.far.dialled (s.endpoint st)⟩

lemma init_of_accepted (hr : s.resolved = .ok st) (h : s.client.refuses = false) :
    init s = bootstrap st (s.attached st) := by
  have hc : Client.connect (s.endpoint st) ⟨s.client, s.far⟩ = _ :=
    StoreClient.connect_apply (s.endpoint st) ⟨s.client, s.far⟩
  rw [if_neg (by simp [h])] at hc
  rw [init_apply, hr]
  dsimp only
  rw [hc]
  rfl

/-- An initialisation that meets a failure that is armed fails, and gives the connection up. -/
lemma init_of_armed (hr : s.resolved = .ok st) (h : s.client.refuses = false) {message : String}
    (ha : s.client.armed = some message) :
    init s = .error (.connection (.bootstrap (.injected message)))
      { s.connecting st with
        connected := false
        client := { s.client with isOpen := false, armed := none }
        far := (s.far.dialled (s.endpoint st)).called .databaseList s.far.databases } := by
  rw [init_of_accepted hr h, bootstrap_apply, ensureSchema_of_armed (s := s.attached st) ha st]
  dsimp only
  rw [cleanup_apply]
  rfl

/-- An initialisation that meets no failure makes its schema ready. -/
lemma init_of_unarmed (hr : s.resolved = .ok st) (h : s.client.refuses = false)
    (ha : s.client.armed = none) :
    ∃ t, init s = .ok () t ∧ t.toBackend = (s.attached st).toBackend ∧
      t.far = (s.far.dialled (s.endpoint st)).calledAll (st.calls s.far.databases)
        (st.ensured s.far.databases) := by
  obtain ⟨t, ht, hb, hf⟩ := ensureSchema_apply (s := s.attached st) ha st
  refine ⟨t, ?_, hb, hf⟩
  rw [init_of_accepted hr h, bootstrap_apply, ht]

/-- The session with a client that accepts connections, and without a failure that is armed. -/
def repaired (s : Session StoreClient Store) : Session StoreClient Store :=
  { s with client := { s.client with refuses := false, armed := none } }

end Session

/-! ## What comes of initialisations -/

namespace Episode

/-- The initialisation has succeeded with these settings: their database and table are there, and
nothing else was added. It has made no calls but those of a bootstrap, and last it has waited for
the table. -/
structure Succeeded (e : Episode StoreClient Store) (st : Settings) : Prop where
  result : e.result = .ok .done
  connected : e.after.connected = true
  settings : e.after.settings = some st
  table : (e.after.far.databases.table? st.database st.table).isSome = true
  extended : e.before.far.databases.Extends st e.after.far.databases
  trace : e.after.far.trace = e.before.far.trace ++
    .connect (e.before.endpoint st) :: (st.calls e.before.far.databases).map .call
  last : e.after.far.trace.getLast? = some (.call (.tableWait st.database st.table))

/-- The initialisation has failed: there is no connection, the databases are as they were, and
nothing was asked for but a listing. -/
structure Failed (e : Episode StoreClient Store) : Prop where
  result : ∃ x, e.result = .error (.connection x)
  connected : e.after.connected = false
  isOpen : e.after.client.isOpen = false
  databases : e.after.far.databases = e.before.far.databases
  trace : ∃ es, e.after.far.trace = e.before.far.trace ++ es ∧ ∀ c, .call c ∈ es → c = .databaseList

end Episode

namespace Session

variable {s : Session StoreClient Store} {st : Settings}

lemma succeeded_of_unarmed (hr : s.resolved = .ok st) (h : s.client.refuses = false)
    (ha : s.client.armed = none) (i : Nat) :
    (Command.init.episode i s).Succeeded st ∧
      (Command.init.episode i s).after.far.databases = st.ensured s.far.databases := by
  obtain ⟨t, ht, hb, hf⟩ := init_of_unarmed hr h ha
  rw [Command.episode_init, Action.outcome, ht]
  refine ⟨⟨rfl, ?_, ?_, ?_, ?_, ?_, ?_⟩, ?_⟩
  all_goals dsimp only
  · rw [hb]
    rfl
  · rw [hb]
    rfl
  · rw [hf]
    exact Databases.isSome_ensured st _
  · rw [hf]
    exact Databases.extends_ensured st _
  · rw [hf]
    exact List.append_assoc ..
  · rw [hf]
    simp [Store.calledAll, Settings.calls]
  · rw [hf]
    rfl

/-- An initialisation without a connection succeeds, or fails. If it fails for another reason than
its configuration, the configuration still gives the same settings. -/
lemma init_ends (s : Session StoreClient Store) (hc : s.connected = false)
    (ho : s.client.isOpen = false) (i : Nat) :
    (∃ st, s.resolved = .ok st ∧ (Command.init.episode i s).Succeeded st ∧
      (Command.init.episode i s).after.far.databases = st.ensured s.far.databases) ∨
      (Command.init.episode i s).Failed ∧
        ∀ st, s.resolved = .ok st → (Command.init.episode i s).after.resolved = .ok st := by
  -- what stands in its way comes in this order: the configuration, the connection, a failure
  cases hr : s.resolved with
  | error x =>
    right
    rw [Command.episode_init, Action.outcome, init_apply, hr]
    exact ⟨⟨⟨_, rfl⟩, hc, ho, rfl, [], (List.append_nil _).symm, nofun⟩, nofun⟩
  | ok st =>
    have hload := resolved_loaded hr
    cases hf : s.client.refuses with
    | true =>
      right
      obtain ⟨x, hx⟩ := init_of_refused hr hf
      rw [Command.episode_init, Action.outcome, hx]
      refine ⟨⟨⟨x, rfl⟩, hc, ho, rfl, [.connect (s.endpoint st)], rfl, by simp⟩, ?_⟩
      rintro _ ⟨⟩
      exact hload
    | false =>
      cases ha : s.client.armed with
      | none => exact .inl ⟨st, rfl, succeeded_of_unarmed hr hf ha i⟩
      | some message =>
        right
        rw [Command.episode_init, Action.outcome, init_of_armed hr hf ha]
        refine ⟨⟨⟨_, rfl⟩, rfl, rfl, rfl, [.connect (s.endpoint st), .call .databaseList], ?_,
          by simp⟩, ?_⟩
        · exact List.append_assoc ..
        · rintro _ ⟨⟩
          exact hload

end Session

/-- What is wanted of the initialisation of a backend that is not connected. It succeeds, or fails
and changes no databases. With settings it succeeds where nothing stands in its way. If its database
and its table are there, it does no more than to make sure of that. It creates only what was not
listed. After a failure it can be repeated where nothing stands in its way, and then leads to the
databases that it would have led to at first. -/
structure Episode.Repeatable (e : Episode StoreClient Store) : Prop where
  ends : (∃ st, e.before.resolved = .ok st ∧ e.Succeeded st) ∨ e.Failed
  unhindered : ∀ st, e.before.resolved = .ok st → e.before.client.refuses = false →
    e.before.client.armed = none → e.Succeeded st
  idle : ∀ st, e.Succeeded st →
    (e.before.far.databases.table? st.database st.table).isSome = true →
      e.after.far.databases = e.before.far.databases ∧
        e.after.far.trace = e.before.far.trace ++ [.connect (e.before.endpoint st),
          .call .databaseList, .call (.tableList st.database),
          .call (.tableWait st.database st.table)]
  created : ∀ es, e.after.far.trace = e.before.far.trace ++ es →
    (∀ db, .call (.databaseCreate db) ∈ es → db ∉ e.before.far.databases.keys) ∧
      ∀ db t key durability, .call (.tableCreate db t key durability) ∈ es →
        t ∉ e.before.far.databases.tableNames db
  repeated : ∀ st, e.before.resolved = .ok st → e.Failed →
    (Command.init.episode e.backend e.after.repaired).Succeeded st ∧
      (Command.init.episode e.backend e.after.repaired).after.far.databases =
        (Command.init.episode e.backend e.before.repaired).after.far.databases

lemma Episode.Succeeded.mem_trace {e : Episode StoreClient Store} {st : Settings}
    (h : e.Succeeded st) {es : List StoreEvent} (hes : e.after.far.trace = e.before.far.trace ++ es)
    {c : Call} (hc : .call c ∈ es) : c ∈ st.calls e.before.far.databases := by
  obtain rfl := List.append_cancel_left (hes.symm.trans h.trace)
  rcases List.mem_cons.1 hc with hc | hc
  · cases hc
  · obtain ⟨c', hc', he⟩ := List.mem_map.1 hc
    cases he
    exact hc'

namespace Session

lemma repeatable_init (s : Session StoreClient Store) (hc : s.connected = false)
    (ho : s.client.isOpen = false) (i : Nat) : (Command.init.episode i s).Repeatable := by
  have hends := s.init_ends hc ho i
  refine ⟨?_, fun st hr hf ha => (succeeded_of_unarmed hr hf ha i).1, ?_, ?_, ?_⟩
  · rcases hends with ⟨st, hr, hs, -⟩ | ⟨hf, -⟩
    · exact .inl ⟨st, hr, hs⟩
    · exact .inr hf
  · intro st hs ht
    obtain ⟨hsame, hcalls⟩ := Databases.ensured_of_table ht
    rcases hends with ⟨st', hr, hs', hd⟩ | ⟨hf, -⟩
    · cases hs.settings.symm.trans hs'.settings
      refine ⟨hd.trans hsame, hs.trace.trans ?_⟩
      rw [hcalls]
      rfl
    · cases hs.connected.symm.trans hf.connected
  · intro es hes
    rcases hends with ⟨st, -, hs, -⟩ | ⟨hf, -⟩
    · exact ⟨fun db hc => (Settings.databaseCreate_mem_calls.1 (hs.mem_trace hes hc)).2,
        fun db t key durability hc => (Settings.tableCreate_mem_calls.1 (hs.mem_trace hes hc)).2⟩
    · obtain ⟨es', hes', hlist⟩ := hf.trace
      obtain rfl := List.append_cancel_left (hes.symm.trans hes')
      constructor
      · intro db hc
        cases hlist _ hc
      · intro db t key durability hc
        cases hlist _ hc
  · intro st hr hf
    rcases hends with ⟨st', -, hs, -⟩ | ⟨-, hagain⟩
    · cases hs.connected.symm.trans hf.connected
    · -- the failure has changed neither the databases nor what the configuration gives
      obtain ⟨hs, hd⟩ := succeeded_of_unarmed (s := (Command.init.episode i s).after.repaired)
        (hagain st hr) rfl rfl i
      obtain ⟨-, hd'⟩ := succeeded_of_unarmed (s := s.repaired) hr rfl rfl i
      refine ⟨hs, hd.trans (Eq.trans ?_ hd'.symm)⟩
      exact congrArg st.ensured hf.databases

end Session

/-- Whatever visits there were to a store, and whoever they were, every initialisation of a backend
that is not connected at that time is repeatable. -/
theorem World.inits_repeatable (site : Site Store) (vs : List Visit)
    {e : Episode StoreClient Store} (he : e ∈ run (vs.map Visit.turn) ⟨[], site⟩)
    (hinit : e.command = .init) (hc : e.before.connected = false) : e.Repeatable := by
  refine (forall_run (I := fun w => ∀ (j : Nat) b, w.backends[j]? = some b → b.Sound)
    (P := fun x => ∃ v : Visit, x = v.turn)
    (Q := fun e => e.command = .init → e.before.connected = false → e.Repeatable)
    ?_ ?_ Visit.sound_nil ?_).2 e he hinit hc
  · rintro w _ hw ⟨v, rfl⟩
    exact Visit.sound_step hw v
  · rintro w i _ s hw hs rfl hc
    -- a backend that is not connected has a client that is not, either
    have ho : s.connected = s.client.isOpen := (hw i _ (session?_eq_some.1 hs).1).isOpen
    exact s.repeatable_init hc (ho.symm.trans hc) i
  · intro x hx
    obtain ⟨v, -, rfl⟩ := List.mem_map.1 hx
    exact ⟨v, rfl⟩

/-- The first of two backends meets a failure and is initialised again after the second, whose
database somebody else was first to create. -/
theorem World.inits_repeatable_armed :
    let site : Site Store := ⟨.empty, ⟨[], []⟩, .empty, .new [1], [], ⟨.empty, []⟩⟩
    let vs : List Visit := [
      .join (.ofFields [("host", .str "db1"), ("database", .str "a")]) false [],
      .join (.ofFields [("host", .str "db1"), ("database", .str "b")]) false ["b"],
      .arm 0 (.str "boom"), .tell 0 .init, .tell 1 .init, .tell 0 .init]
    ∃ e e', (run (vs.map Visit.turn) ⟨[], site⟩)[0]? = some e ∧
      (run (vs.map Visit.turn) ⟨[], site⟩)[2]? = some e' ∧ e.Repeatable ∧ e'.Repeatable ∧
      e.after.far.databases.keys = [] ∧ e'.after.far.databases.keys = ["a", "b"] := by
  intro site vs
  have hfirst : ((run (vs.map Visit.turn) ⟨[], site⟩)[0]?.any fun e => e.command.isInit &&
      !e.before.connected && e.after.far.databases.keys == []) = true := by
    decide +kernel
  have hthird : ((run (vs.map Visit.turn) ⟨[], site⟩)[2]?.any fun e => e.command.isInit &&
      !e.before.connected && e.after.far.databases.keys == ["a", "b"]) = true := by
    decide +kernel
  have hall := @inits_repeatable site vs
  change ∀ {e}, e ∈ run (vs.map Visit.turn) ⟨[], site⟩ → _ at hall
  generalize run (vs.map Visit.turn) ⟨[], site⟩ = es at hfirst hthird hall ⊢
  have hrepeatable {n : Nat} {keys : List String} (h : (es[n]?.any fun e => e.command.isInit &&
      !e.before.connected && e.after.far.databases.keys == keys) = true) :
      ∃ e, es[n]? = some e ∧ e.Repeatable ∧ e.after.far.databases.keys = keys := by
    obtain ⟨e, hn, he⟩ := (Option.any_eq_true ..).1 h
    rw [Bool.and_eq_true, Bool.and_eq_true, Bool.not_eq_true', beq_iff_eq] at he
    obtain ⟨⟨hinit, hc⟩, hkeys⟩ := he
    exact ⟨e, hn, hall (List.mem_of_getElem? hn) (Command.eq_init hinit) hc, hkeys⟩
  obtain ⟨e, he, hr, hk⟩ := hrepeatable hfirst
  obtain ⟨e', he', hr', hk'⟩ := hrepeatable hthird
  exact ⟨e, e', he, he', hr, hr', hk, hk'⟩

end CrudBench
