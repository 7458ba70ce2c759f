import CrudBench.Proofs.Store.Growth
import CrudBench.Proofs.Stage

/-!
# Calls of a bootstrap

What the calls of a bootstrap do to a store, whatever others have done to it since the call before.
A stage relies on no more than what the stages before it have made sure of and what nobody takes
back, so the next call is answered, harms nothing, and leads to a stage that can rely on it, too
(`Session.advance_apply`).
-/

namespace CrudBench

/-- What a call has created, by its answer. -/
def Exchange.creation? : Exchange → Option Creation
  | ⟨.databaseCreate db, true⟩ => some (.database db)
  | ⟨.tableCreate db t _ _, true⟩ => some (.table db t)
  | _ => none

/-- The call keeps what was there, and what it has created was not there before. -/
structure Exchange.Harmless (x : Exchange) (dbs dbs' : Databases) : Prop where
  kept : dbs.Kept dbs'
  created : ∀ z, x.creation? = some z → ¬z.In dbs ∧ z.In dbs'

/-- The creation of a database, if the call says so. -/
lemma Exchange.creation?_database (db : String) (created : Bool) :
    creation? ⟨.databaseCreate db, created⟩ = if created then some (.database db) else none := by
  cases created <;> rfl

/-- The creation of a table, if the call says so. -/
lemma Exchange.creation?_table (db t key : String) (durability : Durability) (created : Bool) :
    creation? ⟨.tableCreate db t key durability, created⟩ =
      if created then some (.table db t) else none := by
  cases created <;> rfl

namespace Stage

/-- What a bootstrap has made sure of when it comes to a stage. -/
def Holds (st : Settings) (dbs : Databases) : Stage → Prop
  | listDatabases | createDatabase => True
  | listTables | createTable => (Creation.database st.database).In dbs
  | awaitTable | ready => (Creation.table st.database st.table).In dbs

/-- What a bootstrap has made sure of stays. -/
lemma Holds.grow {st : Settings} {dbs dbs' : Databases} {x : Stage} (h : x.Holds st dbs)
    (hg : dbs.Grows dbs') : x.Holds st dbs' := by
  cases x with
  | listDatabases | createDatabase => trivial
  | listTables | createTable => exact hg (.database st.database) h
  | awaitTable | ready => exact hg (.table st.database st.table) h

end Stage

namespace Session

variable {s : Session StoreClient Store} {st : Settings} {x : Stage} {p : Stage.Pending}

/-- While no failure is armed, the next call of a bootstrap is answered. It harms nothing, and the
bootstrap has then made sure of what it goes on with, however old its listings are. -/
lemma ask_pending (h : s.client.armed = none) (hx : x.Holds st s.far.databases)
    (hp : x.pending st = some p) :
    ∃ a dbs, ask p.call s = .ok a (s.asked p.call dbs) ∧
      Exchange.Harmless ⟨p.call, a⟩ s.far.databases dbs ∧ (p.next a).Holds st dbs := by
  have hsame : ∀ y : Exchange, y.creation? = none →
      y.Harmless s.far.databases s.far.databases := by
    intro y hy
    refine ⟨Databases.Kept.refl _, fun z hz => ?_⟩
    rw [hy] at hz
    cases hz
  cases x with
  | listDatabases =>
    cases hp
    -- what is listed is there and stays; what is not listed is made sure of next
    refine ⟨_, _, ask_databaseList h, hsame _ rfl, ?_⟩
    dsimp only
    rw [lists_keys]
    split
    next hc => exact hc
    · trivial
  | createDatabase =>
    cases hp
    have hin := Databases.contains_ensureDatabase s.far.databases st.database
    -- somebody else may have been first: it is there all the same, and not counted as created
    refine ⟨_, _, ask_databaseCreate h st.database, ⟨Databases.kept_ensureDatabase _ _, ?_⟩, hin⟩
    intro z hz
    rw [Exchange.creation?_database] at hz
    split at hz
    next hc =>
      cases hz
      refine ⟨fun hn => ?_, hin⟩
      rw [show s.far.databases.contains st.database = true from hn] at hc
      cases hc
    · cases hz
  | listTables =>
    cases hp
    obtain ⟨tables, hd⟩ := Option.isSome_iff_exists.1 hx
    refine ⟨_, _, ask_tableList h st.database hd, hsame _ rfl, ?_⟩
    dsimp only
    rw [lists_keys]
    split
    next hc =>
      show (Databases.table? s.far.databases st.database st.table).isSome = true
      rw [Databases.table?, hd]
      exact hc
    · exact hx
  | createTable =>
    cases hp
    obtain ⟨tables, hd⟩ := Option.isSome_iff_exists.1 hx
    have hin : (Creation.table st.database st.table).In
        (s.far.databases.ensureTable st.database st.table) := by
      show (Databases.table? _ st.database st.table).isSome = true
      rw [Databases.table?_ensureTable, if_pos ⟨rfl, rfl⟩, Option.isSome_or]
      exact Bool.or_true _
    refine ⟨_, _, ask_tableCreate h st.database st.table hd primaryKey st.durability,
      ⟨Databases.kept_ensureTable _ _ _, ?_⟩, hin⟩
    intro z hz
    rw [Exchange.creation?_table] at hz
    split at hz
    next hc =>
      cases hz
      refine ⟨fun hn => ?_, hin⟩
      have hn : (Databases.table? s.far.databases st.database st.table).isSome = true := hn
      rw [Databases.table?, hd] at hn
      rw [show tables.contains st.table = true from hn] at hc
      cases hc
    · cases hz
  | awaitTable =>
    cases hp
    exact ⟨_, _, ask_tableWait h st.database st.table, hsame _ rfl, hx⟩
  | ready => cases hp

/-- A bootstrap goes on by what its call is answered. -/
lemma advance_of_ask {t : Session StoreClient Store} {a : p.call.Answer}
    (hp : x.pending st = some p) (ha : ask p.call s = .ok a t) :
    ∃ u, advance st x s = .ok (p.next a, some ⟨p.call, a⟩) u ∧ u.toBackend = t.toBackend ∧
      u.far = t.far := by
  simp only [advance, hp, Action.bind_apply, ha]
  cases p.note a with
  | none => exact ⟨_, rfl, rfl, rfl⟩
  | some e => exact ⟨_, rfl, rfl, rfl⟩

/-- While no failure is armed, a bootstrap that is not done makes its next call, which harms
nothing, and comes closer to being done. -/
lemma advance_apply (h : s.client.armed = none) (hx : x.Holds st s.far.databases)
    (hr : x ≠ .ready) :
    ∃ y o t, advance st x s = .ok (y, some o) t ∧ t.toBackend = s.toBackend ∧
      o.Harmless s.far.databases t.far.databases ∧ y.Holds st t.far.databases ∧
      y.left < x.left := by
  cases hp : x.pending st with
  | none =>
    cases x with
    | ready => exact absurd rfl hr
    | _ => cases hp
  | some p =>
    obtain ⟨a, dbs, ha, hh, hn⟩ := ask_pending h hx hp
    obtain ⟨u, hu, hb, hf⟩ := advance_of_ask hp ha
    refine ⟨p.next a, ⟨p.call, a⟩, u, hu, hb, ?_, ?_, Stage.left_next hp a⟩
    · rw [hf]
      exact hh
    · rw [hf]
      exact hn

end Session

end CrudBench
