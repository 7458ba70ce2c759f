import CrudBench.Proofs.FieldSet
import CrudBench.Proofs.Session
import CrudBench.Proofs.Store.Cell
import CrudBench.Store.Client

/-!
# Answers of a store

What a client of a store answers while no failure is armed. An operation on records finds its table
or fails, and what it does to a table of records is what it does to the one cell that may hold the
record (`Table.Writes`).
-/

namespace CrudBench

/-! ## Tables of records -/

/-- The values are names of these fields. -/
structure Entry.Asks (names : List Value) (fields : List String) : Prop where
  isEmpty : names.isEmpty = fields.isEmpty
  mem : ∀ name, Value.str name ∈ names ↔ name ∈ fields

namespace Entry.Asks

/-- Texts name themselves. -/
lemma texts (fields : List String) : Asks (fields.map Value.str) fields :=
  ⟨List.isEmpty_map, fun name => by simp⟩

/-- A set of texts is asked for by its names. -/
lemma names (fields : List String) : Asks (FieldSet.names fields) fields :=
  ⟨FieldSet.isEmpty_names fields, fun name => FieldSet.mem_names.trans (by simp)⟩

variable {names : List Value} {fields : List String} (h : Asks names fields)

include h

/-- A text is among the names of fields if it is one of them. -/
lemma isAmong_eq : isAmong names = fields.contains := by
  funext name
  rw [Bool.eq_iff_iff, isAmong, List.any_eq_true, List.contains_iff_mem, ← h.mem]
  constructor
  · rintro ⟨v, hv, hs⟩
    cases Dictionary.sameName_str.1 hs
    exact hv
  · exact fun hm => ⟨_, hm, Dictionary.sameName_str.2 rfl⟩

end Entry.Asks

/-- The part of a record that is read if some fields are asked for, and all of it if none are. -/
def Row.read (row : Row) (fields : List String) : Row :=
  if fields.isEmpty then row else row.filterKeys fields.contains

/-- What is shown of the part of a record that was read are its visible fields. -/
lemma Row.shown_read (row : Row) (fields : List String) :
    (row.read fields).shown (.ofTexts fields) = row.visible fields := by
  refine SortedMap.ext_get? fun name => ?_
  rw [get?_shown, visible, SortedMap.get?_map, SortedMap.get?_filterKeys, read]
  cases fields with
  | nil => by_cases hn : name = primaryKey <;> simp [isVisible, hn]
  | cons f fs =>
    simp only [isVisible, List.isEmpty_cons, Bool.false_eq_true, if_false,
      SortedMap.get?_filterKeys]
    by_cases hn : name ∈ f :: fs
    · have hk : ¬(name = primaryKey ∧ primaryKey ∉ f :: fs) := fun h => h.2 (h.1 ▸ hn)
      rw [if_neg hk]
    · rw [if_neg (mt List.contains_iff_mem.1 hn)]
      simp

/-- A record is projected to the part of it that is asked for. -/
lemma Entry.Asks.project_row {names : List Value} {fields : List String} (h : Asks names fields)
    (row : Row) : (Entry.row row).project names = .ok (row.read fields).value := by
  rw [project, h.isEmpty, h.isAmong_eq]
  rfl

namespace Table

lemma get_str (t : Table) (k : String) (fields : List Value) :
    t.get (.str k) fields = match t.get? (.str k) with
      | none => .ok Value.null
      | some e => if e.isNull then .ok Value.null else e.project fields := rfl

/-- What an update does to what stands under a text. -/
lemma update_str (t : Table) (k : String) (values : Document) :
    t.update (.str k) values = match t.get? (.str k) with
      | none =>
        .ok (receiptOf [("replaced", 0), ("unchanged", 0), ("skipped", 1), ("errors", 0)], t)
      | some (.other v) => .error (.notMapping v.kind)
      | some (.row row) =>
        if holds row values then
          .ok (receiptOf [("replaced", 0), ("unchanged", 1), ("skipped", 0), ("errors", 0)], t)
        else
          .ok (receiptOf [("replaced", 1), ("unchanged", 0), ("skipped", 0), ("errors", 0)],
            t.put (.str k) (.row (overlaid row values))) := rfl

/-- What a removal does to what stands under a text. -/
lemma delete_str (t : Table) (k : String) :
    t.delete (.str k) =
      if t.isEmpty then .ok (receiptOf [("deleted", 0), ("skipped", 1), ("errors", 0)], t)
      else match t.get? (.str k) with
        | none => .ok (receiptOf [("deleted", 0), ("skipped", 1), ("errors", 0)], t)
        | some e => .ok (if e.isNull then receiptOf [("deleted", 0), ("skipped", 1), ("errors", 0)]
            else receiptOf [("deleted", 1), ("skipped", 0), ("errors", 0)], t.erase (.str k)) := rfl

/-- A table of records gives the part of a record that is asked for, or null. -/
lemma Recorded.get_eq {t : Table} (h : t.Recorded) (k : String) {names : List Value}
    {fields : List String} (hn : Entry.Asks names fields) :
    t.get (.str k) names = .ok (match t.records.get? k with
      | none => Value.null
      | some row => (row.read fields).value) := by
  rw [get_str, h.get?_str]
  cases t.records.get? k with
  | none => rfl
  | some row => exact hn.project_row row

/-- A change of tables does to a table of records what `f` does to the cell under a key: from what
it holds `f` tells the receipt and what it holds afterwards. -/
def Writes (k : String) (change : Table → Except Misfit (Value × Table))
    (f : Option Row → Receipt × Option Row) : Prop :=
  ∀ t : Table, t.Recorded → ∃ t' : Table,
    change t = .ok (.object (f (t.records.get? k)).1.fields, t') ∧ t'.Recorded ∧
      t'.records = t.records.set k (f (t.records.get? k)).2

end Table

/-! ## Receipts of a store -/

/-- A receipt with these counters. -/
def Receipt.ofCounts (counts : List (Counter × Int)) : Receipt :=
  ⟨counts.map fun c => (c.1.name, .int c.2)⟩

namespace Row

/-- How an update of a cell is receipted, and what it holds afterwards. -/
def updateCell (values : Row) : Option Row → Receipt × Option Row
  | none => (.ofCounts [(.replaced, 0), (.unchanged, 0), (.skipped, 1), (.errors, 0)], none)
  | some row =>
    if row.revised values = row then
      (.ofCounts [(.replaced, 0), (.unchanged, 1), (.skipped, 0), (.errors, 0)], some row)
    else
      (.ofCounts [(.replaced, 1), (.unchanged, 0), (.skipped, 0), (.errors, 0)],
        some (row.revised values))

/-- How overlaying a cell with texts is receipted, and what it holds afterwards. -/
def overlayCell (d : Document) : Option Row → Receipt × Option Row
  | none => (.ofCounts [(.replaced, 0), (.unchanged, 0), (.skipped, 1), (.errors, 0)], none)
  | some row =>
    if Table.holds row d then
      (.ofCounts [(.replaced, 0), (.unchanged, 1), (.skipped, 0), (.errors, 0)], some row)
    else
      (.ofCounts [(.replaced, 1), (.unchanged, 0), (.skipped, 0), (.errors, 0)],
        some (Table.overlaid row d))

/-- An update overlays the cell with its document. -/
lemma updateCell_eq (values : Row) : values.updateCell = overlayCell (updateDocument values) := by
  funext cell
  cases cell with
  | none => rfl
  | some row =>
    simp only [updateCell, overlayCell, holds_updateDocument, overlaid_updateDocument]

/-- How putting a record into a cell is receipted, and what it holds afterwards. -/
def putCell (key : String) (row : Row) : Option Row → Receipt × Option Row
  | none => (.ofCounts [(.inserted, 1), (.errors, 0)], some row)
  | some old =>
    (⟨[("inserted", .int 0), ("errors", .int 1), ("first_error", .str (Table.duplicateKey key))]⟩,
      some old)

/-- How an insertion into a cell is receipted, and what it holds afterwards. -/
def insertCell (values : Row) (key : String) : Option Row → Receipt × Option Row :=
  putCell key (values.stored key)

/-- How the removal of what a cell holds is receipted, and what it holds afterwards. -/
def deleteCell : Option Row → Receipt × Option Row
  | none => (.ofCounts [(.deleted, 0), (.skipped, 1), (.errors, 0)], none)
  | some _ => (.ofCounts [(.deleted, 1), (.skipped, 0), (.errors, 0)], none)

end Row

namespace Table

/-- An update is one of a cell. -/
lemma writes_overlay (k : String) (d : Document) :
    Writes k (update · (.str k) d) (Row.overlayCell d) := by
  intro t h
  have hs : t.records.set k (t.records.get? k) = t.records := SortedMap.set_self _ _
  dsimp only
  rw [update_str, h.get?_str]
  cases hc : t.records.get? k with
  | none =>
    rw [hc] at hs
    exact ⟨t, rfl, h, hs.symm⟩
  | some row =>
    rw [hc] at hs
    simp only [Option.map_some, Row.overlayCell]
    by_cases hv : holds row d = true
    · rw [if_pos hv, if_pos hv]
      exact ⟨t, rfl, h, hs.symm⟩
    · rw [if_neg hv, if_neg hv]
      exact ⟨_, rfl, h.put k _, h.records_put k _⟩

/-- An update with values is one of a cell. -/
lemma writes_update (k : String) (values : Row) :
    Writes k (update · (.str k) (updateDocument values)) values.updateCell :=
  values.updateCell_eq ▸ writes_overlay k (updateDocument values)

/-- An insertion is one into the cell under the key that the record holds. -/
lemma writes_put {k : String} {row : Row} (hk : row.get? primaryKey = some (.str k)) :
    Writes k (insert · row) (Row.putCell k row) := by
  intro t h
  have hi : insert t row =
      if t.contains (.str k) then
        .ok (.object [("inserted", .int 0), ("errors", .int 1),
          ("first_error", .str (duplicateKey k))], t)
      else .ok (receiptOf [("inserted", 1), ("errors", 0)], t.put (.str k) (.row row)) := by
    rw [insert, hk]
    rfl
  dsimp only
  rw [hi, Dictionary.contains, h.get?_str]
  cases hc : t.records.get? k with
  | none => exact ⟨_, rfl, h.put k _, h.records_put k _⟩
  | some old =>
    have hs : t.records.set k (t.records.get? k) = t.records := SortedMap.set_self _ _
    rw [hc] at hs
    exact ⟨t, rfl, h, hs.symm⟩

/-- An insertion of values is one into the cell under their key. -/
lemma writes_insert (k : String) (values : Row) :
    Writes k (insert · (insertedRow (.str k) values)) (values.insertCell k) :=
  writes_put (by rw [insertedRow, SortedMap.get?_insert, if_pos rfl])

/-- A removal is one from a cell. -/
lemma writes_delete (k : String) : Writes k (delete · (.str k)) Row.deleteCell := by
  intro t h
  have hs : t.records.set k (t.records.get? k) = t.records := SortedMap.set_self _ _
  dsimp only
  rw [delete_str]
  -- an empty table is not even asked whether it can hold the key
  by_cases he : t.isEmpty = true
  · rw [if_pos he]
    rw [h.get?_of_isEmpty he] at hs ⊢
    exact ⟨t, rfl, h, hs.symm⟩
  · rw [if_neg he, h.get?_str]
    cases hc : t.records.get? k with
    | none =>
      rw [hc] at hs
      exact ⟨t, rfl, h, hs.symm⟩
    | some row => exact ⟨_, rfl, h.erase k, h.records_erase k⟩

end Table

/-! ## Clients of a store -/

/-- The store after a call has reached it and left it with these databases. -/
def Store.called (w : Store) (c : Call) (dbs : Databases) : Store := ⟨dbs, w.trace ++ [.call c]⟩

namespace StoreClient

/-- While no failure is armed a call is traced and answered. -/
lemma ask_of_unarmed {l : Side} (h : l.near.armed = none) (c : Call) :
    ask c l = answer c ⟨l.near, l.far.called c l.far.databases⟩ := by
  simp only [ask, record, tripwire, Action.bind_apply, Action.modify_apply, Action.get_apply, h,
    Action.pure_apply]
  rfl

/-- While a failure is armed every call fails with it, and disarms it. -/
lemma ask_of_armed {l : Side} {message : String} (h : l.near.armed = some message) (c : Call) :
    ask c l = .error (.operation (.injected message))
      ⟨{ l.near with armed := none }, l.far.called c l.far.databases⟩ := by
  simp only [ask, record, tripwire, Action.bind_apply, Action.modify_apply, Action.get_apply, h,
    Action.throw_apply]
  rfl

lemma table_str (db t : String) :
    table db (.str t) = (do
      match Databases.table? (← databases) db t with
      | some content => return (t, content)
      | none => throw (.operation (.noTable db t)) : Action Side (String × Table)) := rfl

/-- A table that is named by a text is there or it is not. -/
lemma table_apply (db t : String) (l : Side) :
    table db (.str t) l = match l.far.databases.table? db t with
      | some content => .ok (t, content) l
      | none => .error (.operation (.noTable db t)) l := by
  simp only [table_str, databases, Action.bind_apply, Action.get_apply, Action.pure_apply]
  cases l.far.databases.table? db t <;> rfl

/-- A write to a table that is not there fails. -/
lemma write_of_none {db t : String} {l : Side}
    (h : (Databases.records l.far.databases).at? db t = none)
    (change : Table → Except Misfit (Value × Table)) :
    write db (.str t) change l = .error (.operation (.noTable db t)) l := by
  rw [Databases.at?_records, Option.map_eq_none_iff] at h
  simp only [write, Action.bind_apply, table_apply, h]

/-- A write to a table of records changes one cell of the contents. -/
lemma write_of_some {db t k : String} {l : Side} {cells : SortedMap Row}
    (h : (Databases.records l.far.databases).at? db t = some cells)
    (hr : Databases.Recorded l.far.databases) {change : Table → Except Misfit (Value × Table)}
    {f : Option Row → Receipt × Option Row} (hw : Table.Writes k change f) :
    ∃ dbs : Databases, write db (.str t) change l =
        .ok (.object (f (cells.get? k)).1.fields) ⟨l.near, ⟨dbs, l.far.trace⟩⟩ ∧
      dbs.Recorded ∧
      dbs.records =
        (Databases.records l.far.databases).putAt db t (cells.set k (f (cells.get? k)).2) := by
  rw [Databases.at?_records, Option.map_eq_some_iff] at h
  obtain ⟨content, ht, rfl⟩ := h
  obtain ⟨content', hc, hr', hs⟩ := hw content (hr db t content ht)
  refine ⟨l.far.databases.putTable db t content', ?_, hr.putTable db t hr', ?_⟩
  · simp only [write, Action.bind_apply, table_apply, ht, hc, Action.given_ok, Action.pure_apply,
      databases, Action.get_apply, setDatabases, Action.modify_apply]
  · rw [Databases.records_putTable, hs]

/-- A look-up in a table that is not there fails. -/
lemma get_of_none {db t : String} {l : Side}
    (h : (Databases.records l.far.databases).at? db t = none) (key : Value) (fields : List Value)
    (mode : Option ReadMode) :
    answer (.get db (.str t) key fields mode) l = .error (.operation (.noTable db t)) l := by
  rw [Databases.at?_records, Option.map_eq_none_iff] at h
  simp only [answer, Action.bind_apply, table_apply, h]

/-- A look-up in a table of records gives the record that the cell holds, or null. -/
lemma get_of_some {db t : String} {l : Side} {cells : SortedMap Row}
    (h : (Databases.records l.far.databases).at? db t = some cells)
    (hr : Databases.Recorded l.far.databases) (k : String) {names : List Value}
    {fields : List String} (hn : Entry.Asks names fields) (mode : Option ReadMode) :
    answer (.get db (.str t) (.str k) names mode) l =
      .ok (match cells.get? k with
        | none => Value.null
        | some row => (row.read fields).value) l := by
  rw [Databases.at?_records, Option.map_eq_some_iff] at h
  obtain ⟨content, ht, rfl⟩ := h
  simp only [answer, Action.bind_apply, table_apply, ht,
    (hr db t content ht).get_eq k hn, Action.given_ok, Action.pure_apply]

end StoreClient

/-! ## Sessions over a store -/

namespace Session

/-- The session after a call has reached its store and left it with these databases. -/
def asked (s : Session StoreClient Store) (c : Call) (dbs : Databases) :
    Session StoreClient Store :=
  s.linked ⟨s.client, s.far.called c dbs⟩

@[simp]
lemma asked_databases (s : Session StoreClient Store) (c : Call) (dbs : Databases) :
    (s.asked c dbs).far.databases = dbs := rfl

/-- The records in the store. -/
def contents (s : Session StoreClient Store) : Contents := s.far.databases.records

variable {s : Session StoreClient Store}

/-- While a failure is armed every call fails with it, and disarms it. -/
lemma ask_of_armed {message : String} (h : s.client.armed = some message) (c : Call) :
    ask c s = .error (.operation (.injected message))
      (s.linked ⟨{ s.client with armed := none }, s.far.called c s.far.databases⟩) :=
  viaClient_error (StoreClient.ask_of_armed h c)

variable (h : s.client.armed = none) (c : Call) {l : Link StoreClient Store}

include h

/-- While no failure is armed an answer of the client is the answer. -/
lemma ask_ok {a : c.Answer}
    (ha : StoreClient.answer c ⟨s.client, s.far.called c s.far.databases⟩ = .ok a l) :
    ask c s = .ok a (s.linked l) :=
  viaClient_ok ((StoreClient.ask_of_unarmed h c).trans ha)

/-- While no failure is armed a fault of the client is the only one. -/
lemma ask_error {e : Fault}
    (ha : StoreClient.answer c ⟨s.client, s.far.called c s.far.databases⟩ = .error e l) :
    ask c s = .error e (s.linked l) :=
  viaClient_error ((StoreClient.ask_of_unarmed h c).trans ha)

end Session

end CrudBench
