import CrudBench.Proofs.Request
import CrudBench.Proofs.Store.Records

/-!
# Operations on one record

What a point operation comes to as a rule: it is a step of the one cell that may hold the record
(`Verb.onCell`), and leaves every other cell of the contents alone (`PointRequest.onContents`).
-/

namespace CrudBench

/-! ## Records as they are shown and written -/

namespace Row

/-- The record with every value by its text. -/
def texts (row : Row) : Row := row.map fun v => .str v.text

/-- A field is visible if it is asked for; if none is asked for, every field is but the key. -/
def isVisible (fields : List String) (name : String) : Bool :=
  if fields.isEmpty then name != primaryKey else fields.contains name

/-- The visible fields of a record, as text. -/
def visible (row : Row) (fields : List String) : Document :=
  (row.filterKeys (isVisible fields)).map Value.text

/-- The record that is put in under a key: the values as text, and the key, whatever stood in its
field. -/
def stored (values : Row) (key : String) : Row := values.texts.insert primaryKey (.str key)

/-- The record overlaid with values as text, except for its key. -/
def revised (row values : Row) : Row := row.overlay (values.texts.erase primaryKey)

/-- A document says of every field what the values say, and nothing of the key. -/
lemma get?_updateDocument (values : Row) (name : String) :
    (updateDocument values).get? name =
      if name = primaryKey then none else (values.get? name).map Value.text := by
  rw [updateDocument, SortedMap.get?_erase, SortedMap.get?_map]

/-- The texts that an update writes are those of its values without the key. -/
lemma row_updateDocument (values : Row) :
    (updateDocument values).row = values.texts.erase primaryKey :=
  SortedMap.ext_get? fun name => by
    rw [Document.row, SortedMap.get?_map, get?_updateDocument, SortedMap.get?_erase, texts,
      SortedMap.get?_map]
    split
    · rfl
    · rw [Option.map_map]; rfl

/-- What an update makes of a record is the revised record. -/
lemma overlaid_updateDocument (row values : Row) :
    Table.overlaid row (updateDocument values) = row.revised values := by
  rw [Table.overlaid, row_updateDocument, revised]

/-- A record holds some texts already if overlaying it with them changes no field. -/
lemma holds_iff {row : Row} {d : Document} :
    Table.holds row d = true ↔ row.overlay d.row = row := by
  have hd (name : String) : (row.overlay d.row).get? name =
      ((d.get? name).map Value.str).or (row.get? name) := by
    rw [SortedMap.get?_overlay, Document.row, SortedMap.get?_map]
  constructor
  · intro h
    refine SortedMap.ext_get? fun name => ?_
    rw [hd]
    cases hn : d.get? name with
    | none => rfl
    | some s =>
      have hs := List.all_eq_true.1 h _ (SortedMap.get?_eq_some_iff_mem.1 hn)
      split at hs
      next t ht => rw [ht, eq_of_beq hs]; rfl
      · cases hs
  · intro h
    refine List.all_eq_true.2 fun e he => ?_
    have hn := SortedMap.get?_eq_some_iff_mem.2 he
    have hv : row.get? e.1 = some (.str e.2) := by rw [← h, hd, hn]; rfl
    simp [hv]

/-- A record holds what an update writes already if revising it changes no field. -/
lemma holds_updateDocument (row values : Row) :
    Table.holds row (updateDocument values) = true ↔ row.revised values = row := by
  rw [holds_iff, row_updateDocument, revised]

/-- It can be decided whether a revision changes a record. -/
instance (row values : Row) : Decidable (row.revised values = row) :=
  decidable_of_iff _ (holds_updateDocument row values)

end Row

/-! ## The rule -/

/-- What an operation answers: a status, and the record that was read. -/
structure Reply where
  status : Status
  data : Option Document

/-- What an operation answers under a key whose cell holds a record or nothing, and what the cell
holds afterwards. -/
def Verb.onCell (key : String) (cell : Option Row) : Verb → Reply × Option Row
  | .read fields =>
    match cell with
    | none => (⟨.notFound, none⟩, none)
    | some row => (⟨.ok, some (row.visible fields)⟩, some row)
  | .insert values =>
    match cell with
    | none => if key = "" then (⟨.error, none⟩, none) else (⟨.ok, none⟩, some (values.stored key))
    | some row => (⟨.error, none⟩, some row)
  | .update values =>
    match cell with
    | none => (⟨.notFound, none⟩, none)
    | some row =>
      if row.revised values = row then (⟨.error, none⟩, some row)
      else (⟨.ok, none⟩, some (row.revised values))
  | .delete =>
    match cell with
    | none => (⟨.notFound, none⟩, none)
    | some _ => (⟨.ok, none⟩, none)

/-- What an operation answers in a database, and the contents afterwards. In a table that is not
there it fails. -/
def PointRequest.onContents (db : String) (r : PointRequest) (m : Contents) : Reply × Contents :=
  match m.at? db r.table with
  | none => (⟨.error, none⟩, m)
  | some cells =>
    let (reply, cell) := r.verb.onCell r.key (cells.get? r.key)
    (reply, m.putAt db r.table (cells.set r.key cell))

end CrudBench
