import CrudBench.Proofs.SortedMap
import CrudBench.Store.Databases

/-!
# Databases as records

A table that holds records under texts, and nothing else, is a map from keys to records, whatever
the order in which they came (`Table.records`). Putting a record in and erasing one are what they
are on that map; databases are maps of such maps (`Databases.records`).
-/

namespace CrudBench

/-! ## Tables -/

namespace Table

/-- The record that an entry is, with its key. -/
def row? : Value × Entry → Option (String × Row)
  | (.str k, .row r) => some (k, r)
  | _ => none

/-- The records among entries, with their keys. -/
def rows (es : List (Value × Entry)) : List (String × Row) := es.filterMap row?

/-- The records of a table by their keys. -/
def records (t : Table) : SortedMap Row := .ofList (rows t.entries)

/-- The table holds records only, and all of them under texts. -/
def Recorded (t : Table) : Prop := ∀ e ∈ t.entries, ∃ k r, e = (.str k, .row r)

/-- A record stands under its key. -/
lemma name_of_row? {e : Value × Entry} {x : String × Row} (h : row? e = some x) :
    e.1 = .str x.1 := by
  unfold row? at h
  split at h
  · cases h
    rfl
  · cases h

/-- No key comes up twice among the records. -/
lemma nodup_rows {es : List (Value × Entry)}
    (h : es.Pairwise fun a b => Value.sameName a.1 b.1 = false) :
    ((rows es).map (·.1)).Nodup := by
  refine List.pairwise_map.2 (List.pairwise_filterMap.2 (h.imp ?_))
  intro a b hab x hx y hy he
  rw [name_of_row? hx, name_of_row? hy, he, Dictionary.sameName_str.2 rfl] at hab
  cases hab

/-- What stands under a text is the record under that key. -/
lemma lookup_rows {es : List (Value × Entry)} (h : ∀ e ∈ es, ∃ k r, e = (.str k, .row r))
    (k : String) : Dictionary.lookup (.str k) es = ((rows es).lookup k).map Entry.row := by
  induction es with
  | nil => rfl
  | cons e es ih =>
    obtain ⟨j, r, rfl⟩ := h e List.mem_cons_self
    have ih := ih fun x hx => h x (List.mem_cons_of_mem _ hx)
    -- a text is the same name as a text only if it is equal, so both look at the same entry
    by_cases hk : k = j
    · simp [Dictionary.lookup, rows, row?, Value.sameName, hk]
    · have hb : (k == j) = false := by simpa using hk
      have hs : (j == k) = false := by simpa using Ne.symm hk
      simpa [Dictionary.lookup, rows, row?, Value.sameName, List.lookup_cons, hb, hs] using ih

/-- In a table of records there is under a text what there is among the records. -/
lemma Recorded.get?_str {t : Table} (h : t.Recorded) (k : String) :
    t.get? (.str k) = (t.records.get? k).map Entry.row := by
  rw [Dictionary.get?, lookup_rows h, records, SortedMap.get?_ofList,
    SortedMap.lookup_reverse (nodup_rows t.distinct)]

/-- Maps of records are equal if the same entries are found in them. -/
lemma records_ext {m n : SortedMap Row}
    (h : ∀ k, (m.get? k).map Entry.row = (n.get? k).map Entry.row) : m = n :=
  SortedMap.ext_get? fun k => Option.map_injective (fun _ _ => Entry.row.inj) (h k)

/-- The table without entries is one of records. -/
lemma recorded_empty : Recorded Dictionary.empty := nofun

/-- The table without entries has no records. -/
lemma records_empty : records Dictionary.empty = .empty := rfl

/-- Putting an entry in adds nothing else. -/
lemma mem_putEntry {k : String} {e : Entry} {es : List (Value × Entry)} {x : Value × Entry}
    (h : x ∈ Dictionary.putEntry (.str k) e es) : x = (.str k, e) ∨ x ∈ es := by
  induction es with
  | nil => simpa [Dictionary.putEntry] using h
  | cons y es ih =>
    rw [Dictionary.putEntry] at h
    split at h
    next hy =>
      rw [Dictionary.sameName_str.1 hy] at h
      exact (List.mem_cons.1 h).imp_right (List.mem_cons_of_mem _)
    · rcases List.mem_cons.1 h with rfl | h
      · exact .inr List.mem_cons_self
      · exact (ih h).imp_right (List.mem_cons_of_mem _)

/-- A table of records stays one if a record is put in. -/
lemma Recorded.put {t : Table} (h : t.Recorded) (k : String) (r : Row) :
    Recorded (t.put (.str k) (.row r)) := by
  intro x hx
  rcases mem_putEntry hx with rfl | hx
  · exact ⟨k, r, rfl⟩
  · exact h x hx

/-- Putting a record in is setting its key. -/
lemma Recorded.records_put {t : Table} (h : t.Recorded) (k : String) (r : Row) :
    records (t.put (.str k) (.row r)) = t.records.insert k r := by
  refine records_ext fun j => ?_
  rw [← (h.put k r).get?_str, Dictionary.get?_put, SortedMap.get?_insert, h.get?_str]
  split <;> rfl

/-- A table of records stays one if a key is erased. -/
lemma Recorded.erase {t : Table} (h : t.Recorded) (k : String) : Recorded (t.erase (.str k)) :=
  fun x hx => h x ((List.mem_filter.1 hx).1)

/-- Erasing a key is clearing it. -/
lemma Recorded.records_erase {t : Table} (h : t.Recorded) (k : String) :
    records (t.erase (.str k)) = t.records.erase k := by
  refine records_ext fun j => ?_
  rw [← (h.erase k).get?_str, Dictionary.get?_erase, SortedMap.get?_erase, h.get?_str]
  split <;> rfl

/-- A table of records without entries has no records. -/
lemma Recorded.get?_of_isEmpty {t : Table} (h : t.Recorded) (he : t.isEmpty = true) (k : String) :
    t.records.get? k = none := by
  have hk := h.get?_str k
  rw [Dictionary.get?, List.isEmpty_iff.1 he] at hk
  simpa [Dictionary.lookup] using hk.symm

end Table

/-! ## Databases -/

/-- Records by database, table and key. -/
abbrev Contents := SortedMap (SortedMap (SortedMap Row))

/-- The contents with a database and a table in it, which are added without records if they are not
there. -/
def Contents.ensure (m : Contents) (db t : String) : Contents :=
  if (m.at? db t).isSome then m else m.putAt db t .empty

namespace Databases

/-- The records of databases. -/
def records (dbs : Databases) : Contents := dbs.map (·.map Table.records)

/-- Every table of the databases holds records only, and all of them under texts. -/
def Recorded (dbs : Databases) : Prop :=
  ∀ db t content, Databases.table? dbs db t = some content → content.Recorded

/-- The records of a table. -/
lemma at?_records (dbs : Databases) (db t : String) :
    (records dbs).at? db t = (Databases.table? dbs db t).map Table.records :=
  SortedMap.at?_map _ _ _ _

/-- Putting a table in is putting its records in. -/
lemma records_putTable (dbs : Databases) (db t : String) (content : Table) :
    records (Databases.putTable dbs db t content) =
      (records dbs).putAt db t content.records :=
  SortedMap.map_putAt _ _ _ _ _

/-- Putting a table in changes what is found under its two names only. -/
lemma table?_putTable (dbs : Databases) (db t db' t' : String) (content : Table) :
    Databases.table? (Databases.putTable dbs db t content) db' t' =
      if db' = db ∧ t' = t then some content else Databases.table? dbs db' t' :=
  SortedMap.at?_putAt _ _ _ _ _ _

/-- Databases of records stay so if a table of records is put in. -/
lemma Recorded.putTable {dbs : Databases} (h : Recorded dbs) (db t : String) {content : Table}
    (hc : content.Recorded) : Recorded (Databases.putTable dbs db t content) := by
  intro db' t' c hc'
  rw [table?_putTable] at hc'
  split at hc'
  · cases hc'
    exact hc
  · exact h db' t' c hc'

/-- Databases that hold one record. -/
def single (db t k : String) (row : Row) : Databases :=
  Databases.putTable .empty db t (Dictionary.empty.put (.str k) (.row row))

/-- Databases that hold one record are databases of records. -/
lemma recorded_single (db t k : String) (row : Row) : Recorded (single db t k row) := by
  refine Recorded.putTable (fun _ _ _ h => ?_) db t (Table.recorded_empty.put k row)
  cases h

end Databases

end CrudBench
