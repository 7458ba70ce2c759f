import CrudBench.Proofs.Operation
import CrudBench.Proofs.Store.Answer
import Mathlib.Data.List.Basic

/-!
# Ranges of records

A client of a store answers a scan of a table of records from a key on with the parts of the first
records of that range that are asked for, in the order of their keys
(`StoreClient.between_of_some`). They are taken for the visible fields of these records
(`Value.scanOutcome?_read`).
-/

namespace CrudBench

/-! ## Tables -/

namespace Table

variable {t : Table} (h : t.Recorded)

include h

/-- What stands under texts in a table of records are its records. -/
lemma Recorded.named_eq : t.named = t.records.map Entry.row := by
  have hrows : t.entries.filterMap (fun e => e.1.str?.map (·, e.2)) =
      (rows t.entries).map fun x => (x.1, Entry.row x.2) := by
    rw [rows, List.map_filterMap]
    refine List.filterMap_congr fun e he => ?_
    obtain ⟨k, r, rfl⟩ := h e he
    rfl
  rw [Dictionary.named, hrows, records, SortedMap.ofList, SortedMap.ofList,
    SortedMap.map_insertMany]
  rfl

/-- In a table of records nothing but texts is a name. -/
lemma Recorded.allNamed_eq (complaint : ValueKind → Misfit) :
    t.allNamed complaint = .ok (t.records.map Entry.row) := by
  have hnone : t.entries.find? (fun e => decide (e.1.kind ≠ .str)) = none := by
    refine List.find?_eq_none.2 fun e he => ?_
    obtain ⟨k, r, rfl⟩ := h e he
    simp [Value.kind]
  rw [Dictionary.allNamed, hnone, h.named_eq]

/-- The entries of a table of records from a key on are the records from there on. -/
lemma Recorded.startingAt_eq (low : String) :
    t.startingAt (.str low) =
      .ok ((t.records.startingAt low).entries.map fun e => Entry.row e.2) := by
  rw [startingAt, h.allNamed_eq]
  show Except.ok (((t.records.map Entry.row).startingAt low).entries.map fun e => e.2) = _
  rw [SortedMap.entries_startingAt_map, List.map_map]
  rfl

omit h in
/-- The first ones up to a positive number are as many, or all of them. -/
lemma limited_count {α : Type} (xs : List α) {n : Count} (hn : 0 < n.toInt) :
    limited xs n.value = .ok (xs.take n.toInt.toNat) := by
  have hcount : n.value.count? = some n := by cases n <;> rfl
  have hneg : ¬n.toInt < 0 := by omega
  simp only [limited, hcount, if_neg hneg]

omit h in
/-- Of records the parts are left that are asked for. -/
lemma mapM_project {names : List Value} {fields : List String} (hn : Entry.Asks names fields)
    (rows : List Row) :
    (rows.map Entry.row).mapM (Entry.project names) =
      .ok (rows.map fun row => (row.read fields).value) := by
  induction rows with
  | nil => rfl
  | cons row rows ih =>
    rw [List.map_cons, List.mapM_cons, hn.project_row, ih]
    rfl

/-- A range of a table of records gives the parts of its first records that are asked for. -/
lemma Recorded.between_eq (low : String) {n : Count} (hn : 0 < n.toInt) {names : List Value}
    {fields : List String} (ha : Entry.Asks names fields) :
    t.between (.str low) n.value names =
      .ok (((t.records.startingAt low).entries.take n.toInt.toNat).map fun e =>
        (e.2.read fields).value) := by
  have hm := mapM_project ha
    (((t.records.startingAt low).entries.take n.toInt.toNat).map fun e => e.2)
  rw [List.map_map, List.map_map] at hm
  rw [between, h.startingAt_eq]
  simp only [bind, Except.bind, limited_count _ hn, ← List.map_take]
  exact hm

end Table

/-! ## Clients of a store -/

namespace StoreClient

variable {db t : String} {l : Side}

/-- A scan of a table that is not there fails. -/
lemma between_of_none (h : (Databases.records l.far.databases).at? db t = none)
    (low limit : Value) (names : List Value) (mode : Option ReadMode) :
    answer (.between db (.str t) low limit names mode) l =
      .error (.operation (.noTable db t)) l := by
  rw [Databases.at?_records, Option.map_eq_none_iff] at h
  simp only [answer, Action.bind_apply, table_apply, h]

/-- A scan of a table of records gives the parts of the first records of the range that are asked
for. -/
lemma between_of_some {cells : SortedMap Row}
    (h : (Databases.records l.far.databases).at? db t = some cells)
    (hr : Databases.Recorded l.far.databases) (low : String) {n : Count} (hn : 0 < n.toInt)
    {names : List Value} {fields : List String} (ha : Entry.Asks names fields)
    (mode : Option ReadMode) :
    answer (.between db (.str t) (.str low) n.value names mode) l =
      .ok (((cells.startingAt low).entries.take n.toInt.toNat).map fun e =>
        (e.2.read fields).value) l := by
  rw [Databases.at?_records, Option.map_eq_some_iff] at h
  obtain ⟨content, ht, rfl⟩ := h
  simp only [answer, Action.bind_apply, table_apply, ht,
    (hr db t content ht).between_eq low hn ha, Action.given_ok, Action.pure_apply]

end StoreClient

/-- Records that were read in part are taken for what they show. -/
lemma Value.scanOutcome?_read (rows : List Row) (fields : List String) :
    Value.scanOutcome? (.ofTexts fields) (rows.map fun row => (row.read fields).value) =
      some (.found (.records (rows.map (·.visible fields)))) := by
  have hrows : (rows.map fun row => (row.read fields).value).mapM Value.row? =
      some (rows.map (·.read fields)) := by
    induction rows with
    | nil => rfl
    | cons row rows ih =>
      have hv : (row.read fields).value.row? = some (row.read fields) :=
        congrArg some (SortedMap.ofList_entries _)
      rw [List.map_cons, List.mapM_cons, hv, ih]
      rfl
  rw [scanOutcome?, hrows, Option.map_some, List.map_map]
  congr 3
  exact List.map_congr_left fun row _ => Row.shown_read row fields

/-- What a table shows from a key on: the visible fields of its records. -/
def SortedMap.shownFrom (cells : SortedMap Row) (start : String) (fields : List String) :
    List Document :=
  (cells.startingAt start).entries.map fun e => e.2.visible fields

end CrudBench
