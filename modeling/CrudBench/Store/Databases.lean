import CrudBench.Query.Basic
import CrudBench.Text.Search
import CrudBench.Value.Dictionary
import CrudBench.Value.Text

/-!
# Stores in memory

Databases with their tables, and tables with their records by key. Writing to a table answers with a
receipt; asking for a table that is not there gives nothing. A table may also hold values that are
no records, of which little can be made, and a key need not be a text.
-/

namespace CrudBench

/-- What stands under a key: a record, or some other value. -/
inductive Entry where
  | row (r : Row)
  | other (v : Value)

namespace Entry

/-- The entry that a value is. -/
def ofValue (v : Value) : Entry :=
  match v.row? with
  | some r => row r
  | none => other v

/-- The entry as a value. -/
def value : Entry → Value
  | row r => r.value
  | other v => v

/-- The entry is null, which counts as nothing. -/
def isNull : Entry → Bool
  | other .null => true
  | _ => false

/-- Looks for a field in a value that is no record. In a text or a list it may be found, but not
taken out. -/
def seek (field : Value) : Value → Except Misfit Unit
  | .str s =>
    match field with
    | .str t => if Text.isPartOf t s then .error .textIndex else .ok ()
    | f => .error (.notPart f.kind)
  | .list items => if items.any (·.sameName field) then .error (.listIndex field.kind) else .ok ()
  | v => .error (.notContainer v.kind)

/-- What is left of a value that is no record if some fields are asked for. -/
def pick (v : Value) (fields : List Value) : Except Misfit Value := do
  fields.forM fun f => seek f v
  return .object []

/-- One of the fields has this name. -/
def isAmong (fields : List Value) (name : String) : Bool := fields.any (·.sameName (.str name))

/-- The fields of an entry that are asked for, or all of them if none are named. -/
def project (fields : List Value) : Entry → Except Misfit Value
  | row r => .ok (if fields.isEmpty then r else r.filterKeys (isAmong fields)).value
  | other v =>
    if fields.isEmpty then (Dictionary.ofValue v).map Dictionary.value
    else pick v fields

end Entry

/-- The entries of a table by their keys. -/
abbrev Table := Dictionary Entry

/-- The tables of a database by their names. -/
abbrev Database := SortedMap Table

/-- The databases by their names. -/
abbrev Databases := SortedMap Database

/-- A receipt with these counters. -/
def receiptOf (counters : List (String × Int)) : Value :=
  .object (counters.map fun c => (c.1, .int c.2))

namespace Table

/-- The record under a key, or null. -/
def get (t : Table) (key : Value) (fields : List Value) : Except Misfit Value := do
  match t.get? (← key.asName) with
  | none => return .null
  | some e => if e.isNull then return .null else e.project fields

/-- The first key is less than the second, as a number. -/
def lessKey (a b : Value) : Bool :=
  match a.number?, b.number? with
  | some m, some n => m.less n
  | _, _ => false

/-- The entries from a key on, in the order of their keys. Texts have no order with anything else,
and besides them only numbers have one. -/
def startingAt (t : Table) : Value → Except Misfit (List Entry)
  | .str low => do
    let entries ← t.allNamed (.incomparable .atLeast · .str)
    return ((entries.filterKeys fun key => decide (low ≤ key)).entries).map (·.2)
  | low => do
    let entries ← t.entries.filterM fun e => e.1.atLeast low
    return (entries.mergeSort fun a b => !lessKey b.1 a.1).map (·.2)

/-- The first ones of a list up to a number of them. A negative number leaves off as many at the
end. -/
def limited {α : Type} (xs : List α) (limit : Value) : Except Misfit (List α) :=
  match limit.count? with
  | some n =>
    .ok (xs.take (if n.toInt < 0 then xs.length - n.toInt.natAbs else n.toInt.toNat))
  | none => .error .notLimit

/-- The records from a key on, in the order of their keys, up to a number of them. -/
def between (t : Table) (low limit : Value) (fields : List Value) :
    Except Misfit (List Value) := do
  (← limited (← t.startingAt low) limit).mapM (Entry.project fields)

/-- The record already holds these texts. -/
def holds (row : Row) (values : Document) : Bool :=
  values.entries.all fun e => match row.get? e.1 with
    | some (.str s) => s == e.2
    | _ => false

/-- The record with these texts in it. -/
def overlaid (row : Row) (values : Document) : Row := row.overlay values.row

/-- Overlays the record under a key. -/
def update (t : Table) (key : Value) (values : Document) : Except Misfit (Value × Table) := do
  match t.get? (← key.asName) with
  | none => return (receiptOf [("replaced", 0), ("unchanged", 0), ("skipped", 1), ("errors", 0)], t)
  | some (.other v) => throw (.notMapping v.kind)
  | some (.row row) =>
    if holds row values then
      return (receiptOf [("replaced", 0), ("unchanged", 1), ("skipped", 0), ("errors", 0)], t)
    else
      return (receiptOf [("replaced", 1), ("unchanged", 0), ("skipped", 0), ("errors", 0)],
        t.put key (.row (overlaid row values)))

/-- The complaint about a key that is taken. -/
def duplicateKey (key : String) : String :=
  "Duplicate primary key \x60" ++ primaryKey ++ "\x60:\n\x7b\"" ++ primaryKey ++ "\":\t\"" ++ key ++
    "\"\x7d"

/-- Puts in a record under the key that it holds, unless the key is taken. -/
def insert (t : Table) (row : Row) : Except Misfit (Value × Table) := do
  let key ← ((row.get? primaryKey).getD .null).asName
  if t.contains key then
    return (.object
      [("inserted", .int 0), ("errors", .int 1), ("first_error", .str (duplicateKey key.text))], t)
  else return (receiptOf [("inserted", 1), ("errors", 0)], t.put key (.row row))

/-- Removes the record under a key. What is null is removed, too, but does not count. -/
def delete (t : Table) (key : Value) : Except Misfit (Value × Table) := do
  let missed := receiptOf [("deleted", 0), ("skipped", 1), ("errors", 0)]
  if t.isEmpty then return (missed, t)
  match t.get? (← key.asName) with
  | none => return (missed, t)
  | some e =>
    let removed := receiptOf [("deleted", 1), ("skipped", 0), ("errors", 0)]
    return (if e.isNull then missed else removed, t.erase key)

end Table

namespace Databases

/-- A table of a database. -/
def table? (dbs : Databases) (db t : String) : Option Table := dbs.get? db >>= (·.get? t)

/-- The databases with this table in the database of this name. -/
def putTable (dbs : Databases) (db t : String) (content : Table) : Databases :=
  dbs.insert db (((dbs.get? db).getD .empty).insert t content)

/-- Makes sure that there is a database of this name. -/
def ensureDatabase (dbs : Databases) (db : String) : Databases :=
  if dbs.contains db then dbs else dbs.insert db .empty

/-- Makes sure that there is a table of this name in the database. -/
def ensureTable (dbs : Databases) (db t : String) : Databases :=
  if (dbs.table? db t).isSome then dbs else dbs.putTable db t .empty

end Databases

end CrudBench
