import CrudBench.Query.Basic
import CrudBench.Settings.Basic

/-!
# Calls

What a backend asks of its client: about databases and tables while it makes them ready, and about
records afterwards. Each call has its own type of answer, and each is a query in dynamic values.
-/

namespace CrudBench

/-- A call to a client. No fields means all of them. An inserted row holds its key. -/
inductive Call where
  | databaseList
  | databaseCreate (database : String)
  | tableList (database : String)
  | tableCreate (database table primaryKey : String) (durability : Durability)
  | tableWait (database table : String)
  | get (database : String) (table key : Value) (fields : List Value) (mode : Option ReadMode)
  | between (database : String) (table low limit : Value) (fields : List Value)
      (mode : Option ReadMode)
  | update (database : String) (table key : Value) (values : Document) (durability : Durability)
  | insert (database : String) (table : Value) (row : Row) (durability : Durability)
  | delete (database : String) (table key : Value) (durability : Durability)

namespace Call

/-- What a call is answered with: a listing, whether something was created, nothing, a record or
null, records, or the receipt of a write. -/
abbrev Answer : Call → Type
  | databaseList | tableList .. | between .. => List Value
  | databaseCreate .. | tableCreate .. => Bool
  | tableWait .. => Unit
  | get .. | update .. | insert .. | delete .. => Value

/-- A read mode as a value. -/
def modeValue (mode : Option ReadMode) : Value := (mode.map fun m => Value.str m.name).getD .null

/-- The call as a query. -/
def query : Call → Query
  | databaseList => .databaseList
  | databaseCreate db => .databaseCreate (.str db)
  | tableList db => .tableList (.str db)
  | tableCreate db t key durability =>
    .tableCreate (.str db) (.str t) (.str key) (.str durability.name)
  | tableWait db t => .tableWait (.str db) (.str t)
  | get db t key fields mode =>
    .get (.str db) t key (.list fields) (modeValue mode)
  | between db t low limit fields mode =>
    .between (.str db) t low limit (.list fields) (modeValue mode)
  | update db t key values durability =>
    .update (.str db) t key values.row.value (.str durability.name)
  | insert db t row durability => .insert (.str db) t row.value (.str durability.name)
  | delete db t key durability => .delete (.str db) t key (.str durability.name)

end Call

end CrudBench
