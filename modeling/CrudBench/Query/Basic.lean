import CrudBench.Query.Term

/-!
# Queries

What can be asked of a server, in dynamic values, and the term that is sent for it. Every argument
has to be shallow enough to be sent.
-/

namespace CrudBench

/-- The field that holds the key of a record. -/
def primaryKey : String := "__pk__"

/-- A question to a server. Fields that count as false mean all of them, and a mode that counts as
false means none. -/
inductive Query where
  | databaseList
  | databaseCreate (database : Value)
  | tableList (database : Value)
  | tableCreate (database table primaryKey durability : Value)
  | tableWait (database table : Value)
  | get (database table key fields mode : Value)
  | between (database table low limit fields mode : Value)
  | update (database table key values durability : Value)
  | insert (database table document durability : Value)
  | delete (database table key durability : Value)

namespace Query

/-- A term, unless a value in it is nested too deeply. -/
abbrev Built := Except DriverError Term

/-- An operation on arguments, with options. -/
def apply (op : Op) (args : List Built) (options : List (String × Built)) : Built := do
  return .call op (← args.mapM id) (← options.mapM fun o => return (o.1, ← o.2))

/-- A database. -/
def databaseTerm (database : Value) : Built := apply .database [Term.ofValue database] []

/-- A table of a database, read in the given mode. -/
def tableTerm (database table mode : Value) : Built :=
  apply .table [databaseTerm database, Term.ofValue table]
    (if mode.isTruthy then [("read_mode", Term.ofValue mode)] else [])

/-- A record of a table. -/
def recordTerm (database table key mode : Value) : Built :=
  apply .get [tableTerm database table mode, Term.ofValue key] []

/-- The named fields of a record or of several, if fields are named. -/
def pluck (subject : Built) (fields : Value) : Built :=
  match fields.items? with
  | some names => apply .pluck (subject :: names.map Term.ofValue) []
  | none => subject.bind fun _ => .error (.notNames fields.kind)

/-- The records from a key on, in the order of their keys, up to a number of them. -/
def rangeTerm (database table low limit mode : Value) : Built :=
  let range := apply .between
    [tableTerm database table mode, Term.ofValue low, apply .maxValue [] []] []
  let byKey := apply .ascending [Term.ofValue (.str primaryKey)] []
  apply .limit [apply .orderBy [range] [("index", byKey)], Term.ofValue limit] []

/-- The term that is sent for a query. -/
def term : Query → Built
  | databaseList => apply .databaseList [] []
  | databaseCreate database => apply .databaseCreate [Term.ofValue database] []
  | tableList database => apply .tableList [databaseTerm database] []
  | tableCreate database table key durability =>
    apply .tableCreate [databaseTerm database, Term.ofValue table]
      [("primary_key", Term.ofValue key), ("durability", Term.ofValue durability)]
  | tableWait database table => apply .wait [tableTerm database table .null] []
  | get database table key fields mode =>
    let record := recordTerm database table key mode
    if fields.isTruthy then apply .default [pluck record fields, Term.ofValue .null] []
    else record
  | between database table low limit fields mode =>
    let records := rangeTerm database table low limit mode
    if fields.isTruthy then pluck records fields else records
  | update database table key values durability =>
    apply .update [recordTerm database table key .null, Term.ofValue values]
      [("durability", Term.ofValue durability)]
  | insert database table document durability =>
    apply .insert [tableTerm database table .null, Term.ofValue document]
      [("durability", Term.ofValue durability), ("conflict", Term.ofValue (.str "error"))]
  | delete database table key durability =>
    apply .delete [recordTerm database table key .null] [("durability", Term.ofValue durability)]

end Query

end CrudBench
