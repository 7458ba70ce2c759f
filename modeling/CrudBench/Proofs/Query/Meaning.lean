import CrudBench.Proofs.SortedMap
import CrudBench.Query.Basic
import CrudBench.Receipt

/-!
# What query terms mean

A term is evaluated on records of texts, operation by operation: what an operation makes of its
arguments does not depend on where the term comes from. A table that is not there fails the query,
and so does taking fields of a record that is not there, which a default can make up for. Terms that
are put together in any other way have no meaning (`Wording.senseless`).
-/

namespace CrudBench

/-- Records of texts by database, table and key. -/
abbrev TextContents := SortedMap (SortedMap (SortedMap Document))

/-- The texts of a server's complaints, which are its own. -/
structure Wording where
  noTable : (database table : String) → String
  noRecord : String
  keyTaken : (key : String) → String
  keyChanged : (key : String) → String
  senseless : String

/-- A table, named with its database. -/
structure TableName where
  database : String
  table : String

/-- What a term stands for. -/
inductive Meaning where
  | datum (v : Value)
  /-- What is above every key. -/
  | maxKey
  /-- The order of the values of a field. -/
  | ascending (field : String)
  | database (name : String)
  | table (name : TableName) (cells : SortedMap Document)
  /-- Records of a table, in no particular order. -/
  | selection (cells : SortedMap Document)
  /-- Records in an order. -/
  | sequence (ds : List Document)
  /-- What stands under a key of a table. -/
  | record (name : TableName) (key : String) (doc : Option Document)

/-- Evaluating a term, which may fail, and may change the records. -/
abbrev Run := EStateM DriverError TextContents

/-- The receipt of a write to one record: the counter that it moved, and why it failed. -/
def Counter.receipt (moved : Counter) (firstError : Option String) : Receipt :=
  ⟨Counter.all.map (fun c => (c.name, .int (if c = moved then 1 else 0))) ++
    firstError.toList.map fun s => ("first_error", .str s)⟩

namespace Meaning

/-- The value that it is. A record that is not there is null. -/
def value? : Meaning → Option Value
  | datum v => some v
  | record _ _ none => some .null
  | record _ _ (some d) => some d.row.value
  | sequence ds => some (.list (ds.map fun d => d.row.value))
  | _ => none

/-- It is null. -/
def isNull : Meaning → Bool
  | datum .null | record _ _ none => true
  | _ => false

/-- The text that it is. -/
def text? : Meaning → Option String
  | datum (.str s) => some s
  | _ => none

/-- The record of texts that it is. -/
def document? : Meaning → Option Document
  | datum (.object fs) => (fs.mapM fun (f : String × Value) => f.2.str?.map (f.1, ·)).map .ofList
  | _ => none

variable (w : Wording)

/-- What has no meaning fails. -/
def senseless {α : Type} : Run α := throw (.reported .queryLogic w.senseless)

/-- Something that has to be there. -/
def the {α : Type} : Option α → Run α
  | some a => return a
  | none => senseless w

/-- A table of a database, which has to be there. -/
def openTable (db t : String) : Run Meaning := do
  match (← get).at? db t with
  | some cells => return table ⟨db, t⟩ cells
  | none => throw (.reported .opFailed (w.noTable db t))

/-- The fields of these names: of a record that is there, or of each of a sequence. -/
def pluck (fields : List String) : Meaning → Run Meaning
  | record _ _ (some d) => return datum (Document.row (d.filterKeys fields.contains)).value
  | sequence ds => return sequence (ds.map fun d => d.filterKeys fields.contains)
  | m => if m.isNull then throw (.reported .nonExistence w.noRecord) else senseless w

/-- The first of two, or the second if the first is null or of something that does not exist. -/
def orElse (x y : Run Meaning) : Run Meaning := fun a =>
  match x a with
  | .ok m a' => if m.isNull then y a' else .ok m a'
  | .error e a' => if e.kind = .nonExistence then y a' else .error e a'

/-- Puts a cell of a table. -/
def putCell (name : TableName) (key : String) (d : Option Document) : Run Unit :=
  modify fun a => a.putAt name.database name.table
    (((a.at? name.database name.table).getD .empty).set key d)

/-- Puts a record into a table, under the key that it holds, unless the key is taken. -/
def insert (name : TableName) (cells : SortedMap Document) (d : Document) : Run Meaning := do
  let key ← the w (d.get? primaryKey)
  match cells.get? key with
  | some _ => return datum (.object (Counter.receipt .errors (some (w.keyTaken key))).fields)
  | none =>
    putCell name key (some d)
    return datum (.object (Counter.receipt .inserted none).fields)

/-- Overlays a record with texts, which must not change its key. -/
def update (name : TableName) (key : String) (doc : Option Document) (d : Document) :
    Run Meaning := do
  match doc with
  | none => return datum (.object (Counter.receipt .skipped none).fields)
  | some old =>
    if (old.overlay d).get? primaryKey ≠ old.get? primaryKey then
      return datum (.object (Counter.receipt .errors (some (w.keyChanged key))).fields)
    else if old.overlay d = old then
      return datum (.object (Counter.receipt .unchanged none).fields)
    else
      putCell name key (some (old.overlay d))
      return datum (.object (Counter.receipt .replaced none).fields)

/-- Removes a record. -/
def delete (name : TableName) (key : String) (doc : Option Document) : Run Meaning := do
  match doc with
  | none => return datum (.object (Counter.receipt .skipped none).fields)
  | some _ =>
    putCell name key none
    return datum (.object (Counter.receipt .deleted none).fields)

end Meaning

open Meaning

/-- What an operation makes of its arguments. The mode of a read and the durability of a write do
not matter here; only an insertion that fails if the key is taken has a meaning. -/
def Op.run (w : Wording) (op : Op) (args : List (Run Meaning))
    (options : List (String × Run Meaning)) : Run Meaning :=
  match op, args with
  | .database, [name] => do return .database (← the w (← name).text?)
  | .table, [place, name] => do
    match ← place, ← name with
    | .database db, .datum (.str t) => openTable w db t
    | _, _ => senseless w
  | .get, [place, key] => do
    match ← place, ← key with
    | .table name cells, .datum (.str k) => return .record name k (cells.get? k)
    | _, _ => senseless w
  | .pluck, subject :: names => do
    let m ← subject
    Meaning.pluck w (← the w ((← names.mapM id).mapM text?)) m
  | .default, [x, y] => orElse x y
  | .maxValue, [] => return .maxKey
  | .between, [place, low, high] => do
    match ← place, ← low, ← high with
    | .table _ cells, .datum (.str k), .maxKey => return .selection (cells.startingAt k)
    | _, _, _ => senseless w
  | .ascending, [field] => do return .ascending (← the w (← field).text?)
  | .orderBy, [records] => do
    match ← records, ← (options.lookup "index").getD (senseless w) with
    | .selection cells, .ascending field =>
      if field = primaryKey then return .sequence (cells.entries.map (·.2)) else senseless w
    | _, _ => senseless w
  | .limit, [records, count] => do
    match ← records, ← count with
    | .sequence ds, .datum (.int n) =>
      if 0 ≤ n then return .sequence (ds.take n.toNat) else senseless w
    | _, _ => senseless w
  | .insert, [place, document] => do
    let conflict ← (options.lookup "conflict").getD (senseless w)
    match ← place, (← document).document?, conflict.text? with
    | .table name cells, some d, some "error" => Meaning.insert w name cells d
    | _, _, _ => senseless w
  | .update, [place, document] => do
    match ← place, (← document).document? with
    | .record name key doc, some d => Meaning.update w name key doc d
    | _, _ => senseless w
  | .delete, [place] => do
    match ← place with
    | .record name key doc => Meaning.delete name key doc
    | _ => senseless w
  | _, _ => senseless w

namespace Term

variable (w : Wording)

mutual

/-- Evaluates a term. -/
def eval : Term → Run Meaning
  | null => return .datum .null
  | bool b => return .datum (.bool b)
  | int n => return .datum (.int n)
  | float x => return .datum (.float x)
  | str s => return .datum (.str s)
  | object fields => do
    let vs ← (evalFields fields).mapM fun f => do return (f.1, ← the w (← f.2).value?)
    return .datum (.object vs)
  | call op args options => op.run w (evalItems args) (evalFields options)

/-- Evaluates each of several terms. -/
def evalItems : List Term → List (Run Meaning)
  | [] => []
  | t :: ts => eval t :: evalItems ts

/-- Evaluates each of several fields or options. -/
def evalFields : List (String × Term) → List (String × Run Meaning)
  | [] => []
  | (k, t) :: fs => (k, eval t) :: evalFields fs

end

/-- What a term is replied to with, and the records afterwards. -/
def reply (t : Term) (a : TextContents) : Except DriverError Value × TextContents :=
  match t.eval w a with
  | .error e a' => (.error e, a')
  | .ok m a' =>
    match m.value? with
    | some v => (.ok v, a')
    | none => (.error (.reported .queryLogic w.senseless), a')

end Term

/-- What a query is replied to with, and the records afterwards. One that cannot be built is not
sent. -/
def Query.reply (w : Wording) (q : Query) (a : TextContents) :
    Except DriverError Value × TextContents :=
  match q.term with
  | .ok t => t.reply w a
  | .error e => (.error e, a)

end CrudBench
