import CrudBench.Backend.Records
import CrudBench.Directory
import CrudBench.Metrics.Saved

/-!
# The smoke check

Every operation is tried on a few records that are thrown away afterwards: they are inserted, read,
updated and read again, scanned, deleted, and missed. What does not come out as expected is
reported, and the check goes on.
-/

namespace CrudBench

/-- A backend at work, with what is recorded, printed and written on the way. -/
structure Bench (κ ω : Type) extends Session κ ω where
  metrics : Registry
  output : List String
  files : Directory

/-- The size of a smoke check. -/
structure SmokePlan where
  records : Count
  fields : Count
  keyPrefix : String

namespace SmokePlan

/-- The count that a value stands for. -/
def countOf (v : Value) : Except Fault Count :=
  match v.count? with
  | some n => .ok n
  | none => .error (.misfit (.notCount v.kind))

/-- The plan with these properties, of which the first two have to be counts. -/
def ofValues (records fields keyPrefix : Value) : Except Fault SmokePlan := do
  return ⟨← countOf records, ← countOf fields, keyPrefix.text⟩

/-- The keys of the records. -/
def keys (p : SmokePlan) : List String :=
  (List.range p.records.toInt.toNat).map fun (i : Nat) => p.keyPrefix ++ Text.paddedDecimal 6 i

/-- The fields of each record. -/
def values (p : SmokePlan) : Document :=
  .ofList ((List.range p.fields.toInt.toNat).map fun (i : Nat) =>
    ("field" ++ Text.decimal i, "value" ++ Text.decimal i))

/-- The fields that are read after an update. -/
def watched (p : SmokePlan) : FieldSet :=
  .ofTexts (if 1 < p.fields.toInt then ["field0", "field1"] else ["field0"])

/-- The fields that an update overwrites. -/
def update : Document := .ofList [("field0", "updated")]

end SmokePlan

namespace Bench

variable {κ ω : Type} [Client κ ω]

/-- Lets the backend act. -/
def viaBackend {α : Type} (act : Action (Session κ ω) α) : Action (Bench κ ω) α := fun b =>
  match act b.toSession with
  | .ok a s => .ok a { b with toSession := s }
  | .error e s => .error e { b with toSession := s }

/-- Does something for each item, one after the other, and collects what is reported. -/
def gather {σ α β : Type} (f : α → Action σ (List β)) : List α → Action σ (List β)
  | [] => return []
  | a :: as => return (← f a) ++ (← gather f as)

/-- What is reported about an outcome that was not expected. -/
def complaint (op : Operation) (key : String) (o : Outcome) : String :=
  Text.trim (op.name ++ " " ++ key ++ ": " ++ o.status.name ++ " " ++ o.error.getD "")

/-- Does an operation and records its outcome; the outcome is reported unless it is the expected
one. -/
def expect (op : Operation) (key : String) (wanted : Status) (act : Action (Session κ ω) Outcome) :
    Action (Bench κ ω) (Outcome × List String) := do
  let o ← viaBackend act
  modify fun b => { b with metrics := b.metrics.recordOutcome op.name o }
  return (o, if o.status = wanted then [] else [complaint op key o])

/-- Two records hold the same fields. -/
def sameRecord (o : Outcome) (values : Document) : Bool :=
  match o.data with
  | some (.record d) => d = values
  | _ => false

/-- The names of the fields that were read. -/
def fieldNames (o : Outcome) : String :=
  match o.data with
  | some (.record d) => (Value.list (d.keys.map .str)).text
  | _ => (Value.list []).text

/-- A field of the record that was read. -/
def fieldOf (o : Outcome) (name : String) : Option String :=
  match o.data with
  | some (.record d) => d.get? name
  | _ => none

/-- The number of records that were scanned. -/
def scannedCount (o : Outcome) : Int :=
  match o.data with
  | some (.records ds) => ds.length
  | _ => 0

/-- Inserts a record. -/
def tryInsert (t : Value) (p : SmokePlan) (key : String) : Action (Bench κ ω) (List String) := do
  let (_, complaints) ← expect .insert key .ok (Session.insert t (.str key) p.values.row.value)
  return complaints

/-- Reads a record, which has to hold what was inserted. -/
def tryRead (t : Value) (p : SmokePlan) (key : String) : Action (Bench κ ω) (List String) := do
  let (o, complaints) ← expect .read key .ok (Session.read t (.str key) .empty)
  if o.status = .ok ∧ !sameRecord o p.values then
    return complaints ++ ["read " ++ key ++ ": unexpected fields " ++ fieldNames o]
  return complaints

/-- Updates a record and reads what was written. -/
def tryUpdate (t : Value) (p : SmokePlan) (key : String) : Action (Bench κ ω) (List String) := do
  let (_, written) ← expect .update key .ok (Session.update t (.str key) SmokePlan.update.row.value)
  let (o, complaints) ← expect .read key .ok (Session.read t (.str key) p.watched)
  if o.status = .ok ∧ fieldOf o "field0" ≠ some "updated" then
    return written ++ complaints ++ ["read " ++ key ++ ": update not visible"]
  return written ++ complaints

/-- Scans the records from the first key on. There has to be a first key. -/
def tryScan (t : Value) (p : SmokePlan) : Action (Bench κ ω) (List String) := do
  match p.keys with
  | [] => throw .noKeys
  | key :: _ =>
    let (o, complaints) ← expect .scan key .ok
      (Session.scan t (.str key) p.records.value (.ofTexts ["field0"]))
    if o.status = .ok ∧ p.records.toInt < scannedCount o then
      return complaints ++ ["scan: returned " ++ Text.decimal (scannedCount o) ++
        " rows, limit was " ++ p.records.value.text]
    return complaints

/-- Deletes a record, which is then gone. -/
def tryDelete (t : Value) (key : String) : Action (Bench κ ω) (List String) := do
  let (_, deleted) ← expect .delete key .ok (Session.delete t (.str key))
  let (_, missed) ← expect .read key .notFound (Session.read t (.str key) .empty)
  return deleted ++ missed

/-- The smoke check on a table by a plan; what went wrong is reported. -/
def carryOut (t : Value) (p : SmokePlan) : Action (Bench κ ω) (List String) := do
  let inserted ← gather (tryInsert t p) p.keys
  let read ← gather (tryRead t p) p.keys
  let updated ← gather (tryUpdate t p) p.keys
  let scanned ← tryScan t p
  let deleted ← gather (tryDelete t) p.keys
  return inserted ++ read ++ updated ++ scanned ++ deleted

/-- The smoke check on a table, unless there is no plan. -/
def smoke (t : Value) : Except Fault SmokePlan → Action (Bench κ ω) (List String)
  | .ok p => carryOut t p
  | .error e => throw e

end Bench

end CrudBench
