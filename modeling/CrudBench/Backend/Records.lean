import CrudBench.Backend.FieldSet
import CrudBench.Backend.Lifecycle
import CrudBench.Outcome

/-!
# Operations on records

Reading, scanning, updating, inserting and deleting. A failing query is an outcome, not a fault. The
time is taken around the client's answer; what is decided without asking the client takes none.
-/

namespace CrudBench

/-- A record as text. The key is left out unless it is asked for. -/
def Row.shown (row : Row) (fields : FieldSet) : Document :=
  if fields.contains primaryKey then row.map Value.text else (row.map Value.text).erase primaryKey

/-- The document that an update writes: the values as text, without the key. -/
def updateDocument (values : Row) : Document := (values.map Value.text).erase primaryKey

/-- The row that an insertion writes: the values as text, and their key as it is given. -/
def insertedRow (key : Value) (values : Row) : Row :=
  (values.map fun v => .str v.text).insert primaryKey key

namespace Session

variable {κ ω : Type} [Client κ ω]

/-- Does something with the settings, if the backend is connected. -/
def whenConnected (act : Settings → Action (Session κ ω) Outcome) :
    Action (Session κ ω) Outcome := do
  let s ← get
  match s.connected, s.settings with
  | true, some st => act st
  | _, _ => return .failed "Not connected" .zero

/-- The outcome of a failed operation, which is logged. -/
def failure (op : Operation) (key : Value) (e : OperationError) (start : Float) :
    Action (Session κ ω) Outcome := do
  report (.failed op key.text e)
  return .failed e.message (← elapsedSince start)

/-- Asks the client and makes an outcome of what it answers. The time runs since a reading of the
clock. -/
def timed (op : Operation) (key : Value) (start : Float) (c : Call)
    (finish : c.Answer → Action (Session κ ω) Outcome) : Action (Session κ ω) Outcome := do
  match ← attempt (ask c) with
  | .error e => failure op key e start
  | .ok a => finish a

/-- The record that a value is. -/
def rowOf (v : Value) : Except Misfit Row :=
  match v.row? with
  | some row => .ok row
  | none => .error (.lacks .items v.kind)

/-- Reads the record under a key. -/
def read (t key : Value) (fields : FieldSet) : Action (Session κ ω) Outcome :=
  whenConnected fun st => do
    let start ← now
    let names ← Action.given fields.sorted
    timed .read key start (.get st.database t key names st.readMode) fun answer =>
      match answer with
      | Value.null => return .notFound (← elapsedSince start)
      | v => do
        let latency ← elapsedSince start
        return .found (.record ((← Action.given (rowOf v)).shown fields)) latency

/-- Reads the records from a key on, in the order of their keys, up to a number of them. -/
def scan (t key count : Value) (fields : FieldSet) : Action (Session κ ω) Outcome :=
  whenConnected fun st => do
    if ← Action.given count.atMostZero then return .found (.records []) .zero
    let start ← now
    let names ← Action.given fields.sorted
    timed .scan key start (.between st.database t key count names st.readMode)
      fun (answer : List Value) => do
        let latency ← elapsedSince start
        return .found (.records ((← Action.given (answer.mapM rowOf)).map (·.shown fields))) latency

/-- The outcome of a write, from its receipt. A write that has no record to work on may say so. -/
def settle (op : Operation) (key : Value) (start : Float) (wanted : Counter) (mayMiss : Bool)
    (answer : Value) : Action (Session κ ω) Outcome :=
  match Receipt.ofValue? answer with
  | none => throw (.misfit (.lacks .get answer.kind))
  | some r =>
    if r.confirms wanted then return .ok (← elapsedSince start)
    else if mayMiss && r.skippedOne then return .notFound (← elapsedSince start)
    else failure op key (.rejected wanted r) start

/-- Overwrites fields of the record under a key. -/
def update (t key values : Value) : Action (Session κ ω) Outcome :=
  whenConnected fun st => do
    let start ← now
    let document := updateDocument (← Action.given (rowOf values))
    timed .update key start (.update st.database t key document st.durability)
      (settle .update key start .replaced true)

/-- Puts in a record under a key, which must not be empty. -/
def insert (t key values : Value) : Action (Session κ ω) Outcome :=
  whenConnected fun st => do
    unless key.isTruthy do return .failed "Empty primary key" .zero
    let start ← now
    let row := insertedRow key (← Action.given (rowOf values))
    timed .insert key start (.insert st.database t row st.durability)
      (settle .insert key start .inserted false)

/-- Removes the record under a key. -/
def delete (t key : Value) : Action (Session κ ω) Outcome :=
  whenConnected fun st => do
    let start ← now
    timed .delete key start (.delete st.database t key st.durability)
      (settle .delete key start .deleted true)

end Session

end CrudBench
