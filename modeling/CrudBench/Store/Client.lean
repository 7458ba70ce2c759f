import CrudBench.Client
import CrudBench.Store.Databases

/-!
# Clients of a store in memory

A client that answers calls from databases in memory. It can be told to refuse connections, to fail
the next call, and to find that others were first to create what it wants to create.
-/

namespace CrudBench

/-- What reaches a store. -/
inductive StoreEvent where
  | connect (e : Endpoint)
  | call (c : Call)

/-- Databases in memory, and what has reached them. -/
structure Store where
  databases : Databases
  trace : List StoreEvent

/-- A client of a store. -/
structure StoreClient where
  isOpen : Bool
  /-- Connections are refused. -/
  refuses : Bool
  /-- The message with which the next call fails. -/
  armed : Option String
  /-- Names that others create just before this client does. -/
  races : List String

namespace StoreClient

/-- A client that is not connected. -/
def new (refuses : Bool) (races : List String) : StoreClient := ⟨false, refuses, none, races⟩

/-- Makes the next call fail with a message; null takes that back. -/
def arm (c : StoreClient) : Value → StoreClient
  | .null => { c with armed := none }
  | message => { c with armed := some message.text }

/-- What the actions of the client work on. -/
abbrev Side := Link StoreClient Store

/-- Traces an event. -/
def record (e : StoreEvent) : Action Side Unit :=
  modify fun s => { s with far.trace := s.far.trace ++ [e] }

/-- Opens a connection. -/
def connect (e : Endpoint) : Action Side Unit := do
  record (.connect e)
  if (← get).near.refuses then
    throw (.connection (.unreachable (.str e.host) (.int e.port) "Connection refused"))
  modify fun s => { s with near.isOpen := true }

/-- Gives the connection up. -/
def close : Action Side Unit := do
  unless (← get).near.isOpen do throw (.connection .notConnected)
  modify fun s => { s with near.isOpen := false }

/-- Fails if a failure is armed, which it then is no longer. -/
def tripwire : Action Side Unit := do
  match (← get).near.armed with
  | none => return
  | some message =>
    modify fun s => { s with near.armed := none }
    throw (.operation (.injected message))

/-- The databases. -/
def databases : Action Side Databases := return (← get).far.databases

/-- Replaces the databases. -/
def setDatabases (dbs : Databases) : Action Side Unit :=
  modify fun s => { s with far.databases := dbs }

/-- A table with its name, which has to be there. -/
def table (db : String) (t : Value) : Action Side (String × Table) := do
  let name ← Action.given t.asName
  match name.str? >>= (← databases).table? db with
  | some content => return (name.text, content)
  | none => throw (.operation (.noTable db name.text))

/-- A database, which has to be there. -/
def database (db : String) : Action Side Database := do
  match (← databases).get? db with
  | some content => return content
  | none => throw (.noDatabase db)

/-- Replaces a table by what a write makes of it, and answers with the receipt. -/
def write (db : String) (t : Value) (change : Table → Except Misfit (Value × Table)) :
    Action Side Value := do
  let (name, before) ← table db t
  let (receipt, content) ← Action.given (change before)
  setDatabases ((← databases).putTable db name content)
  return receipt

/-- Answers a call. -/
def answer : (c : Call) → Action Side c.Answer
  | .databaseList => do return (← databases).keys.map Value.str
  | .databaseCreate db => do
    let dbs ← databases
    setDatabases (dbs.ensureDatabase db)
    return !(dbs.contains db || (← get).near.races.contains db)
  | .tableList db => do return (← database db).keys.map Value.str
  | .tableCreate db t _ _ => do
    let tables ← database db
    setDatabases ((← databases).ensureTable db t)
    return !(tables.contains t || (← get).near.races.contains t)
  | .tableWait _ _ => return ()
  | .get db t key fields _ => do Action.given ((← table db t).2.get key fields)
  | .between db t low limit fields _ => do
    Action.given ((← table db t).2.between low limit fields)
  | .update db t key values _ => write db t (Table.update · key values)
  | .insert db t row _ => write db t (Table.insert · row)
  | .delete db t key _ => write db t (Table.delete · key)

/-- Traces a call and answers it, unless a failure is armed. -/
def ask (c : Call) : Action Side c.Answer := do
  record (.call c)
  tripwire
  answer c

instance : Client StoreClient Store where
  isOpen := isOpen
  connect := connect
  close := close
  ask := ask

end StoreClient

end CrudBench
