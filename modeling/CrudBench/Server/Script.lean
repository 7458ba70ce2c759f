import CrudBench.Client
import CrudBench.Text.Search

/-!
# Scripted servers

A server that answers from a script, and the client that sends queries to it. The script says how
connecting and closing end and what each query is answered with; when it is used up the server has
gone away. Everything that reaches the server is traced, whatever the answer.
-/

namespace CrudBench

/-- What reaches a server. -/
inductive WireEvent where
  | connect (host port timeout : Value)
  | query (term : Term)
  | close

/-- The answers of a server, and what has reached it. -/
structure Server where
  connectError : Option DriverError
  closeError : Option DriverError
  replies : List (Except DriverError Value)
  trace : List WireEvent

/-- A client that sends queries over a connection. -/
structure WireClient where
  isOpen : Bool

namespace WireClient

/-- A client that is not connected. -/
def new : WireClient := ⟨false⟩

/-- What the actions of the client work on. -/
abbrev Side := Link WireClient Server

/-- Traces an event. -/
def record (e : WireEvent) : Action Side Unit :=
  modify fun s => { s with far.trace := s.far.trace ++ [e] }

/-- An error of the family fails the operation; any other passes through. -/
def failure (e : DriverError) : Fault :=
  if e.inFamily then .operation (.reported e) else .driver e

/-- Opens a connection. An error of the family means that the host cannot be reached. -/
def connect (host port timeout : Value) : Action Side Unit := do
  record (.connect host port timeout)
  match (← get).far.connectError with
  | none => modify fun s => { s with near.isOpen := true }
  | some e =>
    throw (if e.inFamily then .connection (.unreachable host port e.message) else .driver e)

/-- Gives the connection up. It is given up even if that ends in an error. -/
def close : Action Side Unit := do
  unless (← get).near.isOpen do throw (.connection .notConnected)
  record .close
  modify fun s => { s with near.isOpen := false }
  match (← get).far.closeError with
  | none => return
  | some e => throw (if e.inFamily then .connection (.closing e) else .driver e)

/-- Takes the next answer. -/
def takeReply : Action Side (Except DriverError Value) := do
  match (← get).far.replies with
  | [] => return .error .closed
  | r :: rs =>
    modify fun s => { s with far.replies := rs }
    return r

/-- Sends a term, which has to be finite, and takes the next answer. -/
def send (t : Term) : Action Side (Except DriverError Value) := do
  unless (← get).near.isOpen do return .error .noConnection
  unless t.isFinite do return .error .notFinite
  record (.query t)
  takeReply

/-- The term of a query that is built before anything is sent; what cannot be built passes through.
-/
def built (q : Query) : Action Side Term :=
  match q.term with
  | .ok t => return t
  | .error e => throw (.driver e)

/-- Runs a query. -/
def run (q : Query) : Action Side Value := do
  match ← send (← built q) with
  | .ok v => return v
  | .error e => throw (failure e)

/-- Runs a query for a record. That there is none is no failure. -/
def lookup (q : Query) : Action Side Value := do
  match ← send (← built q) with
  | .ok v => return v
  | .error e => if e.kind = .nonExistence then return .null else throw (failure e)

/-- What an answer consists of. -/
def items (v : Value) : Action Side (List Value) :=
  match v.items? with
  | some vs => return vs
  | none => throw (.misfit (.notIterable v.kind))

/-- Runs a query for a listing. -/
def listing (q : Query) : Action Side (List Value) := do items (← run q)

/-- The error says that what was to be created is there already. -/
def alreadyExists (e : DriverError) : Bool :=
  e.kind == .opFailed && Text.isPartOf "already exists" e.message

/-- Runs a query that creates something; false if it was there already. Here a query that cannot be
built counts as failed. -/
def creation (q : Query) : Action Side Bool := do
  let reply ← match q.term with
    | .ok t => send t
    | .error e => pure (.error e)
  match reply with
  | .ok _ => return true
  | .error e => if alreadyExists e then return false else throw (failure e)

/-- Runs any query; the answer is given as a value. -/
def perform : Query → Action Side Value
  | .databaseList => .list <$> listing .databaseList
  | .databaseCreate db => .bool <$> creation (.databaseCreate db)
  | .tableList db => .list <$> listing (.tableList db)
  | .tableCreate db t key durability => .bool <$> creation (.tableCreate db t key durability)
  | .tableWait db t => do
    let _ ← run (.tableWait db t)
    return .null
  | .get db t key fields mode => lookup (.get db t key fields mode)
  | .between db t low limit fields mode => .list <$> listing (.between db t low limit fields mode)
  | .update db t key values durability => run (.update db t key values durability)
  | .insert db t document durability => run (.insert db t document durability)
  | .delete db t key durability => run (.delete db t key durability)

/-- Answers a call. -/
def ask : (c : Call) → Action Side c.Answer
  | .databaseList => listing (Call.query .databaseList)
  | .databaseCreate db => creation (Call.query (.databaseCreate db))
  | .tableList db => listing (Call.query (.tableList db))
  | .tableCreate db t key durability => creation (Call.query (.tableCreate db t key durability))
  | .tableWait db t => do
    let _ ← run (Call.query (.tableWait db t))
    return ()
  | .get db t key fields mode => lookup (Call.query (.get db t key fields mode))
  | .between db t low limit fields mode =>
    listing (Call.query (.between db t low limit fields mode))
  | .update db t key values durability => run (Call.query (.update db t key values durability))
  | .insert db t document durability => run (Call.query (.insert db t document durability))
  | .delete db t key durability => run (Call.query (.delete db t key durability))

instance : Client WireClient Server where
  isOpen := isOpen
  connect e := connect (.str e.host) (.int e.port) (.int e.timeout)
  close := close
  ask := ask

end WireClient

end CrudBench
