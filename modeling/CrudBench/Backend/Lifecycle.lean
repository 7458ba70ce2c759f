import CrudBench.Backend.Basic

/-!
# Connecting and closing

A backend is initialised in three steps: it resolves its settings, connects to the host whose turn
it is, and makes sure that its database and table exist. It checks before it creates, and that
somebody else was first to create is no failure.
-/

namespace CrudBench.Session

variable {κ ω : Type} [Client κ ω]

/-- The listing contains the name. -/
def lists (names : List Value) (name : String) : Bool :=
  names.any fun v => match v with
    | .str s => s == name
    | _ => false

/-- Makes sure that there is a database. -/
def ensureDatabase (db : String) : Action (Session κ ω) Unit := do
  unless lists (← ask .databaseList) db do
    let created : Bool ← ask (.databaseCreate db)
    report (if created then .databaseCreated db else .databaseExists db)

/-- Makes sure that there is a table. -/
def ensureTable (db t : String) (durability : Durability) : Action (Session κ ω) Unit := do
  unless lists (← ask (.tableList db)) t do
    let created : Bool ← ask (.tableCreate db t primaryKey durability)
    report (if created then .tableCreated db t durability else .tableExists db t)

/-- Makes the database and the table ready for use. -/
def ensureSchema (st : Settings) : Action (Session κ ω) Unit := do
  ensureDatabase st.database
  ensureTable st.database st.table st.durability
  ask (.tableWait st.database st.table)

/-- Gives the connection up. It counts as given up even if closing it fails. -/
def cleanup : Action (Session κ ω) Unit := fun s =>
  match viaClient Client.close s with
  | .ok a s => .ok a { s with connected := false }
  | .error e s => .error e { s with connected := false }

/-- Reports what cannot be loaded of the variables file. -/
def reportFile : Action (Session κ ω) Unit := do
  let s ← get
  if s.environment.ignoresFiles then report .fileIgnored
  else s.file.unreadable.forM fun line => report (.unreadable line)

/-- Takes the settings that the configuration gives. The variables file is loaded into the
environment before, and what was loaded stays there. -/
def takeSettings : Action (Session κ ω) Settings := fun s =>
  match Settings.ofProperties s.file true s.config.named s.environment with
  | .ok st env => .ok st { s with environment := env, settings := some st }
  | .error e env => .error (.connection (.configuration e)) { s with environment := env }

/-- Takes the settings, and reports before what cannot be loaded. -/
def configure : Action (Session κ ω) Settings := do
  reportFile
  takeSettings

/-- Takes the host whose turn it is. -/
def chooseHost (st : Settings) : Action (Session κ ω) String :=
  modifyGet fun s =>
    let (host, pools) := s.pools.takeShared st.hosts
    (host, { s with host := some host, pools })

/-- Connects to a host. -/
def openConnection (host : String) (st : Settings) : Action (Session κ ω) Unit := do
  report (.connecting host st.port)
  viaClient (Client.connect ⟨host, st.port, st.timeout⟩)
  modify fun s => { s with connected := Client.isOpen s.client }

/-- Makes the database and the table ready. If that fails, the connection is given up. -/
def bootstrap (st : Settings) : Action (Session κ ω) Unit := do
  match ← attempt (ensureSchema st) with
  | .ok () => return
  | .error e =>
    cleanup
    throw (.connection (.bootstrap e))

/-- Connects to one host and makes the database and the table ready. -/
def init : Action (Session κ ω) Unit := do
  let st ← configure
  let host ← chooseHost st
  openConnection host st
  bootstrap st

end CrudBench.Session
