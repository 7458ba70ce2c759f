import CrudBench.Backend.Info

/-!
# The catalogue of backends

For each kind of store the catalogue knows how to make a backend. An entry replaces an earlier one
of the same kind.
-/

namespace CrudBench

/-- A way to make a backend. -/
inductive Maker where
  /-- The backend of this library. -/
  | rethinkdb
  /-- A stand-in that knows nothing of hosts and settings. -/
  | dummy
  deriving DecidableEq, Repr

/-- The information about a new backend. -/
def Maker.info (config : Properties) : Maker → Except Misfit BackendInfo
  | rethinkdb => (Backend.new config ()).info
  | dummy => return ⟨none, "DummyBackend", ← config.masked, false, none, none⟩

/-- The makers by kind, in the order in which the kinds were first registered. -/
structure Catalogue where
  entries : List (BackendKind × Maker)

namespace Catalogue

/-- The catalogue at the start. -/
def standard : Catalogue := ⟨[(.rethinkdb, .rethinkdb)]⟩

/-- The catalogue without entries. -/
def empty : Catalogue := ⟨[]⟩

/-- Registers a maker for a kind. -/
def register (c : Catalogue) (kind : BackendKind) (maker : Maker) : Catalogue :=
  if c.entries.any (·.1 == kind) then
    ⟨c.entries.map fun e => if e.1 = kind then (kind, maker) else e⟩
  else ⟨c.entries ++ [(kind, maker)]⟩

/-- The kinds that are registered. -/
def kinds (c : Catalogue) : List BackendKind := c.entries.map (·.1)

/-- The kind is registered. -/
def isRegistered (c : Catalogue) (kind : BackendKind) : Bool := c.kinds.contains kind

/-- A kind is not registered; what is registered is listed. -/
structure NotRegistered where
  kind : BackendKind
  available : List BackendKind

/-- The wording of the error. -/
def NotRegistered.message (e : NotRegistered) : String :=
  "Backend '" ++ e.kind.name ++ "' not registered. Available backends: " ++
    ", ".intercalate (e.available.map BackendKind.name)

/-- The maker for a kind. -/
def maker (c : Catalogue) (kind : BackendKind) : Except NotRegistered Maker :=
  match c.entries.lookup kind with
  | some m => .ok m
  | none => .error ⟨kind, c.kinds⟩

end Catalogue

end CrudBench
