import CrudBench.Backend.Log
import CrudBench.Client
import CrudBench.Clock
import CrudBench.HostPool
import CrudBench.Metrics.Latency
import CrudBench.Settings.Properties

/-!
# Backends

A backend carries out benchmark operations through its client. Backends at one site share its
environment, its host pools, its clock and its log; a session is one backend at work at its site.
-/

namespace CrudBench

/-- A backend with its client. Settings and host are known once it was initialised. -/
structure Backend (κ : Type) where
  config : Properties
  settings : Option Settings
  host : Option String
  connected : Bool
  client : κ

/-- A backend that was not initialised yet. -/
def Backend.new {κ : Type} (config : Properties) (client : κ) : Backend κ :=
  ⟨config, none, none, false, client⟩

/-- What the backends at one site share: the environment and the file that is loaded into it, the
host pools, the clock, the log, and what lies beyond their clients. -/
structure Site (ω : Type) where
  environment : Environment
  file : VariablesFile
  pools : HostPools
  clock : Clock
  log : List LogEntry
  far : ω

/-- A backend at work at its site. -/
structure Session (κ ω : Type) extends Backend κ, Site ω

namespace Session

variable {κ ω : Type}

/-- Adds an entry to the log. -/
def report (e : LogEntry) : Action (Session κ ω) Unit :=
  modify fun s => { s with log := s.log ++ [e] }

/-- Reads the clock. -/
def now : Action (Session κ ω) Float :=
  modifyGet fun s => (s.clock.read.1, { s with clock := s.clock.read.2 })

/-- The milliseconds since a reading of the clock. -/
def elapsedSince (start : Float) : Action (Session κ ω) Latency :=
  return .real (elapsedMs start (← now))

/-- Lets the client act. -/
def viaClient {α : Type} (act : Action (Link κ ω) α) : Action (Session κ ω) α := fun s =>
  match act ⟨s.client, s.far⟩ with
  | .ok a l => .ok a { s with client := l.near, far := l.far }
  | .error e l => .error e { s with client := l.near, far := l.far }

/-- Asks the client. -/
def ask [Client κ ω] (c : Call) : Action (Session κ ω) c.Answer := viaClient (Client.ask c)

/-- Tries an action that may fail as an operation; every other fault passes through. -/
def attempt {σ α : Type} (act : Action σ α) : Action σ (Except OperationError α) := fun s =>
  match act s with
  | .ok a s => .ok (.ok a) s
  | .error (.operation e) s => .ok (.error e) s
  | .error e s => .error e s

end Session

end CrudBench
