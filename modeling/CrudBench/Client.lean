import CrudBench.Call
import CrudBench.Fault

/-!
# Clients

A client holds one connection and answers calls over it. Its own state is kept apart from what lies
beyond it, which it may share with other clients. A failing action keeps what it has changed.
-/

namespace CrudBench

/-- The two sides that a client's actions work on: its own, and the one beyond it. -/
structure Link (κ ω : Type) where
  near : κ
  far : ω

/-- An action that may end in a fault; the state it reaches is kept either way. -/
abbrev Action (σ α : Type) : Type := EStateM Fault σ α

/-- A result, unless something was asked of a value that cannot be done with it. -/
def Action.given {σ α : Type} (x : Except Misfit α) : Action σ α :=
  match x with
  | .ok a => return a
  | .error e => throw (.misfit e)

/-- Where to connect to, and how long to wait for it. -/
structure Endpoint where
  host : String
  port : Int
  timeout : Int

/-- A state of a client that can connect, close and answer calls. -/
class Client (κ : Type) (ω : outParam Type) where
  /-- There is a connection. -/
  isOpen : κ → Bool
  /-- Opens a connection. -/
  connect : Endpoint → Action (Link κ ω) Unit
  /-- Gives the connection up. -/
  close : Action (Link κ ω) Unit
  /-- Answers a call. -/
  ask : (c : Call) → Action (Link κ ω) c.Answer

end CrudBench
