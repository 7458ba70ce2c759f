import CrudBench.Backend.Records

/-!
# Several backends at one site

Backends take turns. An action of one of them works on that backend and on what they all share, and
leaves the others as they are.
-/

namespace CrudBench

/-- The backends at a site, by their numbers, and what they share. -/
structure World (κ ω : Type) where
  backends : List (Backend κ)
  site : Site ω

namespace World

variable {κ ω : Type}

/-- A world without backends. -/
def new (env : Environment) (file : VariablesFile) (clock : Clock) (far : ω) : World κ ω :=
  ⟨[], ⟨env, file, .empty, clock, [], far⟩⟩

/-- Adds a backend. -/
def add (w : World κ ω) (b : Backend κ) : World κ ω := { w with backends := w.backends ++ [b] }

/-- The session of a backend. -/
def session? (w : World κ ω) (i : Nat) : Option (Session κ ω) :=
  w.backends[i]?.map fun b => ⟨b, w.site⟩

/-- The world after a session of a backend. -/
def absorb (w : World κ ω) (i : Nat) (s : Session κ ω) : World κ ω :=
  ⟨w.backends.set i s.toBackend, s.toSite⟩

/-- Lets a backend act. -/
def act {α : Type} (w : World κ ω) (i : Nat) (x : Action (Session κ ω) α) :
    Option (Except Fault α × World κ ω) :=
  (w.session? i).map fun s =>
    match x s with
    | .ok a s => (.ok a, w.absorb i s)
    | .error e s => (.error e, w.absorb i s)

end World

end CrudBench
