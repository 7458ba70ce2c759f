import CrudBench.Proofs.Fault
import CrudBench.Proofs.Session

/-!
# Connecting and closing

What it takes to connect a backend once it has settings: a connection is opened, and a schema is
made ready over it. If that fails, the connection is given up (`Session.bootstrap_apply`).
-/

namespace CrudBench

namespace Session

variable {κ ω : Type}

/-- A backend that was not initialised yet, at work at its site. -/
def fresh (config : Properties) (client : κ) (site : Site ω) : Session κ ω :=
  ⟨.new config client, site⟩

/-- The session with settings, and with the host whose turn it is. -/
def hosted (s : Session κ ω) (st : Settings) : Session κ ω :=
  { s with
    settings := some st
    host := some (s.pools.takeShared st.hosts).1
    pools := (s.pools.takeShared st.hosts).2 }

variable [Client κ ω]

/-- The session once its client has opened a connection. -/
def opened (s : Session κ ω) (l : Link κ ω) : Session κ ω :=
  { s.linked l with connected := Client.isOpen l.near }

/-- A connection is opened by the client, which is reported before. -/
lemma openConnection_apply (host : String) (st : Settings) (s : Session κ ω) :
    openConnection host st s =
      match Client.connect ⟨host, st.port, st.timeout⟩ ⟨s.client, s.far⟩ with
      | .ok _ l => .ok () ((s.logged (.connecting host st.port)).opened l)
      | .error e l => .error e ((s.logged (.connecting host st.port)).linked l) := by
  simp only [openConnection, Action.bind_apply, report_apply, viaClient_apply, logged_toBackend,
    logged_far]
  cases Client.connect ⟨host, st.port, st.timeout⟩ ⟨s.client, s.far⟩ <;> rfl

/-- A schema that cannot be made ready costs the connection. -/
lemma bootstrap_apply (st : Settings) (s : Session κ ω) :
    bootstrap st s = match ensureSchema st s with
      | .ok a t => .ok a t
      | .error (.operation e) t => match cleanup t with
        | .ok _ u => .error (.connection (.bootstrap e)) u
        | .error e' u => .error e' u
      | .error e t => .error e t := by
  simp only [bootstrap, attempt, Action.bind_apply]
  cases ensureSchema st s with
  | ok a t => rfl
  | error e t =>
    cases e with
    | operation e =>
      dsimp only
      rw [Action.bind_apply]
      cases cleanup t <;> rfl
    | _ => rfl

/-- A backend whose bootstrap returns has made its schema ready. -/
lemma ensureSchema_of_bootstrap {st : Settings} {s t : Session κ ω}
    (h : bootstrap st s = .ok () t) : ensureSchema st s = .ok () t := by
  rw [bootstrap_apply] at h
  cases hx : ensureSchema st s with
  | ok a u =>
    rw [hx] at h
    exact h
  | error e u =>
    rw [hx] at h
    cases e with
    | operation e => cases hc : cleanup u <;> simp only [hc] at h <;> cases h
    | _ => cases h

end Session

end CrudBench
