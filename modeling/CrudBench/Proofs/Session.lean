import CrudBench.Proofs.Action

/-!
# Steps of a session

What the elementary actions of a session do to it: the clock moves on, the log grows, the client
and what lies beyond it change. Everything else of a session stays as it is.
-/

namespace CrudBench.Session

variable {κ ω : Type}

/-- The session after one more reading of the clock. -/
def ticked (s : Session κ ω) : Session κ ω := { s with clock := s.clock.advance }

/-- The session after one more entry in the log. -/
def logged (s : Session κ ω) (e : LogEntry) : Session κ ω := { s with log := s.log ++ [e] }

/-- The session after its client has acted. -/
def linked (s : Session κ ω) (l : Link κ ω) : Session κ ω :=
  { s with client := l.near, far := l.far }

@[simp]
lemma logged_toBackend (s : Session κ ω) (e : LogEntry) :
    (s.logged e).toBackend = s.toBackend := rfl

@[simp]
lemma logged_far (s : Session κ ω) (e : LogEntry) : (s.logged e).far = s.far := rfl

@[simp]
lemma logged_log (s : Session κ ω) (e : LogEntry) : (s.logged e).log = s.log ++ [e] := rfl

@[simp]
lemma report_apply (e : LogEntry) (s : Session κ ω) : report e s = .ok () (s.logged e) := rfl

@[simp]
lemma now_apply (s : Session κ ω) : now s = .ok s.clock.read.1 s.ticked := rfl

/-- Telling the time since a reading reads the clock once more. -/
@[simp]
lemma elapsedSince_apply (start : Float) (s : Session κ ω) :
    elapsedSince start s = .ok (.real (elapsedMs start s.clock.read.1)) s.ticked := by
  simp [elapsedSince]

/-- What the client does is done to its side of the session. -/
lemma viaClient_apply {α : Type} (act : Action (Link κ ω) α) (s : Session κ ω) :
    viaClient act s = match act ⟨s.client, s.far⟩ with
      | .ok a l => .ok a (s.linked l)
      | .error e l => .error e (s.linked l) := rfl

/-- What the client returns is returned. -/
lemma viaClient_ok {α : Type} {act : Action (Link κ ω) α} {s : Session κ ω} {a : α} {l : Link κ ω}
    (h : act ⟨s.client, s.far⟩ = .ok a l) : viaClient act s = .ok a (s.linked l) := by
  rw [viaClient_apply, h]

/-- A fault of the client passes through. -/
lemma viaClient_error {α : Type} {act : Action (Link κ ω) α} {s : Session κ ω} {e : Fault}
    {l : Link κ ω} (h : act ⟨s.client, s.far⟩ = .error e l) :
    viaClient act s = .error e (s.linked l) := by
  rw [viaClient_apply, h]

/-- What keeps the client's side of a session, and the session with it, keeps the session. -/
lemma keeps_viaClient {α : Type} {I : Session κ ω → Prop} {J : Link κ ω → Prop} {P : α → Prop}
    {F : Fault → Prop} {act : Action (Link κ ω) α} (hact : Action.Keeps J P F act)
    (hlink : ∀ s, I s → J ⟨s.client, s.far⟩) (hlinked : ∀ s l, I s → J l → I (s.linked l)) :
    Action.Keeps I P F (viaClient act) := by
  intro s hs
  have h := hact ⟨s.client, s.far⟩ (hlink s hs)
  rw [viaClient_apply]
  cases hx : act ⟨s.client, s.far⟩ with
  | ok a l | error e l =>
    rw [hx] at h
    exact ⟨hlinked s l hs h.1, h.2⟩

/-- What does not regard the client's side of a session is kept, whatever the client does. -/
lemma keeps_viaClient_of_linked {α : Type} {I : Session κ ω → Prop}
    (linked : ∀ {s} l, I s → I (s.linked l)) (act : Action (Link κ ω) α) :
    Action.Keeps I (fun _ => True) (fun _ => True) (viaClient act) :=
  keeps_viaClient (J := fun _ => True) (Action.keeps_of_outcome fun _ _ => trivial)
    (fun _ _ => trivial) fun _ l hs _ => linked l hs

/-- A failed operation is logged, and takes until after that. -/
lemma failure_apply (op : Operation) (key : Value) (e : OperationError) (start : Float)
    (s : Session κ ω) :
    failure op key e start s =
      .ok (.failed e.message (.real (elapsedMs start s.clock.read.1)))
        (s.logged (.failed op key.text e)).ticked := by
  simp only [failure, Action.bind_apply, report_apply, elapsedSince_apply, Action.pure_apply]
  rfl

/-- A session has a connection and settings, or lacks one of them. -/
lemma connected_cases (s : Session κ ω) :
    (∃ st, s.connected = true ∧ s.settings = some st) ∨
      s.connected = false ∨ s.settings = none := by
  cases s.connected <;> cases s.settings <;> simp

/-- Without a connection nothing is done. -/
lemma whenConnected_of_disconnected {act : Settings → Action (Session κ ω) Outcome}
    {s : Session κ ω} (h : s.connected = false ∨ s.settings = none) :
    whenConnected act s = .ok (.failed "Not connected" .zero) s := by
  rw [whenConnected, Action.bind_apply, Action.get_apply]
  rcases h with h | h <;> cases hs : s.settings <;> cases hc : s.connected <;> simp_all

/-- With a connection the settings are at hand. -/
lemma whenConnected_of_connected {act : Settings → Action (Session κ ω) Outcome}
    {s : Session κ ω} {st : Settings} (hc : s.connected = true) (hs : s.settings = some st) :
    whenConnected act s = act st s := by
  simp [whenConnected, hc, hs]

variable [Client κ ω]

/-- An answer is made an outcome of. A failing query is an outcome already, and any other fault
passes through. -/
lemma timed_apply (op : Operation) (key : Value) (start : Float) (c : Call)
    (finish : c.Answer → Action (Session κ ω) Outcome) (s : Session κ ω) :
    timed op key start c finish s = match ask c s with
      | .ok a t => finish a t
      | .error (.operation e) t => failure op key e start t
      | .error e t => .error e t := by
  simp only [timed, attempt, Action.bind_apply]
  cases ask c s with
  | ok a t => rfl
  | error e t => cases e <;> rfl

end CrudBench.Session
