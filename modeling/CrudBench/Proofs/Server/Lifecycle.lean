import CrudBench.Proofs.Command
import CrudBench.Proofs.Server.Live
import Mathlib.Data.List.Induction

/-!
# The life of a backend

A backend is told to do one thing after the other, each time facing a server that behaves as a
script says. Whatever it is told and whatever fails on the way, the backend counts as connected
exactly when its client is, and then it has settings and a host (`Session.Coherent`); queries are
sent and connections closed only while one is open (`Orderly`).
-/

namespace CrudBench

/-! ## Scripts and steps -/

/-- How a server behaves: how connecting and closing end, and what queries are answered with. Every
error is one that it reports. -/
structure Script where
  connectError : Option (ErrorKind × String)
  closeError : Option (ErrorKind × String)
  replies : List (Except (ErrorKind × String) Value)

namespace Script

/-- The error that is reported. -/
def error (e : ErrorKind × String) : DriverError := .reported e.1 e.2

/-- The server that behaves so, which nothing has reached yet. -/
def server (p : Script) : Server where
  connectError := p.connectError.map error
  closeError := p.closeError.map error
  replies := p.replies.map fun r => r.mapError error
  trace := []

/-- Connections are accepted. -/
def accepts (p : Script) : Bool := p.connectError.isNone

end Script

/-- The session once it faces a server that behaves as scripted, with its log emptied. -/
def Session.facing (s : Session WireClient Server) (p : Script) : Session WireClient Server :=
  { s with far := p.server, log := [] }

/-- One thing that a backend was told to do: where it started, what came of it, and where it ended,
with what reached the server and what was logged on the way. -/
structure Step where
  command : Command
  script : Script
  before : Session WireClient Server
  result : Except Fault Response
  after : Session WireClient Server

/-- Does what a backend is told, facing a scripted server. -/
def Command.step (c : Command) (p : Script) (s : Session WireClient Server) : Step :=
  match c.act (s.facing p) with
  | .ok a t => ⟨c, p, s, .ok a, t⟩
  | .error e t => ⟨c, p, s, .error e, t⟩

/-- An initialisation as a step. -/
lemma Command.step_init (p : Script) (s : Session WireClient Server) :
    init.step p s = match Session.init (s.facing p) with
      | .ok _ t => ⟨.init, p, s, .ok .done, t⟩
      | .error e t => ⟨.init, p, s, .error e, t⟩ := by
  rw [step, act, Action.bind_apply]
  cases Session.init (s.facing p) <;> rfl

/-- Does one thing after the other, whether they return or fail. -/
def Command.run : List (Command × Script) → Session WireClient Server → List Step
  | [], _ => []
  | (c, p) :: cs, s => c.step p s :: run cs (c.step p s).after

/-! ## Connections in traces -/

/-- What reaches a server, with whether it accepts connections. -/
abbrev Traced := WireEvent × Bool

/-- What reached the server in a step. -/
def Step.events (x : Step) : List Traced := x.after.far.trace.map (·, x.script.accepts)

namespace WireEvent

/-- The event takes an open connection. -/
def NeedsConnection : WireEvent → Prop
  | connect .. => False
  | query _ | close => True

/-- Whether there is a connection after an event. There is nothing if the event took a connection
that was not there. -/
def next (isOpen : Bool) : Traced → Option Bool
  | (connect .., accepted) => some (isOpen || accepted)
  | (query _, _) => if isOpen then some true else none
  | (close, _) => if isOpen then some false else none

/-- Whether there is a connection after events. -/
def walk : Bool → List Traced → Option Bool
  | isOpen, [] => some isOpen
  | isOpen, e :: es => next isOpen e >>= (walk · es)

end WireEvent

/-- A connection is open after these events: one was accepted, and none was closed since. -/
def OpenAfter (es : List Traced) : Prop :=
  ∃ before after h p t, es = before ++ (.connect h p t, true) :: after ∧
    ∀ e ∈ after, e.1 ≠ .close

/-- Every query is sent, and every connection closed, while a connection is open. -/
def Orderly (es : List Traced) : Prop :=
  ∀ before e after, es = before ++ e :: after → e.1.NeedsConnection → OpenAfter before

namespace WireEvent

/-- Events are gone through one part after the other. -/
lemma walk_append (isOpen : Bool) (es fs : List Traced) :
    walk isOpen (es ++ fs) = walk isOpen es >>= (walk · fs) := by
  induction es generalizing isOpen with
  | nil => rfl
  | cons e es ih =>
    rw [List.cons_append, walk, walk]
    cases next isOpen e with
    | none => rfl
    | some b => exact ih b

/-- Queries over an open connection leave it open. -/
lemma walk_queries (ts : List Term) (accepted : Bool) :
    walk true ((ts.map query).map (·, accepted)) = some true := by
  induction ts with
  | nil => rfl
  | cons t ts ih => exact ih

/-- A connection stays open after an event that does not close it. -/
lemma openAfter_append {es : List Traced} (h : OpenAfter es) {e : Traced} (he : e.1 ≠ .close) :
    OpenAfter (es ++ [e]) := by
  obtain ⟨before, after, host, p, t, rfl, ha⟩ := h
  refine ⟨before, after ++ [e], host, p, t, by simp, fun x hx => ?_⟩
  rcases List.mem_append.1 hx with hx | hx
  · exact ha x hx
  · cases List.mem_singleton.1 hx
    exact he

/-- There is a connection only after events that leave one open. -/
lemma openAfter_of_walk {es : List Traced} (h : walk false es = some true) : OpenAfter es := by
  -- the last event decides what is open now, and the events before it what was open then
  induction es using List.reverseRecOn with
  | nil => cases h
  | append_singleton es e ih =>
    rw [walk_append] at h
    obtain ⟨b, hb, hn⟩ := Option.bind_eq_some_iff.1 h
    obtain ⟨c, hc, hw⟩ := Option.bind_eq_some_iff.1 hn
    cases hw
    obtain ⟨e, accepted⟩ := e
    cases e with
    | connect host p t =>
      cases accepted with
      | true => exact ⟨es, [], host, p, t, rfl, nofun⟩
      | false =>
        rw [next, Bool.or_false] at hc
        cases hc
        exact openAfter_append (ih hb) nofun
    | query t =>
      cases b with
      | true => exact openAfter_append (ih hb) nofun
      | false => cases hc
    | close => cases b <;> cases hc

/-- Events that can be gone through from the start are orderly. -/
lemma orderly_of_walk {es : List Traced} {b : Bool} (h : walk false es = some b) : Orderly es := by
  rintro before ⟨e, accepted⟩ after rfl he
  rw [walk_append] at h
  obtain ⟨c, hc, hn⟩ := Option.bind_eq_some_iff.1 h
  obtain ⟨d, hd, -⟩ := Option.bind_eq_some_iff.1 hn
  cases c with
  | true => exact openAfter_of_walk hc
  | false => cases e <;> first | exact he.elim | cases hd

end WireEvent

/-! ## One step -/

namespace Session

/-- The backend counts as connected exactly when its client is, and then has settings and a host. -/
structure Coherent (s : Session WireClient Server) : Prop where
  isOpen : s.connected = s.client.isOpen
  settings : s.connected = true → s.settings.isSome = true
  host : s.connected = true → s.host.isSome = true

/-- From `s` and facing a script, `t` was reached: it is coherent, the server was reached by events
that lead from one connection to the other, and no entry of the log tells of a query that was sent
without a connection. -/
structure Reaches (s : Session WireClient Server) (p : Script) (t : Session WireClient Server) :
    Prop where
  coherent : t.Coherent
  walk : WireEvent.walk s.client.isOpen (t.far.trace.map (·, p.accepts)) = some t.client.isOpen
  log : ∀ e ∈ t.log, e.Sound

/-- What a script answers is never that there is no connection. -/
lemma sound_replies (p : Script) : ∀ r ∈ p.server.replies, Sound r := by
  intro r hr
  obtain ⟨x, -, rfl⟩ := List.mem_map.1 hr
  cases x <;> nofun

variable {s t : Session WireClient Server} {p : Script}

/-- Facing a script is where a step starts. -/
lemma Coherent.facing (hs : s.Coherent) : s.Reaches p (s.facing p) :=
  ⟨⟨hs.isOpen, hs.settings, hs.host⟩, rfl, List.forall_mem_nil _⟩

/-- While nothing has happened but aside, nothing was reached. -/
lemma Reaches.of_aside (hs : s.Coherent) (h : (s.facing p).Aside t) : s.Reaches p t := by
  obtain ⟨es, hes, hq⟩ := h.quiet
  have hb : t.toBackend = s.toBackend := h.backend
  have hf : t.far = p.server := h.far
  refine ⟨⟨?_, ?_, ?_⟩, ?_, ?_⟩
  · rw [hb]
    exact hs.isOpen
  · rw [hb]
    exact hs.settings
  · rw [hb]
    exact hs.host
  · rw [hb, hf]
    rfl
  · rw [hes]
    exact fun e he cause hc => absurd ((hq e he).symm.trans hc) nofun

/-- Queries over an open connection reach a session from where the connection was open. -/
lemma Reaches.of_live {u : Session WireClient Server} (h : s.Reaches p t)
    (hc : t.connected = true) (hl : t.Live u) : s.Reaches p u := by
  obtain ⟨ts, hts⟩ := hl.link.trace
  have ho : t.client.isOpen = true := h.coherent.isOpen.symm.trans hc
  refine ⟨⟨?_, ?_, ?_⟩, ?_, hl.log⟩
  · rw [hl.connected, hc]
    exact hl.link.isOpen.symm
  · rw [hl.connected, hl.settings]
    exact h.coherent.settings
  · rw [hl.connected, hl.host]
    exact h.coherent.host
  · rw [hts, List.map_append, WireEvent.walk_append, h.walk, ho, hl.link.isOpen]
    exact WireEvent.walk_queries ts p.accepts

/-- A session that faces a script over an open connection is live. -/
lemma live_refl (ho : t.client.isOpen = true) (hr : ∀ r ∈ t.far.replies, Sound r)
    (hl : ∀ e ∈ t.log, e.Sound) : t.Live t :=
  ⟨rfl, rfl, rfl, ⟨ho, hr, rfl, [], by simp⟩, hl⟩

/-- Without a connection there is nothing to close. -/
lemma cleanup_of_closed (h : t.client.isOpen = false) :
    cleanup t = .error (.connection .notConnected) { t with connected := false } := by
  have hx : WireClient.close ⟨t.client, t.far⟩ =
      .error (.connection .notConnected) ⟨t.client, t.far⟩ := by
    simp [WireClient.close, h]
  have hv : viaClient Client.close t = .error (.connection .notConnected) t := viaClient_error hx
  rw [cleanup, hv]

/-- A connection is given up before the script says how that ends. -/
lemma close_apply {l : WireClient.Side} (h : l.near.isOpen = true) :
    WireClient.close l = match l.far.closeError with
      | none => .ok () ⟨⟨false⟩, { l.far with trace := l.far.trace ++ [.close] }⟩
      | some e => .error (if e.inFamily then .connection (.closing e) else .driver e)
          ⟨⟨false⟩, { l.far with trace := l.far.trace ++ [.close] }⟩ := by
  simp only [WireClient.close, WireClient.record, Action.bind_apply, Action.get_apply,
    Action.modify_apply, h, if_true]
  cases l.far.closeError <;> rfl

/-- The session once its connection was closed. -/
def shut (t : Session WireClient Server) : Session WireClient Server :=
  { t with
    connected := false
    client := ⟨false⟩
    far := { t.far with trace := t.far.trace ++ [.close] } }

/-- A connection is closed, and then it shows how that ends. -/
lemma cleanup_of_isOpen (ho : t.client.isOpen = true) :
    cleanup t = match t.far.closeError with
      | none => .ok () t.shut
      | some e => .error (if e.inFamily then .connection (.closing e) else .driver e) t.shut := by
  have hx : WireClient.close ⟨t.client, t.far⟩ = _ := close_apply ho
  cases hc : t.far.closeError with
  | none =>
    rw [hc] at hx
    have hv : viaClient Client.close t = .ok () _ := viaClient_ok hx
    rw [cleanup, hv]
    rfl
  | some e =>
    rw [hc] at hx
    have hv : viaClient Client.close t = .error _ _ := viaClient_error hx
    rw [cleanup, hv]
    rfl

/-- Closing the connection leaves none, whatever it ends in. -/
lemma cleanup_of_open (ho : t.client.isOpen = true) (hs : s.Reaches p t)
    (he : t.far.closeError = p.server.closeError) :
    ∃ u, s.Reaches p u ∧ u.connected = false ∧
      (cleanup t = .ok () u ∨ ∃ e : Fault, cleanup t = .error e u ∧ e.Sound) := by
  have hr : s.Reaches p t.shut := by
    refine ⟨⟨rfl, nofun, nofun⟩, ?_, hs.log⟩
    show WireEvent.walk _ ((t.far.trace ++ [WireEvent.close]).map _) = _
    rw [List.map_append, WireEvent.walk_append, hs.walk, ho]
    rfl
  refine ⟨t.shut, hr, rfl, ?_⟩
  rw [cleanup_of_isOpen ho, he, show p.server.closeError = p.closeError.map Script.error from rfl]
  cases p.closeError with
  | none => exact .inl rfl
  | some e =>
    refine .inr ⟨_, rfl, ?_⟩
    split <;> (intro h; cases h)

/-- What an action came to was not that a query was sent without a connection, and where it ended
was reached. -/
def Ends {α : Type} (s : Session WireClient Server) (p : Script) :
    EStateM.Result Fault (Session WireClient Server) α → Prop
  | .ok _ t => s.Reaches p t
  | .error e t => s.Reaches p t ∧ e.Sound

/-- The action ends well where the session faces the script. -/
def Lands {α : Type} (s : Session WireClient Server) (p : Script)
    (x : Action (Session WireClient Server) α) : Prop :=
  s.Ends p (x (s.facing p))

/-- An action lands wherever what it is made of lands. -/
lemma Lands.map {α β : Type} {x : Action (Session WireClient Server) α} (h : s.Lands p x)
    (f : α → β) : s.Lands p (do return f (← x)) := by
  rw [Lands] at h ⊢
  rw [Action.bind_apply]
  cases hx : x (s.facing p) <;> rw [hx] at h <;> exact h

/-- A request lands: while there is a connection it is made of queries, and while there is none it
does nothing. -/
lemma lands_request (hs : s.Coherent) (r : Request) : s.Lands p r.perform := by
  have hr : s.Reaches p (s.facing p) := hs.facing
  rw [Lands]
  cases hc : s.connected with
  | false =>
    rw [perform_of_disconnected (s := s.facing p) (.inl hc) r]
    exact hr
  | true =>
    have hl : (s.facing p).Live (s.facing p) :=
      live_refl (hs.isOpen.symm.trans hc) (sound_replies p) (List.forall_mem_nil _)
    have hk := (Live.stable (s.facing p)).keeps_perform r
    cases hx : r.perform (s.facing p) with
    | ok o t => exact hr.of_live hc (hk.of_ok hl hx).1
    | error e t =>
      obtain ⟨ht, he⟩ := hk.of_error hl hx
      exact ⟨hr.of_live hc ht, he⟩

/-- Telling about a backend lands. -/
lemma lands_info (hs : s.Coherent) : s.Lands p Session.info := by
  rw [Lands, Session.info, Action.bind_apply, Action.get_apply]
  dsimp only
  cases (s.facing p).toBackend.info with
  | ok i => exact hs.facing
  | error e => exact ⟨hs.facing, nofun⟩

/-- Giving the connection up lands without one. -/
lemma lands_cleanup (hs : s.Coherent) : s.Lands p Session.cleanup := by
  have hr : s.Reaches p (s.facing p) := hs.facing
  rw [Lands]
  cases ho : s.client.isOpen with
  | false =>
    rw [cleanup_of_closed (t := s.facing p) ho]
    exact ⟨⟨⟨ho.symm, nofun, nofun⟩, hr.walk, hr.log⟩, nofun⟩
  | true =>
    obtain ⟨u, hu, -, hx | ⟨e, hx, he⟩⟩ := cleanup_of_open (t := s.facing p) ho hr rfl
    · rw [hx]
      exact hu
    · rw [hx]
      exact ⟨hu, he⟩

/-- Opening a connection is traced, and ends as the script says. -/
lemma connect_apply (e : Endpoint) (l : WireClient.Side) :
    Client.connect e l = match l.far.connectError with
      | none => .ok () ⟨⟨true⟩, { l.far with trace :=
          l.far.trace ++ [.connect (.str e.host) (.int e.port) (.int e.timeout)] }⟩
      | some x => .error (if x.inFamily
            then .connection (.unreachable (.str e.host) (.int e.port) x.message) else .driver x)
          ⟨l.near, { l.far with trace :=
            l.far.trace ++ [.connect (.str e.host) (.int e.port) (.int e.timeout)] }⟩ := by
  show WireClient.connect (.str e.host) (.int e.port) (.int e.timeout) l = _
  simp only [WireClient.connect, WireClient.record, Action.bind_apply, Action.get_apply,
    Action.modify_apply]
  cases l.far.connectError <;> rfl

section Prepared

variable {st : Settings} {host : String} (hp : (s.facing p).Prepared st host t)

include hp

/-- Preparing a session tells of no failure. -/
lemma Prepared.sound : ∀ e ∈ t.log, e.Sound := by
  obtain ⟨es, hes, hq⟩ := hp.quiet
  rw [hes]
  exact fun e he cause hc => nomatch (hq e he).symm.trans hc

/-- A prepared session that is not accepted is connected as it was before. -/
lemma Prepared.refused (hs : s.Coherent) (hc : p.accepts = false) (h port timeout : Value) :
    s.Reaches p (t.linked ⟨t.client, { t.far with trace :=
      t.far.trace ++ [.connect h port timeout] }⟩) := by
  have hconn : t.connected = s.connected := hp.connected
  have hclient : t.client = s.client := hp.client
  have hfar : t.far = p.server := hp.far
  refine ⟨⟨?_, fun _ => ?_, fun _ => ?_⟩, ?_, hp.sound⟩
  · exact hconn.trans (hs.isOpen.trans (congrArg WireClient.isOpen hclient).symm)
  · exact congrArg Option.isSome hp.settings
  · exact congrArg Option.isSome hp.host
  · show WireEvent.walk _ ((t.far.trace ++ [WireEvent.connect h port timeout]).map _) =
      some t.client.isOpen
    rw [hfar, hclient, hc]
    exact congrArg some (Bool.or_false _)

/-- A prepared session that is accepted is connected. -/
lemma Prepared.accepted (hc : p.accepts = true) (h port timeout : Value) :
    s.Reaches p (t.opened ⟨⟨true⟩, { t.far with trace :=
      t.far.trace ++ [.connect h port timeout] }⟩) := by
  have hfar : t.far = p.server := hp.far
  refine ⟨⟨rfl, fun _ => ?_, fun _ => ?_⟩, ?_, hp.sound⟩
  · exact congrArg Option.isSome hp.settings
  · exact congrArg Option.isSome hp.host
  · show WireEvent.walk _ ((t.far.trace ++ [WireEvent.connect h port timeout]).map _) = some true
    rw [hfar, hc]
    exact congrArg some (Bool.or_true _)

end Prepared

/-- Making a schema ready over an open connection ends well. -/
lemma ends_bootstrap (hr : s.Reaches p t) (hc : t.connected = true) (hl : t.Live t)
    (he : t.far.closeError = p.server.closeError) (st : Settings) :
    s.Ends p (bootstrap st t) := by
  rw [bootstrap_apply]
  cases hx : ensureSchema st t with
  | ok a u => exact hr.of_live hc (((Live.stable t).keeps_ensureSchema st).of_ok hl hx).1
  | error e u =>
    obtain ⟨hu, hs⟩ := ((Live.stable t).keeps_ensureSchema st).of_error hl hx
    have hru := hr.of_live hc hu
    cases e with
    | operation e =>
      obtain ⟨v, hv, -, hcl | ⟨e', hcl, hs'⟩⟩ :=
        cleanup_of_open hu.link.isOpen hru (hu.link.closeError.trans he)
      · simp only [hcl]
        exact ⟨hv, hs⟩
      · simp only [hcl]
        exact ⟨hv, hs'⟩
    | _ => exact ⟨hru, hs⟩

/-- Initialising a backend lands. -/
lemma lands_init (hs : s.Coherent) : s.Lands p Session.init := by
  rw [Lands]
  rcases init_cases (s.facing p) with ⟨e, t, ht, ha, he⟩ | ⟨st, host, t, hp, hi⟩
  · rw [ht]
    exact ⟨.of_aside hs ha, fun h => nomatch he.symm.trans h⟩
  · have hfar : t.far = p.server := hp.far
    have he : t.far.connectError = p.connectError.map Script.error := congrArg _ hfar
    rw [hi, connect_apply, he]
    cases hc : p.connectError with
    | some x =>
      have ha : p.accepts = false := by rw [Script.accepts, hc]; rfl
      refine ⟨hp.refused hs ha _ _ _, ?_⟩
      dsimp only
      split <;> nofun
    | none =>
      have ha : p.accepts = true := by rw [Script.accepts, hc]; rfl
      have hr := hp.accepted ha (.str host) (.int st.port) (.int st.timeout)
      have hq : ∀ r ∈ t.far.replies, Sound r := hfar ▸ sound_replies p
      have he : t.far.closeError = p.server.closeError := congrArg Server.closeError hfar
      dsimp only [Option.map_none]
      exact ends_bootstrap hr rfl (live_refl rfl hq hp.sound) he st

end Session

/-- The backend and its client have no connection. -/
def Session.Closed (s : Session WireClient Server) : Prop :=
  s.connected = false ∧ s.client.isOpen = false

/-- What holds of every step of a backend. -/
structure Step.Lawful (x : Step) : Prop where
  /-- Connected are both or none, and then there are settings and a host. -/
  coherent : x.after.Coherent
  /-- What reached the server leads from one connection to the other. -/
  walk : WireEvent.walk x.before.client.isOpen x.events = some x.after.client.isOpen
  /-- It does not fail for a query that was sent without a connection. -/
  result : ∀ e, x.result = .error e → e.Sound
  /-- Nor does anything that it logs. -/
  log : ∀ e ∈ x.after.log, e.Sound
  /-- A cleanup leaves no connection, whether it returns or fails. -/
  cleanup : x.command = .cleanup → x.after.Closed
  /-- A cleanup without a connection fails, and nothing reaches the server. -/
  refused : x.command = .cleanup → x.before.connected = false →
    x.result = .error (.connection .notConnected) ∧ x.after.far.trace = []

namespace Command

variable {s : Session WireClient Server}

/-- Every command lands. -/
lemma lands_act (hs : s.Coherent) (p : Script) (c : Command) : s.Lands p c.act := by
  cases c with
  | init => exact (Session.lands_init hs).map fun _ => Response.done
  | cleanup => exact (Session.lands_cleanup hs).map fun _ => Response.done
  | info => exact (Session.lands_info hs).map Response.info
  | request r => exact (Session.lands_request hs r).map Response.outcome

/-- A cleanup leaves no connection. Without one it fails, and changes nothing. -/
lemma step_cleanup (hs : s.Coherent) (p : Script) :
    (cleanup.step p s).after.Closed ∧ (s.connected = false →
      (cleanup.step p s).result = .error (.connection .notConnected) ∧
        (cleanup.step p s).after.far.trace = []) := by
  cases ho : s.client.isOpen with
  | false =>
    have hx := Session.cleanup_of_closed (t := s.facing p) ho
    have hst : cleanup.step p s = ⟨.cleanup, p, s, .error (.connection .notConnected),
        { s.facing p with connected := false }⟩ := by
      simp only [step, act, Action.bind_apply, hx]
    rw [hst]
    exact ⟨⟨rfl, ho⟩, fun _ => ⟨rfl, rfl⟩⟩
  | true =>
    have hc := hs.isOpen.trans ho
    obtain ⟨u, hu, hd, hx | ⟨e, hx, -⟩⟩ :=
      Session.cleanup_of_open (t := s.facing p) ho hs.facing rfl
    · simp only [step, act, Action.bind_apply, hx]
      exact ⟨⟨hd, hu.coherent.isOpen.symm.trans hd⟩, fun h => nomatch hc.symm.trans h⟩
    · simp only [step, act, Action.bind_apply, hx]
      exact ⟨⟨hd, hu.coherent.isOpen.symm.trans hd⟩, fun h => nomatch hc.symm.trans h⟩

/-- Every step from a coherent session is lawful. -/
theorem lawful_step (hs : s.Coherent) (c : Command) (p : Script) : (c.step p s).Lawful := by
  have hl := lands_act hs p c
  have hcl : c = .cleanup → (c.step p s).after.Closed ∧ (s.connected = false →
      (c.step p s).result = .error (.connection .notConnected) ∧
        (c.step p s).after.far.trace = []) := by
    rintro rfl
    exact step_cleanup hs p
  rw [Session.Lands] at hl
  rw [step] at hcl ⊢
  cases hx : c.act (s.facing p) with
  | ok a t =>
    rw [hx] at hl hcl
    have hok : ∀ e, (Except.ok a : Except Fault Response) = .error e → e.Sound := by
      rintro e ⟨⟩
    exact ⟨hl.coherent, hl.walk, hok, hl.log, fun h => (hcl h).1, fun h => (hcl h).2⟩
  | error e t =>
    rw [hx] at hl hcl
    refine ⟨hl.1.coherent, hl.1.walk, ?_, hl.1.log, fun h => (hcl h).1, fun h => (hcl h).2⟩
    rintro _ ⟨⟩
    exact hl.2

/-- Every step of a run is lawful, and what reached the servers can be gone through from the start.
-/
lemma lawful_run (hs : s.Coherent) (cs : List (Command × Script)) :
    (∀ x ∈ run cs s, x.Lawful) ∧
      ∃ b, WireEvent.walk s.client.isOpen ((run cs s).flatMap Step.events) = some b := by
  induction cs generalizing s with
  | nil => exact ⟨List.forall_mem_nil _, s.client.isOpen, rfl⟩
  | cons cp cs ih =>
    obtain ⟨c, p⟩ := cp
    have hx := lawful_step hs c p
    obtain ⟨hall, b, hb⟩ := ih hx.coherent
    refine ⟨List.forall_mem_cons.2 ⟨hx, hall⟩, b, ?_⟩
    -- the next step starts with the connection that this one has left
    have hw : WireEvent.walk s.client.isOpen (c.step p s).events =
        some (c.step p s).after.client.isOpen := by
      have hbefore : (c.step p s).before = s := by
        rw [step]
        split <;> rfl
      rw [← hx.walk, hbefore]
    rw [run, List.flatMap_cons, WireEvent.walk_append, hw]
    exact hb

/-- Whatever a fresh backend is told, and whatever its servers do: it is coherent after every step,
a cleanup leaves it without a connection, and over the whole run queries are sent and connections
closed only while one is open. -/
theorem run_lawful (config : Properties) (site : Site Server) (cs : List (Command × Script)) :
    (∀ x ∈ run cs (.fresh config .new site), x.Lawful) ∧
      Orderly ((run cs (.fresh config .new site)).flatMap Step.events) := by
  have hs : (Session.fresh config .new site).Coherent := ⟨rfl, nofun, nofun⟩
  obtain ⟨hall, b, hb⟩ := lawful_run hs cs
  exact ⟨hall, WireEvent.orderly_of_walk hb⟩

end Command

end CrudBench
