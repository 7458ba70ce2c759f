import CrudBench.Proofs.Server.Path
import CrudBench.Proofs.Server.Wire

/-!
# What settings decide

What reaches a server is decided by the settings, by what a backend is told, and by what the server
replies. A backend that was initialised asks of every request what the settings say, and two
backends whose configurations give the same settings send the same, up to the host that each of
them takes (`Command.settings_reach_queries`).
-/

namespace CrudBench

/-! ## One query -/

namespace Session

/-- What is steady leaves the backend and what lies beyond its client as they are. -/
lemma steady_aside {κ ω : Type} (t : Session κ ω) :
    Steady (fun u : Session κ ω => u.toBackend = t.toBackend ∧ u.far = t.far) fun _ => True where
  ticked h := h
  logged h _ := h
  misfit _ := trivial
  rejected _ _ := trivial

/-- A call that can be sent is all that reaches the server, whatever is made of the reply. -/
lemma timed_sent {x : Action (Session WireClient Server) Outcome}
    {s t : Session WireClient Server} {op : Operation} {key : Value} {start : Float} {c : Call}
    {finish : c.Answer → Action (Session WireClient Server) Outcome}
    (hx : x s = timed op key start c finish t) {q : Term} (hq : c.query.Sends q)
    (hf : ∀ {I : Session WireClient Server → Prop} {F : Fault → Prop}, Steady I F →
      ∀ a, Action.Keeps I (fun _ => True) F (finish a)) :
    (x.outcome s).2.toBackend = t.toBackend ∧ (x.outcome s).2.far = (t.sent q).far := by
  have ha : Client.ask c ⟨t.client, t.far⟩ = _ := WireClient.ask_apply ⟨t.client, t.far⟩ hq
  have hb : (t.sent q).toBackend = t.toBackend := sent_toBackend t q
  rw [Action.outcome, hx, timed_apply, ask]
  cases hr : c.heard (WireClient.reply ⟨t.client, t.far⟩) with
  | ok a =>
    rw [hr] at ha
    have hk := (hf (steady_aside (t.sent q)) a).outcome ⟨rfl, rfl⟩
    rw [viaClient_ok ha]
    rw [hb] at hk
    exact hk
  | error e =>
    rw [hr] at ha
    rw [viaClient_error ha]
    cases e with
    | operation e =>
      dsimp only
      rw [failure_apply]
      exact ⟨hb, rfl⟩
    | _ => exact ⟨hb, rfl⟩

end Session

/-- What reaches the server for a request that was made over a connection: nothing if it is decided
without it, or else the one query that it asks. -/
def PlainRequest.Sent (st : Settings) (r : PlainRequest) (trace : List WireEvent) : Prop :=
  match r.shortcut? with
  | some _ => trace = []
  | none => ∃ q, r.Asks st q ∧ trace = [.query q]

namespace Command

variable {s : Session WireClient Server} {st : Settings}

/-- A step ends where its command does. -/
lemma after_step (c : Command) (p : Script) (s : Session WireClient Server) :
    (c.step p s).after = (c.act.outcome (s.facing p)).2 := by
  rw [step, Action.outcome]
  cases c.act (s.facing p) <;> rfl

lemma after_request (r : Request) (p : Script) (s : Session WireClient Server) :
    ((request r).step p s).after = (r.perform.outcome (s.facing p)).2 := by
  rw [after_step, act, Action.outcome_map]

/-- A request over a connection is the query of its call, unless it is decided without it, and
leaves the backend as it is. -/
lemma step_sends (hc : s.connected = true) (hs : s.settings = some st)
    (ho : s.client.isOpen = true) {r : PlainRequest} {q : Term}
    (hq : (r.call st).query.Sends q) (p : Script) :
    ((request r.request).step p s).after.toBackend = s.toBackend ∧
      ((request r.request).step p s).after.far.trace =
        if r.shortcut?.isSome then [] else [.query q] := by
  rw [after_request]
  cases hr : r.shortcut? with
  | some o =>
    rw [Action.outcome, PlainRequest.perform_of_shortcut (s := s.facing p) hc hs hr]
    exact ⟨rfl, rfl⟩
  | none =>
    obtain ⟨op, key, start, finish, -, hx, -, hf⟩ :=
      PlainRequest.perform_timed (s := s.facing p) hc hs hr
    obtain ⟨hb, hw⟩ := Session.timed_sent hx hq hf
    refine ⟨hb, ?_⟩
    rw [hw, Session.sent_trace]
    exact congrArg _ (if_pos ho)

/-- A request over a connection sends what it asks, and leaves the backend as it is. -/
lemma step_request (hc : s.connected = true) (hs : s.settings = some st)
    (ho : s.client.isOpen = true) (r : PlainRequest) (p : Script) :
    ((request r.request).step p s).after.toBackend = s.toBackend ∧
      r.Sent st ((request r.request).step p s).after.far.trace := by
  obtain ⟨q, hq, ha⟩ := r.sends_call st
  obtain ⟨hb, hw⟩ := step_sends hc hs ho hq p
  refine ⟨hb, ?_⟩
  rw [PlainRequest.Sent, hw]
  cases r.shortcut? with
  | some o => rfl
  | none => exact ⟨q, ha, rfl⟩

/-- One request after the other sends what it asks. -/
lemma run_requests (hc : s.connected = true) (hs : s.settings = some st)
    (ho : s.client.isOpen = true) (rs : List (PlainRequest × Script)) :
    List.Forall₂ (fun r x => r.1.Sent st x.after.far.trace) rs
      (run (rs.map fun r => (request r.1.request, r.2)) s) := by
  induction rs generalizing s with
  | nil => exact .nil
  | cons r rs ih =>
    obtain ⟨hb, hw⟩ := step_request hc hs ho r.1 r.2
    -- the backend is the same as before, and with it the connection and the settings
    refine .cons hw (ih ?_ ?_ ?_)
    · rw [hb]
      exact hc
    · rw [hb]
      exact hs
    · rw [hb]
      exact ho

end Command

/-! ## Initialising -/

namespace Session

variable {s : Session WireClient Server} {st : Settings} {p : Script}

/-- The session after its connection was refused by a server that behaves as scripted. -/
def rejected (s : Session WireClient Server) (p : Script) (st : Settings) :
    Session WireClient Server :=
  ((s.facing p).connecting st).linked ⟨s.client, { p.server with trace := [s.connection st] }⟩

lemma init_of_rejected {e : ErrorKind × String} (hst : s.resolved = .ok st)
    (hc : p.connectError = some e) : ∃ f, init (s.facing p) = .error f (s.rejected p st) := by
  obtain ⟨connectError, closeError, replies⟩ := p
  cases hc
  rw [init_apply, show (s.facing _).resolved = .ok st from hst]
  exact ⟨_, rfl⟩

/-- Where a backend with settings ends when it is initialised. -/
def initialised (s : Session WireClient Server) (p : Script) (st : Settings) :
    Session WireClient Server :=
  match p.connectError with
  | some _ => s.rejected p st
  | none =>
    match (Stage.path st .listDatabases p.server.replies).findSome? Leg.fault? with
    | some (.operation _) =>
      ((s.joined p st).along st (Stage.path st .listDatabases p.server.replies)).shut
    | _ => (s.joined p st).along st (Stage.path st .listDatabases p.server.replies)

lemma outcome_init (hst : s.resolved = .ok st) (p : Script) :
    (init.outcome (s.facing p)).2 = s.initialised p st := by
  rw [Action.outcome, initialised]
  cases hc : p.connectError with
  | some e =>
    obtain ⟨f, hf⟩ := init_of_rejected hst hc
    rw [hf]
  | none =>
    have hlegs : (s.joined p st).legs st = Stage.path st .listDatabases p.server.replies := rfl
    rw [init_of_joined hst hc, bootstrap_along (s := s.joined p st) rfl, hlegs]
    cases (Stage.path st .listDatabases p.server.replies).findSome? Leg.fault? with
    | none => rfl
    | some e =>
      cases e with
      | operation e => cases (s.joined p st).far.closeError <;> rfl
      | _ => rfl

/-- What reaches the server once the backend has tried to connect: the queries of the path that the
replies lead along, and that the connection is closed if one of them fails. -/
def bootstrapEvents (st : Settings) (p : Script) : List WireEvent :=
  match p.connectError with
  | some _ => []
  | none =>
    (Stage.path st .listDatabases p.server.replies).filterMap
        (fun leg => (leg.1.term? st).map .query) ++
      match (Stage.path st .listDatabases p.server.replies).findSome? Leg.fault? with
      | some (.operation _) => [.close]
      | _ => []

lemma trace_initialised (s : Session WireClient Server) (p : Script) (st : Settings) :
    (s.initialised p st).far.trace = s.connection st :: bootstrapEvents st p := by
  rw [initialised, bootstrapEvents]
  cases p.connectError with
  | some e => rfl
  | none =>
    dsimp only
    cases (Stage.path st .listDatabases p.server.replies).findSome? Leg.fault? with
    | none => exact congrArg (List.cons _) (List.append_nil _).symm
    | some f =>
      cases f with
      | operation e => rfl
      | _ => exact congrArg (List.cons _) (List.append_nil _).symm

/-- Of a bootstrap a table is created just with its key and the durability of the settings. -/
lemma eq_of_tableCreate_mem {args : List Term} {options : List (String × Term)}
    (h : .query (.call .tableCreate args options) ∈ bootstrapEvents st p) :
    args = [.call .database [.str st.database] [], .str st.table] ∧
      options = [("primary_key", .str primaryKey), ("durability", .str st.durability.name)] := by
  rw [bootstrapEvents] at h
  split at h
  · cases h
  · rcases List.mem_append.1 h with h | h
    · obtain ⟨⟨x, r⟩, -, hx⟩ := List.mem_filterMap.1 h
      obtain ⟨t, ht, hq⟩ := Option.map_eq_some_iff.1 hx
      cases hq
      cases x <;> cases ht
      exact ⟨rfl, rfl⟩
    · split at h
      · cases List.mem_singleton.1 h
      · cases h

/-- What a backend is told does not change the settings that its configuration gives. -/
lemma enduring_resolved {κ ω : Type} [Client κ ω] (st : Settings) :
    Enduring fun u : Session κ ω => u.resolved = .ok st where
  toStable := .of_linked (fun h => h) (fun _ h => h) fun _ h => h
  closed := keeps_cleanup (keeps_viaClient_of_linked (fun _ h => h) _) fun _ h => h
  loaded := resolved_loaded
  refused _ _ _ h _ := resolved_loaded h
  accepted _ _ h _ := resolved_loaded h

/-- The configuration of the session gives these settings, and this says whether it is connected; if
it is, these are its settings. -/
structure Stands (st : Settings) (b : Bool) (s : Session WireClient Server) : Prop where
  resolved : s.resolved = .ok st
  connected : s.connected = b
  client : s.client = ⟨b⟩
  settings : b = true → s.settings = some st

/-- Whether there is a connection after initialising is decided by the script, unless it refuses
one. -/
lemma Stands.initialised (st : Settings) (b : Bool) (p : Script) :
    ∃ b', ∀ s : Session WireClient Server, s.Stands st b →
      (s.initialised p st).resolved = .ok st → (s.initialised p st).Stands st b' := by
  cases hp : p.connectError with
  | some e =>
    refine ⟨b, fun s hs hr => ?_⟩
    rw [Session.initialised, hp] at hr ⊢
    exact ⟨hr, hs.connected, hs.client, fun _ => rfl⟩
  | none =>
    have halong (s : Session WireClient Server)
        (hr : ((s.joined p st).along st (Stage.path st .listDatabases p.server.replies)).resolved =
          .ok st) :
        ((s.joined p st).along st (Stage.path st .listDatabases p.server.replies)).Stands st
          true := ⟨hr, rfl, rfl, fun _ => rfl⟩
    cases hf : (Stage.path st .listDatabases p.server.replies).findSome? Leg.fault? with
    | none =>
      refine ⟨true, fun s hs hr => ?_⟩
      rw [Session.initialised, hp, hf] at hr ⊢
      exact halong s hr
    | some f =>
      cases f with
      | operation e =>
        refine ⟨false, fun s hs hr => ?_⟩
        rw [Session.initialised, hp, hf] at hr ⊢
        exact ⟨hr, rfl, rfl, nofun⟩
      | _ =>
        refine ⟨true, fun s hs hr => ?_⟩
        rw [Session.initialised, hp, hf] at hr ⊢
        exact halong s hr

lemma Closed.stands (h : s.Closed) (hst : s.resolved = .ok st) : s.Stands st false :=
  ⟨hst, h.1, congrArg WireClient.mk h.2, nofun⟩

end Session

/-! ## Runs side by side -/

/-- What reached a server, wherever that is. -/
def WireEvent.anywhere : WireEvent → WireEvent
  | connect _ port timeout => connect .null port timeout
  | e => e

/-- What reached the server in a step, wherever that is. -/
def Step.anywhere (x : Step) : List WireEvent := x.after.far.trace.map WireEvent.anywhere

/-- The command is no request, or a plain one. -/
def Command.IsPlain : Command → Prop
  | request r => ∃ q : PlainRequest, q.request = r
  | _ => True

namespace Command

variable {st : Settings}

lemma resolved_step {s : Session WireClient Server} (hst : s.resolved = .ok st) (c : Command)
    (p : Script) : (c.step p s).after.resolved = .ok st := by
  rw [after_step]
  exact ((Session.enduring_resolved st).keeps_act c).outcome (s := s.facing p) hst

lemma after_init {s : Session WireClient Server} (hst : s.resolved = .ok st) (p : Script) :
    (init.step p s).after = s.initialised p st := by
  rw [after_step, ← Session.outcome_init hst]
  exact congrArg Prod.snd (Action.outcome_map Session.init (fun _ => Response.done) _)

lemma after_cleanup (p : Script) (s : Session WireClient Server) :
    (cleanup.step p s).after = if s.client.isOpen then (s.facing p).shut
      else { s.facing p with connected := false } := by
  have hx : (cleanup.step p s).after = (Session.cleanup.outcome (s.facing p)).2 := by
    rw [after_step]
    exact congrArg Prod.snd (Action.outcome_map Session.cleanup (fun _ => Response.done) _)
  rw [hx, Action.outcome]
  cases ho : s.client.isOpen with
  | true =>
    rw [Session.cleanup_of_isOpen (t := s.facing p) ho]
    cases (s.facing p).far.closeError <;> rfl
  | false => rw [Session.cleanup_of_closed (t := s.facing p) ho]; rfl

lemma after_info (p : Script) (s : Session WireClient Server) :
    (info.step p s).after = s.facing p := by
  have hx : (info.step p s).after = (Session.info.outcome (s.facing p)).2 := by
    rw [after_step]
    exact congrArg Prod.snd (Action.outcome_map Session.info Response.info _)
  rw [hx, Session.info, Action.outcome, Action.bind_apply, Action.get_apply]
  dsimp only
  cases (s.facing p).toBackend.info <;> rfl

/-- What a plain command sends, and whether there is a connection afterwards, is decided by the
settings and by whether there was one. -/
lemma exists_anywhere {c : Command} (hc : c.IsPlain) (p : Script) (st : Settings) (b : Bool) :
    ∃ es b', ∀ s : Session WireClient Server, s.Stands st b →
      (c.step p s).anywhere = es ∧ (c.step p s).after.Stands st b' := by
  have hres {s : Session WireClient Server} (hs : s.Stands st b) :
      (c.step p s).after.resolved = .ok st := resolved_step hs.resolved c p
  cases c with
  | init =>
    obtain ⟨b', hb'⟩ := Session.Stands.initialised st b p
    refine ⟨.connect .null (.int st.port) (.int st.timeout) ::
      (Session.bootstrapEvents st p).map WireEvent.anywhere, b', fun s hs => ?_⟩
    have hr := hres hs
    rw [Step.anywhere]
    rw [after_init hs.resolved] at hr ⊢
    refine ⟨?_, hb' s hs hr⟩
    rw [Session.trace_initialised]
    rfl
  | cleanup =>
    refine ⟨if b then [.close] else [], false, fun s hs => ?_⟩
    have hr := hres hs
    rw [Step.anywhere]
    rw [after_cleanup, hs.client] at hr ⊢
    cases b with
    | true => exact ⟨rfl, hr, rfl, rfl, nofun⟩
    | false => exact ⟨rfl, hr, rfl, hs.client, nofun⟩
  | info =>
    refine ⟨[], b, fun s hs => ?_⟩
    have hr := hres hs
    rw [Step.anywhere]
    rw [after_info] at hr ⊢
    exact ⟨rfl, hr, hs.connected, hs.client, hs.settings⟩
  | request r =>
    obtain ⟨r, rfl⟩ := hc
    cases b with
    | false =>
      refine ⟨[], false, fun s hs => ?_⟩
      have hr := hres hs
      rw [Step.anywhere]
      rw [after_request, Action.outcome, Session.perform_of_disconnected (s := s.facing p)
        (.inl hs.connected)] at hr ⊢
      exact ⟨rfl, hr, hs.connected, hs.client, nofun⟩
    | true =>
      obtain ⟨q, hq, -⟩ := r.sends_call st
      refine ⟨if r.shortcut?.isSome then [] else [.query q], true, fun s hs => ?_⟩
      have ho : s.client.isOpen = true := congrArg WireClient.isOpen hs.client
      obtain ⟨hb, hw⟩ := step_sends hs.connected (hs.settings rfl) ho hq p
      have hr := hres hs
      rw [Step.anywhere, hw]
      refine ⟨?_, hr, ?_, ?_, fun _ => ?_⟩
      · split <;> rfl
      · rw [hb]; exact hs.connected
      · rw [hb]; exact hs.client
      · rw [hb]; exact hs.settings rfl

/-- What a plain run sends is decided by the settings and by whether there was a connection. -/
lemma run_anywhere {cs : List (Command × Script)} (hcs : ∀ c ∈ cs, c.1.IsPlain) (st : Settings)
    (b : Bool) : ∃ ess, ∀ s : Session WireClient Server, s.Stands st b →
      (run cs s).map Step.anywhere = ess := by
  induction cs generalizing b with
  | nil => exact ⟨[], fun _ _ => rfl⟩
  | cons c cs ih =>
    obtain ⟨hc, hcs⟩ := List.forall_mem_cons.1 hcs
    obtain ⟨es, b', he⟩ := exists_anywhere hc c.2 st b
    obtain ⟨ess, hess⟩ := ih hcs b'
    refine ⟨es :: ess, fun s hs => ?_⟩
    obtain ⟨hes, hs'⟩ := he s hs
    rw [run, List.map_cons, hes, hess _ hs']

/-- An initialisation returns if nothing on its path fails. -/
lemma result_init {s : Session WireClient Server} {p : Script} (hst : s.resolved = .ok st)
    (hc : p.connectError = none)
    (hf : (Stage.path st .listDatabases p.server.replies).findSome? Leg.fault? = none) :
    (init.step p s).result = .ok .done := by
  have hinit := Session.init_of_joined hst hc
  have hlegs : ((s.joined p st).legs st).findSome? Leg.fault? = none := hf
  rw [Session.bootstrap_along (s := s.joined p st) rfl, hlegs] at hinit
  rw [step_init, hinit]

/-- An initialisation that returns leaves a connection, and the settings that the configuration
gives. -/
lemma stands_of_init {s : Session WireClient Server} {p : Script} (hst : s.resolved = .ok st)
    (h : (init.step p s).result = .ok .done) : (init.step p s).after.Stands st true := by
  have hr := resolved_step hst init p
  obtain ⟨t, ht⟩ : ∃ t, Session.init (s.facing p) = .ok () t := by
    cases hx : Session.init (s.facing p) with
    | ok a t => exact ⟨t, rfl⟩
    | error e t =>
      rw [step_init, hx] at h
      cases h
  rw [after_init hst, Session.initialised] at hr ⊢
  cases hp : p.connectError with
  | some e =>
    obtain ⟨f, hf⟩ := Session.init_of_rejected hst hp
    cases hf.symm.trans ht
  | none =>
    have hlegs : (s.joined p st).legs st = Stage.path st .listDatabases p.server.replies := rfl
    rw [Session.init_of_joined hst hp, Session.bootstrap_along (s := s.joined p st) rfl,
      hlegs] at ht
    rw [hp] at hr
    cases hf : (Stage.path st .listDatabases p.server.replies).findSome? Leg.fault? with
    | none =>
      rw [hf] at hr
      exact ⟨hr, rfl, rfl, fun _ => rfl⟩
    | some f =>
      rw [hf] at ht
      cases f with
      | operation e => cases hc : (s.joined p st).far.closeError <;> rw [hc] at ht <;> cases ht
      | _ => cases ht

end Command

/-- With these settings, requests to a backend that was initialised send what they ask, the table
is created with its key and with the durability of the settings, and every other backend whose
configuration gives the same settings sends the same, wherever that is. -/
structure Settings.Govern (st : Settings) (p : Script) (s : Session WireClient Server) : Prop where
  requests : (Command.init.step p s).result = .ok .done → ∀ rs : List (PlainRequest × Script),
    List.Forall₂ (fun r x => r.1.Sent st x.after.far.trace) rs
      (Command.run (rs.map fun r => (.request r.1.request, r.2)) (Command.init.step p s).after)
  creation : ∀ args options,
    .query (.call .tableCreate args options) ∈ (Command.init.step p s).after.far.trace →
      args = [.call .database [.str st.database] [], .str st.table] ∧
        options = [("primary_key", .str primaryKey), ("durability", .str st.durability.name)]
  alike : s.Closed → ∀ s' : Session WireClient Server, s'.Closed → s'.resolved = .ok st →
    ∀ cs : List (Command × Script), (∀ c ∈ cs, c.1.IsPlain) →
      (Command.run cs s).map Step.anywhere = (Command.run cs s').map Step.anywhere

namespace Command

/-- Whatever settings a configuration gives, they govern what is sent. -/
theorem settings_reach_queries {s : Session WireClient Server} {st : Settings}
    (hst : s.resolved = .ok st) (p : Script) : st.Govern p s where
  requests h rs := by
    have hs := stands_of_init hst h
    exact run_requests hs.connected (hs.settings rfl) (congrArg WireClient.isOpen hs.client) rs
  creation args options h := by
    rw [after_init hst, Session.trace_initialised] at h
    exact Session.eq_of_tableCreate_mem ((List.mem_cons.1 h).resolve_left nofun)
  alike hs s' hs' hst' cs hcs := by
    obtain ⟨ess, hess⟩ := run_anywhere hcs st false
    rw [hess s (hs.stands hst), hess s' (hs'.stands hst')]

/-- Writes are soft and reads consult a majority, as one backend has it from its configuration and
the other from its environment. -/
theorem settings_reach_queries_soft :
    let site (environment : Environment) : Site Server :=
      ⟨environment, ⟨[], []⟩, .empty, .new [1], [], ⟨none, none, [], []⟩⟩
    let s : Session WireClient Server := .fresh
      (.ofFields [("durability", .str "soft"), ("rethinkdb.read_consistency", .str "majority")])
      .new (site .empty)
    let s' : Session WireClient Server := .fresh .empty .new (site (.ofList
      [("RETHINKDB_DURABILITY", "soft"), ("RETHINKDB_READ_CONSISTENCY", "majority")]))
    let st : Settings :=
      ⟨⟨["localhost"], nofun⟩, 28015, .soft, "usertable", "ycsb", some .majority, 20⟩
    let p : Script := ⟨none, none,
      [.ok (.list [.str "ycsb"]), .ok (.list []), .ok (.object []), .ok (.object [])]⟩
    s.resolved = .ok st ∧ s.Closed ∧ s'.Closed ∧ s'.resolved = .ok st ∧
      (init.step p s).result = .ok .done ∧ st.Govern p s := by
  intro site s s' st p
  have hst : s.resolved = .ok st := Surroundings.ok_of_toOption (by decide +kernel)
  have hst' : s'.resolved = .ok st := Surroundings.ok_of_toOption (by decide +kernel)
  exact ⟨hst, ⟨rfl, rfl⟩, ⟨rfl, rfl⟩, hst', result_init hst rfl rfl, settings_reach_queries hst p⟩

end Command

end CrudBench
