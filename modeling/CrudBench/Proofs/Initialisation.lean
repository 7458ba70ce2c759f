import CrudBench.Proofs.Lifecycle
import CrudBench.Proofs.Settings.RoundTrip

/-!
# Initialisation

What initialising a backend does, as one case distinction over its settings and over how connecting
ends (`Session.init_apply`). A backend whose configuration gives no settings stays as it is, and so
do the host pools. Otherwise a host is taken from the pool of its hosts before anything else can
fail, and the rest is up to the client (`Session.init_cases`).
-/

namespace CrudBench.Session

variable {κ ω : Type}

/-! ## Loading the variables file -/

/-- What is told of the variables file before it is loaded. -/
def fileNotes (s : Session κ ω) : List LogEntry :=
  if s.environment.ignoresFiles then [.fileIgnored] else s.file.unreadable.map .unreadable

/-- The session once its variables file was loaded, as far as it can be. -/
def loaded (s : Session κ ω) : Session κ ω :=
  { s with
    environment := (Settings.consult s.file true).left s.environment
    log := s.log ++ s.fileNotes }

lemma forM_report (lines : List Nat) (s : Session κ ω) :
    (lines.forM fun line => report (.unreadable line) : Action (Session κ ω) Unit) s =
      .ok () { s with log := s.log ++ lines.map .unreadable } := by
  induction lines generalizing s with
  | nil =>
    rw [List.map_nil, List.append_nil]
    rfl
  | cons line lines ih =>
    show (do report (.unreadable line); lines.forM fun line => report (.unreadable line) :
      Action (Session κ ω) Unit) s = _
    simp only [Action.bind_apply, report_apply, ih, logged_log, List.append_assoc]
    rfl

lemma reportFile_apply (s : Session κ ω) :
    reportFile s = .ok () { s with log := s.log ++ s.fileNotes } := by
  rw [reportFile, Action.bind_apply, Action.get_apply, fileNotes]
  dsimp only
  split
  · rfl
  · exact forM_report _ s

/-- Where a session reads its settings besides its configuration. -/
def surroundings (s : Session κ ω) : Surroundings := ⟨s.environment, s.file, true⟩

/-- The settings that the configuration of a session gives in its surroundings. -/
def resolved (s : Session κ ω) : Except Settings.Unreadable Settings :=
  s.surroundings.settings s.config.named

/-- A session is configured with the settings that its configuration gives, or fails for the reason
why it gives none. Either way its variables file was loaded before. -/
lemma configure_eq (s : Session κ ω) :
    configure s = match s.resolved with
      | .ok st => .ok st { s.loaded with settings := some st }
      | .error e => .error (.connection (.configuration e)) s.loaded := by
  rw [configure, Action.bind_apply, reportFile_apply, loaded,
    ← Settings.left_ofProperties s.file true s.config.named]
  dsimp only
  rw [takeSettings, resolved, Surroundings.settings, Settings.Reading.result, Settings.Reading.left,
    surroundings]
  dsimp only
  cases Settings.ofProperties s.file true s.config.named s.environment <;> rfl

/-- A configuration that gives settings gives the same ones once the variables file was loaded. -/
lemma resolved_loaded {s : Session κ ω} {st : Settings} (h : s.resolved = .ok st) :
    s.loaded.resolved = .ok st := by
  obtain ⟨env, hseen, -⟩ := Surroundings.settings_eq_ok.1 h
  -- a file that was loaded has nothing left to set
  have hs : s.loaded.surroundings.seen = s.surroundings.seen := Surroundings.seen_left hseen
  rw [resolved, Surroundings.settings_eq_resolve, hs]
  exact (Surroundings.settings_eq_resolve _ _).symm.trans h

/-! ## Connecting -/

/-- The host whose turn it is. -/
def nextHost (s : Session κ ω) (st : Settings) : String := (s.pools.takeShared st.hosts).1

/-- Where a session connects to. -/
def endpoint (s : Session κ ω) (st : Settings) : Endpoint := ⟨s.nextHost st, st.port, st.timeout⟩

/-- The session once it has settings and a host, and is about to connect. -/
def connecting (s : Session κ ω) (st : Settings) : Session κ ω :=
  (s.loaded.hosted st).logged (.connecting (s.nextHost st) st.port)

@[simp]
lemma connecting_host (s : Session κ ω) (st : Settings) :
    (s.connecting st).host = some (s.nextHost st) := rfl

@[simp]
lemma connecting_pools (s : Session κ ω) (st : Settings) :
    (s.connecting st).pools = (s.pools.takeShared st.hosts).2 := rfl

/-! ## What connecting starts from -/

/-- The log of the first session goes on to the log of the second, which tells of no other failures.
-/
def QuietTo (s t : Session κ ω) : Prop :=
  ∃ es, t.log = s.log ++ es ∧ ∀ e ∈ es, e.cause? = none

/-- One more entry that tells of no failure keeps a log quiet. -/
lemma QuietTo.logged {s t : Session κ ω} (h : s.QuietTo t) {e : LogEntry} (he : e.cause? = none) :
    s.QuietTo (t.logged e) := by
  obtain ⟨es, hes, hq⟩ := h
  refine ⟨es ++ [e], by rw [logged_log, hes, List.append_assoc], fun x hx => ?_⟩
  rcases List.mem_append.1 hx with hx | hx
  · exact hq x hx
  · cases List.mem_singleton.1 hx
    exact he

/-- The second session is the first but for the environment and a log that went on quietly. -/
structure Aside (s t : Session κ ω) : Prop where
  backend : t.toBackend = s.toBackend
  far : t.far = s.far
  quiet : s.QuietTo t

/-- The second session is the first once it has settings and a host. -/
structure Prepared (s : Session κ ω) (st : Settings) (host : String) (t : Session κ ω) : Prop where
  settings : t.settings = some st
  host : t.host = some host
  connected : t.connected = s.connected
  client : t.client = s.client
  far : t.far = s.far
  quiet : s.QuietTo t

lemma aside_loaded (s : Session κ ω) : s.Aside s.loaded := by
  refine ⟨rfl, rfl, s.fileNotes, rfl, fun e he => ?_⟩
  rw [fileNotes] at he
  split at he
  · cases List.mem_singleton.1 he
    rfl
  · obtain ⟨line, -, rfl⟩ := List.mem_map.1 he
    rfl

lemma prepared_connecting (s : Session κ ω) (st : Settings) :
    s.Prepared st (s.nextHost st) (s.connecting st) :=
  ⟨rfl, rfl, rfl, rfl, rfl, (aside_loaded s).quiet.logged rfl⟩

/-! ## All together -/

variable [Client κ ω]

/-- Initialising a backend fails for want of settings, or takes a host and connects to it. From then
on the schema is made ready. -/
lemma init_apply (s : Session κ ω) :
    init s = match s.resolved with
      | .error e => .error (.connection (.configuration e)) s.loaded
      | .ok st => match Client.connect (s.endpoint st) ⟨s.client, s.far⟩ with
        | .ok _ l => bootstrap st ((s.connecting st).opened l)
        | .error e l => .error e ((s.connecting st).linked l) := by
  rw [init, Action.bind_apply, configure_eq]
  cases s.resolved with
  | error e => rfl
  | ok st =>
    have hh : chooseHost st { s.loaded with settings := some st } =
        .ok (s.nextHost st) (s.loaded.hosted st) := rfl
    have hc : Client.connect ⟨s.nextHost st, st.port, st.timeout⟩
        ⟨(s.loaded.hosted st).client, (s.loaded.hosted st).far⟩ =
        Client.connect (s.endpoint st) ⟨s.client, s.far⟩ := rfl
    simp only [Action.bind_apply, hh, openConnection_apply, hc]
    cases Client.connect (s.endpoint st) ⟨s.client, s.far⟩ <;> rfl

/-- Initialising a backend fails aside, or prepares it and leaves the rest to the client. -/
lemma init_cases (s : Session κ ω) :
    (∃ e t, init s = .error e t ∧ s.Aside t ∧ e.driverError? = none) ∨
      ∃ st host t, s.Prepared st host t ∧
        init s = match Client.connect ⟨host, st.port, st.timeout⟩ ⟨t.client, t.far⟩ with
          | .ok _ l => bootstrap st (t.opened l)
          | .error e l => .error e (t.linked l) := by
  rw [init_apply]
  cases s.resolved with
  | error e => exact .inl ⟨_, s.loaded, rfl, aside_loaded s, rfl⟩
  | ok st => exact .inr ⟨st, s.nextHost st, s.connecting st, prepared_connecting s st, rfl⟩

end CrudBench.Session
