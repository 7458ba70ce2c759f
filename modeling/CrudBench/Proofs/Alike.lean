import CrudBench.Proofs.World
import Mathlib.Data.List.Forall2

/-!
# Running side by side

The same program is run twice, from two sessions that differ in what it never looks at: in their
clocks and logs, and in what their clients do not look at either. It comes to the same, but for
latencies (`Command.alike_act`), and so do whole runs of worlds (`World.Alike.run`). The first run
may part from the second on the way; then nothing more is said about the two.
-/

namespace CrudBench

namespace Action

variable {σ α β : Type}

/-- Two results agree: both are returned, and are related by `Q`, or both are the same fault. The
states that were reached are related by `R`. -/
def Agree (R : σ → σ → Prop) (Q : α → α → Prop) :
    EStateM.Result Fault σ α → EStateM.Result Fault σ α → Prop
  | .ok a s, .ok b t => R s t ∧ Q a b
  | .error e s, .error e' t => R s t ∧ e = e'
  | _, _ => False

/-- From states that are related by `R` two actions come to results that agree, unless the first has
parted by then, as `D` says. Once it has, it stays so. -/
structure Alike (R : σ → σ → Prop) (D : σ → Prop) (Q : α → α → Prop) (x y : Action σ α) :
    Prop where
  parted : ∀ {s}, D s → D (x.outcome s).2
  agree : ∀ {s t}, R s t → D (x.outcome s).2 ∨ Agree R Q (x s) (y t)

variable {R : σ → σ → Prop} {D : σ → Prop} {P : α → α → Prop} {Q : β → β → Prop}

lemma alike_pure {a b : α} (h : P a b) : Alike R D P (pure a) (pure b) :=
  ⟨fun hs => hs, fun hr => .inr ⟨hr, h⟩⟩

lemma alike_throw (e : Fault) : Alike R D P (throw e) (throw e) :=
  ⟨fun hs => hs, fun hr => .inr ⟨hr, rfl⟩⟩

lemma alike_given (h : ∀ a, P a a) (x : Except Misfit α) : Alike R D P (given x) (given x) := by
  cases x with
  | ok a => exact alike_pure (h a)
  | error e => exact alike_throw _

/-- Actions that are alike part, or both return, or both fail in the same way. -/
lemma Alike.cases {x y : Action σ α} (h : Alike R D P x y) {s t : σ} (hst : R s t) :
    D (x.outcome s).2 ∨
      (∃ a b s' t', x s = .ok a s' ∧ y t = .ok b t' ∧ R s' t' ∧ P a b) ∨
      ∃ e s' t', x s = .error e s' ∧ y t = .error e t' ∧ R s' t' := by
  refine (h.agree hst).imp_right fun h => ?_
  cases hx : x s with
  | ok a s' =>
    cases hy : y t with
    | ok b t' =>
      rw [hx, hy] at h
      exact .inl ⟨a, b, s', t', rfl, rfl, h.1, h.2⟩
    | error e t' =>
      rw [hx, hy] at h
      exact h.elim
  | error e s' =>
    cases hy : y t with
    | ok b t' =>
      rw [hx, hy] at h
      exact h.elim
    | error e' t' =>
      rw [hx, hy] at h
      obtain ⟨hr, rfl⟩ := h
      exact .inr ⟨e, s', t', rfl, rfl, hr⟩

/-- Two actions in a row are alike if each of them is, whatever the first returns. -/
lemma Alike.bind {x y : Action σ α} {f g : α → Action σ β} (hx : Alike R D P x y)
    (hP : ∀ a, P a a) (hf : ∀ a b, P a b → Alike R D Q (f a) (g b)) :
    Alike R D Q (x >>= f) (y >>= g) := by
  -- what has parted in the first stays parted through the second
  have hpart {s : σ} (hs : D (x.outcome s).2) : D ((x >>= f).outcome s).2 := by
    rw [outcome] at hs
    rw [outcome_bind]
    cases hr : x s with
    | ok a t =>
      rw [hr] at hs
      exact (hf a a (hP a)).parted hs
    | error e t =>
      rw [hr] at hs
      exact hs
  constructor
  · intro s hs
    exact hpart (hx.parted hs)
  · intro s t hst
    obtain h | ⟨a, b, s', t', hs, ht, hr, hab⟩ | ⟨e, s', t', hs, ht, hr⟩ := hx.cases hst
    · exact .inl (hpart h)
    · rw [outcome_bind, bind_apply, bind_apply, hs, ht]
      exact (hf a b hab).agree hr
    · rw [bind_apply, bind_apply, hs, ht]
      exact .inr ⟨hr, rfl⟩

/-- Tries of actions that are alike are alike. -/
lemma Alike.attempt {x y : Action σ α} (hx : Alike R D Eq x y) :
    Alike R D Eq (Session.attempt x) (Session.attempt y) := by
  have hend (s : σ) : ((Session.attempt x).outcome s).2 = (x.outcome s).2 := by
    rw [outcome, outcome, Session.attempt]
    cases x s with
    | ok a t => rfl
    | error e t => cases e <;> rfl
  constructor
  · intro s hs
    rw [hend]
    exact hx.parted hs
  · intro s t hst
    rw [hend]
    obtain h | ⟨a, b, s', t', hs, ht, hr, rfl⟩ | ⟨e, s', t', hs, ht, hr⟩ := hx.cases hst
    · exact .inl h
    · rw [Session.attempt, Session.attempt, hs, ht]
      exact .inr ⟨hr, rfl⟩
    · rw [Session.attempt, Session.attempt, hs, ht]
      cases e <;> exact .inr ⟨hr, rfl⟩

end Action

/-! ## What is alike -/

/-- The outcome without its latency. -/
def Outcome.untimed (o : Outcome) : Status × Option Payload × Option String :=
  (o.status, o.data, o.error)

/-- Two responses differ in latencies at most. -/
def Response.Alike : Response → Response → Prop
  | .outcome o, .outcome o' => o.untimed = o'.untimed
  | r, r' => r = r'

lemma Response.Alike.refl (r : Response) : r.Alike r := by
  cases r <;> rfl

variable {κ ω : Type}

/-- Two backends differ in their clients at most, which are related. -/
structure Backend.Alike (N : κ → κ → Prop) (b b' : Backend κ) : Prop where
  config : b'.config = b.config
  settings : b'.settings = b.settings
  host : b'.host = b.host
  connected : b'.connected = b.connected
  client : N b.client b'.client

/-- Two sites differ in their clocks and logs, and in what lies beyond their clients, which is
related. -/
structure Site.Alike (J : ω → ω → Prop) (x x' : Site ω) : Prop where
  environment : x'.environment = x.environment
  file : x'.file = x.file
  pools : x'.pools = x.pools
  far : J x.far x'.far

/-- Two sessions are alike, their clients as `N` says and what lies beyond them as `J` says. -/
structure Session.Alike (N : κ → κ → Prop) (J : ω → ω → Prop) (s s' : Session κ ω) : Prop where
  backend : Backend.Alike N s.toBackend s'.toBackend
  site : Site.Alike J s.toSite s'.toSite

/-- Two sides of a client are alike. -/
structure Link.Alike (N : κ → κ → Prop) (J : ω → ω → Prop) (l l' : Link κ ω) : Prop where
  near : N l.near l'.near
  far : J l.far l'.far

/-- Clients that are related as `N` says cannot tell apart what is related as `J` says. The first
may part from the second, as `D` says of it. -/
structure Client.Blind [Client κ ω] (N : κ → κ → Prop) (J : ω → ω → Prop) (D : κ → Prop) :
    Prop where
  isOpen : ∀ {c c'}, N c c' → Client.isOpen c' = Client.isOpen c
  connect : ∀ e, Action.Alike (Link.Alike N J) (fun l => D l.near) Eq
    (Client.connect e : Action (Link κ ω) Unit) (Client.connect e)
  close : Action.Alike (Link.Alike N J) (fun l => D l.near) Eq
    (Client.close : Action (Link κ ω) Unit) Client.close
  ask : ∀ c : Call, Action.Alike (Link.Alike N J) (fun l => D l.near) Eq
    (Client.ask c : Action (Link κ ω) c.Answer) (Client.ask c)

namespace Session

open Action

variable {N : κ → κ → Prop} {J : ω → ω → Prop} {D : κ → Prop}

/-- Two actions on alike sessions are alike. -/
abbrev Tracks {α : Type} (N : κ → κ → Prop) (J : ω → ω → Prop) (D : κ → Prop) (Q : α → α → Prop)
    (x y : Action (Session κ ω) α) : Prop :=
  Action.Alike (Session.Alike N J) (fun s => D s.client) Q x y

/-- Two outcomes differ in their latencies at most. -/
abbrev Same (o o' : Outcome) : Prop := o.untimed = o'.untimed

lemma tracks_now : Tracks N J D (fun _ _ => True) (now : Action (Session κ ω) Float) now :=
  ⟨fun hs => hs, fun hr => .inr ⟨⟨hr.backend, hr.site.environment, hr.site.file, hr.site.pools,
    hr.site.far⟩, trivial⟩⟩

lemma tracks_report (e : LogEntry) :
    Tracks N J D (fun _ _ => True) (report e : Action (Session κ ω) Unit) (report e) :=
  ⟨fun hs => hs, fun hr => .inr ⟨⟨hr.backend, hr.site.environment, hr.site.file, hr.site.pools,
    hr.site.far⟩, trivial⟩⟩

lemma tracks_elapsed (f : Latency → Outcome) (hf : ∀ l l', Same (f l) (f l'))
    (start start' : Float) :
    Tracks N J D Same (do return f (← elapsedSince start) : Action (Session κ ω) Outcome)
      (do return f (← elapsedSince start')) := by
  refine Alike.bind (P := fun _ _ => True) ?_ (fun _ => trivial) fun l l' _ => alike_pure (hf l l')
  exact tracks_now.bind (fun _ => trivial) fun _ _ _ => alike_pure trivial

lemma tracks_viaClient {α : Type} {Q : α → α → Prop} {x y : Action (Link κ ω) α}
    (h : Action.Alike (Link.Alike N J) (fun l => D l.near) Q x y) :
    Tracks N J D Q (viaClient x) (viaClient y) := by
  have hend (s : Session κ ω) :
      ((viaClient x).outcome s).2 = s.linked (x.outcome ⟨s.client, s.far⟩).2 := by
    rw [outcome, outcome, viaClient_apply]
    cases x ⟨s.client, s.far⟩ <;> rfl
  constructor
  · intro s hs
    rw [hend]
    exact h.parted (s := ⟨s.client, s.far⟩) hs
  · intro s t hst
    have hlinked {l l' : Link κ ω} (hl : l.Alike N J l') :
        Session.Alike N J (s.linked l) (t.linked l') :=
      ⟨⟨hst.backend.config, hst.backend.settings, hst.backend.host, hst.backend.connected, hl.near⟩,
        ⟨hst.site.environment, hst.site.file, hst.site.pools, hl.far⟩⟩
    have hl : Link.Alike N J ⟨s.client, s.far⟩ ⟨t.client, t.far⟩ :=
      ⟨hst.backend.client, hst.site.far⟩
    rw [hend, viaClient_apply, viaClient_apply]
    obtain h | ⟨a, b, l, l', hx, hy, hr, hab⟩ | ⟨e, l, l', hx, hy, hr⟩ := h.cases hl
    · exact .inl h
    · rw [hx, hy]
      exact .inr ⟨hlinked hr, hab⟩
    · rw [hx, hy]
      exact .inr ⟨hlinked hr, rfl⟩

lemma tracks_failure (op : Operation) (key : Value) (e : OperationError) (start start' : Float) :
    Tracks N J D Same (failure op key e start : Action (Session κ ω) Outcome)
      (failure op key e start') :=
  (tracks_report _).bind (fun _ => trivial) fun _ _ _ =>
    tracks_elapsed (.failed e.message) (fun _ _ => rfl) start start'

lemma tracks_settle (op : Operation) (key : Value) (start start' : Float) (wanted : Counter)
    (mayMiss : Bool) (answer : Value) :
    Tracks N J D Same (settle op key start wanted mayMiss answer : Action (Session κ ω) Outcome)
      (settle op key start' wanted mayMiss answer) := by
  rw [settle, settle]
  split
  · exact alike_throw _
  · split
    · exact tracks_elapsed .ok (fun _ _ => rfl) start start'
    · split
      · exact tracks_elapsed .notFound (fun _ _ => rfl) start start'
      · exact tracks_failure op key _ start start'

lemma tracks_whenConnected {act act' : Settings → Action (Session κ ω) Outcome}
    (h : ∀ st, Tracks N J D Same (act st) (act' st)) :
    Tracks N J D Same (whenConnected act) (whenConnected act') := by
  constructor
  · intro s hs
    rw [outcome]
    obtain ⟨st, hc, hst⟩ | hn := s.connected_cases
    · rw [whenConnected_of_connected hc hst]
      exact (h st).parted hs
    · rw [whenConnected_of_disconnected hn]
      exact hs
  · intro s t hst
    -- both sessions are connected with the same settings, or neither of them is
    rw [outcome]
    obtain ⟨st, hc, hs⟩ | hn := s.connected_cases
    · rw [whenConnected_of_connected hc hs, whenConnected_of_connected
        (hst.backend.connected.trans hc) (hst.backend.settings.trans hs)]
      exact (h st).agree hst
    · have hn' : t.connected = false ∨ t.settings = none := by
        rwa [hst.backend.connected, hst.backend.settings]
      rw [whenConnected_of_disconnected hn, whenConnected_of_disconnected hn']
      exact .inr ⟨hst, rfl⟩

lemma tracks_info :
    Tracks N J D Eq (info : Action (Session κ ω) BackendInfo) info := by
  have hinfo {s t : Session κ ω} (hst : Session.Alike N J s t) :
      t.toBackend.info = s.toBackend.info := by
    rw [Backend.info, Backend.info, hst.backend.config, hst.backend.connected, hst.backend.host,
      hst.backend.settings]
  constructor
  · intro s hs
    rw [info, outcome_bind, get_apply]
    dsimp only
    cases s.toBackend.info <;> exact hs
  · intro s t hst
    right
    rw [info, bind_apply, bind_apply, get_apply, get_apply]
    dsimp only
    rw [hinfo hst]
    cases s.toBackend.info with
    | ok i => exact ⟨hst, rfl⟩
    | error e => exact ⟨hst, rfl⟩

lemma Alike.resolved {s t : Session κ ω} (hst : Session.Alike N J s t) :
    t.resolved = s.resolved := by
  rw [Session.resolved, Session.resolved, surroundings, surroundings, hst.backend.config,
    hst.site.environment, hst.site.file]

lemma Alike.loaded {s t : Session κ ω} (hst : Session.Alike N J s t) :
    Session.Alike N J s.loaded t.loaded := by
  refine ⟨hst.backend, ⟨?_, hst.site.file, hst.site.pools, hst.site.far⟩⟩
  simp only [Session.loaded, hst.site.environment, hst.site.file]

lemma Alike.connecting {s t : Session κ ω} (hst : Session.Alike N J s t) (st : Settings) :
    Session.Alike N J (s.connecting st) (t.connecting st) := by
  refine ⟨⟨hst.backend.config, rfl, ?_, hst.backend.connected, hst.backend.client⟩,
    ⟨hst.loaded.site.environment, hst.site.file, ?_, hst.site.far⟩⟩
  · simp only [connecting_host, nextHost, hst.site.pools]
  · simp only [connecting_pools, hst.site.pools]

variable [Client κ ω] (h : Client.Blind N J D)

include h

/-! ## Operations on records -/

lemma tracks_ask (c : Call) :
    Tracks N J D Eq (ask c : Action (Session κ ω) c.Answer) (ask c) :=
  tracks_viaClient (h.ask c)

lemma tracks_timed (op : Operation) (key : Value) (start start' : Float) (c : Call)
    {finish finish' : c.Answer → Action (Session κ ω) Outcome}
    (hf : ∀ a, Tracks N J D Same (finish a) (finish' a)) :
    Tracks N J D Same (timed op key start c finish) (timed op key start' c finish') := by
  refine (tracks_ask h c).attempt.bind (fun _ => rfl) ?_
  rintro (e | a) _ rfl
  · exact tracks_failure op key e start start'
  · exact hf a

lemma tracks_read (t key : Value) (fields : FieldSet) :
    Tracks N J D Same (Session.read t key fields : Action (Session κ ω) Outcome)
      (Session.read t key fields) := by
  refine tracks_whenConnected fun st => tracks_now.bind (fun _ => trivial) fun start start' _ => ?_
  refine (alike_given (fun _ => rfl) _).bind (fun _ => rfl) ?_
  rintro names _ rfl
  refine tracks_timed h .read key start start' _ fun answer => ?_
  split
  · exact tracks_elapsed .notFound (fun _ _ => rfl) start start'
  · refine Alike.bind (P := fun _ _ => True) ?_ (fun _ => trivial) fun l l' _ => ?_
    · exact tracks_now.bind (fun _ => trivial) fun _ _ _ => alike_pure trivial
    · refine (alike_given (fun _ => rfl) _).bind (fun _ => rfl) ?_
      rintro row _ rfl
      exact alike_pure rfl

lemma tracks_scan (t key count : Value) (fields : FieldSet) :
    Tracks N J D Same (Session.scan t key count fields : Action (Session κ ω) Outcome)
      (Session.scan t key count fields) := by
  refine tracks_whenConnected fun st => (alike_given (fun _ => rfl) _).bind (fun _ => rfl) ?_
  rintro none _ rfl
  split
  · exact alike_pure rfl
  · refine tracks_now.bind (fun _ => trivial) fun start start' _ => ?_
    refine (alike_given (fun _ => rfl) _).bind (fun _ => rfl) ?_
    rintro names _ rfl
    refine tracks_timed h .scan key start start' _ fun answer => ?_
    refine Alike.bind (P := fun _ _ => True) ?_ (fun _ => trivial) fun l l' _ => ?_
    · exact tracks_now.bind (fun _ => trivial) fun _ _ _ => alike_pure trivial
    · refine (alike_given (fun _ => rfl) _).bind (fun _ => rfl) ?_
      rintro rows _ rfl
      exact alike_pure rfl

lemma tracks_update (t key values : Value) :
    Tracks N J D Same (Session.update t key values : Action (Session κ ω) Outcome)
      (Session.update t key values) := by
  refine tracks_whenConnected fun st => tracks_now.bind (fun _ => trivial) fun start start' _ => ?_
  refine (alike_given (fun _ => rfl) _).bind (fun _ => rfl) ?_
  rintro row _ rfl
  exact tracks_timed h .update key start start' _ fun answer =>
    tracks_settle .update key start start' .replaced true answer

lemma tracks_insert (t key values : Value) :
    Tracks N J D Same (Session.insert t key values : Action (Session κ ω) Outcome)
      (Session.insert t key values) := by
  refine tracks_whenConnected fun st => ?_
  split
  · refine tracks_now.bind (fun _ => trivial) fun start start' _ => ?_
    refine (alike_given (fun _ => rfl) _).bind (fun _ => rfl) ?_
    rintro row _ rfl
    exact tracks_timed h .insert key start start' _ fun answer =>
      tracks_settle .insert key start start' .inserted false answer
  · exact alike_pure rfl

lemma tracks_delete (t key : Value) :
    Tracks N J D Same (Session.delete t key : Action (Session κ ω) Outcome)
      (Session.delete t key) := by
  refine tracks_whenConnected fun st => tracks_now.bind (fun _ => trivial) fun start start' _ => ?_
  exact tracks_timed h .delete key start start' _ fun answer =>
    tracks_settle .delete key start start' .deleted true answer

lemma tracks_perform (r : Request) :
    Tracks N J D Same (r.perform : Action (Session κ ω) Outcome) r.perform := by
  cases r with
  | read t key fields => exact tracks_read h t key fields
  | scan t key count fields => exact tracks_scan h t key count fields
  | update t key values => exact tracks_update h t key values
  | insert t key values => exact tracks_insert h t key values
  | delete t key => exact tracks_delete h t key

/-! ## Connecting and closing -/

lemma tracks_ensureDatabase (db : String) :
    Tracks N J D (fun _ _ => True) (ensureDatabase db : Action (Session κ ω) Unit)
      (ensureDatabase db) := by
  refine (tracks_ask h _).bind (fun _ => rfl) ?_
  rintro names _ rfl
  split
  · exact alike_pure trivial
  · refine (tracks_ask h _).bind (fun _ => rfl) ?_
    rintro created _ rfl
    exact tracks_report _

lemma tracks_ensureTable (db t : String) (durability : Durability) :
    Tracks N J D (fun _ _ => True) (ensureTable db t durability : Action (Session κ ω) Unit)
      (ensureTable db t durability) := by
  refine (tracks_ask h _).bind (fun _ => rfl) ?_
  rintro names _ rfl
  split
  · exact alike_pure trivial
  · refine (tracks_ask h _).bind (fun _ => rfl) ?_
    rintro created _ rfl
    exact tracks_report _

lemma tracks_ensureSchema (st : Settings) :
    Tracks N J D Eq (ensureSchema st : Action (Session κ ω) Unit) (ensureSchema st) :=
  (tracks_ensureDatabase h st.database).bind (fun _ => trivial) fun _ _ _ =>
    (tracks_ensureTable h st.database st.table st.durability).bind (fun _ => trivial) fun _ _ _ =>
      tracks_ask h (.tableWait st.database st.table)

lemma tracks_cleanup : Tracks N J D Eq (cleanup : Action (Session κ ω) Unit) cleanup := by
  have hv : Tracks N J D Eq (viaClient Client.close : Action (Session κ ω) Unit) _ :=
    tracks_viaClient h.close
  have hend (s : Session κ ω) : ((cleanup : Action (Session κ ω) Unit).outcome s).2 =
      { ((viaClient Client.close : Action (Session κ ω) Unit).outcome s).2 with
        connected := false } := by
    rw [outcome, outcome, cleanup]
    cases viaClient Client.close s <;> rfl
  have hdown {s t : Session κ ω} (hst : Session.Alike N J s t) :
      Session.Alike N J { s with connected := false } { t with connected := false } :=
    ⟨⟨hst.backend.config, hst.backend.settings, hst.backend.host, rfl, hst.backend.client⟩,
      hst.site⟩
  constructor
  · intro s hs
    rw [hend]
    exact hv.parted hs
  · intro s t hst
    rw [hend, cleanup, cleanup]
    obtain hd | ⟨a, b, s', t', hs, ht, hr, -⟩ | ⟨e, s', t', hs, ht, hr⟩ := hv.cases hst
    · exact .inl hd
    · rw [hs, ht]
      exact .inr ⟨hdown hr, rfl⟩
    · rw [hs, ht]
      exact .inr ⟨hdown hr, rfl⟩

lemma tracks_bootstrap (st : Settings) :
    Tracks N J D Eq (bootstrap st : Action (Session κ ω) Unit) (bootstrap st) := by
  refine (tracks_ensureSchema h st).attempt.bind (fun _ => rfl) ?_
  rintro (e | a) _ rfl
  · exact (tracks_cleanup h).bind (fun _ => rfl) fun _ _ _ => alike_throw _
  · exact alike_pure rfl

lemma tracks_init : Tracks N J D Eq (init : Action (Session κ ω) Unit) init := by
  -- whoever has parted while connecting stays so through the bootstrap
  have hpart {s : Session κ ω} {st : Settings} (hs : s.resolved = .ok st)
      (hd : D ((Client.connect (s.endpoint st) : Action (Link κ ω) Unit).outcome
        ⟨s.client, s.far⟩).2.near) : D ((init : Action (Session κ ω) Unit).outcome s).2.client := by
    rw [outcome] at hd
    rw [outcome, init_apply, hs]
    dsimp only
    cases hc : Client.connect (s.endpoint st) ⟨s.client, s.far⟩ with
    | error e l =>
      rw [hc] at hd
      exact hd
    | ok a l =>
      rw [hc] at hd
      exact (tracks_bootstrap h st).parted (s := (s.connecting st).opened l) hd
  constructor
  · intro s hs
    cases hr : s.resolved with
    | error e =>
      rw [outcome, init_apply, hr]
      exact hs
    | ok st => exact hpart hr ((h.connect (s.endpoint st)).parted (s := ⟨s.client, s.far⟩) hs)
  · intro s t hst
    cases hr : s.resolved with
    | error e =>
      rw [init_apply, init_apply, hst.resolved, hr]
      exact .inr ⟨hst.loaded, rfl⟩
    | ok st =>
      have hl : Link.Alike N J ⟨s.client, s.far⟩ ⟨t.client, t.far⟩ :=
        ⟨hst.backend.client, hst.site.far⟩
      have he : t.endpoint st = s.endpoint st := by
        simp only [endpoint, nextHost, hst.site.pools]
      have hu := hst.connecting st
      obtain hd | ⟨_, _, l, l', hc, hc', hll, _⟩ | ⟨e, l, l', hc, hc', hll⟩ :=
        (h.connect (s.endpoint st)).cases hl
      · exact .inl (hpart hr hd)
      · rw [outcome, init_apply, init_apply, hst.resolved, hr]
        dsimp only
        rw [he, hc, hc']
        have ho := h.isOpen hll.near
        exact (tracks_bootstrap h st).agree
          ⟨⟨hu.backend.config, rfl, hu.backend.host, ho, hll.near⟩,
            ⟨hu.site.environment, hu.site.file, hu.site.pools, hll.far⟩⟩
      · rw [outcome, init_apply, init_apply, hst.resolved, hr]
        dsimp only
        rw [he, hc, hc']
        exact .inr ⟨⟨⟨hu.backend.config, rfl, hu.backend.host, hu.backend.connected, hll.near⟩,
          ⟨hu.site.environment, hu.site.file, hu.site.pools, hll.far⟩⟩, rfl⟩

end Session

/-- Whatever a backend is told comes to the same for two sessions that are alike, but for latencies,
and leaves them alike, unless the first has parted by then. -/
theorem Command.alike_act [Client κ ω] {N : κ → κ → Prop} {J : ω → ω → Prop} {D : κ → Prop}
    (h : Client.Blind N J D) (c : Command) :
    Session.Tracks N J D Response.Alike (c.act : Action (Session κ ω) Response) c.act := by
  cases c with
  | init =>
    exact (Session.tracks_init h).bind (fun _ => rfl) fun _ _ _ => Action.alike_pure rfl
  | cleanup =>
    exact (Session.tracks_cleanup h).bind (fun _ => rfl) fun _ _ _ => Action.alike_pure rfl
  | info =>
    refine Session.tracks_info.bind (fun _ => rfl) ?_
    rintro i _ rfl
    exact Action.alike_pure rfl
  | request r =>
    exact (Session.tracks_perform h r).bind (fun _ => rfl) fun _ _ ho => Action.alike_pure ho

/-! ## Worlds -/

section Worlds

variable {N : Nat → κ → κ → Prop} {J : ω → ω → Prop} {D : Nat → κ → Prop}

/-- Two worlds are alike: they have the same backends at the same site, but for what `N` says of
each client and `J` of what lies beyond them. -/
structure World.Alike (N : Nat → κ → κ → Prop) (J : ω → ω → Prop) (w w' : World κ ω) : Prop where
  length : w'.backends.length = w.backends.length
  backends : ∀ i (b b' : Backend κ), w.backends[i]? = some b → w'.backends[i]? = some b' →
    b.Alike (N i) b'
  site : w.site.Alike J w'.site

/-- Two episodes are alike: the same backend was told the same, from states that are alike to states
that are alike, and what came of it differs in latencies at most. -/
structure Episode.Alike (N : Nat → κ → κ → Prop) (J : ω → ω → Prop) (e e' : Episode κ ω) :
    Prop where
  backend : e'.backend = e.backend
  command : e'.command = e.command
  before : e.before.Alike (N e.backend) J e'.before
  result : (∃ r r', e.result = .ok r ∧ e'.result = .ok r' ∧ r.Alike r') ∨
    ∃ x, e.result = .error x ∧ e'.result = .error x
  after : e.after.Alike (N e.backend) J e'.after

/-- The turn does the same to clients and to what lies beyond them if they are alike. -/
def Turn.Fair (N : Nat → κ → κ → Prop) (J : ω → ω → Prop) (w : World κ ω) : Turn κ ω → Prop
  | .join _ c => N w.backends.length c c
  | .equip i f => ∀ c c', N i c c' → N i (f c) (f c')
  | .renew f => ∀ a b, J a b → J (f a) (f b)
  | .tell .. | .surround .. => True

namespace World.Alike

variable {w w' : World κ ω} (h : w.Alike N J w')

include h

lemma session {i : Nat} {s : Session κ ω} (hs : w.session? i = some s) :
    ∃ s', w'.session? i = some s' ∧ s.Alike (N i) J s' := by
  obtain ⟨hb, hsite⟩ := session?_eq_some.1 hs
  obtain ⟨hi, -⟩ := List.getElem?_eq_some_iff.1 hb
  have hi' : i < w'.backends.length := h.length ▸ hi
  have hb' : w'.backends[i]? = some w'.backends[i] := List.getElem?_eq_getElem hi'
  exact ⟨⟨w'.backends[i], w'.site⟩, session?_eq_some.2 ⟨hb', rfl⟩, h.backends i _ _ hb hb',
    hsite ▸ h.site⟩

lemma session_none {i : Nat} (hs : w.session? i = none) : w'.session? i = none := by
  rw [session?, Option.map_eq_none_iff, List.getElem?_eq_none_iff] at hs ⊢
  rw [h.length]
  exact hs

lemma absorb {i : Nat} {t t' : Session κ ω} (ht : t.Alike (N i) J t') :
    (w.absorb i t).Alike N J (w'.absorb i t') := by
  refine ⟨?_, fun j b b' hb hb' => ?_, ht.site⟩
  · simp only [World.absorb, List.length_set, h.length]
  · simp only [World.absorb, List.getElem?_set] at hb hb'
    by_cases hj : i = j
    · subst hj
      rw [if_pos rfl] at hb hb'
      split at hb <;> split at hb' <;> cases hb <;> cases hb'
      exact ht.backend
    · rw [if_neg hj] at hb hb'
      exact h.backends j b b' hb hb'

lemma add {c : κ} (hc : N w.backends.length c c) (config : Properties) :
    (w.add (.new config c)).Alike N J (w'.add (.new config c)) := by
  refine ⟨?_, fun j b b' hb hb' => ?_, h.site⟩
  · simp only [World.add, List.length_append, h.length]
  · simp only [World.add, List.getElem?_append, h.length] at hb hb'
    split at hb
    next hj =>
      rw [if_pos hj] at hb'
      exact h.backends j b b' hb hb'
    next hj =>
      rw [if_neg hj] at hb'
      cases hb.symm.trans hb'
      obtain ⟨hlt, rfl⟩ := List.getElem?_eq_some_iff.1 hb
      have hz : j = w.backends.length := by simp only [List.length_singleton] at hlt; omega
      subst hz
      simp only [Nat.sub_self, List.getElem_cons_zero]
      exact ⟨rfl, rfl, rfl, rfl, hc⟩

lemma equip {i : Nat} {f : κ → κ} (hf : ∀ c c', N i c c' → N i (f c) (f c')) :
    Alike N J { w with backends := w.backends.modify i fun b => { b with client := f b.client } }
      { w' with backends := w'.backends.modify i fun b => { b with client := f b.client } } := by
  refine ⟨?_, fun j b b' hb hb' => ?_, h.site⟩
  · simp only [List.length_modify, h.length]
  · simp only [List.getElem?_modify] at hb hb'
    obtain ⟨c, hc, rfl⟩ := Option.map_eq_some_iff.1 hb
    obtain ⟨c', hc', rfl⟩ := Option.map_eq_some_iff.1 hb'
    have hcc := h.backends j c c' hc hc'
    by_cases hj : i = j
    · subst hj
      rw [if_pos rfl, if_pos rfl]
      exact ⟨hcc.config, hcc.settings, hcc.host, hcc.connected, hf _ _ hcc.client⟩
    · rw [if_neg hj, if_neg hj]
      exact hcc

variable [Client κ ω]

/-- Worlds that are alike are alike after the same turn, unless the first has parted in it. -/
lemma step (hN : ∀ i, Client.Blind (N i) J (D i)) {x : Turn κ ω} (hx : x.Fair N J w)
    (hD : ∀ e, w.episode? x = some e → ¬D e.backend e.after.client) :
    (w.step x).Alike N J (w'.step x) ∧
      List.Forall₂ (Episode.Alike N J) (w.episode? x).toList (w'.episode? x).toList := by
  cases x with
  | join config c => exact ⟨h.add hx config, .nil⟩
  | equip i f => exact ⟨h.equip hx, .nil⟩
  | renew f =>
    exact ⟨⟨h.length, h.backends, h.site.environment, h.site.file, h.site.pools,
      hx _ _ h.site.far⟩, .nil⟩
  | surround environment file =>
    exact ⟨⟨h.length, h.backends, rfl, rfl, h.site.pools, h.site.far⟩, .nil⟩
  | tell i c =>
    cases hs : w.session? i with
    | none =>
      rw [step_tell_of_none hs, step_tell_of_none (h.session_none hs), episode?, episode?, hs,
        h.session_none hs]
      exact ⟨h, .nil⟩
    | some s =>
      obtain ⟨s', hs', hss⟩ := h.session hs
      have hnot := hD (c.episode i s) (by rw [episode?, hs]; rfl)
      rw [step_tell hs, step_tell hs', episode?, episode?, hs, hs', Option.map_some,
        Option.map_some, Option.toList_some, Option.toList_some]
      rw [Command.episode] at hnot ⊢
      rw [Command.episode]
      obtain hd | ⟨a, b, t, t', ht, ht', hr, hab⟩ | ⟨x, t, t', ht, ht', hr⟩ :=
        (c.alike_act (hN i)).cases hss
      · exact absurd hd hnot
      · simp only [Action.outcome, ht, ht']
        exact ⟨h.absorb hr, .cons ⟨rfl, rfl, hss, .inl ⟨a, b, rfl, rfl, hab⟩, hr⟩ .nil⟩
      · simp only [Action.outcome, ht, ht']
        exact ⟨h.absorb hr, .cons ⟨rfl, rfl, hss, .inr ⟨x, rfl, rfl⟩, hr⟩ .nil⟩

/-- Worlds that are alike run alike, as long as the first does not part from the second. -/
theorem run (hN : ∀ i, Client.Blind (N i) J (D i)) {I : World κ ω → Prop} {P : Turn κ ω → Prop}
    (hI : ∀ w x, I w → P x → x.Fair N J w ∧ I (w.step x)) (hw : I w) {xs : List (Turn κ ω)}
    (hxs : ∀ x ∈ xs, P x) (hD : ∀ e ∈ World.run xs w, ¬D e.backend e.after.client) :
    (w.after xs).Alike N J (w'.after xs) ∧
      List.Forall₂ (Episode.Alike N J) (World.run xs w) (World.run xs w') := by
  induction xs generalizing w w' with
  | nil => exact ⟨h, .nil⟩
  | cons x xs ih =>
    obtain ⟨hx, hxs⟩ := List.forall_mem_cons.1 hxs
    obtain ⟨hfair, hnext⟩ := hI w x hw hx
    obtain ⟨hs, he⟩ := h.step hN hfair fun e he =>
      hD e (List.mem_append_left _ (Option.mem_toList.2 he))
    obtain ⟨ha, hr⟩ := ih hs hnext hxs fun e he => hD e (List.mem_append_right _ he)
    exact ⟨ha, List.rel_append he hr⟩

end World.Alike

end Worlds

end CrudBench
