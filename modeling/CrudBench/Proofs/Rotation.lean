import CrudBench.Proofs.HostPool
import CrudBench.Proofs.Masking
import CrudBench.Proofs.Server.Live
import CrudBench.Proofs.Store.Effect
import CrudBench.Proofs.World

/-!
# Hosts in turn

Backends that are initialised with the same list of hosts connect to these hosts one after the
other, around the list, whichever backend it is and however connecting and the bootstrap end
(`World.inits_in_turn`). What is initialised with other hosts, or has no settings at all, does not
count.
-/

namespace CrudBench

/-! ## Clients that dial -/

/-- What lies beyond a client tells where connections were tried, one after the other. Only
connecting adds to that. -/
class Dials (κ : Type) {ω : outParam Type} [Client κ ω] where
  /-- Where connections were tried. -/
  dialled : ω → List Endpoint
  connect : ∀ (e : Endpoint) (l : Link κ ω),
    dialled ((Client.connect e : Action (Link κ ω) Unit).outcome l).2.far = dialled l.far ++ [e]
  close : ∀ l : Link κ ω,
    dialled ((Client.close : Action (Link κ ω) Unit).outcome l).2.far = dialled l.far
  ask : ∀ (c : Call) (l : Link κ ω),
    dialled ((Client.ask c : Action (Link κ ω) c.Answer).outcome l).2.far = dialled l.far

/-- Where an event tells of a connection. -/
def StoreEvent.dialled? : StoreEvent → Option Endpoint
  | connect e => some e
  | call _ => none

instance : Dials StoreClient where
  dialled w := w.trace.filterMap StoreEvent.dialled?
  connect e l := by
    show List.filterMap _ ((StoreClient.connect e).outcome l).2.far.trace = _
    rw [Action.outcome, StoreClient.connect_apply]
    cases l.near.refuses <;> exact List.filterMap_append
  close l := by
    show List.filterMap _ (StoreClient.close.outcome l).2.far.trace = _
    rw [Action.outcome, StoreClient.close_apply]
    cases l.near.isOpen <;> rfl
  ask c l := by
    obtain ⟨dbs, h, -⟩ := StoreClient.ask_ends c l
    show List.filterMap _ ((StoreClient.ask c).outcome l).2.far.trace = _
    rw [h]
    exact List.filterMap_append.trans (List.append_nil _)

/-- Where an event tells of a connection. -/
def WireEvent.dialled? : WireEvent → Option Endpoint
  | connect (.str host) (.int port) (.int timeout) => some ⟨host, port, timeout⟩
  | _ => none

lemma WireClient.sending_dialled (es : List Endpoint) :
    Sending (fun l => l.far.trace.filterMap WireEvent.dialled? = es) (fun _ => True)
      (fun _ => True) where
  send t := by
    refine Action.keeps_get.bind fun l hl => ?_
    split
    · split
      · refine Action.Keeps.bind (P := fun _ => True) (fun l' hl' => ?_) fun _ _ => ?_
        · exact ⟨(List.filterMap_append.trans (List.append_nil _)).trans hl', trivial⟩
        · refine Action.keeps_get.bind fun l' _ => ?_
          split
          · exact Action.keeps_pure trivial
          · exact Action.Keeps.bind (P := fun _ => True) (fun _ h => ⟨h, trivial⟩) fun _ _ =>
              Action.keeps_pure trivial
      · exact Action.keeps_pure trivial
    · exact Action.keeps_pure trivial
  failure _ := trivial
  unbuilt := trivial
  uncreated := trivial
  misfit _ := trivial

instance : Dials WireClient where
  dialled w := w.trace.filterMap WireEvent.dialled?
  connect e l := by
    show List.filterMap _ ((WireClient.connect _ _ _).outcome l).2.far.trace = _
    simp only [WireClient.connect, WireClient.record, Action.outcome, Action.bind_apply,
      Action.modify_apply, Action.get_apply]
    cases l.far.connectError <;> exact List.filterMap_append
  close l := by
    show List.filterMap _ (WireClient.close.outcome l).2.far.trace = _
    simp only [WireClient.close, WireClient.record, Action.outcome, Action.bind_apply,
      Action.get_apply]
    cases l.near.isOpen with
    | false => rfl
    | true =>
      have hn : (l.far.trace ++ [WireEvent.close]).filterMap WireEvent.dialled? =
          l.far.trace.filterMap WireEvent.dialled? :=
        List.filterMap_append.trans (List.append_nil _)
      cases hc : l.far.closeError <;> simpa [hc] using hn
  ask c l := ((WireClient.sending_dialled _).keeps_ask c).outcome rfl

variable {κ ω : Type} [Client κ ω] [Dials κ]

/-- Where a session and those that share its site have tried to connect. -/
def Session.dialled (s : Session κ ω) : List Endpoint := Dials.dialled κ s.far

/-! ## One episode -/

namespace Session

/-- The second session has the settings and the host of the first, and no host was taken and no
connection tried since. -/
structure Stays (s t : Session κ ω) : Prop where
  settings : t.settings = s.settings
  host : t.host = s.host
  pools : t.pools = s.pools
  dialled : t.dialled = s.dialled

lemma Stays.refl (s : Session κ ω) : s.Stays s := ⟨rfl, rfl, rfl, rfl⟩

lemma Stays.stable (s : Session κ ω) : Stable s.Stays fun _ => True where
  ticked ht := ⟨ht.settings, ht.host, ht.pools, ht.dialled⟩
  logged ht _ := ⟨ht.settings, ht.host, ht.pools, ht.dialled⟩
  ask c := keeps_viaClient (J := fun l => Dials.dialled κ l.far = s.dialled)
    (Action.keeps_of_outcome fun l hl => (Dials.ask c l).trans hl) (fun _ ht => ht.dialled)
    fun _ _ ht hl => ⟨ht.settings, ht.host, ht.pools, hl⟩
  misfit _ := trivial
  rejected _ _ := trivial

lemma Stays.closed (s : Session κ ω) :
    Action.Keeps s.Stays (fun _ => True) (fun _ => True) cleanup := by
  refine keeps_cleanup (keeps_viaClient (J := fun l => Dials.dialled κ l.far = s.dialled) ?_ ?_ ?_)
    fun _ ht => ⟨ht.settings, ht.host, ht.pools, ht.dialled⟩
  · exact Action.keeps_of_outcome fun l hl => (Dials.close l).trans hl
  · exact fun _ ht => ht.dialled
  · exact fun _ _ ht hl => ⟨ht.settings, ht.host, ht.pools, hl⟩

/-- The second session is where an initialisation of the first has ended that took the next host. -/
structure Dialled (s : Session κ ω) (st : Settings) (t : Session κ ω) : Prop where
  settings : t.settings = some st
  host : t.host = some (s.nextHost st)
  pools : t.pools = (s.pools.takeShared st.hosts).2
  dialled : t.dialled = s.dialled ++ [s.endpoint st]

/-- A session that has settings dials once, whatever comes of it. -/
lemma dialled_init {s : Session κ ω} {st : Settings} (h : s.resolved = .ok st) :
    s.Dialled st ((init : Action (Session κ ω) Unit).outcome s).2 := by
  have hd : Dials.dialled κ (((Client.connect (s.endpoint st) :
      Action (Link κ ω) Unit).outcome ⟨s.client, s.far⟩).2.far) = s.dialled ++ [s.endpoint st] :=
    Dials.connect (s.endpoint st) ⟨s.client, s.far⟩
  rw [Action.outcome] at hd ⊢
  rw [init_apply, h]
  dsimp only
  cases hx : Client.connect (s.endpoint st) ⟨s.client, s.far⟩ with
  | error e l =>
    rw [hx] at hd
    exact ⟨rfl, rfl, rfl, hd⟩
  | ok a l =>
    rw [hx] at hd
    -- from here on there are queries only, and perhaps the connection is closed
    have hk := keeps_bootstrap
      ((Stays.stable ((s.connecting st).opened l)).keeps_ensureSchema st) (Stays.closed _)
    have ht := hk.outcome (Stays.refl _)
    exact ⟨ht.settings, ht.host, ht.pools, ht.dialled.trans hd⟩

end Session

/-- Whatever the backend tells about itself names this host, and it tells about itself if the names
in its configuration are texts. -/
structure Backend.Reports (b : Backend κ) (host : String) : Prop where
  host : ∀ i, b.info = .ok i → i.host = some (some host)
  tells : (∀ x ∈ b.config.entries, ∃ name, x.1 = .str name) → ∃ i, b.info = .ok i

lemma Backend.reports_of_host {b : Backend κ} {host : String} (h : b.host = some host) :
    b.Reports host where
  host i hi := by
    simp only [info, bind, Except.bind] at hi
    cases hm : b.config.masked with
    | error e =>
      rw [hm] at hi
      cases hi
    | ok config =>
      rw [hm] at hi
      cases hi
      exact congrArg some h
  tells ht := by
    rw [info, Properties.masked_of_named ht]
    exact ⟨_, rfl⟩

namespace Episode

/-- The hosts that an initialisation takes one of: those of its settings. Nothing else takes a host.
-/
def hosts? (e : Episode κ ω) : Option HostList :=
  match e.command with
  | .init => e.before.resolved.toOption.map (·.hosts)
  | _ => none

/-- An initialisation comes in turn after hosts of these lists were taken. With settings, it takes
the host whose turn it is by the number of times that the same list came up, keeps it, tells it, and
connects there. Without settings nothing is taken, and everything stays as it is. -/
structure InTurn (taken : List HostList) (e : Episode κ ω) : Prop where
  accepted : ∀ st, e.before.resolved = .ok st → ∃ host,
    st.hosts.names[taken.count st.hosts % st.hosts.names.length]? = some host ∧
      e.after.settings = some st ∧ e.after.host = some host ∧ e.after.toBackend.Reports host ∧
      e.after.dialled = e.before.dialled ++ [⟨host, st.port, st.timeout⟩]
  invalid : ∀ x, e.before.resolved = .error x →
    e.result = .error (.connection (.configuration x)) ∧ e.after.toBackend = e.before.toBackend ∧
      e.after.pools = e.before.pools ∧ e.after.far = e.before.far

end Episode

variable {s : Session κ ω}

/-- An episode takes a host from the pool of its hosts, if it takes one, and from no other. -/
lemma Command.turns_episode (hs : s.pools.Sound) (c : Command) (i : Nat) :
    (c.episode i s).after.pools.Sound ∧ ∀ hosts, (c.episode i s).after.pools.turns hosts =
      s.pools.turns hosts + if (c.episode i s).hosts? = some hosts then 1 else 0 := by
  have hstay (hp : (c.episode i s).after.pools = s.pools) (hn : (c.episode i s).hosts? = none) :
      (c.episode i s).after.pools.Sound ∧ ∀ hosts, (c.episode i s).after.pools.turns hosts =
        s.pools.turns hosts + if (c.episode i s).hosts? = some hosts then 1 else 0 := by
    rw [hp, hn]
    exact ⟨hs, fun hosts => rfl⟩
  by_cases hc : c = .init
  · subst hc
    have hh : (Command.init.episode i s).hosts? = s.resolved.toOption.map (·.hosts) := rfl
    cases hr : s.resolved with
    | error x =>
      refine hstay ?_ (by rw [hh, hr]; rfl)
      rw [episode_init, Action.outcome, Session.init_apply, hr]
      rfl
    | ok st =>
      obtain ⟨-, hsound, hturns⟩ := hs.takeShared st.hosts
      rw [hh, hr, episode_init]
      dsimp only
      rw [(Session.dialled_init hr).pools]
      refine ⟨hsound, fun hosts => (hturns hosts).trans ?_⟩
      simp only [Except.toOption, Option.map_some, Option.some.injEq, eq_comm]
  · refine hstay ?_ ?_
    · have hk := (Session.Stays.stable s).keeps_act (Session.Stays.closed s) hc
      exact (hk.outcome (.refl s)).pools
    · rw [Episode.hosts?, episode]
      cases c <;> first | rfl | exact absurd rfl hc

/-- An initialisation takes the host whose turn it is in the pool of its hosts. -/
lemma Command.inTurn_init (hs : s.pools.Sound) {taken : List HostList}
    (ht : ∀ hosts, s.pools.turns hosts = taken.count hosts) (i : Nat) :
    (Command.init.episode i s).InTurn taken := by
  rw [episode_init]
  constructor
  · intro st (hr : s.resolved = .ok st)
    have hd := Session.dialled_init hr
    have hnext : s.nextHost st = st.hosts.cycle (taken.count st.hosts) := by
      rw [← ht]
      exact (hs.takeShared st.hosts).1
    refine ⟨s.nextHost st, ?_, hd.settings, hd.host, Backend.reports_of_host hd.host, hd.dialled⟩
    rw [hnext, HostList.cycle]
    exact List.getElem?_eq_getElem _
  · intro x (hr : s.resolved = .error x)
    have hx : (Session.init : Action (Session κ ω) Unit) s =
        .error (.connection (.configuration x)) s.loaded := by
      rw [Session.init_apply, hr]
    rw [Action.outcome, hx]
    exact ⟨rfl, rfl, rfl, rfl⟩

/-! ## Whole runs -/

namespace World

/-- After turns, as many hosts were taken from a pool as episodes took one of its hosts. -/
lemma turns_after {w : World κ ω} (hw : w.site.pools.Sound) (xs : List (Turn κ ω)) :
    (w.after xs).site.pools.Sound ∧ ∀ hosts, (w.after xs).site.pools.turns hosts =
      w.site.pools.turns hosts + ((run xs w).filterMap Episode.hosts?).count hosts := by
  induction xs generalizing w with
  | nil => exact ⟨hw, fun _ => rfl⟩
  | cons x xs ih =>
    have hstep : (w.step x).site.pools.Sound ∧ ∀ hosts, (w.step x).site.pools.turns hosts =
        w.site.pools.turns hosts +
          ((w.episode? x).toList.filterMap Episode.hosts?).count hosts := by
      cases x with
      | tell i c =>
        cases hs : w.session? i with
        | none =>
          rw [step_tell_of_none hs, episode?, hs]
          exact ⟨hw, fun _ => rfl⟩
        | some s =>
          have hsite : w.site = s.toSite := (session?_eq_some.1 hs).2
          have ht := Command.turns_episode (s := s) (hsite ▸ hw) c i
          rw [step_tell hs, episode?, hs, hsite]
          refine ⟨ht.1, fun hosts => (ht.2 hosts).trans ?_⟩
          rw [Option.map_some, Option.toList_some, List.filterMap_cons]
          cases hh : (c.episode i s).hosts? with
          | none => rfl
          | some own =>
            simp only [List.filterMap_nil, List.count_singleton, Option.some.injEq, beq_iff_eq]
      | _ => exact ⟨hw, fun _ => rfl⟩
    obtain ⟨hsound, hturns⟩ := ih hstep.1
    refine ⟨hsound, fun hosts => ?_⟩
    rw [run, List.filterMap_append, List.count_append, ← Nat.add_assoc, ← hstep.2]
    exact hturns hosts

/-- In a world that starts without backends and without pools, every initialisation comes in turn
after those before it, whoever it was that was initialised, with which configuration, and whatever
came of it. -/
theorem inits_in_turn (environment : Environment) (file : VariablesFile) (clock : Clock) (far : ω)
    (xs : List (Turn κ ω)) {before after : List (Episode κ ω)} {e : Episode κ ω}
    (h : run xs (.new environment file clock far) = before ++ e :: after)
    (he : e.command = .init) : e.InTurn (before.filterMap Episode.hosts?) := by
  obtain ⟨ys, -, i, c, s, -, rfl, hs, rfl⟩ := run_eq_append h
  have hw : (new environment file clock far : World κ ω).site.pools.Sound :=
    HostPools.sound_empty
  obtain ⟨hsound, hturns⟩ := turns_after hw ys
  rw [(session?_eq_some.1 hs).2] at hsound hturns
  cases he
  refine Command.inTurn_init hsound (fun hosts => (hturns hosts).trans ?_) i
  exact Nat.zero_add _

/-- Three spellings of two hosts, the hosts the other way round, and a configuration without a
usable port: the fourth initialisation that counts for the two hosts starts over. -/
theorem inits_in_turn_spelled :
    let xs : List (Turn StoreClient Store) := [
      .join (.ofFields [("host", .str " db1,,db2 ")]) (.new false []),
      .join (.ofFields [("rethinkdb.host", .str "db1,db2")]) (.new true []),
      .join (.ofFields [("host", .str "db2,db1")]) (.new false []),
      .join (.ofFields [("host", .str "db1,db2"), ("port", .str "none")]) (.new false []),
      .tell 0 .init, .tell 1 .init, .tell 2 .init, .tell 3 .init, .tell 0 .init]
    let w : World StoreClient Store := .new .empty ⟨[], []⟩ (.new [1]) ⟨.empty, []⟩
    ∃ before e after, run xs w = before ++ e :: after ∧ e.command = .init ∧
      e.InTurn (before.filterMap Episode.hosts?) ∧
      e.after.dialled.map (·.host) = ["db1", "db2", "db2", "db1"] := by
  intro xs w
  have hfifth : ((run xs w)[4]?.any fun e => e.command.isInit &&
      e.after.dialled.map (·.host) == ["db1", "db2", "db2", "db1"]) = true := by
    decide +kernel
  have hturn := @inits_in_turn StoreClient Store _ _ .empty ⟨[], []⟩ (.new [1]) ⟨.empty, []⟩ xs
  change ∀ {before after e}, run xs w = before ++ e :: after → _ at hturn
  generalize run xs w = es at hfifth hturn ⊢
  obtain ⟨e, hfound, he⟩ := (Option.any_eq_true ..).1 hfifth
  rw [Bool.and_eq_true, beq_iff_eq] at he
  obtain ⟨hinit, hdialled⟩ := he
  obtain ⟨hlt, rfl⟩ := List.getElem?_eq_some_iff.1 hfound
  have hes : es = es.take 4 ++ es[4] :: es.drop 5 := by
    rw [List.getElem_cons_drop, List.take_append_drop]
  have hinit := Command.eq_init hinit
  exact ⟨_, _, _, hes, hinit, hturn hes hinit, hdialled⟩

end World

end CrudBench
