import CrudBench.Proofs.Store.Bootstrap

/-!
# Processes over one store

Any number of processes share a store. Each of them makes its schema ready call by call, which comes
to the same as doing it at once if it is left alone (`Cluster.Sound.alone`), and carries out
requests once that is done. Their moves interleave in any order. No lock keeps one from acting on a
listing that others have made untrue. Still no bootstrap fails, what one has made ready stays,
nothing that was there is lost to a bootstrap, and nothing is created twice
(`Cluster.safe_of_starting`).
-/

namespace CrudBench

/-- A backend in a process of its own, and how far its bootstrap has got, or how it has failed. -/
structure Process where
  session : Session StoreClient Store
  progress : Except Fault Stage

/-- What a process can do next: a call of its bootstrap, or a request once that is done. -/
inductive Move where
  | bootstrap
  | request (r : Request)

/-- The move is a call of a bootstrap. -/
def Move.isBootstrap : Move → Bool
  | bootstrap => true
  | request _ => false

/-- Processes and the store that they share. -/
structure Cluster where
  store : Store
  processes : List Process

/-- A move as it is seen from outside: the databases before and after it, and the call if it was one
of a bootstrap. -/
structure Event where
  before : Databases
  exchange : Option Exchange
  after : Databases

/-- What a move has created, by what was answered. -/
def Event.creation? (e : Event) : Option Creation := e.exchange.bind Exchange.creation?

namespace Process

/-- The process as it finds the store. -/
def finding (p : Process) (w : Store) : Process := { p with session := { p.session with far := w } }

/-- Makes a move, and tells which call of the bootstrap it was. -/
def move (p : Process) : Move → Process × Option Exchange
  | .bootstrap =>
    match p.session.settings, p.progress with
    | some st, .ok x =>
      match Session.advance st x p.session with
      | .ok (y, o) s => (⟨s, .ok y⟩, o)
      | .error e s => (⟨s, .error e⟩, none)
    | _, _ => (p, none)
  | .request r =>
    match p.progress with
    | .ok .ready =>
      match r.perform p.session with
      | .ok _ s => (⟨s, .ok .ready⟩, none)
      | .error _ s => (⟨s, .ok .ready⟩, none)
    | _ => (p, none)

/-- The databases as the process knows them. -/
def databases (p : Process) : Databases := p.session.far.databases

/-- The process is about to begin its bootstrap, or has been initialised before and finds its
database and its table there. -/
structure Starting (dbs : Databases) (p : Process) : Prop where
  unarmed : p.session.client.armed = none
  start : p.progress = .ok .listDatabases ∨ p.progress = .ok .ready ∧
    ∀ st, p.session.settings = some st → (Creation.table st.database st.table).In dbs

/-- No failure is armed, the bootstrap has not failed, and what it relies on is there. -/
structure Sound (dbs : Databases) (p : Process) : Prop where
  unarmed : p.session.client.armed = none
  holds : ∃ x, p.progress = .ok x ∧ ∀ st, p.session.settings = some st → x.Holds st dbs

lemma Starting.sound {dbs : Databases} {p : Process} (h : p.Starting dbs) : p.Sound dbs := by
  refine ⟨h.unarmed, ?_⟩
  rcases h.start with hp | ⟨hp, ht⟩
  · exact ⟨_, hp, fun _ _ => trivial⟩
  · exact ⟨_, hp, ht⟩

/-- A process stays sound if databases grow. -/
lemma Sound.grow {dbs dbs' : Databases} {p : Process} (h : p.Sound dbs) (hg : dbs.Grows dbs') :
    p.Sound dbs' := by
  obtain ⟨x, hx, hh⟩ := h.holds
  exact ⟨h.unarmed, x, hx, fun st hs => (hh st hs).grow hg⟩

/-- What is wanted of a move: the process stays sound and keeps its settings, the databases grow,
and a call of a bootstrap harms nothing. -/
structure Safe (p q : Process) (o : Option Exchange) : Prop where
  sound : q.Sound q.databases
  settings : q.session.settings = p.session.settings
  grows : p.databases.Grows q.databases
  harmless : ∀ x, o = some x → x.Harmless p.databases q.databases

variable {p : Process}

lemma safe_self (h : p.Sound p.databases) : Safe p p none := ⟨h, rfl, .refl _, nofun⟩

/-- A bootstrap that is not done makes a safe move, and comes closer to being done. -/
lemma move_bootstrap (h : p.Sound p.databases) {st : Settings} {x : Stage}
    (hs : p.session.settings = some st) (hp : p.progress = .ok x) (hx : x ≠ .ready) :
    ∃ q o y, p.move .bootstrap = (q, some o) ∧ Safe p q (some o) ∧ q.progress = .ok y ∧
      y.left < x.left := by
  obtain ⟨z, hz, hh⟩ := h.holds
  cases hp.symm.trans hz
  obtain ⟨y, o, t, ht, hb, ho, hy, hl⟩ := Session.advance_apply h.unarmed (hh st hs) hx
  have hset : t.settings = p.session.settings := congrArg Backend.settings hb
  have harm : t.client.armed = none := by
    rw [hb]
    exact h.unarmed
  refine ⟨⟨t, .ok y⟩, o, y, by simp only [move, hs, hp, ht], ⟨⟨harm, y, rfl, ?_⟩, hset, ?_, ?_⟩,
    rfl, hl⟩
  · intro st' hs'
    cases (hset.trans hs).symm.trans hs'
    exact hy
  · exact ho.kept.grows
  · intro z hz
    cases hz
    exact ho

/-- A bootstrap that is done has nothing to do. -/
lemma move_bootstrap_of_ready (hp : p.progress = .ok .ready) : p.move .bootstrap = (p, none) := by
  obtain ⟨s, progress⟩ := p
  cases hp
  cases hs : s.settings with
  | none => simp only [move, hs]
  | some st =>
    simp only [move, hs]
    rfl

/-- A bootstrap that has not failed makes its next call, if there is one. -/
lemma move_advance (h : p.Sound p.databases) {st : Settings} {x : Stage}
    (hs : p.session.settings = some st) (hp : p.progress = .ok x) :
    ∃ y o t, Session.advance st x p.session = .ok (y, o) t ∧
      p.move .bootstrap = (⟨t, .ok y⟩, o) := by
  obtain ⟨z, hz, hh⟩ := h.holds
  cases hp.symm.trans hz
  by_cases hr : x = .ready
  · subst hr
    exact ⟨.ready, none, p.session, rfl, by rw [move_bootstrap_of_ready hp, ← hp]⟩
  · obtain ⟨y, o, t, ht, -⟩ := Session.advance_apply h.unarmed (hh st hs) hr
    exact ⟨y, some o, t, ht, by simp only [move, hs, hp, ht]⟩

/-- A request is a safe move. -/
lemma move_request (h : p.Sound p.databases) (r : Request) :
    ∃ q, p.move (.request r) = (q, none) ∧ Safe p q none ∧ q.progress = p.progress := by
  obtain ⟨x, hx, hh⟩ := h.holds
  by_cases hr : x = .ready
  · subst hr
    have hg : p.session.Grown p.session := ⟨rfl, h.unarmed, .refl _⟩
    have hk := (Session.Grown.stable p.session).keeps_perform r p.session hg
    have hsafe (t : Session StoreClient Store) (ht : p.session.Grown t) :
        Safe p ⟨t, .ok .ready⟩ none := by
      refine ⟨⟨ht.link.unarmed, _, rfl, fun st hs => ?_⟩, ht.settings, ht.link.grows, nofun⟩
      exact (hh st (ht.settings.symm.trans hs)).grow ht.link.grows
    cases hp : r.perform p.session with
    | ok o t | error o t =>
      rw [hp] at hk
      exact ⟨⟨t, .ok .ready⟩, by simp only [move, hx, hp], hsafe t hk.1, hx.symm⟩
  · refine ⟨p, ?_, safe_self h, rfl⟩
    cases x with
    | ready => exact absurd rfl hr
    | _ => simp only [move, hx]

/-- Every move is safe. -/
lemma move_safe (h : p.Sound p.databases) (m : Move) : Safe p (p.move m).1 (p.move m).2 := by
  cases m with
  | request r =>
    obtain ⟨q, hq, hs, -⟩ := move_request h r
    rw [hq]
    exact hs
  | bootstrap =>
    obtain ⟨x, hx, hh⟩ := h.holds
    cases hs : p.session.settings with
    | none =>
      have hm : p.move .bootstrap = (p, none) := by simp only [move, hs]
      rw [hm]
      exact safe_self h
    | some st =>
      by_cases hr : x = .ready
      · subst hr
        rw [move_bootstrap_of_ready hx]
        exact safe_self h
      · obtain ⟨q, o, y, hq, hsafe, -⟩ := move_bootstrap h hs hx hr
        rw [hq]
        exact hsafe

/-- A move brings a bootstrap forward if it is a call of it. -/
lemma move_progress (h : p.Sound p.databases) {st : Settings} {x : Stage}
    (hs : p.session.settings = some st) (hx : p.progress = .ok x) (m : Move) :
    ∃ y, (p.move m).1.session.settings = some st ∧ (p.move m).1.progress = .ok y ∧
      y.left ≤ x.left - if m.isBootstrap then 1 else 0 := by
  cases m with
  | request r =>
    obtain ⟨q, hq, hsafe, hp⟩ := move_request h r
    rw [hq]
    exact ⟨x, hsafe.settings.trans hs, hp.trans hx, Nat.le_refl _⟩
  | bootstrap =>
    by_cases hr : x = .ready
    · subst hr
      rw [move_bootstrap_of_ready hx]
      exact ⟨_, hs, hx, Nat.zero_le _⟩
    · obtain ⟨q, o, y, hq, hsafe, hy, hl⟩ := move_bootstrap h hs hx hr
      rw [hq]
      exact ⟨y, hsafe.settings.trans hs, hy, Nat.le_pred_of_lt hl⟩

end Process

namespace Cluster

/-- The databases of the store. -/
def databases (c : Cluster) : Databases := c.store.databases

/-- Lets the process at a position make a move, and tells which call of its bootstrap it was. -/
def move (c : Cluster) (m : Nat × Move) : Cluster × Option Exchange :=
  match c.processes[m.1]? with
  | none => (c, none)
  | some p =>
    let (q, o) := (p.finding c.store).move m.2
    (⟨q.session.far, c.processes.set m.1 q⟩, o)

/-- Lets processes make moves, one after the other. -/
def after (c : Cluster) (ms : List (Nat × Move)) : Cluster := ms.foldl (fun c m => (c.move m).1) c

/-- What is seen of the moves. -/
def run : List (Nat × Move) → Cluster → List Event
  | [], _ => []
  | m :: ms, c =>
    ⟨c.databases, (c.move m).2, (c.move m).1.databases⟩ :: run ms (c.move m).1

/-- The move is one of the process at this position, and a call of its bootstrap. -/
def calls (i : Nat) (m : Nat × Move) : Bool := m.1 == i && m.2.isBootstrap

/-- Every process is about to begin its bootstrap, or has been initialised before. -/
def Starting (c : Cluster) : Prop := ∀ p ∈ c.processes, p.Starting c.databases

/-- Every process is sound. -/
def Sound (c : Cluster) : Prop := ∀ p ∈ c.processes, p.Sound c.databases

/-- What is promised of moves of a cluster that starts. -/
structure Safe (c : Cluster) (ms : List (Nat × Move)) : Prop where
  /-- No bootstrap has failed. -/
  unfailing : ∀ p ∈ (c.after ms).processes, ∃ x, p.progress = .ok x
  /-- If a bootstrap is done, its database and its table are there, whatever moves come next. -/
  lasting : ∀ p ∈ (c.after ms).processes, p.progress = .ok .ready →
    ∀ st, p.session.settings = some st → ∀ ms',
      (Creation.database st.database).In (c.after (ms ++ ms')).databases ∧
        (Creation.table st.database st.table).In (c.after (ms ++ ms')).databases
  /-- No call of a bootstrap has changed or removed what was there. -/
  harmless : ∀ e ∈ c.run ms, ∀ x, e.exchange = some x → e.before.Kept e.after
  /-- Nothing was created twice. -/
  once : ((c.run ms).filterMap Event.creation?).Nodup
  /-- The calls of a bootstrap are those that making a schema ready makes, one after the other,
  whatever is answered by whatever client. -/
  stepwise : ∀ (κ ω : Type) [Client κ ω] (st : Settings),
    (Session.finish st 5 .listDatabases : Action (Session κ ω) Unit) = Session.ensureSchema st
  /-- A bootstrap that begins and is left alone makes its schema ready as it is made ready at once.
  -/
  alone : ∀ i p st, (c.after ms).processes[i]? = some p → p.session.settings = some st →
    p.progress = .ok .listDatabases → ∃ q,
      (c.after (ms ++ .replicate 5 (i, .bootstrap))).processes[i]? = some q ∧
        q.progress = .ok .ready ∧
        Session.ensureSchema st (p.finding (c.after ms).store).session =
          .ok () (q.finding (c.after (ms ++ .replicate 5 (i, .bootstrap))).store).session

variable {c : Cluster}

lemma Starting.sound (h : c.Starting) : c.Sound := fun p hp => (h p hp).sound

/-- A process is sound as it finds the store. -/
lemma Sound.finding (h : c.Sound) {i : Nat} {p : Process} (hp : c.processes[i]? = some p) :
    (p.finding c.store).Sound (p.finding c.store).databases := by
  obtain ⟨ha, hh⟩ := h p (List.mem_of_getElem? hp)
  exact ⟨ha, hh⟩

/-- A move keeps a cluster sound. Its databases grow, and if it is a call of a bootstrap, that harms
nothing. -/
lemma Sound.move (h : c.Sound) (m : Nat × Move) :
    (c.move m).1.Sound ∧ c.databases.Grows (c.move m).1.databases ∧
      ∀ x, (c.move m).2 = some x → x.Harmless c.databases (c.move m).1.databases := by
  rw [Cluster.move]
  cases hp : c.processes[m.1]? with
  | none => exact ⟨h, .refl _, nofun⟩
  | some p =>
    have hsound := h.finding hp
    have hsafe := Process.move_safe hsound m.2
    -- the others stay sound because the databases have only grown
    refine ⟨fun q hq => ?_, hsafe.grows, hsafe.harmless⟩
    rcases List.mem_or_eq_of_mem_set hq with hq | rfl
    · exact (h q hq).grow hsafe.grows
    · exact hsafe.sound

/-- Moves keep a cluster sound, and make its databases grow. -/
lemma Sound.after (h : c.Sound) (ms : List (Nat × Move)) :
    (c.after ms).Sound ∧ c.databases.Grows (c.after ms).databases := by
  induction ms generalizing c with
  | nil => exact ⟨h, .refl _⟩
  | cons m ms ih =>
    obtain ⟨hm, hg, -⟩ := h.move m
    obtain ⟨ha, hg'⟩ := ih hm
    exact ⟨ha, hg.trans hg'⟩

/-- A call of a bootstrap harms nothing, whenever it is made. -/
lemma Sound.harmless (h : c.Sound) (ms : List (Nat × Move)) :
    ∀ e ∈ c.run ms, ∀ x, e.exchange = some x → x.Harmless e.before e.after := by
  induction ms generalizing c with
  | nil => exact List.forall_mem_nil _
  | cons m ms ih =>
    obtain ⟨hm, -, hx⟩ := h.move m
    exact List.forall_mem_cons.2 ⟨hx, ih hm⟩

/-- What is created was not there. -/
lemma Sound.not_in (h : c.Sound) (ms : List (Nat × Move)) :
    ∀ z ∈ (c.run ms).filterMap Event.creation?, ¬z.In c.databases := by
  induction ms generalizing c with
  | nil => exact List.forall_mem_nil _
  | cons m ms ih =>
    obtain ⟨hm, hg, hx⟩ := h.move m
    intro z hz hin
    obtain ⟨e, he, hc⟩ := List.mem_filterMap.1 hz
    rcases List.mem_cons.1 he with rfl | he
    · obtain ⟨x, ho, hc⟩ := Option.bind_eq_some_iff.1 hc
      exact ((hx x ho).created z hc).1 hin
    · exact ih hm z (List.mem_filterMap.2 ⟨e, he, hc⟩) (hg z hin)

/-- Nothing is created twice: what was created is there, and what is there is not created. -/
lemma Sound.nodup (h : c.Sound) (ms : List (Nat × Move)) :
    ((c.run ms).filterMap Event.creation?).Nodup := by
  induction ms generalizing c with
  | nil => exact List.nodup_nil
  | cons m ms ih =>
    obtain ⟨hm, -, hx⟩ := h.move m
    rw [run, List.filterMap_cons]
    split
    · exact ih hm
    next z hz =>
      -- it is there from now on, and nothing that is there is created
      obtain ⟨x, ho, hc⟩ := Option.bind_eq_some_iff.1 hz
      exact List.nodup_cons.2 ⟨fun hmem => hm.not_in ms z hmem ((hx x ho).created z hc).2, ih hm⟩

/-- A move brings the bootstrap of a process forward if it is a call of it. -/
lemma Sound.move_progress (h : c.Sound) {i : Nat} {p : Process} {st : Settings} {x : Stage}
    (hp : c.processes[i]? = some p) (hs : p.session.settings = some st) (hx : p.progress = .ok x)
    (m : Nat × Move) :
    ∃ q y, (c.move m).1.processes[i]? = some q ∧ q.session.settings = some st ∧
      q.progress = .ok y ∧ y.left ≤ x.left - if calls i m then 1 else 0 := by
  by_cases hi : m.1 = i
  · have hc : calls i m = m.2.isBootstrap := by simp [calls, hi]
    have hsound := h.finding hp
    obtain ⟨y, hset, hy, hl⟩ := Process.move_progress hsound hs hx m.2
    refine ⟨_, y, ?_, hset, hy, hc ▸ hl⟩
    rw [Cluster.move, hi, hp]
    exact List.getElem?_set_self (List.getElem?_eq_some_iff.1 hp).1
  · have hc : calls i m = false := by simp [calls, hi]
    refine ⟨p, x, ?_, hs, hx, by rw [hc]; exact Nat.le_refl _⟩
    rw [Cluster.move]
    cases c.processes[m.1]? with
    | none => exact hp
    | some r => exact (List.getElem?_set_ne hi).trans hp

/-- The bootstrap of a process comes as far as calls of it are made, whatever others do. -/
lemma Sound.progress (h : c.Sound) {i : Nat} {p : Process} {st : Settings} {x : Stage}
    (hp : c.processes[i]? = some p) (hs : p.session.settings = some st) (hx : p.progress = .ok x)
    (ms : List (Nat × Move)) :
    ∃ q y, (c.after ms).processes[i]? = some q ∧ q.session.settings = some st ∧
      q.progress = .ok y ∧ y.left ≤ x.left - ms.countP (calls i) := by
  induction ms generalizing c p x with
  | nil => exact ⟨p, x, hp, hs, hx, Nat.le_refl _⟩
  | cons m ms ih =>
    obtain ⟨q, y, hq, hs, hy, hl⟩ := h.move_progress hp hs hx m
    obtain ⟨r, z, hr, hs, hz, hl'⟩ := ih (h.move m).1 hq hs hy
    refine ⟨r, z, hr, hs, hz, ?_⟩
    rw [List.countP_cons]
    omega

/-- A bootstrap is done once five calls of it are made, whatever others do in between. -/
theorem Sound.ready_of_calls (h : c.Sound) {i : Nat} {p : Process} {st : Settings} {x : Stage}
    (hp : c.processes[i]? = some p) (hs : p.session.settings = some st) (hx : p.progress = .ok x)
    {ms : List (Nat × Move)} (hm : 5 ≤ ms.countP (calls i)) :
    ∃ q, (c.after ms).processes[i]? = some q ∧ q.progress = .ok .ready := by
  obtain ⟨q, y, hq, -, hy, hl⟩ := h.progress hp hs hx ms
  have hx5 : x.left ≤ 5 := by cases x <;> decide
  have hy0 : y.left = 0 := by omega
  refine ⟨q, hq, ?_⟩
  cases y with
  | ready => exact hy
  | _ => cases hy0

lemma after_append (c : Cluster) (ms ms' : List (Nat × Move)) :
    c.after (ms ++ ms') = (c.after ms).after ms' := List.foldl_append

/-- A bootstrap that is left alone goes on as if the store were its own. -/
lemma Sound.after_calls (h : c.Sound) {i : Nat} {p : Process} {st : Settings} {x : Stage}
    (hp : c.processes[i]? = some p) (hs : p.session.settings = some st) (hx : p.progress = .ok x)
    (n : Nat) :
    ∃ q, (c.after (.replicate n (i, .bootstrap))).processes[i]? = some q ∧
      Session.finish st n x (p.finding c.store).session =
        .ok () (q.finding (c.after (.replicate n (i, .bootstrap))).store).session := by
  induction n generalizing c p x with
  | zero => exact ⟨p, hp, rfl⟩
  | succ n ih =>
    have hsound := h.finding hp
    obtain ⟨y, o, t, ht, hm⟩ := Process.move_advance hsound hs hx
    have hmove : c.move (i, .bootstrap) = (⟨t.far, c.processes.set i ⟨t, .ok y⟩⟩, o) := by
      simp only [Cluster.move, hp, hm]
    have hset : t.settings = some st := by
      have := (Process.move_safe hsound .bootstrap).settings
      rw [hm] at this
      exact this.trans hs
    have hnext : (c.move (i, .bootstrap)).1.processes[i]? = some ⟨t, .ok y⟩ := by
      rw [hmove]
      exact List.getElem?_set_self (List.getElem?_eq_some_iff.1 hp).1
    obtain ⟨q, hq, hf⟩ := ih (h.move (i, .bootstrap)).1 hnext hset rfl
    refine ⟨q, hq, ?_⟩
    -- the process finds the store as its own call has left it
    have hfound : (Process.finding ⟨t, .ok y⟩ (c.move (i, .bootstrap)).1.store).session = t := by
      rw [hmove]
      rfl
    rw [hfound] at hf
    rw [Session.finish, Action.bind_apply, ht]
    exact hf

/-- A bootstrap that begins and is left alone for five calls is done. -/
lemma Sound.alone (h : c.Sound) {i : Nat} {p : Process} {st : Settings}
    (hp : c.processes[i]? = some p) (hs : p.session.settings = some st)
    (hx : p.progress = .ok .listDatabases) :
    ∃ q, (c.after (.replicate 5 (i, .bootstrap))).processes[i]? = some q ∧
      q.progress = .ok .ready ∧
      Session.ensureSchema st (p.finding c.store).session =
        .ok () (q.finding (c.after (.replicate 5 (i, .bootstrap))).store).session := by
  obtain ⟨q, hq, hf⟩ := h.after_calls hp hs hx 5
  have hcalls : 5 ≤ (List.replicate 5 (i, Move.bootstrap)).countP (calls i) := by
    simp [calls, Move.isBootstrap]
  obtain ⟨q', hq', hready⟩ := h.ready_of_calls hp hs hx hcalls
  cases hq.symm.trans hq'
  refine ⟨q, hq, hready, ?_⟩
  rw [← Session.finish_eq_ensureSchema, hf]

/-- However the moves of processes interleave, they are safe. -/
theorem safe_of_starting (h : c.Starting) (ms : List (Nat × Move)) : c.Safe ms := by
  obtain ⟨ha, -⟩ := h.sound.after ms
  refine ⟨fun p hp => ?_, fun p hp hr st hs ms' => ?_, fun e he x hx => ?_, h.sound.nodup ms,
    fun κ ω _ st => Session.finish_eq_ensureSchema st, fun i p st hp hs hx => ?_⟩
  · obtain ⟨x, hx, -⟩ := (ha p hp).holds
    exact ⟨x, hx⟩
  · obtain ⟨x, hx, hh⟩ := (ha p hp).holds
    cases hr.symm.trans hx
    have hin := (ha.after ms').2 (.table st.database st.table) (hh st hs)
    rw [after_append]
    exact ⟨hin.database, hin⟩
  · exact (h.sound.harmless ms e he x hx).kept
  · rw [after_append]
    exact ha.alone hp hs hx

/-- Two processes that make the same table ready at once are safe, while a third deletes a record of
another table. -/
theorem safe_of_race :
    let st (t : String) : Settings := ⟨⟨["localhost"], nofun⟩, 28015, .hard, t, "ycsb", none, 10⟩
    let s (t : String) : Session StoreClient Store :=
      { Session.fresh .empty (.new false []) ⟨.empty, ⟨[], []⟩, .empty, .new [1], [], ⟨.empty, []⟩⟩
        with connected := true, settings := some (st t) }
    let c : Cluster := ⟨⟨.single "ycsb" "usertable" "k" .empty, []⟩,
      [⟨s "other", .ok .listDatabases⟩, ⟨s "other", .ok .listDatabases⟩,
        ⟨s "usertable", .ok .ready⟩]⟩
    let ms : List (Nat × Move) :=
      [(0, .bootstrap), (0, .bootstrap), (1, .bootstrap), (1, .bootstrap), (1, .bootstrap),
        (2, .request (.delete (.str "usertable") (.str "k"))), (0, .bootstrap), (0, .bootstrap)]
    c.Starting ∧ c.Safe ms ∧ (c.run ms).filterMap Event.creation? = [.table "ycsb" "other"] := by
  intro st s c ms
  have h : c.Starting := by
    refine List.forall_mem_cons.2 ⟨⟨rfl, .inl rfl⟩, List.forall_mem_cons.2 ⟨⟨rfl, .inl rfl⟩, ?_⟩⟩
    refine List.forall_mem_singleton.2 ⟨rfl, .inr ⟨rfl, fun st' hs => ?_⟩⟩
    cases hs
    rfl
  exact ⟨h, safe_of_starting h ms, by decide +kernel⟩

end Cluster

end CrudBench
