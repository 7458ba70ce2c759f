import CrudBench.Proofs.Alike
import CrudBench.Proofs.Plain
import CrudBench.Proofs.Store.Atomicity
import CrudBench.Proofs.Store.Visit

/-!
# Failures that are armed

The request that meets an armed failure returns it as an error and disarms it. Nothing else is left
of it: the world goes on like one in which the failure was taken back and the request was not made,
but for clocks, logs and traces (`World.failures_change_nothing`).
-/

namespace CrudBench

/-! ## Clients that cannot tell -/

/-- The stores hold the same databases; what has reached them may differ. -/
def Store.Same (w w' : Store) : Prop := w'.databases = w.databases

namespace StoreClient

open Action

/-- Two clients that are the same work on stores that hold the same databases. -/
abbrev Even : Side → Side → Prop := Link.Alike Eq Store.Same

section Answers

variable {α : Type}

lemma alike_databases : Alike Even (fun _ => False) Eq databases databases :=
  ⟨False.elim, fun hr => .inr ⟨hr, hr.far.symm⟩⟩

lemma alike_setDatabases (dbs : Databases) :
    Alike Even (fun _ => False) Eq (setDatabases dbs) (setDatabases dbs) :=
  ⟨False.elim, fun hr => .inr ⟨⟨hr.near, rfl⟩, rfl⟩⟩

lemma alike_near : Alike Even (fun _ => False) (fun l l' => l.near = l'.near) get get :=
  ⟨False.elim, fun hr => .inr ⟨hr, hr.near⟩⟩

lemma alike_database (db : String) :
    Alike Even (fun _ => False) Eq (database db) (database db) := by
  refine alike_databases.bind (fun _ => rfl) ?_
  rintro dbs _ rfl
  split
  · exact alike_pure rfl
  · exact alike_throw _

lemma alike_table (db : String) (t : Value) :
    Alike Even (fun _ => False) Eq (table db t) (table db t) := by
  refine (alike_given (fun _ => rfl) _).bind (fun _ => rfl) ?_
  rintro name _ rfl
  refine alike_databases.bind (fun _ => rfl) ?_
  rintro dbs _ rfl
  split
  · exact alike_pure rfl
  · exact alike_throw _

lemma alike_lookup (db : String) (t : Value) (f : Table → Except Misfit α) :
    Alike Even (fun _ => False) Eq (do given (f (← table db t).2))
      (do given (f (← table db t).2)) := by
  refine (alike_table db t).bind (fun _ => rfl) ?_
  rintro found _ rfl
  exact alike_given (fun _ => rfl) _

lemma alike_write (db : String) (t : Value) (change : Table → Except Misfit (Value × Table)) :
    Alike Even (fun _ => False) Eq (write db t change) (write db t change) := by
  refine (alike_table db t).bind (fun _ => rfl) ?_
  rintro found _ rfl
  refine (alike_given (fun _ => rfl) _).bind (fun _ => rfl) ?_
  rintro done _ rfl
  refine alike_databases.bind (fun _ => rfl) ?_
  rintro dbs _ rfl
  refine (alike_setDatabases _).bind (fun _ => rfl) ?_
  rintro _ _ rfl
  exact alike_pure rfl

lemma alike_answer (c : Call) : Alike Even (fun _ => False) Eq (answer c) (answer c) := by
  cases c with
  | databaseList =>
    refine alike_databases.bind (fun _ => rfl) ?_
    rintro dbs _ rfl
    exact alike_pure rfl
  | databaseCreate db =>
    refine alike_databases.bind (fun _ => rfl) ?_
    rintro dbs _ rfl
    refine (alike_setDatabases _).bind (fun _ => rfl) fun _ _ _ => ?_
    refine alike_near.bind (fun _ => rfl) fun l l' hl => ?_
    rw [hl]
    exact alike_pure rfl
  | tableList db =>
    refine (alike_database db).bind (fun _ => rfl) ?_
    rintro tables _ rfl
    exact alike_pure rfl
  | tableCreate db t key durability =>
    refine (alike_database db).bind (fun _ => rfl) ?_
    rintro tables _ rfl
    refine alike_databases.bind (fun _ => rfl) ?_
    rintro dbs _ rfl
    refine (alike_setDatabases _).bind (fun _ => rfl) fun _ _ _ => ?_
    refine alike_near.bind (fun _ => rfl) fun l l' hl => ?_
    rw [hl]
    exact alike_pure rfl
  | tableWait db t => exact alike_pure rfl
  | get db t key fields mode => exact alike_lookup db t (·.get key fields)
  | between db t low limit fields mode => exact alike_lookup db t (·.between low limit fields)
  | update db t key values durability => exact alike_write db t (Table.update · key values)
  | insert db t row durability => exact alike_write db t (Table.insert · row)
  | delete db t key durability => exact alike_write db t (Table.delete · key)

end Answers

/-- Connecting and closing do not depend on what is armed, so a client that cannot tell two sides
apart by asking cannot tell them apart at all. -/
lemma blind_of_ask {N : StoreClient → StoreClient → Prop} {D : StoreClient → Prop}
    (hsame : ∀ {c c'}, N c c' → c'.isOpen = c.isOpen ∧ c'.refuses = c.refuses)
    (hopen : ∀ {c c'} (b : Bool), N c c' → N { c with isOpen := b } { c' with isOpen := b })
    (hparted : ∀ {c} (b : Bool), D c → D { c with isOpen := b })
    (hask : ∀ c : Call, Alike (Link.Alike N Store.Same) (fun l => D l.near) Eq
      (StoreClient.ask c) (StoreClient.ask c)) : Client.Blind N Store.Same D where
  isOpen h := (hsame h).1
  connect e := by
    constructor
    · intro l hl
      show D ((StoreClient.connect e).outcome l).2.near
      rw [outcome, connect_apply]
      cases l.near.refuses with
      | true => exact hl
      | false => exact hparted true hl
    · rintro ⟨c, w⟩ ⟨c', w'⟩ ⟨hc, hw⟩
      obtain ⟨-, hr⟩ := hsame hc
      right
      show Agree _ _ (StoreClient.connect e ⟨c, w⟩) (StoreClient.connect e ⟨c', w'⟩)
      rw [connect_apply, connect_apply]
      dsimp only
      cases hx : c.refuses with
      | true =>
        rw [if_pos rfl, if_pos (hr.trans hx)]
        exact ⟨⟨hc, hw⟩, rfl⟩
      | false =>
        rw [if_neg nofun, if_neg (by simpa using hr.trans hx)]
        exact ⟨⟨hx ▸ hopen true hc, hw⟩, rfl⟩
  close := by
    constructor
    · intro l hl
      show D (StoreClient.close.outcome l).2.near
      rw [outcome, close_apply]
      cases l.near.isOpen with
      | true => exact hparted false hl
      | false => exact hl
    · rintro ⟨c, w⟩ ⟨c', w'⟩ ⟨hc, hw⟩
      obtain ⟨ho, -⟩ := hsame hc
      right
      show Agree _ _ (StoreClient.close ⟨c, w⟩) (StoreClient.close ⟨c', w'⟩)
      rw [close_apply, close_apply]
      dsimp only
      rw [ho]
      split
      · exact ⟨⟨hopen false hc, hw⟩, rfl⟩
      · exact ⟨⟨hc, hw⟩, rfl⟩
  ask := hask

/-- The same client cannot tell what else has reached a store. -/
lemma blind_eq :
    Client.Blind (Eq : StoreClient → StoreClient → Prop) Store.Same fun _ => False := by
  apply blind_of_ask
  · rintro c _ rfl
    exact ⟨rfl, rfl⟩
  · rintro c _ b rfl
    rfl
  · exact fun _ => id
  · intro c
    refine ⟨False.elim, ?_⟩
    rintro ⟨near, w⟩ ⟨_, w'⟩ ⟨rfl, hw⟩
    right
    cases ha : near.armed with
    | some m =>
      rw [ask_of_armed ha, ask_of_armed ha]
      exact ⟨⟨rfl, hw⟩, rfl⟩
    | none =>
      rw [ask_of_unarmed ha, ask_of_unarmed ha]
      have hl : Even ⟨near, w.called c w.databases⟩ ⟨near, w'.called c w'.databases⟩ := ⟨rfl, hw⟩
      exact ((alike_answer c).agree hl).resolve_left id

/-- The first client is the second with a failure armed. -/
structure Odd (message : String) (c c' : StoreClient) : Prop where
  armed : c.armed = some message
  disarmed : c' = { c with armed := none }

/-- Until it is met, a client cannot tell that a failure is armed. -/
lemma blind_odd (message : String) :
    Client.Blind (Odd message) Store.Same fun c => c.armed = none := by
  apply blind_of_ask
  · rintro c _ ⟨-, rfl⟩
    exact ⟨rfl, rfl⟩
  · rintro c _ b ⟨ha, rfl⟩
    exact ⟨ha, rfl⟩
  · exact fun _ => id
  · intro c
    -- whatever is asked meets the failure, so no answer has to be compared
    have hmet (l : Side) : ((StoreClient.ask c).outcome l).2.near.armed = none := by
      obtain ⟨dbs, h, -⟩ := ask_ends c l
      rw [h]
    exact ⟨fun _ => hmet _, fun _ => .inl (hmet _)⟩

end StoreClient

/-! ## Worlds in which a failure is armed -/

/-- The clients of a number are the same, except that a failure is armed at the first one of `i`. -/
def Apart (i : Nat) (message : String) (j : Nat) (c c' : StoreClient) : Prop :=
  if j = i then StoreClient.Odd message c c' else c = c'

namespace Apart

variable {i j : Nat} {message : String} {c c' : StoreClient}

lemma iff_of_ne (h : j ≠ i) : Apart i message j c c' ↔ c = c' := by rw [Apart, if_neg h]

lemma iff_self : Apart i message i c c' ↔ StoreClient.Odd message c c' := by rw [Apart, if_pos rfl]

lemma blind (i : Nat) (message : String) (j : Nat) :
    Client.Blind (Apart i message j) Store.Same fun c => j = i ∧ c.armed = none := by
  by_cases hj : j = i
  · subst hj
    have hN : Apart j message j = StoreClient.Odd message := by
      funext c c'
      exact propext iff_self
    simpa only [hN, true_and] using StoreClient.blind_odd message
  · have hN : Apart i message j = Eq := by
      funext c c'
      exact propext (iff_of_ne hj)
    simpa only [hN, hj, false_and] using StoreClient.blind_eq

end Apart

namespace Visit

variable {w : World StoreClient Store} {i : Nat} {message : String}

/-- A visit that does not arm the backend does the same whether or not a failure is armed there. -/
lemma fair_of_armed (hi : i < w.backends.length) {v : Visit} (hv : ¬v.Arms i) :
    v.turn.Fair (Apart i message) Store.Same w := by
  cases v with
  | join config refuses races => exact (Apart.iff_of_ne (Nat.ne_of_gt hi)).2 rfl
  | arm j m =>
    intro c c' h
    rw [Apart.iff_of_ne hv] at h ⊢
    rw [h]
  | equip j refuses races =>
    intro c c' h
    by_cases hj : j = i
    · subst hj
      obtain ⟨ha, rfl⟩ := Apart.iff_self.1 h
      exact Apart.iff_self.2 ⟨ha, rfl⟩
    · rw [Apart.iff_of_ne hj] at h ⊢
      rw [h]
  | _ => trivial

lemma fair_of_even (v : Visit) : v.turn.Fair (fun _ => Eq) Store.Same w := by
  cases v with
  | join => rfl
  | arm | equip => exact fun _ _ h => h ▸ rfl
  | _ => trivial

/-- What has left a failure armed was left by everything before it with the failure armed. -/
lemma armed_until {vs : List Visit} (hvs : ∀ v ∈ vs, ¬v.Arms i) {t : Session StoreClient Store}
    (ht : (w.after (vs.map turn)).session? i = some t) (ha : t.client.armed ≠ none) :
    ∀ e ∈ World.run (vs.map turn) w, ¬(e.backend = i ∧ e.after.client.armed = none) := by
  rintro e he ⟨hi, hn⟩
  obtain ⟨before, after, hrun⟩ := List.append_of_mem he
  obtain ⟨ys, zs, j, c, u, hxs, -, hu, rfl⟩ := World.run_eq_append hrun
  obtain rfl : j = i := hi
  obtain ⟨vs₁, vs₂, rfl, rfl, hrest⟩ := List.map_eq_append_iff.1 hxs
  obtain ⟨v, vs₃, rfl, hv, rfl⟩ := List.map_eq_cons_iff.1 hrest
  -- disarmed by then, the backend would be so at the end
  have hstep : ∀ (k : Nat) b, ((w.after (vs₁.map turn)).step (.tell j c)).backends[k]? = some b →
      k = j → b.client.armed = none := by
    rintro k b hb rfl
    have hk := World.session?_absorb hu (c.episode k u).after k
    rw [World.step_tell hu] at hb
    rw [if_pos rfl] at hk
    cases hb.symm.trans (World.session?_eq_some.1 hk).1
    exact hn
  have hlater : ∀ x ∈ vs₃, ¬x.Arms j := fun x hx => hvs x (by simp [hx])
  have hend := unarmed_after hstep hlater
  rw [hxs, World.after_append] at ht
  exact ha (hend j _ (World.session?_eq_some.1 ht).1 rfl)

end Visit

namespace World

variable {w : World StoreClient Store} {i : Nat} {message : String}
  {s t : Session StoreClient Store}

/-- A world in which a failure is armed is like the one in which it was taken back. -/
lemma alike_disarmed (hs : w.session? i = some s) (ha : s.client.armed = some message) :
    w.Alike (Apart i message) Store.Same (w.step (Visit.arm i .null).turn) := by
  refine ⟨List.length_modify .., fun j b b' hb hb' => ?_, rfl, rfl, rfl, rfl⟩
  simp only [step, Visit.turn, List.getElem?_modify] at hb'
  obtain ⟨a, ha', rfl⟩ := Option.map_eq_some_iff.1 hb'
  cases hb.symm.trans ha'
  by_cases hj : j = i
  · subst hj
    cases hb.symm.trans (session?_eq_some.1 hs).1
    rw [if_pos rfl]
    exact ⟨rfl, rfl, rfl, rfl, Apart.iff_self.2 ⟨ha, rfl⟩⟩
  · rw [if_neg (Ne.symm hj)]
    exact ⟨rfl, rfl, rfl, rfl, (Apart.iff_of_ne hj).2 rfl⟩

/-- As long as the failure is not met, the two worlds stay alike. -/
lemma alike_until (hs : w.session? i = some s) (ha : s.client.armed = some message)
    {vs : List Visit} (hvs : ∀ v ∈ vs, ¬v.Arms i)
    (ht : (w.after (vs.map Visit.turn)).session? i = some t) (hta : t.client.armed ≠ none) :
    (w.after (vs.map Visit.turn)).Alike (Apart i message) Store.Same
      ((w.step (Visit.arm i .null).turn).after (vs.map Visit.turn)) := by
  have hi : i < w.backends.length :=
    (List.getElem?_eq_some_iff.1 (session?_eq_some.1 hs).1).choose
  refine ((alike_disarmed hs ha).run (Apart.blind i message) (I := fun w => i < w.backends.length)
    (P := fun x => ∃ v : Visit, ¬v.Arms i ∧ x = v.turn) ?_ hi ?_
    (Visit.armed_until hvs ht hta)).1
  · rintro w _ hw ⟨v, hv, rfl⟩
    exact ⟨Visit.fair_of_armed hw hv, Nat.lt_of_lt_of_le hw (w.length_step _)⟩
  · intro x hx
    obtain ⟨v, hv, rfl⟩ := List.mem_map.1 hx
    exact ⟨v, hvs v hv, rfl⟩

end World

/-! ## The request that meets a failure -/

/-- The episode has met the failure that was armed: after one call it came to an error with the
message, and the failure is armed no longer. -/
structure Episode.Met (message : String) (e : Episode StoreClient Store) : Prop where
  result : ∃ latency, e.result = .ok (.outcome (.failed message latency))
  backend : e.after.toBackend =
    { e.before.toBackend with client := { e.before.client with armed := none } }
  far : ∃ c, e.after.far = e.before.far.called c e.before.far.databases

lemma Session.stable_surroundings (s : Session StoreClient Store) :
    Stable (fun t : Session StoreClient Store =>
      t.environment = s.environment ∧ t.file = s.file ∧ t.pools = s.pools) fun _ => True :=
  .of_linked (fun h => h) (fun _ h => h) fun _ h => h

/-- What is not decided without the client meets the failure that is armed. -/
lemma PlainRequest.met {s : Session StoreClient Store} {st : Settings} {message : String}
    (hc : s.connected = true) (hs : s.settings = some st) (ha : s.client.armed = some message)
    {r : PlainRequest} (hr : r.shortcut? = none) (i : Nat) :
    ((Command.request r.request).episode i s).Met message := by
  obtain ⟨c, take, h⟩ := r.exists_hinges hc hs hr
  obtain ⟨latency, u, hu, hb, hf⟩ := h.of_error (Session.ask_of_armed (s := s.ticked) ha c)
  rw [Command.episode_request, Action.outcome, hu]
  exact ⟨⟨latency, rfl⟩, hb, c, hf⟩

/-- Once the failure is met, its world differs from the one without it in clocks, logs and traces
only. -/
lemma World.alike_met {w w' : World StoreClient Store} {i : Nat} {message : String}
    {s : Session StoreClient Store} (h : w.Alike (Apart i message) Store.Same w')
    (hs : w.session? i = some s) {r : Request}
    (he : ((Command.request r).episode i s).Met message) :
    (w.step (.tell i (.request r))).Alike (fun _ => Eq) Store.Same w' := by
  obtain ⟨hi, hsite⟩ := session?_eq_some.1 hs
  have hx := h.site
  rw [hsite] at hx
  obtain ⟨c, hfar⟩ := he.far
  obtain ⟨henv, hfile, hpools⟩ :=
    ((Session.stable_surroundings s).keeps_perform r).outcome (s := s) ⟨rfl, rfl, rfl⟩
  have hbackend := he.backend
  rw [step_tell hs]
  rw [Command.episode_request] at hfar hbackend ⊢
  refine ⟨?_, fun j b b' hj hj' => ?_, ?_⟩
  · simp only [absorb, List.length_set, h.length]
  · simp only [absorb, List.getElem?_set] at hj
    by_cases he : i = j
    · subst he
      have hb := h.backends i _ b' hi hj'
      obtain ⟨-, hd⟩ := Apart.iff_self.1 hb.client
      rw [if_pos rfl] at hj
      split at hj <;> cases hj
      rw [hbackend]
      exact ⟨hb.config, hb.settings, hb.host, hb.connected, hd.symm⟩
    · rw [if_neg he] at hj
      have hb := h.backends j b b' hj hj'
      exact ⟨hb.config, hb.settings, hb.host, hb.connected,
        (Apart.iff_of_ne (Ne.symm he)).1 hb.client⟩
  · refine ⟨hx.environment.trans henv.symm, hx.file.trans hfile.symm,
      hx.pools.trans hpools.symm, ?_⟩
    show _ = (((r.perform : Action (Session StoreClient Store) Outcome).outcome s).2).far.databases
    rw [hfar]
    exact hx.far

/-! ## Whatever visits there were -/

/-- A request has left the databases as they were, unless it is a write and has succeeded. -/
def Episode.Atomic (e : Episode StoreClient Store) : Prop :=
  ∀ r, e.command = .request r →
    (∀ o, e.result = .ok (.outcome o) → o.status = .ok → r.isLookup = true) →
      e.after.far.databases = e.before.far.databases

lemma Request.atomic_episode (r : Request) {s : Session StoreClient Store}
    (hs : Databases.Rowed s.far.databases) (i : Nat) :
    ((Command.request r).episode i s).Atomic := by
  rintro _ ⟨⟩ ho
  have h := r.atomic hs
  rw [Command.episode_request, Action.outcome] at ho ⊢
  cases hx : r.perform s with
  | ok o t =>
    rw [hx] at h ho
    by_cases hok : o.status = .ok
    · exact h (.inr (ho o rfl hok))
    · exact h (.inl hok)
  | error e t =>
    rw [hx] at h
    exact h

namespace World

/-- The second visits are the first without the failure that these have armed last at the backend:
it was taken back, or it was never armed. -/
inductive Spared (site : Site Store) (i : Nat) : List Visit → List Visit → Prop where
  | takenBack (vs : List Visit) : Spared site i vs (vs ++ [.arm i .null])
  | neverArmed {vs : List Visit}
    (h : ∀ s, (visited site vs).session? i = some s → s.client.armed = none) (message : Value) :
    Spared site i (vs ++ [.arm i message]) vs

/-- Where no failure was armed, to take one back is as if it had never been armed. -/
lemma step_arm_null {w : World StoreClient Store}
    (h : ∀ s, w.session? i = some s → s.client.armed = none) (message : Value) :
    (w.step (Visit.arm i message).turn).step (Visit.arm i .null).turn = w := by
  obtain ⟨backends, site⟩ := w
  simp only [step, Visit.turn, List.modify_modify_eq]
  congr 1
  refine List.ext_getElem? fun j => ?_
  rw [List.getElem?_modify]
  cases hb : backends[j]? with
  | none => rfl
  | some b =>
    by_cases hj : i = j
    · subst hj
      have hn : b.client.armed = none := h ⟨b, site⟩ (session?_eq_some.2 ⟨hb, rfl⟩)
      have hc : (b.client.arm message).arm .null = b.client := calc
        _ = { b.client with armed := none } := by cases message <;> rfl
        _ = b.client := by rw [← hn]
      simp only [if_pos, Option.map_eq_map, Option.map_some, Function.comp_apply, hc]
    · simp only [if_neg hj, Option.map_eq_map, Option.map_some]

lemma Spared.visited_eq {site : Site Store} {vs us : List Visit} (h : Spared site i vs us) :
    visited site us = (visited site vs).step (Visit.arm i .null).turn := by
  cases h with
  | takenBack => exact visited_append ..
  | neverArmed h message =>
    rw [visited_append]
    exact (step_arm_null h message).symm

/-- Over tables of records, no request changes the databases unless it is a write and succeeds. An
armed failure stays so while requests are decided without the client. The first request that reaches
the client comes to an error with the message and disarms it, and from then on the world goes on
like the one without the failure in which that request was not made. -/
theorem failures_change_nothing {site : Site Store} (hd : Databases.Rowed site.far.databases)
    {vs : List Visit} {i : Nat} {s : Session StoreClient Store}
    (hs : (visited site vs).session? i = some s) :
    (∀ r : Request, ((Command.request r).episode i s).Atomic) ∧
      ∀ message, s.client.armed = some message →
        (∀ (r : PlainRequest) o, r.skipped? s = some o →
          (Command.request r.request).episode i s =
            ⟨i, .request r.request, s, .ok (.outcome o), s⟩) ∧
        ∀ (mid : List Visit) t, (∀ v ∈ mid, ¬v.Arms i) →
          (visited site (vs ++ mid)).session? i = some t → t.client.armed ≠ none →
          ∀ r : PlainRequest, r.skipped? t = none →
            ((Command.request r.request).episode i t).Met message ∧
            ∀ us, Spared site i vs us →
              ∀ post : List Visit, List.Forall₂ (Episode.Alike (fun _ => Eq) Store.Same)
                (run (post.map Visit.turn)
                  (visited site (vs ++ mid ++ [.tell i (.request r.request)])))
                (run (post.map Visit.turn) (visited site (us ++ mid))) := by
  refine ⟨fun r => r.atomic_episode (rowed_of_visited hd hs) i, fun message ha => ⟨?_, ?_⟩⟩
  · intro r o ho
    have hx := r.perform_of_skipped (sound_of_visited hs).settings ho
    rw [Command.episode_request, Action.outcome, hx]
    rfl
  · intro mid t hmid ht hta r hr
    obtain ⟨hc, hshort⟩ := PlainRequest.connected_of_skipped hr
    obtain ⟨st, hst⟩ := Option.isSome_iff_exists.1 ((sound_of_visited ht).settings hc)
    have htm := ht
    rw [visited_append] at htm
    -- the two worlds differ in the armed failure up to the request, and in nothing after it
    have hapart := alike_until hs ha hmid htm hta
    obtain ⟨_, -, htt⟩ := hapart.session htm
    have hmet := PlainRequest.met hc hst (Apart.iff_self.1 htt.backend.client).armed hshort i
    refine ⟨hmet, fun us hus post => ?_⟩
    have heven := alike_met hapart htm hmet
    rw [visited_append, visited_append, visited_append, hus.visited_eq]
    refine (heven.run (I := fun _ => True) (P := fun x => ∃ v : Visit, x = v.turn)
      (D := fun _ _ => False) (fun _ => StoreClient.blind_eq) ?_ trivial ?_ fun _ _ => id).2
    · rintro w _ - ⟨v, rfl⟩
      exact ⟨v.fair_of_even, trivial⟩
    · intro x hx
      obtain ⟨v, -, rfl⟩ := List.mem_map.1 hx
      exact ⟨v, rfl⟩

/-- A failure is armed at an initialised backend. An insertion under an empty key does not meet it,
a deletion does, and then an insertion goes on as if nothing had happened. -/
theorem failures_change_nothing_delete :
    let site : Site Store := ⟨.empty, ⟨[], []⟩, .empty, .new [1], [], ⟨.empty, []⟩⟩
    let us : List Visit := [.join (.ofFields [("host", .str "db1")]) false [], .tell 0 .init]
    let vs : List Visit := us ++ [.arm 0 (.str "boom")]
    let insertion (key : String) : Visit := .tell 0 (.request
      (PlainRequest.point ⟨"usertable", key, .insert (.ofList [("f", .str "1")])⟩).request)
    let r : PlainRequest := .point ⟨"usertable", "k", .delete⟩
    ∃ s t, (visited site vs).session? 0 = some s ∧ s.client.armed = some "boom" ∧
      (visited site (vs ++ [insertion ""])).session? 0 = some t ∧ t.client.armed ≠ none ∧
      r.skipped? t = none ∧ ((Command.request r.request).episode 0 t).Met "boom" ∧
      List.Forall₂ (Episode.Alike (fun _ => Eq) Store.Same)
        (run [(insertion "k").turn]
          (visited site (vs ++ [insertion ""] ++ [.tell 0 (.request r.request)])))
        (run [(insertion "k").turn] (visited site (us ++ [insertion ""]))) := by
  intro site us vs insertion r
  have hd : Databases.Rowed site.far.databases := by
    intro db t content h
    cases h
  have hu : ((visited site us).session? 0).all (·.client.armed.isNone) = true := by
    decide +kernel
  have hs : ((visited site vs).session? 0).any (·.client.armed == some "boom") = true := by
    decide +kernel
  have ht : ((visited site (vs ++ [insertion ""])).session? 0).any (fun t =>
      t.client.armed.isSome && (r.skipped? t).isNone) = true := by
    decide +kernel
  obtain ⟨s, hs, ha⟩ := (Option.any_eq_true ..).1 hs
  obtain ⟨t, ht, hta⟩ := (Option.any_eq_true ..).1 ht
  rw [beq_iff_eq] at ha
  rw [Bool.and_eq_true, Option.isSome_iff_ne_none, Option.isNone_iff_eq_none] at hta
  have hmid : ∀ v ∈ [insertion ""], ¬v.Arms 0 := by
    intro v hv
    cases List.mem_singleton.1 hv
    exact id
  have hmeet := ((failures_change_nothing hd hs).2 "boom" ha).2 _ t hmid ht hta.1 r hta.2
  have hspared : Spared site 0 vs us := .neverArmed (fun s hs => by
    rw [hs, Option.all_some, Option.isNone_iff_eq_none] at hu
    exact hu) (.str "boom")
  exact ⟨s, t, hs, ha, ht, hta.1, hta.2, hmeet.1, hmeet.2 us hspared [insertion "k"]⟩

end World

end CrudBench
