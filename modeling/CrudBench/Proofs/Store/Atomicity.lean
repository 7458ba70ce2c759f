import CrudBench.Proofs.Request
import CrudBench.Proofs.Store.Effect

/-!
# Failed requests change nothing

A request over tables of records either succeeds, or leaves the databases as they were, whether it
returns or fails (`Request.atomic`). Reads and scans leave them as they were in any case.
-/

namespace CrudBench

/-! ## Writes of a client -/

namespace StoreClient

/-- What the action returns over databases of records is a receipt. The databases are as they were
if the receipt does not confirm that the counter is one, and if the action fails. -/
def Reports (wanted : Counter) (x : Action Side Value) : Prop :=
  ∀ l, Databases.Rowed l.far.databases → match x l with
    | .ok v l' => ∃ r, Receipt.ofValue? v = some r ∧
        (r.confirms wanted = false → l'.far.databases = l.far.databases)
    | .error _ l' => l'.far.databases = l.far.databases

/-- A write reports if its change of a table does, whether or not a failure is armed. -/
lemma reports_write {wanted : Counter} {change : Table → Except Misfit (Value × Table)}
    (h : Table.Reports wanted change) (c : Call) (db : String) (t : Value) :
    Reports wanted (do record (.call c); tripwire; write db t change) := by
  intro l hl
  cases ha : l.near.armed with
  | some message =>
    simp only [record, tripwire, Action.bind_apply, Action.modify_apply, Action.get_apply, ha,
      Action.throw_apply]
  | none =>
    have hx : (do record (.call c); tripwire; write db t change : Action Side Value) l =
        write db t change ⟨l.near, l.far.called c l.far.databases⟩ := by
      simp only [record, tripwire, Action.bind_apply, Action.modify_apply, Action.get_apply, ha,
        Action.pure_apply]
      rfl
    rw [hx]
    obtain ⟨e, hw⟩ | ⟨v, dbs, hd, hw⟩ :=
      write_cases db t change ⟨l.near, l.far.called c l.far.databases⟩
    · rw [hw]
      rfl
    · rw [hw]
      obtain ⟨-, r, hr, hsame⟩ := hd.reports h hl
      exact ⟨r, hr, hsame⟩

end StoreClient

namespace Session

open Action

/-! ## Operations that change nothing unless they succeed -/

/-- A result has left the databases as they were, unless it is a success. -/
def Harmless (dbs : Databases) : EStateM.Result Fault (Session StoreClient Store) Outcome → Prop
  | .ok o t => o.status ≠ .ok → t.far.databases = dbs
  | .error _ t => t.far.databases = dbs

/-- The result of a query has left the databases as they were, unless what is made of it is a
success. -/
def Resolves {α : Type} (dbs : Databases)
    (finish : α → Action (Session StoreClient Store) Outcome) :
    EStateM.Result Fault (Session StoreClient Store) α → Prop
  | .ok a t => Harmless dbs (finish a t)
  | .error _ t => t.far.databases = dbs

/-- Over databases of records, the action leaves them as they were unless it returns a success. -/
def Atomic (x : Action (Session StoreClient Store) Outcome) : Prop :=
  ∀ s, Databases.Rowed s.far.databases → Harmless s.far.databases (x s)

lemma steady_databases (dbs : Databases) :
    Steady (fun s : Session StoreClient Store => s.far.databases = dbs) fun _ => True where
  ticked h := h
  logged h _ := h
  misfit _ := trivial
  rejected _ _ := trivial

lemma keeps_lookup (dbs : Databases) (c : Call) (hc : c.isLookup = true) :
    Keeps (fun s : Session StoreClient Store => s.far.databases = dbs) (fun _ => True)
      (fun _ => True) (ask c) := by
  refine keeps_viaClient (J := fun l => l.far.databases = dbs) (keeps_of_outcome fun l hl => ?_)
    (fun _ h => h) fun _ _ _ h => h
  obtain ⟨dbs', h, hd⟩ := StoreClient.ask_ends c l
  have hsame : dbs' = l.far.databases := by
    cases c with
    | get | between => exact hd.elim id id
    | _ => cases hc
  have hend : ((Client.ask c : Action StoreClient.Side c.Answer).outcome l).2 = _ := h
  rw [hend]
  exact hsame.trans hl

lemma atomic_pure (o : Outcome) : Atomic (pure o) := fun _ _ _ => rfl

lemma Atomic.whenConnected {act : Settings → Action (Session StoreClient Store) Outcome}
    (h : ∀ st, Atomic (act st)) : Atomic (whenConnected act) := by
  intro s hs
  obtain ⟨st, hc, hst⟩ | hn := s.connected_cases
  · rw [whenConnected_of_connected hc hst]
    exact h st s hs
  · rw [whenConnected_of_disconnected hn]
    exact fun _ => rfl

lemma Atomic.now {f : Float → Action (Session StoreClient Store) Outcome}
    (h : ∀ start, Atomic (f start)) : Atomic (now >>= f) := by
  intro s hs
  rw [bind_apply, now_apply]
  exact h s.clock.read.1 s.ticked hs

lemma Atomic.given {α : Type} {f : α → Action (Session StoreClient Store) Outcome}
    (h : ∀ a, Atomic (f a)) (x : Except Misfit α) : Atomic (Action.given x >>= f) := by
  intro s hs
  cases x with
  | ok a => exact h a s hs
  | error e => rfl

/-- A write is settled as its receipt has it: if that does not confirm it, the databases are as they
were. -/
lemma harmless_settle {wanted : Counter} {v : Value} {r : Receipt}
    (hr : Receipt.ofValue? v = some r) {dbs : Databases} {t : Session StoreClient Store}
    (ht : r.confirms wanted = false → t.far.databases = dbs) (op : Operation) (key : Value)
    (start : Float) (mayMiss : Bool) : Harmless dbs (settle op key start wanted mayMiss v t) := by
  cases hc : r.confirms wanted with
  | true =>
    -- a confirmed write is a success, of which nothing is claimed
    have hok : settle op key start wanted mayMiss v t =
        .ok (.ok (.real (elapsedMs start t.clock.read.1))) t.ticked := by
      simp only [settle, hr, hc, if_true, bind_apply, elapsedSince_apply, pure_apply]
    rw [hok]
    exact fun hn => absurd rfl hn
  | false =>
    have hk := (steady_databases dbs).keeps_settle op key start wanted mayMiss v t (ht hc)
    cases hx : settle op key start wanted mayMiss v t with
    | ok o u =>
      rw [hx] at hk
      exact fun _ => hk.1
    | error e u =>
      rw [hx] at hk
      exact hk.1

lemma resolves_write {wanted : Counter} {y : Action StoreClient.Side Value}
    (hy : StoreClient.Reports wanted y) {s : Session StoreClient Store}
    (hs : Databases.Rowed s.far.databases) (op : Operation) (key : Value) (start : Float)
    (mayMiss : Bool) :
    Resolves s.far.databases (settle op key start wanted mayMiss) (viaClient y s) := by
  have hl := hy ⟨s.client, s.far⟩ hs
  rw [viaClient_apply]
  cases hr : y ⟨s.client, s.far⟩ with
  | ok v l =>
    rw [hr] at hl
    obtain ⟨r, hv, hsame⟩ := hl
    exact harmless_settle (t := s.linked l) hv hsame op key start mayMiss
  | error e l =>
    rw [hr] at hl
    exact hl

/-- A timed query is atomic if it resolves to what is made of it. -/
lemma atomic_timed (op : Operation) (key : Value) (start : Float) {c : Call}
    {finish : c.Answer → Action (Session StoreClient Store) Outcome}
    (h : ∀ s, Databases.Rowed s.far.databases → Resolves s.far.databases finish (ask c s)) :
    Atomic (timed op key start c finish) := by
  intro s hs
  have hl := h s hs
  rw [timed_apply]
  cases hr : ask c s with
  | ok a t =>
    rw [hr] at hl
    exact hl
  | error e t =>
    rw [hr] at hl
    cases e with
    | operation e =>
      dsimp only
      rw [failure_apply]
      exact fun _ => hl
    | _ => exact hl

lemma atomic_update (t key values : Value) : Atomic (Session.update t key values) := by
  refine .whenConnected fun st => .now fun start => .given (fun row => ?_) _
  refine atomic_timed .update key start fun s hs => ?_
  exact resolves_write (StoreClient.reports_write (Table.reports_update key _) _ _ t) hs ..

lemma atomic_insert (t key values : Value) : Atomic (Session.insert t key values) := by
  refine .whenConnected fun st => ?_
  split
  · refine .now fun start => .given (fun row => ?_) _
    refine atomic_timed .insert key start fun s hs => ?_
    exact resolves_write (StoreClient.reports_write (Table.reports_insert _) _ _ t) hs ..
  · exact atomic_pure _

lemma atomic_delete (t key : Value) : Atomic (Session.delete t key) := by
  refine .whenConnected fun st => .now fun start => ?_
  refine atomic_timed .delete key start fun s hs => ?_
  exact resolves_write (StoreClient.reports_write (Table.reports_delete key) _ _ t) hs ..

end Session

/-- The request looks for records, and writes none. -/
def Request.isLookup : Request → Bool
  | read .. | scan .. => true
  | _ => false

/-- A request over databases of records leaves them as they were, unless it is a write and succeeds.
-/
theorem Request.atomic (r : Request) {s : Session StoreClient Store}
    (hs : Databases.Rowed s.far.databases) : match r.perform s with
      | .ok o t => o.status ≠ .ok ∨ r.isLookup = true → t.far.databases = s.far.databases
      | .error _ t => t.far.databases = s.far.databases := by
  -- lookups keep the databases whatever happens, writes have to be looked at one by one
  have hlookup (hr : r.isLookup = true) :
      Action.Keeps (fun t : Session StoreClient Store => t.far.databases = s.far.databases)
        (fun _ => True) (fun _ => True) r.perform := by
    have hk := Session.keeps_lookup s.far.databases
    have hd := Session.steady_databases s.far.databases
    cases r with
    | read t key fields => exact hd.keeps_read hk t key fields
    | scan t key count fields => exact hd.keeps_scan hk t key count fields
    | _ => cases hr
  have hwrite (hr : r.isLookup = false) : Session.Atomic r.perform := by
    cases r with
    | update t key values => exact Session.atomic_update t key values
    | insert t key values => exact Session.atomic_insert t key values
    | delete t key => exact Session.atomic_delete t key
    | _ => cases hr
  cases hr : r.isLookup with
  | true =>
    have h := hlookup hr s rfl
    cases hx : r.perform s with
    | ok o t =>
      rw [hx] at h
      exact fun _ => h.1
    | error e t =>
      rw [hx] at h
      exact h.1
  | false =>
    have h := hwrite hr s hs
    cases hx : r.perform s with
    | ok o t =>
      rw [hx] at h
      exact fun ho => h (ho.resolve_right Bool.false_ne_true)
    | error e t =>
      rw [hx] at h
      exact h

end CrudBench
