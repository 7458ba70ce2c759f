import CrudBench.Proofs.Alike
import CrudBench.Proofs.Store.PrimaryKey

/-!
# Requests that commute

Two plain requests are apart if neither writes a record that the other is about. What each of them
concludes with does not depend on the other, and together they lead to the same contents in either
order. So backends that share a store may be told requests that are apart in either order, and each
is answered the same (`World.requests_commute`).
-/

namespace CrudBench

/-- What is set below a key changes nothing from there on. -/
lemma SortedMap.startingAt_set {α : Type u} (m : SortedMap α) {low k : String} (h : ¬low ≤ k)
    (x : Option α) : (m.set k x).startingAt low = m.startingAt low := by
  refine ext_get? fun j => ?_
  rw [startingAt, startingAt, get?_filterKeys, get?_filterKeys]
  split
  next hj =>
    have hne : j ≠ k := by
      rintro rfl
      exact h (of_decide_eq_true hj)
    rw [get?_set, if_neg hne]
  · rfl

/-! ## Conclusions but for latencies -/

lemma Receipt.untimed_verdict (r : Receipt) (wanted : Counter) (mayMiss : Bool) (l l' : Latency) :
    (r.verdict wanted mayMiss l).untimed = (r.verdict wanted mayMiss l').untimed := by
  rw [verdict]
  split
  · rfl
  · split <;> rfl

lemma Verb.untimed_conclude (verb : Verb) (key : String) (cell : Option Row) (l l' : Latency) :
    ((verb.conclude key cell).1 l).untimed = ((verb.conclude key cell).1 l').untimed := by
  cases verb with
  | read fields => cases cell <;> rfl
  | _ => exact Receipt.untimed_verdict _ _ _ l l'

namespace PlainRequest

/-- What a request concludes with is the same for any latency, but for that. -/
lemma untimed_conclude (r : PlainRequest) (db : String) (m : Contents) (l l' : Latency) :
    ((r.conclude db m).1 l).untimed = ((r.conclude db m).1 l').untimed := by
  cases h : r.shortcut? with
  | some o => rw [conclude_of_shortcut h]
  | none =>
    cases hc : m.at? db r.table with
    | none =>
      rw [conclude_of_none h hc]
      rfl
    | some cells =>
      rw [conclude_of_some h hc]
      cases r with
      | point r => exact r.verb.untimed_conclude r.key (cells.get? r.key) l l'
      | range t start count fields => rfl

/-! ## What requests are about -/

/-- The keys that a request is about. -/
def Covers (k : String) : PlainRequest → Prop
  | point r => k = r.key
  | range _ start _ _ => start ≤ k

/-- A request to a database is about the record under this key of a table. -/
def Regards (r : PlainRequest) (own db t k : String) : Prop := db = own ∧ t = r.table ∧ r.Covers k

/-- The requests, one to each of two databases, are apart: an operation on one record is about
another record than the other operation, or about none of the other's range. -/
def Apart (db : String) (p : PlainRequest) (db' : String) (q : PlainRequest) : Prop :=
  match p, q with
  | point r, point r' => db ≠ db' ∨ r.table ≠ r'.table ∨ r.key ≠ r'.key
  | point r, range t start _ _ => db ≠ db' ∨ r.table ≠ t ∨ r.key < start
  | range t start _ _, point r => db ≠ db' ∨ t ≠ r.table ∨ r.key < start
  | range .., range .. => True

variable {db db' : String} {p q : PlainRequest}

lemma Apart.symm (h : Apart db p db' q) : Apart db' q db p := by
  cases p with
  | point r =>
    cases q with
    | point r' => exact h.imp Ne.symm (Or.imp Ne.symm Ne.symm)
    | range => exact h.imp Ne.symm (Or.imp_left Ne.symm)
  | range =>
    cases q with
    | point r => exact h.imp Ne.symm (Or.imp_left Ne.symm)
    | range => trivial

lemma Apart.not_regards {r : PointRequest} (h : Apart db (point r) db' q) :
    ¬q.Regards db' db r.table r.key := by
  rintro ⟨hdb, ht, hk⟩
  cases q with
  | point r' =>
    rcases h with h | h | h
    · exact h hdb
    · exact h ht
    · exact h hk
  | range t start count fields =>
    rcases h with h | h | h
    · exact h hdb
    · exact h ht
    · exact String.not_le.2 h hk

/-! ## Contents -/

lemma onCells_set {k : String} (h : ¬q.Covers k) (cells : SortedMap Row) (cell : Option Row) :
    (q.onCells (cells.set k cell)).1 = (q.onCells cells).1 := by
  cases q with
  | point r =>
    have hk : r.key ≠ k := fun hk => h hk.symm
    rw [onCells, onCells, SortedMap.get?_set, if_neg hk]
  | range t start count fields =>
    rw [onCells, onCells, SortedMap.shownFrom, cells.startingAt_set h]
    rfl

/-- A request concludes with the same if a record is changed that it is not about. -/
lemma conclude_setCell {own t k : String} (h : ¬q.Regards own db t k) (m : Contents)
    (cell : Option Row) : (q.conclude own (m.setCell db t k cell)).1 = (q.conclude own m).1 := by
  cases hs : q.shortcut? with
  | some o => rw [conclude_of_shortcut hs, conclude_of_shortcut hs]
  | none =>
    -- its table is there or not as before, and differs in a key at most that it does not cover
    have hset := m.at?_setCell db t k cell own q.table
    cases hc : m.at? own q.table with
    | none =>
      rw [hc, Option.map_none, ite_self] at hset
      rw [conclude_of_none hs hset, conclude_of_none hs hc]
    | some cells =>
      rw [hc, Option.map_some] at hset
      rw [conclude_of_some hs hc]
      split at hset
      next he =>
        rw [conclude_of_some hs hset]
        exact onCells_set (fun hk => h ⟨he.1.symm, he.2.symm, hk⟩) cells cell
      · rw [conclude_of_some hs hset]

/-- What a request concludes with is the same after another one that is apart from it. -/
lemma Apart.conclude_after (h : Apart db p db' q) (m : Contents) :
    (q.conclude db' (p.conclude db m).2).1 = (q.conclude db' m).1 := by
  cases p with
  | point r =>
    rw [r.conclude_point]
    exact conclude_setCell h.not_regards m _
  | range => rw [conclude_range]

/-- Requests that are apart lead to the same contents in either order. -/
lemma Apart.conclude_comm (h : Apart db p db' q) (m : Contents) :
    (q.conclude db' (p.conclude db m).2).2 = (p.conclude db (q.conclude db' m).2).2 := by
  cases p with
  | range => rw [conclude_range, conclude_range]
  | point r =>
    cases q with
    | range => rw [conclude_range, conclude_range]
    | point r' =>
      have hne : ¬(db = db' ∧ r.table = r'.table ∧ r.key = r'.key) := h.not_regards
      have hne' : ¬(db' = db ∧ r'.table = r.table ∧ r'.key = r.key) := h.symm.not_regards
      simp only [PointRequest.conclude_point, Contents.cell?_setCell_of_ne hne,
        Contents.cell?_setCell_of_ne hne']
      exact Contents.setCell_comm hne' m _ _

/-- The turn in which a backend is told to carry the request out. -/
def turn (r : PlainRequest) (i : Nat) : Turn StoreClient Store := .tell i (.request r.request)

end PlainRequest

/-! ## Backends that share a store -/

namespace World

variable {w : World StoreClient Store} {i j : Nat} {st st' : Settings}

/-- What the store holds. -/
def contents (w : World StoreClient Store) : Contents := w.site.far.databases.records

/-- The backend works on a store of records with these settings, and is not armed. -/
def Serves (w : World StoreClient Store) (i : Nat) (st : Settings) : Prop :=
  ∃ s, w.session? i = some s ∧ s.Serves st

/-- After what a session did that has kept its backend, whoever has served serves on. -/
lemma Serves.absorb {s t : Session StoreClient Store} (hs : w.session? i = some s)
    (hb : t.toBackend = s.toBackend) (hr : t.far.databases.Recorded) (h : w.Serves j st) :
    (w.absorb i t).Serves j st := by
  obtain ⟨u, hu, hserves⟩ := h
  rw [Serves, session?_absorb hs]
  split
  next hj =>
    subst hj
    cases hs.symm.trans hu
    exact ⟨t, rfl, hserves.of_eq hb hr⟩
  next =>
    rw [hu]
    exact ⟨_, rfl, hserves.of_eq rfl hr⟩

/-- A backend that serves concludes with what the contents tell, and leaves the contents that they
tell. Whoever has served serves on. -/
lemma Serves.step (h : w.Serves i st) (r : PlainRequest) :
    (∃ e latency, w.episode? (r.turn i) = some e ∧
      e.result = .ok (.outcome ((r.conclude st.database w.contents).1 latency))) ∧
      (w.step (r.turn i)).contents = (r.conclude st.database w.contents).2 ∧
      ∀ j st', w.Serves j st' → (w.step (r.turn i)).Serves j st' := by
  obtain ⟨s, hs, hserves⟩ := h
  obtain ⟨latency, t, ht, hb, hr, hc⟩ := hserves.concludes r
  have hcontents : w.contents = s.contents := by
    rw [contents, (session?_eq_some.1 hs).2]
    rfl
  have hafter : w.step (r.turn i) = w.absorb i t := by
    rw [PlainRequest.turn, step_tell hs, Command.episode_request, Action.outcome, ht]
  rw [hafter, hcontents]
  refine ⟨⟨(Command.request r.request).episode i s, latency, ?_, ?_⟩, hc,
    fun j st' => Serves.absorb hs hb hr⟩
  · rw [PlainRequest.turn, episode?, hs]
    rfl
  · rw [Command.episode_request, Action.outcome, ht]
    rfl

/-- Of two requests, one after the other, each concludes with what the contents tell by then. -/
lemma Serves.run_two (hi : w.Serves i st) (hj : w.Serves j st') (p q : PlainRequest) :
    (∃ l l', (run [p.turn i, q.turn j] w).map (·.result) =
      [.ok (.outcome ((p.conclude st.database w.contents).1 l)),
        .ok (.outcome ((q.conclude st'.database (p.conclude st.database w.contents).2).1 l'))]) ∧
      (w.after [p.turn i, q.turn j]).contents =
        (q.conclude st'.database (p.conclude st.database w.contents).2).2 ∧
      (w.after [p.turn i, q.turn j]).Serves i st := by
  obtain ⟨⟨e, l, he, hresult⟩, hcontents, hon⟩ := hi.step p
  obtain ⟨⟨e', l', he', hresult'⟩, hcontents', hon'⟩ := (hon j st' hj).step q
  rw [hcontents] at hresult' hcontents'
  refine ⟨⟨l, l', ?_⟩, hcontents', hon' i st (hon i st hi)⟩
  rw [← hresult, ← hresult', run, run, run, he, he']
  rfl

/-- Two turns come to the same in either order. Each is answered with an outcome that is the same
but for its latency. In the end the databases hold records only, and the same ones. -/
structure Commute (w : World StoreClient Store) (x y : Turn StoreClient Store) : Prop where
  answers : ∃ o o' u u', (run [x, y] w).map (·.result) = [.ok (.outcome o), .ok (.outcome u)] ∧
    (run [y, x] w).map (·.result) = [.ok (.outcome u'), .ok (.outcome o')] ∧
      o.untimed = o'.untimed ∧ u.untimed = u'.untimed
  recorded : (w.after [x, y]).site.far.databases.Recorded ∧
    (w.after [y, x]).site.far.databases.Recorded
  contents : (w.after [x, y]).contents = (w.after [y, x]).contents

lemma Serves.recorded (h : w.Serves i st) : w.site.far.databases.Recorded := by
  obtain ⟨s, hs, hserves⟩ := h
  rw [(session?_eq_some.1 hs).2]
  exact hserves.recorded

lemma Serves.commute (hi : w.Serves i st) (hj : w.Serves j st') {p q : PlainRequest}
    (h : PlainRequest.Apart st.database p st'.database q) :
    w.Commute (p.turn i) (q.turn j) := by
  -- whichever comes second meets contents in which its own cells are as they were
  obtain ⟨⟨l, l', hrun⟩, hcontents, hafter⟩ := hi.run_two hj p q
  obtain ⟨⟨k, k', hrun'⟩, hcontents', hafter'⟩ := hj.run_two hi q p
  rw [h.conclude_after] at hrun
  rw [h.symm.conclude_after] at hrun'
  refine ⟨⟨_, _, _, _, hrun, hrun', p.untimed_conclude _ _ _ _, q.untimed_conclude _ _ _ _⟩,
    ⟨hafter.recorded, hafter'.recorded⟩, ?_⟩
  rw [hcontents, hcontents', h.conclude_comm]

variable {site : Site Store} {vs : List Visit} {s u : Session StoreClient Store}

/-- Whatever visits there were to a store that now holds records, two backends that are connected
and not armed may carry requests out in either order, if these are apart for the databases of the
two. -/
theorem requests_commute (hd : (visited site vs).site.far.databases.Recorded)
    (hs : (visited site vs).session? i = some s) (hsc : s.connected = true)
    (hsa : s.client.armed = none) (hu : (visited site vs).session? j = some u)
    (huc : u.connected = true) (hua : u.client.armed = none) :
    ∃ st st', s.settings = some st ∧ u.settings = some st' ∧
      ∀ p q, PlainRequest.Apart st.database p st'.database q →
        (visited site vs).Commute (p.turn i) (q.turn j) := by
  have hserves {j : Nat} {u : Session StoreClient Store}
      (hu : (visited site vs).session? j = some u) (hc : u.connected = true)
      (ha : u.client.armed = none) :
      ∃ st, u.settings = some st ∧ (visited site vs).Serves j st := by
    obtain ⟨st, hst⟩ := Option.isSome_iff_exists.1 ((sound_of_visited hu).settings hc)
    rw [(session?_eq_some.1 hu).2] at hd
    exact ⟨st, hst, u, hu, hc, hst, ha, hd⟩
  obtain ⟨st, hst, hi⟩ := hserves hs hsc hsa
  obtain ⟨st', hst', hj⟩ := hserves hu huc hua
  exact ⟨st, st', hst, hst', fun p q h => hi.commute hj h⟩

/-- Two backends share a table with one record. While one deletes it, the other puts another in; and
while one puts a record in, the other scans from a key above it on. -/
theorem requests_commute_shared :
    let site : Site Store := ⟨.empty, ⟨[], []⟩, .empty, .new [1], [],
      ⟨.single "ycsb" "usertable" "m" (Row.stored .empty "m"), []⟩⟩
    let vs : List Visit := [.join .empty false [], .join .empty false [], .tell 0 .init,
      .tell 1 .init]
    let drop : PlainRequest := .point ⟨"usertable", "m", .delete⟩
    let add : PlainRequest := .point ⟨"usertable", "k", .insert .empty⟩
    let list : PlainRequest := .range "usertable" "l" 9 ["__pk__"]
    (visited site vs).site.far.databases.Recorded ∧
      (∀ i < 2, ((visited site vs).session? i).any (fun s => s.connected &&
        s.client.armed.isNone && s.settings.any (·.database == "ycsb")) = true) ∧
      (visited site vs).Commute (drop.turn 0) (add.turn 1) ∧
      (visited site vs).Commute (add.turn 0) (list.turn 1) := by
  intro site vs drop add list
  have hd : (visited site vs).site.far.databases.Recorded :=
    recorded_of_visited (Databases.recorded_single "ycsb" "usertable" "m" _)
      (by simp [vs, Visit.Plain])
  have hready : ∀ i < 2, ((visited site vs).session? i).any (fun s => s.connected &&
      s.client.armed.isNone && s.settings.any (·.database == "ycsb")) = true := by
    decide +kernel
  have hcommute := fun s u => @requests_commute 0 1 site vs s u hd
  refine ⟨hd, hready, ?_⟩
  generalize visited site vs = w at hready hcommute ⊢
  have hget {i : Nat} (hi : i < 2) : ∃ s, w.session? i = some s ∧ s.connected = true ∧
      s.client.armed = none ∧ ∀ st, s.settings = some st → st.database = "ycsb" := by
    obtain ⟨s, hs, hx⟩ := (Option.any_eq_true ..).1 (hready i hi)
    simp only [Bool.and_eq_true, Option.isNone_iff_eq_none] at hx
    refine ⟨s, hs, hx.1.1, hx.1.2, fun st hst => ?_⟩
    simpa [hst] using hx.2
  obtain ⟨s, hs, hsc, hsa, hsd⟩ := hget (i := 0) (by decide)
  obtain ⟨u, hu, huc, hua, hud⟩ := hget (i := 1) (by decide)
  obtain ⟨st, st', hst, hst', h⟩ := hcommute s u hs hsc hsa hu huc hua
  rw [hsd st hst, hud st' hst'] at h
  exact ⟨h drop add (.inr (.inr (by decide))), h add list (.inr (.inr (by decide)))⟩

end World

end CrudBench
