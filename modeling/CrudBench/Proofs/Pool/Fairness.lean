import CrudBench.Proofs.Pool.Isolation
import CrudBench.Proofs.Pool.Turns

/-!
# Hosts under any schedule

Threads take hosts from pools, pools are made and shared, and which pools are shared is forgotten
now and then. Whatever the schedule, hosts are taken evenly from each pool, no pool disturbs
another, and who shares a pool with whom is decided by their hosts and the resets in between
(`PoolScene.run_fair`).
-/

namespace CrudBench

/-! ## Who shares a pool -/

namespace PoolScene

variable {c d : PoolScene} {x : PoolStep}

/-- Only sharing and resetting change which pools are shared. -/
lemma shared_step (h : c.step x = some d) : d.table.shared = c.table.shared ∨
    (∃ hosts, x = .share hosts ∧ d.table = (c.table.share hosts).2) ∨
      x = .reset ∧ d.table = c.table.reset := by
  cases x with
  | share hosts =>
    cases h
    exact .inr (.inl ⟨hosts, rfl, rfl⟩)
  | reset =>
    cases h
    exact .inr (.inr ⟨rfl, rfl⟩)
  | make hosts =>
    cases h
    exact .inl rfl
  | draw i id =>
    obtain ⟨-, p, -, rfl⟩ := step_draw_iff.1 h
    exact .inl rfl
  | settle i id =>
    obtain ⟨e, host, -, -, rfl⟩ := step_settle_iff.1 h
    exact .inl rfl

lemma sound_step (hc : c.table.Sound) (h : c.step x = some d) : d.table.Sound := by
  obtain hs | ⟨hosts, -, hs⟩ | ⟨-, hs⟩ := shared_step h
  · intro hosts id hid
    obtain ⟨n, hp⟩ := hc hosts id (hs ▸ hid)
    exact ⟨_, pool_step h hp⟩
  · obtain ⟨id, t, ht, hsound, -⟩ := hc.share hosts
    rw [hs, ht]
    exact hsound
  · rw [hs]
    nofun

end PoolScene

namespace HostPools

variable {t : HostPools} {hosts other : HostList} {id b : Nat}

/-- A pool stays the shared one of its hosts, whoever else shares a pool. -/
lemma lookup_share (h : t.shared.lookup hosts = some id) (other : HostList) :
    (t.share other).2.shared.lookup hosts = some id := by
  rw [share]
  cases ho : t.shared.lookup other with
  | some id' => exact h
  | none =>
    show (t.shared ++ [(other, t.pools.length)]).lookup hosts = some id
    rw [List.lookup_append, h, Option.some_or]

/-- All shared pools come after the first ones, as many as told. -/
def SharedFrom (b : Nat) (t : HostPools) : Prop :=
  b ≤ t.pools.length ∧ ∀ hosts id, t.shared.lookup hosts = some id → b ≤ id

lemma SharedFrom.share (h : t.SharedFrom b) (hosts : HostList) :
    b ≤ (t.share hosts).1 ∧ (t.share hosts).2.SharedFrom b := by
  rw [HostPools.share]
  cases hl : t.shared.lookup hosts with
  | some id => exact ⟨h.2 hosts id hl, h⟩
  | none =>
    refine ⟨h.1, ?_, fun other id hid => ?_⟩
    · show b ≤ (t.pools ++ [HostPool.new hosts]).length
      rw [List.length_append]
      exact Nat.le_add_right_of_le h.1
    · change (t.shared ++ [(hosts, t.pools.length)]).lookup other = some id at hid
      rw [List.lookup_append] at hid
      cases ho : t.shared.lookup other with
      | some id' =>
        rw [ho, Option.some_or] at hid
        cases hid
        exact h.2 other _ ho
      | none =>
        rw [ho, Option.none_or, List.lookup_cons] at hid
        split at hid
        · cases hid
          exact h.1
        · cases hid

end HostPools

namespace PoolScene

variable {c d : PoolScene} {x : PoolStep} {xs ys : List PoolStep}

lemma length_pools_step (h : c.step x = some d) :
    c.table.pools.length ≤ d.table.pools.length := by
  obtain ⟨t, ⟨fresh, ht⟩, rfl⟩ | ⟨i, id, p, -, -, rfl⟩ | ⟨e, -, host, -, rfl⟩ := step_cases h
  · exact (Nat.le_add_right _ _).trans_eq (by rw [ht, List.length_append])
  · exact (List.length_set ..).ge
  · exact Nat.le_refl _

lemma sharedFrom_step {b : Nat} (hc : c.table.SharedFrom b) (h : c.step x = some d) :
    d.table.SharedFrom b := by
  have hlen := hc.1.trans (length_pools_step h)
  obtain hs | ⟨hosts, -, hs⟩ | ⟨-, hs⟩ := shared_step h
  · exact ⟨hlen, hs ▸ hc.2⟩
  · exact hs ▸ (hc.share hosts).2
  · exact hs ▸ ⟨hc.1, nofun⟩

/-- Without a reset, a shared pool stays the shared one. -/
lemma lookup_of_run {hosts : HostList} {id : Nat} (h : run xs c = some d)
    (hr : PoolStep.reset ∉ xs) (hl : c.table.shared.lookup hosts = some id) :
    d.table.shared.lookup hosts = some id := by
  induction xs generalizing c with
  | nil =>
    cases h
    exact hl
  | cons x xs ih =>
    obtain ⟨c', hx, h⟩ := Option.bind_eq_some_iff.1 h
    rw [List.mem_cons, not_or] at hr
    refine ih h hr.2 ?_
    obtain hs | ⟨other, -, hs⟩ | ⟨rfl, -⟩ := shared_step hx
    · rw [hs, hl]
    · rw [hs]
      exact HostPools.lookup_share hl other
    · exact absurd rfl hr.1

/-- After a reset, nobody shares a pool that was there before. -/
lemma sharedFrom_of_run (h : run xs c = some d) (hr : PoolStep.reset ∈ xs) :
    d.table.SharedFrom c.table.pools.length := by
  obtain ⟨before, after, rfl⟩ := List.append_of_mem hr
  rw [run_append] at h
  obtain ⟨c', hbefore, h⟩ := Option.bind_eq_some_iff.1 h
  have hlen : c.table.pools.length ≤ c'.table.pools.length :=
    run_induction (P := fun c' => c.table.pools.length ≤ c'.table.pools.length)
      (fun hle hx => hle.trans (length_pools_step hx)) (Nat.le_refl _) hbefore
  have hreset : c'.table.reset.SharedFrom c.table.pools.length := ⟨hlen, nofun⟩
  exact run_induction (c := { c' with table := c'.table.reset }) sharedFrom_step hreset h

/-- Whoever shares a pool later gets the same one if the hosts are the same, one by one, and nothing
was reset in between, and no other time. -/
lemma same_pool_iff (hc : c.table.Sound) {hosts hosts' : HostList}
    (h : run (.share hosts :: ys) c = some d) :
    (c.table.share hosts).1 = (d.table.share hosts').1 ↔
      hosts.names = hosts'.names ∧ PoolStep.reset ∉ ys := by
  obtain ⟨id, t, ht, hsound, hl, hp, -⟩ := hc.share hosts
  have h : run ys { c with table := t } = some d := by
    rw [run, step, ht] at h
    exact h
  obtain ⟨hlt, -⟩ := List.getElem?_eq_some_iff.1 hp
  have hd : d.table.Sound := run_induction (P := fun c => c.table.Sound) sound_step hsound h
  obtain ⟨id', t', ht', -, -, hp', -⟩ := hd.share hosts'
  rw [ht, ht']
  constructor
  · rintro rfl
    constructor
    · -- the pool has the hosts of the first, and of the second who shares it
      have hd' := (d.table.extends_share hosts').pool (pool_of_run h hp)
      rw [ht'] at hd'
      exact congrArg HostList.names (congrArg HostPool.hosts (Option.some.inj (hd'.symm.trans hp')))
    · intro hr
      have hle := ((sharedFrom_of_run h hr).share hosts').1
      rw [ht'] at hle
      exact absurd hlt (Nat.not_lt.2 hle)
  · rintro ⟨hnames, hr⟩
    obtain rfl : hosts = hosts' := by
      cases hosts
      cases hosts'
      cases hnames
      rfl
    have hl' := lookup_of_run h hr hl
    rw [HostPools.share, hl'] at ht'
    cases ht'
    rfl

/-! ## All together -/

/-- So many calls took hosts from a pool of these hosts. -/
structure Served (c : PoolScene) (id : Nat) (hosts : HostList) (calls : Nat) : Prop where
  /-- Each of them has drawn a turn; for some, the host may not have been looked up yet. -/
  length : (c.settled id ++ c.inFlight id).length = calls
  even : hosts.Even (c.settled id ++ c.inFlight id)
  /-- Each of those whose turn was looked up has got the host of its turn. -/
  got : c.hosts id = (c.settled id).map hosts.cycle
  /-- Once nobody is about to look up a host, that goes for the hosts that were got. -/
  complete : c.inFlight id = [] → (c.settled id).length = calls ∧ hosts.Even (c.settled id)

/-- What threads that take hosts can rely on, after the steps of a schedule. -/
structure Fair (c : PoolScene) (xs : List PoolStep) : Prop where
  /-- A thread that is not taking a host can begin to take one from any pool. -/
  starts : ∀ i id, i ∉ c.pending.map (·.thread) → id < c.table.pools.length →
    ∃ d, c.step (.draw i id) = some d
  /-- A thread that has drawn a turn gets the host of this turn. -/
  ends : ∀ e ∈ c.pending, ∃ host d, c.step (.settle e.thread e.pool) = some d ∧
    d.picks = c.picks ++ [(e, host)]
  /-- If nothing comes between its halves, a thread takes the host that is taken at once, and leaves
  the same pools. -/
  atOnce : ∀ i id, i ∉ c.pending.map (·.thread) → ∀ host t,
    c.table.take? id = some (host, t) ↔ ∃ turn, run [.draw i id, .settle i id] c =
      some ⟨t, c.pending, c.picks ++ [(⟨i, id, turn⟩, host)]⟩
  /-- Whoever got a host got the host of its turn, around the list of the pool. -/
  returned : ∀ x ∈ c.picks, ∃ p, c.table.pools[x.1.pool]? = some p ∧
    p.hosts.names[x.1.turn % p.hosts.names.length]? = some x.2
  /-- As many calls took hosts from a pool as turns were drawn from it. -/
  served : ∀ id p, c.table.pools[id]? = some p →
    p.taken = xs.countP (·.drawsFrom id) ∧ c.Served id p.hosts p.taken
  /-- A thread gets later turns of a pool later. -/
  increasing : c.draws.Pairwise fun e e' =>
    e.thread = e'.thread → e.pool = e'.pool → e.turn < e'.turn
  /-- Had nobody taken a host from any other pool, this pool would have given the same turns and the
  same hosts to the same threads, and the same pools would be shared. -/
  isolated : ∀ id, run (xs.filter (·.concerns id)) empty = some (c.alone id)
  /-- Two who share a pool get the same one only for the same hosts, and only until a reset. -/
  shared : ∀ hosts hosts' ys d, run (.share hosts :: ys) c = some d →
    ((c.table.share hosts).1 = (d.table.share hosts').1 ↔
      hosts.names = hosts'.names ∧ PoolStep.reset ∉ ys)
  /-- A pool goes on counting where it stands, also after a reset. -/
  kept : ∀ ys (d : PoolScene) (id : Nat) p, run ys c = some d → c.table.pools[id]? = some p →
    d.table.pools[id]? = some ⟨p.hosts, p.taken + ys.countP (·.drawsFrom id)⟩

/-- The hosts that were got from a pool are those of the turns that were looked up. -/
lemma Orderly.hosts_eq (h : c.Orderly) {id : Nat} {p : HostPool}
    (hp : c.table.pools[id]? = some p) : c.hosts id = (c.settled id).map p.hosts.cycle := by
  rw [hosts, settled, Draw.turnsOf, List.filter_map, List.map_map, List.map_map]
  refine List.map_congr_left fun x hx => ?_
  obtain ⟨hx, hid⟩ := List.mem_filter.1 hx
  have hhost := h.returned x hx
  rw [of_decide_eq_true hid, HostPools.hostOf?_eq hp] at hhost
  exact (Option.some.inj hhost).symm

lemma Orderly.served (h : c.Orderly) {id : Nat} {p : HostPool}
    (hp : c.table.pools[id]? = some p) : c.Served id p.hosts p.taken := by
  have hperm : (c.settled id ++ c.inFlight id).Perm (List.range p.taken) := by
    have := h.counted id p hp
    rwa [draws, Draw.turnsOf_append] at this
  have hlength := hperm.length_eq.trans List.length_range
  have heven : p.hosts.Even (c.settled id ++ c.inFlight id) := HostList.even_of_perm hperm
  refine ⟨hlength, heven, h.hosts_eq hp, fun hnone => ?_⟩
  rw [hnone, List.append_nil] at hlength heven
  exact ⟨hlength, heven⟩

lemma Orderly.ends (h : c.Orderly) {e : Draw} (he : e ∈ c.pending) :
    ∃ host d, c.step (.settle e.thread e.pool) = some d ∧ d.picks = c.picks ++ [(e, host)] := by
  have hlt := h.placed e (List.mem_append_right _ he)
  have hhost := HostPools.hostOf?_eq (List.getElem?_eq_getElem hlt) e.turn
  have hfind : c.pending.find? (fun e' => e'.thread = e.thread ∧ e'.pool = e.pool) = some e := by
    cases hf : c.pending.find? (fun e' => e'.thread = e.thread ∧ e'.pool = e.pool) with
    | none => simpa using List.find?_eq_none.1 hf e he
    | some e' =>
      obtain ⟨hmem, hthread, -⟩ := find_pending hf
      rw [List.inj_on_of_nodup_map h.single hmem he hthread]
  exact ⟨_, _, step_settle_iff.2 ⟨e, _, hfind, hhost, rfl⟩, rfl⟩

/-- Whatever the schedule of the threads, with whatever pools, shared or not, and whatever is reset,
hosts are taken evenly from every pool, and no pool disturbs another. -/
theorem run_fair (h : run xs empty = some c) : c.Fair xs := by
  have ho := orderly_of_run h
  have hsound : c.table.Sound :=
    run_induction (P := fun c => c.table.Sound) sound_step HostPools.sound_empty h
  refine ⟨fun i id hi hlt => ?_, fun e he => ho.ends he, fun i id hi host t => run_draw_settle hi,
    fun x hx => Option.bind_eq_some_iff.1 (ho.returned x hx), fun id p hp => ⟨?_, ho.served hp⟩,
    ho.increasing, fun id => run_alone h, fun hosts hosts' ys d => same_pool_iff hsound,
    fun ys d id p => pool_of_run⟩
  · exact ⟨_, step_draw_iff.2 ⟨hi, _, List.getElem?_eq_getElem hlt, rfl⟩⟩
  · rw [← (ho.counted id p hp).length_eq.trans List.length_range, length_turns_of_run h id]
    exact Nat.zero_add _

/-- A thread is overtaken by another one while it takes a host, and by a reset. -/
theorem run_fair_overtaken :
    let hosts : HostList := ⟨["db1", "db2", "db1"], nofun⟩
    let xs : List PoolStep := [.share hosts, .draw 0 0, .draw 1 0, .settle 1 0, .reset,
      .share hosts, .draw 1 1, .settle 0 0, .settle 1 1, .draw 1 0, .settle 1 0]
    ∃ c, run xs empty = some c ∧ c.Fair xs ∧ c.hosts 0 = ["db2", "db1", "db1"] ∧
      c.hosts 1 = ["db1"] := by
  intro hosts xs
  exact ⟨_, rfl, run_fair rfl, by decide, by decide⟩

end PoolScene

end CrudBench
