import CrudBench.Proofs.Pool.Schedule

/-!
# Pools on their own

A pool counts the turns that are drawn from it, and nothing else. Had nobody taken a host from any
other pool, everything else would have come to the same (`PoolScene.run_alone`).
-/

namespace CrudBench

namespace HostPools

variable {t : HostPools} {id : Nat} {p : HostPool}

/-- The table in which nothing was ever taken from any other pool. -/
def alone (id : Nat) (t : HostPools) : HostPools :=
  { t with pools := t.pools.mapIdx fun j p => if j = id then p else .new p.hosts }

lemma alone_pool (id : Nat) (t : HostPools) : (t.alone id).pools[id]? = t.pools[id]? := by
  simp [alone]

lemma alone_add (id : Nat) (t : HostPools) (hosts : HostList) :
    (t.alone id).add hosts = ((t.add hosts).1, (t.add hosts).2.alone id) := by
  simp [alone, add, HostPool.new]

lemma alone_share (id : Nat) (t : HostPools) (hosts : HostList) :
    (t.alone id).share hosts = ((t.share hosts).1, (t.share hosts).2.alone id) := by
  rw [share, share, show (t.alone id).shared = t.shared from rfl]
  cases t.shared.lookup hosts with
  | some id' => rfl
  | none => simp [alone, add, HostPool.new]

lemma alone_set (t : HostPools) (id : Nat) (p : HostPool) :
    alone id { t with pools := t.pools.set id p } =
      { t.alone id with pools := (t.alone id).pools.set id p } := by
  rw [alone, alone]
  congr 1
  refine List.ext_getElem? fun j => ?_
  by_cases hj : id = j
  · subst hj
    simp [List.getElem?_set]
  · simp [List.getElem?_set_ne hj]

/-- What another pool has given out is not told. -/
lemma alone_set_ne {id' : Nat} (h : id' ≠ id) (hp : t.pools[id']? = some p) :
    alone id { t with pools := t.pools.set id' p.advance } = t.alone id := by
  obtain ⟨hlt, -⟩ := List.getElem?_eq_some_iff.1 hp
  rw [alone, alone]
  congr 1
  refine List.ext_getElem? fun j => ?_
  by_cases hj : id' = j
  · subst hj
    rw [List.getElem?_mapIdx, List.getElem?_mapIdx, List.getElem?_set_self hlt, hp]
    simp only [Option.map_some, if_neg h, HostPool.advance]
  · rw [List.getElem?_mapIdx, List.getElem?_mapIdx, List.getElem?_set_ne hj]

end HostPools

namespace PoolScene

variable {c d : PoolScene} {x : PoolStep} {xs : List PoolStep}

lemma length_turns_step (h : c.step x = some d) (id : Nat) :
    (Draw.turnsOf id d.draws).length =
      (Draw.turnsOf id c.draws).length + if x.drawsFrom id then 1 else 0 := by
  cases x with
  | draw i id' =>
    obtain ⟨-, p, -, rfl⟩ := step_draw_iff.1 h
    rw [draws_concat, Draw.turnsOf_append, List.length_append, Draw.turnsOf_singleton]
    by_cases he : id' = id <;> simp [PoolStep.drawsFrom, he]
  | settle i id' =>
    obtain ⟨e, host, he, -, rfl⟩ := step_settle_iff.1 h
    exact (Draw.turnsOf_perm (perm_draws (find_pending he).1 host)).length_eq
  | _ =>
    cases h
    rfl

/-- As many turns of a pool were drawn as there were steps to draw one. -/
lemma length_turns_of_run (h : run xs c = some d) (id : Nat) :
    (Draw.turnsOf id d.draws).length =
      (Draw.turnsOf id c.draws).length + xs.countP (·.drawsFrom id) := by
  induction xs generalizing c with
  | nil =>
    cases h
    rfl
  | cons x xs ih =>
    obtain ⟨c', hx, h⟩ := Option.bind_eq_some_iff.1 h
    rw [ih h, length_turns_step hx, List.countP_cons]
    omega

lemma pool_step {id : Nat} {p : HostPool} (h : c.step x = some d)
    (hp : c.table.pools[id]? = some p) :
    d.table.pools[id]? = some ⟨p.hosts, p.taken + if x.drawsFrom id then 1 else 0⟩ := by
  obtain ⟨hlt, -⟩ := List.getElem?_eq_some_iff.1 hp
  cases x with
  | make hosts =>
    cases h
    exact HostPools.Extends.pool ⟨[hosts], rfl⟩ hp
  | share hosts =>
    cases h
    exact (c.table.extends_share hosts).pool hp
  | reset =>
    cases h
    exact hp
  | draw i id' =>
    obtain ⟨-, q, hq, rfl⟩ := step_draw_iff.1 h
    by_cases he : id' = id
    · subst he
      cases hq.symm.trans hp
      simp only [PoolStep.drawsFrom, decide_true, if_true]
      exact List.getElem?_set_self hlt
    · simp only [PoolStep.drawsFrom, he, decide_false, Bool.false_eq_true, if_false]
      exact (List.getElem?_set_ne he).trans hp
  | settle i id' =>
    obtain ⟨e, host, -, -, rfl⟩ := step_settle_iff.1 h
    exact hp

/-- A pool stays where it is, with its hosts, and only drawing from it counts. -/
lemma pool_of_run {id : Nat} {p : HostPool} (h : run xs c = some d)
    (hp : c.table.pools[id]? = some p) :
    d.table.pools[id]? = some ⟨p.hosts, p.taken + xs.countP (·.drawsFrom id)⟩ := by
  induction xs generalizing c p with
  | nil =>
    cases h
    exact hp
  | cons x xs ih =>
    obtain ⟨c', hx, h⟩ := Option.bind_eq_some_iff.1 h
    rw [ih h (pool_step hx hp), List.countP_cons, Nat.add_right_comm, Nat.add_assoc]

/-- The scene in which nobody has ever taken a host from any other pool. -/
def alone (id : Nat) (c : PoolScene) : PoolScene :=
  ⟨c.table.alone id, c.pending.filter (·.pool = id), c.picks.filter (·.1.pool = id)⟩

/-- A step that takes no host from another pool does not miss those who do. -/
lemma step_alone {id : Nat} (h : c.step x = some d) (hx : x.concerns id = true) :
    (c.alone id).step x = some (d.alone id) := by
  cases x with
  | make hosts =>
    cases h
    simp only [step, alone, HostPools.alone_add]
  | share hosts =>
    cases h
    simp only [step, alone, HostPools.alone_share]
  | reset =>
    cases h
    rfl
  | draw i id' =>
    obtain rfl : id' = id := of_decide_eq_true hx
    obtain ⟨hi, p, hp, rfl⟩ := step_draw_iff.1 h
    refine step_draw_iff.2 ⟨?_, p, (HostPools.alone_pool ..).trans hp, ?_⟩
    · exact fun hmem => hi ((List.filter_sublist.map _).subset hmem)
    · simp [alone, HostPools.alone_set]
  | settle i id' =>
    obtain rfl : id' = id := of_decide_eq_true hx
    obtain ⟨e, host, he, hhost, rfl⟩ := step_settle_iff.1 h
    obtain ⟨-, -, hid⟩ := find_pending he
    refine step_settle_iff.2 ⟨e, host, ?_, ?_, ?_⟩
    · rw [← he, alone, List.find?_filter]
      congr 1
      funext e'
      simp
    · rw [HostPools.hostOf?] at hhost ⊢
      rw [← hhost]
      exact congrArg (Option.bind · _) (HostPools.alone_pool id' c.table)
    · simp [alone, hid, List.erase_filter]

/-- A step that takes a host from another pool is not noticed. -/
lemma alone_step {id : Nat} (h : c.step x = some d) (hx : x.concerns id = false) :
    d.alone id = c.alone id := by
  cases x with
  | draw i id' =>
    have hne : id' ≠ id := of_decide_eq_false hx
    obtain ⟨-, p, hp, rfl⟩ := step_draw_iff.1 h
    simp [alone, HostPools.alone_set_ne hne hp, hne]
  | settle i id' =>
    have hne : id' ≠ id := of_decide_eq_false hx
    obtain ⟨e, host, he, -, rfl⟩ := step_settle_iff.1 h
    obtain ⟨-, -, rfl⟩ := find_pending he
    have herase : (c.pending.erase e).filter (·.pool = id) = c.pending.filter (·.pool = id) := by
      rw [← List.erase_filter, List.erase_of_not_mem]
      simp [hne]
    simp [alone, herase, hne]
  | _ => cases hx

/-- Without the steps that take hosts from other pools, a pool fares the same. -/
lemma run_alone {id : Nat} (h : run xs c = some d) :
    run (xs.filter (·.concerns id)) (c.alone id) = some (d.alone id) := by
  induction xs generalizing c with
  | nil =>
    cases h
    rfl
  | cons x xs ih =>
    obtain ⟨c', hx, h⟩ := Option.bind_eq_some_iff.1 h
    rw [List.filter_cons]
    split
    next hc =>
      rw [run, step_alone hx hc]
      exact ih h
    next hc =>
      rw [← alone_step hx (Bool.eq_false_iff.2 hc)]
      exact ih h

end PoolScene

end CrudBench
