import CrudBench.Proofs.HostPool
import Mathlib.Data.List.Nodup

/-!
# Schedules of threads that take hosts

Threads take hosts from pools at the same time. To take a host has two halves: a turn of the pool is
drawn under its lock, and later, outside the lock, the host of that turn is looked up. If nothing
comes in between, the host is the one that is taken at once (`PoolScene.run_draw_settle`). Whatever
does, no turn is drawn twice and none is left out (`PoolScene.orderly_of_run`).
-/

namespace CrudBench

namespace HostPools

variable {t : HostPools} {id : Nat} {p : HostPool}

/-- Draws the next turn of a pool, which is the half under the lock. -/
def draw? (t : HostPools) (id : Nat) : Option (Nat × HostPools) :=
  t.pools[id]?.map fun p => (p.taken, { t with pools := t.pools.set id p.advance })

/-- Looks up the host of a turn, which is the half outside the lock. -/
def hostOf? (t : HostPools) (id turn : Nat) : Option String :=
  t.pools[id]?.bind fun p => p.hosts.names[turn % p.hosts.names.length]?

/-- The host of every turn is found. -/
lemma hostOf?_eq (h : t.pools[id]? = some p) (turn : Nat) :
    t.hostOf? id turn = some (p.hosts.cycle turn) := by
  rw [hostOf?, h]
  exact List.getElem?_eq_getElem _

/-- To take a host is to draw a turn and to look up its host, if nothing comes in between. -/
lemma take?_eq_draw (t : HostPools) (id : Nat) :
    t.take? id = (t.draw? id).bind fun x => (x.2.hostOf? id x.1).map (·, x.2) := by
  cases h : t.pools[id]? with
  | none => simp [take?, draw?, h]
  | some p =>
    obtain ⟨hlt, -⟩ := List.getElem?_eq_some_iff.1 h
    have hset : (t.pools.set id p.advance)[id]? = some p.advance := List.getElem?_set_self hlt
    have hhost := hostOf?_eq (t := { t with pools := t.pools.set id p.advance }) hset p.taken
    simp only [take?, draw?, h, Option.map_some, Option.bind_some, hhost]
    rfl

end HostPools

/-! ## Schedules -/

/-- A turn of a pool that a thread has drawn. -/
structure Draw where
  thread : Nat
  pool : Nat
  turn : Nat
  deriving DecidableEq

/-- What is done to the pools. To take a host is two steps of a thread, and everything may come
between them but another step of the same thread. -/
inductive PoolStep where
  | make (hosts : HostList)
  | share (hosts : HostList)
  | reset
  | draw (thread pool : Nat)
  | settle (thread pool : Nat)
  deriving DecidableEq

/-- The turns of a pool among these, in their order. -/
def Draw.turnsOf (id : Nat) (ds : List Draw) : List Nat :=
  (ds.filter (·.pool = id)).map (·.turn)

namespace PoolStep

/-- The step draws a turn of this pool. -/
def drawsFrom (id : Nat) : PoolStep → Bool
  | draw _ pool => pool = id
  | _ => false

/-- The step does not take a host from another pool. -/
def concerns (id : Nat) : PoolStep → Bool
  | draw _ pool | settle _ pool => pool = id
  | _ => true

end PoolStep

/-- All pools, the turns that were drawn and whose hosts are not looked up yet, and the hosts that
were taken, in the order in which the threads got them. -/
structure PoolScene where
  table : HostPools
  pending : List Draw
  picks : List (Draw × String)
  deriving DecidableEq

namespace PoolScene

/-- No pools, and nobody who takes a host. -/
def empty : PoolScene := ⟨.empty, [], []⟩

/-- All turns that were drawn. -/
def draws (c : PoolScene) : List Draw := c.picks.map (·.1) ++ c.pending

/-- The turns of a pool whose hosts were looked up. -/
def settled (c : PoolScene) (id : Nat) : List Nat := Draw.turnsOf id (c.picks.map (·.1))

/-- The turns of a pool whose hosts are still to be looked up. -/
def inFlight (c : PoolScene) (id : Nat) : List Nat := Draw.turnsOf id c.pending

/-- The hosts that were taken from a pool. -/
def hosts (c : PoolScene) (id : Nat) : List String :=
  (c.picks.filter (·.1.pool = id)).map (·.2)

/-- What a step comes to. There is nothing to draw where there is no pool, or for a thread that has
drawn a turn already, and nothing to look up for a thread that has not. -/
def step (c : PoolScene) : PoolStep → Option PoolScene
  | .make hosts => some { c with table := (c.table.add hosts).2 }
  | .share hosts => some { c with table := (c.table.share hosts).2 }
  | .reset => some { c with table := c.table.reset }
  | .draw i id =>
    if i ∈ c.pending.map (·.thread) then none
    else (c.table.draw? id).map fun x => ⟨x.2, c.pending ++ [⟨i, id, x.1⟩], c.picks⟩
  | .settle i id => do
    let d ← c.pending.find? fun d => d.thread = i ∧ d.pool = id
    let host ← c.table.hostOf? id d.turn
    return ⟨c.table, c.pending.erase d, c.picks ++ [(d, host)]⟩

/-- What the steps of a schedule come to, one after the other. -/
def run : List PoolStep → PoolScene → Option PoolScene
  | [], c => some c
  | x :: xs, c => (c.step x).bind (run xs)

variable {c d : PoolScene} {x : PoolStep} {xs : List PoolStep}

lemma run_append (xs ys : List PoolStep) (c : PoolScene) :
    run (xs ++ ys) c = (run xs c).bind (run ys) := by
  induction xs generalizing c with
  | nil => rfl
  | cons x xs ih =>
    rw [List.cons_append, run, run, Option.bind_assoc]
    exact congrArg _ (funext ih)

/-- What every step preserves holds after a run. -/
lemma run_induction {P : PoolScene → Prop} (hstep : ∀ {c d x}, P c → c.step x = some d → P d)
    (hc : P c) (h : run xs c = some d) : P d := by
  induction xs generalizing c with
  | nil =>
    cases h
    exact hc
  | cons x xs ih =>
    obtain ⟨c', hx, h⟩ := Option.bind_eq_some_iff.1 h
    exact ih (hstep hc hx) h

/-! ## One step -/

/-- A thread draws a turn if there is such a pool and it is not about to take a host already. -/
lemma step_draw_iff {i id : Nat} : c.step (.draw i id) = some d ↔
    i ∉ c.pending.map (·.thread) ∧ ∃ p, c.table.pools[id]? = some p ∧
      d = ⟨{ c.table with pools := c.table.pools.set id p.advance },
        c.pending ++ [⟨i, id, p.taken⟩], c.picks⟩ := by
  rw [step]
  split
  next h => simp [h]
  next h =>
    rw [HostPools.draw?, Option.map_map, Option.map_eq_some_iff]
    constructor
    · rintro ⟨p, hp, rfl⟩
      exact ⟨h, p, hp, rfl⟩
    · rintro ⟨-, p, hp, rfl⟩
      exact ⟨p, hp, rfl⟩

/-- A thread gets the host of the turn that it has drawn. -/
lemma step_settle_iff {i id : Nat} : c.step (.settle i id) = some d ↔
    ∃ e host, c.pending.find? (fun e => e.thread = i ∧ e.pool = id) = some e ∧
      c.table.hostOf? id e.turn = some host ∧
      d = ⟨c.table, c.pending.erase e, c.picks ++ [(e, host)]⟩ := by
  simp only [step, Option.bind_eq_bind, Option.bind_eq_some_iff, Option.pure_def,
    Option.some.injEq, @eq_comm _ _ d, exists_and_left]

/-- A thread that has just drawn a turn gets the host of this turn. -/
lemma step_settle_last {i id turn : Nat} (hi : i ∉ c.pending.map (·.thread)) (t : HostPools) :
    step ⟨t, c.pending ++ [⟨i, id, turn⟩], c.picks⟩ (.settle i id) =
      (t.hostOf? id turn).map fun host =>
        ⟨t, c.pending, c.picks ++ [(⟨i, id, turn⟩, host)]⟩ := by
  have hfresh : ∀ e ∈ c.pending, ¬(e.thread = i ∧ e.pool = id) :=
    fun e he h => hi (h.1 ▸ List.mem_map_of_mem he)
  have hfind : (c.pending ++ [(⟨i, id, turn⟩ : Draw)]).find?
      (fun e => e.thread = i ∧ e.pool = id) = some ⟨i, id, turn⟩ := by
    rw [List.find?_append, List.find?_eq_none.2 (by simpa using hfresh)]
    simp
  have herase : (c.pending ++ [(⟨i, id, turn⟩ : Draw)]).erase ⟨i, id, turn⟩ = c.pending := by
    rw [List.erase_append_right _ fun he => hfresh _ he ⟨rfl, rfl⟩, List.erase_cons_head,
      List.append_nil]
  simp only [step, hfind, herase, Option.bind_eq_bind, Option.bind_some, Option.pure_def]
  cases t.hostOf? id turn <;> rfl

/-- If nothing comes between its halves, a thread takes the host that is taken at once. -/
lemma run_draw_settle {i id : Nat} (hi : i ∉ c.pending.map (·.thread)) {host : String}
    {t : HostPools} : c.table.take? id = some (host, t) ↔
      ∃ turn, run [.draw i id, .settle i id] c =
        some ⟨t, c.pending, c.picks ++ [(⟨i, id, turn⟩, host)]⟩ := by
  rw [HostPools.take?_eq_draw, run, step, if_neg hi]
  cases c.table.draw? id with
  | none => simp
  | some x =>
    simp only [Option.map_some, Option.bind_some, run, step_settle_last hi]
    cases x.2.hostOf? id x.1 with
    | none => simp
    | some host' => simp [and_comm]

/-- A turn that is found is one that its thread has drawn. -/
lemma find_pending {i id : Nat} {e : Draw}
    (h : c.pending.find? (fun e => e.thread = i ∧ e.pool = id) = some e) :
    e ∈ c.pending ∧ e.thread = i ∧ e.pool = id :=
  ⟨List.mem_of_find?_eq_some h, by simpa using List.find?_some h⟩

end PoolScene

namespace Draw

variable {id : Nat} {ds ds' : List Draw}

@[simp]
lemma turnsOf_append : turnsOf id (ds ++ ds') = turnsOf id ds ++ turnsOf id ds' := by
  simp [turnsOf]

lemma turnsOf_perm (h : ds.Perm ds') : (turnsOf id ds).Perm (turnsOf id ds') :=
  (h.filter _).map _

lemma turnsOf_singleton (d : Draw) : turnsOf id [d] = if d.pool = id then [d.turn] else [] := by
  by_cases h : d.pool = id <;> simp [turnsOf, h]

end Draw

namespace HostPools

variable {t t' : HostPools} {id : Nat} {p : HostPool}

/-- The pools are those of the first table, as they are there, and perhaps new ones from which
nothing was taken. -/
def Extends (t t' : HostPools) : Prop :=
  ∃ fresh : List HostList, t'.pools = t.pools ++ fresh.map .new

lemma extends_share (t : HostPools) (hosts : HostList) : t.Extends (t.share hosts).2 := by
  rw [share]
  cases t.shared.lookup hosts with
  | some id => exact ⟨[], (List.append_nil _).symm⟩
  | none => exact ⟨[hosts], rfl⟩

lemma Extends.pool (h : t.Extends t') (hp : t.pools[id]? = some p) : t'.pools[id]? = some p := by
  obtain ⟨fresh, hpools⟩ := h
  obtain ⟨hlt, -⟩ := List.getElem?_eq_some_iff.1 hp
  rw [hpools, List.getElem?_append_left hlt, hp]

end HostPools

namespace PoolScene

variable {c d : PoolScene} {x : PoolStep} {xs : List PoolStep}

/-- A step takes nothing from any pool, or it draws a turn, or it looks one up. -/
lemma step_cases (h : c.step x = some d) :
    (∃ t, c.table.Extends t ∧ d = { c with table := t }) ∨
      (∃ i id p, i ∉ c.pending.map (·.thread) ∧ c.table.pools[id]? = some p ∧
        d = ⟨{ c.table with pools := c.table.pools.set id p.advance },
          c.pending ++ [⟨i, id, p.taken⟩], c.picks⟩) ∨
      ∃ e ∈ c.pending, ∃ host, c.table.hostOf? e.pool e.turn = some host ∧
        d = ⟨c.table, c.pending.erase e, c.picks ++ [(e, host)]⟩ := by
  cases x with
  | make hosts =>
    cases h
    exact .inl ⟨_, ⟨[hosts], rfl⟩, rfl⟩
  | share hosts =>
    cases h
    exact .inl ⟨_, c.table.extends_share hosts, rfl⟩
  | reset =>
    cases h
    exact .inl ⟨c.table.reset, ⟨[], (List.append_nil _).symm⟩, rfl⟩
  | draw i id =>
    obtain ⟨hi, p, hp, rfl⟩ := step_draw_iff.1 h
    exact .inr (.inl ⟨i, id, p, hi, hp, rfl⟩)
  | settle i id =>
    obtain ⟨e, host, he, hhost, rfl⟩ := step_settle_iff.1 h
    obtain ⟨hmem, -, rfl⟩ := find_pending he
    exact .inr (.inr ⟨e, hmem, host, hhost, rfl⟩)

lemma draws_concat (c : PoolScene) (t : HostPools) (e : Draw) :
    draws ⟨t, c.pending ++ [e], c.picks⟩ = c.draws ++ [e] :=
  (List.append_assoc ..).symm

lemma draws_settled (c : PoolScene) (e : Draw) (host : String) :
    draws ⟨c.table, c.pending.erase e, c.picks ++ [(e, host)]⟩ =
      c.picks.map (·.1) ++ e :: c.pending.erase e := by
  simp [draws]

lemma perm_draws {e : Draw} (he : e ∈ c.pending) (host : String) :
    (draws ⟨c.table, c.pending.erase e, c.picks ++ [(e, host)]⟩).Perm c.draws := by
  rw [draws_settled]
  exact (List.perm_cons_erase he).symm.append_left _

/-! ## What every schedule keeps -/

/-- No turn was drawn twice or left out, every thread has its turns one after the other, and those
who got a host got that of their turn. -/
structure Orderly (c : PoolScene) : Prop where
  placed : ∀ e ∈ c.draws, e.pool < c.table.pools.length
  single : (c.pending.map (·.thread)).Nodup
  counted : ∀ id p, c.table.pools[id]? = some p →
    (Draw.turnsOf id c.draws).Perm (List.range p.taken)
  increasing : c.draws.Pairwise fun e e' =>
    e.thread = e'.thread → e.pool = e'.pool → e.turn < e'.turn
  returned : ∀ x ∈ c.picks, c.table.hostOf? x.1.pool x.1.turn = some x.2

lemma orderly_empty : empty.Orderly := ⟨nofun, .nil, nofun, .nil, nofun⟩

/-- Nothing was drawn yet from a pool that is new. -/
lemma Orderly.grow (h : c.Orderly) {t : HostPools} (ht : c.table.Extends t) :
    Orderly { c with table := t } := by
  obtain ⟨fresh, hpools⟩ := ht
  refine ⟨fun e he => ?_, h.single, fun id p hp => ?_, h.increasing, fun x hx => ?_⟩
  · show e.pool < t.pools.length
    rw [hpools, List.length_append]
    exact Nat.lt_add_right _ (h.placed e he)
  · change t.pools[id]? = some p at hp
    rw [hpools] at hp
    by_cases hlt : id < c.table.pools.length
    · rw [List.getElem?_append_left hlt] at hp
      exact h.counted id p hp
    · rw [List.getElem?_append_right (by omega), List.getElem?_map] at hp
      obtain ⟨hosts, -, rfl⟩ := Option.map_eq_some_iff.1 hp
      have hnone : Draw.turnsOf id c.draws = [] := by
        rw [Draw.turnsOf, List.map_eq_nil_iff, List.filter_eq_nil_iff]
        intro e he
        have := h.placed e he
        simp only [decide_eq_true_eq]
        omega
      show (Draw.turnsOf id c.draws).Perm _
      rw [hnone]
      rfl
  · have hx' := h.returned x hx
    have hlt : x.1.pool < c.table.pools.length :=
      h.placed _ (List.mem_append_left _ (List.mem_map_of_mem hx))
    rw [HostPools.hostOf?] at hx' ⊢
    show (t.pools[x.1.pool]?.bind _) = _
    rw [hpools, List.getElem?_append_left hlt]
    exact hx'

/-- The turn that is drawn is the next number, which nobody has. -/
lemma Orderly.draw (h : c.Orderly) {i id : Nat} {p : HostPool}
    (hi : i ∉ c.pending.map (·.thread)) (hp : c.table.pools[id]? = some p) :
    Orderly ⟨{ c.table with pools := c.table.pools.set id p.advance },
      c.pending ++ [⟨i, id, p.taken⟩], c.picks⟩ := by
  obtain ⟨hlt, -⟩ := List.getElem?_eq_some_iff.1 hp
  have hturn : ∀ e ∈ c.draws, e.pool = id → e.turn < p.taken := by
    intro e he hid
    have hmem : e.turn ∈ Draw.turnsOf id c.draws :=
      List.mem_map_of_mem (List.mem_filter.2 ⟨he, decide_eq_true hid⟩)
    exact List.mem_range.1 ((h.counted id p hp).mem_iff.1 hmem)
  refine ⟨?_, ?_, ?_, ?_, fun x hx => ?_⟩
  · rw [draws_concat]
    intro e he
    show e.pool < (c.table.pools.set id p.advance).length
    rw [List.length_set]
    rcases List.mem_append.1 he with he | he
    · exact h.placed e he
    · cases List.mem_singleton.1 he
      exact hlt
  · rw [List.map_append]
    exact List.nodup_append.2 ⟨h.single, List.nodup_singleton _, by
      rintro a ha b hb rfl
      cases List.mem_singleton.1 hb
      exact hi ha⟩
  · intro id' p' (hp' : (c.table.pools.set id p.advance)[id']? = some p')
    rw [draws_concat, Draw.turnsOf_append, Draw.turnsOf_singleton]
    by_cases he : id = id'
    · subst he
      rw [List.getElem?_set_self hlt] at hp'
      cases hp'
      rw [if_pos rfl, HostPool.advance, List.range_succ]
      exact (h.counted id p hp).append_right _
    · rw [List.getElem?_set_ne he] at hp'
      rw [if_neg he, List.append_nil]
      exact h.counted id' p' hp'
  · rw [draws_concat]
    refine List.pairwise_append.2 ⟨h.increasing, List.pairwise_singleton _ _, ?_⟩
    intro e he e' he' _ hid
    cases List.mem_singleton.1 he'
    exact hturn e he hid
  · have hx' := h.returned x hx
    rw [HostPools.hostOf?] at hx' ⊢
    show ((c.table.pools.set id p.advance)[x.1.pool]?.bind _) = _
    by_cases he : id = x.1.pool
    · rw [← he, hp] at hx'
      rw [← he, List.getElem?_set_self hlt]
      exact hx'
    · rw [List.getElem?_set_ne he]
      exact hx'

/-- A turn whose host is looked up is the only one of its thread that was open. -/
lemma Orderly.settle (h : c.Orderly) {e : Draw} {host : String} (he : e ∈ c.pending)
    (hhost : c.table.hostOf? e.pool e.turn = some host) :
    Orderly ⟨c.table, c.pending.erase e, c.picks ++ [(e, host)]⟩ := by
  have hperm := perm_draws he host
  refine ⟨?_, ?_, ?_, ?_, ?_⟩
  · exact fun e' he' => h.placed e' (hperm.mem_iff.1 he')
  · exact h.single.sublist (List.erase_sublist.map _)
  · intro id p hp
    exact (Draw.turnsOf_perm hperm).trans (h.counted id p hp)
  · rw [draws_settled]
    obtain ⟨hpicks, hpending, hbetween⟩ := List.pairwise_append.1 h.increasing
    refine List.pairwise_append.2 ⟨hpicks, List.pairwise_cons.2 ⟨?_, ?_⟩, ?_⟩
    · intro e' he' hthread
      have hmem := List.mem_of_mem_erase he'
      have heq := List.inj_on_of_nodup_map h.single he hmem hthread
      subst heq
      exact absurd he' (h.single.of_map _).not_mem_erase
    · exact hpending.sublist List.erase_sublist
    · intro a ha b hb
      rcases List.mem_cons.1 hb with rfl | hb
      · exact hbetween a ha b he
      · exact hbetween a ha b (List.mem_of_mem_erase hb)
  · intro x hx
    rcases List.mem_append.1 hx with hx | hx
    · exact h.returned x hx
    · cases List.mem_singleton.1 hx
      exact hhost

/-- Whoever does the next step, and whatever it is. -/
lemma Orderly.step (h : c.Orderly) (hx : c.step x = some d) : d.Orderly := by
  obtain ⟨t, ht, rfl⟩ | ⟨i, id, p, hi, hp, rfl⟩ | ⟨e, he, host, hhost, rfl⟩ := step_cases hx
  · exact h.grow ht
  · exact h.draw hi hp
  · exact h.settle he hhost

lemma orderly_of_run (h : run xs empty = some c) : c.Orderly :=
  run_induction Orderly.step orderly_empty h

end PoolScene

end CrudBench
