import CrudBench.HostPool
import Mathlib.Tactic.Lemma

/-!
# Shared pools of hosts

Whoever asks for the same list of hosts is served from the same pool, one host after the other
around the list, and does not disturb anybody who asks for another list.
-/

namespace CrudBench.HostPools

/-- How many hosts were taken from the shared pool of a list of hosts. -/
def turns (t : HostPools) (hosts : HostList) : Nat :=
  ((t.shared.lookup hosts).bind fun id => t.pools[id]?.map (·.taken)).getD 0

/-- The pool that a list of hosts shares is there, and is a pool of these hosts. -/
def Sound (t : HostPools) : Prop :=
  ∀ hosts id, t.shared.lookup hosts = some id → ∃ n, t.pools[id]? = some ⟨hosts, n⟩

lemma sound_empty : Sound empty := nofun

variable {t : HostPools} {hosts : HostList} {id : Nat}

lemma turns_eq (h : t.shared.lookup hosts = some id) {n : Nat}
    (hp : t.pools[id]? = some ⟨hosts, n⟩) : t.turns hosts = n := by
  simp [turns, h, hp]

/-- Sharing a pool finds it in its place, with as many hosts taken from it as ever, and takes no
host from any pool. -/
lemma Sound.share (h : t.Sound) (hosts : HostList) :
    ∃ id t', t.share hosts = (id, t') ∧ t'.Sound ∧ t'.shared.lookup hosts = some id ∧
      t'.pools[id]? = some ⟨hosts, t.turns hosts⟩ ∧ ∀ other, t'.turns other = t.turns other := by
  cases hl : t.shared.lookup hosts with
  | some id =>
    obtain ⟨n, hn⟩ := h hosts id hl
    refine ⟨id, t, by simp only [HostPools.share, hl], h, hl, ?_, fun _ => rfl⟩
    rw [hn, turns_eq hl hn]
  | none =>
    have hlookup (other : HostList) :
        (t.shared ++ [(hosts, t.pools.length)]).lookup other =
          (t.shared.lookup other).or (if other = hosts then some t.pools.length else none) := by
      rw [List.lookup_append, List.lookup_cons]
      by_cases he : other = hosts
      · simp [he]
      · simp [he, beq_false_of_ne he]
    -- the new pool stands behind all others, and is found only by its hosts
    refine ⟨t.pools.length, ⟨t.pools ++ [.new hosts], t.shared ++ [(hosts, t.pools.length)]⟩,
      ?_, ?_, ?_, ?_, ?_⟩
    · simp only [HostPools.share, hl, add]
    · intro other id hid
      rw [hlookup] at hid
      cases ho : t.shared.lookup other with
      | some id' =>
        obtain ⟨n, hn⟩ := h other id' ho
        obtain ⟨hlt, -⟩ := List.getElem?_eq_some_iff.1 hn
        rw [ho, Option.some_or] at hid
        cases hid
        exact ⟨n, by rw [List.getElem?_append_left hlt, hn]⟩
      | none =>
        rw [ho, Option.none_or] at hid
        split at hid
        next he =>
          cases hid
          exact ⟨0, by rw [he, List.getElem?_concat_length]; rfl⟩
        · cases hid
    · rw [hlookup, hl, if_pos rfl]
      rfl
    · rw [List.getElem?_concat_length, turns, hl]
      rfl
    · intro other
      rw [turns, turns, hlookup]
      cases ho : t.shared.lookup other with
      | some id' =>
        obtain ⟨n, hn⟩ := h other id' ho
        obtain ⟨hlt, -⟩ := List.getElem?_eq_some_iff.1 hn
        simp [List.getElem?_append_left hlt]
      | none =>
        rw [Option.none_or]
        split
        · simp [HostPool.new]
        · rfl

/-- The host that is taken from a shared pool is the one whose turn it is, counted around the list
by the hosts that were taken from this pool before. No other pool is touched. -/
theorem Sound.takeShared (h : t.Sound) (hosts : HostList) :
    (t.takeShared hosts).1 = hosts.cycle (t.turns hosts) ∧ (t.takeShared hosts).2.Sound ∧
      ∀ other, (t.takeShared hosts).2.turns other =
        t.turns other + if other = hosts then 1 else 0 := by
  obtain ⟨id, t', hs, hsound, hid, hp, hturns⟩ := h.share hosts
  have ht : t.takeShared hosts = (hosts.cycle (t.turns hosts),
      { t' with pools := t'.pools.set id ⟨hosts, t.turns hosts + 1⟩ }) := by
    rw [HostPools.takeShared, hs]
    simp only [take?, hp, Option.map_some, Option.getD_some]
    rfl
  obtain ⟨hlt, -⟩ := List.getElem?_eq_some_iff.1 hp
  -- pools of different hosts stand in different places
  have hne {other : HostList} {id' : Nat} (ho : t'.shared.lookup other = some id')
      (he : other ≠ hosts) : id ≠ id' := by
    rintro rfl
    obtain ⟨n, hn⟩ := hsound other id ho
    exact he (congrArg HostPool.hosts (Option.some.inj (hn.symm.trans hp)))
  rw [ht]
  refine ⟨rfl, fun other id' ho => ?_, fun other => ?_⟩
  · by_cases he : other = hosts
    · subst he
      cases hid.symm.trans ho
      exact ⟨t.turns other + 1, by rw [List.getElem?_set_self hlt]⟩
    · rw [List.getElem?_set_ne (hne ho he)]
      exact hsound other id' ho
  · by_cases he : other = hosts
    · subst he
      rw [if_pos rfl]
      exact turns_eq (t := { t' with pools := t'.pools.set id ⟨other, t.turns other + 1⟩ }) hid
        (List.getElem?_set_self hlt)
    · rw [if_neg he, Nat.add_zero, ← hturns other]
      simp only [turns]
      cases ho : t'.shared.lookup other with
      | none => rfl
      | some id' => simp [List.getElem?_set_ne (hne ho he)]

end CrudBench.HostPools
