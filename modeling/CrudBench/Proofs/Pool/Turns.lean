import CrudBench.Settings.HostList
import Mathlib.Algebra.BigOperators.Group.List.Basic
import Mathlib.Data.Int.CardIntervalMod

/-!
# Even turns

Turns are numbers, and around a list of hosts every number has its host. If the turns that were
given out are the numbers from zero on, in whatever order, every host has got its share
(`HostList.even_of_perm`).
-/

namespace CrudBench.HostList

/-- Turns from which every host of the list gets its share: they are the numbers from zero on, each
of them once, whatever their order. -/
structure Even (hosts : HostList) (turns : List Nat) : Prop where
  /-- No number is left out, and none is there twice. -/
  once : turns.Perm (List.range turns.length)
  /-- The hosts of the turns are those around the list, as many times as there are turns. -/
  around : (turns.map hosts.cycle).Perm ((List.range turns.length).map hosts.cycle)
  /-- No position has two turns more than another one. -/
  balanced : ∀ i j, i < hosts.names.length → j < hosts.names.length →
    turns.countP (· % hosts.names.length = i) ≤ turns.countP (· % hosts.names.length = j) + 1
  /-- Among consecutive numbers, as many as there are positions, each position has its turn once. -/
  blocks : ∀ m, m + hosts.names.length ≤ turns.length → ∀ i < hosts.names.length,
    ∃! turn, turn ∈ turns ∧ m ≤ turn ∧ turn < m + hosts.names.length ∧
      turn % hosts.names.length = i
  /-- A host has the turns of all positions that it is listed at. -/
  summed : ∀ host, (turns.map hosts.cycle).count host =
    (((List.range hosts.names.length).filter fun i => hosts.names[i]? = some host).map
      fun i => turns.countP (· % hosts.names.length = i)).sum

variable {hosts : HostList}

lemma countP_range_mod {n : Nat} (hn : 0 < n) {i : Nat} (hi : i < n) (k : Nat) :
    (List.range k).countP (· % n = i) = k / n + if i < k % n then 1 else 0 := by
  have hcount : (List.range k).countP (· % n = i) = k.count (· ≡ i [MOD n]) := by
    induction k with
    | zero => rfl
    | succ k ih =>
      have hk : k ≡ i [MOD n] ↔ k % n = i := by rw [Nat.ModEq, Nat.mod_eq_of_lt hi]
      rw [List.range_succ, List.countP_append, ih, Nat.count_succ, List.countP_singleton]
      simp only [decide_eq_true_eq, hk]
  rw [hcount, Nat.count_modEq_card k hn, Nat.mod_eq_of_lt hi]

/-- Any stretch of consecutive numbers, as long as the divisor, has every remainder once. -/
lemma existsUnique_mod {n i : Nat} (hi : i < n) (m : Nat) :
    ∃! t, m ≤ t ∧ t < m + n ∧ t % n = i := by
  -- two numbers with one remainder are no less than the divisor apart
  have hle {s t : Nat} (hs : m ≤ s ∧ s < m + n ∧ s % n = i)
      (ht : m ≤ t ∧ t < m + n ∧ t % n = i) : s ≤ t := by
    have hz := Nat.sub_mod_eq_zero_of_mod_eq (hs.2.2.trans ht.2.2.symm)
    rw [Nat.mod_eq_of_lt (by omega)] at hz
    omega
  have hfirst : (m + (i + (n - m % n)) % n) % n = i := by
    have hm := Nat.div_add_mod m n
    have hlt := Nat.mod_lt m (show 0 < n by omega)
    have hsum : m + (i + (n - m % n)) = i + n * (m / n + 1) := by
      rw [Nat.mul_succ]
      omega
    rw [Nat.add_mod_mod, hsum, Nat.add_mul_mod_self_left, Nat.mod_eq_of_lt hi]
  have ht : m ≤ m + (i + (n - m % n)) % n ∧ m + (i + (n - m % n)) % n < m + n ∧
      (m + (i + (n - m % n)) % n) % n = i :=
    ⟨Nat.le_add_right _ _, Nat.add_lt_add_left (Nat.mod_lt _ (by omega)) m, hfirst⟩
  exact ⟨_, ht, fun s hs => Nat.le_antisymm (hle hs ht) (hle ht hs)⟩

lemma sum_indicator {l : List Nat} (hl : l.Nodup) (a : Nat) :
    (l.map fun i => if a = i then 1 else 0).sum = if a ∈ l then 1 else 0 := by
  rw [← hl.count]
  clear hl
  induction l with
  | nil => rfl
  | cons i l ih =>
    rw [List.map_cons, List.sum_cons, ih, List.count_cons, Nat.add_comm]
    simp only [beq_iff_eq, @eq_comm _ a i]

/-- Every turn is that of one position. -/
lemma count_cycle (turns : List Nat) (host : String) : (turns.map hosts.cycle).count host =
    (((List.range hosts.names.length).filter fun i => hosts.names[i]? = some host).map
      fun i => turns.countP (· % hosts.names.length = i)).sum := by
  induction turns with
  | nil => simp
  | cons t ts ih =>
    have hlt := Nat.mod_lt t (List.length_pos_iff.2 hosts.nonempty)
    have hat : hosts.names[t % hosts.names.length]? = some (hosts.cycle t) :=
      List.getElem?_eq_getElem _
    have hmem : t % hosts.names.length ∈
        ((List.range hosts.names.length).filter fun i => hosts.names[i]? = some host) ↔
          hosts.cycle t = host := by
      rw [List.mem_filter, List.mem_range, hat]
      simp [hlt]
    have hnodup := (List.nodup_range (n := hosts.names.length)).filter
      fun i => hosts.names[i]? = some host
    have hone := sum_indicator hnodup (t % hosts.names.length)
    simp only [hmem] at hone
    simp only [List.map_cons, List.count_cons, List.countP_cons, List.sum_map_add, ← ih,
      decide_eq_true_eq, hone, beq_iff_eq]

/-- Turns are even that are the numbers from zero on in any order. -/
lemma even_of_perm {turns : List Nat} {k : Nat} (h : turns.Perm (List.range k)) :
    hosts.Even turns := by
  have hn := List.length_pos_iff.2 hosts.nonempty
  obtain rfl : turns.length = k := h.length_eq.trans List.length_range
  refine ⟨h, h.map _, fun i j hi hj => ?_, fun m hm i hi => ?_, count_cycle turns⟩
  · rw [h.countP_eq, h.countP_eq, countP_range_mod hn hi, countP_range_mod hn hj]
    split <;> split <;> omega
  · obtain ⟨t, ⟨hm', ht, hti⟩, huniq⟩ := existsUnique_mod hi m
    refine ⟨t, ⟨h.mem_iff.2 (List.mem_range.2 (by omega)), hm', ht, hti⟩, ?_⟩
    rintro s ⟨-, hs⟩
    exact huniq s hs

end CrudBench.HostList
