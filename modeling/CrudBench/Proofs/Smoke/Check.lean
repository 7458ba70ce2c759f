import CrudBench.Proofs.Smoke.Phase

/-!
# The smoke check as a whole

Over a store of records, a smoke check reports nothing exactly if none of its keys was taken, and
takes away whatever stood under its keys (`Bench.carryOut_exact`).
-/

namespace CrudBench

namespace SmokePlan

/-- What a smoke check records if nothing is reported. -/
def events (p : SmokePlan) : List (String × String) :=
  (p.keys.flatMap fun _ => [("insert", "OK")]) ++ (p.keys.flatMap fun _ => [("read", "OK")]) ++
    (p.keys.flatMap fun _ => [("update", "OK"), ("read", "OK")]) ++ [("scan", "OK")] ++
      p.keys.flatMap fun _ => [("delete", "OK"), ("read", "NOT_FOUND")]

/-- The metrics hold what a check of `n` records records if nothing is reported: as many insertions,
updates and deletions as there are records, one scan, and three reads for each record, of which two
find it and one does not. -/
structure Passed (n : Nat) (r : Registry) : Prop where
  count : ∀ name status, r.count name status =
    (List.lookup (name, status) [(("insert", "OK"), n), (("read", "OK"), 2 * n),
      (("read", "NOT_FOUND"), n), (("update", "OK"), n), (("scan", "OK"), 1),
      (("delete", "OK"), n)]).getD 0
  operations : ∀ name, r.operations name =
    (List.lookup name [("insert", n), ("read", 3 * n), ("update", n), ("scan", 1),
      ("delete", n)]).getD 0

/-- What is done for each key alike happens as often as there are keys. -/
lemma count_flatMap_const {α β : Type} [BEq β] (ks : List α) (l : List β) (x : β) :
    (ks.flatMap fun _ => l).count x = ks.length * l.count x := by
  induction ks with
  | nil => simp
  | cons k ks ih =>
    rw [List.flatMap_cons, List.count_append, ih, List.length_cons, Nat.succ_mul, Nat.add_comm]

/-- Metrics that tell the events of a check hold what they are to hold. -/
lemma passed_of_tells {p : SmokePlan} {r : Registry} (h : r.Tells p.events) :
    Passed p.records.toInt.toNat r := by
  constructor
  · intro name status
    rw [h.count, events]
    simp only [List.count_append, count_flatMap_const, p.length_keys, List.count_cons,
      List.count_nil, List.lookup_cons]
    generalize p.records.toInt.toNat = n
    grind
  · intro name
    rw [h.operations, events]
    simp only [List.map_append, List.map_flatMap, List.count_append, count_flatMap_const,
      p.length_keys, List.map_cons, List.map_nil, List.count_cons, List.count_nil,
      List.lookup_cons]
    generalize p.records.toInt.toNat = n
    grind

end SmokePlan

namespace Bench

variable {b : Bench StoreClient Store} {st : Settings} {m : Contents} {T : String}
  {cells : SortedMap Row} {p : SmokePlan}

/-- The scan of a smoke check finds no more records than it asks for. -/
lemma At.tryScan (h : b.At st m T cells) (hn : 1 ≤ p.records.toInt) :
    Comes (Bench.tryScan (.str T) p) b st m T cells True [("scan", "OK")] := by
  have hlen := p.length_keys
  obtain ⟨key, rest, hkeys⟩ : ∃ key rest, p.keys = key :: rest :=
    List.exists_cons_of_length_pos (by omega)
  have hc : b.toSession.contents.at? st.database T = some cells := by
    rw [h.contents, SortedMap.at?_putAt_self]
  obtain ⟨latency, s, hs, hb, hd⟩ :=
    h.serves.scan_eq hc key (show 0 < p.records.toInt by omega) ["field0"]
  generalize hds : (cells.shownFrom key ["field0"]).take p.records.toInt.toNat = ds at hs
  have hcount : (ds.length : Int) ≤ p.records.toInt := by
    have := List.length_take_le p.records.toInt.toNat (cells.shownFrom key ["field0"])
    rw [hds] at this
    omega
  obtain ⟨b', hx, hs', hm⟩ : ∃ b', Bench.expect .scan key .ok
      (Session.scan (.str T) (.str key) p.records.value (.ofTexts ["field0"])) b =
        .ok (.found (.records ds) latency, []) b' ∧
      b'.toSession = s ∧ b'.metrics = b.metrics.record "scan" latency "OK" none := by
    simp only [Bench.expect, viaBackend, hs, Action.bind_apply, Action.modify_apply]
    exact ⟨_, rfl, rfl, rfl⟩
  have hfew : ¬((Outcome.found (.records ds) latency).status = .ok ∧
      p.records.toInt < scannedCount (.found (.records ds) latency)) := fun h =>
    Int.not_lt.2 hcount h.2
  refine ⟨[], b', ?_, ⟨?_, ?_⟩, by simp, fun _ events he => ?_⟩
  · simp only [Bench.tryScan, hkeys, Action.bind_apply, hx]
    rw [if_neg hfew]
    rfl
  · rw [hs']
    exact h.serves.of_eq hb (hd ▸ h.serves.recorded)
  · rw [hs', ← h.contents]
    exact congrArg Databases.records hd
  · rw [hm]
    exact he.record "scan" latency "OK" none

/-- What a phase leaves under its keys from the cells that were there. -/
lemma get?_alter_keys (f : String → Option Row → Option Row) (cells : SortedMap Row) {k : String}
    (hk : k ∈ p.keys) : (cells.alter f p.keys).get? k = f k (cells.get? k) := by
  rw [SortedMap.get?_alter f cells p.nodup_keys, if_pos hk]

/-- Once its keys were deleted, what is left are the other keys, whatever was done under its own. -/
lemma alter_delete (f g : String → Option Row → Option Row) (cells : SortedMap Row) :
    ((cells.alter f p.keys).alter g p.keys).alter (fun _ _ => none) p.keys =
      cells.without p.keys := by
  refine SortedMap.ext_get? fun k => ?_
  simp only [SortedMap.get?_alter _ _ p.nodup_keys, SortedMap.without, SortedMap.get?_filterKeys]
  by_cases hk : k ∈ p.keys <;> simp [hk]

/-- What a smoke check comes to. -/
lemma At.carryOut (h : b.At st m T cells) (hn : 1 ≤ p.records.toInt) :
    Comes (Bench.carryOut (.str T) p) b st m T (cells.without p.keys)
      (∀ k ∈ p.keys, cells.get? k = none) p.events := by
  have hks := p.nodup_keys
  obtain ⟨ins, b₁, h₁, at₁, good₁, told₁⟩ := (phase_insert st m T p).gather h hks
  obtain ⟨rds, b₂, h₂, at₂, good₂, told₂⟩ := (phase_read st m T p).gather at₁ hks
  rw [SortedMap.alter_keep] at at₂
  obtain ⟨ups, b₃, h₃, at₃, good₃, told₃⟩ := (phase_update st m T p).gather at₂ hks
  obtain ⟨scs, b₄, h₄, at₄, good₄, told₄⟩ := at₃.tryScan hn
  obtain ⟨dls, b₅, h₅, at₅, good₅, told₅⟩ := (phase_delete st m T).gather at₄ hks
  rw [alter_delete] at at₅
  -- where nothing was under the keys, each phase finds what the ones before have left
  have hgood (hfree : ∀ k ∈ p.keys, cells.get? k = none) :
      ins = [] ∧ rds = [] ∧ ups = [] ∧ dls = [] := by
    have hinserted {k : String} (hk : k ∈ p.keys) :
        (cells.alter p.inserted p.keys).get? k = some (p.values.row.stored k) := by
      rw [get?_alter_keys _ _ hk, hfree k hk, p.inserted_none hk]
    have hupdated {k : String} (hk : k ∈ p.keys) :
        ((cells.alter p.inserted p.keys).alter SmokePlan.updated p.keys).get? k =
          some ((p.values.row.stored k).revised SmokePlan.update.row) := by
      rw [get?_alter_keys _ _ hk, hinserted hk, SmokePlan.updated_some]
    exact ⟨good₁.2 fun k hk => ⟨p.ne_empty_of_mem_keys hk, hfree k hk⟩,
      good₂.2 fun k hk => ⟨_, hinserted hk, p.visible_stored k⟩,
      good₃.2 fun k hk => ⟨_, hinserted hk, p.revised_stored k⟩,
      good₅.2 fun k hk => ⟨_, hupdated hk⟩⟩
  refine ⟨ins ++ rds ++ ups ++ scs ++ dls, b₅, ?_, at₅, ⟨fun hnil => ?_, fun hfree => ?_⟩,
    fun hfree events he => ?_⟩
  · simp only [Bench.carryOut, Action.bind_apply, h₁, h₂, h₃, h₄, h₅, Action.pure_apply]
  · simp only [List.append_eq_nil_iff] at hnil
    exact fun k hk => (good₁.1 hnil.1.1.1.1 k hk).2
  · obtain ⟨rfl, rfl, rfl, rfl⟩ := hgood hfree
    simp [good₄]
  · obtain ⟨hi, hr, hu, hd⟩ := hgood hfree
    have ht := told₅ (good₅.1 hd) _ (told₄ trivial _ (told₃ (good₃.1 hu) _
      (told₂ (good₂.1 hr) _ (told₁ (good₁.1 hi) _ he))))
    simpa only [SmokePlan.events, List.append_assoc] using ht

end Bench

end CrudBench
