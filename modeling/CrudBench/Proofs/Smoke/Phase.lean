import CrudBench.Proofs.Metrics.Tally
import CrudBench.Proofs.Smoke.Plan
import CrudBench.Proofs.Store.Keyed

/-!
# Phases of a smoke check

A smoke check does the same for each of its keys, phase after phase. What it does for a key is a
step of the cell under that key, from which it can be told whether something is reported and what is
recorded (`Bench.Phase`); so what a phase comes to depends on the cells that it starts from
(`Bench.Phase.gather`).
-/

namespace CrudBench

namespace Bench

variable {st : Settings} {m : Contents} {T : String}

/-- The bench works on a store of records, in which the table holds these cells; everything else is
as in `m`. -/
structure At (b : Bench StoreClient Store) (st : Settings) (m : Contents) (T : String)
    (cells : SortedMap Row) : Prop where
  serves : b.toSession.Serves st
  contents : b.toSession.contents = m.putAt st.database T cells

variable {b : Bench StoreClient Store} {cells : SortedMap Row}

/-- An operation on a record is a step of its cell, and its outcome is recorded. It is reported
unless its status is the one that was wanted. -/
lemma At.expect (h : b.At st m T cells) (op : Operation) (key : String) (wanted : Status)
    (verb : Verb) :
    ∃ o complaints b', Bench.expect op key wanted (PointRequest.perform ⟨T, key, verb⟩) b =
        .ok (o, complaints) b' ∧
      b'.At st m T (cells.set key (verb.onCell key (cells.get? key)).2) ∧
      o.Agrees (verb.onCell key (cells.get? key)).1 ∧
      (complaints = [] ↔ (verb.onCell key (cells.get? key)).1.status = wanted) ∧
      ∀ events, b.metrics.Tells events → b'.metrics.Tells
        (events ++ [(op.name, (verb.onCell key (cells.get? key)).1.status.name)]) := by
  obtain ⟨o, s, hp, hs, ho, hm⟩ := PointRequest.perform_refines h.serves ⟨T, key, verb⟩
  have hc : b.toSession.contents.at? st.database T = some cells := by
    rw [h.contents, SortedMap.at?_putAt_self]
  rw [PointRequest.onContents_of_some hc] at ho hm
  dsimp only at ho hm
  refine ⟨o, if o.status = wanted then [] else [complaint op key o],
    { b with toSession := s, metrics := b.metrics.recordOutcome op.name o }, ?_, ⟨hs, ?_⟩, ho, ?_,
    fun events he => ?_⟩
  · simp only [Bench.expect, viaBackend, hp, Action.bind_apply, Action.modify_apply,
      Action.pure_apply]
  · rw [hm, h.contents, SortedMap.putAt_putAt]
  · rw [ho.status]
    split
    next hw => simp [hw]
    next hw => simp [hw]
  · rw [← ho.status]
    exact he.record op.name o.latency o.status.name o.error

/-- A read leaves the cell as it is. -/
lemma At.expect_read {key : String} {c : Option Row} (h : b.At st m T (cells.set key c))
    (wanted : Status) (fields : List String) :
    ∃ o complaints b', Bench.expect .read key wanted
        (Session.read (.str T) (.str key) (.ofTexts fields)) b = .ok (o, complaints) b' ∧
      b'.At st m T (cells.set key c) ∧ o.Agrees (Verb.onCell key c (.read fields)).1 ∧
      (complaints = [] ↔ (Verb.onCell key c (.read fields)).1.status = wanted) ∧
      ∀ events, b.metrics.Tells events → b'.metrics.Tells
        (events ++ [("read", (Verb.onCell key c (.read fields)).1.status.name)]) := by
  obtain ⟨o, cs, b', hx, hat, ho, hcs, ht⟩ := h.expect .read key wanted (.read fields)
  have hc : (cells.set key c).get? key = c := by rw [SortedMap.get?_set, if_pos rfl]
  have hkeep : (Verb.onCell key c (.read fields)).2 = c := by cases c <;> rfl
  have hself := SortedMap.set_self (cells.set key c) key
  rw [hc] at hat ho hcs ht hself
  rw [hkeep, hself] at hat
  exact ⟨o, cs, b', hx, hat, ho, hcs, ht⟩

/-- The action returns. It leaves these cells in the table, reports nothing exactly if `Good` holds,
and has recorded these outcomes then. -/
def Comes (x : Action (Bench StoreClient Store) (List String)) (b : Bench StoreClient Store)
    (st : Settings) (m : Contents) (T : String) (cells : SortedMap Row) (Good : Prop)
    (told : List (String × String)) : Prop :=
  ∃ complaints b', x b = .ok complaints b' ∧ b'.At st m T cells ∧ (complaints = [] ↔ Good) ∧
    (Good → ∀ events, b.metrics.Tells events → b'.metrics.Tells (events ++ told))

/-- What is done for a key is a step of its cell: `next` is left in it, nothing is reported exactly
if it was `good`, and these outcomes are recorded then. -/
def Phase (st : Settings) (m : Contents) (T : String)
    (f : String → Action (Bench StoreClient Store) (List String))
    (next : String → Option Row → Option Row) (good : String → Option Row → Prop)
    (told : List (String × String)) : Prop :=
  ∀ b cells key, b.At st m T cells →
    Comes (f key) b st m T (cells.set key (next key (cells.get? key))) (good key (cells.get? key))
      told

/-- A phase takes every key from the cell that it had before the phase. -/
lemma Phase.gather {f : String → Action (Bench StoreClient Store) (List String)}
    {next : String → Option Row → Option Row} {good : String → Option Row → Prop}
    {told : List (String × String)} (hf : Phase st m T f next good told) (h : b.At st m T cells)
    {ks : List String} (hks : ks.Nodup) :
    Comes (Bench.gather f ks) b st m T (cells.alter next ks)
      (∀ k ∈ ks, good k (cells.get? k)) (ks.flatMap fun _ => told) := by
  induction ks generalizing b cells with
  | nil => exact ⟨[], b, rfl, h, by simp, fun _ events he => by simpa using he⟩
  | cons k ks ih =>
    obtain ⟨hk, hks⟩ := List.nodup_cons.1 hks
    obtain ⟨cs, c, hc, hat, hgood, htold⟩ := hf b cells k h
    obtain ⟨ds, d, hd, hat', hgood', htold'⟩ := ih hat hks
    -- the cells of the other keys are still what they were
    have hrest : (∀ j ∈ ks, good j ((cells.set k (next k (cells.get? k))).get? j)) ↔
        ∀ j ∈ ks, good j (cells.get? j) := by
      refine forall₂_congr fun j hj => ?_
      rw [SortedMap.get?_set, if_neg (ne_of_mem_of_not_mem hj hk)]
    rw [hrest] at hgood' htold'
    refine ⟨cs ++ ds, d, ?_, hat', ?_, fun hall events he => ?_⟩
    · simp only [Bench.gather, Action.bind_apply, hc, hd, Action.pure_apply]
    · rw [List.append_eq_nil_iff, hgood, hgood', List.forall_mem_cons]
    · obtain ⟨hk, hks⟩ := List.forall_mem_cons.1 hall
      rw [List.flatMap_cons, ← List.append_assoc]
      exact htold' hks _ (htold hk _ he)

/-! ## The phases -/

variable (st m T) (p : SmokePlan)

/-- Inserting a record succeeds where there is none. -/
lemma phase_insert : Phase st m T (tryInsert (.str T) p) p.inserted
    (fun k cell => k ≠ "" ∧ cell = none) [("insert", "OK")] := by
  intro b cells key h
  obtain ⟨o, cs, b', hx, hat, -, hcs, ht⟩ := h.expect .insert key .ok (.insert p.values.row)
  have hx' : Bench.expect .insert key .ok
      (Session.insert (.str T) (.str key) p.values.row.value) b = .ok (o, cs) b' := hx
  have hok : (Verb.onCell key (cells.get? key) (.insert p.values.row)).1.status = .ok ↔
      key ≠ "" ∧ cells.get? key = none := by
    cases cells.get? key with
    | none => by_cases hk : key = "" <;> simp [Verb.onCell, hk]
    | some row => simp [Verb.onCell]
  refine ⟨cs, b', ?_, hat, hcs.trans hok, fun hgood events he => ?_⟩
  · simp only [tryInsert, Action.bind_apply, hx', Action.pure_apply]
  · have he' := ht events he
    rwa [hok.2 hgood] at he'

/-- Reading a record succeeds where there is one that shows what was written. -/
lemma phase_read : Phase st m T (tryRead (.str T) p) (fun _ cell => cell)
    (fun _ cell => ∃ row, cell = some row ∧ row.visible [] = p.values) [("read", "OK")] := by
  intro b cells key h
  obtain ⟨o, cs, b', hx, hat, ho, hcs, ht⟩ := h.expect .read key .ok (.read [])
  have hx' : Bench.expect .read key .ok (Session.read (.str T) (.str key) .empty) b =
      .ok (o, cs) b' := hx
  cases hc : cells.get? key with
  | none =>
    rw [hc] at hat ho hcs
    have hcs' : cs ≠ [] := fun he => by cases hcs.1 he
    have hst : o.status ≠ .ok := by rw [ho.status]; nofun
    refine ⟨cs, b', ?_, hat, by simp [hcs'], by simp⟩
    simp only [tryRead, Action.bind_apply, hx', hst, false_and, if_false, Action.pure_apply]
  | some row =>
    rw [hc] at hat ho hcs ht
    have hst : o.status = .ok := ho.status
    have hsame : sameRecord o p.values = decide (row.visible [] = p.values) := by
      rw [sameRecord, ho.data]
      rfl
    refine ⟨if row.visible [] = p.values then cs
      else cs ++ ["read " ++ key ++ ": unexpected fields " ++ fieldNames o], b', ?_, hat, ?_,
      fun _ => ht⟩
    · simp only [tryRead, Action.bind_apply, hx', hst, hsame, true_and]
      split <;> split <;> simp_all
    · split
      next hv => simp [hcs.2 rfl, hv]
      next hv => simp [hv]

/-- Updating a record succeeds where there is one that the update changes. -/
lemma phase_update : Phase st m T (tryUpdate (.str T) p) SmokePlan.updated
    (fun _ cell => ∃ row, cell = some row ∧ row.revised SmokePlan.update.row ≠ row)
    [("update", "OK"), ("read", "OK")] := by
  intro b cells key h
  obtain ⟨o, ws, b', hx, hat, -, hws, ht⟩ :=
    h.expect .update key .ok (.update SmokePlan.update.row)
  obtain ⟨o', cs, b'', hx', hat', ho', hcs, ht'⟩ := hat.expect_read .ok p.watchedFields
  have hu : Bench.expect .update key .ok
      (Session.update (.str T) (.str key) SmokePlan.update.row.value) b = .ok (o, ws) b' := hx
  have hr : Bench.expect .read key .ok (Session.read (.str T) (.str key) p.watched) b' =
      .ok (o', cs) b'' := by
    rw [p.watched_eq]
    exact hx'
  have hrun : tryUpdate (.str T) p key b =
      .ok (if o'.status = .ok ∧ fieldOf o' "field0" ≠ some "updated" then
        ws ++ cs ++ ["read " ++ key ++ ": update not visible"] else ws ++ cs) b'' := by
    simp only [tryUpdate, Action.bind_apply, hu, hr]
    split <;> rfl
  refine ⟨_, b'', hrun, hat', ?_, ?_⟩
  · constructor
    · intro hnil
      -- nothing was reported of the update, so it has changed a record
      have hwnil : ws = [] := by
        split at hnil
        · exact absurd hnil (by simp)
        · exact (List.append_eq_nil_iff.1 hnil).1
      have hok := hws.1 hwnil
      cases hc : cells.get? key with
      | none =>
        rw [hc] at hok
        cases hok
      | some row =>
        refine ⟨row, rfl, fun hrev => ?_⟩
        rw [hc, Verb.onCell, if_pos hrev] at hok
        cases hok
    · rintro ⟨row, hc, hrev⟩
      simp only [hc, Verb.onCell, if_neg hrev] at hws hcs ho'
      have hfield : fieldOf o' "field0" = some "updated" := by
        rw [fieldOf, ho'.data]
        exact p.get?_visible_revised row
      simp [hws.2, hcs.2, hfield]
  · rintro ⟨row, hc, hrev⟩ events he
    simp only [hc, Verb.onCell, if_neg hrev] at ht ht'
    have he' := ht' _ (ht _ he)
    rwa [List.append_assoc] at he'

/-- Deleting a record succeeds where there is one, and then there is none. -/
lemma phase_delete : Phase st m T (tryDelete (.str T)) (fun _ _ => none)
    (fun _ cell => ∃ row, cell = some row) [("delete", "OK"), ("read", "NOT_FOUND")] := by
  intro b cells key h
  obtain ⟨o, ds, b', hx, hat, -, hds, ht⟩ := h.expect .delete key .ok .delete
  have hgone : (Verb.onCell key (cells.get? key) .delete).2 = none := by
    cases cells.get? key <;> rfl
  rw [hgone] at hat
  obtain ⟨o', cs, b'', hx', hat', -, hcs, ht'⟩ := hat.expect_read .notFound []
  have hd : Bench.expect .delete key .ok (Session.delete (.str T) (.str key)) b =
      .ok (o, ds) b' := hx
  have hr : Bench.expect .read key .notFound (Session.read (.str T) (.str key) .empty) b' =
      .ok (o', cs) b'' := hx'
  refine ⟨ds ++ cs, b'', ?_, hat', ?_, ?_⟩
  · simp only [tryDelete, Action.bind_apply, hd, hr, Action.pure_apply]
  · rw [List.append_eq_nil_iff, hds, hcs]
    cases cells.get? key <;> simp [Verb.onCell]
  · rintro ⟨row, hc⟩ events he
    simp only [hc, Verb.onCell] at ht ht'
    have he' := ht' _ (ht _ he)
    rwa [List.append_assoc] at he'

end Bench

end CrudBench
