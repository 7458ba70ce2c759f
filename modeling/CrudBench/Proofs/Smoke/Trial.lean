import CrudBench.Proofs.Action
import CrudBench.Proofs.Plain
import CrudBench.Proofs.Smoke.Plan

/-!
# Trials of a smoke check

A smoke check is a list of trials, which is fixed by its plan: operations, each with what is
expected of its outcome. Each trial is carried out and recorded whatever came of the ones before,
and reported at most once (`Bench.carryOut_eq`).
-/

namespace CrudBench

/-- What a smoke check does with a record: it looks for it again after it was updated, and once more
after it was deleted. -/
inductive Aim where
  | insert
  | read
  | update
  | reread
  | scan
  | delete
  | miss

namespace Aim

/-- The operation, as which the outcome is recorded. -/
def operation : Aim → Operation
  | insert => .insert
  | read | reread | miss => .read
  | update => .update
  | scan => .scan
  | delete => .delete

/-- The status of the outcome that is expected. -/
def wanted : Aim → Status
  | miss => .notFound
  | insert | read | update | reread | scan | delete => .ok

end Aim

/-- What is done with the record under a key, or with those from a key on. -/
structure Trial where
  aim : Aim
  key : String

namespace Trial

variable (T : String) (p : SmokePlan)

/-- The operation of a trial on a table. -/
def plain : Trial → PlainRequest
  | ⟨.insert, key⟩ => .point ⟨T, key, .insert p.values.row⟩
  | ⟨.read, key⟩ | ⟨.miss, key⟩ => .point ⟨T, key, .read []⟩
  | ⟨.update, key⟩ => .point ⟨T, key, .update SmokePlan.update.row⟩
  | ⟨.reread, key⟩ => .point ⟨T, key, .read p.watchedFields⟩
  | ⟨.scan, key⟩ => .range T key p.records.toInt ["field0"]
  | ⟨.delete, key⟩ => .point ⟨T, key, .delete⟩

/-- The operation as it is asked for. A scan asks for as many records as the plan says, which may be
another value than a whole number. -/
def request : Trial → Request
  | ⟨.scan, key⟩ => .scan (.str T) (.str key) p.records.value (.ofTexts ["field0"])
  | x => (x.plain T p).request

/-- The call that a trial makes. -/
def call (st : Settings) : Trial → Call
  | ⟨.scan, key⟩ => .between st.database (.str T) (.str key) p.records.value
      (FieldSet.names ["field0"]) st.readMode
  | x => (x.plain T p).call st

/-- The outcome is as expected: what was written is read, and no more is scanned than was asked for.
-/
def Met (x : Trial) (o : Outcome) : Prop :=
  o.status = x.aim.wanted ∧ match x.aim with
    | .read => o.data = some (.record p.values)
    | .reread => ∃ d, o.data = some (.record d) ∧ d.get? "field0" = some "updated"
    | .scan => Bench.scannedCount o ≤ p.records.toInt
    | .insert | .update | .delete | .miss => True

/-- What is reported of an outcome with the expected status, if anything. -/
def remark? (o : Outcome) : Trial → Option String
  | ⟨.read, key⟩ =>
    if Bench.sameRecord o p.values then none
    else some ("read " ++ key ++ ": unexpected fields " ++ Bench.fieldNames o)
  | ⟨.reread, key⟩ =>
    if Bench.fieldOf o "field0" = some "updated" then none
    else some ("read " ++ key ++ ": update not visible")
  | ⟨.scan, _⟩ =>
    if p.records.toInt < Bench.scannedCount o then
      some ("scan: returned " ++ Text.decimal (Bench.scannedCount o) ++ " rows, limit was " ++
        p.records.value.text)
    else none
  | _ => none

/-- What is reported of an outcome, if anything. -/
def complaint? (x : Trial) (o : Outcome) : Option String :=
  if o.status = x.aim.wanted then x.remark? p o
  else some (Bench.complaint x.aim.operation x.key o)

variable {p}

lemma sameRecord_iff {o : Outcome} {d : Document} :
    Bench.sameRecord o d = true ↔ o.data = some (.record d) := by
  rw [Bench.sameRecord]
  split
  next d' h => simp [h]
  next h => simpa using fun he => h d he

lemma fieldOf_eq_some {o : Outcome} {name value : String} :
    Bench.fieldOf o name = some value ↔
      ∃ d, o.data = some (.record d) ∧ d.get? name = some value := by
  rw [Bench.fieldOf]
  split
  next d h => simp [h]
  next h => simpa using fun d he => absurd he (h d)

/-- An outcome is reported unless it is as expected. -/
lemma complaint?_eq_none (x : Trial) (o : Outcome) :
    x.complaint? p o = none ↔ x.Met p o := by
  obtain ⟨aim, key⟩ := x
  rw [complaint?, Met]
  by_cases hs : o.status = aim.wanted
  · rw [if_pos hs]
    cases aim with
    | read => simp [hs, remark?, sameRecord_iff]
    | reread => simp [hs, remark?, fieldOf_eq_some]
    | scan => simp [hs, remark?]
    | insert | update | delete | miss => simp [hs, remark?]
  · simp [hs]

instance (x : Trial) (o : Outcome) : Decidable (x.Met p o) :=
  decidable_of_iff (x.complaint? p o = none) (complaint?_eq_none x o)

end Trial

namespace SmokePlan

variable (p : SmokePlan)

/-- The trials of a smoke check, in their order: what is done for each key alike is done for one key
after the other, and the records are scanned from the first key on. -/
def trials : List Trial :=
  p.keys.map (Trial.mk .insert) ++ p.keys.map (Trial.mk .read) ++
    (p.keys.flatMap fun k => [⟨.update, k⟩, ⟨.reread, k⟩]) ++
      (p.keys.take 1).map (Trial.mk .scan) ++ p.keys.flatMap fun k => [⟨.delete, k⟩, ⟨.miss, k⟩]

/-- Six trials are made of each record, and one of all. -/
lemma length_trials (hn : 1 ≤ p.records.toInt) :
    p.trials.length = 6 * p.records.toInt.toNat + 1 := by
  have hpairs (f g : String → Trial) (ks : List String) :
      (ks.flatMap fun k => [f k, g k]).length = 2 * ks.length := by
    induction ks with
    | nil => rfl
    | cons k ks ih =>
      rw [List.flatMap_cons, List.length_append, ih, List.length_cons]
      simp only [List.length_cons, List.length_nil]
      omega
  simp only [trials, List.length_append, List.length_map, List.length_take, hpairs, p.length_keys]
  omega

/-- Every trial is about a key of the plan. -/
lemma key_mem_of_mem_trials {x : Trial} (h : x ∈ p.trials) : x.key ∈ p.keys := by
  simp only [trials, List.mem_append, List.mem_map, List.mem_flatMap, List.mem_cons,
    List.not_mem_nil, or_false] at h
  obtain ((((⟨k, hk, rfl⟩ | ⟨k, hk, rfl⟩) | ⟨k, hk, rfl | rfl⟩) | ⟨k, hk, rfl⟩) |
    ⟨k, hk, rfl | rfl⟩) := h
  case inl.inr => exact List.mem_of_mem_take hk
  all_goals exact hk

end SmokePlan

namespace Bench

variable {κ ω : Type} [Client κ ω]

/-- Carries a trial out and records its outcome, which is reported unless it is as expected. -/
def probe (T : String) (p : SmokePlan) (x : Trial) : Action (Bench κ ω) (List String) := do
  let o ← viaBackend (x.request T p).perform
  modify fun b => { b with metrics := b.metrics.recordOutcome x.aim.operation.name o }
  return (x.complaint? p o).toList

section Gather

variable {σ α β γ : Type} {f : α → Action σ (List β)}

lemma gather_append (as bs : List α) :
    (gather f (as ++ bs) : Action σ (List β)) =
      do return (← gather f as) ++ (← gather f bs) := by
  induction as with
  | nil => simp [gather]
  | cons a as ih =>
    rw [List.cons_append, gather, gather, ih]
    simp only [bind_assoc, pure_bind, List.append_assoc]

lemma gather_map (g : γ → α) (cs : List γ) :
    gather f (cs.map g) = gather (fun c => f (g c)) cs := by
  induction cs with
  | nil => rfl
  | cons c cs ih => rw [List.map_cons, gather, gather, ih]

lemma gather_flatMap (g : γ → List α) (cs : List γ) :
    gather f (cs.flatMap g) = gather (fun c => gather f (g c)) cs := by
  induction cs with
  | nil => rfl
  | cons c cs ih => rw [List.flatMap_cons, gather_append, gather, ih]

lemma gather_singleton (a : α) : (gather f [a] : Action σ (List β)) = f a := by
  simp [gather]

lemma gather_pair (a a' : α) :
    (gather f [a, a'] : Action σ (List β)) = do return (← f a) ++ (← f a') := by
  simp [gather]

end Gather

/-! ## The trials of each phase -/

variable (T : String) (p : SmokePlan)

/-- What a trial comes to is what its operation comes to. -/
lemma probe_apply (x : Trial) (b : Bench κ ω) :
    probe T p x b = match (x.request T p).perform b.toSession with
      | .ok o s => .ok (x.complaint? p o).toList
          { b with
            toSession := s
            metrics := b.metrics.recordOutcome x.aim.operation.name o }
      | .error e s => .error e { b with toSession := s } := by
  rw [probe, Action.bind_apply, viaBackend]
  cases (x.request T p).perform b.toSession <;> rfl

/-- A trial expects a status, and remarks on an outcome that has it. -/
lemma probe_eq (x : Trial) : (probe T p x : Action (Bench κ ω) _) = do
    let (o, complaints) ← expect x.aim.operation x.key x.aim.wanted (x.request T p).perform
    return complaints ++ if o.status = x.aim.wanted then (x.remark? p o).toList else [] := by
  simp only [probe, Bench.expect, bind_assoc, pure_bind]
  refine bind_congr fun o => bind_congr fun _ => ?_
  rw [Trial.complaint?]
  split <;> simp

lemma tryInsert_eq : (tryInsert (.str T) p : String → Action (Bench κ ω) _) =
    fun key => probe T p ⟨.insert, key⟩ := by
  funext key
  rw [probe_eq]
  refine bind_congr fun ⟨o, complaints⟩ => ?_
  simp [Trial.remark?]

lemma tryRead_eq : (tryRead (.str T) p : String → Action (Bench κ ω) _) =
    fun key => probe T p ⟨.read, key⟩ := by
  funext key
  rw [probe_eq]
  refine bind_congr fun ⟨o, complaints⟩ => ?_
  by_cases hs : o.status = .ok <;> cases h : sameRecord o p.values <;>
    simp [Trial.remark?, Aim.wanted, hs, h]

lemma tryUpdate_eq : (tryUpdate (.str T) p : String → Action (Bench κ ω) _) =
    fun key => gather (probe T p) [⟨.update, key⟩, ⟨.reread, key⟩] := by
  funext key
  rw [gather_pair, probe_eq, probe_eq]
  simp only [bind_assoc, pure_bind]
  refine bind_congr fun ⟨o, written⟩ => bind_congr fun ⟨o', complaints⟩ => ?_
  simp only [Trial.remark?, Option.toList_none, ite_self, List.append_nil]
  by_cases hs : o'.status = .ok <;> by_cases h : fieldOf o' "field0" = some "updated" <;>
    simp [Aim.wanted, hs, h]

lemma tryScan_eq {key : String} {rest : List String} (h : p.keys = key :: rest) :
    (tryScan (.str T) p : Action (Bench κ ω) _) = probe T p ⟨.scan, key⟩ := by
  rw [probe_eq, tryScan, h]
  refine bind_congr fun ⟨o, complaints⟩ => ?_
  by_cases hs : o.status = .ok <;> by_cases hc : p.records.toInt < scannedCount o <;>
    simp [Trial.remark?, Aim.wanted, hs, hc]

lemma tryDelete_eq : (tryDelete (.str T) : String → Action (Bench κ ω) _) =
    fun key => gather (probe T p) [⟨.delete, key⟩, ⟨.miss, key⟩] := by
  funext key
  rw [gather_pair, probe_eq, probe_eq]
  simp only [bind_assoc, pure_bind]
  refine bind_congr fun ⟨o, deleted⟩ => bind_congr fun ⟨o', missed⟩ => ?_
  simp [Trial.remark?]

/-- A smoke check of some records is its trials, one after the other. -/
theorem carryOut_eq (hn : 1 ≤ p.records.toInt) :
    (carryOut (.str T) p : Action (Bench κ ω) _) = gather (probe T p) p.trials := by
  have hlen := p.length_keys
  obtain ⟨key, rest, hkeys⟩ : ∃ key rest, p.keys = key :: rest :=
    List.exists_cons_of_length_pos (by omega)
  have hscan : (p.keys.take 1).map (Trial.mk .scan) = [⟨.scan, key⟩] := by rw [hkeys]; rfl
  rw [SmokePlan.trials, hscan, gather_append, gather_append, gather_append, gather_append,
    gather_map, gather_map, gather_flatMap, gather_flatMap, gather_singleton, carryOut,
    tryInsert_eq, tryRead_eq, tryUpdate_eq, tryScan_eq T p hkeys, tryDelete_eq T p]
  simp only [bind_assoc, pure_bind]

end Bench

end CrudBench
