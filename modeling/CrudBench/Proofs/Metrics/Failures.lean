import CrudBench.Proofs.Silence
import CrudBench.Proofs.Smoke.Latency

/-!
# Failures in metrics

The outcomes of episodes are recorded, each under a name. The summary under a name counts the
failures among them, and it counts the error texts that were recorded. These are as many, but for
the failures that were mute (`Registry.failures_counted`).
-/

namespace CrudBench

/-! ## Failures among outcomes -/

namespace Outcome

lemma name_eq_error_iff (s : Status) : s.name = "ERROR" ↔ s = .error := by cases s <;> decide

/-- A text is recorded of every failure that is not mute, and of nothing else. -/
lemma Spoken.isSome_complaint {o : Outcome} (h : o.Spoken) :
    o.sample.complaint?.isSome = (o.status == .error && !o.isMute) := by
  obtain ⟨hs, he⟩ | ⟨hs, text, he⟩ := h
  · simp [sample, Sample.complaint?, isMute, hs, he]
  · by_cases ht : text = "" <;> simp [sample, Sample.complaint?, isMute, hs, he, ht, Option.filter]

/-- The outcome is a failure. -/
def isFailure (o : Outcome) : Bool := o.status == .error

/-- Failures are recorded as such. -/
lemma count_error (os : List Outcome) :
    Sample.count (os.map sample) "ERROR" = os.countP isFailure := by
  rw [Sample.count, List.countP_map]
  refine List.countP_congr fun o _ => ?_
  simp [isFailure, sample, name_eq_error_iff]

/-- All failures but the mute ones leave a text. -/
lemma length_complaints {os : List Outcome} (h : ∀ o ∈ os, o.Spoken) :
    ((os.map sample).filterMap Sample.complaint?).length + os.countP isMute =
      os.countP isFailure := by
  have htold : os.countP (fun o => o.sample.complaint?.isSome) =
      os.countP fun o => isFailure o && !isMute o :=
    List.countP_congr fun o ho => by rw [(h o ho).isSome_complaint, isFailure]
  have hmute : os.countP isMute = os.countP fun o => isFailure o && isMute o :=
    List.countP_congr fun o _ => by simp [isFailure, isMute]
  rw [List.filterMap_map, List.length_filterMap_eq_countP]
  show os.countP (fun o => o.sample.complaint?.isSome) + _ = _
  rw [htold, hmute, List.countP_eq_countP_filter_add os isFailure isMute, List.countP_filter,
    List.countP_filter, Nat.add_comm]

end Outcome

/-! ## Logs -/

variable {κ ω : Type}

/-- Episodes, each with a name for its outcome. -/
def World.log (names : Nat → String) (es : List (Episode κ ω)) : List (String × Episode κ ω) :=
  es.zipIdx.map fun x => (names x.2, x.1)

namespace Registry

/-- Metrics in which the outcomes of episodes were recorded, each under the name that it has. -/
def ofLog (log : List (String × Episode κ ω)) : Registry :=
  log.foldl (fun r x => (x.2.outcome?.map (r.recordOutcome x.1)).getD r) .empty

/-- The outcomes that have a name. -/
def outcomesOf (log : List (String × Episode κ ω)) (name : String) : List Outcome :=
  log.filterMap fun x => if x.1 = name then x.2.outcome? else none

/-- Under a name there is what was recorded of the outcomes that have it. -/
lemma series_ofLog (log : List (String × Episode κ ω)) (name : String) :
    (ofLog log).series name = Series.of ((outcomesOf log name).map Outcome.sample) := by
  induction log using List.reverseRecOn with
  | nil => rfl
  | append_singleton log x ih =>
    rw [ofLog, List.foldl_append, ← ofLog, outcomesOf, List.filterMap_append, ← outcomesOf,
      List.map_append, List.foldl_cons, List.foldl_nil, List.filterMap_cons, List.filterMap_nil]
    cases ho : x.2.outcome? with
    | none => simpa using ih
    | some o =>
      rw [Option.map_some, Option.getD_some, recordOutcome, series_record]
      by_cases hn : x.1 = name
      · subst hn
        simp only [if_true, List.map_cons, List.map_nil, Series.of_append, ← ih]
        rfl
      · simpa [hn, Ne.symm hn] using ih

end Registry

/-- The summary counts these outcomes and the failures among them, and the error texts that are
held. They are as many as the failures, but for the mute ones. -/
structure Summary.CountsFailures (s : Summary) (m : Measured) (errors : List String)
    (os : List Outcome) : Prop where
  measured : s.measured = some m
  operations : s.operations = os.length
  failures : (s.statuses.get? "ERROR").getD 0 = os.countP Outcome.isFailure
  errors : m.errors = errors.length
  muted : m.errors + os.countP Outcome.isMute = os.countP Outcome.isFailure

namespace Registry

/-- Under every name of an outcome there is a summary that counts failures. It counts as many error
texts as failures exactly if no episode under the name was mute. -/
def CountsFailures (log : List (String × Episode κ ω)) (mute : Episode κ ω → Prop) : Prop :=
  ∀ name, outcomesOf log name ≠ [] → ∃ s m,
    ((ofLog log).series name).summary name = .ok s ∧
    s.CountsFailures m ((ofLog log).series name).errors (outcomesOf log name) ∧
    (m.errors = (s.statuses.get? "ERROR").getD 0 ↔ ∀ x ∈ log, x.1 = name → ¬mute x.2)

lemma mem_outcomesOf {log : List (String × Episode κ ω)} {name : String} {o : Outcome} :
    o ∈ outcomesOf log name ↔ ∃ x ∈ log, x.1 = name ∧ x.2.outcome? = some o := by
  simp only [outcomesOf, List.mem_filterMap]
  refine exists_congr fun x => and_congr_right fun _ => ?_
  split <;> simp [*]

/-- Summaries of outcomes that are spoken and timed by floats count failures. -/
lemma countsFailures {log : List (String × Episode κ ω)} {mute : Episode κ ω → Prop}
    (hs : ∀ x ∈ log, ∀ o, x.2.outcome? = some o → o.Spoken ∧ o.Clocked)
    (hm : ∀ x ∈ log, mute x.2 ↔ ∃ o, x.2.outcome? = some o ∧ o.isMute = true) :
    CountsFailures log mute := by
  intro name hne
  have hspoken : ∀ o ∈ outcomesOf log name, o.Spoken ∧ o.Clocked := by
    intro o ho
    obtain ⟨x, hx, -, ho⟩ := mem_outcomesOf.1 ho
    exact hs x hx o ho
  have hcount := Outcome.length_complaints fun o ho => (hspoken o ho).1
  have hmute : (outcomesOf log name).countP Outcome.isMute = 0 ↔
      ∀ x ∈ log, x.1 = name → ¬mute x.2 := by
    rw [List.countP_eq_zero]
    constructor
    · intro h x hx hn hmx
      obtain ⟨o, ho, hmo⟩ := (hm x hx).1 hmx
      exact h o (mem_outcomesOf.2 ⟨x, hx, hn, ho⟩) hmo
    · intro h o ho hmo
      obtain ⟨x, hx, hn, ho⟩ := mem_outcomesOf.1 ho
      exact h x hx hn ((hm x hx).2 ⟨o, ho, hmo⟩)
  have hreal : ∀ e ∈ (outcomesOf log name).map Outcome.sample, ∃ ms, e.latency = .real ms := by
    intro e he
    obtain ⟨o, ho, rfl⟩ := List.mem_map.1 he
    exact (hspoken o ho).2
  obtain ⟨s, hsummary, htells⟩ := Series.returns_summary name (Sample.inRange_of_not_wide
    fun e he => by
      obtain ⟨ms, hms⟩ := hreal e he
      rw [hms]
      exact id)
  obtain ⟨m, hmeasured, herrors, -⟩ := htells.measured (by simpa using hne)
  have hstatus : (s.statuses.get? "ERROR").getD 0 =
      (outcomesOf log name).countP Outcome.isFailure := by
    rw [htells.statuses, ← Outcome.count_error]
    split
    · rfl
    · rw [Option.getD_none]
      omega
  rw [← herrors] at hcount
  refine ⟨s, m, by rw [series_ofLog]; exact hsummary, ⟨hmeasured, ?_, hstatus, ?_, hcount⟩, ?_⟩
  · rw [htells.operations, List.length_map]
  · rw [herrors, series_ofLog, Series.of_errors]
  · rw [← hmute, hstatus]
    omega

end Registry

/-! ## Runs -/

section

variable [Client κ ω]

lemma Command.clocked_outcome {x : Command} {i : Nat} {s : Session κ ω} {o : Outcome}
    (h : (x.episode i s).outcome? = some o) : o.Clocked := by
  obtain ⟨r, rfl, ⟨hskip, -⟩ | ⟨-, c, -, ha⟩⟩ := outcome_cases h
  · exact ⟨_, (Request.skipped_cases hskip).1⟩
  · exact ⟨_, ha.latency⟩

/-- What is listed in the log of a run is what a backend has come to that was told something. -/
lemma World.mem_log {names : Nat → String} {xs : List (Turn κ ω)} {w : World κ ω}
    {x : String × Episode κ ω} (hx : x ∈ log names (run xs w)) :
    ∃ (i : Nat) (c : Command) (s : Session κ ω), x.2 = c.episode i s := by
  obtain ⟨⟨e, n⟩, he, rfl⟩ := List.mem_map.1 hx
  obtain ⟨before, after, hrun⟩ := List.append_of_mem (List.fst_mem_of_mem_zipIdx he)
  obtain ⟨-, -, i, c, s, -, -, -, rfl⟩ := run_eq_append hrun
  exact ⟨i, c, s, rfl⟩

/-- In the log of a run failures are counted, whatever is known to make them mute. -/
lemma Registry.countsFailures_run {mute : Episode κ ω → Prop}
    (hfinished : ∀ e, mute e → e.outcome?.isSome = true)
    (hmute : ∀ {i} {c : Command} {s : Session κ ω} {o}, (c.episode i s).outcome? = some o →
      (o.isMute = true ↔ mute (c.episode i s)))
    (xs : List (Turn κ ω)) (w : World κ ω) (names : Nat → String) :
    CountsFailures (World.log names (World.run xs w)) mute := by
  refine countsFailures (fun x hx o ho => ?_) fun x hx => ?_
  · obtain ⟨i, c, s, he⟩ := World.mem_log hx
    rw [he] at ho
    exact ⟨Command.spoken_outcome ho, Command.clocked_outcome ho⟩
  · obtain ⟨i, c, s, he⟩ := World.mem_log hx
    rw [he]
    constructor
    · intro h
      obtain ⟨o, ho⟩ := Option.isSome_iff_exists.1 (hfinished _ h)
      exact ⟨o, ho, (hmute ho).2 h⟩
    · rintro ⟨o, ho, hm⟩
      exact (hmute ho).1 hm

end

namespace Registry

/-- Whatever backends do over a store or over servers, and under whichever names it is recorded, a
summary counts the failures under its name, and as many error texts as were recorded. These are as
many as the failures exactly if no client was armed with the empty message when a request reached
it, and no server has replied to one with an error that has none. -/
theorem failures_counted (names : Nat → String)
    (xs : List (Turn StoreClient Store)) (w : World StoreClient Store)
    (ys : List (Turn WireClient Server)) (v : World WireClient Server) :
    CountsFailures (World.log names (World.run xs w)) Episode.MutelyArmed ∧
      CountsFailures (World.log names (World.run ys v)) Episode.MutelyReplied :=
  ⟨countsFailures_run (fun _ h => h.1.2) Command.isMute_iff_armed xs w names,
    countsFailures_run (fun _ h => h.1.2) Command.isMute_iff_replied ys v names⟩

/-- The reply to a read is an error without a message: it is counted as a failure, and no error text
is there. -/
theorem failures_counted_silent :
    let replies (rs : List (Except DriverError Value)) (x : Server) : Server :=
      { x with replies := rs }
    let xs : List (Turn WireClient Server) := [
      .join (.ofFields [("host", .str "db1")]) .new,
      .renew (replies [.ok (.list [.str "ycsb"]), .ok (.list [.str "usertable"]), .ok .null]),
      .tell 0 .init, .renew (replies [.error (.reported .driver "")]),
      .tell 0 (.request (.read (.str "usertable") (.str "k") .empty))]
    let w : World WireClient Server :=
      .new .empty ⟨[], []⟩ (.new [1]) ⟨none, none, [], []⟩
    let r := ofLog (World.log (fun _ => "read") (World.run xs w))
    ∃ s m, (r.series "read").summary "read" = .ok s ∧ s.measured = some m ∧ s.operations = 1 ∧
      s.statuses.get? "ERROR" = some 1 ∧ m.errors = 0 ∧ (r.series "read").errors = [] := by
  intro replies xs w r
  have hone : (outcomesOf (World.log (fun _ => "read") (World.run xs w)) "read").map
      (fun o => (o.isFailure, o.isMute)) = [(true, true)] := by decide +kernel
  obtain ⟨o, ho, hf⟩ := List.map_eq_singleton_iff.1 hone
  obtain ⟨hfailure, hmute⟩ := Prod.mk.inj hf
  obtain ⟨s, m, hs, hcounts, -⟩ := countsFailures_run (fun _ h => h.1.2)
    Command.isMute_iff_replied xs w (fun _ => "read") "read" (by rw [ho]; exact nofun)
  obtain ⟨hm, hoperations, hfailures, herrors, hmuted⟩ := hcounts
  simp only [ho, List.length_singleton, List.countP_singleton, hfailure, hmute, if_true]
    at hoperations hfailures hmuted
  have hnone : m.errors = 0 := by omega
  refine ⟨s, m, hs, hm, hoperations, ?_, hnone, ?_⟩
  · cases hget : s.statuses.get? "ERROR" with
    | none =>
      rw [hget] at hfailures
      cases hfailures
    | some n =>
      rw [hget] at hfailures
      exact congrArg some hfailures
  · rw [hnone] at herrors
    exact List.length_eq_zero_iff.1 herrors.symm

end Registry

end CrudBench
