import CrudBench.Proofs.Metrics.Reports
import CrudBench.Proofs.Smoke.Trial

/-!
# Latencies of a smoke check

The latency of every outcome of a request is a float, whatever the client does. So there are always
statistics of what a smoke check has recorded, and they can be reported
(`Registry.Clocked.returns_report`).
-/

namespace CrudBench

/-- The latency of the outcome is a float. -/
def Outcome.Clocked (o : Outcome) : Prop := ∃ ms, o.latency = .real ms

/-! ## Requests -/

namespace Session

variable {κ ω : Type}

/-- Every outcome that the action returns has a float for its latency. -/
def Clocks (x : Action (Session κ ω) Outcome) : Prop :=
  Action.Keeps (fun _ => True) Outcome.Clocked (fun _ => True) x

lemma clocks_pure {o : Outcome} (h : o.Clocked) : Clocks (pure o : Action (Session κ ω) Outcome) :=
  Action.keeps_pure h

/-- What was done before does not matter. -/
lemma Clocks.after {α : Type} {x : Action (Session κ ω) α}
    {f : α → Action (Session κ ω) Outcome} (h : ∀ a, Clocks (f a)) : Clocks (x >>= f) :=
  (Action.keeps_of_outcome fun _ _ => trivial).bind fun a _ => h a

/-- The time since a reading of the clock is a float. -/
lemma Clocks.elapsed {f : Latency → Action (Session κ ω) Outcome}
    (h : ∀ ms, Clocks (f (.real ms))) (start : Float) : Clocks (elapsedSince start >>= f) := by
  intro s hs
  rw [Action.bind_apply, elapsedSince_apply]
  exact h _ _ hs

lemma clocks_failure (op : Operation) (key : Value) (e : OperationError) (start : Float) :
    Clocks (failure op key e start : Action (Session κ ω) Outcome) :=
  .after fun _ => .elapsed (fun ms => clocks_pure ⟨ms, rfl⟩) start

lemma clocks_settle (op : Operation) (key : Value) (start : Float) (wanted : Counter)
    (mayMiss : Bool) (answer : Value) :
    Clocks (settle op key start wanted mayMiss answer : Action (Session κ ω) Outcome) := by
  rw [settle]
  split
  · exact Action.keeps_throw trivial
  · split
    · exact .elapsed (fun ms => clocks_pure ⟨ms, rfl⟩) start
    · split
      · exact .elapsed (fun ms => clocks_pure ⟨ms, rfl⟩) start
      · exact clocks_failure op key _ start

lemma clocks_whenConnected {act : Settings → Action (Session κ ω) Outcome}
    (h : ∀ st, Clocks (act st)) : Clocks (whenConnected act) := by
  refine .after fun s => ?_
  split
  · exact h _
  · exact clocks_pure ⟨_, rfl⟩

variable [Client κ ω]

lemma clocks_timed (op : Operation) (key : Value) (start : Float) {c : Call}
    {finish : c.Answer → Action (Session κ ω) Outcome} (h : ∀ a, Clocks (finish a)) :
    Clocks (timed op key start c finish) := by
  refine .after fun r => ?_
  split
  · exact clocks_failure op key _ start
  · exact h _

/-- Every outcome of a request has a float for its latency. -/
lemma clocks_perform (r : Request) : Clocks (r.perform : Action (Session κ ω) Outcome) := by
  cases r with
  | read t key fields =>
    refine clocks_whenConnected fun st => .after fun start => .after fun names =>
      clocks_timed .read key start fun answer => ?_
    split
    · exact .elapsed (fun ms => clocks_pure ⟨ms, rfl⟩) start
    · exact .elapsed (fun ms => .after fun _ => clocks_pure ⟨ms, rfl⟩) start
  | scan t key count fields =>
    refine clocks_whenConnected fun st => .after fun stop => ?_
    split
    · exact clocks_pure ⟨_, rfl⟩
    · exact .after fun start => .after fun names => clocks_timed .scan key start fun answer =>
        .elapsed (fun ms => .after fun _ => clocks_pure ⟨ms, rfl⟩) start
  | update t key values =>
    exact clocks_whenConnected fun st => .after fun start => .after fun row =>
      clocks_timed .update key start (clocks_settle .update key start .replaced true)
  | insert t key values =>
    refine clocks_whenConnected fun st => ?_
    split
    · exact .after fun start => .after fun row =>
        clocks_timed .insert key start (clocks_settle .insert key start .inserted false)
    · exact clocks_pure ⟨_, rfl⟩
  | delete t key =>
    exact clocks_whenConnected fun st => .after fun start =>
      clocks_timed .delete key start (clocks_settle .delete key start .deleted true)

end Session

/-! ## Metrics -/

namespace Registry

/-- All latencies that were recorded are floats. -/
def Clocked (r : Registry) : Prop :=
  ∀ name, ∀ l ∈ (r.series name).latencies, ∃ ms, l = .real ms

lemma clocked_empty : Clocked .empty := fun _ _ h => nomatch h

lemma Clocked.recordOutcome {r : Registry} (h : r.Clocked) (name : String) {o : Outcome}
    (ho : o.Clocked) : (r.recordOutcome name o).Clocked := by
  intro name' l hl
  rw [Registry.recordOutcome, series_record] at hl
  split at hl
  · rcases List.mem_append.1 hl with hl | hl
    · exact h name l hl
    · rw [List.mem_singleton.1 hl]
      exact ho
  · exact h name' l hl

/-- Floats can be reported. -/
lemma Clocked.returns_report {r : Registry} (h : r.Clocked) : Returns (fun _ => True) r.report := by
  have hsummary (e : String × Series) (he : e ∈ r.entries) :
      Returns (fun _ => True) (e.2.summary e.1) := by
    have hfloat : ∀ l ∈ e.2.latencies, ∃ ms, l = .real ms := series_of_mem he ▸ h e.1
    rw [Series.summary, Series.measured]
    split
    · exact returns_ok.2 trivial
    next hne =>
      have hof : Returns (fun _ => True) (Statistics.of e.2.latencies) := by
        refine (Statistics.returns_of_iff (by simpa using hne) fun l hl => ?_).2
          (.inl fun l hl => ?_)
        · obtain ⟨ms, rfl⟩ := hfloat l hl
          exact Number.convertible_real ms
        · obtain ⟨ms, rfl⟩ := hfloat l hl
          exact id
      obtain ⟨m, hm, -⟩ := hof
      rw [hm]
      exact returns_ok.2 trivial
  have hsummaries : Returns (List.Forall₂ (fun _ _ => True) r.entries) r.summaries :=
    Returns.mapM fun e he => (hsummary e he).bind fun _ _ => returns_pure.2 trivial
  exact hsummaries.bind fun _ _ => returns_pure.2 trivial

end Registry

/-! ## The smoke check -/

namespace Bench

/-- What is done for each item alike keeps what it keeps for each. -/
lemma keeps_gather {σ α β : Type} {I : σ → Prop} {F : Fault → Prop}
    {f : α → Action σ (List β)} (h : ∀ a, Action.Keeps I (fun _ => True) F (f a))
    (as : List α) : Action.Keeps I (fun _ => True) F (gather f as) := by
  induction as with
  | nil => exact Action.keeps_pure trivial
  | cons a as ih => exact (h a).bind fun _ _ => ih.bind fun _ _ => Action.keeps_pure trivial

variable {κ ω : Type}

/-- The session is one that requests keep, and only floats were recorded. -/
def Keeping (I : Session κ ω → Prop) (b : Bench κ ω) : Prop := I b.toSession ∧ b.metrics.Clocked

section

variable [Client κ ω] {I : Session κ ω → Prop}
  (h : ∀ r : Request, Action.Keeps I (fun _ => True) (fun _ => True) r.perform)

include h

/-- A trial keeps what requests keep, and records a float. -/
lemma keeps_probe (T : String) (p : SmokePlan) (x : Trial) :
    Action.Keeps (Keeping I) (fun _ => True) (fun _ => True) (probe T p x) := by
  intro b hb
  have hs := h (x.request T p) b.toSession hb.1
  have ho := Session.clocks_perform (x.request T p) b.toSession trivial
  rw [probe_apply]
  cases hx : (x.request T p).perform b.toSession with
  | ok o s =>
    rw [hx] at hs ho
    exact ⟨⟨hs.1, hb.2.recordOutcome _ ho.2⟩, trivial⟩
  | error e s =>
    rw [hx] at hs
    exact ⟨⟨hs.1, hb.2⟩, trivial⟩

/-- A smoke check of some records keeps what requests keep, and records floats only. -/
lemma keeps_carryOut (T : String) {p : SmokePlan} (hn : 1 ≤ p.records.toInt) :
    Action.Keeps (Keeping I) (fun _ => True) (fun _ => True) (carryOut (.str T) p) := by
  rw [carryOut_eq T p hn]
  exact keeps_gather (keeps_probe h T p) p.trials

end

end Bench

end CrudBench
