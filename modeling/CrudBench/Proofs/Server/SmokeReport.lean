import CrudBench.Proofs.Metrics.Run
import CrudBench.Proofs.Server.Boundary
import CrudBench.Proofs.Smoke.Trial

/-!
# Smoke checks of a server

A smoke check misses nothing, whatever the server replies: every trial of its plan is one query, in
the order of the plan, and what the reply is taken for is recorded, and reported unless it is as
expected (`Bench.carryOut_reports`).
-/

namespace CrudBench

/-- The replies to the next queries. When the script is used up the server has gone away. -/
def Server.repliesTo : Nat → List (Except DriverError Value) → List (Except DriverError Value)
  | 0, _ => []
  | n + 1, rs => rs.head?.getD (.error .closed) :: repliesTo n rs.tail

lemma Server.length_repliesTo (n : Nat) (rs : List (Except DriverError Value)) :
    (repliesTo n rs).length = n := by
  induction n generalizing rs with
  | zero => rfl
  | succ n ih => rw [repliesTo, List.length_cons, ih]

/-- The backend is connected, and these are its settings. -/
structure Session.Ready (s : Session WireClient Server) (st : Settings) : Prop where
  connected : s.connected = true
  settings : s.settings = some st
  isOpen : s.client.isOpen = true

namespace Trial

/-- The outcome is one that the reply to the trial is taken for. -/
def Yields (T : String) (p : SmokePlan) (x : Trial × Except DriverError Value) (o : Outcome) :
    Prop :=
  ∃ f latency, (x.1.plain T p).verdict? x.2 = some f ∧ o = f latency

variable {T : String} {p : SmokePlan} {st : Settings} {s : Session WireClient Server} {x : Trial}

/-- A trial over a connection is one query, and comes to what the reply is taken for. -/
lemma concludes (hs : s.Ready st) (hn : 1 ≤ p.records.toInt) (hk : x.key ≠ "")
    {f : Latency → Outcome} (hf : (x.plain T p).verdict? s.reply = some f) :
    ∃ q, (x.call T p st).query.Sends q ∧
      Session.Concludes (x.request T p).perform s (s.ticked.sent q) f := by
  obtain ⟨aim, key⟩ := x
  have hpoint (verb : Verb) (hf : (PlainRequest.point ⟨T, key, verb⟩).verdict? s.reply = some f) :
      ∃ q, ((PlainRequest.point ⟨T, key, verb⟩).call st).query.Sends q ∧
        Session.Concludes (PlainRequest.point ⟨T, key, verb⟩).request.perform s
          (s.ticked.sent q) f := by
    refine PlainRequest.concludes_of_verdict hs.connected hs.settings ?_ hf
    cases verb with
    | insert values => exact if_neg hk
    | _ => rfl
  cases aim with
  | scan =>
    have hv : ∀ v ∈ (Trial.call T p st ⟨.scan, key⟩).values, v.IsPlain := by
      have hcount : p.records.value.IsPlain := by cases p.records <;> rfl
      simp only [call, Call.values, List.forall_mem_cons]
      exact ⟨Value.isPlain_str T, Value.isPlain_str key, hcount, PlainRequest.isPlain_names _⟩
    refine (Session.scan_hinges hs.connected hs.settings (.str T) (.str key) ["field0"]
      hn).of_plain hv ?_
    rw [← hf, plain, PlainRequest.verdict?_of_not_read rfl]
    exact Session.outcome?_of_failing (Session.outcome?_between _ _ _ _ _ _) (fun _ => rfl)
      s.reply
  | insert => exact hpoint _ hf
  | read => exact hpoint _ hf
  | update => exact hpoint _ hf
  | reread => exact hpoint _ hf
  | delete => exact hpoint _ hf
  | miss => exact hpoint _ hf

end Trial

namespace Bench

/-- These outcomes were recorded, one after the other. -/
def recorded (r : Registry) (xs : List (Trial × Outcome)) : Registry :=
  xs.foldl (fun r x => r.recordOutcome x.1.aim.operation.name x.2) r

/-- Under the name of an operation the outcomes of its trials are recorded, each once. -/
lemma series_recorded (r : Registry) (xs : List (Trial × Outcome)) (name : String) :
    (recorded r xs).series name =
      ((xs.filter fun x => x.1.aim.operation.name = name).map fun x => x.2.sample).foldl Series.add
        (r.series name) := by
  induction xs generalizing r with
  | nil => rfl
  | cons x xs ih =>
    rw [recorded, List.foldl_cons, ← recorded, ih, Registry.recordOutcome, Registry.series_record]
    by_cases hn : x.1.aim.operation.name = name
    · simp [hn, Series.add, Outcome.sample]
    · simp [hn, Ne.symm hn]

variable {T : String} {p : SmokePlan} {st : Settings}

/-- From `b` these trials have come to these outcomes and `b'`, and this was reported. -/
structure Went (T : String) (p : SmokePlan) (st : Settings) (xs : List Trial)
    (b b' : Bench WireClient Server) (outcomes : List Outcome) (complaints : List String) :
    Prop where
  backend : b'.toBackend = b.toBackend
  answered : List.Forall₂ (Trial.Yields T p)
    (xs.zip (Server.repliesTo xs.length b.far.replies)) outcomes
  asked : ∃ queries, List.Forall₂ (fun x q => (x.call T p st).query.Sends q) xs queries ∧
    b'.far.trace = b.far.trace ++ queries.map .query
  metrics : b'.metrics = recorded b.metrics (xs.zip outcomes)
  reported : complaints = (xs.zip outcomes).filterMap fun x => x.1.complaint? p x.2

/-- One trial goes as its reply has it. -/
lemma went_probe {b : Bench WireClient Server} (hb : b.toSession.Ready st)
    (hn : 1 ≤ p.records.toInt) {x : Trial} (hk : x.key ≠ "")
    (hr : (x.plain T p).Fits (b.far.replies.head?.getD (.error .closed))) :
    ∃ o b', probe T p x b = .ok (x.complaint? p o).toList b' ∧
      Went T p st [x] b b' [o] (x.complaint? p o).toList ∧
      b'.far.replies = b.far.replies.tail := by
  have hreply : b.toSession.reply = b.far.replies.head?.getD (.error .closed) := if_pos hb.isOpen
  obtain ⟨f, hf⟩ := hr.verdict
  obtain ⟨q, hq, latency, s, hx, hback, hfar⟩ :=
    Trial.concludes (s := b.toSession) hb hn hk (hreply ▸ hf)
  have hsent : s.far = { b.far with
      replies := b.far.replies.tail
      trace := b.far.trace ++ [.query q] } := by
    rw [hfar, Session.sent, WireClient.sent]
    exact congrArg (fun l => (b.toSession.ticked.linked l).far) (if_pos hb.isOpen)
  refine ⟨f latency, _, by rw [probe_apply, hx], ⟨?_, ?_, ⟨[q], ?_, ?_⟩, rfl, ?_⟩, ?_⟩
  · exact hback.trans (Session.sent_toBackend b.toSession.ticked q)
  · exact .cons ⟨f, latency, hf, rfl⟩ .nil
  · exact .cons hq .nil
  · exact congrArg Server.trace hsent
  · rw [List.zip_cons_cons, List.filterMap_cons]
    cases x.complaint? p (f latency) <;> rfl
  · exact congrArg Server.replies hsent

/-- Trials go as their replies have it, whatever came of the ones before. -/
lemma went_gather {b : Bench WireClient Server} (hb : b.toSession.Ready st)
    (hn : 1 ≤ p.records.toInt) {xs : List Trial} (hk : ∀ x ∈ xs, x.key ≠ "")
    (hr : List.Forall₂ (fun x r => (Trial.plain T p x).Fits r) xs
      (Server.repliesTo xs.length b.far.replies)) :
    ∃ outcomes complaints b', gather (probe T p) xs b = .ok complaints b' ∧
      Went T p st xs b b' outcomes complaints := by
  induction xs generalizing b with
  | nil =>
    exact ⟨[], [], b, rfl, rfl, .nil, ⟨[], .nil, (List.append_nil _).symm⟩, rfl, rfl⟩
  | cons x xs ih =>
    obtain ⟨hkx, hk⟩ := List.forall_mem_cons.1 hk
    rw [List.length_cons, Server.repliesTo, List.forall₂_cons] at hr
    obtain ⟨o, c, hx, hw, hc⟩ := went_probe hb hn hkx hr.1
    have hready : c.toSession.Ready st := by
      constructor <;> rw [hw.backend]
      exacts [hb.connected, hb.settings, hb.isOpen]
    obtain ⟨os, cs, b', hxs, hws⟩ := ih hready hk (hc ▸ hr.2)
    obtain ⟨q, hq, htrace⟩ := hw.asked
    obtain ⟨qs, hqs, htraces⟩ := hws.asked
    refine ⟨o :: os, (x.complaint? p o).toList ++ cs, b', ?_, hws.backend.trans hw.backend, ?_,
      ⟨q ++ qs, ?_, ?_⟩, ?_, ?_⟩
    · simp only [gather, Action.bind_apply, hx, hxs, Action.pure_apply]
    · have hos := hws.answered
      rw [hc] at hos
      exact .cons (List.forall₂_cons.1 hw.answered).1 hos
    · exact List.rel_append hq hqs
    · rw [htraces, htrace, List.map_append, List.append_assoc]
    · rw [hws.metrics, hw.metrics]
      rfl
    · rw [List.zip_cons_cons, List.filterMap_cons, hws.reported]
      cases x.complaint? p o <;> rfl

/-- Replies that fit go on to fit when the script is used up. -/
lemma fits_repliesTo {xs : List Trial} {rs : List (Except DriverError Value)}
    (h : ∀ y ∈ xs.zip rs, (y.1.plain T p).Fits y.2) :
    List.Forall₂ (fun x r => (Trial.plain T p x).Fits r) xs (Server.repliesTo xs.length rs) := by
  induction xs generalizing rs with
  | nil => exact .nil
  | cons x xs ih =>
    cases rs with
    | nil => exact .cons rfl (ih fun y hy => by simp at hy)
    | cons r rs =>
      rw [List.zip_cons_cons, List.forall_mem_cons] at h
      exact .cons h.1 (ih h.2)

lemma Went.length_eq {xs : List Trial} {b b' : Bench WireClient Server}
    {outcomes : List Outcome} {complaints : List String}
    (h : Went T p st xs b b' outcomes complaints) : outcomes.length = xs.length := by
  rw [← h.answered.length_eq, List.length_zip, Server.length_repliesTo, Nat.min_self]

end Bench

end CrudBench
