import CrudBench.Proofs.Server.Lifecycle
import CrudBench.Proofs.Server.Reply

/-!
# Initialisations that fail

Why an initialisation fails, and what it leaves behind. As long as the server raises errors of the
driver's family and replies with values that can be gone through, nothing is left open. Any other
error of a query passes through, and with it the connection stays open
(`Command.failed_init_cases`).
-/

namespace CrudBench

/-! ## Faults that pass through -/

/-- The fault is one that nobody handles: an error of the driver outside its family, or a value that
something cannot be done with. -/
def Fault.Passes : Fault → Prop
  | driver e => e.inFamily = false
  | misfit _ => True
  | _ => False

/-- The reply is an error of the driver's family, or a value that can be gone through. -/
def Tame : Except DriverError Value → Prop
  | .ok v => v.items?.isSome = true
  | .error e => e.inFamily = true

/-- Every reply is tame. -/
def Script.Tame (p : Script) : Prop := ∀ r ∈ p.server.replies, CrudBench.Tame r

lemma WireClient.failure_cases (e : DriverError) :
    (∃ o, failure e = .operation o) ∨ (failure e).Passes ∧ ¬e.inFamily = true := by
  rw [failure]
  by_cases h : e.inFamily = true
  · rw [if_pos h]
    exact .inl ⟨_, rfl⟩
  · rw [if_neg h]
    exact .inr ⟨Bool.eq_false_iff.2 h, h⟩

/-- A call about databases and tables fails as an operation, unless its reply is not tame. -/
lemma Call.heard_error {c : Call} (hc : c.isSchema = true) {r : Except DriverError Value}
    {e : Fault} (h : c.heard r = .error e) : (∃ o, e = .operation o) ∨ e.Passes ∧ ¬Tame r := by
  cases c with
  | databaseList | tableList =>
    cases r with
    | ok v =>
      rw [heard] at h
      cases hv : v.items? with
      | some vs => rw [hv] at h; cases h
      | none =>
        rw [hv] at h
        cases h
        exact .inr ⟨trivial, by rw [Tame, hv]; exact Bool.false_ne_true⟩
    | error x =>
      cases h
      exact WireClient.failure_cases x
  | databaseCreate | tableCreate =>
    cases r with
    | ok v => cases h
    | error x =>
      rw [heard] at h
      split at h <;> cases h
      exact WireClient.failure_cases x
  | tableWait =>
    cases r with
    | ok v => cases h
    | error x =>
      cases h
      exact WireClient.failure_cases x
  | _ => cases hc

namespace Session

variable {s t : Session WireClient Server} {p : Script} {st : Settings} {e : Fault}

lemma tame_reply (h : ∀ r ∈ s.far.replies, Tame r) : Tame s.reply := by
  rw [reply, WireClient.reply]
  split
  · cases hr : s.far.replies with
    | nil => exact rfl
    | cons r rs =>
      rw [hr] at h
      exact h r List.mem_cons_self
  · exact rfl

/-- A bootstrap that fails does so as an operation, unless a reply was not tame. -/
lemma ensureSchema_error (h : ensureSchema st s = .error e t) :
    (∃ o, e = .operation o) ∨ e.Passes ∧ ¬∀ r ∈ s.far.replies, Tame r := by
  have hask (c : Call) (hc : c.isSchema = true) :
      Action.Keeps (fun t : Session WireClient Server =>
        (∀ r ∈ s.far.replies, Tame r) → ∀ r ∈ t.far.replies, Tame r) (fun _ => True)
        (fun e => (∃ o, e = .operation o) ∨ e.Passes ∧ ¬∀ r ∈ s.far.replies, Tame r) (ask c) := by
    intro t ht
    obtain ⟨q, hq⟩ := c.sends (by cases c <;> first | exact List.forall_mem_nil _ | cases hc)
    have hx : Client.ask c ⟨t.client, t.far⟩ = _ := WireClient.ask_apply ⟨t.client, t.far⟩ hq
    have hsent : (∀ r ∈ s.far.replies, Tame r) → ∀ r ∈ (t.sent q).far.replies, Tame r := by
      intro hs r hr
      refine ht hs r ?_
      rw [sent, WireClient.sent] at hr
      split at hr
      · exact List.mem_of_mem_tail hr
      · exact hr
    cases hr : c.heard (WireClient.reply ⟨t.client, t.far⟩) with
    | ok a =>
      rw [hr] at hx
      rw [ask, viaClient_ok hx]
      exact ⟨hsent, trivial⟩
    | error e =>
      rw [hr] at hx
      rw [ask, viaClient_error hx]
      refine ⟨hsent, (Call.heard_error hc hr).imp_right fun hp => ⟨hp.1, fun hs => hp.2 ?_⟩⟩
      exact tame_reply (ht hs)
  exact ((keeps_ensureSchema (fun hs _ => hs) hask st).of_error id h).2

/-- A bootstrap that fails has closed its connection, unless the fault passes through. -/
lemma bootstrap_error (hr : s.Reaches p t) (hc : t.connected = true) (hl : t.Live t)
    (he : t.far.closeError = p.server.closeError) {u : Session WireClient Server}
    (h : bootstrap st t = .error e u) :
    s.Reaches p u ∧ (u.connected = false ∨
      u.connected = true ∧ e.Passes ∧ ¬∀ r ∈ t.far.replies, Tame r) := by
  rw [bootstrap_apply] at h
  cases hx : ensureSchema st t with
  | ok a v =>
    rw [hx] at h
    cases h
  | error e' v =>
    rw [hx] at h
    obtain ⟨hv, -⟩ := ((Live.stable t).keeps_ensureSchema st).of_error hl hx
    have hrv := hr.of_live hc hv
    obtain ⟨o, rfl⟩ | ⟨hp, ht⟩ := ensureSchema_error hx
    · -- closing leaves no connection, whatever it ends in
      obtain ⟨w, hw, hd, hcl | ⟨e'', hcl, -⟩⟩ :=
        cleanup_of_open hv.link.isOpen hrv (hv.link.closeError.trans he)
      · simp only [hcl] at h
        cases h
        exact ⟨hw, .inl hd⟩
      · simp only [hcl] at h
        cases h
        exact ⟨hw, .inl hd⟩
    · cases e' with
      | operation o => exact hp.elim
      | _ =>
        cases h
        exact ⟨hrv, .inr ⟨hv.connected.trans hc, hp, ht⟩⟩

/-- An initialisation that fails leaves no connection, unless the fault passes through. -/
lemma init_error (hs : s.Closed) (h : init (s.facing p) = .error e t) :
    s.Reaches p t ∧ (t.connected = false ∨
      t.connected = true ∧ p.accepts = true ∧ e.Passes ∧ ¬p.Tame) := by
  have hco : s.Coherent := by
    obtain ⟨hc, ho⟩ := hs
    refine ⟨hc.trans ho.symm, fun h => ?_, fun h => ?_⟩ <;> cases hc.symm.trans h
  rcases init_cases (s.facing p) with ⟨e, u, hu, ha, -⟩ | ⟨st, host, u, hp, hi⟩
  · cases hu.symm.trans h
    exact ⟨.of_aside hco ha, .inl ((congrArg Backend.connected ha.backend).trans hs.1)⟩
  · have hfar : u.far = p.server := hp.far
    have he : u.far.connectError = p.connectError.map Script.error := congrArg _ hfar
    rw [hi, connect_apply, he] at h
    cases hc : p.connectError with
    | some x =>
      have ha : p.accepts = false := by rw [Script.accepts, hc]; rfl
      rw [hc] at h
      cases h
      exact ⟨hp.refused hco ha _ _ _, .inl (hp.connected.trans hs.1)⟩
    | none =>
      have ha : p.accepts = true := by rw [Script.accepts, hc]; rfl
      rw [hc] at h
      have hr := hp.accepted ha (.str host) (.int st.port) (.int st.timeout)
      have hq : ∀ r ∈ u.far.replies, Sound r := hfar ▸ sound_replies p
      have he : u.far.closeError = p.server.closeError := congrArg Server.closeError hfar
      obtain ⟨hrt, ht⟩ := bootstrap_error hr rfl (live_refl rfl hq hp.sound) he h
      refine ⟨hrt, ?_⟩
      rcases ht with hc | ⟨hc, hpass, hn⟩
      · exact .inl hc
      · refine .inr ⟨hc, ha, hpass, fun htame => hn ?_⟩
        rw [hfar]
        exact htame

end Session

/-! ## What is left behind -/

namespace WireEvent

lemma walk_of_unclosed {es : List Traced} (h : ∀ e ∈ es, e.1 ≠ .close) :
    walk true es = some true := by
  induction es with
  | nil => rfl
  | cons e es ih =>
    obtain ⟨he, hes⟩ := List.forall_mem_cons.1 h
    obtain ⟨e, accepted⟩ := e
    cases e with
    | connect | query => exact ih hes
    | close => exact absurd rfl he

/-- After events that leave a connection open there is one. -/
lemma walk_of_openAfter {es : List Traced} (h : OpenAfter es) {b : Bool}
    (hw : walk false es = some b) : b = true := by
  obtain ⟨before, after, host, port, timeout, rfl, ha⟩ := h
  rw [walk_append] at hw
  obtain ⟨c, -, hc⟩ := Option.bind_eq_some_iff.1 hw
  rw [walk] at hc
  obtain ⟨d, hd, hw⟩ := Option.bind_eq_some_iff.1 hc
  rw [next, Bool.or_true] at hd
  cases hd
  exact Option.some.inj (hw.symm.trans (walk_of_unclosed ha))

end WireEvent

namespace Step

/-- The step has left nothing open: there is no connection, every one that it has opened was closed,
and requests from then on are refused, and nothing reaches a server. -/
structure LeftNothing (x : Step) : Prop where
  closed : x.after.Closed
  events : ¬OpenAfter x.events
  later : ∀ rs : List (Request × Script),
    ∀ y ∈ Command.run (rs.map fun r => (.request r.1, r.2)) x.after,
      y.result = .ok (.outcome (.failed "Not connected" .zero)) ∧ y.events = []

/-- The step has left a connection open, which was accepted and never closed. -/
structure LeftOpen (x : Step) : Prop where
  accepts : x.script.accepts = true
  connected : x.after.connected = true
  isOpen : x.after.client.isOpen = true
  events : OpenAfter x.events

end Step

namespace Command

/-- Without a connection, one request after the other is refused. -/
lemma run_requests_of_closed {s : Session WireClient Server} (hs : s.Closed)
    (rs : List (Request × Script)) : ∀ y ∈ run (rs.map fun r => (.request r.1, r.2)) s,
      y.result = .ok (.outcome (.failed "Not connected" .zero)) ∧ y.events = [] := by
  induction rs generalizing s with
  | nil => exact List.forall_mem_nil _
  | cons r rs ih =>
    obtain ⟨r, p⟩ := r
    have hx : (request r).step p s =
        ⟨.request r, p, s, .ok (.outcome (.failed "Not connected" .zero)), s.facing p⟩ := by
      have hr := Session.perform_of_disconnected (s := s.facing p) (.inl hs.1) r
      simp only [step, act, Action.bind_apply, hr, Action.pure_apply]
    rw [List.map_cons, run, hx]
    exact List.forall_mem_cons.2 ⟨⟨rfl, rfl⟩, ih (s := s.facing p) hs⟩

/-- An initialisation of a backend without a connection that fails leaves nothing open, as long as
every reply of the server is tame. Otherwise it may also have failed for what passes through, and
then it leaves its connection open. -/
theorem failed_init_cases {s : Session WireClient Server} (hs : s.Closed) (p : Script) {e : Fault}
    (h : (init.step p s).result = .error e) :
    (p.Tame → (init.step p s).LeftNothing) ∧
      ((init.step p s).LeftNothing ∨ e.Passes ∧ (init.step p s).LeftOpen) := by
  have hst : ∃ t, Session.init (s.facing p) = .error e t ∧
      init.step p s = ⟨.init, p, s, .error e, t⟩ := by
    cases hx : Session.init (s.facing p) with
    | ok a t =>
      rw [step_init, hx] at h
      cases h
    | error e' t =>
      rw [step_init, hx] at h ⊢
      cases h
      exact ⟨t, rfl, rfl⟩
  obtain ⟨t, ht, hst⟩ := hst
  obtain ⟨hr, hcases⟩ := Session.init_error hs ht
  -- the trace tells whether there is a connection at the end, and the client agrees with it
  have hwalk : WireEvent.walk false (init.step p s).events = some t.client.isOpen := by
    rw [hst, ← hs.2]
    exact hr.walk
  have hclosed (hc : t.connected = false) : (init.step p s).LeftNothing := by
    have ho : t.client.isOpen = false := hr.coherent.isOpen.symm.trans hc
    rw [hst] at hwalk ⊢
    refine ⟨⟨hc, ho⟩, fun hn => ?_, run_requests_of_closed ⟨hc, ho⟩⟩
    cases ho.symm.trans (WireEvent.walk_of_openAfter hn hwalk)
  rcases hcases with hc | ⟨hc, ha, hp, hn⟩
  · exact ⟨fun _ => hclosed hc, .inl (hclosed hc)⟩
  · have ho : t.client.isOpen = true := hr.coherent.isOpen.symm.trans hc
    refine ⟨fun ht => absurd ht hn, .inr ⟨hp, ?_⟩⟩
    rw [ho] at hwalk
    rw [hst] at hwalk ⊢
    exact ⟨ha, hc, ho, WireEvent.openAfter_of_walk hwalk⟩

/-- The server refuses to list its databases, and closing the connection fails, too: nothing is left
open. -/
theorem failed_init_cases_refusal :
    let s : Session WireClient Server := .fresh .empty .new
      ⟨.empty, ⟨[], []⟩, .empty, .new [1], [], ⟨none, none, [], []⟩⟩
    let p : Script := ⟨none, some (.driver, "Connection is closed."),
      [.error (.permission, "No permission")]⟩
    s.Closed ∧ p.Tame ∧ (∃ e, (init.step p s).result = .error e) ∧
      (init.step p s).LeftNothing := by
  intro s p
  have hs : s.Closed := ⟨rfl, rfl⟩
  have hp : p.Tame := List.forall_mem_singleton.2 rfl
  have hx : (match (init.step p s).result with
      | .error _ => true
      | .ok _ => false) = true := by
    decide +kernel
  cases hr : (init.step p s).result with
  | ok a =>
    rw [hr] at hx
    cases hx
  | error e => exact ⟨hs, hp, ⟨e, rfl⟩, (failed_init_cases hs p hr).1 hp⟩

/-- The connection is reset while the databases are listed. It stays open on the side of the
backend, which goes on to send queries over it. -/
theorem failed_init_reset :
    let s : Session WireClient Server := .fresh .empty .new
      ⟨.empty, ⟨[], []⟩, .empty, .new [1], [], ⟨none, none, [], []⟩⟩
    let p : Script := ⟨none, none, [.error (.system, "Connection reset by peer")]⟩
    let read : Command := .request (.read (.str "usertable") (.str "k") .empty)
    s.Closed ∧ (∃ e, (init.step p s).result = .error e) ∧ ¬(init.step p s).LeftNothing ∧
      ((read.step ⟨none, none, [.ok .null]⟩ (init.step p s).after).events.length = 1) := by
  intro s p read
  have hx : ((match (init.step p s).result with
      | .error _ => true
      | .ok _ => false) && (init.step p s).after.connected &&
        (read.step ⟨none, none, [.ok .null]⟩ (init.step p s).after).events.length == 1) = true := by
    decide +kernel
  rw [Bool.and_eq_true, Bool.and_eq_true, beq_iff_eq] at hx
  obtain ⟨⟨herror, hconnected⟩, hread⟩ := hx
  refine ⟨⟨rfl, rfl⟩, ?_, fun h => ?_, hread⟩
  · cases hr : (init.step p s).result with
    | ok a =>
      rw [hr] at herror
      cases herror
    | error e => exact ⟨e, rfl⟩
  · cases hconnected.symm.trans h.closed.1

end Command

end CrudBench
