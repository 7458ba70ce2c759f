import CrudBench.Proofs.World

/-!
# Requests and their clients

A request that returns was decided without its client, and then has changed nothing; or it has asked
its client once, between two readings of the clock (`Request.perform_cases`). What it comes to then
is made of the answer, and is a failure if there is none.
-/

namespace CrudBench

/-- The call asks for the record under a key. -/
def Call.isGet : Call → Bool
  | get .. => true
  | _ => false

/-- The call is about records, and asks for one of them or does something else. -/
def Call.Serves (get : Bool) (c : Call) : Prop := c.isSchema = false ∧ c.isGet = get

/-- The outcome is no failure, and tells no error; or it is one, and tells what is wrong with a
receipt. -/
def Outcome.Settled (o : Outcome) : Prop :=
  o.status ≠ .error ∧ o.error = none ∨
    o.status = .error ∧ ∃ (r : Receipt) (wanted : Counter), o.error = some (r.complaint wanted)

lemma Outcome.settled_ok (l : Latency) : (ok l).Settled := .inl ⟨nofun, rfl⟩

lemma Outcome.settled_found (data : Payload) (l : Latency) : (found data l).Settled :=
  .inl ⟨nofun, rfl⟩

lemma Outcome.settled_notFound (l : Latency) : (notFound l).Settled := .inl ⟨nofun, rfl⟩

/-! ## Making an outcome of an answer -/

namespace Session

variable {κ ω : Type}

/-- The action, where it returns, does nothing but to make an outcome with this latency. -/
def Labels (latency : Latency) (x : Action (Session κ ω) Outcome) : Prop :=
  ∀ s o t, x s = .ok o t → o.latency = latency ∧ o.Settled ∧ t = s

/-- From `s` to `t` the clock was read once, and the client left alone. The outcome tells the time
since the reading `start`. -/
structure Timed (start : Float) (s : Session κ ω) (o : Outcome) (t : Session κ ω) : Prop where
  latency : o.latency = .real (elapsedMs start s.clock.read.1)
  clock : t.clock = s.clock.advance
  link : Link.mk t.client t.far = ⟨s.client, s.far⟩

/-- Where the action returns, it has read the clock and left the client alone, and has settled what
its outcome is. -/
def Times (start : Float) (x : Action (Session κ ω) Outcome) : Prop :=
  ∀ s o t, x s = .ok o t → Timed start s o t ∧ o.Settled

lemma labels_pure {o : Outcome} (h : o.Settled) :
    Labels o.latency (pure o : Action (Session κ ω) Outcome) := by
  rintro s _ _ ⟨⟩
  exact ⟨rfl, h, rfl⟩

/-- A misfit does not return, so it does not matter that there may be one. -/
lemma labels_found {α : Type} (x : Except Misfit α) (f : α → Payload) (l : Latency) :
    Labels l (do return .found (f (← Action.given x)) l : Action (Session κ ω) Outcome) := by
  cases x with
  | error e => exact fun _ _ _ => nofun
  | ok a => exact labels_pure (Outcome.settled_found (f a) l)

lemma times_elapsed {f : Latency → Action (Session κ ω) Outcome} (h : ∀ l, Labels l (f l))
    (start : Float) : Times start (elapsedSince start >>= f) := by
  intro s o t hx
  rw [Action.bind_apply, elapsedSince_apply] at hx
  obtain ⟨hl, ho, rfl⟩ := h _ _ _ _ hx
  exact ⟨⟨hl, rfl, rfl⟩, ho⟩

/-- A failure is told with its message. -/
lemma timed_failure {op : Operation} {key : Value} {e : OperationError} {start : Float}
    {s t : Session κ ω} {o : Outcome} (h : failure op key e start s = .ok o t) :
    Timed start s o t ∧ o.status = .error ∧ o.error = some e.message := by
  rw [failure_apply] at h
  cases h
  exact ⟨⟨rfl, rfl, rfl⟩, rfl, rfl⟩

/-- What a receipt says settles a write. -/
lemma times_settle (op : Operation) (key : Value) (start : Float) (wanted : Counter)
    (mayMiss : Bool) (answer : Value) :
    Times start (settle op key start wanted mayMiss answer : Action (Session κ ω) Outcome) := by
  rw [settle]
  split
  · intro s o t h
    cases h
  next r _ =>
    split
    · exact times_elapsed (fun l => labels_pure (Outcome.settled_ok l)) start
    · split
      · exact times_elapsed (fun l => labels_pure (Outcome.settled_notFound l)) start
      · intro s o t h
        obtain ⟨hc, hs, he⟩ := timed_failure h
        exact ⟨hc, .inr ⟨hs, r, wanted, he⟩⟩

/-! ## Asking -/

variable [Client κ ω]

/-- From `s` to `t` the client was asked once, between two readings of the clock, and the outcome
tells the time between the two. An answer has settled it, and a failure of the client is told. -/
structure Asked (s : Session κ ω) (c : Call) (o : Outcome) (t : Session κ ω) : Prop where
  link : Link.mk t.client t.far = ((Client.ask c).outcome ⟨s.client, s.far⟩).2
  latency : o.latency = .real (elapsedMs s.clock.read.1 s.clock.advance.read.1)
  clock : t.clock = s.clock.advance.advance
  answered : ∀ a, ((Client.ask c).outcome ⟨s.client, s.far⟩).1 = .ok a → o.Settled
  failed : ∀ x, ((Client.ask c).outcome ⟨s.client, s.far⟩).1 = .error x →
    ∃ e, x = .operation e ∧ o.status = .error ∧ o.error = some e.message

/-- Where the action returns, it has asked its client one such call. -/
def Asks (get : Bool) (x : Action (Session κ ω) Outcome) : Prop :=
  ∀ s o t, x s = .ok o t → ∃ c : Call, c.Serves get ∧ Asked s c o t

/-- A timed operation asks its client, whether that answers or fails. -/
lemma asks_timed {get : Bool} (op : Operation) (key : Value) {c : Call} (hc : c.Serves get)
    {finish : Float → c.Answer → Action (Session κ ω) Outcome}
    (hf : ∀ start a, Times start (finish start a)) :
    Asks get (do let start ← now; timed op key start c (finish start)) := by
  intro s o t h
  have h : timed op key s.clock.read.1 c (finish s.clock.read.1) s.ticked = .ok o t := h
  rw [timed_apply] at h
  refine ⟨c, hc, ?_⟩
  cases hx : Client.ask c ⟨s.client, s.far⟩ with
  | ok a l =>
    have ha : ask c s.ticked = .ok a (s.ticked.linked l) := viaClient_ok hx
    have ho : (Client.ask c).outcome ⟨s.client, s.far⟩ = (.ok a, l) := by rw [Action.outcome, hx]
    rw [ha] at h
    obtain ⟨htimed, hsettled⟩ := hf _ a _ _ _ h
    refine ⟨?_, htimed.latency, htimed.clock, fun _ _ => hsettled, fun x hx => ?_⟩
    · rw [ho]
      exact htimed.link
    · rw [ho] at hx
      cases hx
  | error e l =>
    have ha : ask c s.ticked = .error e (s.ticked.linked l) := viaClient_error hx
    have ho : (Client.ask c).outcome ⟨s.client, s.far⟩ = (.error e, l) := by
      rw [Action.outcome, hx]
    rw [ha] at h
    cases e with
    | operation e =>
      obtain ⟨htimed, hfailed⟩ := timed_failure h
      refine ⟨?_, htimed.latency, htimed.clock, fun a ha => ?_, fun x hx => ?_⟩
      · rw [ho]
        exact htimed.link
      · rw [ho] at ha
        cases ha
      · rw [ho] at hx
        cases hx
        exact ⟨e, rfl, hfailed⟩
    | _ => cases h

/-- What is to be sent may be a misfit, which does not return. -/
lemma asks_given {get : Bool} {α : Type} (op : Operation) (key : Value) (x : Except Misfit α)
    {c : α → Call} (hc : ∀ a, (c a).Serves get)
    {finish : Float → (a : α) → (c a).Answer → Action (Session κ ω) Outcome}
    (hf : ∀ start a answer, Times start (finish start a answer)) :
    Asks get (do
      let start ← now
      let a ← Action.given x
      timed op key start (c a) (finish start a)) := by
  cases x with
  | error e => exact fun _ _ _ => nofun
  | ok a => exact asks_timed op key (hc a) fun start answer => hf start a answer

end Session

namespace Request

/-- The request is to read the record under a key. -/
def isRead : Request → Bool
  | read .. => true
  | _ => false

/-- What a request comes to for which its client is not needed: what is to be inserted has an empty
key, or no records are to be scanned. -/
def shortcut? : Request → Option Outcome
  | insert _ key _ => if key.isTruthy then none else some (.failed "Empty primary key" .zero)
  | scan _ _ count _ =>
    match count.atMostZero with
    | .ok true => some (.found (.records []) .zero)
    | _ => none
  | _ => none

variable {κ ω : Type}

/-- What a request comes to that is decided without its client, which may not be connected. -/
def skipped? (r : Request) (s : Session κ ω) : Option Outcome :=
  if s.connected = false ∨ s.settings.isNone then some (.failed "Not connected" .zero)
  else r.shortcut?

/-- What is decided without the client takes no time. An error that it comes to is told. -/
lemma skipped_cases {r : Request} {s : Session κ ω} {o : Outcome} (h : r.skipped? s = some o) :
    o.latency = .zero ∧ (o.status ≠ .error ∧ o.error = none ∨
      o.status = .error ∧ ∃ text, text ≠ "" ∧ o.error = some text) := by
  rw [skipped?] at h
  split at h
  · cases h
    exact ⟨rfl, .inr ⟨rfl, _, by decide, rfl⟩⟩
  · unfold shortcut? at h
    split at h
    · split at h <;> cases h
      exact ⟨rfl, .inr ⟨rfl, _, by decide, rfl⟩⟩
    · split at h <;> cases h
      exact ⟨rfl, .inl ⟨nofun, rfl⟩⟩
    · cases h

variable [Client κ ω]

/-- A request that returns was decided without its client and has changed nothing, or it has asked
its client. -/
theorem perform_cases (r : Request) {s t : Session κ ω} {o : Outcome} (h : r.perform s = .ok o t) :
    r.skipped? s = some o ∧ t = s ∨
      r.skipped? s = none ∧ ∃ c : Call, c.Serves r.isRead ∧ s.Asked c o t := by
  rcases s.connected_cases with ⟨st, hc, hs⟩ | hd
  · have hready : ¬ (s.connected = false ∨ s.settings.isNone = true) := by simp [hc, hs]
    rw [skipped?, if_neg hready]
    cases r with
    | read t' key fields =>
      rw [perform, Session.read, Session.whenConnected_of_connected hc hs] at h
      refine .inr ⟨rfl, Session.asks_given .read key _ (fun _ => ?_) (fun start names answer => ?_)
        _ _ _ h⟩
      · exact ⟨rfl, rfl⟩
      · split
        · exact Session.times_elapsed (fun l => Session.labels_pure (Outcome.settled_notFound l))
            start
        · exact Session.times_elapsed (Session.labels_found _ _) start
    | scan t' key count fields =>
      rw [perform, Session.scan, Session.whenConnected_of_connected hc hs, Action.bind_apply] at h
      rw [shortcut?]
      cases hn : count.atMostZero with
      | error e =>
        rw [hn] at h
        cases h
      | ok stop =>
        rw [hn] at h
        cases stop with
        | true =>
          cases h
          exact .inl ⟨rfl, rfl⟩
        | false =>
          refine .inr ⟨rfl, Session.asks_given .scan key _ (fun _ => ?_)
            (fun start names answer => ?_) _ _ _ h⟩
          · exact ⟨rfl, rfl⟩
          · exact Session.times_elapsed (Session.labels_found _ _) start
    | update t' key values =>
      rw [perform, Session.update, Session.whenConnected_of_connected hc hs] at h
      refine .inr ⟨rfl, Session.asks_given .update key _ (fun _ => ?_)
        (fun start _ => Session.times_settle .update key start .replaced true) _ _ _ h⟩
      exact ⟨rfl, rfl⟩
    | insert t' key values =>
      rw [perform, Session.insert, Session.whenConnected_of_connected hc hs] at h
      rw [shortcut?]
      cases hk : key.isTruthy with
      | true =>
        rw [hk] at h
        refine .inr ⟨rfl, Session.asks_given .insert key _ (fun _ => ?_)
          (fun start _ => Session.times_settle .insert key start .inserted false) _ _ _ h⟩
        exact ⟨rfl, rfl⟩
      | false =>
        rw [hk] at h
        cases h
        exact .inl ⟨rfl, rfl⟩
    | delete t' key =>
      rw [perform, Session.delete, Session.whenConnected_of_connected hc hs] at h
      refine .inr ⟨rfl, Session.asks_timed .delete key ?_
        (fun start => Session.times_settle .delete key start .deleted true) _ _ _ h⟩
      exact ⟨rfl, rfl⟩
  · rw [Session.perform_of_disconnected hd] at h
    cases h
    refine .inl ⟨if_pos ?_, rfl⟩
    rwa [Option.isNone_iff_eq_none]

end Request

/-! ## Episodes -/

/-- The command is a request. -/
def Command.isRequest : Command → Bool
  | request _ => true
  | _ => false

namespace Episode

variable {κ ω : Type}

/-- The outcome that a request has returned. -/
def outcome? (e : Episode κ ω) : Option Outcome :=
  match e.result with
  | .ok (.outcome o) => some o
  | _ => none

/-- What a request comes to if it is decided without its client. -/
def skipped? (e : Episode κ ω) : Option Outcome :=
  match e.command with
  | .request r => r.skipped? e.before
  | _ => none

/-- The episode is that of a request that is not decided without its client. -/
def reaches (e : Episode κ ω) : Bool := e.command.isRequest && e.skipped?.isNone

/-- The episode is that of a request that has not returned. -/
def raises (e : Episode κ ω) : Bool := e.command.isRequest && e.outcome?.isNone

end Episode

section

variable {κ ω : Type} [Client κ ω] {x : Command} {i : Nat} {s : Session κ ω} {o : Outcome}

/-- Nothing but a request returns an outcome. -/
lemma Command.outcome?_of_not_request (hx : x.isRequest = false) :
    (x.episode i s).outcome? = none := by
  have hnone {α : Type} (y : Action (Session κ ω) α) (f : α → Response)
      (hf : ∀ a o, f a ≠ .outcome o) (t : Session κ ω) :
      Episode.outcome? ⟨i, x, s, ((do return f (← y) : Action _ Response).outcome s).1, t⟩ =
        none := by
    rw [Action.outcome_map, Episode.outcome?]
    cases (y.outcome s).1 with
    | error e => rfl
    | ok a =>
      dsimp only [Except.map]
      cases ha : f a with
      | outcome o => exact (hf a o ha).elim
      | _ => rfl
  cases x with
  | init => exact hnone Session.init (fun _ => .done) (fun _ _ => nofun) _
  | cleanup => exact hnone Session.cleanup (fun _ => .done) (fun _ _ => nofun) _
  | info => exact hnone Session.info .info (fun _ _ => nofun) _
  | request r => cases hx

/-- What has returned an outcome is a request that was decided without its client, or has asked it.
-/
lemma Command.outcome_cases (h : (x.episode i s).outcome? = some o) :
    ∃ r, x = .request r ∧ ((x.episode i s).skipped? = some o ∧ (x.episode i s).after = s ∨
      (x.episode i s).reaches = true ∧
        ∃ c : Call, c.Serves r.isRead ∧ s.Asked c o (x.episode i s).after) := by
  cases x with
  | request r =>
    refine ⟨r, rfl, ?_⟩
    have hreaches : ((request r).episode i s).reaches = (r.skipped? s).isNone := rfl
    have hskipped : ((request r).episode i s).skipped? = r.skipped? s := rfl
    rw [hreaches, hskipped]
    rw [episode_request, Action.outcome] at h ⊢
    cases hx : r.perform s with
    | ok o' t =>
      rw [hx] at h
      cases h
      rcases r.perform_cases hx with hskip | ⟨hn, hc⟩
      · exact .inl hskip
      · exact .inr ⟨by rw [hn]; rfl, hc⟩
    | error e t =>
      rw [hx] at h
      cases h
  | _ =>
    rw [outcome?_of_not_request rfl] at h
    cases h

end

end CrudBench
