import CrudBench.Proofs.Operation
import CrudBench.Proofs.Query.Term
import CrudBench.Server.Script

/-!
# Replies to queries

What a client makes of a reply, call by call (`Call.heard`). A call whose term can be built and sent
is one query, and its answer is what the reply to it is heard as (`WireClient.ask_apply`). So what
an operation comes to can be told from the reply to its call (`Session.Hinges.of_reply`).
-/

namespace CrudBench

/-! ## Terms that can be sent -/

/-- The query has this term, which can be sent. -/
structure Query.Sends (q : Query) (t : Term) : Prop where
  term : q.term = .ok t
  finite : t.isFinite = true

namespace Term

/-- Terms are finite if each of them is. -/
lemma areFinite_iff {ts : List Term} : areFinite ts = true ↔ ∀ t ∈ ts, t.isFinite = true := by
  induction ts with
  | nil => simp [areFinite]
  | cons t ts ih => simp [areFinite, ih]

/-- Fields are finite if each of them is. -/
lemma areFiniteFields_iff {fs : List (String × Term)} :
    areFiniteFields fs = true ↔ ∀ f ∈ fs, f.2.isFinite = true := by
  induction fs with
  | nil => simp [areFiniteFields]
  | cons f fs ih =>
    obtain ⟨name, t⟩ := f
    simp [areFiniteFields, ih]

/-- To be finite is a property that terms take from their parts. -/
lemma closed_isFinite : Closed fun t => t.isFinite = true where
  null := rfl
  str _ := rfl
  call op args options ha ho := by
    rw [isFinite, Bool.and_eq_true]
    exact ⟨areFinite_iff.2 ha, areFiniteFields_iff.2 ho⟩

/-- Fields that hold texts have finite terms, however little they may be nested. -/
lemma ofFields_texts (depth : Nat) {fs : List (String × Value)}
    (h : ∀ f ∈ fs, ∃ s, f.2 = .str s) :
    ∃ ts, ofFields (depth + 1) fs = .ok ts ∧ areFiniteFields ts = true := by
  induction fs with
  | nil => exact ⟨[], rfl, rfl⟩
  | cons f fs ih =>
    obtain ⟨name, v⟩ := f
    obtain ⟨⟨s, rfl⟩, hfs⟩ := List.forall_mem_cons.1 h
    obtain ⟨ts, hts, hf⟩ := ih hfs
    refine ⟨(name, .str s) :: ts, ?_, ?_⟩
    · rw [ofFields, hts]
      rfl
    · rw [areFiniteFields, hf]
      rfl

end Term

/-- The value has a term, which can be sent. -/
def Value.IsPlain (v : Value) : Prop :=
  Yields (fun t => t.isFinite = true) (fun _ => False) (Term.ofValue v)

lemma Value.isPlain_str (s : String) : (Value.str s).IsPlain := rfl

lemma Value.isPlain_int (n : Int) : (Value.int n).IsPlain := rfl

/-- A record of texts has a term that can be sent. -/
lemma Row.isPlain_value {row : Row} (h : ∀ name v, row.get? name = some v → ∃ s, v = .str s) :
    row.value.IsPlain := by
  have htexts : ∀ f ∈ row.entries, ∃ s, f.2 = .str s := fun f hmem =>
    h f.1 f.2 (SortedMap.get?_eq_some_iff_mem.2 hmem)
  obtain ⟨ts, hts, hf⟩ := Term.ofFields_texts 18 htexts
  have ho : Term.ofValue row.value = .ok (.object ts) := by
    show (Term.ofFields 19 row.entries).map Term.object = _
    rw [hts]
    rfl
  rw [Value.IsPlain, ho]
  exact hf

/-- A call about such values can be sent. -/
lemma Call.sends {c : Call} (h : ∀ v ∈ c.values, v.IsPlain) : ∃ t, c.query.Sends t := by
  have hy := c.yields_term Term.closed_isFinite h
  cases ht : c.query.term with
  | ok t =>
    rw [ht] at hy
    exact ⟨t, ht, hy⟩
  | error e =>
    rw [ht] at hy
    exact hy.elim

/-! ## One query -/

/-- What a call is answered with, or fails with, if the reply to its query is `r`. -/
def Call.heard (c : Call) (r : Except DriverError Value) : Except Fault c.Answer :=
  match c with
  | databaseList | tableList .. | between .. =>
    match r with
    | .ok v =>
      match v.items? with
      | some vs => .ok vs
      | none => .error (.misfit (.notIterable v.kind))
    | .error e => .error (WireClient.failure e)
  | databaseCreate .. | tableCreate .. =>
    match r with
    | .ok _ => .ok true
    | .error e => if WireClient.alreadyExists e then .ok false else .error (WireClient.failure e)
  | tableWait .. => (r.map fun _ => ()).mapError WireClient.failure
  | get .. =>
    match r with
    | .ok v => .ok v
    | .error e => if e.kind = .nonExistence then .ok Value.null else .error (WireClient.failure e)
  | update .. | insert .. | delete .. => r.mapError WireClient.failure

namespace WireClient

/-- The reply to the next query. Nothing is asked without a connection, and at the end of the script
the connection is closed. -/
def reply (l : Side) : Except DriverError Value :=
  if l.near.isOpen then l.far.replies.head?.getD (.error .closed) else .error .noConnection

/-- The two sides once a term was sent, if there is a connection. -/
def sent (l : Side) (t : Term) : Side :=
  if l.near.isOpen then
    ⟨l.near, { l.far with replies := l.far.replies.tail, trace := l.far.trace ++ [.query t] }⟩
  else l

/-- A term is sent, and replied to. -/
lemma send_apply {t : Term} (h : t.isFinite = true) (l : Side) :
    send t l = .ok (reply l) (sent l t) := by
  rw [send, Action.bind_apply, Action.get_apply, reply, sent]
  dsimp only
  by_cases ho : l.near.isOpen = true
  · simp only [ho, h, if_true, Action.bind_apply, record, Action.modify_apply, takeReply,
      Action.get_apply]
    cases l.far.replies with
    | nil => rfl
    | cons r rs => rfl
  · simp only [ho]
    rfl

variable {q : Query} {t : Term} (h : q.Sends t) (l : Side)

include h

lemma run_apply : run q l = match reply l with
    | .ok v => .ok v (sent l t)
    | .error e => .error (failure e) (sent l t) := by
  rw [run, built, h.term]
  simp only [Action.bind_apply, Action.pure_apply, send_apply h.finite]
  cases reply l <;> rfl

lemma lookup_apply : lookup q l = match reply l with
    | .ok v => .ok v (sent l t)
    | .error e =>
      if e.kind = .nonExistence then .ok .null (sent l t) else .error (failure e) (sent l t) := by
  rw [lookup, built, h.term]
  simp only [Action.bind_apply, Action.pure_apply, send_apply h.finite]
  cases reply l with
  | ok v => rfl
  | error e =>
    dsimp only
    split <;> rfl

lemma listing_apply : listing q l = match reply l with
    | .ok v => match v.items? with
      | some vs => .ok vs (sent l t)
      | none => .error (.misfit (.notIterable v.kind)) (sent l t)
    | .error e => .error (failure e) (sent l t) := by
  rw [listing, Action.bind_apply, run_apply h]
  cases reply l with
  | ok v =>
    dsimp only
    rw [items]
    cases v.items? <;> rfl
  | error e => rfl

lemma creation_apply : creation q l = match reply l with
    | .ok _ => .ok true (sent l t)
    | .error e =>
      if alreadyExists e then .ok false (sent l t) else .error (failure e) (sent l t) := by
  rw [creation, h.term]
  simp only [Action.bind_apply, send_apply h.finite]
  cases reply l with
  | ok v => rfl
  | error e =>
    dsimp only
    split <;> rfl

omit h in
/-- A call that can be sent is one query, and is answered as the reply to it is heard. -/
theorem ask_apply {c : Call} (h : c.query.Sends t) : ask c l = match c.heard (reply l) with
    | .ok a => .ok a (sent l t)
    | .error e => .error e (sent l t) := by
  cases c with
  | databaseList | tableList db | between db t low limit fields mode =>
    rw [ask, listing_apply h]
    dsimp only [Call.heard]
    cases reply l with
    | ok v =>
      dsimp only
      cases v.items? <;> rfl
    | error e => rfl
  | databaseCreate db | tableCreate db t key durability =>
    rw [ask, creation_apply h]
    dsimp only [Call.heard]
    cases reply l with
    | ok v => rfl
    | error e =>
      dsimp only
      split <;> rfl
  | tableWait db t =>
    rw [ask, Action.bind_apply, run_apply h]
    cases reply l <;> rfl
  | get db t key fields mode =>
    rw [ask, lookup_apply h]
    dsimp only [Call.heard]
    cases reply l with
    | ok v => rfl
    | error e =>
      dsimp only
      split <;> rfl
  | update db t key values durability | insert db t row durability | delete db t key durability =>
    rw [ask, run_apply h]
    cases reply l <;> rfl

end WireClient

/-! ## Sessions -/

/-- The outcome that a fault is taken for: one of an operation is a failure. -/
def Fault.outcome? : Fault → Option (Latency → Outcome)
  | operation e => some (.failed e.message)
  | _ => none

/-- An error of the driver's family is taken for a failure with its message. -/
lemma WireClient.outcome?_failure (e : DriverError) :
    (failure e).outcome? = if e.inFamily then some (.failed e.message) else none := by
  rw [failure]
  by_cases h : e.inFamily = true
  · rw [if_pos h, if_pos h]
    rfl
  · rw [if_neg h, if_neg h]
    rfl

namespace Session

/-- The reply to the next query of the client. -/
def reply (s : Session WireClient Server) : Except DriverError Value :=
  WireClient.reply ⟨s.client, s.far⟩

/-- The session once a term was sent, if there is a connection. -/
def sent (s : Session WireClient Server) (t : Term) : Session WireClient Server :=
  s.linked (WireClient.sent ⟨s.client, s.far⟩ t)

variable (s : Session WireClient Server) (t : Term)

@[simp]
lemma sent_toBackend : (s.sent t).toBackend = s.toBackend := by
  rw [sent, WireClient.sent]
  split <;> rfl

/-- A term reaches the server if there is a connection. -/
lemma sent_trace : (s.sent t).far.trace =
    s.far.trace ++ if s.client.isOpen then [.query t] else [] := by
  rw [sent, WireClient.sent]
  cases ho : s.client.isOpen with
  | true => rfl
  | false => exact (List.append_nil _).symm

variable {s t}

/-- The outcome that the reply to a call is taken for, if an answer is taken for an outcome at all.
-/
def outcome? (c : Call) (take : c.Answer → Option (Latency → Outcome))
    (r : Except DriverError Value) : Option (Latency → Outcome) :=
  match c.heard r with
  | .ok a => take a
  | .error e => e.outcome?

/-- What hinges on a call that can be sent is told from the reply to it. -/
lemma Hinges.of_reply {x : Action (Session WireClient Server) Outcome} {c : Call}
    {take : c.Answer → Option (Latency → Outcome)} (hx : Hinges x s c take)
    (h : c.query.Sends t) {f : Latency → Outcome} (hf : outcome? c take s.reply = some f) :
    Concludes x s (s.ticked.sent t) f := by
  have ha : Client.ask c ⟨s.ticked.client, s.ticked.far⟩ = _ :=
    WireClient.ask_apply ⟨s.client, s.far⟩ h
  rw [outcome?, reply] at hf
  cases hr : c.heard (WireClient.reply ⟨s.client, s.far⟩) with
  | ok a =>
    rw [hr] at ha hf
    exact hx.of_ok (viaClient_ok ha) hf
  | error e =>
    rw [hr] at ha hf
    cases e with
    | operation e =>
      cases hf
      exact hx.of_error (viaClient_error ha)
    | _ => cases hf

/-- What hinges on a call about plain values is told from the reply to one query. -/
lemma Hinges.of_plain {x : Action (Session WireClient Server) Outcome} {c : Call}
    {take : c.Answer → Option (Latency → Outcome)} (hx : Hinges x s c take)
    (h : ∀ v ∈ c.values, v.IsPlain) {f : Latency → Outcome}
    (hf : outcome? c take s.reply = some f) :
    ∃ q, c.query.Sends q ∧ Concludes x s (s.ticked.sent q) f := by
  obtain ⟨q, hq⟩ := Call.sends h
  exact ⟨q, hq, hx.of_reply hq hf⟩

end Session

end CrudBench
