import CrudBench.Proofs.Query.Nesting
import CrudBench.Proofs.Server.Reply

/-!
# Errors that callers see

A client is asked to connect, to close, or to run a query, with values of any kind and in any state.
An error of the driver's family is then seen as an error of the client, or as an answer if it says
no more than that there is no such record, or that something is there already. Queries that are
built before anything is tried are the exception: with a value that is nested too deeply the
driver's own error comes through (`WireClient.Errand.shielded_iff`).
-/

namespace CrudBench

/-- The error says that what was to be created is there already. -/
def DriverError.SaysExists (e : DriverError) : Prop :=
  e.kind = .opFailed ∧ "already exists".toList <:+: e.message.toList

namespace Query

/-- The query is for one record. -/
def looksUp : Query → Bool
  | get .. => true
  | _ => false

/-- The query creates a database or a table. -/
def creates : Query → Bool
  | databaseCreate _ | tableCreate .. => true
  | _ => false

end Query

namespace WireClient

lemma alreadyExists_iff (e : DriverError) : alreadyExists e = true ↔ e.SaysExists := by
  rw [alreadyExists, Bool.and_eq_true, beq_iff_eq, Text.isPartOf, Text.occursIn_iff,
    DriverError.SaysExists]

instance (e : DriverError) : Decidable e.SaysExists :=
  decidable_of_iff (alreadyExists e = true) (alreadyExists_iff e)

/-! ## Queries -/

/-- What the driver makes of a term: nothing is sent without a connection, nor a float that is not
finite, and at the end of the script the connection is closed. -/
def driven (l : Side) (t : Term) : Except DriverError Value :=
  if l.near.isOpen = true ∧ t.isFinite = false then .error .notFinite else reply l

/-- What the client makes of what the driver makes of a query. -/
def heard (q : Query) (r : Except DriverError Value) : Except Fault Value :=
  match q with
  | .databaseList | .tableList _ | .between .. =>
    match r with
    | .ok v =>
      match v.items? with
      | some vs => .ok (.list vs)
      | none => .error (.misfit (.notIterable v.kind))
    | .error e => .error (failure e)
  | .databaseCreate _ | .tableCreate .. =>
    match r with
    | .ok _ => .ok (.bool true)
    | .error e => if alreadyExists e then .ok (.bool false) else .error (failure e)
  | .tableWait .. => (r.map fun _ => Value.null).mapError failure
  | .get .. =>
    match r with
    | .ok v => .ok v
    | .error e => if e.kind = .nonExistence then .ok .null else .error (failure e)
  | .update .. | .insert .. | .delete .. => r.mapError failure

/-- What an action comes to, wherever it ends. -/
def result {α : Type} (x : Action Side α) (l : Side) : Except Fault α := (x.outcome l).1

/-- If the second of two actions comes to the same from anywhere, it does not matter where the first
has ended. -/
lemma result_bind {α β : Type} {f : α → Action Side β} {g : α → Except Fault β}
    (hf : ∀ a l, result (f a) l = g a) (x : Action Side α) (l : Side) :
    result (x >>= f) l = (result x l).bind g := by
  rw [result, result, Action.outcome_bind, Action.outcome]
  cases x l with
  | ok a l' => exact hf a l'
  | error e l' => rfl

lemma result_map {α β : Type} (f : α → β) (x : Action Side α) (l : Side) :
    result (f <$> x) l = (result x l).map f := by
  rw [map_eq_pure_bind, result_bind (g := fun a => .ok (f a)) fun _ _ => rfl]
  cases result x l <;> rfl

/-- What the driver makes of a term is heard. -/
lemma result_send (t : Term) (l : Side) : result (send t) l = .ok (driven l t) := by
  rw [driven, result, Action.outcome]
  cases hf : t.isFinite with
  | true => rw [send_apply hf, if_neg fun h => Bool.false_ne_true h.2.symm]
  | false =>
    rw [send, Action.bind_apply, Action.get_apply]
    cases ho : l.near.isOpen <;> simp [ho, hf, reply]

section Built

variable {q : Query} {t : Term} (h : q.term = .ok t) (l : Side)

include h

lemma result_run : result (run q) l = (driven l t).mapError failure := by
  have hf (r : Except DriverError Value) (l : Side) : result (match r with
      | .ok v => return v
      | .error e => throw (failure e) : Action Side Value) l = r.mapError failure := by
    cases r <;> rfl
  rw [run, built, h]
  exact (result_bind hf (send t) l).trans (by rw [result_send]; rfl)

lemma result_lookup : result (lookup q) l = match driven l t with
    | .ok v => .ok v
    | .error e => if e.kind = .nonExistence then .ok .null else .error (failure e) := by
  have hf (r : Except DriverError Value) (l : Side) : result (match r with
      | .ok v => return v
      | .error e => if e.kind = .nonExistence then return .null else throw (failure e) :
        Action Side Value) l = match r with
      | .ok v => .ok v
      | .error e => if e.kind = .nonExistence then .ok .null else .error (failure e) := by
    cases r with
    | ok v => rfl
    | error e =>
      dsimp only
      split <;> rfl
  rw [lookup, built, h]
  exact (result_bind hf (send t) l).trans (by rw [result_send]; rfl)

end Built

lemma result_items (v : Value) (l : Side) : result (items v) l = match v.items? with
    | some vs => .ok vs
    | none => .error (.misfit (.notIterable v.kind)) := by
  rw [items]
  cases v.items? <;> rfl

/-- What the driver makes of the term of a creation is heard, and so is that it could not be built.
-/
lemma result_creation (q : Query) (l : Side) :
    result (creation q) l = match q.term.bind (driven l) with
      | .ok _ => .ok true
      | .error e => if alreadyExists e then .ok false else .error (failure e) := by
  have hf (r : Except DriverError Value) (l : Side) : result (match r with
      | .ok _ => return true
      | .error e => if alreadyExists e then return false else throw (failure e) :
        Action Side Bool) l = match r with
      | .ok _ => .ok true
      | .error e => if alreadyExists e then .ok false else .error (failure e) := by
    cases r with
    | ok v => rfl
    | error e =>
      dsimp only
      split <;> rfl
  rw [creation]
  cases q.term with
  | ok t => exact (result_bind hf (send t) l).trans (by rw [result_send]; rfl)
  | error e => exact (result_bind hf (pure (.error e)) l).trans rfl

/-- A query that is built, or whose building is tried as well, comes to what the client makes of
what the driver makes of it. -/
lemma result_perform {q : Query} (h : q.creates = true ∨ ∃ t, q.term = .ok t) (l : Side) :
    result (perform q) l = heard q (q.term.bind (driven l)) := by
  cases q with
  | databaseCreate db | tableCreate db t key durability =>
    rw [perform, result_map, result_creation]
    dsimp only [heard]
    cases Except.bind _ _ with
    | ok v => rfl
    | error e =>
      dsimp only
      split <;> rfl
  | databaseList | tableList db | between db t low limit fields mode =>
    obtain ⟨term, ht⟩ := h.resolve_left Bool.false_ne_true
    rw [perform, result_map, listing, result_bind result_items, result_run ht, ht]
    dsimp only [heard, Except.bind]
    cases driven l term with
    | ok v =>
      dsimp only [Except.mapError]
      cases v.items? <;> rfl
    | error e => rfl
  | tableWait db t =>
    obtain ⟨term, ht⟩ := h.resolve_left Bool.false_ne_true
    rw [perform, result_bind fun _ _ => rfl, result_run ht, ht]
    dsimp only [heard, Except.bind]
    cases driven l term <;> rfl
  | get db t key fields mode =>
    obtain ⟨term, ht⟩ := h.resolve_left Bool.false_ne_true
    rw [perform, result_lookup ht, ht]
    rfl
  | update db t key values durability | insert db t document durability
  | delete db t key durability =>
    obtain ⟨term, ht⟩ := h.resolve_left Bool.false_ne_true
    rw [perform, result_run ht, ht]
    rfl

/-- A query that creates nothing and that cannot be built comes to what the driver says of it. -/
lemma result_unbuilt {q : Query} {e : DriverError} (hc : q.creates = false)
    (h : q.term = .error e) (l : Side) : result (perform q) l = .error (.driver e) := by
  have hrun : run q l = .error (.driver e) l := by
    rw [run, built, h]
    rfl
  have hlookup : lookup q l = .error (.driver e) l := by
    rw [lookup, built, h]
    rfl
  cases q with
  | databaseCreate | tableCreate => cases hc
  | databaseList | tableList | between =>
    simp only [result, perform, Action.outcome, map_eq_pure_bind, listing, Action.bind_apply, hrun]
  | tableWait => simp only [result, perform, Action.outcome, Action.bind_apply, hrun]
  | get => simp only [result, perform, Action.outcome, hlookup]
  | update | insert | delete => simp only [result, perform, Action.outcome, hrun]

/-- An answer is never taken for an error of the driver. -/
lemma heard_ok_ne (q : Query) (v : Value) (e : DriverError) :
    heard q (.ok v) ≠ .error (.driver e) := by
  cases q with
  | databaseList | tableList | between =>
    dsimp only [heard]
    cases v.items? <;> nofun
  | _ => nofun

/-- An error answers some queries, and fails every other. -/
lemma heard_error (q : Query) (e : DriverError) : heard q (.error e) =
    if q.looksUp = true ∧ e.kind = .nonExistence then .ok .null
    else if q.creates = true ∧ e.SaysExists then .ok (.bool false)
    else .error (failure e) := by
  cases q with
  | get | databaseCreate | tableCreate =>
    simp [heard, Query.looksUp, Query.creates, alreadyExists_iff]
  | _ => rfl

/-! ## Everything that a client can be asked -/

/-- What a client can be asked to do. -/
inductive Errand where
  | connect (host port timeout : Value)
  | close
  | query (q : Query)

namespace Errand

/-- Does what a client is asked. -/
def perform : Errand → Action Side Value
  | connect host port timeout => do
    WireClient.connect host port timeout
    return .null
  | close => do
    WireClient.close
    return .null
  | query q => WireClient.perform q

/-- The error that the driver raises while it connects, closes its connection, or builds and runs a
query. -/
def raised (l : Side) : Errand → Option DriverError
  | connect .. => l.far.connectError
  | close => if l.near.isOpen then l.far.closeError else none
  | query q =>
    match q.term.bind (driven l) with
    | .ok _ => none
    | .error e => some e

/-- What the caller sees of an error of the driver's family. -/
def Shows (e : DriverError) (x : Except Fault Value) : Errand → Prop
  | connect host port _ => ∃ f, x = .error (.connection f) ∧
      f.message = "Cannot connect to " ++ host.text ++ ":" ++ port.text ++ ": " ++ e.message
  | close => ∃ f, x = .error (.connection f) ∧ f.message = e.message
  | query q =>
    (q.looksUp = true ∧ e.kind = .nonExistence ∧ x = .ok .null) ∨
    (q.creates = true ∧ e.SaysExists ∧ x = .ok (.bool false)) ∨
    (¬(q.looksUp = true ∧ e.kind = .nonExistence) ∧ ¬(q.creates = true ∧ e.SaysExists) ∧
      ∃ f, x = .error (.operation f) ∧ f.message = e.message)

/-- No error of the driver's family comes through, and what the caller sees instead is one of the
client's own, or an answer. -/
structure Shielded (m : Errand) (l : Side) : Prop where
  hidden : ∀ e, result m.perform l = .error (.driver e) → e.inFamily = false
  shown : ∀ e, m.raised l = some e → e.inFamily = true → m.Shows e (result m.perform l)

/-- The errand is a query that creates nothing, with a value nested too deeply to be sent. -/
def Exposed : Errand → Prop
  | query q => q.creates = false ∧ ∃ v ∈ q.parts, v.TooDeep
  | _ => False

lemma result_connect (host port timeout : Value) (l : Side) :
    result (connect host port timeout).perform l = match l.far.connectError with
      | none => .ok .null
      | some e => .error
        (if e.inFamily then .connection (.unreachable host port e.message) else .driver e) := by
  simp only [result, perform, WireClient.connect, record, Action.outcome, Action.bind_apply,
    Action.modify_apply, Action.get_apply]
  cases l.far.connectError <;> rfl

lemma result_close (l : Side) : result close.perform l =
    if l.near.isOpen then
      match l.far.closeError with
      | none => .ok .null
      | some e => .error (if e.inFamily then .connection (.closing e) else .driver e)
    else .error (.connection .notConnected) := by
  cases ho : l.near.isOpen with
  | true =>
    simp only [result, perform, WireClient.close, record, Action.outcome, Action.bind_apply,
      Action.get_apply, Action.modify_apply, ho, if_true]
    cases l.far.closeError <;> rfl
  | false =>
    simp only [result, perform, WireClient.close, Action.outcome, Action.bind_apply,
      Action.get_apply, ho]
    rfl

variable {m : Errand} {l : Side} {e : DriverError}

/-- What is shown of an error is never an error of the driver. -/
lemma Shows.ne_driver {x : Except Fault Value} (h : m.Shows e x) (e' : DriverError) :
    x ≠ .error (.driver e') := by
  cases m with
  | connect | close =>
    obtain ⟨f, rfl, -⟩ := h
    nofun
  | query q => obtain ⟨-, -, rfl⟩ | ⟨-, -, rfl⟩ | ⟨-, -, f, rfl, -⟩ := h <;> nofun

/-- An errand on which nothing is raised hides everything, if it does not raise itself. -/
lemma shielded_of_none (hr : m.raised l = none)
    (h : ∀ e, result m.perform l ≠ .error (.driver e)) : m.Shielded l where
  hidden e he := absurd he (h e)
  shown _ he := nomatch hr.symm.trans he

lemma shielded_of_shown (hr : m.raised l = some e) (h : m.Shows e (result m.perform l)) :
    m.Shielded l where
  hidden e' he := absurd he (h.ne_driver e')
  shown e' he _ := by
    cases hr.symm.trans he
    exact h

/-- An error that is not of the family may come through. -/
lemma shielded_of_passed (hr : m.raised l = some e) (hf : e.inFamily = false)
    (h : result m.perform l = .error (.driver e)) : m.Shielded l where
  hidden e' he := by
    cases h.symm.trans he
    exact hf
  shown e' he hf' := by
    cases hr.symm.trans he
    exact nomatch hf.symm.trans hf'

/-- An error passes through unless it is of the family; then it has to be shown. -/
lemma shielded_of_fault {f : Fault} (hr : m.raised l = some e)
    (h : result m.perform l = .error (if e.inFamily then f else .driver e))
    (hs : m.Shows e (.error f)) : m.Shielded l := by
  cases hf : e.inFamily with
  | true =>
    rw [hf] at h
    exact shielded_of_shown hr (by rwa [h])
  | false =>
    rw [hf] at h
    exact shielded_of_passed hr hf h

lemma shielded_connect (host port timeout : Value) (l : Side) :
    (connect host port timeout).Shielded l := by
  have h := result_connect host port timeout l
  cases hc : l.far.connectError with
  | none =>
    rw [hc] at h
    exact shielded_of_none hc fun e he => nomatch h.symm.trans he
  | some e =>
    rw [hc] at h
    exact shielded_of_fault hc h ⟨_, rfl, rfl⟩

lemma shielded_close (l : Side) : close.Shielded l := by
  have h := result_close l
  have hr : close.raised l = if l.near.isOpen then l.far.closeError else none := rfl
  by_cases ho : l.near.isOpen = true
  · rw [if_pos ho] at h hr
    cases hc : l.far.closeError with
    | none =>
      rw [hc] at h
      exact shielded_of_none (hr.trans hc) fun e he => nomatch h.symm.trans he
    | some e =>
      rw [hc] at h
      exact shielded_of_fault (hr.trans hc) h ⟨_, rfl, rfl⟩
  · rw [if_neg ho] at h hr
    exact shielded_of_none hr fun e he => nomatch h.symm.trans he

/-- A query whose errors are heard hides the errors of the family. -/
lemma shielded_heard {q : Query} (h : q.creates = true ∨ ∃ t, q.term = .ok t) (l : Side) :
    (query q).Shielded l := by
  have hr : result (query q).perform l = heard q (q.term.bind (driven l)) := result_perform h l
  cases hd : q.term.bind (driven l) with
  | ok v =>
    rw [hd] at hr
    refine shielded_of_none (by rw [raised, hd]) fun e he => ?_
    exact heard_ok_ne q v e (hr.symm.trans he)
  | error e =>
    rw [hd, heard_error] at hr
    have he : (query q).raised l = some e := by rw [raised, hd]
    by_cases hl : q.looksUp = true ∧ e.kind = .nonExistence
    · exact shielded_of_shown he (.inl ⟨hl.1, hl.2, hr.trans (if_pos hl)⟩)
    · rw [if_neg hl] at hr
      by_cases hc : q.creates = true ∧ e.SaysExists
      · exact shielded_of_shown he (.inr (.inl ⟨hc.1, hc.2, hr.trans (if_pos hc)⟩))
      · rw [if_neg hc] at hr
        exact shielded_of_fault he hr (.inr (.inr ⟨hl, hc, _, rfl, rfl⟩))

/-- A query that creates nothing and that cannot be built hides the errors of the family just if no
value is nested too deeply. -/
lemma shielded_unbuilt {q : Query} (hc : q.creates = false) (h : q.term = .error e) (l : Side) :
    (query q).Shielded l ↔ ¬∃ v ∈ q.parts, v.TooDeep := by
  have hr : result (query q).perform l = .error (.driver e) := result_unbuilt hc h l
  rw [← q.term_eq_tooDeep, h]
  by_cases he : e = .tooDeep
  · subst he
    exact iff_of_false (fun hs => nomatch hs.hidden _ hr) fun hn => hn rfl
  · obtain ⟨kind, rfl⟩ := Query.eq_notNames_of_term h he
    refine iff_of_true ?_ fun heq => he (Except.error.inj heq)
    exact shielded_of_passed (by rw [raised, h]; rfl) rfl hr

/-- An errand hides every error of the driver's family, and shows what the caller should see of it,
unless it is a query that creates nothing with a value that is nested too deeply. -/
theorem shielded_iff (m : Errand) (l : Side) : m.Shielded l ↔ ¬m.Exposed := by
  cases m with
  | connect host port timeout => exact iff_of_true (shielded_connect host port timeout l) id
  | close => exact iff_of_true (shielded_close l) id
  | query q =>
    cases hc : q.creates with
    | true => exact iff_of_true (shielded_heard (.inl hc) l) fun hx => nomatch hc.symm.trans hx.1
    | false =>
      have hx : (query q).Exposed ↔ ∃ v ∈ q.parts, v.TooDeep := by
        rw [Exposed, hc]
        exact and_iff_right rfl
      rw [hx]
      cases ht : q.term with
      | ok t =>
        refine iff_of_true (shielded_heard (.inr ⟨t, ht⟩) l) fun hd => ?_
        exact nomatch ht.symm.trans (q.term_eq_tooDeep.2 hd)
      | error e => exact shielded_unbuilt hc ht l

/-- To insert a document with a list nested too deeply shows the driver's own error, although there
is a connection; creating a database of that name would hide it. -/
theorem exposed_insert :
    let deep : Value := Nat.repeat (fun v => .list [v]) 20 .null
    let document : Value := .object [(primaryKey, .str "k"), ("f", deep)]
    let insertion := query (.insert (.str "ycsb") (.str "usertable") document (.str "hard"))
    let side : Side := ⟨⟨true⟩, none, none, [.ok (.object [("inserted", .int 1)])], []⟩
    result insertion.perform side = .error (.driver .tooDeep) ∧
      DriverError.inFamily .tooDeep = true ∧ ¬insertion.Shielded side ∧
      result (query (.databaseCreate deep)).perform side =
        .error (.operation (.reported .tooDeep)) := by
  refine ⟨rfl, rfl, fun h => ?_, rfl⟩
  exact nomatch h.hidden .tooDeep rfl

end Errand

end WireClient

end CrudBench
