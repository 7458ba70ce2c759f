import CrudBench.Proofs.Operation
import CrudBench.Proofs.Request

/-!
# Plain requests

An operation with texts for its names and its key is decided without the client in two cases, and
hinges on one call in all others (`PlainRequest.exists_hinges`).
-/

namespace CrudBench

namespace Session.Steady

variable {κ ω : Type} {I : Session κ ω → Prop} {F : Fault → Prop} (h : Steady I F)

include h

/-- To receive a record keeps what is steady. -/
lemma keeps_receive (start : Float) (fields : FieldSet) (answer : Value) :
    Action.Keeps I (fun _ => True) F (receive start fields answer) := by
  cases answer with
  | null => exact (h.keeps_elapsedSince start).bind fun _ _ => Action.keeps_pure trivial
  | _ => exact (h.keeps_elapsedSince start).bind fun _ _ =>
      (h.keeps_given _).bind fun _ _ => Action.keeps_pure trivial

/-- To receive records keeps what is steady. -/
lemma keeps_receiveAll (start : Float) (fields : FieldSet) (answer : List Value) :
    Action.Keeps I (fun _ => True) F (receiveAll start fields answer) :=
  (h.keeps_elapsedSince start).bind fun _ _ =>
    (h.keeps_given _).bind fun _ _ => Action.keeps_pure trivial

end Session.Steady

namespace PlainRequest

/-- The outcome that is decided without the client: nothing is put in under an empty key, and
nothing is found among no records. -/
def shortcut? : PlainRequest → Option Outcome
  | point ⟨_, key, .insert _⟩ => if key = "" then some (.failed "Empty primary key" .zero) else none
  | point _ => none
  | range _ _ count _ => if count ≤ 0 then some (.found (.records []) .zero) else none

/-- What is decided without the client is an insertion under an empty key, or a range of no records.
-/
lemma shortcut_cases {r : PlainRequest} {o : Outcome} (h : r.shortcut? = some o) :
    (∃ t values, r = .point ⟨t, "", .insert values⟩ ∧ o = .failed "Empty primary key" .zero) ∨
      ∃ t start count fields, count ≤ 0 ∧ r = .range t start count fields ∧
        o = .found (.records []) .zero := by
  cases r with
  | range t start count fields =>
    rw [shortcut?] at h
    split at h
    next hcount =>
      cases h
      exact .inr ⟨t, start, count, fields, hcount, rfl, rfl⟩
    · cases h
  | point r =>
    obtain ⟨t, key, verb⟩ := r
    cases verb with
    | insert values =>
      rw [shortcut?] at h
      split at h
      next hkey =>
        cases h
        subst hkey
        exact .inl ⟨t, values, rfl, rfl⟩
      · cases h
    | _ => cases h

variable {κ ω : Type}

/-- The outcome of an operation that does not reach the client: there is no connection, or it is
decided without it. -/
def skipped? (r : PlainRequest) (s : Session κ ω) : Option Outcome :=
  if s.connected then r.shortcut? else some (.failed "Not connected" .zero)

lemma connected_of_skipped {r : PlainRequest} {s : Session κ ω} (h : r.skipped? s = none) :
    s.connected = true ∧ r.shortcut? = none := by
  rw [skipped?] at h
  split at h
  next hc => exact ⟨hc, h⟩
  · cases h

variable [Client κ ω] {s : Session κ ω} {st : Settings}

lemma perform_of_shortcut {r : PlainRequest} (hc : s.connected = true)
    (hs : s.settings = some st) {o : Outcome} (h : r.shortcut? = some o) :
    r.request.perform s = .ok o s := by
  rcases shortcut_cases h with ⟨t, values, rfl, rfl⟩ | ⟨t, start, count, fields, hn, rfl, rfl⟩
  · exact Session.insert_of_empty hc hs (.str t) (.str "") values rfl
  · exact Session.scan_of_nonpos hc hs (.str t) (.str start) (.ofTexts fields) hn

/-- What does not reach the client changes nothing. -/
lemma perform_of_skipped {r : PlainRequest} (hs : s.connected = true → s.settings.isSome = true)
    {o : Outcome} (h : r.skipped? s = some o) : r.request.perform s = .ok o s := by
  rw [skipped?] at h
  split at h
  next hc =>
    obtain ⟨st, hst⟩ := Option.isSome_iff_exists.1 (hs hc)
    exact perform_of_shortcut hc hst h
  next hc =>
    cases h
    exact Session.perform_of_disconnected (.inl (Bool.eq_false_iff.2 hc)) r.request

/-- The call that the operation makes of its client. -/
def call (st : Settings) : PlainRequest → Call
  | point ⟨t, key, .read fields⟩ =>
    .get st.database (.str t) (.str key) (FieldSet.names fields) st.readMode
  | point ⟨t, key, .insert values⟩ =>
    .insert st.database (.str t) (insertedRow (.str key) values) st.durability
  | point ⟨t, key, .update values⟩ =>
    .update st.database (.str t) (.str key) (updateDocument values) st.durability
  | point ⟨t, key, .delete⟩ => .delete st.database (.str t) (.str key) st.durability
  | range t start count fields =>
    .between st.database (.str t) (.str start) (.int count) (FieldSet.names fields) st.readMode

/-- With a connection, what is not decided without the client is one call to it, of whose answer an
outcome is made without it. -/
lemma perform_timed {r : PlainRequest} (hc : s.connected = true) (hs : s.settings = some st)
    (hr : r.shortcut? = none) :
    ∃ (op : Operation) (key : Value) (start : Float)
      (finish : (r.call st).Answer → Action (Session κ ω) Outcome)
      (take : (r.call st).Answer → Option (Latency → Outcome)),
      r.request.perform s = Session.timed op key start (r.call st) finish s.ticked ∧
        (∀ a f t, take a = some f → Session.Concludes (finish a) t t f) ∧
        ∀ {I : Session κ ω → Prop} {F : Fault → Prop}, Session.Steady I F →
          ∀ a, Action.Keeps I (fun _ => True) F (finish a) := by
  cases r with
  | range t start count fields =>
    -- no shortcut was taken, so something is counted
    have hcount : 0 < (Count.int count).toInt := by
      by_cases hn : count ≤ 0
      · rw [shortcut?, if_pos hn] at hr
        cases hr
      · exact Int.not_le.1 hn
    exact ⟨_, _, _, _, _, Session.scan_timed hc hs (.str t) (.str start) fields hcount,
      fun a f u h => Session.concludes_receiveAll h _ u, fun h => h.keeps_receiveAll _ _⟩
  | point r =>
    obtain ⟨t, key, verb⟩ := r
    cases verb with
    | read fields => exact ⟨_, _, _, _, _, Session.read_timed hc hs (.str t) (.str key) fields,
        fun a f u h => Session.concludes_receive h _ u, fun h => h.keeps_receive _ _⟩
    | insert values =>
      have hne : key ≠ "" := by
        rintro rfl
        cases hr
      have hkey : (Value.str key).isTruthy = true := by simp [Value.isTruthy, hne]
      exact ⟨_, _, _, _, _, Session.insert_timed hc hs (.str t) (.str key) values hkey,
        fun a f u h => Session.concludes_settle h _ _ _ u, fun h => h.keeps_settle _ _ _ _ _⟩
    | update values =>
      exact ⟨_, _, _, _, _, Session.update_timed hc hs (.str t) (.str key) values,
        fun a f u h => Session.concludes_settle h _ _ _ u, fun h => h.keeps_settle _ _ _ _ _⟩
    | delete =>
      exact ⟨_, _, _, _, _, Session.delete_timed hc hs (.str t) (.str key),
        fun a f u h => Session.concludes_settle h _ _ _ u, fun h => h.keeps_settle _ _ _ _ _⟩

/-- With a connection, what is not decided without the client hinges on one call to it. -/
lemma exists_hinges {r : PlainRequest} (hc : s.connected = true) (hs : s.settings = some st)
    (hr : r.shortcut? = none) :
    ∃ (c : Call) (take : c.Answer → Option (Latency → Outcome)),
      Session.Hinges r.request.perform s c take := by
  obtain ⟨op, key, start, finish, take, hx, hf, -⟩ := perform_timed hc hs hr
  exact ⟨r.call st, take, Session.hinges_of_timed op key start finish hx hf⟩

end PlainRequest

end CrudBench
