import CrudBench.Proofs.Plain
import CrudBench.Proofs.Server.Lifecycle
import CrudBench.Proofs.Server.Reply

/-!
# The boundary of a backend

An operation with texts for its names and its key is answered, whatever error of its family the
driver raises and whatever value that fits the server replies: nothing passes through, at most one
query is sent, and the outcome tells what the reply says (`PlainRequest.perform_answered`).
-/

namespace CrudBench

/-! ## Plain requests -/

namespace PlainRequest

/-- The operation is a read. -/
def isRead : PlainRequest → Bool
  | point ⟨_, _, .read _⟩ => true
  | _ => false

/-- The reply is an error of the driver's own family, or a value that fits the operation: null or an
object for a read, a list of objects for a range, an object for a write. -/
def Fits (r : PlainRequest) : Except DriverError Value → Prop
  | .error e => e.inFamily = true
  | .ok v => match r with
    | point ⟨_, _, .read _⟩ => v = .null ∨ ∃ fields, v = .object fields
    | point _ => ∃ fields, v = .object fields
    | range .. => ∃ vs, v = .list vs ∧ ∀ w ∈ vs, ∃ fields, w = .object fields

/-- The outcome that a value is taken for. -/
def outcome? : PlainRequest → Value → Option (Latency → Outcome)
  | point ⟨_, _, .read fields⟩, v => v.readOutcome? (.ofTexts fields)
  | point ⟨_, _, .insert _⟩, v => v.writeOutcome? .inserted false
  | point ⟨_, _, .update _⟩, v => v.writeOutcome? .replaced true
  | point ⟨_, _, .delete⟩, v => v.writeOutcome? .deleted true
  | range _ _ _ fields, v => v.items?.bind (Value.scanOutcome? (.ofTexts fields))

/-- The outcome that a reply is taken for. An error is a failure with the driver's message, except
that a read of what does not exist finds nothing. -/
def verdict? (r : PlainRequest) : Except DriverError Value → Option (Latency → Outcome)
  | .ok v => r.outcome? v
  | .error e =>
    if r.isRead = true ∧ e.kind = .nonExistence then some .notFound
    else if e.inFamily then some (.failed e.message)
    else none

/-- The data that a success of the operation comes with: a record, records, or none. -/
def Shows : PlainRequest → Option Payload → Prop
  | point ⟨_, _, .read _⟩, data => ∃ d, data = some (.record d)
  | point _, data => data = none
  | range .., data => ∃ ds, data = some (.records ds)

/-- The outcome is well formed: a success has no error, a missing record neither data nor error, and
a failure has an error and no data. -/
structure Formed (r : PlainRequest) (o : Outcome) : Prop where
  ok : o.status = .ok → o.error = none ∧ r.Shows o.data
  notFound : o.status = .notFound → o.data = none ∧ o.error = none
  error : o.status = .error → o.data = none ∧ o.error.isSome = true

end PlainRequest

/-- The backend counts as connected and has settings. -/
def Session.Usable (s : Session WireClient Server) : Prop :=
  s.connected = true ∧ s.settings.isSome = true

/-- From `s` an operation has come to the outcome `o` and the session `t` as it should. -/
structure PlainRequest.Answered (r : PlainRequest) (s t : Session WireClient Server)
    (o : Outcome) : Prop where
  formed : r.Formed o
  backend : t.toBackend = s.toBackend
  /-- A backend that is not connected says so before anything else. -/
  refused : ¬s.Usable → o = .failed "Not connected" .zero ∧ t = s
  /-- What can be decided without the client is. -/
  short : ∀ o', s.Usable → r.shortcut? = some o' → o = o' ∧ t = s
  /-- Everything else is one query, if there is a connection, and what the reply is taken for. -/
  asked : s.Usable → r.shortcut? = none → ∃ q f latency,
    t.far.trace = s.far.trace ++ (if s.client.isOpen then [.query q] else []) ∧
      r.verdict? s.reply = some f ∧ o = f latency
  /-- There is a connection if the backend is coherent. -/
  queried : s.Coherent → s.connected = true → r.shortcut? = none →
    ∃ q, t.far.trace = s.far.trace ++ [.query q]

/-! ## Replies as outcomes -/

namespace Session

variable {take : Value → Option (Latency → Outcome)}

/-- What the reply to a call for a record is taken for. -/
lemma outcome?_get (db : String) (t key : Value) (fields : List Value) (mode : Option ReadMode)
    (r : Except DriverError Value) :
    outcome? (.get db t key fields mode) take r = match r with
      | .ok v => take v
      | .error e =>
        if e.kind = .nonExistence then take .null
        else if e.inFamily then some (.failed e.message) else none := by
  cases r with
  | ok v => rfl
  | error e =>
    dsimp only [outcome?, Call.heard]
    by_cases he : e.kind = .nonExistence
    · rw [if_pos he, if_pos he]
    · rw [if_neg he, if_neg he]
      exact WireClient.outcome?_failure e

/-- What the reply to a call is taken for, if every error fails it. -/
lemma outcome?_of_failing {c : Call} {take : c.Answer → Option (Latency → Outcome)}
    {takeValue : Value → Option (Latency → Outcome)}
    (hok : ∀ v, outcome? c take (.ok v) = takeValue v)
    (herr : ∀ e, c.heard (.error e) = .error (WireClient.failure e))
    (r : Except DriverError Value) :
    outcome? c take r = match r with
      | .ok v => takeValue v
      | .error e => if e.inFamily then some (.failed e.message) else none := by
  cases r with
  | ok v => exact hok v
  | error e =>
    rw [outcome?, herr]
    exact WireClient.outcome?_failure e

/-- What a value in reply to a call for a range is taken for. -/
lemma outcome?_between {take : List Value → Option (Latency → Outcome)} (db : String)
    (t low limit : Value) (fields : List Value) (mode : Option ReadMode) (v : Value) :
    outcome? (.between db t low limit fields mode) take (.ok v) = v.items?.bind take := by
  dsimp only [outcome?, Call.heard]
  cases v.items? <;> rfl

end Session

namespace PlainRequest

lemma formed_notFound (r : PlainRequest) (latency : Latency) : r.Formed (.notFound latency) :=
  ⟨nofun, fun _ => ⟨rfl, rfl⟩, nofun⟩

lemma formed_failed (r : PlainRequest) (text : String) (latency : Latency) :
    r.Formed (.failed text latency) := ⟨nofun, nofun, fun _ => ⟨rfl, rfl⟩⟩

/-- A success without data is well formed as an outcome if successes come without data. -/
lemma formed_ok {r : PlainRequest} (h : r.Shows none) (latency : Latency) :
    r.Formed (.ok latency) := ⟨fun _ => ⟨rfl, h⟩, nofun, nofun⟩

/-- A success with the data of the operation is well formed as an outcome. -/
lemma formed_found {r : PlainRequest} {data : Payload} (h : r.Shows (some data))
    (latency : Latency) : r.Formed (.found data latency) := ⟨fun _ => ⟨rfl, h⟩, nofun, nofun⟩

/-- What a receipt makes of a write is well formed if successes come without data. -/
lemma formed_verdict {r : PlainRequest} (h : r.Shows none) (receipt : Receipt) (wanted : Counter)
    (mayMiss : Bool) (latency : Latency) : r.Formed (receipt.verdict wanted mayMiss latency) := by
  rw [Receipt.verdict]
  split
  · exact formed_ok h latency
  · split
    · exact formed_notFound r latency
    · exact formed_failed r _ latency

/-- The outcome that a value is taken for is well formed. -/
lemma formed_of_outcome {r : PlainRequest} {v : Value} {f : Latency → Outcome}
    (h : r.outcome? v = some f) (latency : Latency) : r.Formed (f latency) := by
  cases r with
  | range t start count fields =>
    obtain ⟨vs, -, h⟩ := Option.bind_eq_some_iff.1 h
    obtain ⟨rows, -, rfl⟩ := Option.map_eq_some_iff.1 h
    refine formed_found ?_ latency
    exact ⟨_, rfl⟩
  | point r =>
    obtain ⟨t, key, verb⟩ := r
    cases verb with
    | read fields =>
      cases v with
      | null =>
        cases h
        exact formed_notFound _ latency
      | object names =>
        cases h
        refine formed_found ?_ latency
        exact ⟨_, rfl⟩
      | _ => cases h
    | insert values | update values | delete =>
      obtain ⟨receipt, -, rfl⟩ := Option.map_eq_some_iff.1 h
      refine formed_verdict ?_ receipt _ _ latency
      rfl

/-- The outcome that a reply is taken for is well formed. -/
lemma formed_of_verdict {r : PlainRequest} {reply : Except DriverError Value}
    {f : Latency → Outcome} (h : r.verdict? reply = some f) (latency : Latency) :
    r.Formed (f latency) := by
  cases reply with
  | ok v => exact formed_of_outcome h latency
  | error e =>
    rw [verdict?] at h
    split at h
    · cases h
      exact formed_notFound r latency
    · split at h
      · cases h
        exact formed_failed r _ latency
      · cases h

/-- Objects are records. -/
lemma mapM_row? {vs : List Value} (h : ∀ w ∈ vs, ∃ fields, w = .object fields) :
    ∃ rows, vs.mapM Value.row? = some rows := by
  induction vs with
  | nil => exact ⟨[], rfl⟩
  | cons v vs ih =>
    obtain ⟨⟨fields, rfl⟩, hvs⟩ := List.forall_mem_cons.1 h
    obtain ⟨rows, hrows⟩ := ih hvs
    exact ⟨_, by rw [List.mapM_cons, hrows]; rfl⟩

/-- A reply that fits is taken for an outcome. -/
lemma Fits.verdict {r : PlainRequest} {reply : Except DriverError Value} (h : r.Fits reply) :
    ∃ f, r.verdict? reply = some f := by
  cases reply with
  | error e =>
    have he : e.inFamily = true := h
    rw [verdict?, if_pos he]
    split
    · exact ⟨_, rfl⟩
    · exact ⟨_, rfl⟩
  | ok v =>
    cases r with
    | range t start count fields =>
      obtain ⟨vs, rfl, hvs⟩ := h
      obtain ⟨rows, hrows⟩ := mapM_row? hvs
      refine ⟨.found (.records (rows.map (·.shown (.ofTexts fields)))), ?_⟩
      show (vs.mapM Value.row?).map _ = _
      rw [hrows]
      rfl
    | point r =>
      obtain ⟨t, key, verb⟩ := r
      cases verb with
      | read fields =>
        rcases h with rfl | ⟨names, rfl⟩
        · exact ⟨_, rfl⟩
        · exact ⟨_, rfl⟩
      | insert values | update values | delete =>
        obtain ⟨names, rfl⟩ := h
        exact ⟨_, rfl⟩

/-! ## Requests as queries -/

/-- For a read an error is a failure, unless it says that there is nothing to read. -/
lemma verdict?_of_read {r : PlainRequest} (h : r.isRead = true)
    (reply : Except DriverError Value) : r.verdict? reply = match reply with
      | .ok v => r.outcome? v
      | .error e =>
        if e.kind = .nonExistence then some .notFound
        else if e.inFamily then some (.failed e.message) else none := by
  cases reply with
  | ok v => rfl
  | error e => simp only [verdict?, h, true_and]

/-- For anything but a read an error is a failure. -/
lemma verdict?_of_not_read {r : PlainRequest} (h : r.isRead = false)
    (reply : Except DriverError Value) : r.verdict? reply = match reply with
      | .ok v => r.outcome? v
      | .error e => if e.inFamily then some (.failed e.message) else none := by
  cases reply with
  | ok v => rfl
  | error e => rw [verdict?, h, if_neg fun hn => nomatch hn.1]

lemma isPlain_updateDocument (values : Row) : (updateDocument values).row.value.IsPlain := by
  refine Row.isPlain_value fun name v h => ?_
  rw [Document.row, SortedMap.get?_map, Option.map_eq_some_iff] at h
  obtain ⟨text, -, rfl⟩ := h
  exact ⟨text, rfl⟩

lemma isPlain_insertedRow (key : String) (values : Row) :
    (insertedRow (.str key) values).value.IsPlain := by
  refine Row.isPlain_value fun name v h => ?_
  rw [insertedRow, SortedMap.get?_insert] at h
  split at h
  · cases h
    exact ⟨key, rfl⟩
  · rw [SortedMap.get?_map, Option.map_eq_some_iff] at h
    obtain ⟨w, -, rfl⟩ := h
    exact ⟨w.text, rfl⟩

lemma isPlain_names (fields : List String) : ∀ v ∈ FieldSet.names fields, v.IsPlain := by
  intro v hv
  obtain ⟨name, -, rfl⟩ := FieldSet.mem_names.1 hv
  exact Value.isPlain_str name

/-- The values that a plain request is about can be sent. -/
lemma isPlain_values (st : Settings) (r : PlainRequest) : ∀ v ∈ (r.call st).values, v.IsPlain := by
  have hstr := Value.isPlain_str
  cases r with
  | range t start count fields =>
    simp only [call, Call.values, List.forall_mem_cons]
    exact ⟨hstr t, hstr start, Value.isPlain_int count, isPlain_names fields⟩
  | point r =>
    obtain ⟨t, key, verb⟩ := r
    cases verb with
    | read fields =>
      simp only [call, Call.values, List.forall_mem_cons]
      exact ⟨hstr t, hstr key, isPlain_names fields⟩
    | insert values =>
      simp only [call, Call.values, List.forall_mem_cons]
      exact ⟨hstr t, isPlain_insertedRow key values, List.forall_mem_nil _⟩
    | update values =>
      simp only [call, Call.values, List.forall_mem_cons]
      exact ⟨hstr t, hstr key, isPlain_updateDocument values, List.forall_mem_nil _⟩
    | delete =>
      simp only [call, Call.values, List.forall_mem_cons]
      exact ⟨hstr t, hstr key, List.forall_mem_nil _⟩

/-- With a connection, an operation that is not decided without the client is one query, and comes
to what the reply is taken for. -/
lemma concludes_of_verdict {r : PlainRequest} {s : Session WireClient Server} {st : Settings}
    (hc : s.connected = true) (hs : s.settings = some st) (hr : r.shortcut? = none)
    {f : Latency → Outcome} (hf : r.verdict? s.reply = some f) :
    ∃ q, (r.call st).query.Sends q ∧
      Session.Concludes r.request.perform s (s.ticked.sent q) f := by
  have hv := isPlain_values st r
  cases r with
  | range t start count fields =>
    -- no shortcut was taken, so something is counted
    have hcount : 0 < count := by
      by_contra hn
      rw [shortcut?, if_pos (Int.not_lt.1 hn)] at hr
      cases hr
    have hn : 0 < (Count.int count).toInt := hcount
    refine (Session.scan_hinges hc hs (.str t) (.str start) fields hn).of_plain hv ?_
    rw [← hf, verdict?_of_not_read rfl]
    exact Session.outcome?_of_failing (Session.outcome?_between _ _ _ _ _ _) (fun _ => rfl)
      s.reply
  | point r =>
    obtain ⟨t, key, verb⟩ := r
    cases verb with
    | read fields =>
      -- that nothing exists is heard as null, which is taken for the same outcome
      refine (Session.read_hinges hc hs (.str t) (.str key) fields).of_plain hv ?_
      rw [Session.outcome?_get, ← hf, verdict?_of_read rfl]
      rfl
    | insert values =>
      have hkey : (Value.str key).isTruthy = true := by
        have hne : key ≠ "" := by
          rintro rfl
          cases hr
        simp [Value.isTruthy, hne]
      refine (Session.insert_hinges hc hs (.str t) (.str key) values hkey).of_plain hv ?_
      rw [← hf, verdict?_of_not_read rfl]
      exact Session.outcome?_of_failing (fun _ => rfl) (fun _ => rfl) s.reply
    | update values =>
      refine (Session.update_hinges hc hs (.str t) (.str key) values).of_plain hv ?_
      rw [← hf, verdict?_of_not_read rfl]
      exact Session.outcome?_of_failing (fun _ => rfl) (fun _ => rfl) s.reply
    | delete =>
      refine (Session.delete_hinges hc hs (.str t) (.str key)).of_plain hv ?_
      rw [← hf, verdict?_of_not_read rfl]
      exact Session.outcome?_of_failing (fun _ => rfl) (fun _ => rfl) s.reply

/-- What is decided without the client is well formed. -/
lemma formed_of_shortcut {r : PlainRequest} {o : Outcome} (h : r.shortcut? = some o) :
    r.Formed o := by
  rcases shortcut_cases h with ⟨t, values, rfl, rfl⟩ | ⟨t, start, count, fields, -, rfl, rfl⟩
  · exact formed_failed _ _ _
  · refine formed_found ?_ .zero
    exact ⟨_, rfl⟩

section Answered

variable {r : PlainRequest} {s : Session WireClient Server} {st : Settings}

/-- Without a connection an operation is refused. -/
lemma answered_of_unusable (r : PlainRequest) (hu : ¬s.Usable) :
    ∃ o t, r.request.perform s = .ok o t ∧ r.Answered s t o := by
  have hd : s.connected = false ∨ s.settings = none := by
    by_contra hn
    rw [not_or, Bool.not_eq_false, ← ne_eq, Option.ne_none_iff_isSome] at hn
    exact hu hn
  refine ⟨_, s, Session.perform_of_disconnected hd r.request, formed_failed r _ _, rfl, ?_, ?_,
    ?_, ?_⟩
  · exact fun _ => ⟨rfl, rfl⟩
  · exact fun _ hn => absurd hn hu
  · exact fun hn => absurd hn hu
  · exact fun hco hc => absurd ⟨hc, hco.settings hc⟩ hu

/-- An operation that is decided without the client is answered so. -/
lemma answered_of_shortcut (hc : s.connected = true) (hs : s.settings = some st) {o : Outcome}
    (hr : r.shortcut? = some o) :
    ∃ o t, r.request.perform s = .ok o t ∧ r.Answered s t o := by
  have hu : s.Usable := ⟨hc, Option.isSome_iff_exists.2 ⟨st, hs⟩⟩
  refine ⟨o, s, perform_of_shortcut hc hs hr, formed_of_shortcut hr, rfl, ?_, ?_, ?_, ?_⟩
  · exact fun hn => absurd hu hn
  · intro o' _ ho
    cases hr.symm.trans ho
    exact ⟨rfl, rfl⟩
  · exact fun _ hn => nomatch hr.symm.trans hn
  · exact fun _ _ hn => nomatch hr.symm.trans hn

/-- Any other operation is answered from the reply, if that fits. -/
lemma answered_of_fits (hc : s.connected = true) (hs : s.settings = some st)
    (hr : r.shortcut? = none) (h : r.Fits s.reply) :
    ∃ o t, r.request.perform s = .ok o t ∧ r.Answered s t o := by
  have hu : s.Usable := ⟨hc, Option.isSome_iff_exists.2 ⟨st, hs⟩⟩
  obtain ⟨f, hf⟩ := h.verdict
  obtain ⟨q, -, latency, t, ht, hb, hfar⟩ := concludes_of_verdict hc hs hr hf
  have htrace : t.far.trace = s.far.trace ++ if s.client.isOpen then [.query q] else [] := by
    rw [hfar]
    exact Session.sent_trace s.ticked q
  refine ⟨f latency, t, ht, formed_of_verdict hf latency, ?_, ?_, ?_, ?_, ?_⟩
  · exact hb.trans (Session.sent_toBackend s.ticked q)
  · exact fun hn => absurd hu hn
  · exact fun o' _ ho => nomatch hr.symm.trans ho
  · exact fun _ _ => ⟨q, f, latency, htrace, hf, rfl⟩
  · intro hco _ _
    rw [← hco.isOpen, hc] at htrace
    exact ⟨q, htrace⟩

end Answered

/-- Whatever fits is replied, an operation is answered: it returns, and nothing passes through. -/
theorem perform_answered (r : PlainRequest) (s : Session WireClient Server)
    (h : r.Fits s.reply) : ∃ o t, r.request.perform s = .ok o t ∧ r.Answered s t o := by
  -- first whether there is a connection, then whether it is needed
  by_cases hu : s.Usable
  · obtain ⟨st, hs⟩ := Option.isSome_iff_exists.1 hu.2
    cases hr : r.shortcut? with
    | some o => exact answered_of_shortcut hu.1 hs hr
    | none => exact answered_of_fits hu.1 hs hr h
  · exact answered_of_unusable r hu

/-- An insertion under a key that the server knows already is answered. -/
theorem perform_answered_duplicate :
    let st : Settings := ⟨⟨["localhost"], nofun⟩, 28015, .hard, "usertable", "ycsb", none, 10⟩
    let receipt : Value := .object
      [("inserted", .int 0), ("errors", .int 1), ("first_error", .str "Duplicate primary key")]
    let s : Session WireClient Server :=
      { Session.fresh .empty ⟨true⟩
          ⟨.empty, ⟨[], []⟩, .empty, .new [1], [], ⟨none, none, [.ok receipt], []⟩⟩
        with connected := true, settings := some st, host := some "localhost" }
    let r : PlainRequest := .point ⟨"usertable", "k", .insert .empty⟩
    r.Fits s.reply ∧ ∃ o t, r.request.perform s = .ok o t ∧ r.Answered s t o := by
  intro st receipt s r
  have h : r.Fits s.reply := ⟨_, rfl⟩
  exact ⟨h, perform_answered r s h⟩

end PlainRequest

end CrudBench
